import Schemata.Config
import Schemata.Event
import Schemata.Freeze

set_option autoImplicit false

/-!
Builders. Every builder is total: it assembles a node from its parts and judges nothing. Examples
and fallback values are frozen, so a built node holds nothing that can be edited later.
-/

namespace Schemata

def Labels.of (title description : Value) (examples : List Value) : Labels :=
  ⟨title, description, examples.map Value.freeze⟩

/-- A fragment that is carried along without being modelled. -/
def Schema.carrying (value : Value) : Schema := .fallback value.freeze

def Property.split (required : List String) (entries : List (String × Value)) : List Property :=
  entries.map fun entry => ⟨required.contains entry.1, .text entry.1, entry.2⟩

/-- The required names that are no keys, each once, in ascending order. -/
def undefinedNames (required : List String) (entries : List (String × Value)) : List String :=
  ((required.filter fun name => (entries.lookup name).isNone).eraseDups).mergeSort fun a b => decide (a ≤ b)

def Schema.ofEntries (labels : Labels) (entries : List (String × Value)) (required : List String)
    (minProperties maxProperties : Value) (config : Config) : Schema :=
  .object labels (.tuple none ((Property.split required (config.order entries)).map (.property none)))
    minProperties maxProperties

/-- The warning about required names without a property, where the configuration asks for one. -/
def undefinedWarning (config : Config) (title : Value) (required : List String)
    (entries : List (String × Value)) : List Event :=
  match config.missingRequired, undefinedNames required entries with
  | .warn, name :: names => [.undefinedRequired title (name :: names)]
  | _, _ => []

def Schema.build (labels : Labels) (entries : List (String × Value)) (required : List String)
    (minProperties maxProperties : Value) (config : Config) : Reported Schema :=
  { value := .ofEntries labels entries required minProperties maxProperties config,
    events := undefinedWarning config labels.title required entries }

def Model.build (definitions : List (String × Value)) (root : Value) (config : Config) : Model :=
  ⟨underTexts (config.order definitions), root⟩

/-- The format that a value names, or a custom one. -/
def formatNamed (name : Value) : Except Fault Value :=
  match name.text?.bind StringFormat.ofText?, name.refuseLookup? with
  | some format, _ => .ok (.keyword (.format format))
  | none, some fault => .error fault
  | none, none => .ok (.customFormat none name)

end Schemata
