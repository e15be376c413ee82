import Schemata.Form.Obstacle
import Schemata.Read
import Schemata.Text.Token

set_option autoImplicit false

/-!
Questions about one node: its kind, its title, the record that holds its labels, its children with
their pointer segments, and its properties by name. The kind is total on `Schema`; what else a
question needs is read from the fields, and a field that does not have it is a fault. A kind is a word,
and what it has for its value is taken where the word is printed.
-/

namespace Schemata

/-- What each kind has for its value. -/
abbrev KindWords := SchemaKind → Value

/-- The values that the kinds were made with. -/
def ownWords : KindWords := fun kind => .text kind.text

-- The fault of a value that is taken for a node and is none, or is not shown.
def Value.refuseNode (value : Value) : Fault :=
  match value with
  | .elsewhere _ shape => if shape.isSchema then .unseen else value.outside
  | value => value.outside

def Value.toSchema : Value → Except Fault Schema
  | .schema _ s => .ok s
  | value => .error value.refuseNode

/-- The keyword of a known format, or the name of a custom one. -/
def Value.formatName : Value → Except Fault Value
  | .scalar (.keyword (.format format)) => .ok (.text format.text)
  | .customFormat _ name => .ok name
  | .elsewhere handle shape =>
    .error (if shape = .record .customFormat then .unseen else Value.outside (.elsewhere handle shape))
  | value => .error value.outside

namespace Schema

def kind : Schema → SchemaKind
  | .object .. => .object
  | .array .. => .array
  | .string .. => .string
  | .integer .. => .integer
  | .number .. => .number
  | .boolean .. => .boolean
  | .null .. => .null
  | .ref .. => .ref
  | .combined mode _ => mode.kind
  | .fallback _ => .fallback

/-- A combination has the labels of its combinator; a fallback has none. -/
def labels? : Schema → Option Labels
  | .object labels .. => some labels
  | .array labels .. => some labels
  | .string labels .. => some labels
  | .integer labels .. => some labels
  | .number labels .. => some labels
  | .boolean labels .. => some labels
  | .null labels => some labels
  | .ref labels _ => some labels
  | .combined _ (.combinator _ c) => some c.labels
  | .combined .. => none
  | .fallback _ => none

/-- The title, null where there is none; a combination shows the one of its combinator. -/
def title : Schema → Except Fault Value
  | .combined _ combinator => combinator.attribute "title"
  | s => .ok ((s.labels?.map Labels.title).getD .null)

end Schema

/-- What holds a node's labels: the node itself, or the combinator that it shares. -/
inductive Base where
  | own (s : Schema)
  | shared (combinator : Value)

def Base.value : Base → Value
  | .own s => .schema none s
  | .shared combinator => combinator

inductive Step where
  | property (name : String)
  | items
  | branch (mode : Mode) (index : Nat)
deriving DecidableEq

def Step.segment (step : Step) (words : KindWords := ownWords) : String :=
  match step with
  | .property name => "properties/" ++ Text.escapeToken name
  | .items => "items"
  | .branch mode index => (words mode.kind).print ++ "/" ++ toString index

-- The alternatives of a combination, numbered from a start.
def branches (mode : Mode) (start : Nat) : List Value → List (Step × Value)
  | [] => []
  | value :: rest => (.branch mode start, value) :: branches mode (start + 1) rest

-- The alternatives of a combination, if the word for it can be printed with each of them.
def printedBranches (words : KindWords) (mode : Mode) (values : List Value) : Except Fault (List (Step × Value)) :=
  if values.isEmpty then .ok [] else (words mode.kind).printed.map fun _ => branches mode 0 values

def propertyChild (property : Value) : Except Fault (Step × Value) := do
  let name ← property.attribute "name"
  let token ← name.textFor "replace"
  let schema ← property.attribute "schema"
  return (.property token, schema)

namespace Schema

def base? : Schema → Option Base
  | .combined _ combinator => some (.shared combinator)
  | .fallback _ => none
  | s => some (.own s)

/-- The direct children in document order. -/
def children (s : Schema) (words : KindWords := ownWords) : Except Fault (List (Step × Value)) :=
  match s with
  | .object _ properties _ _ => do (← properties.items).mapM propertyChild
  | .array _ (.scalar .null) _ _ => .ok []
  | .array _ items _ _ => .ok [(.items, items)]
  | .combined mode combinator => do
    let alternatives ← combinator.attribute "sub_schemas"
    printedBranches words mode (← alternatives.elements)
  | _ => .ok []

def properties : Schema → Except Fault (List Value)
  | .object _ properties _ _ => properties.items
  | _ => .ok []

def property? (s : Schema) (name : Value) : Except Fault (Option Value) := do
  (← s.properties).findM? fun property => do
    let other ← property.attribute "name"
    other.equals name

end Schema

def Model.definitionNames (m : Model) : List Value := m.definitions.map Prod.fst

/-- The definition under a name, which has to have a fingerprint. -/
def Model.definition? (m : Model) (name : Value) : Except Fault (Option Value) :=
  name.checkHashable.map fun _ => m.definitions.lookup name

namespace Value

def propertyNamed (value name : Value) : Except Fault (Option Value) :=
  match value with
  | .schema _ s => s.property? name
  | value => .error (value.refuseCall "get_property")

def definitionNamed (value name : Value) : Except Fault (Option Value) :=
  match value with
  | .model _ m => m.definition? name
  | value => .error (value.refuseCall "get_definition")

end Value

end Schemata
