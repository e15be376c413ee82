import Schemata.Construct

set_option autoImplicit false

/-!
The builders by name, applied to named arguments. Most of them pass their arguments to a record as
they are. The builders of objects and of documents order and split what they are given: arguments of
the declared sorts go to `Schema.build` and `Model.build`, anything else is taken as far as it goes.
-/

namespace Schemata

inductive Builder where
  | object | array | integer | number | string | boolean | null | reference | combinator
  | oneOf | anyOf | allOf | fallback | model | stringFormat
deriving DecidableEq

namespace Arguments

-- The settings of a builder; nothing and its like mean the defaults.
def settings (args : Arguments) : Except Fault Value := do
  return if ← (args.get "config").truth then args.get "config" else Config.toSettings {}

def config? (args : Arguments) : Option Config := Config.ofValue? (args.get "config")

def mapping (args : Arguments) (field : String) : Value := args.getD field (.table none [])

def textMapping? (args : Arguments) (field : String) : Option (List (String × Value)) :=
  (args.mapping field).entries?.bind textKeyed?

def requiredNames? (args : Arguments) : Option (List String) :=
  (args.iterable "required").elements?.bind fun names => names.mapM Value.text?

-- The keys of what is given for a mapping, in the order that the settings ask for.
def orderedKeys (args : Arguments) (settings : Value) (field : String) : Except Fault (List Value) := do
  let keyOrder ← settings.attribute Config.keyOrderKey
  let keys ← (args.mapping field).elements
  match Config.orderOf keyOrder with
  | .sorted => Value.sorted keys
  | .insertion => return keys

-- The property under a key, which is required when it is a member of `required`.
def splitProperty (args : Arguments) (required : List Value) (key : Value) : Except Fault Value := do
  key.checkHashable
  let schema ← (args.mapping "properties").subscript key
  return .property none ⟨key.isMember required, key, schema⟩

-- The warning about required names that are no keys, in order.
def absentWarning (args : Arguments) (settings : Value) (absent : List Value) : Except Fault (List Event) := do
  if absent.isEmpty then return []
  match Config.policyOf (← settings.attribute Config.missingRequiredKey) with
  | .warn => return [.undefinedRequired (args.get "title") (← Value.textsFrom 0 absent)]
  | .ignore => return []

-- The properties of an object and the events on the way to them, from arguments of any sort.
def splitProperties (args : Arguments) : Except Fault (Reported (List Value)) := do
  let settings ← args.settings
  let required ← Value.distinct (← args.elements "required")
  let keys ← args.orderedKeys settings "properties"
  let properties ← keys.mapM (args.splitProperty required)
  let absent ← Value.sorted
    (Value.absentFrom (args.iterable "required") (args.mapping "properties") required keys)
  return { value := properties, events := ← args.absentWarning settings absent }

def objectOfAny (args : Arguments) : Reported (Except Fault Value) :=
  match args.splitProperties with
  | .error fault => { value := .error fault }
  | .ok split =>
    { value := args.labels.map fun labels =>
        .schema none
          (.object labels (.tuple none split.value) (args.get "min_properties") (args.get "max_properties")),
      events := split.events }

def modelOfAny (args : Arguments) : Except Fault Value := do
  let keys ← args.orderedKeys (← args.settings) "definitions"
  let definitions ← keys.foldlM (fun entries key => do
    let definition ← (args.mapping "definitions").subscript key
    Value.putKey key definition entries) []
  return .model none ⟨definitions, args.get "root"⟩

/-- An object schema from arguments; the warning comes before a fault of the labels. -/
def objectSchema (args : Arguments) : Reported (Except Fault Value) :=
  match args.textMapping? "properties", args.requiredNames?, args.config?, args.labels with
  | some entries, some required, some config, .ok labels =>
    let built := Schema.build labels entries required (args.get "min_properties")
      (args.get "max_properties") config
    { value := .ok (.schema none built.value), events := built.events }
  | _, _, _, _ => args.objectOfAny

def modelDocument (args : Arguments) : Except Fault Value :=
  match args.textMapping? "definitions", args.config? with
  | some entries, some config => .ok (.model none (.build entries (args.get "root") config))
  | _, _ => args.modelOfAny

end Arguments

namespace Builder

def all : List Builder :=
  [.object, .array, .integer, .number, .string, .boolean, .null, .reference, .combinator, .oneOf,
   .anyOf, .allOf, .fallback, .model, .stringFormat]

def name : Builder → String
  | .object => "object_schema"
  | .array => "array_schema"
  | .integer => "integer_schema"
  | .number => "number_schema"
  | .string => "string_schema"
  | .boolean => "boolean_schema"
  | .null => "null_schema"
  | .reference => "reference_schema"
  | .combinator => "base_combinator_schema"
  | .oneOf => "one_of"
  | .anyOf => "any_of"
  | .allOf => "all_of"
  | .fallback => "fallback"
  | .model => "model"
  | .stringFormat => "string_format"

def ofName? (name : String) : Option Builder := all.find? fun builder => builder.name == name

def recordClass : Builder → RecordClass
  | .object => .object
  | .array => .array
  | .integer => .integer
  | .number => .number
  | .string => .string
  | .boolean => .boolean
  | .null => .null
  | .reference => .ref
  | .combinator => .combinator
  | .oneOf => .oneOf
  | .anyOf => .anyOf
  | .allOf => .allOf
  | .fallback => .fallback
  | .model => .model
  | .stringFormat => .customFormat

def parameters (builder : Builder) : List String :=
  match builder with
  | .object => "required" :: "config" :: builder.recordClass.fields
  | .model => "config" :: builder.recordClass.fields
  | builder => builder.recordClass.fields

def apply (builder : Builder) (args : Arguments) : Reported (Except Fault Value) :=
  match args.unexpected? builder.parameters with
  | some name => { value := .error (.unexpectedArgument builder.name name) }
  | none =>
    match builder with
    | .object => args.objectSchema
    | .model => { value := args.modelDocument }
    | .stringFormat => { value := formatNamed (args.get "name") }
    | .reference => { value := RecordClass.ref.assemble (("ref", args.getD "ref" (.text "")) :: args) }
    | builder => { value := builder.recordClass.assemble args }

end Builder
end Schemata
