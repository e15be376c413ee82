import Schemata.Build
import Schemata.Collect

set_option autoImplicit false

/-!
Records made from named arguments. A record refuses a name that is none of its fields before it asks
for the mandatory fields that are absent; everything else has a default. Fields are taken as they
are, but a field that is kept as a tuple takes the elements of whatever is given for it.
-/

namespace Schemata

abbrev Arguments := List (String × Value)

namespace Arguments

def getD (args : Arguments) (field : String) (default : Value) : Value := (args.lookup field).getD default

def get (args : Arguments) (field : String) : Value := args.getD field .null

-- An argument that is iterated over, nothing when it is left out.
def iterable (args : Arguments) (field : String) : Value := args.getD field (.tuple none [])

def elements (args : Arguments) (field : String) : Except Fault (List Value) := (args.iterable field).elements

def tuple (args : Arguments) (field : String) : Except Fault Value := (args.iterable field).toTuple

def labels (args : Arguments) : Except Fault Labels := do
  let examples ← args.elements "examples"
  Value.checkItems examples
  return .of (args.get "title") (args.get "description") examples

def enum (args : Arguments) : Except Fault Value :=
  match args.get "enum" with
  | .scalar .null => .ok .null
  | value => value.toTuple

def bounds (args : Arguments) : Bounds :=
  { minimum := args.get "minimum", maximum := args.get "maximum",
    exclusiveMinimum := args.get "exclusive_minimum",
    exclusiveMaximum := args.get "exclusive_maximum", multipleOf := args.get "multiple_of" }

def unexpected? (args : Arguments) (parameters : List String) : Option String :=
  (args.find? fun arg => !parameters.contains arg.1).map Prod.fst

end Arguments

namespace RecordClass

def initializer (cls : RecordClass) : String := cls.name ++ ".__init__"

def accepts (cls : RecordClass) (args : Arguments) : Except Fault Unit :=
  match args.unexpected? cls.fields with
  | some name => .error (.unexpectedArgument cls.initializer name)
  | none =>
    match cls.mandatory.filter fun field => (args.lookup field).isNone with
    | [] => .ok ()
    | absent => .error (.missingArguments cls.initializer cls.byNameOnly absent)

-- The record whose fields are all known and whose mandatory fields are present.
def assemble (cls : RecordClass) (args : Arguments) : Except Fault Value := do
  match cls with
  | .object =>
    return .schema none (.object (← args.labels) (← args.tuple "properties")
      (args.get "min_properties") (args.get "max_properties"))
  | .array =>
    return .schema none (.array (← args.labels) (args.get "items") (args.get "min_items") (args.get "max_items"))
  | .string =>
    return .schema none (.string (← args.labels) (← args.enum) (args.get "min_length")
      (args.get "max_length") (args.get "pattern") (args.get "format"))
  | .integer => return .schema none (.integer (← args.labels) (← args.enum) args.bounds)
  | .number => return .schema none (.number (← args.labels) (← args.enum) args.bounds)
  | .boolean => return .schema none (.boolean (← args.labels) (← args.enum))
  | .null => return .schema none (.null (← args.labels))
  | .ref => return .schema none (.ref (← args.labels) (args.get "ref"))
  | .combinator => return .combinator none ⟨← args.labels, ← args.tuple "sub_schemas"⟩
  | .oneOf => return .schema none (.combined .oneOf (args.get "combinator"))
  | .anyOf => return .schema none (.combined .anyOf (args.get "combinator"))
  | .allOf => return .schema none (.combined .allOf (args.get "combinator"))
  | .fallback => do
    (args.get "value").checkCopy
    return .schema none (.carrying (args.get "value"))
  | .requiredProperty => return .property none ⟨true, args.get "name", args.get "schema"⟩
  | .optionalProperty => return .property none ⟨false, args.get "name", args.get "schema"⟩
  | .customFormat => return .customFormat none (args.get "name")
  | .model => return .model none ⟨← (args.get "definitions").toEntries, args.get "root"⟩
  | .settings =>
    return .settings none (Value.settingsFields args)

def construct (cls : RecordClass) (args : Arguments) : Except Fault Value := do
  cls.accepts args
  cls.assemble args

end RecordClass
end Schemata
