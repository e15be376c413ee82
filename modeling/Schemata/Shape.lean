set_option autoImplicit false

/-!
The sorts of objects: containers, and records by class. A class has a name and its fields in the
order in which they are shown.
-/

namespace Schemata

inductive RecordClass where
  | object | array | string | integer | number | boolean | null | ref | combinator
  | oneOf | anyOf | allOf | fallback | requiredProperty | optionalProperty | customFormat
  | model | settings
deriving DecidableEq

namespace RecordClass

def all : List RecordClass :=
  [.object, .array, .string, .integer, .number, .boolean, .null, .ref, .combinator, .oneOf, .anyOf,
   .allOf, .fallback, .requiredProperty, .optionalProperty, .customFormat, .model, .settings]

def name : RecordClass → String
  | .object => "ObjectSchema"
  | .array => "ArraySchema"
  | .string => "StringSchema"
  | .integer => "IntegerSchema"
  | .number => "NumberSchema"
  | .boolean => "BooleanSchema"
  | .null => "NullSchema"
  | .ref => "RefSchema"
  | .combinator => "CombinatorSchema"
  | .oneOf => "OneOf"
  | .anyOf => "AnyOf"
  | .allOf => "AllOf"
  | .fallback => "Fallback"
  | .requiredProperty => "RequiredProperty"
  | .optionalProperty => "OptionalProperty"
  | .customFormat => "CustomFormat"
  | .model => "Model"
  | .settings => "ModelConfig"

def ofName? (name : String) : Option RecordClass := all.find? fun cls => cls.name == name

def labelFields : List String := ["title", "description", "examples"]

def numericFields : List String :=
  labelFields ++ ["enum", "minimum", "maximum", "exclusive_minimum", "exclusive_maximum", "multiple_of"]

def fields : RecordClass → List String
  | .object => labelFields ++ ["properties", "min_properties", "max_properties"]
  | .array => labelFields ++ ["items", "min_items", "max_items"]
  | .string => labelFields ++ ["enum", "min_length", "max_length", "pattern", "format"]
  | .integer => numericFields
  | .number => numericFields
  | .boolean => labelFields ++ ["enum"]
  | .null => labelFields
  | .ref => labelFields ++ ["ref"]
  | .combinator => labelFields ++ ["sub_schemas"]
  | .oneOf => ["combinator"]
  | .anyOf => ["combinator"]
  | .allOf => ["combinator"]
  | .fallback => ["value"]
  | .requiredProperty => ["name", "schema"]
  | .optionalProperty => ["name", "schema"]
  | .customFormat => ["name"]
  | .model => ["definitions", "root"]
  | .settings => ["key_order", "missing_required"]

def mandatory : RecordClass → List String
  | .ref => ["ref"]
  | .oneOf => ["combinator"]
  | .anyOf => ["combinator"]
  | .allOf => ["combinator"]
  | .fallback => ["value"]
  | .requiredProperty => ["name", "schema"]
  | .optionalProperty => ["name", "schema"]
  | .customFormat => ["name"]
  | .model => ["definitions", "root"]
  | _ => []

-- Whether the mandatory fields are given by name only.
def byNameOnly : RecordClass → Bool
  | .ref => true
  | _ => false

end RecordClass

/-- What an object is, apart from its contents. -/
inductive Shape where
  | list | tuple | table | frozen | holder
  | record (cls : RecordClass)
deriving DecidableEq

namespace Shape

def typeName : Shape → String
  | .list => "list"
  | .tuple => "tuple"
  | .table => "dict"
  | .frozen => "FrozenDict"
  | .holder => "SimpleNamespace"
  | .record cls => cls.name

/-- The name with the place where it is defined, if that is not the library or the core. -/
def qualifiedName : Shape → String
  | .holder => "types." ++ Shape.holder.typeName
  | shape => shape.typeName

/-- Lists, tables, settings and holders can be edited. -/
def isEditable : Shape → Bool
  | .list => true
  | .table => true
  | .holder => true
  | .record .settings => true
  | _ => false

/-- A frozen table takes no entries, but it can be given another table to show. Anything else that cannot
be edited never changes. -/
def canChange (shape : Shape) : Bool := shape.isEditable || shape == .frozen

def isSchema : Shape → Bool
  | .record .combinator => false
  | .record .requiredProperty => false
  | .record .optionalProperty => false
  | .record .customFormat => false
  | .record .model => false
  | .record .settings => false
  | .record _ => true
  | _ => false

end Shape

end Schemata
