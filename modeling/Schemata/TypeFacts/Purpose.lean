import Schemata.TypeFacts.Lineage

set_option autoImplicit false

/-!
What types declare of their fields, and what they are for.
-/

namespace Schemata.TypeFacts

def declaredType : String → String
  | "title" => "str | None"
  | "description" => "str | None"
  | "examples" => "tuple[Any, ...]"
  | "enum" => "tuple[P, ...] | None"
  | "properties" => "tuple[ObjectProperty, ...]"
  | "sub_schemas" => "tuple[Schema, ...]"
  | "items" => "Schema | None"
  | "pattern" => "str | None"
  | "format" => "Format | None"
  | "ref" => "str"
  | "name" => "str"
  | "schema" => "Schema"
  | "is_required" => "ClassVar[bool]"
  | "combinator" => "CombinatorSchema"
  | "value" => "Any"
  | "definitions" => "Mapping[str, Schema]"
  | "root" => "Schema"
  | "key_order" => "KeyOrder"
  | "missing_required" => "MissingRequiredPolicy"
  | field => if RecordClass.numericFields.contains field then "N | None" else "int | None"

-- The fields that a type declares besides those of its parents.
def declaredFields (typeName : String) : List String :=
  match RecordClass.ofName? typeName with
  | some .requiredProperty => RecordClass.requiredProperty.fields ++ ["is_required"]
  | some .optionalProperty => RecordClass.optionalProperty.fields ++ ["is_required"]
  | some cls => cls.fields.filter fun field => !RecordClass.numericFields.contains field
  | none =>
    match typeName with
    | "BaseFields" => RecordClass.labelFields
    | "WithEnumSchema" => ["enum"]
    | "BaseNumberSchema" => RecordClass.numericFields.drop (RecordClass.labelFields.length + 1)
    | "_CombinatorFields" => RecordClass.oneOf.fields
    | _ => []

-- Names with texts, as a table.
def textTable (entries : List (String × String)) : Value :=
  .table none (underTexts (entries.map fun entry => (entry.1, .text entry.2)))

/-- The declarations of a type, its own only. -/
def declarations (typeName : String) : Value :=
  textTable ((declaredFields typeName).map fun field => (field, declaredType field))

-- The declarations that an object of a type sees: those of the nearest type that has any.
def seenDeclarations (typeName : String) : Value :=
  declarations (((lineage typeName).find? fun ancestor => !(declaredFields ancestor).isEmpty).getD typeName)

def signature (cls : RecordClass) : String :=
  let mandatory := cls.mandatory
  let parameter (field : String) : String :=
    field ++ ": '" ++ declaredType field ++ "'"
      ++ (if mandatory.contains field then "" else if field == "examples" then " = ()" else " = None")
  cls.name ++ "(" ++ (if mandatory.isEmpty then "*, " else "") ++ ", ".intercalate (cls.fields.map parameter) ++ ")"

-- A text of several lines with blanks before all but the first.
def indented (lines : List String) : String := "\n    ".intercalate lines

-- What a type of the core is for, line by line.
def corePurpose : String → List String
  | "bool" =>
    ["bool(x) -> bool",
     "",
     "Returns True when the argument x is true, False otherwise.",
     "The builtins True and False are the only two instances of the class bool.",
     "The class bool is a subclass of the class int, and cannot be subclassed."]
  | "int" =>
    ["int([x]) -> integer",
     "int(x, base=10) -> integer",
     "",
     "Convert a number or string to an integer, or return 0 if no arguments",
     "are given.  If x is a number, return x.__int__().  For floating point",
     "numbers, this truncates towards zero.",
     "",
     "If x is not a number or if base is given, then x must be a string,",
     "bytes, or bytearray instance representing an integer literal in the",
     "given base.  The literal can be preceded by '+' or '-' and be surrounded",
     "by whitespace.  The base defaults to 10.  Valid bases are 0 and 2-36.",
     "Base 0 means to interpret the base from the string as an integer literal.",
     ">>> int('0b100', base=0)",
     "4"]
  | "float" =>
    ["Convert a string or number to a floating point number, if possible."]
  | "str" =>
    ["str(object='') -> str",
     "str(bytes_or_buffer[, encoding[, errors]]) -> str",
     "",
     "Create a new string object from the given object. If encoding or",
     "errors is specified, then the object must expose a data buffer",
     "that will be decoded using the given encoding and error handler.",
     "Otherwise, returns the result of object.__str__() (if defined)",
     "or repr(object).",
     "encoding defaults to sys.getdefaultencoding().",
     "errors defaults to 'strict'."]
  | "list" =>
    ["Built-in mutable sequence.",
     "",
     "If no argument is given, the constructor creates a new empty list.",
     "The argument must be an iterable if specified."]
  | "tuple" =>
    ["Built-in immutable sequence.",
     "",
     "If no argument is given, the constructor returns an empty tuple.",
     "If iterable is specified the tuple is initialized from iterable's items.",
     "",
     "If the argument is a tuple, the return value is the same object."]
  | "dict" =>
    ["dict() -> new empty dictionary",
     "dict(mapping) -> new dictionary initialized from a mapping object's",
     "    (key, value) pairs",
     "dict(iterable) -> new dictionary initialized as if via:",
     "    d = \x7b\x7d",
     "    for k, v in iterable:",
     "        d[k] = v",
     "dict(**kwargs) -> new dictionary initialized with the name=value pairs",
     "    in the keyword argument list.  For example:  dict(one=1, two=2)"]
  | "SimpleNamespace" =>
    ["A simple attribute-based namespace.",
     "",
     "SimpleNamespace(**kwargs)"]
  | _ => []

def recordPurpose : RecordClass → String
  | .object => "An object schema with its properties already split into required/optional."
  | .ref => "A reference token, kept verbatim. Nothing here resolves it."
  | .combinator => "Record shape shared by oneOf, anyOf and allOf."
  | .fallback =>
    indented ["", "An unmodeled schema fragment carried verbatim.\n",
      "Has no base fields. Encoders re-emit \x60\x60thaw(value)\x60\x60 unchanged.", ""]
  | .customFormat => "A format outside the built-in set (validator specific or newer drafts)."
  | .model => "A complete schema document: the root schema plus its named definitions."
  | .settings => "Configuration options for model construction."
  | cls => signature cls

def purpose? (typeName : String) : Option String :=
  match RecordClass.ofName? typeName with
  | some cls => some (recordPurpose cls)
  | none =>
    match typeName with
    | "FrozenDict" => some "A read-only, hashable mapping preserving insertion order."
    | "SchemaKind" => some "JSON Schema keyword identifying each variant."
    | "StringFormat" => some "Built-in string formats."
    | "KeyOrder" => some "Order of object properties and definitions after construction."
    | "MissingRequiredPolicy" =>
      some (indented ["What to do with a required name that has no matching property.\n",
        "The name is dropped in every case; construction never fails.", ""])
    | "BaseFields" => some "Fields carried by every modeled schema kind."
    | "WithEnumSchema" => some "Adds an optional list of allowed primitive values."
    | "BaseNumberSchema" => some "Range constraints shared by integer and number schemas."
    | "_CombinatorFields" => some "Read-through access to the wrapped combinator record."
    | typeName =>
      match corePurpose typeName with
      | [] => none
      | lines => some ("\n".intercalate lines)

end Schemata.TypeFacts
