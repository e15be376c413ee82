import Schemata.TypeFacts

set_option autoImplicit false

/-!
Facts about operations: which type defines what an object offers, under which name, what it is declared to
take and to give, and what it is for. An operation is known by its name and the type of the object that has it.
-/

namespace Schemata.OperationFacts

-- What most types define anew although every object has it.
def comparing : List String :=
  ["__eq__", "__ge__", "__getattribute__", "__gt__", "__hash__", "__le__", "__lt__", "__ne__", "__repr__"]

def altering : List String := ["__delattr__", "__setattr__"]

-- Types that define just these anew.
def comparedTypes : List String :=
  ["int", "float", "tuple", "frozenset", "code", Feature.operationType, Feature.hookType]

-- Types that have nothing of their own to make an object with.
def unmade : List String :=
  [Feature.operationType, Feature.hookType, Offer.getter, Offer.slot, "method_descriptor", "wrapper_descriptor"]

-- What a type of the core defines anew of that which every object has.
def redefined (typeName : String) : List String :=
  match typeName with
  | "NoneType" => ["__repr__"]
  | "bool" => ["__repr__"]
  | "function" => ["__repr__"]
  | "str" => "__str__" :: comparing
  | "list" => "__init__" :: comparing
  | "dict" => "__init__" :: comparing
  | "SimpleNamespace" => "__init__" :: altering ++ comparing
  | "method" => altering ++ comparing
  | "mappingproxy" => "__str__" :: comparing
  | "module" => ["__getattribute__", "__init__", "__repr__"] ++ altering
  | "type" => ["__getattribute__", "__init__", "__repr__"] ++ altering
  | "property" => ["__getattribute__", "__init__"]
  | typeName =>
    if comparedTypes.contains typeName then comparing
    else if unmade.contains typeName then ["__getattribute__", "__repr__"]
    else []

-- What records of all classes have from a type that theirs goes back to.
def inherited : List String := ["__post_init__", "__class_getitem__", "__init_subclass__"]

-- Whether a class of records prepares its fields in a way of its own.
def prepares (cls : RecordClass) : Bool := [RecordClass.object, .combinator, .fallback, .model].contains cls

-- Whether a type other than a class of records defines an operation.
def definesAsType (typeName operation : String) : Bool :=
  match typeName with
  | "object" => (Offer.find? Offer.ofObject operation).isSome
  | "BaseFields" => operation == "__post_init__"
  | "WithEnumSchema" => operation == "__post_init__"
  | "Generic" => ["__class_getitem__", "__init_subclass__"].contains operation
  | "FrozenDict" =>
    ["__getitem__", "__hash__", "__init__", "__iter__", "__len__", "__repr__", "_data", "_hash"].contains operation
  | "Mapping" => ["__contains__", "__eq__", "get", "items", "keys", "values"].contains operation
  | "Collection" => operation == "__subclasshook__"
  | "Iterable" => operation == "__class_getitem__"
  | "bool" =>
    ["__and__", "__new__", "__or__", "__rand__", "__repr__", "__ror__", "__rxor__", "__xor__"].contains operation
  | typeName =>
    !TypeFacts.isVocabulary typeName
      && ((Offer.find? (Offer.ofType? typeName) operation).isSome || (redefined typeName).contains operation
        || (operation == "__new__" && TypeFacts.isOfCore typeName && !unmade.contains typeName))

def defines (typeName operation : String) : Bool :=
  match RecordClass.ofName? typeName with
  | some cls =>
    if operation == "__post_init__" then prepares cls
    else (Offer.find? (Offer.ofRecord cls) operation).isSome && !inherited.contains operation
  | none => definesAsType typeName operation

-- What a word has from the vocabularies.
def isOfWords (operation : String) : Bool :=
  match Offer.find? Offer.ofWord operation with
  | some .procedure => true
  | some .typeProcedure => true
  | _ => false

/-- The name that an operation has itself. -/
def ownName (operation : String) : String :=
  match operation with
  | "_value_repr_" => "__repr__"
  | "_new_member_" => "__new__"
  | operation => operation

-- The nearest type that a type goes back to and that defines an operation.
def nearestDefiner? (typeName operation : String) : Option String :=
  (TypeFacts.lineage typeName).find? fun ancestor => defines ancestor operation

/-- The type that defines an operation of an object, or else of its type. -/
def definer (owner operation : String) : String :=
  if TypeFacts.isVocabulary owner && isOfWords operation then "Enum"
  else
    match nearestDefiner? owner (ownName operation) with
    | some found => found
    | none => (nearestDefiner? (TypeFacts.metatype owner) operation).getD owner

/-- The name of an operation with the type that it belongs to. -/
def qualifiedName (typeName owner operation : String) : String :=
  if typeName == Feature.operationType then
    match operation with
    | "maketrans" => "str." ++ operation
    | "__new__" => definer owner operation ++ "." ++ operation
    | "_new_member_" => definer owner operation ++ "." ++ ownName operation
    | operation => owner ++ "." ++ operation
  else definer owner operation ++ "." ++ ownName operation

def purpose? (operation : String) : Option String :=
  match operation with
  | "get_definition" => some "Look up a definition by its table key."
  | "to_dict" => some "Convert config to a dictionary."
  | "from_dict" => some "Create a config from a dictionary."
  | _ => none

-- Operations of the core that nothing is told of.
def undescribed (owner : String) : List String :=
  match owner with
  | "bool" => ["__format__", "__getnewargs__"]
  | "int" => ["__format__", "__getnewargs__"]
  | _ => if unmade.contains owner then ["__reduce__"] else ["__getnewargs__"]

-- Operations that are defined like a function and described by the type that they come from.
def describedElsewhere : List String :=
  ["__dir__", "_generate_next_value_", "__class_getitem__", "get", "items", "keys", "values"]

/-- Whether something is told of an operation that is not of the library. -/
def isDescribed (typeName owner operation : String) : Bool :=
  if typeName == Feature.operationType then !(undescribed owner).contains operation
  else
    describedElsewhere.contains operation
      && (TypeFacts.isVocabulary owner || owner == Shape.frozen.typeName || operation == "__class_getitem__")

-- What is given back by what a class of records defines for its objects.
def result? (operation : String) : Option (List (String × String)) :=
  match operation with
  | "get_property" => some [("name", "str"), ("return", "ObjectProperty | None")]
  | "get_definition" => some [("name", "str"), ("return", "Schema | None")]
  | "to_dict" => some [("return", "dict")]
  | "from_dict" => some [("d", "dict"), ("return", "ModelConfig")]
  | _ => none

-- The same for frozen tables.
def frozenResult? (operation : String) : Option (List (String × String)) :=
  match operation with
  | "__getitem__" => some [("key", "str"), ("return", "Any")]
  | "__iter__" => some [("return", "Iterator[str]")]
  | "__len__" => some [("return", "int")]
  | "__hash__" => some [("return", "int")]
  | "__repr__" => some [("return", "str")]
  | "__init__" => some [("data", "Mapping[str, Any] | None")]
  | _ => none

/-- What an operation that is defined like a function is declared to take and to give. -/
def declarations (owner operation : String) : Value :=
  match RecordClass.ofName? owner, operation with
  | some cls, "__init__" =>
    .table none (underTexts
      (cls.fields.map (fun field => (field, .text (TypeFacts.declaredType field))) ++ [("return", .null)]))
  | some _, operation => TypeFacts.textTable ((result? operation).getD [])
  | none, operation =>
    if owner == Shape.frozen.typeName then TypeFacts.textTable ((frozenResult? operation).getD [])
    else TypeFacts.textTable []

-- The defaults of the fields of a class, in the order of the fields.
def fieldDefaults (cls : RecordClass) : List (String × Value) :=
  match cls with
  | .settings => Value.settingsDefaults
  | cls =>
    (cls.fields.filter fun field => !cls.mandatory.contains field).map fun field =>
      (field, if ["examples", "properties", "sub_schemas"].contains field then .tuple none [] else .null)

-- Whether the fields of a class are all given by name.
def takesNames (cls : RecordClass) : Bool := cls != .settings && !(fieldDefaults cls).isEmpty

/-- The defaults of what is given by position, and of what is given by name. -/
def defaults? (owner operation : String) (byName : Bool) : Option Value :=
  match RecordClass.ofName? owner, operation with
  | some cls, "__init__" =>
    if takesNames cls then
      if byName then some (.table none (underTexts (fieldDefaults cls))) else none
    else if cls == .settings && !byName then some (.tuple none ((fieldDefaults cls).map Prod.snd))
    else none
  | none, operation =>
    if owner == Shape.frozen.typeName && ["__init__", "get"].contains operation && !byName then
      some (.tuple none [.null])
    else none
  | _, _ => none

/-- Whether an operation stands before another one that does its work. -/
def isWrapped (owner operation : String) : Bool :=
  (RecordClass.ofName? owner).isSome && ["__repr__", "__class_getitem__"].contains operation

/-- Whether an operation keeps something from where it was defined. -/
def keepsSurroundings (owner operation : String) : Bool :=
  match RecordClass.ofName? owner, operation with
  | none, _ => false
  | some cls, "__init__" => cls != .settings
  | some cls, "__post_init__" =>
    [RecordClass.object, .combinator].contains cls || definer cls.name operation == "WithEnumSchema"
  | some _, operation => ["__repr__", "__class_getitem__", "__init_subclass__"].contains operation
      || altering.contains operation

-- What it takes is not told of these, whatever the type.
def unsigned : List String := ["__class_getitem__", "__init_subclass__", "__prepare__", "__subclasshook__"]

/-- Whether what an operation of the core takes is not told. -/
def isUnsigned (owner operation : String) : Bool :=
  unsigned.contains operation ||
    match owner with
    | "bool" => ["__ceil__", "__floor__", "__trunc__", "conjugate"].contains operation
    | "int" => ["__ceil__", "__floor__", "__trunc__", "conjugate"].contains operation
    | "SimpleNamespace" => operation == "__reduce__"
    | "dict" =>
      ["__getitem__", "__sizeof__", "clear", "copy", "items", "keys", "update", "values"].contains operation
    | "list" => operation == "__getitem__"
    | "frozenset" =>
      ["__contains__", "__reduce__", "__sizeof__", "copy", "difference", "intersection", "isdisjoint",
        "symmetric_difference", "union"].contains operation
    | owner =>
      if owner == "str" || TypeFacts.isVocabulary owner then
        ["__getnewargs__", "count", "endswith", "find", "format", "format_map", "index", "rfind", "rindex",
          "startswith"].contains operation
      else unmade.contains owner && operation == "__reduce__"

end Schemata.OperationFacts
