import Schemata.Text.Split
import Schemata.Value

set_option autoImplicit false

/-!
What types offer beside the contents of their objects: operations, what the objects of a type have in
common, and what every object knows of itself. Nothing is done with these, so of each it is known under
which names it is found and what it is, as seen from an object and as seen from the type.
-/

namespace Schemata

/-- How a type offers a name. -/
inductive Feature where
  /-- A built-in operation of the object. -/
  | operation
  /-- An operation that stands behind a sign or a notation. -/
  | hook
  /-- A built-in operation of the type. -/
  | typeOperation
  /-- A built-in operation of nothing. -/
  | looseOperation
  /-- An operation of the object that is defined like a function. -/
  | procedure
  /-- The same for the type. -/
  | typeProcedure
  /-- A function of its own. -/
  | function
  /-- Something of the object that is found out when it is asked for; the type has what finds it out. -/
  | derived (typeName finder : String)
  /-- Something that the type keeps for all its objects. -/
  | kept (typeName : String)
deriving DecidableEq

namespace Feature

def operationType : String := "builtin_function_or_method"

def hookType : String := "method-wrapper"

def procedureType : String := "method"

def functionType : String := "function"

def nullType : String := Scalar.null.typeName

/-- What is found in an object. -/
def typeName : Feature → String
  | .operation => operationType
  | .hook => hookType
  | .typeOperation => operationType
  | .looseOperation => operationType
  | .procedure => procedureType
  | .typeProcedure => procedureType
  | .function => functionType
  | .derived typeName _ => typeName
  | .kept typeName => typeName

/-- What is found in the type. -/
def typeNameInType : Feature → String
  | .operation => "method_descriptor"
  | .hook => "wrapper_descriptor"
  | .procedure => functionType
  | .derived _ finder => finder
  | feature => feature.typeName

end Feature

/-- Names that are offered in one way. -/
structure Offer where
  feature : Feature
  names : List String

def offer (feature : Feature) (names : String) : Offer := ⟨feature, Text.split ' ' names⟩

namespace Offer

def getter : String := "getset_descriptor"

def slot : String := "member_descriptor"

def property : String := "property"

def ofObject : List Offer :=
  [offer (.derived "type" getter) "__class__",
   offer .hook ("__delattr__ __eq__ __ge__ __getattribute__ __gt__ __hash__ __init__ __le__ __lt__ __ne__ " ++
    "__repr__ __setattr__ __str__"),
   offer .operation "__dir__ __format__ __getstate__ __reduce__ __reduce_ex__ __sizeof__",
   offer .typeOperation "__init_subclass__ __new__ __subclasshook__",
   offer (.kept "str") "__doc__"]

def ofNull : List Offer := [offer .hook "__bool__", offer (.kept Feature.nullType) "__doc__"]

def ofInteger : List Offer :=
  [offer .hook ("__abs__ __add__ __and__ __bool__ __divmod__ __float__ __floordiv__ __index__ __int__ " ++
    "__invert__ __lshift__ __mod__ __mul__ __neg__ __or__ __pos__ __pow__ __radd__ __rand__ __rdivmod__ " ++
    "__rfloordiv__ __rlshift__ __rmod__ __rmul__ __ror__ __rpow__ __rrshift__ __rshift__ __rsub__ " ++
    "__rtruediv__ __rxor__ __sub__ __truediv__ __xor__"),
   offer .operation ("__ceil__ __floor__ __getnewargs__ __round__ __trunc__ as_integer_ratio bit_count " ++
    "bit_length conjugate to_bytes"),
   offer .typeOperation "from_bytes",
   offer (.derived "int" getter) "denominator imag numerator real"]

def ofFloat : List Offer :=
  [offer .hook ("__abs__ __add__ __bool__ __divmod__ __float__ __floordiv__ __int__ __mod__ __mul__ " ++
    "__neg__ __pos__ __pow__ __radd__ __rdivmod__ __rfloordiv__ __rmod__ __rmul__ __rpow__ __rsub__ " ++
    "__rtruediv__ __sub__ __truediv__"),
   offer .operation ("__ceil__ __floor__ __getnewargs__ __round__ __trunc__ as_integer_ratio conjugate hex " ++
    "is_integer"),
   offer .typeOperation "__getformat__ fromhex",
   offer (.derived "float" getter) "imag real"]

def ofText : List Offer :=
  [offer .hook "__add__ __contains__ __getitem__ __iter__ __len__ __mod__ __mul__ __rmod__ __rmul__",
   offer .operation ("__getnewargs__ capitalize casefold center count encode endswith expandtabs find " ++
    "format format_map index isalnum isalpha isascii isdecimal isdigit isidentifier islower isnumeric " ++
    "isprintable isspace istitle isupper join ljust lower lstrip partition removeprefix removesuffix " ++
    "replace rfind rindex rjust rpartition rsplit rstrip split splitlines startswith strip swapcase " ++
    "title translate upper zfill"),
   offer .looseOperation "maketrans"]

def ofWord : List Offer :=
  [offer .hook "_value_repr_",
   offer .procedure ("__copy__ __deepcopy__ __dir__ __format__ __init__ __new__ __reduce_ex__ __repr__ " ++
    "__str__ _generate_next_value_"),
   offer .typeProcedure "_missing_",
   offer .typeOperation "_new_member_",
   offer (.derived "dict" getter) "__dict__",
   offer (.derived Feature.nullType getter) "__weakref__",
   offer (.derived "str" property) "name value",
   offer (.kept "str") "__module__ __doc__",
   offer (.kept "dict") "_member_map_ _value2member_map_",
   offer (.kept "list") "_member_names_ _unhashable_values_",
   offer (.kept "type") "_member_type_",
   offer (.kept "bool") "_use_args_"] ++ ofText

def ofList : List Offer :=
  [offer .hook ("__add__ __contains__ __delitem__ __iadd__ __imul__ __iter__ __len__ __mul__ __rmul__ " ++
    "__setitem__"),
   offer .operation ("__getitem__ __reversed__ append clear copy count extend index insert pop remove " ++
    "reverse sort"),
   offer .typeOperation "__class_getitem__",
   offer (.kept Feature.nullType) "__hash__"]

def ofTuple : List Offer :=
  [offer .hook "__add__ __contains__ __getitem__ __iter__ __len__ __mul__ __rmul__",
   offer .operation "__getnewargs__ count index",
   offer .typeOperation "__class_getitem__"]

def ofTable : List Offer :=
  [offer .hook "__delitem__ __ior__ __iter__ __len__ __or__ __ror__ __setitem__",
   offer .operation ("__contains__ __getitem__ __reversed__ clear copy get items keys pop popitem " ++
    "setdefault update values"),
   offer .typeOperation "__class_getitem__ fromkeys",
   offer (.kept Feature.nullType) "__hash__"]

def ofFrozen : List Offer :=
  [offer .procedure ("__contains__ __eq__ __getitem__ __hash__ __init__ __iter__ __len__ __repr__ get items " ++
    "keys values"),
   offer .typeProcedure "__class_getitem__ __subclasshook__",
   offer (.derived "dict" slot) "_data",
   offer (.derived Feature.nullType slot) "_hash",
   offer (.kept Feature.nullType) "__reversed__",
   offer (.kept "str") "__module__",
   offer (.kept "tuple") "__orig_bases__ __slots__",
   offer (.kept "frozenset") "__abstractmethods__",
   offer (.kept "_abc_data") "_abc_impl"]

def ofHolder : List Offer :=
  [offer (.derived "dict" slot) "__dict__", offer (.kept Feature.nullType) "__hash__"]

-- What records of all classes have.
def ofFields : List Offer :=
  [offer .procedure "__eq__ __init__ __repr__",
   offer (.derived "dict" getter) "__dict__",
   offer (.derived Feature.nullType getter) "__weakref__",
   offer (.kept "str") "__module__",
   offer (.kept "dict") "__annotations__ __dataclass_fields__",
   offer (.kept "_DataclassParams") "__dataclass_params__",
   offer (.kept "tuple") "__match_args__"]

def ofFrozenFields : List Offer := offer .procedure "__delattr__ __hash__ __setattr__" :: ofFields

-- What records have that prepare a field when they are made.
def ofPrepared : List Offer := offer .procedure "__post_init__" :: ofFrozenFields

-- What records with an enumeration have besides, and their kin.
def ofEnumeration : List Offer :=
  [offer .typeProcedure "__class_getitem__ __init_subclass__",
   offer (.kept "tuple") "__orig_bases__ __parameters__ __slots__",
   offer (.kept "bool") "_is_protocol"] ++ ofPrepared

def ofCombined : List Offer :=
  offer (.derived "object" property) "title description examples sub_schemas" :: ofFrozenFields

def ofRecord : RecordClass → List Offer
  | .object =>
    [offer .procedure "get_property",
     offer (.derived "tuple" property) "property_names required_names"] ++ ofPrepared
  | .array => ofPrepared
  | .null => ofPrepared
  | .ref => ofPrepared
  | .combinator => ofPrepared
  | .string => ofEnumeration
  | .integer => ofEnumeration
  | .number => ofEnumeration
  | .boolean => ofEnumeration
  | .oneOf => ofCombined
  | .anyOf => ofCombined
  | .allOf => ofCombined
  | .fallback => ofPrepared
  | .requiredProperty => offer (.kept "bool") "is_required" :: ofFrozenFields
  | .optionalProperty => offer (.kept "bool") "is_required" :: ofFrozenFields
  | .customFormat => ofFrozenFields
  | .model =>
    [offer .procedure "get_definition", offer (.derived "tuple" property) "definition_names"] ++ ofPrepared
  | .settings =>
    [offer .procedure "to_dict", offer .function "from_dict", offer (.kept Feature.nullType) "__hash__"] ++ ofFields

def ofModule : List Offer :=
  [offer (.derived "dict" slot) "__dict__", offer (.derived "dict" getter) "__annotations__"]

def ofProcedure : List Offer :=
  [offer .hook "__call__", offer (.derived Feature.nullType getter) "__doc__",
   offer (.derived Feature.functionType slot) "__func__", offer (.derived "object" slot) "__self__"]

def ofOperation : List Offer :=
  [offer .hook "__call__", offer (.derived "str" getter) "__name__ __qualname__ __text_signature__",
   offer (.derived "object" getter) "__self__", offer (.derived Feature.nullType slot) "__module__",
   offer (.derived Feature.nullType getter) "__doc__"]

def ofHook : List Offer :=
  [offer .hook "__call__", offer (.derived "str" getter) "__name__ __qualname__ __text_signature__",
   offer (.derived "str" getter) "__doc__", offer (.derived "type" getter) "__objclass__",
   offer (.derived "object" slot) "__self__"]

def ofFunction : List Offer :=
  [offer .hook "__call__ __get__", offer (.derived "str" getter) "__name__ __qualname__",
   offer (.derived "str" slot) "__module__", offer (.derived Feature.nullType slot) "__doc__ __closure__",
   offer (.derived "dict" getter) "__annotations__ __dict__",
   offer (.derived Feature.nullType getter) "__defaults__ __kwdefaults__",
   offer (.derived "code" getter) "__code__", offer (.derived "dict" slot) "__builtins__ __globals__"]

-- What finds something out in an object.
def ofFinder : List Offer :=
  [offer .hook "__delete__ __get__ __set__", offer (.derived "str" getter) "__doc__ __qualname__",
   offer (.derived "str" slot) "__name__", offer (.derived "type" slot) "__objclass__"]

-- An operation that waits for its object.
def ofUnbound : List Offer :=
  [offer .hook "__call__ __get__", offer (.derived "str" getter) "__doc__ __qualname__ __text_signature__",
   offer (.derived "str" slot) "__name__", offer (.derived "type" slot) "__objclass__"]

def ofProperty : List Offer :=
  [offer .hook "__delete__ __get__ __set__", offer .operation "__set_name__ deleter getter setter",
   offer (.derived Feature.nullType slot) "__doc__ fdel fset",
   offer (.derived Feature.functionType slot) "fget", offer (.derived "bool" getter) "__isabstractmethod__"]

def ofView : List Offer :=
  [offer .typeOperation "__class_getitem__",
   offer .hook "__contains__ __getitem__ __ior__ __iter__ __len__ __or__ __ror__",
   offer .operation "__reversed__ copy get items keys values",
   offer (.kept Feature.nullType) "__doc__ __hash__"]

def ofSet : List Offer :=
  [offer .hook "__and__ __iter__ __len__ __or__ __rand__ __ror__ __rsub__ __rxor__ __sub__ __xor__",
   offer .operation ("__contains__ copy difference intersection isdisjoint issubset issuperset " ++
    "symmetric_difference union"),
   offer .typeOperation "__class_getitem__"]

def ofCode : List Offer :=
  [offer .operation "_varname_from_oparg co_lines co_positions replace",
   offer (.derived "tuple" getter) "co_cellvars co_freevars co_varnames",
   offer (.derived "bytes" getter) "_co_code_adaptive co_code co_lnotab",
   offer (.derived "tuple" slot) "co_consts co_names",
   offer (.derived "bytes" slot) "co_exceptiontable co_linetable",
   offer (.derived "str" slot) "co_filename co_name co_qualname",
   offer (.derived "int" slot) ("co_argcount co_firstlineno co_flags co_kwonlyargcount co_nlocals " ++
    "co_posonlyargcount co_stacksize")]

def ofType : List Offer :=
  [offer .hook "__call__ __or__ __ror__",
   offer .operation "__instancecheck__ __subclasscheck__ __subclasses__ mro",
   offer .typeOperation "__prepare__",
   offer (.derived "str" getter) "__module__ __name__ __qualname__",
   offer (.derived Feature.nullType getter) "__text_signature__",
   offer (.derived "tuple" getter) "__bases__", offer (.derived "tuple" slot) "__mro__",
   offer (.derived "mappingproxy" getter) "__dict__", offer (.derived "type" slot) "__base__",
   offer (.derived "int" slot) "__basicsize__ __dictoffset__ __flags__ __itemsize__ __weakrefoffset__"]

def ofVocabulary : List Offer :=
  [offer .procedure ("__bool__ __call__ __contains__ __delattr__ __dir__ __getattr__ __getitem__ __iter__ " ++
    "__len__ __repr__ __reversed__ __setattr__ _convert_ _create_"),
   offer .typeProcedure ("__prepare__ _check_for_existing_members_ _find_data_repr_ _find_data_type_ " ++
    "_find_new_ _get_mixins_"),
   offer (.derived "mappingproxy" property) "__members__"] ++ ofType

def ofAbstractType : List Offer :=
  [offer .procedure ("__instancecheck__ __subclasscheck__ _abc_caches_clear _abc_registry_clear " ++
    "_dump_registry register")] ++ ofType

-- How records of a class are compared and written.
def ofParameters : List Offer :=
  [offer .procedure "__init__ __repr__", offer (.derived "bool" slot) "eq frozen init order repr unsafe_hash",
   offer (.kept "str") "__module__", offer (.kept "tuple") "__slots__"]

-- The offers of a type of its own, by its name.
def ofBuiltin : String → List Offer
  | "NoneType" => ofNull
  | "bool" => ofInteger
  | "int" => ofInteger
  | "float" => ofFloat
  | "str" => ofText
  | "list" => ofList
  | "tuple" => ofTuple
  | "dict" => ofTable
  | "SimpleNamespace" => ofHolder
  | "FrozenDict" => ofFrozen
  | "module" => ofModule
  | "method" => ofProcedure
  | "builtin_function_or_method" => ofOperation
  | "method-wrapper" => ofHook
  | "function" => ofFunction
  | "getset_descriptor" => ofFinder
  | "member_descriptor" => ofFinder
  | "method_descriptor" => ofUnbound
  | "wrapper_descriptor" => ofUnbound
  | "property" => ofProperty
  | "mappingproxy" => ofView
  | "frozenset" => ofSet
  | "code" => ofCode
  | "_DataclassParams" => ofParameters
  | "_abc_data" => [offer (.kept "str") "__module__"]
  | "type" => ofType
  | "EnumType" => ofVocabulary
  | "ABCMeta" => ofAbstractType
  | _ => []

def ofType? (typeName : String) : List Offer :=
  match RecordClass.ofName? typeName with
  | some cls => ofRecord cls
  | none => if Keyword.vocabularies.contains typeName then ofWord else ofBuiltin typeName

def find? (offers : List Offer) (name : String) : Option Feature :=
  (offers.find? fun offer => offer.names.contains name).map Offer.feature

end Offer

def Feature.of? (typeName name : String) : Option Feature :=
  match Offer.find? (Offer.ofType? typeName) name with
  | some feature => some feature
  | none => Offer.find? Offer.ofObject name

/-- What a value offers under a name: the name of its type. -/
def Value.member? (value : Value) (name : String) : Option String :=
  match value with
  | .member _ => none
  | .elsewhere .. => none
  | value => (Feature.of? value.typeName name).map Feature.typeName

end Schemata
