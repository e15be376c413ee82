import Schemata.OperationFacts
import Schemata.Read

set_option autoImplicit false

/-!
What a path leads to. A step takes an attribute, or an item or entry, and a path may leave the values:
an object knows its type, and offers operations that know what they belong to. These findings are looked
into like values, but they are no part of any.
-/

namespace Schemata

inductive Finding where
  | value (value : Value)
  /-- What is offered under a name; of some things only the type is known. -/
  | offered (typeName name : String) (owner : Finding)
  | type (name : String)
  | types (names : List String)

namespace Finding

def null : Finding := .value .null

def text (s : String) : Finding := .value (.text s)

def typeName : Finding → String
  | .value v => v.typeName
  | .offered typeName _ _ => typeName
  | .type name => TypeFacts.metatype name
  | .types _ => Shape.tuple.typeName

-- The name of the type in messages that say where it is from.
def qualifiedTypeName : Finding → String
  | .value v => v.qualifiedTypeName
  | finding => TypeFacts.qualifiedName finding.typeName

def ownerType : Finding → String
  | .type name => name
  | finding => finding.typeName

/-- What comes of a call as far as it is known: no value can be called. -/
def called : Finding → Except Fault Finding
  | .value v => .error (.notCallable v.qualifiedTypeName)
  | _ => .error .unseen

/-- Whether it can be gone through; a vocabulary has its words. -/
def isIterable : Finding → Bool
  | .value v => v.elements?.isSome
  | .offered typeName _ _ => (Feature.of? typeName "__iter__").isSome
  | .type name => TypeFacts.isVocabulary name
  | .types _ => true

end Finding

-- A type that has only one object stands for it.
def Finding.ofType (typeName name : String) (owner : Finding) : Finding :=
  if typeName == Feature.nullType then .null else .offered typeName name owner

namespace Feature

-- The type that a built-in operation of a type belongs to; objects are made by the type that defines how.
def maker (typeName operation : String) : Finding :=
  if OperationFacts.ownName operation == "__new__" then .type (OperationFacts.definer typeName operation)
  else .type typeName

/-- What an object has under a name that its type offers. -/
def inObject (feature : Feature) (object : Finding) (name : String) : Finding :=
  match feature with
  | .typeOperation => .offered feature.typeName name (maker object.ownerType name)
  | .typeProcedure => .offered feature.typeName name (.type object.ownerType)
  | .looseOperation => .offered feature.typeName name .null
  | feature => .ofType feature.typeName name object

/-- What a type itself has under a name that it offers. -/
def inType (feature : Feature) (typeName name : String) : Finding :=
  match feature with
  | .typeOperation => .offered feature.typeName name (maker typeName name)
  | .looseOperation => .offered feature.typeName name .null
  | feature => .ofType feature.typeNameInType name (.type typeName)

end Feature

namespace Value

/-- The attributes that an object keeps in a table of its own. -/
def ownAttributes? (value : Value) : Option (List (String × Value)) :=
  match value with
  | .settings _ attributes => some attributes
  | .holder _ attributes => some attributes
  | value => value.record?.map Prod.snd

-- What every object of some types finds out by itself, before its own attributes are looked at.
def certain? (value : Value) (name : String) : Option Finding :=
  match name, value with
  | "__class__", value => some (.type value.typeName)
  | "__dict__", value => value.ownAttributes?.map fun attributes => .value (.table none (underTexts attributes))
  | "__weakref__", .scalar (.keyword _) => some .null
  | "__weakref__", .holder .. => none
  | "__weakref__", value => value.record?.map fun _ => .null
  | _, _ => none

-- What words and frozen tables tell of themselves besides.
def inner? (value : Value) (name : String) : Option Finding :=
  match value, name with
  | .scalar (.keyword k), "_value_" => some (.text k.text)
  | .scalar (.keyword k), "_name_" => some (.text k.member)
  | .scalar (.keyword k), "_sort_order_" =>
    some (.value (.int (((Keyword.all.filter fun other => other.vocabulary == k.vocabulary).findIdx
      fun other => other == k) : Nat)))
  | .scalar (.keyword k), "__objclass__" => some (.type k.vocabulary)
  | .scalar (.keyword _), "_member_type_" => some (.type "str")
  | .frozen _ entries, "_data" => some (.value (.table none entries))
  | .showing _ other, "_data" => some (.value other)
  | .frozen .., "_hash" => some .null
  | .showing .., "_hash" => some .null
  | _, _ => none

-- What a combination reads a shared field from; any other value reads it from itself.
def provider (name : String) (value : Value) : Value :=
  match value with
  | .schema handle (.combined mode inner) =>
    if sharedFields.contains name then provider name inner else .schema handle (.combined mode inner)
  | value => value
termination_by sizeOf value

-- What a value has under a name that is none of its attributes.
def offering? (value : Value) (name : String) : Option Finding :=
  match value.inner? name, TypeFacts.kept? value.typeName name, Feature.of? value.typeName name with
  | some found, _, _ => some found
  | none, some kept, _ => some (.value kept)
  | none, none, some feature => some (feature.inObject (.value value) name)
  | none, none, none => none

def find (value : Value) (name : String) : Except Fault Finding :=
  match value, value.certain? name with
  | .elsewhere .., _ => .error .unseen
  | _, some found => .ok found
  | value, none =>
    match value.attribute name with
    | .ok (.member typeName) =>
      let provider := value.provider name
      .ok ((provider.offering? name).getD (.offered typeName name (.value provider)))
    | .ok found => .ok (.value found)
    | .error fault => (value.inner? name).elim (.error fault) .ok

end Value

namespace Finding

-- What an operation tells of itself as a text.
def operationText? (typeName operation owner name : String) : Option String :=
  match name with
  | "__name__" => some (OperationFacts.ownName operation)
  | "__qualname__" => some (OperationFacts.qualifiedName typeName owner operation)
  | "__doc__" => OperationFacts.purpose? operation
  | "__module__" =>
    if typeName == Feature.functionType then some (TypeFacts.home (OperationFacts.definer owner operation))
    else none
  | _ => none

def ofFunction? (operation owner name : String) : Option Finding :=
  match name with
  | "__annotations__" => some (.value (OperationFacts.declarations owner operation))
  | "__defaults__" => (OperationFacts.defaults? owner operation false).map .value
  | "__kwdefaults__" => (OperationFacts.defaults? owner operation true).map .value
  | "__dict__" =>
    if OperationFacts.isWrapped owner operation then none else some (.value (.table none []))
  | "__wrapped__" =>
    if OperationFacts.isWrapped owner operation then some (.offered Feature.functionType operation .null) else none
  | "__closure__" =>
    if OperationFacts.keepsSurroundings owner operation then
      some (.offered Shape.tuple.typeName name (.type owner))
    else none
  | _ => none

def functionOf (operation owner : String) : Finding :=
  if owner == Shape.frozen.typeName && operation == "__class_getitem__" then .type "GenericAlias"
  else .offered Feature.functionType operation (.type owner)

-- What belongs to an operation, by the type of the operation.
def belonging? (typeName operation : String) (owner : Finding) (name : String) : Option Finding :=
  match name with
  | "__class__" => some (.type typeName)
  | "__self__" => some owner
  | "__func__" => some (functionOf operation owner.ownerType)
  | "__objclass__" => some (.type (OperationFacts.definer owner.ownerType operation))
  | "__text_signature__" => if OperationFacts.isUnsigned owner.ownerType operation then some .null else none
  | "__doc__" =>
    if typeName == Feature.hookType || OperationFacts.isDescribed typeName owner.ownerType operation then
      some (.offered "str" name (.offered typeName operation owner))
    else none
  | name => if typeName == Feature.functionType then ofFunction? operation owner.ownerType name else none

def parametersType : String := "_DataclassParams"

def parameter? (owner : Finding) (name : String) : Option Finding :=
  ((RecordClass.ofName? owner.ownerType).bind fun cls => TypeFacts.parameterOfRecords cls name).map .value

def findOffered? (typeName operation : String) (owner : Finding) (name : String) : Option Finding :=
  if typeName == Feature.functionType && name == "__wrapped__" then ofFunction? operation owner.ownerType name
  else
    match Feature.of? typeName name with
    | none => none
    | some feature =>
      let told :=
        if typeName == parametersType then parameter? owner name
        else (operationText? typeName operation owner.ownerType name).map .text
      match told, belonging? typeName operation owner name with
      | some found, _ => some found
      | none, some found => some found
      | none, none => some (feature.inObject (.offered typeName operation owner) name)

def typeFact? (typeName name : String) : Option Finding :=
  match name with
  | "__class__" => some (.type (TypeFacts.metatype typeName))
  | "__name__" => some (.text typeName)
  | "__qualname__" => some (.text typeName)
  | "__module__" => some (.text (TypeFacts.home typeName))
  | "__mro__" => some (.types (TypeFacts.lineage typeName))
  | "__bases__" =>
    match TypeFacts.parents typeName with
    | [] => some (.value (.tuple none []))
    | parents => some (.types parents)
  | "__base__" => some (((TypeFacts.parents typeName).head?.map Finding.type).getD .null)
  | "__annotations__" =>
    if TypeFacts.isOfCore typeName then none else some (.value (TypeFacts.declarations typeName))
  | _ => none

-- The default of a field is kept by the class.
def fieldDefault? (typeName name : String) : Option Finding := do
  let cls ← RecordClass.ofName? typeName
  if cls.fields.contains name && !cls.mandatory.contains name then
    match cls, (Value.settingsFields []).lookup name with
    | .settings, some default => some (.value default)
    | _, _ =>
      if ["examples", "properties", "sub_schemas"].contains name then some (.value (.tuple none []))
      else some .null
  else none

-- What a type of types offers under a name, if a type of it cannot have something else there.
def certainFeature? (typeName name : String) : Option Finding :=
  match Feature.of? (TypeFacts.metatype typeName) name with
  | some (.derived found _) => some (.ofType found name (.type typeName))
  | _ => none

def findInType (typeName name : String) : Except Fault Finding :=
  let metatype := TypeFacts.metatype typeName
  match typeFact? typeName name, TypeFacts.kept? typeName name, fieldDefault? typeName name with
  | some found, _, _ => .ok found
  | none, some kept, _ => .ok (.value kept)
  | none, none, some found => .ok found
  | none, none, none =>
    match certainFeature? typeName name, Feature.of? typeName name, Feature.of? metatype name with
    | some found, _, _ => .ok found
    | none, some feature, _ => .ok (feature.inType typeName name)
    | none, none, some feature => .ok (feature.inObject (.type typeName) name)
    | none, none, none =>
      .error (if metatype == TypeFacts.vocabularyType || name == "__abstractmethods__" then .notFound name
        else .noTypeAttribute (TypeFacts.qualifiedName typeName) name)

-- What is found in an operation, or in what it is defined by.
def findInOffered (typeName operation : String) (owner : Finding) (name : String) : Except Fault Finding :=
  let missing (typeName : String) : Except Fault Finding :=
    .error (.noAttribute (TypeFacts.qualifiedName typeName) name)
  match findOffered? typeName operation owner name with
  | some found => .ok found
  | none =>
    if typeName == Feature.procedureType then
      match functionOf operation owner.ownerType with
      | .offered functionType operation owner =>
        ((findOffered? functionType operation owner name).map .ok).getD (missing functionType)
      | .type functionType => findInType functionType name
      | _ => missing typeName
    else missing typeName

/-- What is found under a name. An operation that is defined like a function has what its function has. -/
def find (name : String) : Finding → Except Fault Finding
  | .value v => v.find name
  | .offered typeName operation owner => findInOffered typeName operation owner name
  | .type typeName => findInType typeName name
  | .types names =>
    match Feature.of? Shape.tuple.typeName name with
    | some feature => .ok (feature.inObject (.types names) name)
    | none => .error (.noAttribute Shape.tuple.typeName name)

-- Whether there are items or entries in what is offered, and they are not known.
def hasUnknownItems (typeName : String) : Bool :=
  ["dict", "list", "tuple", "str", "bytes", "mappingproxy"].contains typeName

def takesParameters (typeName : String) : Bool :=
  typeName == TypeFacts.plainType || (Feature.of? typeName "__class_getitem__").isSome

def refuseParameters (typeName : String) : Fault :=
  if (RecordClass.ofName? typeName).isSome && takesParameters typeName then
    .notGeneric (TypeFacts.home typeName ++ "." ++ typeName)
  else if takesParameters typeName then .unseen
  else .typeNotSubscriptable (TypeFacts.qualifiedName typeName)

-- The word of a vocabulary under its name.
def wordNamed (vocabulary : String) (key : Value) : Except Fault Finding := do
  key.checkHashable
  match Keyword.all.find? fun k => k.vocabulary == vocabulary && key.same (.text k.member) with
  | some k => return .value (.keyword k)
  | none => .error (.noKey key)

-- The entry of what a word keeps of itself.
def entryOfWord (k : Keyword) (key : Value) : Except Fault Finding := do
  key.checkHashable
  match key.text? with
  | some name =>
    if ["_value_", "_name_", "_sort_order_", "__objclass__"].contains name then
      ((Value.keyword k).inner? name).elim (.error (.noKey key)) .ok
    else .error (.noKey key)
  | none => .error (.noKey key)

-- What a class of records knows of a field.
def fieldNamed (typeName : String) (key : Value) : Except Fault Finding := do
  key.checkHashable
  match RecordClass.ofName? typeName, key.text? with
  | some cls, some name =>
    if (cls.fields ++ TypeFacts.declaredFields typeName).contains name then
      return .offered "Field" name (.type typeName)
    else .error (.noKey key)
  | _, _ => .error (.noKey key)

def subscript (key : Value) : Finding → Except Fault Finding
  | .value v => (v.subscript key).map .value
  | .types names =>
    match key.index? with
    | some index => (Position.item Shape.tuple.typeName names index).map .type
    | none => .error (.wrongIndex Shape.tuple.typeName key.qualifiedTypeName)
  | .type name =>
    if TypeFacts.isVocabulary name then wordNamed name key
    else .error (refuseParameters name)
  | .offered typeName name owner =>
    match name, owner with
    | "__dict__", .value (.scalar (.keyword k)) => entryOfWord k key
    | "__members__", .type vocabulary => wordNamed vocabulary key
    | "__dataclass_fields__", owner => fieldNamed owner.ownerType key
    | _, _ =>
      .error (if hasUnknownItems typeName then .unseen else .notSubscriptable (TypeFacts.qualifiedName typeName))

end Finding

inductive PathStep where
  | named (name : String)
  | subscript (key : Value)

def PathStep.take (step : PathStep) (finding : Finding) : Except Fault Finding :=
  match step with
  | .named name => finding.find name
  | .subscript key => finding.subscript key

end Schemata
