import Schemata.Collect

set_option autoImplicit false

/-!
Edits of one container. A list takes values at its positions and at its end, a table under its keys,
settings and holders by name. Nothing else can be edited, and the fields of a record are read-only.
-/

namespace Schemata

inductive Edit where
  | put (key value : Value)
  | append (value : Value)
  | setField (field : String) (value : Value)

namespace Value

-- Whether a position is looked at before the value refuses to take anything there.
def readsPosition : Value → Bool
  | .scalar s => s.text?.isSome
  | .holder .. => false
  | _ => true

/-- The container after an assignment under a key or at a position. -/
def assigning (container key value : Value) : Except Fault Value :=
  match container, key.index? with
  | .table handle entries, _ => (putKey key value entries).map (.table handle)
  | .list .., none => .error (.wrongIndex "list" key.qualifiedTypeName)
  | .list handle items, some index =>
    if !Position.fits index then .error .hugeIndex
    else
      match Position.place? items.length index with
      | some place => .ok (.list handle (items.set place value))
      | none => .error (.outOfRange "list assignment")
  | container, index? =>
    if container.readsPosition && index?.any (!Position.fits ·) then .error .hugeIndex
    else .error (.noItemAssignment container.qualifiedTypeName)

-- What a list has for taking values at its end.
def appendName : String := "append"

def appending (container value : Value) : Except Fault Value :=
  match container with
  | .list handle items => .ok (.list handle (items ++ [value]))
  | container => .error (container.refuseCall appendName)

-- A truth value is stored as one or zero.
def storedTypeName : Scalar → String
  | .bool b => (Scalar.int (if b then 1 else 0)).typeName
  | s => s.typeName

def typeField : String := "__class__"

def attributesField : String := "__dict__"

def backLinkField : String := "__weakref__"

/-- What stands behind an object: what it shows, or the fingerprint that it remembers. -/
inductive Backing where
  | shown | fingerprint
deriving DecidableEq

/-- The fields that stand for what is behind an object. -/
def backing? (object : Value) (field : String) : Option Backing :=
  match object.shape? with
  | some .frozen =>
    if field = "_data" then some .shown else if field = "_hash" then some .fingerprint else none
  | some (.record .settings) => if field = attributesField then some .shown else none
  | _ => none

-- Why no other attributes can be given to an object.
def refuseAttributes (attributes : Value) : Option Fault :=
  if attributes.shape? = some .table then none else some (.notTable attributes.qualifiedTypeName)

-- Why an attribute of a word cannot be set; it takes any attribute apart from its own.
def refuseWordField (k : Keyword) (field : String) (value : Value) : Option Fault :=
  if field = "name" ∨ field = "value" then some (.fixedWord field)
  else if field = backLinkField then some (.notWritable k.vocabulary field)
  else if field = attributesField then refuseAttributes value
  else none

def refuseScalarField (s : Scalar) (field : String) (value : Value) : Option Fault :=
  match s with
  | .keyword k => refuseWordField k field value
  | s =>
    if (s.attributes.lookup field).isSome then
      some (.notWritable (storedTypeName s) field)
    else
      match (Value.scalar s).member? field with
      | some _ => some (.readOnlyMember s.typeName field)
      | none => some (.noAttribute s.typeName field)

def refuseField (object : Value) (field : String) : Fault :=
  match object.member? field with
  | some _ => .readOnlyMember object.typeName field
  | none => .noAttribute object.qualifiedTypeName field

/-- The object after an assignment to an attribute. What stands behind it is not changed here. -/
def assigningField (object : Value) (field : String) (value : Value) : Except Fault Value :=
  match object.record? with
  | some (cls, _) =>
    match object with
    | .settings handle attributes =>
      if field = typeField then .error (.notType value.qualifiedTypeName)
      else if field = backLinkField then .error (.notWritable cls.name field)
      else if field = attributesField then (refuseAttributes value).elim (.ok object) .error
      else .ok (.settings handle (putEntry field value attributes))
    | _ => .error (.readOnly field)
  | none =>
    if field = typeField then .error (.notType value.qualifiedTypeName)
    else
      match object with
      | .holder handle attributes =>
        if field = attributesField then .error .readOnlyAttributes
        else .ok (.holder handle (putEntry field value attributes))
      | .scalar s => (refuseScalarField s field value).elim (.ok object) .error
      | object => if (object.backing? field).isSome then .ok object else .error (object.refuseField field)

end Value

namespace Edit

def value : Edit → Value
  | .put _ value => value
  | .append value => value
  | .setField _ value => value

def withValue (edit : Edit) (value : Value) : Edit :=
  match edit with
  | .put key _ => .put key value
  | .append _ => .append value
  | .setField field _ => .setField field value

-- What of the target stands for the value of the edit.
def backing? (edit : Edit) (target : Value) : Option Value.Backing :=
  match edit with
  | .setField field _ => target.backing? field
  | _ => none

def apply (edit : Edit) (target : Value) : Except Fault Value :=
  match edit with
  | .put key value => target.assigning key value
  | .append value => target.appending value
  | .setField field value => target.assigningField field value

end Edit
end Schemata
