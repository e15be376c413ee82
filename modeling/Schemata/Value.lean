import Schemata.Keyword
import Schemata.Number.Binary64
import Schemata.Shape

set_option autoImplicit false

/-!
The values of the library. A `Schema` is one of twelve variants with the fields of its kind. Nothing
is checked when a node is made, so every field takes any `Value`: a title is as a rule a text or
absent and a child as a rule a schema, but a tree that is not well-formed can be spoken of too.

An object carries a handle once it is held, which tells it from other objects with the same contents;
one that nobody holds yet has none. Where a value would be inside itself, the inner one is only named
by its handle.
-/

namespace Schemata

inductive Scalar where
  | null
  | bool (b : Bool)
  | int (n : Int)
  /-- Which object a number is tells whether an undefined one is met again. -/
  | float (x : Binary64) (object : Nat)
  | text (s : String)
  | keyword (k : Keyword)
deriving DecidableEq

namespace Scalar

-- The amount that a scalar stands for; truth values count as one and zero.
def quantity? : Scalar → Option Quantity
  | .bool b => some (.finite (if b then 1 else 0))
  | .int n => some (.finite n)
  | .float x _ => some x.value
  | _ => none

-- The text of a text, or of a word that is spelled so.
def text? : Scalar → Option String
  | .text s => some s
  | .keyword k => some k.text
  | _ => none

def typeName : Scalar → String
  | .null => "NoneType"
  | .bool _ => "bool"
  | .int _ => "int"
  | .float .. => "float"
  | .text _ => "str"
  | .keyword k => k.vocabulary

end Scalar

inductive Mode where
  | oneOf | anyOf | allOf
deriving DecidableEq

def Mode.kind : Mode → SchemaKind
  | .oneOf => .oneOf
  | .anyOf => .anyOf
  | .allOf => .allOf

def Mode.recordClass : Mode → RecordClass
  | .oneOf => .oneOf
  | .anyOf => .anyOf
  | .allOf => .allOf

/-- The identity of an object, once it is held. -/
abbrev Handle := Option Nat

mutual
inductive Value where
  | scalar (s : Scalar)
  | list (handle : Handle) (items : List Value)
  | tuple (handle : Handle) (items : List Value)
  | table (handle : Handle) (entries : List (Value × Value))
  | frozen (handle : Handle) (entries : List (Value × Value))
  /-- A frozen table that was given some other value to show, which only a held one can be. -/
  | showing (handle : Nat) (other : Value)
  /-- Settings take any attribute; a field that is not among them has its default. -/
  | settings (handle : Handle) (attributes : List (String × Value))
  /-- Attributes by name, and no other use. -/
  | holder (handle : Handle) (attributes : List (String × Value))
  | schema (handle : Handle) (s : Schema)
  | combinator (handle : Handle) (c : Combinator)
  | property (handle : Handle) (p : Property)
  | customFormat (handle : Handle) (name : Value)
  | model (handle : Handle) (m : Model)
  /-- A held object of which nothing more is shown here. -/
  | elsewhere (handle : Nat) (shape : Shape)
  /-- Something that an object offers beside its fields; only its sort is told. -/
  | member (typeName : String)
/-- The twelve variants; a combination stands for three of them. -/
inductive Schema where
  | object (labels : Labels) (properties minProperties maxProperties : Value)
  | array (labels : Labels) (items minItems maxItems : Value)
  | string (labels : Labels) (enum minLength maxLength pattern format : Value)
  | integer (labels : Labels) (enum : Value) (bounds : Bounds)
  | number (labels : Labels) (enum : Value) (bounds : Bounds)
  | boolean (labels : Labels) (enum : Value)
  | null (labels : Labels)
  | ref (labels : Labels) (token : Value)
  | combined (mode : Mode) (combinator : Value)
  | fallback (value : Value)
structure Labels where
  title : Value
  description : Value
  examples : List Value
structure Bounds where
  minimum : Value
  maximum : Value
  exclusiveMinimum : Value
  exclusiveMaximum : Value
  multipleOf : Value
structure Property where
  required : Bool
  name : Value
  schema : Value
structure Combinator where
  labels : Labels
  subSchemas : Value
structure Model where
  definitions : List (Value × Value)
  root : Value
end

instance : Inhabited Value := ⟨.scalar .null⟩

def Property.recordClass (p : Property) : RecordClass :=
  if p.required then .requiredProperty else .optionalProperty

def Schema.recordClass : Schema → RecordClass
  | .object .. => .object
  | .array .. => .array
  | .string .. => .string
  | .integer .. => .integer
  | .number .. => .number
  | .boolean .. => .boolean
  | .null .. => .null
  | .ref .. => .ref
  | .combined mode _ => mode.recordClass
  | .fallback _ => .fallback

namespace Value

def null : Value := .scalar .null

def text (s : String) : Value := .scalar (.text s)

def bool (b : Bool) : Value := .scalar (.bool b)

def int (n : Int) : Value := .scalar (.int n)

def keyword (k : Keyword) : Value := .scalar (.keyword k)

def text? : Value → Option String
  | .scalar s => s.text?
  | _ => none

def settingsDefaults : List (String × Value) :=
  [("key_order", keyword (.keyOrder .sorted)), ("missing_required", keyword (.missingRequired .ignore))]

def settingsFields (attributes : List (String × Value)) : List (String × Value) :=
  settingsDefaults.map fun field => (field.1, (attributes.lookup field.1).getD field.2)

/-- What an object is; scalars and members are none. -/
def shape? : Value → Option Shape
  | .scalar _ => none
  | .list .. => some .list
  | .tuple .. => some .tuple
  | .table .. => some .table
  | .frozen .. => some .frozen
  | .showing .. => some .frozen
  | .settings .. => some (.record .settings)
  | .holder .. => some .holder
  | .schema _ s => some (.record s.recordClass)
  | .combinator .. => some (.record .combinator)
  | .property _ p => some (.record p.recordClass)
  | .customFormat .. => some (.record .customFormat)
  | .model .. => some (.record .model)
  | .elsewhere _ shape => some shape
  | .member _ => none

/-- Which object a value is, if it is held. -/
def handle? : Value → Handle
  | .list handle _ => handle
  | .tuple handle _ => handle
  | .table handle _ => handle
  | .frozen handle _ => handle
  | .showing handle _ => some handle
  | .settings handle _ => handle
  | .holder handle _ => handle
  | .schema handle _ => handle
  | .combinator handle _ => handle
  | .property handle _ => handle
  | .customFormat handle _ => handle
  | .model handle _ => handle
  | .elsewhere handle _ => some handle
  | .scalar _ => none
  | .member _ => none

def isObject (a b : Value) : Bool := a.handle?.isSome && a.handle? == b.handle?

def typeName (value : Value) : String :=
  match value, value.shape? with
  | .scalar s, _ => s.typeName
  | .member name, _ => name
  | _, some shape => shape.typeName
  | _, none => ""

def qualifiedTypeName (value : Value) : String :=
  match value.shape? with
  | some shape => shape.qualifiedName
  | none => value.typeName

/-- What a value shows, which is itself unless it was given something else to show. -/
def shown : Value → Value
  | .showing _ other => other.shown
  | value => value

/-- What iterating over a value gives: items, keys of a mapping, or characters of a text. -/
def elements? (value : Value) : Option (List Value) :=
  match value.shown with
  | .list _ items => some items
  | .tuple _ items => some items
  | .table _ entries => some (entries.map Prod.fst)
  | .frozen _ entries => some (entries.map Prod.fst)
  | .scalar s => s.text?.map fun spelling => spelling.toList.map fun c => text (String.singleton c)
  | _ => none

def entries? (value : Value) : Option (List (Value × Value)) :=
  match value.shown with
  | .table _ entries => some entries
  | .frozen _ entries => some entries
  | _ => none

/-- A mapping has entries under keys of its own. -/
def isMapping (value : Value) : Bool :=
  match value.shape? with
  | some .table => true
  | some .frozen => true
  | _ => false

/-- The number of elements, of entries or of characters. -/
def length? (value : Value) : Option Nat :=
  match value.shown with
  | .list _ items => some items.length
  | .tuple _ items => some items.length
  | .table _ entries => some entries.length
  | .frozen _ entries => some entries.length
  | .scalar s => s.text?.map String.length
  | _ => none

/-- Nothing, zero and what has no elements count as false. What is inside itself is not empty. -/
def isTrue (value : Value) : Bool :=
  match value with
  | .scalar .null => false
  | .scalar s =>
    match s.quantity? with
    | some amount => amount != .finite 0
    | none => value.length? != some 0
  | value => value.length? != some 0

end Value

-- Entries under plain texts, as long as there are no other keys.
def textKeyed? (entries : List (Value × Value)) : Option (List (String × Value)) :=
  entries.mapM fun entry =>
    match entry.1 with
    | .scalar (.text name) => some (name, entry.2)
    | _ => none

def underTexts (entries : List (String × Value)) : List (Value × Value) :=
  entries.map fun entry => (.text entry.1, entry.2)

end Schemata
