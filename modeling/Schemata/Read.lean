import Schemata.Form.Digest
import Schemata.Feature

set_option autoImplicit false

/-!
Reading parts of a value: attributes by name, items by position and entries by key. Records show
their fields and what is derived from them; a combination also shows the fields of its combinator,
whatever value that is. What is elsewhere cannot be looked into.
-/

namespace Schemata

-- What a combination reads through to its combinator.
def sharedFields : List String := ["title", "description", "examples", "sub_schemas"]

def integerAttributes (n : Int) : List (String × Value) :=
  [("real", .int n), ("imag", .int 0), ("numerator", .int n), ("denominator", .int 1)]

-- A word is reached from any other word of its vocabulary.
def keywordAttributes (k : Keyword) : List (String × Value) :=
  ("name", .text k.member) :: ("value", .text k.text) ::
    (Keyword.all.filter fun other => other.vocabulary == k.vocabulary).map fun other =>
      (other.member, .keyword other)

def Scalar.attributes : Scalar → List (String × Value)
  | .bool b => integerAttributes (if b then 1 else 0)
  | .int n => integerAttributes n
  | .float x object => [("real", .scalar (.float x object)), ("imag", .scalar (.float (.signed false 0) object))]
  | .keyword k => keywordAttributes k
  | _ => []

def Property.attributes (p : Property) : List (String × Value) :=
  [("name", p.name), ("schema", p.schema), ("is_required", .bool p.required)]

def Model.attributes (m : Model) : List (String × Value) :=
  [("definitions", .frozen none m.definitions), ("root", m.root),
   ("definition_names", .tuple none (m.definitions.map Prod.fst))]

-- The fault of a value that is iterated over and has no elements, or is not shown.
def Value.refuseElements (value : Value) : Fault :=
  match value.shown with
  | .elsewhere .. => .unseen
  | other => .notIterable other.qualifiedTypeName

def Value.length (value : Value) : Except Fault Nat :=
  match value.shown, value.length? with
  | .elsewhere .., _ => .error .unseen
  | _, some count => .ok count
  | other, none => .error (.noLength other.qualifiedTypeName)

/-- Whether a value counts as true. What a frozen table shows is asked for its length. -/
def Value.truth : Value → Except Fault Bool
  | .showing handle other => (Value.showing handle other).length.map fun count => count != 0
  | value => .ok value.isTrue

-- What an attribute is looked for in; a method has those of a function.
def Value.attributeOwner : Value → String
  | .member "method" => "function"
  | value => value.qualifiedTypeName

-- The attribute of that name, or else what a value offers under it.
def attributeAmong (value : Value) (name : String) (attributes : List (String × Value)) : Except Fault Value :=
  match attributes.lookup name with
  | some found => .ok found
  | none =>
    match value.member? name with
    | some sort => .ok (.member sort)
    | none => .error (.noAttribute value.attributeOwner name)

mutual
/-- What can be read from a value by name. -/
def Value.attribute (name : String) : Value → Except Fault Value
  | .schema _ s => s.attribute name
  | .scalar s => attributeAmong (.scalar s) name s.attributes
  | .settings handle attributes =>
    attributeAmong (.settings handle attributes) name (attributes ++ Value.settingsDefaults)
  | .holder handle attributes => attributeAmong (.holder handle attributes) name attributes
  | .combinator handle c => attributeAmong (.combinator handle c) name c.fields
  | .property handle p => attributeAmong (.property handle p) name p.attributes
  | .customFormat handle format => attributeAmong (.customFormat handle format) name [("name", format)]
  | .model handle m => attributeAmong (.model handle m) name m.attributes
  | .elsewhere .. => .error .unseen
  | value => attributeAmong value name []
def Schema.attribute (name : String) : Schema → Except Fault Value
  | .combined mode combinator =>
    if sharedFields.contains name then combinator.attribute name
    else attributeAmong (.schema none (.combined mode combinator)) name [("combinator", combinator)]
  | .object labels properties low high =>
    if name = "property_names" then Value.attributeOfItems "name" properties
    else if name = "required_names" then Value.requiredNamesOfItems properties
    else
      attributeAmong (.schema none (.object labels properties low high)) name
        (Schema.object labels properties low high).fields
  | s => attributeAmong (.schema none s) name s.fields
def Value.attributeOfItems (name : String) : Value → Except Fault Value
  | .tuple _ items => (Value.attributeOfAll name items).map (.tuple none)
  | value => .error value.refuseElements
def Value.requiredNamesOfItems : Value → Except Fault Value
  | .tuple _ items => (Value.requiredNames items).map (.tuple none)
  | value => .error value.refuseElements
def Value.attributeOfAll (name : String) : List Value → Except Fault (List Value)
  | [] => .ok []
  | value :: rest => do
    let found ← value.attribute name
    let others ← Value.attributeOfAll name rest
    return found :: others
-- The names of those that are required.
def Value.requiredNames : List Value → Except Fault (List Value)
  | [] => .ok []
  | value :: rest => do
    let required ← value.attribute "is_required"
    let found ← if ← required.truth then (value.attribute "name").map fun name => [name] else .ok []
    let others ← Value.requiredNames rest
    return found ++ others
end

namespace Value

/-- A value is asked for something that it does not do; what it has under the name is not callable. -/
def refuseCall (value : Value) (name : String) : Fault :=
  match value.attribute name with
  | .ok found => .notCallable found.qualifiedTypeName
  | .error fault => fault

/-- The text of a value that text is wanted of; `method` is what is asked of it. -/
def textFor (method : String) (value : Value) : Except Fault String :=
  match value.text? with
  | some text => .ok text
  | none => .error (value.refuseCall method)

def elements (value : Value) : Except Fault (List Value) :=
  match value.elements? with
  | some items => .ok items
  | none => .error value.refuseElements

/-- The items of a field that is kept as a tuple. -/
def items : Value → Except Fault (List Value)
  | .tuple _ items => .ok items
  | value => .error value.refuseElements

/-- A tuple of what iterating over a value gives; a tuple is its own. -/
def toTuple : Value → Except Fault Value
  | .tuple handle items => .ok (.tuple handle items)
  | value => value.elements.map (.tuple none)

/-- Only what has a fingerprint can be looked up. -/
def checkHashable (value : Value) : Except Fault Unit := value.form.digest.map fun _ => ()

/-- The fault of looking up a value among words. One without a fingerprint is compared with each of
them instead, unless something was not there when it was asked for its fingerprint. -/
def refuseLookup? (value : Value) : Option Fault :=
  match value.checkHashable with
  | .error fault => if fault.isMissing || fault.isBeyond then some fault else none
  | .ok _ => none

def entry (entries : List (Value × Value)) (key : Value) : Except Fault Value := do
  key.checkHashable
  match entries.lookup key with
  | some found => .ok found
  | none => .error (.noKey key)

def subscript (value key : Value) : Except Fault Value :=
  match value.shown, key.index? with
  | .elsewhere .., _ => .error .unseen
  | .table _ entries, _ => entry entries key
  | .frozen _ entries, _ => entry entries key
  | .list _ items, some index => Position.item "list" items index
  | .list .., none => .error (.wrongIndex "list" key.qualifiedTypeName)
  | .tuple _ items, some index => Position.item "tuple" items index
  | .tuple .., none => .error (.wrongIndex "tuple" key.qualifiedTypeName)
  | value, index? =>
    match value.text?, index? with
    | some spelling, some index =>
      Position.item "string" (spelling.toList.map fun c => .text (String.singleton c)) index
    | some _, none => .error (.wrongTextIndex key.qualifiedTypeName)
    | none, _ => .error (.notSubscriptable value.qualifiedTypeName)

/-- What a frozen table tells that shows a value which is no mapping. -/
def told (value : Value) : Except Fault (List (Value × Value)) :=
  value.form.told.map (List.map fun pair => (.scalar pair.1, .scalar pair.2))

/-- The keys of a mapping, each with what is under it. -/
def pairs (value : Value) : Except Fault (List (Value × Value)) :=
  match value.entries? with
  | some entries => .ok entries
  | none => value.shown.told

end Value

-- What settings are asked for to describe them.
def describeName : String := "to_dict"

/-- The entries that describe settings: the value of each word. -/
def Value.describe : Value → Except Fault (List (Value × Value))
  | .settings handle attributes => do
    if (attributes.lookup describeName).isSome then
      .error ((Value.settings handle attributes).refuseCall describeName)
    let texts ← (Value.settingsFields attributes).mapM fun field =>
      (field.2.attribute "value").map fun text => (field.1, text)
    return underTexts texts
  | value => .error (value.refuseCall describeName)

end Schemata
