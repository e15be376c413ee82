import Schemata.Fault
import Schemata.Form.Equal
import Schemata.Mixing

set_option autoImplicit false

/-!
Fingerprints. Only what can never change has one: an editable list, table, settings or holder
anywhere in a form is reported, the first that is met. Equal forms have equal fingerprints, so a
number is taken by its amount, a word by its text, and the entries of a mapping in no order.
-/

namespace Schemata

def nullMark : UInt64 := 11

def Scalar.digest (s : Scalar) : UInt64 :=
  match s.quantity?, s.text? with
  | some q, _ => Mixing.quantity q
  | none, some spelling => hash spelling
  | none, none => nullMark

-- What a frozen table asks what it shows for.
def itemsName : String := "items"

-- What of a form that is no mapping cannot be asked for entries: there is none, or it is not called.
def Form.refuseItems (form : Form) : Fault :=
  let found : Option Form := match form with
    | .record _ fields => fields.lookup itemsName
    | .holder attributes => attributes.lookup itemsName
    | _ => none
  match found with
  | some other => .notCallable other.typeName
  | none => .noAttribute form.typeName itemsName

def toldDigest (told : List (Scalar × Scalar)) : UInt64 :=
  Mixing.collection (told.map fun pair => Mixing.sequence [pair.1.digest, pair.2.digest]).eraseDups

mutual
/-- The fingerprint of a form, where `beyond` gives that of an object that is elsewhere. -/
def Form.digestBy (beyond : Nat → Shape → Except Fault UInt64) : Form → Except Fault UInt64
  | .scalar s => .ok s.digest
  | .sequence .editable _ => .error (.unhashable Shape.list.typeName)
  | .sequence .fixed items => (Form.digestItems beyond items).map Mixing.sequence
  | .mapping .editable _ => .error (.unhashable Shape.table.typeName)
  | .mapping .fixed entries => (Form.digestEntries beyond entries).map Mixing.collection
  | .showing _ (.mapping _ entries) => (Form.digestEntries beyond entries).map Mixing.collection
  | .showing _ (.showing handle other) =>
    if other.isMapping then (Form.showing handle other).digestBy beyond else other.told.map toldDigest
  | .showing _ other => if other.isMapping then other.digestBy beyond else .error other.refuseItems
  | .record .settings _ => .error (.unhashable RecordClass.settings.name)
  | .record _ fields => (Form.digestFields beyond fields).map Mixing.sequence
  | .holder _ => .error (.unhashable Shape.holder.qualifiedName)
  | .elsewhere handle shape => beyond handle shape
  | .member typeName => .ok (hash typeName)
def Form.digestItems (beyond : Nat → Shape → Except Fault UInt64) : List Form → Except Fault (List UInt64)
  | [] => .ok []
  | item :: rest => do
    let mark ← item.digestBy beyond
    let others ← Form.digestItems beyond rest
    return mark :: others
def Form.digestEntries (beyond : Nat → Shape → Except Fault UInt64) :
    List (Form × Form) → Except Fault (List UInt64)
  | [] => .ok []
  | (key, value) :: rest => do
    let first ← key.digestBy beyond
    let second ← value.digestBy beyond
    let others ← Form.digestEntries beyond rest
    return Mixing.sequence [first, second] :: others
def Form.digestFields (beyond : Nat → Shape → Except Fault UInt64) :
    List (String × Form) → Except Fault (List UInt64)
  | [] => .ok []
  | (_, value) :: rest => do
    let mark ← value.digestBy beyond
    let others ← Form.digestFields beyond rest
    return mark :: others
end

-- Whether the fingerprint of a scalar is the same in every run, as that of a text is not.
def Scalar.isCounted (s : Scalar) : Bool :=
  match s.quantity? with
  | some .undefined => false
  | some _ => true
  | none => false

mutual
/-- Whether the fingerprint of a form is the same in every run: only numbers are in it. -/
def Form.isCounted : Form → Bool
  | .scalar s => s.isCounted
  | .sequence _ items => Form.areCounted items
  | .mapping _ entries => Form.entriesCounted entries
  | .showing _ other => other.isCounted
  | .record _ fields => Form.fieldsCounted fields
  | _ => false
def Form.areCounted : List Form → Bool
  | [] => true
  | item :: rest => item.isCounted && Form.areCounted rest
def Form.entriesCounted : List (Form × Form) → Bool
  | [] => true
  | (key, value) :: rest => key.isCounted && value.isCounted && Form.entriesCounted rest
def Form.fieldsCounted : List (String × Form) → Bool
  | [] => true
  | (_, value) :: rest => value.isCounted && Form.fieldsCounted rest
end

-- An object that can be edited has no fingerprint, whatever it holds; of any other it is not known.
def Shape.refuseDigest (shape : Shape) : Fault :=
  if shape.isEditable then .unhashable shape.qualifiedName else .unseen

def Form.digest (form : Form) : Except Fault UInt64 := form.digestBy fun _ shape => .error shape.refuseDigest

/-- For each value the position of the first one that it fits. -/
def Value.groups (values : List Value) : List Nat :=
  values.map fun value => (values.findIdx? fun other => other.fits value).getD 0

end Schemata
