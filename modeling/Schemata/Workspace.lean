import Schemata.Edit
import Schemata.Form.Digest
import Schemata.Path
import Schemata.Query

set_option autoImplicit false

/-!
Objects held by name. An object is viewed when it is asked for, and changed in its cell. A word is no
object that is held, but it can be given attributes. A frozen table remembers the fingerprint that was
first taken of it.
-/

namespace Schemata

/-- What a frozen table has for a fingerprint: what was taken of it, which may be the same in every run, or
what it was given. -/
inductive Fingerprint where
  | taken (mark : UInt64) (counted : Bool)
  | given (value : Value)

/-- Names with what they hold, the cells, the attributes that words were given, and the fingerprints of
frozen tables. -/
structure Workspace where
  names : List (String × Value) := []
  cells : Cells := #[]
  marks : List (Keyword × List (String × Value)) := []
  fingerprints : List (Nat × Fingerprint) := []

namespace Workspace

def get? (w : Workspace) (limit : Nat) (name : String) : Option Value :=
  (w.names.lookup name).map (w.cells.view limit)

def set (w : Workspace) (name : String) (value : Value) : Workspace :=
  let (held, cells) := value.hold.run w.cells
  { w with names := putEntry name held w.names, cells := cells }

def marksOf (w : Workspace) (k : Keyword) : List (String × Value) := (w.marks.lookup k).getD []

-- Gives a word an attribute; the value is held.
def mark (w : Workspace) (k : Keyword) (field : String) (value : Value) : Workspace :=
  { w with marks := putEntry k (putEntry field value (w.marksOf k)) w.marks }

-- Sets what stands behind an object.
def back (w : Workspace) (backing : Value.Backing) (shape : Shape) (handle : Nat) (value : Value) : Workspace :=
  match backing with
  | .shown => { w with cells := w.cells.setIfInBounds handle (.backed shape value) }
  | .fingerprint => { w with fingerprints := putEntry handle (.given value) w.fingerprints }

-- Changes a held object. An attribute of an object that shows a table is an entry of the table.
def change (w : Workspace) (handle : Nat) (object : Value) (edit : Edit) : Except Fault Workspace := do
  let changed ← edit.apply object
  match edit, w.cells[handle]? with
  | .setField field value, some (.backed _ (.elsewhere table _)) =>
    match w.cells.at? table with
    | some shown =>
      let shown ← shown.assigning (.text field) value
      return { w with cells := w.cells.setIfInBounds table (.contents shown) }
    | none => .error .unseen
  | _, _ => return { w with cells := w.cells.setIfInBounds handle (.contents changed) }

/-- Edits an object, in every value that it is part of. What is put in is held. -/
def edit (w : Workspace) (target : Value) (edit : Edit) : Except Fault Workspace := do
  let (held, cells) := edit.value.hold.run w.cells
  let edit := edit.withValue held
  let w := { w with cells := cells }
  match target.handle?.bind fun handle => (cells.at? handle).map fun object => (handle, object) with
  | some (handle, object) =>
    match edit.backing? object, object.shape? with
    | some backing, some shape =>
      let _ ← edit.apply object
      return w.back backing shape handle held
    | _, _ => w.change handle object edit
  | none =>
    let _ ← edit.apply target
    match target, edit with
    | .scalar (.keyword k), .setField field value => return w.mark k field value
    | _, _ => return w

def renew (w : Workspace) (value : Value) : Value := w.cells.renew 1 value

/-- What the kinds have for their values: what they were given, seen to a depth, and else their own. -/
def words (w : Workspace) (limit : Nat) : KindWords := fun kind =>
  match (w.marksOf (.kind kind)).lookup "_value_" with
  | some found => w.cells.view limit found
  | none => ownWords kind

def equals (w : Workspace) (a b : Value) : Except Fault Bool := w.cells.equals a b

-- The fingerprint that an object was given; only an integer is one, which is taken as it is if it fits.
def givenDigest (value : Value) : Except Fault UInt64 :=
  match value.index? with
  | some n => .ok (if Position.fits n then Mixing.signedWord n else Mixing.number n)
  | none => .error .wrongFingerprint

/-- The fingerprint of a form; what an object has for one counts more than its contents. Each unit of
fuel enters an object. -/
def digestForm (w : Workspace) : Nat → Form → Except Fault UInt64
  | 0, _ => .error .unseen
  | fuel + 1, form =>
    form.digestBy fun handle shape =>
      match w.fingerprints.lookup handle, w.cells.at? handle with
      | some (.taken mark _), _ => .ok mark
      | some (.given (.scalar .null)), some _ => w.digestForm fuel (w.cells.contents (.elsewhere handle shape))
      | some (.given value), _ => givenDigest value
      | none, some _ => w.digestForm fuel (w.cells.contents (.elsewhere handle shape))
      | _, none => .error .unseen

def digest (w : Workspace) (value : Value) : Except Fault UInt64 :=
  let (held, cells) := value.hold.run w.cells
  { w with cells := cells }.digestForm (cells.size + 2) held.form

def lacksFingerprint (w : Workspace) (handle : Nat) : Bool :=
  match (w.cells.at? handle).bind Value.shape?, w.fingerprints.lookup handle with
  | some .frozen, none => true
  | some .frozen, some (.given (.scalar .null)) => true
  | _, _ => false

-- The fingerprint that is taken of a frozen table, if it has one.
def takeFingerprint? (w : Workspace) (handle : Nat) : Option Fingerprint :=
  let table := .elsewhere handle .frozen
  (w.digest table).toOption.map fun mark => .taken mark (w.cells.view 1 table).form.isCounted

/-- The workspace after a fingerprint was taken of a value, and of every frozen table in it. -/
def remember (w : Workspace) (value : Value) : Workspace :=
  let (held, cells) := value.hold.run w.cells
  let handles := cells.reached cells.size (held.mentioned.run []).2
  let taken := handles.filterMap fun handle =>
    if handle < w.cells.size && w.lacksFingerprint handle then
      (w.takeFingerprint? handle).map fun fingerprint => (handle, fingerprint)
    else none
  { w with fingerprints := taken.foldl (fun known entry => putEntry entry.1 entry.2 known) w.fingerprints }

-- What stands behind a held object, if it was set or is remembered.
def behind? (w : Workspace) (object : Value) (field : String) : Option Finding := do
  let handle ← object.handle?
  match ← object.backing? field with
  | .shown =>
    match w.cells[handle]? with
    | some (.backed _ other) => some (.value other)
    | _ => none
  | .fingerprint =>
    match ← w.fingerprints.lookup handle with
    | .given value => some (.value value)
    | .taken mark true => some (.value (.int (Mixing.signed mark)))
    | .taken _ false => some (.offered (Scalar.int 0).typeName field (.value object))

-- The attribute from which a word takes what it tells under a name.
def wordSource (name : String) : String :=
  match name with
  | "value" => "_value_"
  | "name" => "_name_"
  | name => name

-- One step from a finding, first to what a word was given and what stands behind an object.
def take (w : Workspace) (step : PathStep) (finding : Finding) : Except Fault Finding :=
  match finding, step with
  | .value (.scalar (.keyword k)), .named name =>
    match (w.marksOf k).lookup (wordSource name) with
    | some found => .ok (.value found)
    | none => step.take finding
  | .value object, .named name => ((w.behind? object name).map .ok).getD (step.take finding)
  | finding, step => step.take finding

def read (w : Workspace) (value : Value) (path : List PathStep) : Except Fault Finding :=
  w.cells.follow 1 w.take path (.value value)

end Workspace

/-- The outcome of looking at views of growing depth, which ends with the first one that misses
nothing or else with the last. -/
def lookDeeper {α : Type} (missed : α → Bool) (look : Nat → α) : Nat → Nat → α
  | 0, limit => look limit
  | attempts + 1, limit =>
    let found := look limit
    if missed found then lookDeeper missed look attempts (limit + 1) else found

end Schemata
