import Schemata.Position

set_option autoImplicit false

/-!
What a frozen table tells that shows something that is no mapping. Its keys are the elements of what
it shows, and under each key is what stands at that position there. So every element has to be a
position itself, and nothing but positions is told.
-/

namespace Schemata

-- Whether a form has entries under keys of its own.
def Form.isMapping : Form → Bool
  | .mapping .. => true
  | .showing .. => true
  | .elsewhere _ shape => shape == .frozen || shape == .table
  | _ => false

-- An element as a key, with the place that it leads to.
def Form.keyPlace (sequence : String) (length : Nat) (key : Form) : Except Fault (Scalar × Nat) :=
  let refused : Fault := .wrongIndex sequence key.typeName
  match key with
  | .scalar s =>
    match s.index? with
    | some index => (Position.item sequence (List.range length) index).map fun place => (s, place)
    | none => .error refused
  | _ => .error refused

/-- The keys that a form has when it is shown for a mapping, with what is under them. A key comes as
often as it is an element. -/
def Form.told (form : Form) : Except Fault (List (Scalar × Scalar)) :=
  match form with
  | .sequence _ items => do
    let keys ← items.mapM (Form.keyPlace form.typeName items.length)
    return keys.filterMap fun key => keys[key.2]?.map fun found => (key.1, found.1)
  | .scalar s =>
    match s.text? with
    | some "" => .ok []
    | some spelling => .error (.wrongTextIndex (Scalar.text spelling).typeName)
    | none => .error (.notIterable form.typeName)
  | .elsewhere .. => .error .unseen
  | form => .error (.notIterable form.typeName)

end Schemata
