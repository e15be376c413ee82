import Schemata.Form.Identity
import Schemata.Form.Told

set_option autoImplicit false

/-!
Equality of forms. Numbers are equal when they are the same amount, whatever they are stored as; a
word of a vocabulary equals its text; mappings are compared key by key without regard to order or
access, and holders likewise; sequences are compared in order and by access, records within one
class and field by field. A frozen table that shows something else is compared by what it tells, and
is the same as nothing where it tells nothing. Of what is elsewhere only the identity counts, unless it
is known how to look there.

An undefined number is equal to nothing, itself included. But items, keys, fields and what is under keys
and names fit where they are one or equal, so what holds one undefined number is equal to what holds it too.
-/

namespace Schemata

def Scalar.same (a b : Scalar) : Bool :=
  match a.quantity?, b.quantity? with
  | some p, some q => p.same q
  | none, none => a.text? == b.text?
  | _, _ => false

-- A form is a scalar that fits the given one.
def Form.isScalar (form : Form) (s : Scalar) : Bool :=
  match form with
  | .scalar other => decide (other = s) || other.same s
  | _ => false

-- What is told is the same as the entries of a mapping.
def sameTold (told : List (Scalar × Scalar)) (entries : List (Form × Form)) : Bool :=
  let agree (pair : Scalar × Scalar) (entry : Form × Form) : Bool :=
    entry.1.isScalar pair.1 && entry.2.isScalar pair.2
  told.all (fun pair => entries.any (agree pair)) && entries.all fun entry => told.any fun pair => agree pair entry

-- What is told is the same as what a form shows.
def Form.tellsSame (told : List (Scalar × Scalar)) (form : Form) : Bool :=
  match form.shown with
  | .mapping _ entries => sameTold told entries
  | form =>
    match form.told with
    | .ok others => sameTold told (others.map fun pair => (.scalar pair.1, .scalar pair.2))
    | .error _ => false

mutual
/-- Two forms are equal, where `beyond` compares two of which one is elsewhere. -/
def Form.sameBy (beyond : Form → Form → Bool) : Form → Form → Bool
  | .scalar a, .scalar b => a.same b
  | .sequence access items, .sequence other others =>
    access == other && Form.sameItems beyond items others
  | .mapping _ entries, .mapping _ others =>
    entries.length == others.length && Form.sameEntries beyond entries others
  | .showing table form, .elsewhere handle shape => beyond (.showing table form) (.elsewhere handle shape)
  | .showing _ form, other =>
    if form.isMapping then form.sameBy beyond other
    else
      match form.told with
      | .ok told => other.isMapping && other.tellsSame told
      | .error _ => false
  | .mapping access entries, .showing _ other =>
    match other.shown with
    | .mapping _ others => entries.length == others.length && Form.sameEntries beyond entries others
    | .elsewhere handle shape => beyond (.mapping access entries) (.elsewhere handle shape)
    | other =>
      match other.told with
      | .ok told => sameTold told entries
      | .error _ => false
  | .record cls fields, .record other others => cls == other && Form.sameFields beyond fields others
  | .holder attributes, .holder others =>
    attributes.length == others.length && Form.sameAttributes beyond attributes others
  | .member a, .member b => a == b
  | .elsewhere handle shape, other => beyond (.elsewhere handle shape) other
  | form, .elsewhere handle shape => beyond form (.elsewhere handle shape)
  | _, _ => false
def Form.sameItems (beyond : Form → Form → Bool) : List Form → List Form → Bool
  | [], [] => true
  | a :: as, b :: bs => (a.isOne b || a.sameBy beyond b) && Form.sameItems beyond as bs
  | _, _ => false
-- Every entry of the first list fits one of the second.
def Form.sameEntries (beyond : Form → Form → Bool) : List (Form × Form) → List (Form × Form) → Bool
  | [], _ => true
  | (key, a) :: rest, others =>
    (others.any fun other =>
        (key.isOne other.1 || key.sameBy beyond other.1) && (a.isOne other.2 || a.sameBy beyond other.2)) &&
      Form.sameEntries beyond rest others
-- Every attribute of the first list fits what is under its name in the second.
def Form.sameAttributes (beyond : Form → Form → Bool) :
    List (String × Form) → List (String × Form) → Bool
  | [], _ => true
  | (name, a) :: rest, others =>
    (match others.lookup name with
      | some b => a.isOne b || a.sameBy beyond b
      | none => false) && Form.sameAttributes beyond rest others
def Form.sameFields (beyond : Form → Form → Bool) : List (String × Form) → List (String × Form) → Bool
  | [], [] => true
  | (_, a) :: as, (_, b) :: bs => (a.isOne b || a.sameBy beyond b) && Form.sameFields beyond as bs
  | _, _ => false
end

def Form.same (a b : Form) : Bool := a.sameBy Form.isOne b

/-- Two forms are one or equal, as parts are compared. -/
def Form.fits (a b : Form) : Bool := a.isOne b || a.same b

def Value.same (a b : Value) : Bool := a.form.same b.form

def Value.fits (a b : Value) : Bool := a.form.fits b.form

-- Keys of a table are parts of it.
instance : BEq Value := ⟨Value.fits⟩

end Schemata
