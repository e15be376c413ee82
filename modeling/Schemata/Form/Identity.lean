import Schemata.Form

set_option autoImplicit false

/-!
Identity of parts. A part of a container or of a record is compared with another one by identity first. A
form does not tell its object, but it tells everything by which an object could be equal to others and
not to itself: which undefined number it is, which table shows something else, and what is elsewhere. So
two forms that are alike in everything are as good as one.
-/

namespace Schemata

mutual
/-- Two forms are alike in everything. -/
def Form.isOne : Form → Form → Bool
  | .scalar a, .scalar b => decide (a = b)
  | .sequence access items, .sequence other others => decide (access = other) && Form.areOne items others
  | .mapping access entries, .mapping other others => decide (access = other) && Form.entriesOne entries others
  | .showing handle form, .showing other another => decide (handle = other) && form.isOne another
  | .record cls fields, .record other others => decide (cls = other) && Form.fieldsOne fields others
  | .holder attributes, .holder others => Form.fieldsOne attributes others
  | .elsewhere handle shape, .elsewhere other another => decide (handle = other) && decide (shape = another)
  | .member typeName, .member other => decide (typeName = other)
  | _, _ => false
def Form.areOne : List Form → List Form → Bool
  | [], [] => true
  | a :: as, b :: bs => a.isOne b && Form.areOne as bs
  | _, _ => false
def Form.entriesOne : List (Form × Form) → List (Form × Form) → Bool
  | [], [] => true
  | (key, a) :: as, (other, b) :: bs => key.isOne other && a.isOne b && Form.entriesOne as bs
  | _, _ => false
def Form.fieldsOne : List (String × Form) → List (String × Form) → Bool
  | [], [] => true
  | (name, a) :: as, (other, b) :: bs => decide (name = other) && a.isOne b && Form.fieldsOne as bs
  | _, _ => false
end

mutual
theorem is_one_iff (a b : Form) : a.isOne b = true ↔ a = b := by
  cases a with
  | sequence access items =>
      cases b with
      | sequence other others => simp [Form.isOne, are_one_iff items others]
      | _ => simp [Form.isOne]
  | mapping access entries =>
      cases b with
      | mapping other others => simp [Form.isOne, entries_one_iff entries others]
      | _ => simp [Form.isOne]
  | showing handle form =>
      cases b with
      | showing other another => simp [Form.isOne, is_one_iff form another]
      | _ => simp [Form.isOne]
  | record cls fields =>
      cases b with
      | record other others => simp [Form.isOne, fields_one_iff fields others]
      | _ => simp [Form.isOne]
  | holder attributes =>
      cases b with
      | holder others => simp [Form.isOne, fields_one_iff attributes others]
      | _ => simp [Form.isOne]
  | _ => cases b <;> simp [Form.isOne]
theorem are_one_iff (items others : List Form) : Form.areOne items others = true ↔ items = others := by
  cases items with
  | nil => cases others <;> simp [Form.areOne]
  | cons item rest =>
      cases others with
      | nil => simp [Form.areOne]
      | cons other later => simp [Form.areOne, is_one_iff item other, are_one_iff rest later]
theorem entries_one_iff (entries others : List (Form × Form)) :
    Form.entriesOne entries others = true ↔ entries = others := by
  cases entries with
  | nil => cases others <;> simp [Form.entriesOne]
  | cons entry rest =>
      obtain ⟨key, form⟩ := entry
      cases others with
      | nil => simp [Form.entriesOne]
      | cons entry later =>
          obtain ⟨other, another⟩ := entry
          simp [Form.entriesOne, is_one_iff key other, is_one_iff form another, entries_one_iff rest later]
theorem fields_one_iff (fields others : List (String × Form)) :
    Form.fieldsOne fields others = true ↔ fields = others := by
  cases fields with
  | nil => cases others <;> simp [Form.fieldsOne]
  | cons field rest =>
      obtain ⟨name, form⟩ := field
      cases others with
      | nil => simp [Form.fieldsOne]
      | cons field later =>
          obtain ⟨other, another⟩ := field
          simp [Form.fieldsOne, is_one_iff form another, fields_one_iff rest later]
end

end Schemata
