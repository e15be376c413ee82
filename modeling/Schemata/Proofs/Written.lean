import Schemata.Fault
import Schemata.Parts

set_option autoImplicit false

/-!
What is written. A scalar is written as a literal, a fixed sequence as its items in brackets, and a record as its class
with its fields. Numbers with too many digits are not written, nor is anything that shows one of them.
-/

namespace Schemata

-- The literals of scalars; a number has no more than 4300 digits.
inductive Scalar.Literal : Scalar → String → Prop where
  | null : Literal .null "None"
  | yes : Literal (.bool true) "True"
  | no : Literal (.bool false) "False"
  | int (n : Int) (short : n.natAbs < Nat.pow 10 4300) : Literal (.int n) (toString n)
  | float (x : Binary64) (object : Nat) : Literal (.float x object) (Layout.standard.render x)
  | text (s : String) : Literal (.text s) (Text.quoted s)
  | keyword (k : Keyword) : Literal (.keyword k) ("<" ++ k.qualified ++ ": " ++ Text.quoted k.text ++ ">")

theorem scalar_written (s : Scalar) :
    (∃ text, s.Literal text ∧ (Value.scalar s).written = .ok text) ∨
      ∃ n : Int, s = .int n ∧ Nat.pow 10 4300 ≤ n.natAbs ∧ (Value.scalar s).written = .error .tooManyDigits := by
  cases s with
  | null => exact .inl ⟨_, .null, rfl⟩
  | bool b => cases b <;> exact .inl ⟨_, by constructor, rfl⟩
  | int n =>
      have literal := Scalar.Literal.int n
      have overlong : (Value.scalar (.int n)).isOverlong = decide (Nat.pow 10 4300 ≤ n.natAbs) := rfl
      rw [Value.written, overlong]
      -- The bound is a number of 4301 digits, which is better not looked at.
      generalize Nat.pow 10 4300 = bound at literal
      rcases Nat.lt_or_ge n.natAbs bound with short | long
      · exact .inl ⟨_, literal short, if_neg (mt of_decide_eq_true (Nat.not_le_of_gt short))⟩
      · exact .inr ⟨n, rfl, long, if_pos (decide_eq_true long)⟩
  | float x object => exact .inl ⟨_, .float x object, rfl⟩
  | text s => exact .inl ⟨_, .text s, rfl⟩
  | keyword k => exact .inl ⟨_, .keyword k, rfl⟩

theorem items_written (items : List Value) :
    items.mapM Value.written = if Form.itemsOverlong (Value.forms items) then .error .tooManyDigits
      else .ok (Form.displayItems (Value.forms items)) := by
  induction items with
  | nil => rfl
  | cons item rest hypothesis =>
      rw [List.mapM_cons, hypothesis, Value.written, Value.isOverlong, Value.forms, Form.itemsOverlong]
      cases item.form.isOverlong with
      | true => rfl
      | false => cases Form.itemsOverlong (Value.forms rest) <;> rfl

theorem fields_written (fields : List (String × Value)) :
    (fields.mapM fun field => field.2.written.map fun text => field.1 ++ "=" ++ text) =
      if Form.fieldsOverlong (Value.fieldForms fields) then .error .tooManyDigits
      else .ok (Form.displayFields (Value.fieldForms fields)) := by
  induction fields with
  | nil => rfl
  | cons field rest hypothesis =>
      rw [List.mapM_cons, hypothesis, Value.written, Value.isOverlong, Value.fieldForms, Form.fieldsOverlong]
      cases field.2.form.isOverlong with
      | true => rfl
      | false => cases Form.fieldsOverlong (Value.fieldForms rest) <;> rfl

-- One item alone has a comma behind it.
theorem tuple_written (handle : Handle) (items : List Value) :
    (Value.tuple handle items).written = (items.mapM Value.written).map fun texts =>
      "(" ++ ", ".intercalate texts ++ (if texts.length = 1 then ",)" else ")") := by
  rw [items_written, Value.written, Value.isOverlong, Value.display, Value.form, Form.isOverlong, Form.display]
  cases Form.itemsOverlong (Value.forms items) with
  | true => rfl
  | false =>
      refine congrArg Except.ok ?_
      cases Form.displayItems (Value.forms items) with
      | nil => rfl
      | cons first rest => cases rest <;> rfl

theorem record_written (value : Value) (cls : RecordClass) (fields : List (String × Value))
    (shown : value.record? = some (cls, fields)) :
    value.written =
      (fields.mapM fun field : String × Value => field.2.written.map fun text => field.1 ++ "=" ++ text).map
        fun texts => cls.name ++ "(" ++ ", ".intercalate texts ++ ")" := by
  rw [fields_written, Value.written, Value.isOverlong, Value.display, record_form value cls fields shown, Form.isOverlong,
    Form.display]
  cases Form.fieldsOverlong (Value.fieldForms fields) <;> rfl

end Schemata
