import Schemata.Proofs.Comparison

set_option autoImplicit false

/-!
Comparison with words. A text or a word of a vocabulary is compared by its spelling, and nothing but a scalar is
equal to one. So any value can be compared with a word, and is equal to it exactly when it is spelled the same.
-/

namespace Schemata

theorem same_scalars (a b : Scalar) : (Value.scalar a).same (.scalar b) = a.same b := by
  simp [Value.same, Form.same, Form.sameBy, Value.form]

theorem word_amount (value : Scalar) (word : value.text?.isSome) : value.quantity? = none := by
  cases value with
  | text t => rfl
  | keyword k => rfl
  | _ => cases word

theorem same_as_word (s word : Scalar) (choice : String) (spelled : word.text? = some choice) :
    s.same word = (s.text? == some choice) := by
  rw [Scalar.same, word_amount word (Option.isSome_iff_exists.mpr ⟨choice, spelled⟩), spelled]
  cases amount : s.quantity? with
  | none => rfl
  | some q =>
      rw [amount_or_text s q amount]
      rfl

-- What is shown can show something else in turn.
theorem no_scalar_shown (table : Nat) (form : Form) (word : Scalar) :
    (Form.showing table form).same (.scalar word) = false := by
  rw [Form.same, Form.sameBy]
  · split
    · cases form with
      | showing handle other => exact no_scalar_shown handle other word
      | scalar s => contradiction
      | elsewhere handle shape => simp [Form.sameBy, Form.isOne]
      | _ => simp [Form.sameBy]
    · cases form.told <;> rfl
  · intro handle shape same
    cases same

-- Nothing but a scalar is the same as one.
theorem scalar_alone (form : Form) (word : Scalar) (unlike : ∀ s, form ≠ .scalar s) :
    form.same (.scalar word) = false := by
  cases form with
  | scalar s => exact absurd rfl (unlike s)
  | showing handle other => exact no_scalar_shown handle other word
  | _ => simp [Form.same, Form.sameBy, Form.isOne]

theorem nothing_before_scalar (form : Form) (word : Scalar) : form.obstacle? (.scalar word) = none := by
  cases form <;> simp [Form.obstacle?, Form.obstacleBy]

theorem compared_with_word (value : Value) (word : Scalar) (choice : String) (spelled : word.text? = some choice) :
    value.equals (.scalar word) = .ok (value.text? == some choice) := by
  have shown : (Value.scalar word).form = .scalar word := rfl
  rw [Value.equals, Value.same, shown, nothing_before_scalar]
  refine congrArg Except.ok ?_
  cases value with
  | scalar s => exact (same_scalars s word).trans (same_as_word s word choice spelled)
  | combinator handle c =>
      cases c
      exact scalar_alone _ word nofun
  | property handle p =>
      cases p
      exact scalar_alone _ word nofun
  | model handle m =>
      cases m
      exact scalar_alone _ word nofun
  | _ => exact scalar_alone _ word nofun

end Schemata
