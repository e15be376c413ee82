import Schemata.Proofs.Composed
import Schemata.Proofs.Fingerprint

set_option autoImplicit false

/-!
Fingerprints of composed forms. Where all that a form is composed of has a fingerprint, so has the form, and it
depends on these alone; a form with anything inside it that has none has none.
-/

namespace Schemata

section Beyond

variable (beyond : Nat → Shape → Except Fault UInt64)

theorem map_error {α β : Type} (f : α → β) (source : Except Fault α) (fault : Fault)
    (failed : source.map f = .error fault) : source = .error fault := by
  cases source with
  | error other => exact congrArg _ (Except.error.inj failed)
  | ok value => nomatch failed

theorem map_fails {α β : Type} (f : α → β) (source : Except Fault α) (failed : ∃ fault, source = .error fault) :
    ∃ fault, source.map f = .error fault := by
  obtain ⟨fault, rfl⟩ := failed
  exact ⟨fault, rfl⟩

theorem entry_mark_error (entry : Form × Form) (fault : Fault) (failed : entryMark beyond entry = .error fault) :
    entry.1.digestBy beyond = .error fault ∨ entry.2.digestBy beyond = .error fault := by
  rw [entryMark] at failed
  cases first : entry.1.digestBy beyond with
  | error other =>
      rw [first] at failed
      exact .inl (congrArg _ (Except.error.inj failed))
  | ok mark =>
      rw [first] at failed
      cases second : entry.2.digestBy beyond with
      | error other =>
          rw [second] at failed
          exact .inr (congrArg _ (Except.error.inj failed))
      | ok other =>
          rw [second] at failed
          cases failed

theorem entry_mark_fails (entry : Form × Form) (failed : ∃ fault, entry.2.digestBy beyond = .error fault) :
    ∃ fault, entryMark beyond entry = .error fault := by
  cases marked : entryMark beyond entry with
  | error fault => exact ⟨fault, rfl⟩
  | ok mark =>
      obtain ⟨_, second, _, there, _⟩ := entry_mark_parts beyond entry mark marked
      obtain ⟨fault, failed⟩ := failed
      nomatch failed.symm.trans there

-- The fault of a composed form is that of something that it is composed of.
theorem composed_error {sort : Form → Prop} {form : Form} (composed : form.Composed sort) :
    ∀ fault, form.digestBy beyond = .error fault → ∃ part, sort part ∧ part.digestBy beyond = .error fault := by
  induction composed with
  | given form is => exact fun fault failed => ⟨form, is, failed⟩
  | scalar s => exact fun fault failed => nomatch failed
  | member typeName => exact fun fault failed => nomatch failed
  | sequence items _ hypothesis =>
      intro fault failed
      rw [Form.digestBy, digest_items_map] at failed
      obtain ⟨item, member, failed⟩ := map_m_error _ items fault (map_error _ _ fault failed)
      exact hypothesis item member fault failed
  | mapping entries _ _ keyHypothesis hypothesis =>
      intro fault failed
      rw [Form.digestBy, digest_entries_map] at failed
      obtain ⟨entry, member, failed⟩ := map_m_error _ entries fault (map_error _ _ fault failed)
      rcases entry_mark_error beyond entry fault failed with key | value
      · exact keyHypothesis entry member fault key
      · exact hypothesis entry member fault value
  | record cls fields fixed _ hypothesis =>
      intro fault failed
      rw [record_digest beyond cls fields fixed, digest_fields_map] at failed
      obtain ⟨field, member, failed⟩ := map_m_error _ fields fault (map_error _ _ fault failed)
      exact hypothesis field member fault failed

theorem composed_marked {sort : Form → Prop} {form : Form} (composed : form.Composed sort)
    (each : ∀ part, sort part → ∃ mark, part.digestBy beyond = .ok mark) : ∃ mark, form.digestBy beyond = .ok mark := by
  cases marked : form.digestBy beyond with
  | ok mark => exact ⟨mark, rfl⟩
  | error fault =>
      obtain ⟨part, is, failed⟩ := composed_error beyond composed fault marked
      obtain ⟨mark, there⟩ := each part is
      nomatch failed.symm.trans there

theorem inside_fails {part form : Form} (inside : part.Inside form)
    (failed : ∃ fault, part.digestBy beyond = .error fault) : ∃ fault, form.digestBy beyond = .error fault := by
  induction inside with
  | here => exact failed
  | item access items item member _ hypothesis =>
      cases access with
      | editable => exact ⟨_, rfl⟩
      | fixed =>
          rw [Form.digestBy, digest_items_map]
          exact map_fails _ _ (map_m_fails _ items item member hypothesis)
  | entry access entries entry member _ hypothesis =>
      cases access with
      | editable => exact ⟨_, rfl⟩
      | fixed =>
          rw [Form.digestBy, digest_entries_map]
          exact map_fails _ _ (map_m_fails _ entries entry member (entry_mark_fails beyond entry hypothesis))
  | field cls fields field member _ hypothesis =>
      by_cases settings : cls = .settings
      · subst settings
        exact ⟨_, rfl⟩
      · rw [record_digest beyond cls fields settings, digest_fields_map]
        exact map_fails _ _ (map_m_fails _ fields field member hypothesis)

end Beyond

-- Where the fingerprints of what a form is composed of are the same, so is its own.
theorem composed_agree {sort : Form → Prop} {form : Form} (composed : form.Composed sort)
    (first second : Nat → Shape → Except Fault UInt64)
    (each : ∀ part, sort part → part.digestBy second = part.digestBy first) :
    form.digestBy second = form.digestBy first := by
  induction composed with
  | given form is => exact each form is
  | scalar s => rfl
  | member typeName => rfl
  | sequence items _ hypothesis =>
      rw [Form.digestBy, Form.digestBy, digest_items_map, digest_items_map, map_m_congr _ _ items hypothesis]
  | mapping entries _ _ keyHypothesis hypothesis =>
      have same : ∀ entry ∈ entries, entryMark second entry = entryMark first entry := fun entry member => by
        rw [entryMark, entryMark, keyHypothesis entry member, hypothesis entry member]
      rw [Form.digestBy, Form.digestBy, digest_entries_map, digest_entries_map, map_m_congr _ _ entries same]
  | record cls fields fixed _ hypothesis =>
      rw [record_digest second cls fields fixed, record_digest first cls fields fixed, digest_fields_map,
        digest_fields_map, map_m_congr _ _ fields hypothesis]

theorem whole_marked {form : Form} (whole : form.Whole) (beyond : Nat → Shape → Except Fault UInt64) :
    ∃ mark, form.digestBy beyond = .ok mark := composed_marked beyond whole fun _ none => none.elim

theorem whole_agree {form : Form} (whole : form.Whole) (first second : Nat → Shape → Except Fault UInt64) :
    form.digestBy second = form.digestBy first := composed_agree whole first second fun _ none => none.elim

end Schemata
