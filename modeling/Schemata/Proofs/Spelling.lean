import Schemata.Proofs.Congruence
import Schemata.Proofs.Copy
import Schemata.Proofs.Fingerprint

set_option autoImplicit false

/-!
Spellings of raw values. A raw value can be spelled with lists or with tuples, with tables or with frozen tables, and
a copy of it is spelled in one way throughout. Equality sees some of the spelling, but copies in one spelling are equal
just when copies in the other one are.
-/

namespace Schemata

mutual
-- The form of a copy. A record is not gone into.
def Form.recast (access : Access) : Form → Form
  | .sequence _ items => .sequence access (Form.recastItems access items)
  | .mapping _ entries => .mapping access (Form.recastEntries access entries)
  | form => form
def Form.recastItems (access : Access) : List Form → List Form
  | [] => []
  | item :: rest => item.recast access :: Form.recastItems access rest
def Form.recastEntries (access : Access) : List (Form × Form) → List (Form × Form)
  | [] => []
  | (key, form) :: rest => (key, form.recast access) :: Form.recastEntries access rest
end

-- The same but for the access of containers, at any depth.
inductive Form.Respelled : Form → Form → Prop where
  | refl (form : Form) : Respelled form form
  | sequence (access other : Access) (items others : List Form) (length : items.length = others.length)
      (below : ∀ pair ∈ items.zip others, Respelled pair.1 pair.2) :
      Respelled (.sequence access items) (.sequence other others)
  | mapping (access other : Access) (entries others : List (Form × Form)) (length : entries.length = others.length)
      (keys : ∀ pair ∈ entries.zip others, pair.1.1 = pair.2.1)
      (below : ∀ pair ∈ entries.zip others, Respelled pair.1.2 pair.2.2) :
      Respelled (.mapping access entries) (.mapping other others)

def Value.Respelled (a b : Value) : Prop := a.form.Respelled b.form

section Recasts

variable (access : Access)

theorem recast_items_map (items : List Form) : Form.recastItems access items = items.map (Form.recast access) := by
  induction items with
  | nil => rfl
  | cons item rest hypothesis => rw [Form.recastItems, hypothesis, List.map_cons]

theorem recast_entries_map (entries : List (Form × Form)) :
    Form.recastEntries access entries = entries.map fun entry => (entry.1, entry.2.recast access) := by
  induction entries with
  | nil => rfl
  | cons entry rest hypothesis => rw [Form.recastEntries, hypothesis, List.map_cons]

theorem recast_sequence (own : Access) (items : List Form) :
    (Form.sequence own items).recast access = .sequence access (items.map (Form.recast access)) := by
  rw [Form.recast, recast_items_map]

theorem recast_mapping (own : Access) (entries : List (Form × Form)) :
    (Form.mapping own entries).recast access =
      .mapping access (entries.map fun entry => (entry.1, entry.2.recast access)) := by
  rw [Form.recast, recast_entries_map]

theorem recast_comparable (form : Form) (comparable : form.Comparable) : (form.recast access).Comparable := by
  induction comparable with
  | scalar s defined => exact .scalar s defined
  | sequence own items _ hypothesis =>
      rw [recast_sequence]
      exact .sequence access _ (List.forall_mem_map.mpr hypothesis)
  | mapping own entries keys _ apart _ hypothesis =>
      rw [recast_mapping]
      exact .mapping access _ (List.forall_mem_map.mpr keys) (List.forall_mem_map.mpr hypothesis)
        (List.pairwise_map.mpr apart)
  | record cls fields below _ => exact .record cls fields below

theorem images_along {α β : Type} (image : α → β) (items others : List α) (length : items.length = others.length)
    (same : ∀ pair ∈ items.zip others, image pair.1 = image pair.2) : items.map image = others.map image := by
  rw [← List.forall₂_eq_eq_eq, List.forall₂_map_left_iff, List.forall₂_map_right_iff]
  exact List.forall₂_iff_zip.mpr ⟨length, fun member => same _ member⟩

-- What is the same stays the same in one spelling, level by level. The keys of mappings are not copied.
theorem recast_same (a : Form) (comparable : a.Comparable) :
    ∀ b : Form, b.Comparable → a.same b = true → (a.recast access).same (b.recast access) = true := by
  induction comparable with
  | scalar s defined =>
      intro b known same
      have agrees := (same_agrees _ b (.scalar s defined) known).mp same
      cases known with
      | scalar t _ => exact same
      | _ => exact agrees.elim
  | sequence own items below hypothesis =>
      intro b known same
      have left := recast_comparable access _ (.sequence own items below)
      have right := recast_comparable access b known
      rw [same_agrees _ b (.sequence own items below) known] at same
      rw [same_agrees _ _ left right]
      cases known with
      | sequence other others known =>
          rw [recast_sequence, recast_sequence]
          refine ⟨rfl, List.forall₂_map_left_iff.mpr (List.forall₂_map_right_iff.mpr ?_)⟩
          refine List.forall₂_iff_zip.mpr ⟨same.2.length_eq, fun {item another} member => ?_⟩
          obtain ⟨here, there⟩ := List.of_mem_zip member
          have alike := comparable_fits item another (below item here) (List.forall₂_zip same.2 member)
          exact same_fits _ _ (hypothesis item here another (known another there) alike)
      | _ => exact same.elim
  | mapping own entries keys below apart _ hypothesis =>
      intro b known same
      have left := recast_comparable access _ (.mapping own entries keys below apart)
      have right := recast_comparable access b known
      rw [same_agrees _ b (.mapping own entries keys below apart) known] at same
      rw [same_agrees _ _ left right]
      cases known with
      | mapping other others _ known _ =>
          rw [recast_mapping, recast_mapping]
          refine ⟨by simpa using same.1, List.forall_mem_map.mpr fun entry member => ?_⟩
          obtain ⟨another, there, key, value⟩ := same.2 entry member
          have alike := comparable_fits entry.2 another.2 (below entry member) value
          exact ⟨_, List.mem_map_of_mem there, key,
            same_fits _ _ (hypothesis entry member _ (known another there) alike)⟩
      | _ => exact same.elim
  | record cls fields below _ =>
      intro b known same
      have agrees := (same_agrees _ b (.record cls fields below) known).mp same
      cases known with
      | record other others _ => exact same
      | _ => exact agrees.elim

theorem respelled_recast (a b : Form) (respelled : a.Respelled b) : a.recast access = b.recast access := by
  induction respelled with
  | refl form => rfl
  | sequence own other items others length _ hypothesis =>
      rw [recast_sequence, recast_sequence]
      exact congrArg (Form.sequence access) (images_along _ items others length hypothesis)
  | mapping own other entries others length keys _ hypothesis =>
      rw [recast_mapping, recast_mapping]
      refine congrArg (Form.mapping access) (images_along _ entries others length fun pair member => ?_)
      exact Prod.ext (keys pair member) (hypothesis pair member)

end Recasts

-- Only the last spelling counts.
theorem recast_twice (first second : Access) (form : Form) (comparable : form.Comparable) :
    (form.recast first).recast second = form.recast second := by
  induction comparable with
  | scalar s defined => rfl
  | sequence own items _ hypothesis =>
      rw [recast_sequence, recast_sequence, recast_sequence, List.map_map]
      exact congrArg (Form.sequence second) (List.map_congr_left hypothesis)
  | mapping own entries _ _ _ _ hypothesis =>
      rw [recast_mapping, recast_mapping, recast_mapping, List.map_map]
      refine congrArg (Form.mapping second) (List.map_congr_left fun entry member => ?_)
      exact congrArg (entry.1, ·) (hypothesis entry member)
  | record cls fields _ _ => rfl

theorem recasts_agree (first second : Access) (a b : Form) (left : a.Comparable) (right : b.Comparable) :
    (a.recast first).same (b.recast first) = (a.recast second).same (b.recast second) := by
  have turned (own other : Access) (same : (a.recast own).same (b.recast own) = true) :
      (a.recast other).same (b.recast other) = true := by
    rw [← recast_twice own other a left, ← recast_twice own other b right]
    exact recast_same other _ (recast_comparable own a left) _ (recast_comparable own b right) same
  exact Bool.eq_iff_iff.mpr ⟨turned first second, turned second first⟩

theorem sequence_form (access : Access) (items : List Value) :
    (access.sequence items).form = .sequence access (items.map Value.form) := by
  cases access with
  | editable => rw [Access.sequence, Value.form, Value.forms_eq_map]
  | fixed => rw [Access.sequence, Value.form, Value.forms_eq_map]

theorem mapping_form (access : Access) (entries : List (Value × Value)) :
    (access.mapping entries).form = .mapping access (entries.map fun entry => (entry.1.form, entry.2.form)) := by
  cases access with
  | editable => rw [Access.mapping, Value.form, Value.entry_forms_eq_map]
  | fixed => rw [Access.mapping, Value.form, Value.entry_forms_eq_map]

theorem record_leaf (value : Value) (cls : RecordClass) (fields : List (String × Value))
    (shown : value.record? = some (cls, fields)) : value.IsLeaf := by
  cases value with
  | list handle items => cases shown
  | tuple handle items => cases shown
  | table handle entries => cases shown
  | frozen handle entries => cases shown
  | showing handle other => cases shown
  | elsewhere handle shape => cases shown
  | _ => simp [Value.IsLeaf, Value.shape?]

theorem scalar_leaf (s : Scalar) : (Value.scalar s).IsLeaf := by simp [Value.IsLeaf, Value.shape?]

theorem comparable_nested (value : Value) (comparable : value.Comparable) : value.Nested := by
  induction comparable with
  | scalar s _ => exact .leaf _ (scalar_leaf s)
  | list handle items _ hypothesis => exact .list handle items hypothesis
  | tuple handle items _ hypothesis => exact .tuple handle items hypothesis
  | table handle entries _ _ _ _ hypothesis => exact .table handle entries hypothesis
  | frozen handle entries _ _ _ _ hypothesis => exact .frozen handle entries hypothesis
  | record value cls fields shown _ _ => exact .leaf value (record_leaf value cls fields shown)

section Copies

variable (access : Access)

theorem sequence_copy_form (own : Access) (items : List Value)
    (each : ∀ item ∈ items, (item.copyTo access).form = item.form.recast access) :
    (access.sequence (items.map (Value.copyTo access))).form = (Form.sequence own (Value.forms items)).recast access := by
  rw [sequence_form, recast_sequence, Value.forms_eq_map, List.map_map, List.map_map]
  exact congrArg (Form.sequence access) (List.map_congr_left each)

theorem mapping_copy_form (own : Access) (entries : List (Value × Value))
    (each : ∀ entry ∈ entries, (entry.2.copyTo access).form = entry.2.form.recast access) :
    (access.mapping (entries.map fun entry => (entry.1, entry.2.copyTo access))).form =
      (Form.mapping own (Value.entryForms entries)).recast access := by
  rw [mapping_form, recast_mapping, Value.entry_forms_eq_map, List.map_map, List.map_map]
  refine congrArg (Form.mapping access) (List.map_congr_left fun entry member => ?_)
  exact congrArg (entry.1.form, ·) (each entry member)

theorem copy_form (value : Value) (comparable : value.Comparable) :
    (value.copyTo access).form = value.form.recast access := by
  induction comparable with
  | scalar s _ =>
      rw [(leaf_kept _ (scalar_leaf s)).2, Value.form]
      rfl
  | list handle items _ hypothesis =>
      rw [copy_list, Value.form]
      exact sequence_copy_form access .editable items hypothesis
  | tuple handle items _ hypothesis =>
      rw [copy_tuple, Value.form]
      exact sequence_copy_form access .fixed items hypothesis
  | table handle entries _ _ _ _ hypothesis =>
      rw [copy_table, Value.form]
      exact mapping_copy_form access .editable entries hypothesis
  | frozen handle entries _ _ _ _ hypothesis =>
      rw [copy_frozen, Value.form]
      exact mapping_copy_form access .fixed entries hypothesis
  | record value cls fields shown _ _ =>
      rw [(leaf_kept value (record_leaf value cls fields shown)).2, record_form value cls fields shown]
      rfl

theorem copies_equal (a b : Value) (left : a.Comparable) (right : b.Comparable) :
    (a.copyTo access).equals (b.copyTo access) =
      .ok ((a.form.recast access).same (b.form.recast access)) := by
  have first := copy_form access a left
  have second := copy_form access b right
  rw [comparable_forms_equal, Value.same, first, second]
  · exact first ▸ recast_comparable access _ (form_comparable a left)
  · exact second ▸ recast_comparable access _ (form_comparable b right)

theorem copies_equal_part (a b : Value) (left : a.Comparable) (right : b.Comparable) :
    (a.copyTo access).equalsPart (b.copyTo access) = (a.copyTo access).equals (b.copyTo access) := by
  apply comparable_part
  · exact copy_form access a left ▸ recast_comparable access _ (form_comparable a left)
  · exact copy_form access b right ▸ recast_comparable access _ (form_comparable b right)

end Copies

-- Whether the copies of two values are equal, where there are copies.
def Value.frozenEquals (a b : Value) : Except Fault Bool := do
  let first ← a.frozenCopy
  let second ← b.frozenCopy
  first.equals second

def Value.thawedEquals (a b : Value) : Except Fault Bool := do
  let first ← a.thawedCopy
  let second ← b.thawedCopy
  first.equals second

theorem frozen_equals_copies (a b : Value) (left : a.Nested) (right : b.Nested) :
    a.frozenEquals b = (a.copyTo .fixed).equals (b.copyTo .fixed) := by
  rw [Value.frozenEquals, frozen_copy_ok a left, frozen_copy_ok b right]
  rfl

theorem thawed_equals_copies (a b : Value) (left : a.Nested) (right : b.Nested) :
    a.thawedEquals b = (a.copyTo .editable).equals (b.copyTo .editable) := by
  rw [Value.thawedEquals, thawed_copy_ok a left, thawed_copy_ok b right]
  rfl

-- What two values answer when their copies are compared, whichever copies these are.
structure CopiesAnswer (a b : Value) (answer : Bool) : Prop where
  frozen : a.frozenEquals b = .ok answer
  thawed : a.thawedEquals b = .ok answer
  equal : a.equals b = .ok true → answer = true
  respelled : a.Respelled b → answer = true

theorem copies_answer (a b : Value) (left : a.Comparable) (right : b.Comparable) :
    ∃ answer, CopiesAnswer a b answer := by
  have nested := comparable_nested a left
  have nestedToo := comparable_nested b right
  have known := form_comparable a left
  have knownToo := form_comparable b right
  refine ⟨(a.form.recast .fixed).same (b.form.recast .fixed), ?_, ?_, fun equal => ?_, fun respelled => ?_⟩
  · rw [frozen_equals_copies a b nested nestedToo, copies_equal .fixed a b left right]
  · rw [thawed_equals_copies a b nested nestedToo, copies_equal .editable a b left right,
      recasts_agree .editable .fixed _ _ known knownToo]
  · exact recast_same .fixed _ known _ knownToo ((equals_iff a b).mp equal).2
  · rw [respelled_recast .fixed _ _ respelled]
    exact (comparable_lawful _ (recast_comparable .fixed _ knownToo)).refl

-- The thawed copies of frozen copies are those of the values themselves.
theorem stored_thawed (a b : Value) (left : a.Nested) (right : b.Nested) :
    (a.copyTo .fixed).thawedEquals (b.copyTo .fixed) = a.thawedEquals b := by
  rw [thawed_equals_copies _ _ (nested_copy .fixed a left) (nested_copy .fixed b right),
    thawed_equals_copies a b left right, copy_copy .fixed .editable a left, copy_copy .fixed .editable b right]

end Schemata
