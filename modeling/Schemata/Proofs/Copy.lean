import Schemata.Freeze

set_option autoImplicit false

/-!
Copies of raw values. A copy is of one access: the frozen copy has fixed containers only, the thawed copy
has editable ones. A copy of a copy is the copy that it would have been of the value itself, and the thawed
copy of a value of editable containers is that value again, held by nobody.
-/

namespace Schemata

def Value.copyTo : Access → Value → Value
  | .fixed => Value.freeze
  | .editable => Value.thaw

def Access.sequence : Access → List Value → Value
  | .fixed => .tuple none
  | .editable => .list none

def Access.mapping : Access → List (Value × Value) → Value
  | .fixed => .frozen none
  | .editable => .table none

def Value.IsLeaf (value : Value) : Prop :=
  value.shape? ∉ [some Shape.list, some Shape.tuple, some Shape.table, some Shape.frozen]

-- Containers nested to any depth around leaves. What a frozen table shows is a mapping.
inductive Value.Nested : Value → Prop where
  | list (handle : Handle) (items : List Value) (below : ∀ item ∈ items, item.Nested) :
      Nested (.list handle items)
  | tuple (handle : Handle) (items : List Value) (below : ∀ item ∈ items, item.Nested) :
      Nested (.tuple handle items)
  | table (handle : Handle) (entries : List (Value × Value)) (below : ∀ entry ∈ entries, entry.2.Nested) :
      Nested (.table handle entries)
  | frozen (handle : Handle) (entries : List (Value × Value)) (below : ∀ entry ∈ entries, entry.2.Nested) :
      Nested (.frozen handle entries)
  | showing (handle : Nat) (other : Value) (mapping : other.isMapping = true) (below : other.Nested) :
      Nested (.showing handle other)
  | leaf (value : Value) (plain : value.IsLeaf) : Nested value

-- Containers of one access around leaves, held by nobody.
inductive Value.Uniform (access : Access) : Value → Prop where
  | sequence (items : List Value) (below : ∀ item ∈ items, Uniform access item) :
      Uniform access (access.sequence items)
  | mapping (entries : List (Value × Value)) (below : ∀ entry ∈ entries, Uniform access entry.2) :
      Uniform access (access.mapping entries)
  | leaf (value : Value) (plain : value.IsLeaf) : Uniform access value

-- Fixed containers around leaves, as copies for good are, whoever holds them.
inductive Value.Fixed : Value → Prop where
  | tuple (handle : Handle) (items : List Value) (below : ∀ item ∈ items, item.Fixed) : Fixed (.tuple handle items)
  | frozen (handle : Handle) (entries : List (Value × Value)) (below : ∀ entry ∈ entries, entry.2.Fixed) :
      Fixed (.frozen handle entries)
  | leaf (value : Value) (plain : value.IsLeaf) : Fixed value

-- Scalars in editable containers.
inductive Value.PlainJson : Value → Prop where
  | scalar (s : Scalar) : PlainJson (.scalar s)
  | list (handle : Handle) (items : List Value) (below : ∀ item ∈ items, item.PlainJson) :
      PlainJson (.list handle items)
  | table (handle : Handle) (entries : List (Value × Value)) (below : ∀ entry ∈ entries, entry.2.PlainJson) :
      PlainJson (.table handle entries)

theorem freeze_items_map (items : List Value) : Value.freezeItems items = items.map Value.freeze := by
  induction items with
  | nil => rfl
  | cons item rest hypothesis => rw [Value.freezeItems, hypothesis, List.map_cons]

theorem thaw_items_map (items : List Value) : Value.thawItems items = items.map Value.thaw := by
  induction items with
  | nil => rfl
  | cons item rest hypothesis => rw [Value.thawItems, hypothesis, List.map_cons]

theorem freeze_entries_map (entries : List (Value × Value)) :
    Value.freezeEntries entries = entries.map fun entry => (entry.1, entry.2.freeze) := by
  induction entries with
  | nil => rfl
  | cons entry rest hypothesis => rw [Value.freezeEntries, hypothesis, List.map_cons]

theorem thaw_entries_map (entries : List (Value × Value)) :
    Value.thawEntries entries = entries.map fun entry => (entry.1, entry.2.thaw) := by
  induction entries with
  | nil => rfl
  | cons entry rest hypothesis => rw [Value.thawEntries, hypothesis, List.map_cons]

theorem copy_list (access : Access) (handle : Handle) (items : List Value) :
    (Value.list handle items).copyTo access = access.sequence (items.map (Value.copyTo access)) := by
  cases access with
  | editable => exact congrArg (Value.list none) (thaw_items_map items)
  | fixed => exact congrArg (Value.tuple none) (freeze_items_map items)

theorem copy_tuple (access : Access) (handle : Handle) (items : List Value) :
    (Value.tuple handle items).copyTo access = access.sequence (items.map (Value.copyTo access)) := by
  cases access with
  | editable => exact congrArg (Value.list none) (thaw_items_map items)
  | fixed => exact congrArg (Value.tuple none) (freeze_items_map items)

theorem copy_table (access : Access) (handle : Handle) (entries : List (Value × Value)) :
    (Value.table handle entries).copyTo access =
      access.mapping (entries.map fun entry => (entry.1, entry.2.copyTo access)) := by
  cases access with
  | editable => exact congrArg (Value.table none) (thaw_entries_map entries)
  | fixed => exact congrArg (Value.frozen none) (freeze_entries_map entries)

theorem copy_frozen (access : Access) (handle : Handle) (entries : List (Value × Value)) :
    (Value.frozen handle entries).copyTo access =
      access.mapping (entries.map fun entry => (entry.1, entry.2.copyTo access)) := by
  cases access with
  | editable => exact congrArg (Value.table none) (thaw_entries_map entries)
  | fixed => exact congrArg (Value.frozen none) (freeze_entries_map entries)

theorem copy_showing (access : Access) (handle : Nat) (other : Value) (mapping : other.isMapping = true) :
    (Value.showing handle other).copyTo access = other.copyTo access := by
  cases access with
  | editable => exact if_pos mapping
  | fixed => exact if_pos mapping

theorem leaf_kept (value : Value) (leaf : value.IsLeaf) :
    value.checkCopy = .ok () ∧ ∀ access : Access, value.copyTo access = value := by
  cases value with
  | list handle items => exact absurd leaf (by simp [Value.IsLeaf, Value.shape?])
  | tuple handle items => exact absurd leaf (by simp [Value.IsLeaf, Value.shape?])
  | table handle entries => exact absurd leaf (by simp [Value.IsLeaf, Value.shape?])
  | frozen handle entries => exact absurd leaf (by simp [Value.IsLeaf, Value.shape?])
  | showing handle other => exact absurd leaf (by simp [Value.IsLeaf, Value.shape?])
  | _ => exact ⟨rfl, fun access => by cases access <;> rfl⟩

theorem copy_sequence (first second : Access) (items : List Value) :
    (first.sequence items).copyTo second = second.sequence (items.map (Value.copyTo second)) := by
  cases first with
  | editable => exact copy_list second none items
  | fixed => exact copy_tuple second none items

theorem copy_mapping (first second : Access) (entries : List (Value × Value)) :
    (first.mapping entries).copyTo second =
      second.mapping (entries.map fun entry => (entry.1, entry.2.copyTo second)) := by
  cases first with
  | editable => exact copy_table second none entries
  | fixed => exact copy_frozen second none entries

theorem copy_copied_sequence (first second : Access) (items : List Value)
    (below : ∀ item ∈ items, (item.copyTo first).copyTo second = item.copyTo second) :
    (first.sequence (items.map (Value.copyTo first))).copyTo second =
      second.sequence (items.map (Value.copyTo second)) := by
  rw [copy_sequence, List.map_map]
  exact congrArg second.sequence (List.map_congr_left below)

theorem copy_copied_mapping (first second : Access) (entries : List (Value × Value))
    (below : ∀ entry ∈ entries, (entry.2.copyTo first).copyTo second = entry.2.copyTo second) :
    (first.mapping (entries.map fun entry => (entry.1, entry.2.copyTo first))).copyTo second =
      second.mapping (entries.map fun entry => (entry.1, entry.2.copyTo second)) := by
  rw [copy_mapping, List.map_map]
  refine congrArg second.mapping (List.map_congr_left fun entry member => ?_)
  exact congrArg (entry.1, ·) (below entry member)

-- Only the access of the last copy counts.
theorem copy_copy (first second : Access) (value : Value) (nested : value.Nested) :
    (value.copyTo first).copyTo second = value.copyTo second := by
  induction nested with
  | list handle items _ hypothesis =>
      rw [copy_list, copy_list]
      exact copy_copied_sequence first second items hypothesis
  | tuple handle items _ hypothesis =>
      rw [copy_tuple, copy_tuple]
      exact copy_copied_sequence first second items hypothesis
  | table handle entries _ hypothesis =>
      rw [copy_table, copy_table]
      exact copy_copied_mapping first second entries hypothesis
  | frozen handle entries _ hypothesis =>
      rw [copy_frozen, copy_frozen]
      exact copy_copied_mapping first second entries hypothesis
  | showing handle other mapping _ hypothesis =>
      rw [copy_showing first handle other mapping, copy_showing second handle other mapping]
      exact hypothesis
  | leaf value plain => rw [(leaf_kept value plain).2 first]

theorem copy_uniform (access : Access) (value : Value) (nested : value.Nested) :
    (value.copyTo access).Uniform access := by
  induction nested with
  | list handle items _ hypothesis =>
      rw [copy_list]
      exact .sequence _ (List.forall_mem_map.mpr hypothesis)
  | tuple handle items _ hypothesis =>
      rw [copy_tuple]
      exact .sequence _ (List.forall_mem_map.mpr hypothesis)
  | table handle entries _ hypothesis =>
      rw [copy_table]
      exact .mapping _ (List.forall_mem_map.mpr hypothesis)
  | frozen handle entries _ hypothesis =>
      rw [copy_frozen]
      exact .mapping _ (List.forall_mem_map.mpr hypothesis)
  | showing handle other mapping _ hypothesis =>
      rw [copy_showing access handle other mapping]
      exact hypothesis
  | leaf value plain =>
      rw [(leaf_kept value plain).2 access]
      exact .leaf value plain

theorem uniform_nested (access : Access) (value : Value) (uniform : value.Uniform access) : value.Nested := by
  induction uniform with
  | sequence items _ hypothesis =>
      cases access with
      | editable => exact .list none items hypothesis
      | fixed => exact .tuple none items hypothesis
  | mapping entries _ hypothesis =>
      cases access with
      | editable => exact .table none entries hypothesis
      | fixed => exact .frozen none entries hypothesis
  | leaf value plain => exact .leaf value plain

theorem nested_copy (access : Access) (value : Value) (nested : value.Nested) : (value.copyTo access).Nested :=
  uniform_nested access _ (copy_uniform access value nested)

theorem check_items_ok (items : List Value) (below : ∀ item ∈ items, item.checkCopy = .ok ()) :
    Value.checkItems items = .ok () := by
  induction items with
  | nil => rfl
  | cons item rest hypothesis =>
      rw [Value.checkItems, below item List.mem_cons_self]
      exact hypothesis fun other member => below other (List.mem_cons_of_mem item member)

theorem check_entries_ok (entries : List (Value × Value))
    (below : ∀ entry ∈ entries, entry.2.checkCopy = .ok ()) : Value.checkEntries entries = .ok () := by
  induction entries with
  | nil => rfl
  | cons entry rest hypothesis =>
      rw [Value.checkEntries, below entry List.mem_cons_self]
      exact hypothesis fun other member => below other (List.mem_cons_of_mem entry member)

theorem check_nested (value : Value) (nested : value.Nested) : value.checkCopy = .ok () := by
  induction nested with
  | list handle items _ hypothesis => exact check_items_ok items hypothesis
  | tuple handle items _ hypothesis => exact check_items_ok items hypothesis
  | table handle entries _ hypothesis => exact check_entries_ok entries hypothesis
  | frozen handle entries _ hypothesis => exact check_entries_ok entries hypothesis
  | showing handle other mapping _ hypothesis =>
      rw [Value.checkCopy, if_pos mapping]
      exact hypothesis
  | leaf value plain => exact (leaf_kept value plain).1

theorem frozen_copy_ok (value : Value) (nested : value.Nested) : value.frozenCopy = .ok value.freeze := by
  rw [Value.frozenCopy, check_nested value nested]
  rfl

theorem thawed_copy_ok (value : Value) (nested : value.Nested) : value.thawedCopy = .ok value.thaw := by
  rw [Value.thawedCopy, check_nested value nested]
  rfl

theorem plain_nested (value : Value) (plain : value.PlainJson) : value.Nested := by
  induction plain with
  | scalar s => exact .leaf (.scalar s) (by simp [Value.IsLeaf, Value.shape?])
  | list handle items _ hypothesis => exact .list handle items hypothesis
  | table handle entries _ hypothesis => exact .table handle entries hypothesis

theorem thaw_plain (value : Value) (plain : value.PlainJson) : value.thaw.form = value.form := by
  induction plain with
  | scalar s => rfl
  | list handle items _ hypothesis =>
      rw [Value.thaw, thaw_items_map, Value.form, Value.form, Value.forms_eq_map, Value.forms_eq_map, List.map_map]
      exact congrArg (Form.sequence .editable) (List.map_congr_left hypothesis)
  | table handle entries _ hypothesis =>
      rw [Value.thaw, thaw_entries_map, Value.form, Value.form, Value.entry_forms_eq_map,
        Value.entry_forms_eq_map, List.map_map]
      refine congrArg (Form.mapping .editable) (List.map_congr_left fun entry member => ?_)
      exact congrArg (entry.1.form, ·) (hypothesis entry member)

theorem fixed_nested (value : Value) (fixed : value.Fixed) : value.Nested := by
  induction fixed with
  | tuple handle items _ hypothesis => exact .tuple handle items hypothesis
  | frozen handle entries _ hypothesis => exact .frozen handle entries hypothesis
  | leaf value plain => exact .leaf value plain

theorem freeze_fixed (value : Value) (fixed : value.Fixed) : value.freeze.form = value.form := by
  induction fixed with
  | tuple handle items _ hypothesis =>
      rw [Value.freeze, freeze_items_map, Value.form, Value.form, Value.forms_eq_map, Value.forms_eq_map, List.map_map]
      exact congrArg (Form.sequence .fixed) (List.map_congr_left hypothesis)
  | frozen handle entries _ hypothesis =>
      rw [Value.freeze, freeze_entries_map, Value.form, Value.form, Value.entry_forms_eq_map,
        Value.entry_forms_eq_map, List.map_map]
      refine congrArg (Form.mapping .fixed) (List.map_congr_left fun entry member => ?_)
      exact congrArg (entry.1.form, ·) (hypothesis entry member)
  | leaf value plain => exact congrArg Value.form ((leaf_kept value plain).2 .fixed)

theorem freeze_thawed (value : Value) (fixed : value.Fixed) : value.thaw.freeze.form = value.form := by
  have again : value.thaw.freeze = value.freeze := copy_copy .editable .fixed value (fixed_nested value fixed)
  rw [again, freeze_fixed value fixed]

theorem thawed_nested (value : Value) (fixed : value.Fixed) : value.thaw.Nested :=
  nested_copy .editable value (fixed_nested value fixed)

-- Thawing gives the content of another value.
def Value.ThawsTo (stored value : Value) : Prop :=
  ∃ thawed, stored.thawedCopy = .ok thawed ∧ thawed.form = value.form

theorem frozen_thaws_to (value : Value) (plain : value.PlainJson) : value.freeze.ThawsTo value := by
  have nested := plain_nested value plain
  have again : value.freeze.thaw = value.thaw := copy_copy .fixed .editable value nested
  refine ⟨value.thaw, ?_, thaw_plain value plain⟩
  rw [thawed_copy_ok value.freeze (nested_copy .fixed value nested), again]

end Schemata
