import Mathlib.Logic.Relation
import Schemata.Form.Digest
import Schemata.Proofs.Comparison

set_option autoImplicit false

/-!
Fingerprints of equal values. What is the same has the same fingerprint, if it has any: amounts and texts by
what they stand for, sequences and records by the fingerprints of their parts in order, frozen tables by
those of their entries in no order.
-/

namespace Schemata

theorem scalar_digests (a b : Scalar) (amount : a.quantity? = b.quantity?) (text : a.text? = b.text?) :
    a.digest = b.digest := by
  rw [Scalar.digest, Scalar.digest, amount, text]

theorem collection_perm (marks others : List UInt64) (perm : marks.Perm others) :
    Mixing.collection marks = Mixing.collection others := by
  have commutes : RightCommutative fun mixed mark : UInt64 => mixed ^^^ Mixing.shuffled mark :=
    ⟨fun mixed first second => by rw [UInt64.xor_assoc, UInt64.xor_comm (Mixing.shuffled first), ← UInt64.xor_assoc]⟩
  rw [Mixing.collection, Mixing.collection, perm.foldl_eq, perm.length_eq]

section Marks

variable (beyond : Nat → Shape → Except Fault UInt64)

def entryMark (entry : Form × Form) : Except Fault UInt64 := do
  let first ← entry.1.digestBy beyond
  let second ← entry.2.digestBy beyond
  return Mixing.sequence [first, second]

theorem digest_items_map (items : List Form) :
    Form.digestItems beyond items = items.mapM (Form.digestBy beyond) := by
  induction items with
  | nil => rfl
  | cons item rest hypothesis => rw [Form.digestItems, List.mapM_cons, hypothesis]

theorem digest_fields_map (fields : List (String × Form)) :
    Form.digestFields beyond fields = fields.mapM fun field => field.2.digestBy beyond := by
  induction fields with
  | nil => rfl
  | cons field rest hypothesis => rw [Form.digestFields, List.mapM_cons, hypothesis]

theorem digest_entries_map (entries : List (Form × Form)) :
    Form.digestEntries beyond entries = entries.mapM (entryMark beyond) := by
  induction entries with
  | nil => rfl
  | cons entry rest hypothesis =>
      obtain ⟨key, form⟩ := entry
      rw [Form.digestEntries, List.mapM_cons, hypothesis, entryMark]
      simp only [bind_assoc, pure_bind]

-- Lists that are the same item by item have the same marks.
theorem marks_along {α : Type} (mark : α → Except Fault UInt64) (related : α → α → Prop) (items others : List α)
    (along : List.Forall₂ related items others) (marks otherMarks : List UInt64)
    (each : ∀ item ∈ items, ∀ other ∈ others, related item other →
      ∀ m n, mark item = .ok m → mark other = .ok n → m = n)
    (marked : items.mapM mark = .ok marks) (otherMarked : others.mapM mark = .ok otherMarks) :
    marks = otherMarks := by
  replace marked := map_m_parts mark items marks marked
  replace otherMarked := map_m_parts mark others otherMarks otherMarked
  induction along generalizing marks otherMarks with
  | nil =>
      cases marked
      cases otherMarked
      rfl
  | @cons item other rest later here _ hypothesis =>
      cases marked with
      | @cons _ m _ ms first marked =>
          cases otherMarked with
          | @cons _ n _ ns second otherMarked =>
              have same := each item List.mem_cons_self other List.mem_cons_self here m n first second
              have tail := hypothesis ms ns (fun a member b otherMember => each a (List.mem_cons_of_mem item member) b
                (List.mem_cons_of_mem other otherMember)) marked otherMarked
              rw [same, tail]

theorem map_ok {α β : Type} (f : α → β) (source : Except Fault α) (result : β) (mapped : source.map f = .ok result) :
    ∃ value, source = .ok value ∧ f value = result := by
  cases source with
  | error fault => cases mapped
  | ok value => exact ⟨value, rfl, Except.ok.inj mapped⟩

theorem entry_mark_parts (entry : Form × Form) (m : UInt64) (marked : entryMark beyond entry = .ok m) :
    ∃ first second, entry.1.digestBy beyond = .ok first ∧ entry.2.digestBy beyond = .ok second ∧
      Mixing.sequence [first, second] = m := by
  rw [entryMark] at marked
  cases key : entry.1.digestBy beyond with
  | error fault =>
      rw [key] at marked
      cases marked
  | ok first =>
      cases value : entry.2.digestBy beyond with
      | error fault =>
          rw [key, value] at marked
          cases marked
      | ok second =>
          rw [key, value] at marked
          exact ⟨first, second, rfl, rfl, Except.ok.inj marked⟩

theorem record_digest (cls : RecordClass) (fields : List (String × Form)) (hashable : cls ≠ .settings) :
    (Form.record cls fields).digestBy beyond = (Form.digestFields beyond fields).map Mixing.sequence := by
  cases cls with
  | settings => exact absurd rfl hashable
  | _ => rfl

theorem settings_unmarked (cls : RecordClass) (fields : List (String × Form)) (m : UInt64)
    (marked : (Form.record cls fields).digestBy beyond = .ok m) : cls ≠ .settings := by
  rintro rfl
  cases marked

-- The same forms have the same fingerprint, where both have one.
theorem same_digests (a : Form) (comparable : a.Comparable) :
    ∀ b : Form, b.Comparable → a.same b = true →
      ∀ m n, a.digestBy beyond = .ok m → b.digestBy beyond = .ok n → m = n := by
  induction comparable with
  | scalar s defined =>
      intro b known same m n first second
      rw [same_agrees _ b (.scalar s defined) known] at same
      cases known with
      | scalar t _ =>
          rw [Form.digestBy] at first second
          rw [← Except.ok.inj first, ← Except.ok.inj second, scalar_digests s t same.1 same.2]
      | _ => exact same.elim
  | sequence access items below hypothesis =>
      intro b known same m n first second
      rw [same_agrees _ b (.sequence access items below) known] at same
      cases known with
      | sequence other others known =>
          obtain ⟨rfl, along⟩ := same
          cases access with
          | editable => cases first
          | fixed =>
              rw [Form.digestBy, digest_items_map] at first second
              obtain ⟨marks, marked, rfl⟩ := map_ok _ _ m first
              obtain ⟨otherMarks, otherMarked, rfl⟩ := map_ok _ _ n second
              refine congrArg Mixing.sequence
                (marks_along _ _ items others along marks otherMarks ?_ marked otherMarked)
              exact fun a member b otherMember fits =>
                hypothesis a member b (known b otherMember) (comparable_fits a b (below a member) fits)
      | _ => exact same.elim
  | mapping access entries keys below apart keyHypothesis hypothesis =>
      intro b known same m n first second
      rw [same_agrees _ b (.mapping access entries keys below apart) known] at same
      cases known with
      | mapping other others knownKeys known _ =>
          obtain ⟨arranged, perm, along⟩ := mapping_arranged entries others keys knownKeys apart same.1 same.2
          cases access with
          | editable => cases first
          | fixed =>
              cases other with
              | editable => cases second
              | fixed =>
                  rw [Form.digestBy, digest_entries_map] at first second
                  obtain ⟨marks, marked, rfl⟩ := map_ok _ _ m first
                  obtain ⟨otherMarks, otherMarked, rfl⟩ := map_ok _ _ n second
                  obtain ⟨arrangedMarks, marksPerm, arrangedMarked⟩ := map_m_perm _ arranged others perm _ otherMarked
                  rw [← collection_perm _ _ marksPerm]
                  refine congrArg Mixing.collection
                    (marks_along _ _ entries arranged along marks arrangedMarks ?_ marked arrangedMarked)
                  intro a member b inArranged here x y markA markB
                  have otherMember := perm.mem_iff.mp inArranged
                  obtain ⟨keyA, valueA, keyMarkA, valueMarkA, rfl⟩ := entry_mark_parts beyond a x markA
                  obtain ⟨keyB, valueB, keyMarkB, valueMarkB, rfl⟩ := entry_mark_parts beyond b y markB
                  have sameKey := comparable_fits a.1 b.1 (keys a member) here.1
                  have sameValue := comparable_fits a.2 b.2 (below a member) here.2
                  rw [keyHypothesis a member b.1 (knownKeys b otherMember) sameKey keyA keyB keyMarkA keyMarkB,
                    hypothesis a member b.2 (known b otherMember) sameValue valueA valueB valueMarkA valueMarkB]
      | _ => exact same.elim
  | record cls fields below hypothesis =>
      intro b known same m n first second
      rw [same_agrees _ b (.record cls fields below) known] at same
      cases known with
      | record other others known =>
          obtain ⟨rfl, along⟩ := same
          have hashable := settings_unmarked beyond cls fields m first
          rw [record_digest beyond cls _ hashable, digest_fields_map] at first second
          obtain ⟨marks, marked, rfl⟩ := map_ok _ _ m first
          obtain ⟨otherMarks, otherMarked, rfl⟩ := map_ok _ _ n second
          refine congrArg Mixing.sequence (marks_along _ _ fields others along marks otherMarks ?_ marked otherMarked)
          exact fun a member b otherMember fits =>
            hypothesis a member b.2 (known b otherMember) (comparable_fits a.2 b.2 (below a member) fits)
      | _ => exact same.elim

end Marks

-- One mapping, at any depth, has its entries in another order.
inductive Form.Shuffled : Form → Form → Prop where
  | here (access : Access) (entries others : List (Form × Form)) (perm : others.Perm entries) :
      Shuffled (.mapping access entries) (.mapping access others)
  | item (access : Access) (before : List Form) (item other : Form) (behind : List Form)
      (inside : Shuffled item other) :
      Shuffled (.sequence access (before ++ item :: behind)) (.sequence access (before ++ other :: behind))
  | entry (access : Access) (before : List (Form × Form)) (key form other : Form) (behind : List (Form × Form))
      (inside : Shuffled form other) :
      Shuffled (.mapping access (before ++ (key, form) :: behind)) (.mapping access (before ++ (key, other) :: behind))
  | field (cls : RecordClass) (before : List (String × Form)) (name : String) (form other : Form)
      (behind : List (String × Form)) (inside : Shuffled form other) :
      Shuffled (.record cls (before ++ (name, form) :: behind)) (.record cls (before ++ (name, other) :: behind))

theorem replaced_along {α : Type} (related : α → α → Prop) (before : List α) (item other : α) (behind : List α)
    (refl : ∀ kept ∈ before ++ behind, related kept kept) (here : related item other) :
    List.Forall₂ related (before ++ item :: behind) (before ++ other :: behind) := by
  refine List.rel_append (List.forall₂_same.mpr fun kept member => ?_)
    (.cons here (List.forall₂_same.mpr fun kept member => ?_))
  · exact refl kept (List.mem_append_left behind member)
  · exact refl kept (List.mem_append_right before member)

theorem replaced_all {α : Type} (condition : α → Prop) (before : List α) (item other : α) (behind : List α)
    (all : ∀ kept ∈ before ++ item :: behind, condition kept) (here : condition other) :
    (∀ kept ∈ before ++ behind, condition kept) ∧ ∀ kept ∈ before ++ other :: behind, condition kept := by
  simp only [List.mem_append, List.mem_cons] at all ⊢
  constructor
  · rintro kept (member | member)
    · exact all kept (.inl member)
    · exact all kept (.inr (.inr member))
  · rintro kept (member | rfl | member)
    · exact all kept (.inl member)
    · exact here
    · exact all kept (.inr (.inr member))

theorem marks_replaced {α : Type} (mark : α → Except Fault UInt64) (items others : List α)
    (along : List.Forall₂ (fun item other => ∀ m, mark item = .ok m → mark other = .ok m) items others)
    (marks : List UInt64) (marked : items.mapM mark = .ok marks) : others.mapM mark = .ok marks := by
  replace marked := map_m_parts mark items marks marked
  apply map_m_of_parts
  induction along generalizing marks with
  | nil => exact marked
  | cons here _ hypothesis =>
      cases marked with
      | cons first marked => exact .cons (here _ first) (hypothesis _ marked)

-- Another form that is the same and has the same fingerprint.
structure Form.Equivalent (beyond : Nat → Shape → Except Fault UInt64) (a b : Form) : Prop where
  comparable : b.Comparable
  same : a.same b = true
  digest : ∀ m, a.digestBy beyond = .ok m → b.digestBy beyond = .ok m

section Shuffles

variable (beyond : Nat → Shape → Except Fault UInt64)

theorem equivalent_refl (a : Form) (comparable : a.Comparable) : a.Equivalent beyond a :=
  ⟨comparable, (comparable_lawful a comparable).refl, fun _ marked => marked⟩

theorem apart_perm (entries others : List (Form × Form)) (perm : others.Perm entries)
    (keys : ∀ entry ∈ entries, entry.1.Comparable)
    (apart : entries.Pairwise fun entry other => entry.1.same other.1 = false) :
    others.Pairwise fun entry other => entry.1.same other.1 = false := by
  have both : entries.Pairwise fun entry other => entry.1.same other.1 = false ∧ other.1.same entry.1 = false := by
    refine apart.imp_of_mem fun {a b} member otherMember different => ⟨different, ?_⟩
    refine Bool.eq_false_iff.mpr fun same => Bool.false_ne_true ?_
    rw [← different]
    exact comparable_comm b.1 a.1 (keys b otherMember) (keys a member) same
  exact ((perm.pairwise_iff fun different => ⟨different.2, different.1⟩).mpr both).imp And.left

-- The order of entries is not in a fingerprint.
theorem digest_moved (access : Access) (entries others : List (Form × Form)) (perm : others.Perm entries) (m : UInt64)
    (marked : (Form.mapping access entries).digestBy beyond = .ok m) :
    (Form.mapping access others).digestBy beyond = .ok m := by
  cases access with
  | editable => cases marked
  | fixed =>
      rw [Form.digestBy, digest_entries_map] at marked ⊢
      obtain ⟨marks, entriesMarked, rfl⟩ := map_ok _ _ m marked
      obtain ⟨arranged, marksPerm, othersMarked⟩ := map_m_perm _ others entries perm marks entriesMarked
      rw [othersMarked]
      exact congrArg Except.ok (collection_perm arranged marks marksPerm)

theorem shuffled_here (access : Access) (entries others : List (Form × Form)) (perm : others.Perm entries)
    (comparable : (Form.mapping access entries).Comparable) :
    (Form.mapping access entries).Equivalent beyond (.mapping access others) := by
  cases comparable with
  | mapping _ _ keys below apart =>
      have known : (Form.mapping access others).Comparable :=
        .mapping access others (fun entry member => keys entry (perm.mem_iff.mp member))
          (fun entry member => below entry (perm.mem_iff.mp member)) (apart_perm entries others perm keys apart)
      refine ⟨known, ?_, ?_⟩
      · rw [same_agrees _ _ (.mapping access entries keys below apart) known]
        exact ⟨perm.length_eq.symm, fun entry member =>
          ⟨entry, perm.mem_iff.mpr member, fits_self entry.1, fits_self entry.2⟩⟩
      · exact fun m marked => digest_moved beyond access entries others perm m marked

theorem shuffled_item (access : Access) (before : List Form) (item other : Form) (behind : List Form)
    (comparable : (Form.sequence access (before ++ item :: behind)).Comparable)
    (inside : item.Equivalent beyond other) :
    (Form.sequence access (before ++ item :: behind)).Equivalent beyond
      (.sequence access (before ++ other :: behind)) := by
  cases comparable with
  | sequence _ _ below =>
      obtain ⟨kept, replaced⟩ := replaced_all _ before item other behind below inside.comparable
      have known : (Form.sequence access (before ++ other :: behind)).Comparable := .sequence access _ replaced
      refine ⟨known, ?_, ?_⟩
      · rw [same_agrees _ _ (.sequence access _ below) known]
        exact ⟨rfl, replaced_along _ before item other behind (fun item _ => fits_self item)
          (same_fits item other inside.same)⟩
      · intro m marked
        cases access with
        | editable => cases marked
        | fixed =>
            rw [Form.digestBy, digest_items_map] at marked ⊢
            obtain ⟨marks, itemsMarked, rfl⟩ := map_ok _ _ m marked
            rw [marks_replaced _ _ _ (replaced_along _ before item other behind (fun _ _ _ here => here) inside.digest)
              marks itemsMarked]
            rfl

theorem shuffled_field (cls : RecordClass) (before : List (String × Form)) (name : String) (form other : Form)
    (behind : List (String × Form)) (comparable : (Form.record cls (before ++ (name, form) :: behind)).Comparable)
    (inside : form.Equivalent beyond other) :
    (Form.record cls (before ++ (name, form) :: behind)).Equivalent beyond
      (.record cls (before ++ (name, other) :: behind)) := by
  cases comparable with
  | record _ _ below =>
      obtain ⟨kept, replaced⟩ := replaced_all _ before (name, form) (name, other) behind below inside.comparable
      have known : (Form.record cls (before ++ (name, other) :: behind)).Comparable := .record cls _ replaced
      refine ⟨known, ?_, ?_⟩
      · rw [same_agrees _ _ (.record cls _ below) known]
        exact ⟨rfl, replaced_along _ before _ _ behind (fun field _ => fits_self field.2)
          (same_fits form other inside.same)⟩
      · intro m marked
        have hashable := settings_unmarked beyond cls _ m marked
        rw [record_digest beyond cls _ hashable, digest_fields_map] at marked ⊢
        obtain ⟨marks, fieldsMarked, rfl⟩ := map_ok _ _ m marked
        rw [marks_replaced _ _ _ (replaced_along _ before _ (name, other) behind (fun _ _ _ here => here) inside.digest)
          marks fieldsMarked]
        rfl

theorem entry_marked (key form other : Form)
    (digest : ∀ m, form.digestBy beyond = .ok m → other.digestBy beyond = .ok m)
    (m : UInt64) (marked : entryMark beyond (key, form) = .ok m) : entryMark beyond (key, other) = .ok m := by
  obtain ⟨first, second, keyMarked, formMarked, rfl⟩ := entry_mark_parts beyond _ m marked
  rw [entryMark]
  simp only [keyMarked, digest second formMarked]
  simp only [bind, Except.bind, pure, Except.pure]

theorem shuffled_entry (access : Access) (before : List (Form × Form)) (key form other : Form)
    (behind : List (Form × Form)) (comparable : (Form.mapping access (before ++ (key, form) :: behind)).Comparable)
    (inside : form.Equivalent beyond other) :
    (Form.mapping access (before ++ (key, form) :: behind)).Equivalent beyond
      (.mapping access (before ++ (key, other) :: behind)) := by
  cases comparable with
  | mapping _ _ keys below apart =>
      have here : (key, form) ∈ before ++ (key, form) :: behind := List.mem_append_right before List.mem_cons_self
      have keyHere : key.Comparable := keys (key, form) here
      obtain ⟨keptKeys, replacedKeys⟩ :=
        replaced_all (fun entry => entry.1.Comparable) before (key, form) (key, other) behind keys keyHere
      obtain ⟨kept, replaced⟩ := replaced_all _ before (key, form) (key, other) behind below inside.comparable
      have apartToo : (before ++ (key, other) :: behind).Pairwise fun entry other => entry.1.same other.1 = false := by
        have byKeys (entries : List (Form × Form)) :
            (entries.Pairwise fun entry other => entry.1.same other.1 = false) ↔
              (entries.map Prod.fst).Pairwise fun key other => key.same other = false := by
          rw [List.pairwise_map]
        rw [byKeys] at apart ⊢
        simpa using apart
      have known : (Form.mapping access (before ++ (key, other) :: behind)).Comparable :=
        .mapping access _ replacedKeys replaced apartToo
      refine ⟨known, ?_, ?_⟩
      · rw [same_agrees _ _ (.mapping access _ keys below apart) known]
        have along : List.Forall₂ SameEntry (before ++ (key, form) :: behind) (before ++ (key, other) :: behind) :=
          replaced_along _ before _ _ behind (fun entry _ => ⟨fits_self entry.1, fits_self entry.2⟩)
            ⟨fits_self key, same_fits form other inside.same⟩
        refine ⟨along.length_eq, fun entry member => ?_⟩
        exact source_of_result (flip SameEntry) _ _ along.flip entry member
      · intro m marked
        cases access with
        | editable => cases marked
        | fixed =>
            rw [Form.digestBy, digest_entries_map] at marked ⊢
            obtain ⟨marks, entriesMarked, rfl⟩ := map_ok _ _ m marked
            rw [marks_replaced _ _ _ (replaced_along _ before _ (key, other) behind (fun _ _ _ here => here)
              (entry_marked beyond key form other inside.digest)) marks entriesMarked]
            rfl

theorem shuffled_equivalent (a b : Form) (shuffled : a.Shuffled b) (comparable : a.Comparable) :
    a.Equivalent beyond b := by
  induction shuffled with
  | here access entries others perm => exact shuffled_here beyond access entries others perm comparable
  | item access before item other behind _ hypothesis =>
      refine shuffled_item beyond access before item other behind comparable (hypothesis ?_)
      cases comparable with
      | sequence _ _ below => exact below item (List.mem_append_right before List.mem_cons_self)
  | entry access before key form other behind _ hypothesis =>
      refine shuffled_entry beyond access before key form other behind comparable (hypothesis ?_)
      cases comparable with
      | mapping _ _ keys below apart => exact below (key, form) (List.mem_append_right before List.mem_cons_self)
  | field cls before name form other behind _ hypothesis =>
      refine shuffled_field beyond cls before name form other behind comparable (hypothesis ?_)
      cases comparable with
      | record _ _ below => exact below (name, form) (List.mem_append_right before List.mem_cons_self)

-- Mappings can be given other orders time after time.
theorem shuffles_equivalent (a b : Form) (comparable : a.Comparable)
    (shuffles : Relation.ReflTransGen Form.Shuffled a b) : a.Equivalent beyond b := by
  induction shuffles with
  | refl => exact equivalent_refl beyond a comparable
  | @tail b c _ shuffled hypothesis =>
      have next := shuffled_equivalent beyond b c shuffled hypothesis.comparable
      have same := comparable_trans a b c comparable hypothesis.comparable next.comparable hypothesis.same next.same
      exact ⟨next.comparable, same, fun m marked => next.digest m (hypothesis.digest m marked)⟩

end Shuffles

-- Values of scalars, containers and records, whose tables have different keys, held or not.
inductive Value.Comparable : Value → Prop where
  | scalar (s : Scalar) (defined : s.Defined) : Comparable (.scalar s)
  | list (handle : Handle) (items : List Value) (below : ∀ item ∈ items, item.Comparable) :
      Comparable (.list handle items)
  | tuple (handle : Handle) (items : List Value) (below : ∀ item ∈ items, item.Comparable) :
      Comparable (.tuple handle items)
  | table (handle : Handle) (entries : List (Value × Value)) (keys : ∀ entry ∈ entries, entry.1.Comparable)
      (below : ∀ entry ∈ entries, entry.2.Comparable)
      (apart : entries.Pairwise fun entry other => entry.1.same other.1 = false) : Comparable (.table handle entries)
  | frozen (handle : Handle) (entries : List (Value × Value)) (keys : ∀ entry ∈ entries, entry.1.Comparable)
      (below : ∀ entry ∈ entries, entry.2.Comparable)
      (apart : entries.Pairwise fun entry other => entry.1.same other.1 = false) : Comparable (.frozen handle entries)
  | record (value : Value) (cls : RecordClass) (fields : List (String × Value))
      (shown : value.record? = some (cls, fields)) (below : ∀ field ∈ fields, field.2.Comparable) : Comparable value

theorem mapping_form_comparable (access : Access) (entries : List (Value × Value))
    (keys : ∀ entry ∈ entries, entry.1.form.Comparable) (below : ∀ entry ∈ entries, entry.2.form.Comparable)
    (apart : entries.Pairwise fun entry other => entry.1.same other.1 = false) :
    (Form.mapping access (Value.entryForms entries)).Comparable := by
  rw [Value.entry_forms_eq_map]
  exact .mapping access _ (List.forall_mem_map.mpr keys) (List.forall_mem_map.mpr below) (List.pairwise_map.mpr apart)

theorem form_comparable (value : Value) (comparable : value.Comparable) : value.form.Comparable := by
  induction comparable with
  | scalar s defined => exact .scalar s defined
  | list handle items _ hypothesis =>
      rw [Value.form, Value.forms_eq_map]
      exact .sequence .editable _ (List.forall_mem_map.mpr hypothesis)
  | tuple handle items _ hypothesis =>
      rw [Value.form, Value.forms_eq_map]
      exact .sequence .fixed _ (List.forall_mem_map.mpr hypothesis)
  | table handle entries _ _ apart keys hypothesis =>
      exact mapping_form_comparable .editable entries keys hypothesis apart
  | frozen handle entries _ _ apart keys hypothesis =>
      exact mapping_form_comparable .fixed entries keys hypothesis apart
  | record value cls fields shown _ hypothesis =>
      rw [record_form value cls fields shown, Value.field_forms_eq_map]
      exact .record cls _ (List.forall_mem_map.mpr hypothesis)

theorem comparable_forms_equal (a b : Value) (left : a.form.Comparable) (right : b.form.Comparable) :
    a.equals b = .ok (a.same b) := by
  have clear : a.form.obstacle? b.form = none := (comparable_unobstructed Form.fits _ a.form left b.form right).1
  rw [Value.equals, clear]

theorem comparable_part (a b : Value) (left : a.form.Comparable) (right : b.form.Comparable) :
    a.equalsPart b = a.equals b := by
  rw [Value.equalsPart, comparable_forms_equal a b left right, Value.same]
  split
  · next one => rw [← (is_one_iff _ _).mp one, (comparable_lawful a.form left).refl]
  · rfl

theorem comparable_equals (a b : Value) (left : a.Comparable) (right : b.Comparable) : a.equals b = .ok (a.same b) :=
  comparable_forms_equal a b (form_comparable a left) (form_comparable b right)

theorem equality_respects_digests :
    (∀ a b : Value, a.Comparable → b.Comparable →
      ∃ answer, a.equals b = .ok answer ∧ (answer = true ↔ a.form.Agrees b.form)) ∧
    (∀ a : Value, a.Comparable → a.equals a = .ok true) ∧
    (∀ a b : Value, a.Comparable → b.Comparable → a.equals b = b.equals a) ∧
    (∀ a b c : Value, a.Comparable → b.Comparable → c.Comparable →
      a.equals b = .ok true → b.equals c = .ok true → a.equals c = .ok true) ∧
    (∀ a b : Value, a.Comparable → b.Comparable → a.equals b = .ok true →
      ∀ m n, a.form.digest = .ok m → b.form.digest = .ok n → m = n) ∧
    ∀ a b : Value, a.Comparable → b.Comparable → Relation.ReflTransGen Form.Shuffled a.form b.form →
      a.equals b = .ok true ∧ ∀ m, a.form.digest = .ok m → b.form.digest = .ok m := by
  have same (a b : Value) (left : a.Comparable) (right : b.Comparable) :
      a.equals b = .ok true ↔ a.form.same b.form = true := by
    rw [comparable_equals a b left right]
    exact ⟨Except.ok.inj, congrArg Except.ok⟩
  refine ⟨?_, ?_, ?_, ?_, ?_, ?_⟩
  · intro a b left right
    exact ⟨_, comparable_equals a b left right, same_agrees _ _ (form_comparable a left) (form_comparable b right)⟩
  · intro a comparable
    exact (same a a comparable comparable).mpr (comparable_lawful a.form (form_comparable a comparable)).refl
  · intro a b left right
    rw [comparable_equals a b left right, comparable_equals b a right left, Value.same, Value.same]
    have first := form_comparable a left
    have second := form_comparable b right
    exact congrArg Except.ok (Bool.eq_iff_iff.mpr
      ⟨comparable_comm a.form b.form first second, comparable_comm b.form a.form second first⟩)
  · intro a b c first second third here there
    rw [same a b first second] at here
    rw [same b c second third] at there
    rw [same a c first third]
    exact comparable_trans a.form b.form c.form (form_comparable a first) (form_comparable b second)
      (form_comparable c third) here there
  · intro a b left right here
    rw [same a b left right] at here
    exact same_digests _ a.form (form_comparable a left) b.form (form_comparable b right) here
  · intro a b left right shuffles
    have equivalent := shuffles_equivalent (fun _ shape => .error shape.refuseDigest) a.form b.form
      (form_comparable a left) shuffles
    exact ⟨(same a b left right).mpr equivalent.same, equivalent.digest⟩

-- The same pair from a number and a text, and from a truth value and a word.
def numberAndText : Value := .tuple none [.int 1, .text "object"]

def truthAndWord : Value := .tuple none [.bool true, .keyword (.kind .object)]

-- A node around a frozen table of two entries, and one with the entries in the other order.
def carryingNode (entries : List (Value × Value)) : Value := .schema none (.fallback (.frozen none entries))

def carriedEntries : List (Value × Value) := [(.text "x", numberAndText), (.text "y", .tuple none [])]

theorem number_and_text_comparable : numberAndText.Comparable :=
  .tuple none _ (List.forall_mem_cons.mpr ⟨.scalar (.int 1) nofun,
    List.forall_mem_singleton.mpr (.scalar (.text "object") nofun)⟩)

theorem truth_and_word_comparable : truthAndWord.Comparable :=
  .tuple none _ (List.forall_mem_cons.mpr ⟨.scalar (.bool true) nofun,
    List.forall_mem_singleton.mpr (.scalar (.keyword (.kind .object)) nofun)⟩)

theorem carrying_node_comparable (entries : List (Value × Value))
    (below : ∀ entry ∈ entries, entry ∈ carriedEntries)
    (apart : entries.Pairwise fun entry other => entry.1.same other.1 = false) : (carryingNode entries).Comparable := by
  have keys : ∀ entry ∈ carriedEntries, entry.1.Comparable :=
    List.forall_mem_cons.mpr ⟨.scalar (.text "x") nofun, List.forall_mem_singleton.mpr (.scalar (.text "y") nofun)⟩
  have values : ∀ entry ∈ carriedEntries, entry.2.Comparable :=
    List.forall_mem_cons.mpr ⟨number_and_text_comparable,
      List.forall_mem_singleton.mpr (.tuple none [] (List.forall_mem_nil _))⟩
  refine .record _ .fallback [("value", .frozen none entries)] rfl (List.forall_mem_singleton.mpr ?_)
  exact .frozen none entries (fun entry member => keys entry (below entry member))
    (fun entry member => values entry (below entry member)) apart

theorem carrying_nodes_comparable :
    (carryingNode carriedEntries).Comparable ∧ (carryingNode carriedEntries.reverse).Comparable := by
  have differ (a b : String) (different : a ≠ b) : (Value.text a).same (.text b) = false := by
    rw [Value.text, Value.text, Value.same, Value.form, Value.form, Form.same, Form.sameBy]
    exact beq_eq_false_iff_ne.mpr fun same => different (Option.some.inj same)
  constructor
  · refine carrying_node_comparable _ (fun _ member => member) ?_
    exact List.pairwise_pair.mpr (differ "x" "y" (by decide))
  · refine carrying_node_comparable _ (fun _ member => List.mem_reverse.mp member) ?_
    exact List.pairwise_pair.mpr (differ "y" "x" (by decide))

theorem mixed_values_agree :
    numberAndText.equals truthAndWord = .ok true ∧ truthAndWord.equals numberAndText = .ok true ∧
    numberAndText.equals numberAndText = .ok true ∧
    (∀ m n, numberAndText.form.digest = .ok m → truthAndWord.form.digest = .ok n → m = n) ∧
    (carryingNode carriedEntries).equals (carryingNode carriedEntries.reverse) = .ok true ∧
    ∃ m, (carryingNode carriedEntries).form.digest = .ok m ∧
      (carryingNode carriedEntries.reverse).form.digest = .ok m := by
  obtain ⟨answers, refl, comm, trans, digests, shuffles⟩ := equality_respects_digests
  have left := number_and_text_comparable
  have right := truth_and_word_comparable
  obtain ⟨answer, compared, agreed⟩ := answers numberAndText truthAndWord left right
  have agrees : numberAndText.form.Agrees truthAndWord.form := by
    refine ⟨rfl, .cons ?_ (.cons ?_ .nil)⟩
    · apply same_fits
      rw [Value.int, Value.bool, Value.form, Value.form, Form.same, Form.sameBy]
      decide
    · apply same_fits
      rw [Value.text, Value.keyword, Value.form, Value.form, Form.same, Form.sameBy]
      decide
  have same : numberAndText.equals truthAndWord = .ok true := compared.trans (congrArg Except.ok (agreed.mpr agrees))
  have back := (comm numberAndText truthAndWord left right).symm.trans same
  obtain ⟨given, turned⟩ := carrying_nodes_comparable
  have turn : (carryingNode carriedEntries).form.Shuffled (carryingNode carriedEntries.reverse).form :=
    .field .fallback [] "value" _ _ [] (.here .fixed _ _ (.swap _ _ _))
  obtain ⟨nodesSame, digest⟩ := shuffles _ _ given turned (.single turn)
  have marked : ∃ m, (carryingNode carriedEntries).form.digest = .ok m := ⟨_, rfl⟩
  obtain ⟨m, marked⟩ := marked
  exact ⟨same, back, trans _ _ _ left right left same back, digests _ _ left right same, nodesSame, m, marked,
    digest m marked⟩

end Schemata
