import Schemata.Form.Obstacle
import Schemata.Proofs.Stepwise

set_option autoImplicit false

/-!
Equality as an equivalence. Values of scalars that have an amount or a text, of containers and of records can
always be compared. Scalars are equal by amount or by text, sequences in order, mappings in any order and
whatever their access, records field by field. From one level to the next this gives a relation that is
reflexive, symmetric and transitive.
-/

namespace Schemata

-- The number that is not the same as itself is left out.
def Scalar.Defined (s : Scalar) : Prop := s.quantity? ≠ some .undefined

-- Forms of scalars, containers and records, whose mappings have different keys.
inductive Form.Comparable : Form → Prop where
  | scalar (s : Scalar) (defined : s.Defined) : Comparable (.scalar s)
  | sequence (access : Access) (items : List Form) (below : ∀ item ∈ items, item.Comparable) :
      Comparable (.sequence access items)
  | mapping (access : Access) (entries : List (Form × Form)) (keys : ∀ entry ∈ entries, entry.1.Comparable)
      (below : ∀ entry ∈ entries, entry.2.Comparable)
      (apart : entries.Pairwise fun entry other => entry.1.same other.1 = false) : Comparable (.mapping access entries)
  | record (cls : RecordClass) (fields : List (String × Form)) (below : ∀ field ∈ fields, field.2.Comparable) :
      Comparable (.record cls fields)

-- What the equality of two forms says of their parts.
def Form.Agrees : Form → Form → Prop
  | .scalar a, .scalar b => a.quantity? = b.quantity? ∧ a.text? = b.text?
  | .sequence access items, .sequence other others =>
    access = other ∧ List.Forall₂ (fun a b => a.fits b = true) items others
  | .mapping _ entries, .mapping _ others =>
    entries.length = others.length ∧
      ∀ entry ∈ entries, ∃ other ∈ others, entry.1.fits other.1 = true ∧ entry.2.fits other.2 = true
  | .record cls fields, .record other others =>
    cls = other ∧ List.Forall₂ (fun a b => a.2.fits b.2 = true) fields others
  | _, _ => False

theorem fits_iff (a b : Form) : a.fits b = true ↔ a = b ∨ a.same b = true := by
  rw [Form.fits, Bool.or_eq_true, is_one_iff]

theorem fits_self (a : Form) : a.fits a = true := (fits_iff a a).mpr (.inl rfl)

theorem same_fits (a b : Form) (same : a.same b = true) : a.fits b = true := (fits_iff a b).mpr (.inr same)

-- What is equal to itself fits nothing but what it is equal to.
theorem fits_same (a b : Form) (own : a.same a = true) (fits : a.fits b = true) : a.same b = true := by
  rcases (fits_iff a b).mp fits with rfl | same
  · exact own
  · exact same

theorem amounts_same (p q : Quantity) (defined : p ≠ .undefined) : p.same q = true ↔ p = q := by
  cases p with
  | finite a => cases q <;> simp [Quantity.same]
  | infinite a => cases q <;> simp [Quantity.same]
  | undefined => exact absurd rfl defined

theorem amount_or_text (s : Scalar) (q : Quantity) (amount : s.quantity? = some q) : s.text? = none := by
  cases s with
  | null => rfl
  | text t => cases amount
  | keyword k => cases amount
  | _ => rfl

theorem scalars_agree (a b : Scalar) (defined : a.Defined) :
    a.same b = true ↔ a.quantity? = b.quantity? ∧ a.text? = b.text? := by
  rw [Scalar.same]
  cases amount : a.quantity? with
  | none =>
      cases other : b.quantity? with
      | none => simp
      | some q => simp
  | some p =>
      have known : p ≠ .undefined := fun undefined => defined (undefined ▸ amount)
      cases other : b.quantity? with
      | none => simp
      | some q => simp [amounts_same p q known, amount_or_text a p amount, amount_or_text b q other]

theorem items_agree (items others : List Form) :
    Form.sameItems Form.isOne items others = true ↔ List.Forall₂ (fun a b => a.fits b = true) items others := by
  induction items generalizing others with
  | nil => cases others <;> simp [Form.sameItems]
  | cons item rest hypothesis =>
      cases others with
      | nil => simp [Form.sameItems]
      | cons other later => simp [Form.sameItems, hypothesis later, Form.fits, Form.same]

theorem fields_agree (fields others : List (String × Form)) :
    Form.sameFields Form.isOne fields others = true ↔
      List.Forall₂ (fun a b => a.2.fits b.2 = true) fields others := by
  induction fields generalizing others with
  | nil => cases others <;> simp [Form.sameFields]
  | cons field rest hypothesis =>
      obtain ⟨name, form⟩ := field
      cases others with
      | nil => simp [Form.sameFields]
      | cons other later =>
          obtain ⟨otherName, otherForm⟩ := other
          rw [Form.sameFields, Bool.and_eq_true, hypothesis later, List.forall₂_cons]
          rfl

theorem entries_agree (entries others : List (Form × Form)) :
    Form.sameEntries Form.isOne entries others = true ↔
      ∀ entry ∈ entries, ∃ other ∈ others, entry.1.fits other.1 = true ∧ entry.2.fits other.2 = true := by
  induction entries with
  | nil => simp [Form.sameEntries]
  | cons entry rest hypothesis =>
      obtain ⟨key, form⟩ := entry
      rw [Form.sameEntries, Bool.and_eq_true, hypothesis, List.forall_mem_cons, List.any_eq_true]
      simp only [Bool.and_eq_true, Form.fits, Form.same]

theorem same_agrees (a b : Form) (left : a.Comparable) (right : b.Comparable) : a.same b = true ↔ a.Agrees b := by
  cases left with
  | scalar s defined =>
      cases right with
      | scalar t _ => simp [Form.same, Form.sameBy, Form.Agrees, scalars_agree s t defined]
      | _ => simp [Form.same, Form.sameBy, Form.Agrees]
  | sequence access items below =>
      cases right with
      | sequence other others _ => simp [Form.same, Form.sameBy, Form.Agrees, items_agree]
      | _ => simp [Form.same, Form.sameBy, Form.Agrees]
  | mapping access entries keys below apart =>
      cases right with
      | mapping other others _ _ _ =>
          simp only [Form.same, Form.sameBy, Form.Agrees, Bool.and_eq_true, beq_iff_eq, entries_agree]
      | _ => simp [Form.same, Form.sameBy, Form.Agrees]
  | record cls fields below =>
      cases right with
      | record other others _ => simp [Form.same, Form.sameBy, Form.Agrees, fields_agree]
      | _ => simp [Form.same, Form.sameBy, Form.Agrees]

-- Where no two of the first list match the same, and there are as many of the second, one list is arranged
-- along the other.
theorem arranged_matches {α β : Type} (matched : α → β → Prop) (items : List α) (others : List β)
    (length : items.length = others.length) (each : ∀ item ∈ items, ∃ other ∈ others, matched item other)
    (apart : items.Pairwise fun first second => ∀ other ∈ others, matched first other → ¬ matched second other) :
    ∃ arranged, arranged.Perm others ∧ List.Forall₂ matched items arranged := by
  induction items generalizing others with
  | nil =>
      obtain rfl := List.length_eq_zero_iff.mp length.symm
      exact ⟨[], .refl [], .nil⟩
  | cons item rest hypothesis =>
      obtain ⟨other, member, here⟩ := each item List.mem_cons_self
      obtain ⟨before, behind, rfl⟩ := List.append_of_mem member
      obtain ⟨apartHere, apartLater⟩ := List.pairwise_cons.mp apart
      have smaller (candidate : β) (left : candidate ∈ before ++ behind) : candidate ∈ before ++ other :: behind :=
        List.perm_middle.mem_iff.mpr (List.mem_cons_of_mem other left)
      have later : ∀ item ∈ rest, ∃ other ∈ before ++ behind, matched item other := by
        intro second secondMember
        obtain ⟨candidate, candidateMember, there⟩ := each second (List.mem_cons_of_mem item secondMember)
        rcases List.mem_cons.mp (List.perm_middle.mem_iff.mp candidateMember) with rfl | left
        · exact absurd there (apartHere second secondMember candidate member here)
        · exact ⟨candidate, left, there⟩
      have count : rest.length = (before ++ behind).length := by
        simp only [List.length_cons, List.length_append] at length ⊢
        omega
      obtain ⟨arranged, perm, along⟩ := hypothesis (before ++ behind) count later
        (apartLater.imp fun distinct candidate left => distinct candidate (smaller candidate left))
      exact ⟨other :: arranged, (perm.cons other).trans List.perm_middle.symm, .cons here along⟩

section Lists

variable {α : Type} (related : α → α → Prop)

theorem each_flip (items others : List α)
    (flip : ∀ item ∈ items, ∀ other ∈ others, related item other → related other item)
    (along : List.Forall₂ related items others) : List.Forall₂ related others items := by
  induction along with
  | nil => exact .nil
  | @cons item other rest later here _ hypothesis =>
      refine .cons (flip item List.mem_cons_self other List.mem_cons_self here) (hypothesis ?_)
      exact fun first member second secondMember =>
        flip first (List.mem_cons_of_mem item member) second (List.mem_cons_of_mem other secondMember)

theorem each_trans (items others thirds : List α)
    (step : ∀ item ∈ items, ∀ other ∈ others, ∀ third ∈ thirds,
      related item other → related other third → related item third)
    (first : List.Forall₂ related items others) (second : List.Forall₂ related others thirds) :
    List.Forall₂ related items thirds := by
  induction first generalizing thirds with
  | nil =>
      cases second
      exact .nil
  | @cons item other rest later here _ hypothesis =>
      cases second with
      | @cons _ third _ last there along =>
          refine .cons (step item List.mem_cons_self other List.mem_cons_self third List.mem_cons_self here there)
            (hypothesis last ?_ along)
          exact fun a inRest b inLater c inLast => step a (List.mem_cons_of_mem item inRest) b
            (List.mem_cons_of_mem other inLater) c (List.mem_cons_of_mem third inLast)

end Lists

-- An entry fits another one by its key and by what is under it.
def SameEntry (entry other : Form × Form) : Prop := entry.1.fits other.1 = true ∧ entry.2.fits other.2 = true

theorem entries_arranged (entries others : List (Form × Form)) (length : entries.length = others.length)
    (each : ∀ entry ∈ entries, ∃ other ∈ others, SameEntry entry other)
    (apart : entries.Pairwise fun entry other => entry.1.same other.1 = false)
    (meet : ∀ entry ∈ entries, ∀ other ∈ entries, ∀ third ∈ others,
      entry.1.fits third.1 = true → other.1.fits third.1 = true → entry.1.same other.1 = true) :
    ∃ arranged, arranged.Perm others ∧ List.Forall₂ SameEntry entries arranged := by
  refine arranged_matches SameEntry entries others length each (apart.imp_of_mem ?_)
  intro entry other entryMember otherMember different third thirdMember first second
  have same := meet entry entryMember other otherMember third thirdMember first.1 second.1
  rw [different] at same
  exact Bool.false_ne_true same

-- What is known of a form that is compared with others, where it is the first or the one in the middle.
structure Form.Lawful (a : Form) : Prop where
  refl : a.same a = true
  comm : ∀ b : Form, b.Comparable → (a.fits b = true ↔ b.fits a = true)
  first : ∀ b c : Form, b.Comparable → c.Comparable → a.fits b = true → b.fits c = true → a.same c = true
  middle : ∀ b c : Form, b.Comparable → c.Comparable → b.fits a = true → a.fits c = true → b.same c = true

theorem fits_agrees (a b : Form) (left : a.Comparable) (right : b.Comparable) :
    a.fits b = true ↔ a = b ∨ a.Agrees b := by
  rw [fits_iff, same_agrees a b left right]

-- It is enough to know of the relation between parts.
theorem lawful_of_agreement (a : Form) (comparable : a.Comparable) (refl : a.Agrees a)
    (comm : ∀ b : Form, b.Comparable → (a.Agrees b ↔ b.Agrees a))
    (first : ∀ b c : Form, b.Comparable → c.Comparable → a.Agrees b → b.Agrees c → a.Agrees c)
    (middle : ∀ b c : Form, b.Comparable → c.Comparable → b.Agrees a → a.Agrees c → b.Agrees c) : a.Lawful := by
  constructor
  · exact (same_agrees a a comparable comparable).mpr refl
  · intro b known
    rw [fits_agrees a b comparable known, fits_agrees b a known comparable]
    exact or_congr eq_comm (comm b known)
  · intro b c known other here there
    rw [same_agrees a c comparable other]
    rcases (fits_agrees a b comparable known).mp here with rfl | here
    · exact ((fits_agrees a c comparable other).mp there).elim (fun one => one ▸ refl) id
    · rcases (fits_agrees b c known other).mp there with rfl | there
      · exact here
      · exact first b c known other here there
  · intro b c known other here there
    rw [same_agrees b c known other]
    rcases (fits_agrees b a known comparable).mp here with rfl | here
    · exact ((fits_agrees b c comparable other).mp there).elim (fun one => one ▸ refl) id
    · rcases (fits_agrees a c comparable other).mp there with rfl | there
      · exact here
      · exact middle b c known other here there

theorem scalar_lawful (s : Scalar) (defined : s.Defined) : (Form.scalar s).Lawful := by
  apply lawful_of_agreement _ (.scalar s defined)
  · exact ⟨rfl, rfl⟩
  · intro b known
    cases known with
    | scalar t _ => exact ⟨fun same => ⟨same.1.symm, same.2.symm⟩, fun same => ⟨same.1.symm, same.2.symm⟩⟩
    | _ => exact Iff.rfl
  · intro b c known other here there
    cases known with
    | scalar t _ =>
        cases other with
        | scalar u _ => exact ⟨here.1.trans there.1, here.2.trans there.2⟩
        | _ => exact there
    | _ => exact here.elim
  · intro b c known other here there
    cases known with
    | scalar t _ =>
        cases other with
        | scalar u _ => exact ⟨here.1.trans there.1, here.2.trans there.2⟩
        | _ => exact there
    | _ => exact here.elim

section Parts

variable {α : Type} (part : α → Form) (items : List α) (lawful : ∀ item ∈ items, (part item).Lawful)

include lawful

theorem parts_comm (others : List α) (known : ∀ other ∈ others, (part other).Comparable) :
    List.Forall₂ (fun a b => (part a).fits (part b) = true) items others ↔
      List.Forall₂ (fun a b => (part a).fits (part b) = true) others items := by
  have comm (a : α) (member : a ∈ items) (b : α) (otherMember : b ∈ others) :=
    (lawful a member).comm (part b) (known b otherMember)
  constructor
  · exact each_flip _ items others fun a member b otherMember => (comm a member b otherMember).mp
  · exact each_flip _ others items fun b otherMember a member => (comm a member b otherMember).mpr

theorem parts_first (others thirds : List α) (known : ∀ other ∈ others, (part other).Comparable)
    (knownToo : ∀ third ∈ thirds, (part third).Comparable)
    (here : List.Forall₂ (fun a b => (part a).fits (part b) = true) items others)
    (there : List.Forall₂ (fun a b => (part a).fits (part b) = true) others thirds) :
    List.Forall₂ (fun a b => (part a).fits (part b) = true) items thirds := by
  refine each_trans _ items others thirds ?_ here there
  exact fun a member b otherMember c thirdMember first second => same_fits _ _
    ((lawful a member).first (part b) (part c) (known b otherMember) (knownToo c thirdMember) first second)

theorem parts_middle (others thirds : List α) (known : ∀ other ∈ others, (part other).Comparable)
    (knownToo : ∀ third ∈ thirds, (part third).Comparable)
    (here : List.Forall₂ (fun a b => (part a).fits (part b) = true) others items)
    (there : List.Forall₂ (fun a b => (part a).fits (part b) = true) items thirds) :
    List.Forall₂ (fun a b => (part a).fits (part b) = true) others thirds := by
  refine each_trans _ others items thirds ?_ here there
  exact fun b otherMember a member c thirdMember first second => same_fits _ _
    ((lawful a member).middle (part b) (part c) (known b otherMember) (knownToo c thirdMember) first second)

end Parts

theorem sequence_lawful (access : Access) (items : List Form) (below : ∀ item ∈ items, item.Comparable)
    (lawful : ∀ item ∈ items, item.Lawful) : (Form.sequence access items).Lawful := by
  apply lawful_of_agreement _ (.sequence access items below)
  · exact ⟨rfl, List.forall₂_same.mpr fun item _ => fits_self item⟩
  · intro b known
    cases known with
    | sequence other others known => exact and_congr eq_comm (parts_comm id items lawful others known)
    | _ => exact Iff.rfl
  · intro b c known knownToo here there
    cases known with
    | sequence other others known =>
        cases knownToo with
        | sequence third thirds knownToo =>
            exact ⟨here.1.trans there.1, parts_first id items lawful others thirds known knownToo here.2 there.2⟩
        | _ => exact there
    | _ => exact here.elim
  · intro b c known knownToo here there
    cases known with
    | sequence other others known =>
        cases knownToo with
        | sequence third thirds knownToo =>
            exact ⟨here.1.trans there.1, parts_middle id items lawful others thirds known knownToo here.2 there.2⟩
        | _ => exact there
    | _ => exact here.elim

theorem record_lawful (cls : RecordClass) (fields : List (String × Form))
    (below : ∀ field ∈ fields, field.2.Comparable) (lawful : ∀ field ∈ fields, field.2.Lawful) :
    (Form.record cls fields).Lawful := by
  apply lawful_of_agreement _ (.record cls fields below)
  · exact ⟨rfl, List.forall₂_same.mpr fun field _ => fits_self field.2⟩
  · intro b known
    cases known with
    | record other others known => exact and_congr eq_comm (parts_comm Prod.snd fields lawful others known)
    | _ => exact Iff.rfl
  · intro b c known knownToo here there
    cases known with
    | record other others known =>
        cases knownToo with
        | record third thirds knownToo =>
            exact ⟨here.1.trans there.1,
              parts_first Prod.snd fields lawful others thirds known knownToo here.2 there.2⟩
        | _ => exact there
    | _ => exact here.elim
  · intro b c known knownToo here there
    cases known with
    | record other others known =>
        cases knownToo with
        | record third thirds knownToo =>
            exact ⟨here.1.trans there.1,
              parts_middle Prod.snd fields lawful others thirds known knownToo here.2 there.2⟩
        | _ => exact there
    | _ => exact here.elim

-- Two keys that fit a third one are the same.
theorem keys_meet (a b c : Form) (lawful : a.Lawful) (lawfulToo : b.Lawful) (knownToo : b.Comparable)
    (known : c.Comparable) (here : a.fits c = true) (there : b.fits c = true) : a.same b = true :=
  lawful.first c b known knownToo here ((lawfulToo.comm c known).mp there)

theorem keys_meet_in (a b c : Form) (lawful : c.Lawful) (known : a.Comparable) (knownToo : b.Comparable)
    (here : a.fits c = true) (there : b.fits c = true) : a.same b = true :=
  lawful.middle a b known knownToo here ((lawful.comm b knownToo).mpr there)

theorem entries_back (entries others : List (Form × Form)) (length : entries.length = others.length)
    (each : ∀ entry ∈ entries, ∃ other ∈ others, SameEntry entry other)
    (apart : entries.Pairwise fun entry other => entry.1.same other.1 = false)
    (meet : ∀ entry ∈ entries, ∀ other ∈ entries, ∀ third ∈ others,
      entry.1.fits third.1 = true → other.1.fits third.1 = true → entry.1.same other.1 = true)
    (back : ∀ entry ∈ entries, ∀ other ∈ others, SameEntry entry other → SameEntry other entry) :
    ∀ other ∈ others, ∃ entry ∈ entries, SameEntry other entry := by
  obtain ⟨arranged, perm, along⟩ := entries_arranged entries others length each apart meet
  intro other member
  obtain ⟨entry, entryMember, same⟩ := source_of_result SameEntry entries arranged along other (perm.mem_iff.mpr member)
  exact ⟨entry, entryMember, back entry entryMember other member same⟩

theorem mapping_lawful (access : Access) (entries : List (Form × Form)) (keys : ∀ entry ∈ entries, entry.1.Comparable)
    (below : ∀ entry ∈ entries, entry.2.Comparable)
    (apart : entries.Pairwise fun entry other => entry.1.same other.1 = false)
    (lawfulKeys : ∀ entry ∈ entries, entry.1.Lawful) (lawful : ∀ entry ∈ entries, entry.2.Lawful) :
    (Form.mapping access entries).Lawful := by
  apply lawful_of_agreement _ (.mapping access entries keys below apart)
  · exact ⟨rfl, fun entry member => ⟨entry, member, fits_self entry.1, fits_self entry.2⟩⟩
  · intro b known
    cases known with
    | mapping other others knownKeys known apartToo =>
        have comm (a : Form × Form) (member : a ∈ entries) (b : Form × Form) (otherMember : b ∈ others) :
            SameEntry a b ↔ SameEntry b a :=
          and_congr ((lawfulKeys a member).comm b.1 (knownKeys b otherMember))
            ((lawful a member).comm b.2 (known b otherMember))
        constructor
        · rintro ⟨length, each⟩
          refine ⟨length.symm, entries_back entries others length each apart ?_
            fun a member b otherMember => (comm a member b otherMember).mp⟩
          exact fun a member b otherMember c thirdMember => keys_meet a.1 b.1 c.1 (lawfulKeys a member)
            (lawfulKeys b otherMember) (keys b otherMember) (knownKeys c thirdMember)
        · rintro ⟨length, each⟩
          refine ⟨length.symm, entries_back others entries length each apartToo ?_
            fun b otherMember a member => (comm a member b otherMember).mpr⟩
          exact fun a member b otherMember c thirdMember => keys_meet_in a.1 b.1 c.1 (lawfulKeys c thirdMember)
            (knownKeys a member) (knownKeys b otherMember)
    | _ => exact Iff.rfl
  · intro b c known knownToo here there
    cases known with
    | mapping other others knownKeys known _ =>
        cases knownToo with
        | mapping third thirds knownKeysToo knownToo _ =>
            refine ⟨here.1.trans there.1, fun a member => ?_⟩
            obtain ⟨b, otherMember, keyHere, valueHere⟩ := here.2 a member
            obtain ⟨c, thirdMember, keyThere, valueThere⟩ := there.2 b otherMember
            exact ⟨c, thirdMember,
              same_fits _ _ ((lawfulKeys a member).first b.1 c.1 (knownKeys b otherMember)
                (knownKeysToo c thirdMember) keyHere keyThere),
              same_fits _ _ ((lawful a member).first b.2 c.2 (known b otherMember) (knownToo c thirdMember)
                valueHere valueThere)⟩
        | _ => exact there
    | _ => exact here.elim
  · intro b c known knownToo here there
    cases known with
    | mapping other others knownKeys known _ =>
        cases knownToo with
        | mapping third thirds knownKeysToo knownToo _ =>
            refine ⟨here.1.trans there.1, fun b otherMember => ?_⟩
            obtain ⟨a, member, keyHere, valueHere⟩ := here.2 b otherMember
            obtain ⟨c, thirdMember, keyThere, valueThere⟩ := there.2 a member
            exact ⟨c, thirdMember,
              same_fits _ _ ((lawfulKeys a member).middle b.1 c.1 (knownKeys b otherMember)
                (knownKeysToo c thirdMember) keyHere keyThere),
              same_fits _ _ ((lawful a member).middle b.2 c.2 (known b otherMember) (knownToo c thirdMember)
                valueHere valueThere)⟩
        | _ => exact there
    | _ => exact here.elim

theorem comparable_lawful (a : Form) (comparable : a.Comparable) : a.Lawful := by
  induction comparable with
  | scalar s defined => exact scalar_lawful s defined
  | sequence access items below hypothesis => exact sequence_lawful access items below hypothesis
  | mapping access entries keys below apart keyHypothesis hypothesis =>
      exact mapping_lawful access entries keys below apart keyHypothesis hypothesis
  | record cls fields below hypothesis => exact record_lawful cls fields below hypothesis

theorem comparable_fits (a b : Form) (comparable : a.Comparable) (fits : a.fits b = true) : a.same b = true :=
  fits_same a b (comparable_lawful a comparable).refl fits

theorem comparable_comm (a b : Form) (comparable : a.Comparable) (known : b.Comparable) (same : a.same b = true) :
    b.same a = true :=
  comparable_fits b a known (((comparable_lawful a comparable).comm b known).mp (same_fits a b same))

theorem comparable_trans (a b c : Form) (comparable : a.Comparable) (known : b.Comparable) (knownToo : c.Comparable)
    (here : a.same b = true) (there : b.same c = true) : a.same c = true :=
  (comparable_lawful a comparable).first b c known knownToo (same_fits a b here) (same_fits b c there)

-- Mappings that are the same have the same entries up to their order.
theorem mapping_arranged (entries others : List (Form × Form)) (keys : ∀ entry ∈ entries, entry.1.Comparable)
    (knownKeys : ∀ other ∈ others, other.1.Comparable)
    (apart : entries.Pairwise fun entry other => entry.1.same other.1 = false)
    (length : entries.length = others.length) (each : ∀ entry ∈ entries, ∃ other ∈ others, SameEntry entry other) :
    ∃ arranged, arranged.Perm others ∧ List.Forall₂ SameEntry entries arranged := by
  refine entries_arranged entries others length each apart fun a member b otherMember c thirdMember => ?_
  exact keys_meet a.1 b.1 c.1 (comparable_lawful a.1 (keys a member)) (comparable_lawful b.1 (keys b otherMember))
    (keys b otherMember) (knownKeys c thirdMember)

section Obstacles

variable (fits : Form → Form → Bool) (beyond : Form → Form → Option Fault)

theorem items_unobstructed (items others : List Form)
    (each : ∀ item ∈ items, ∀ other ∈ others, item.obstacleBy fits beyond other = none) :
    Form.obstacleOfItems fits beyond items others = none := by
  induction items generalizing others with
  | nil => simp [Form.obstacleOfItems]
  | cons item rest hypothesis =>
      cases others with
      | nil => simp [Form.obstacleOfItems]
      | cons other later =>
          have tail := hypothesis later fun a member b otherMember =>
            each a (List.mem_cons_of_mem item member) b (List.mem_cons_of_mem other otherMember)
          rw [Form.obstacleOfItems, each item List.mem_cons_self other List.mem_cons_self, tail]
          rw [ite_self, ite_self]
          rfl

theorem entries_unobstructed (entries others : List (Form × Form))
    (each : ∀ entry ∈ entries, ∀ other ∈ others, entry.2.obstacleBy fits beyond other.2 = none) :
    Form.obstacleOfEntries fits beyond entries others = none := by
  induction entries with
  | nil => rw [Form.obstacleOfEntries]
  | cons entry rest hypothesis =>
      obtain ⟨key, a⟩ := entry
      have tail := hypothesis fun entry member => each entry (List.mem_cons_of_mem _ member)
      rw [Form.obstacleOfEntries]
      split
      · next k b found =>
          rw [each (key, a) List.mem_cons_self (k, b) (List.mem_of_find?_eq_some found), tail]
          rw [ite_self, ite_self]
          rfl
      · rfl

theorem fields_unobstructed (fields others : List (String × Form))
    (each : ∀ field ∈ fields, ∀ other ∈ others, field.2.obstacleBy fits beyond other.2 = none) :
    Form.obstacleOfFields fits beyond fields others = none := by
  induction fields generalizing others with
  | nil => simp [Form.obstacleOfFields]
  | cons field rest hypothesis =>
      cases others with
      | nil => simp [Form.obstacleOfFields]
      | cons other later =>
          have tail := hypothesis later fun a member b otherMember =>
            each a (List.mem_cons_of_mem field member) b (List.mem_cons_of_mem other otherMember)
          rw [Form.obstacleOfFields, each field List.mem_cons_self other List.mem_cons_self, tail]
          rw [ite_self, ite_self]
          rfl

theorem attributes_unobstructed (attributes others : List (String × Form))
    (each : ∀ field ∈ attributes, ∀ other ∈ others, field.2.obstacleBy fits beyond other.2 = none) :
    Form.obstacleOfAttributes fits beyond attributes others = none := by
  induction attributes with
  | nil => rw [Form.obstacleOfAttributes]
  | cons field rest hypothesis =>
      obtain ⟨name, a⟩ := field
      have tail := hypothesis fun field member => each field (List.mem_cons_of_mem _ member)
      rw [Form.obstacleOfAttributes]
      split
      · next k b found =>
          rw [each (name, a) List.mem_cons_self (k, b) (List.mem_of_find?_eq_some found), tail]
          rw [ite_self, ite_self]
          rfl
      · rfl

-- A mapping that can be edited is compared from the side of one that cannot, so both sides are told.
theorem comparable_unobstructed (a : Form) (comparable : a.Comparable) :
    ∀ b : Form, b.Comparable → a.obstacleBy fits beyond b = none ∧ b.obstacleBy fits beyond a = none := by
  induction comparable with
  | scalar s defined =>
      intro b known
      cases known <;> simp [Form.obstacleBy]
  | sequence access items below hypothesis =>
      intro b known
      cases known with
      | sequence other others known =>
          have along : Form.obstacleOfItems fits beyond items others = none :=
            items_unobstructed fits beyond items others fun a member b otherMember =>
              (hypothesis a member b (known b otherMember)).1
          have back : Form.obstacleOfItems fits beyond others items = none :=
            items_unobstructed fits beyond others items fun b otherMember a member =>
              (hypothesis a member b (known b otherMember)).2
          cases access <;> cases other <;> simp [Form.obstacleBy, along, back]
      | _ => cases access <;> simp [Form.obstacleBy]
  | mapping access entries keys below apart keyHypothesis hypothesis =>
      intro b known
      cases known with
      | mapping other others knownKeys known apartToo =>
          have along : Form.obstacleOfEntries fits beyond entries others = none :=
            entries_unobstructed fits beyond entries others fun a member b otherMember =>
              (hypothesis a member b.2 (known b otherMember)).1
          have back : Form.obstacleOfEntries fits beyond others entries = none :=
            entries_unobstructed fits beyond others entries fun b otherMember a member =>
              (hypothesis a member b.2 (known b otherMember)).2
          simp [Form.obstacleBy, along, back]
      | _ => simp [Form.obstacleBy]
  | record cls fields below hypothesis =>
      intro b known
      cases known with
      | record other others known =>
          have along : Form.obstacleOfFields fits beyond fields others = none :=
            fields_unobstructed fits beyond fields others fun a member b otherMember =>
              (hypothesis a member b.2 (known b otherMember)).1
          have back : Form.obstacleOfFields fits beyond others fields = none :=
            fields_unobstructed fits beyond others fields fun b otherMember a member =>
              (hypothesis a member b.2 (known b otherMember)).2
          simp [Form.obstacleBy, along, back]
      | _ => simp [Form.obstacleBy]

end Obstacles

end Schemata
