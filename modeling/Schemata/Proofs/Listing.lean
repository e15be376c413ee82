import Mathlib.Data.List.Forall2
import Schemata.Proofs.Stepwise
import Schemata.Proofs.Tree
import Schemata.Proofs.WorkList

set_option autoImplicit false

/-!
What a finished tour has collected. An address is a list of child indices from the top. The rows of a
tour belong to the addresses of the tree in lexicographic order, where an address comes before all that
extend it; so every node has one row, parents come before what is below them and siblings in order.
-/

namespace Schemata

variable {α β : Type}

abbrev Address := List Nat

-- The node at an index of a work list, with its place.
def nodeAt? (found : List (Placed α)) (index : Nat) : Option (α × Schema) :=
  match found[index]? with
  | some ⟨place, .schema _ s⟩ => some (place, s)
  | _ => none

-- The node that a tour comes to at an address below a node, with its place.
def Tour.stand (tour : Tour α β) : Address → α → Schema → Option (α × Schema)
  | [], place, s => some (place, s)
  | index :: rest, place, s =>
    match tour.below place s with
    | .ok found => (nodeAt? found index).bind fun inner => tour.stand rest inner.1 inner.2
    | .error _ => none

-- The same below the nodes of a work list, whose indices begin at a number.
def Tour.standAmong (tour : Tour α β) (start : Nat) (found : List (Placed α)) : Address → Option (α × Schema)
  | [] => none
  | index :: rest =>
    if index < start then none
    else (nodeAt? found (index - start)).bind fun inner => tour.stand rest inner.1 inner.2

-- Rows belong to addresses one by one, and every node has its whole block where its row is.
structure Listing (tour : Tour α β) (stand : Address → Option (α × Schema)) (addresses : List Address)
    (rows : List β) : Prop where
  ascending : addresses.Pairwise (· < ·)
  complete : ∀ address, address ∈ addresses ↔ (stand address).isSome
  placed : List.Forall₂
    (fun address row => ∃ place s, stand address = some (place, s) ∧ tour.row place s = .ok row) addresses rows
  contiguous : ∀ address place s, stand address = some (place, s) →
    ∃ before block after, tour.block place (.schema none s) = .ok block ∧ rows = before ++ block ++ after ∧
      addresses[before.length]? = some address

-- Addresses that begin with an index.
def under (index : Nat) (stand : Address → Option (α × Schema)) : Address → Option (α × Schema)
  | [] => none
  | other :: rest => if other = index then stand rest else none

theorem with_members {γ δ : Type} (relation : γ → δ → Prop) (items : List γ) (results : List δ)
    (related : List.Forall₂ relation items results) :
    List.Forall₂ (fun item result => item ∈ items ∧ relation item result) items results :=
  (List.forall₂_and_left items results).mpr ⟨fun _ member => member, related⟩

theorem listing_none (tour : Tour α β) : Listing tour (fun _ => none) [] [] where
  ascending := .nil
  complete := by simp
  placed := .nil
  contiguous := by simp

theorem listing_under (tour : Tour α β) (stand : Address → Option (α × Schema)) (addresses : List Address)
    (rows : List β) (index : Nat) (listing : Listing tour stand addresses rows) :
    Listing tour (under index stand) (addresses.map (index :: ·)) rows where
  ascending := by
    rw [List.pairwise_map]
    exact listing.ascending.imp fun less => List.cons_lt_cons_iff.mpr (.inr ⟨rfl, less⟩)
  complete := by
    intro address
    cases address with
    | nil => simp [under]
    | cons other rest =>
        by_cases same : other = index
        · subst same
          simpa [under] using listing.complete rest
        · simp [under, same, Ne.symm same]
  placed := by
    rw [List.forall₂_map_left_iff]
    exact listing.placed.imp fun address row placed => by simpa only [under, if_true] using placed
  contiguous := by
    intro address place s found
    cases address with
    | nil => simp [under] at found
    | cons other rest =>
        by_cases same : other = index
        · subst same
          rw [under, if_pos rfl] at found
          obtain ⟨before, block, after, collected, split, here⟩ := listing.contiguous rest place s found
          exact ⟨before, block, after, collected, split, by rw [List.getElem?_map, here]; rfl⟩
        · rw [under, if_neg same] at found
          exact absurd found (by simp)

theorem listing_append (tour : Tour α β) (standFirst standSecond : Address → Option (α × Schema))
    (first second : List Address) (rows others : List β) (left : Listing tour standFirst first rows)
    (right : Listing tour standSecond second others) (apart : ∀ a ∈ first, ∀ b ∈ second, a < b) :
    Listing tour (fun address => (standFirst address).or (standSecond address)) (first ++ second)
      (rows ++ others) := by
  have only : ∀ address ∈ second, standFirst address = none := by
    intro address member
    cases found : standFirst address with
    | none => rfl
    | some inner =>
        have earlier : address ∈ first := (left.complete address).mpr (by rw [found]; rfl)
        exact absurd (apart address earlier address member) (List.lex_irrefl Nat.lt_irrefl address)
  have sameLength : rows.length = first.length := left.placed.length_eq.symm
  refine ⟨?_, ?_, ?_, ?_⟩
  · exact List.pairwise_append.mpr ⟨left.ascending, right.ascending, apart⟩
  · intro address
    rw [List.mem_append, left.complete, right.complete, Option.isSome_or, Bool.or_eq_true]
  · apply List.rel_append
    · refine left.placed.imp fun address row placed => ?_
      obtain ⟨place, s, found, read⟩ := placed
      exact ⟨place, s, by rw [found]; rfl, read⟩
    · refine (with_members _ second others right.placed).imp fun address row here => ?_
      obtain ⟨member, place, s, found, read⟩ := here
      exact ⟨place, s, by rw [only address member, Option.none_or, found], read⟩
  · intro address place s found
    cases earlier : standFirst address with
    | some inner =>
        rw [earlier, Option.some_or] at found
        obtain ⟨before, block, after, collected, split, here⟩ :=
          left.contiguous address place s (earlier.trans found)
        refine ⟨before, block, after ++ others, collected, by simp [split], ?_⟩
        rw [List.getElem?_append_left (List.getElem?_eq_some_iff.mp here).1, here]
    | none =>
        rw [earlier, Option.none_or] at found
        obtain ⟨before, block, after, collected, split, here⟩ := right.contiguous address place s found
        refine ⟨rows ++ before, block, after, collected, by simp [split], ?_⟩
        rw [List.length_append, sameLength, List.getElem?_append_right (Nat.le_add_right _ _),
          Nat.add_sub_cancel_left, here]

theorem stand_among_nil (tour : Tour α β) (start : Nat) : tour.standAmong start [] = fun _ => none := by
  funext address
  cases address with
  | nil => rfl
  | cons index rest => simp [Tour.standAmong, nodeAt?]

theorem stand_among_cons (tour : Tour α β) (start : Nat) (place : α) (handle : Handle) (s : Schema)
    (rest : List (Placed α)) :
    tour.standAmong start (⟨place, .schema handle s⟩ :: rest) = fun address =>
      (under start (fun inner => tour.stand inner place s) address).or (tour.standAmong (start + 1) rest address) := by
  funext address
  cases address with
  | nil => rfl
  | cons index below =>
      rcases Nat.lt_trichotomy index start with less | same | more
      · have different : index ≠ start := Nat.ne_of_lt less
        simp [Tour.standAmong, under, less, different, Nat.lt_succ_of_lt less]
      · subst same
        simp [Tour.standAmong, under, nodeAt?]
      · obtain ⟨distance, rfl⟩ := Nat.exists_eq_add_of_lt more
        have shifted : start + distance + 1 - start = distance + 1 := by omega
        have unshifted : start + distance + 1 - (start + 1) = distance := by omega
        have ahead : ¬ start + distance + 1 < start := by omega
        have behind : ¬ start + distance + 1 < start + 1 := by omega
        have different : start + distance + 1 ≠ start := by omega
        simp only [Tour.standAmong, under, if_neg ahead, if_neg behind, if_neg different, shifted, unshifted,
          Option.none_or, nodeAt?, List.getElem?_cons_succ]

-- The listings of the nodes of a work list follow each other.
theorem listing_among (tour : Tour α β) (found : List (Placed α)) (blocks : List (List β)) (start : Nat)
    (parts : List.Forall₂ (fun placed block => ∃ handle s addresses, placed.value = .schema handle s ∧
      Listing tour (fun address => tour.stand address placed.place s) addresses block) found blocks) :
    ∃ addresses, (∀ address ∈ addresses, ∃ index rest, address = index :: rest ∧ start ≤ index) ∧
      Listing tour (tour.standAmong start found) addresses blocks.flatten := by
  induction parts generalizing start with
  | nil =>
      refine ⟨[], by simp, ?_⟩
      rw [stand_among_nil]
      exact listing_none tour
  | cons part parts hypothesis =>
      rename_i placed block rest others
      obtain ⟨place, value⟩ := placed
      obtain ⟨handle, s, addresses, rfl, listing⟩ := part
      obtain ⟨later, above, remaining⟩ := hypothesis (start + 1)
      refine ⟨addresses.map (start :: ·) ++ later, ?_, ?_⟩
      · intro address member
        rcases List.mem_append.mp member with here | there
        · obtain ⟨inner, _, rfl⟩ := List.mem_map.mp here
          exact ⟨start, inner, rfl, Nat.le_refl start⟩
        · obtain ⟨index, inner, rfl, bound⟩ := above address there
          exact ⟨index, inner, rfl, Nat.le_of_succ_le bound⟩
      · rw [stand_among_cons, List.flatten_cons]
        apply listing_append tour _ _ _ _ _ _ (listing_under tour _ addresses block start listing) remaining
        intro first here second there
        obtain ⟨inner, _, rfl⟩ := List.mem_map.mp here
        obtain ⟨index, outer, rfl, bound⟩ := above second there
        exact List.cons_lt_cons_iff.mpr (.inl bound)

-- The row of a node comes before the rows of what is below it.
theorem listing_node (tour : Tour α β) (place : α) (s : Schema) (found : List (Placed α)) (row : β)
    (addresses : List Address) (rows : List β) (shown : tour.row place s = .ok row)
    (below : tour.below place s = .ok found) (collected : tour.block place (.schema none s) = .ok (row :: rows))
    (listing : Listing tour (tour.standAmong 0 found) addresses rows) :
    Listing tour (fun address => tour.stand address place s) ([] :: addresses) (row :: rows) := by
  have inside : ∀ address ∈ addresses, ∃ index rest, address = index :: rest := by
    intro address member
    cases address with
    | nil => exact absurd ((listing.complete []).mp member) (by simp [Tour.standAmong])
    | cons index rest => exact ⟨index, rest, rfl⟩
  have same : ∀ index rest, tour.stand (index :: rest) place s = tour.standAmong 0 found (index :: rest) := by
    intro index rest
    simp [Tour.stand, Tour.standAmong, below]
  refine ⟨?_, ?_, ?_, ?_⟩
  · refine .cons (fun address member => ?_) listing.ascending
    obtain ⟨index, rest, rfl⟩ := inside address member
    exact .nil
  · intro address
    cases address with
    | nil => simp [Tour.stand]
    | cons index rest =>
        rw [same index rest, ← listing.complete (index :: rest)]
        simp
  · refine .cons ⟨place, s, rfl, shown⟩ ?_
    refine (with_members _ addresses rows listing.placed).imp fun address row here => ?_
    obtain ⟨member, inner, node, stands, read⟩ := here
    obtain ⟨index, rest, rfl⟩ := inside address member
    exact ⟨inner, node, (same index rest).trans stands, read⟩
  · intro address inner node stands
    cases address with
    | nil =>
        obtain ⟨rfl, rfl⟩ : place = inner ∧ s = node := by simpa [Tour.stand] using stands
        exact ⟨[], row :: rows, [], collected, by simp, rfl⟩
    | cons index rest =>
        obtain ⟨before, block, after, gathered, split, here⟩ :=
          listing.contiguous (index :: rest) inner node ((same index rest).symm.trans stands)
        exact ⟨row :: before, block, after, gathered, by simp [split], here⟩

theorem burden_member (value : Value) (values : List Value) (member : value ∈ values) :
    value.burden ≤ burdens values := by
  induction values with
  | nil => simp at member
  | cons other rest hypothesis =>
      rcases List.mem_cons.mp member with same | later
      · subst same
        exact Nat.le_add_right _ _
      · exact Nat.le_trans (hypothesis later) (Nat.le_add_left _ _)

-- Whatever a tour collects without a fault is listed by addresses. The induction is on the node, since
-- what is below it is smaller.
theorem block_listing (tour : Tour α β) (place : α) (handle : Handle) (s : Schema) (rows : List β)
    (collected : tour.block place (.schema handle s) = .ok rows) :
    ∃ addresses, Listing tour (fun address => tour.stand address place s) addresses rows := by
  have whole := collected
  rw [block_schema] at collected
  cases shown : tour.row place s with
  | error fault => simp [shown, Except.bind] at collected
  | ok row =>
      cases below : tour.below place s with
      | error fault => simp [shown, below, Except.bind] at collected
      | ok found =>
          cases parts : found.mapM fun placed => tour.block placed.place placed.value with
          | error fault => simp [shown, below, parts, Except.bind, Except.map] at collected
          | ok blocks =>
              obtain rfl : row :: blocks.flatten = rows := by
                simpa [shown, below, parts, Except.bind, Except.map] using collected
              have smaller := tour.shrinks place s found below
              have listed : List.Forall₂ (fun placed block => ∃ handle s addresses,
                  placed.value = .schema handle s ∧
                    Listing tour (fun address => tour.stand address placed.place s) addresses block)
                  found blocks := by
                refine (with_members _ found blocks (map_m_parts _ found blocks parts)).imp
                  fun placed block here => ?_
                obtain ⟨member, gathered⟩ := here
                obtain ⟨inner, value⟩ := placed
                cases value with
                | schema childHandle child =>
                    have bound := burden_member (.schema childHandle child) (found.map Placed.value)
                      (List.mem_map_of_mem member)
                    have decreasing : sizeOf child < sizeOf s := Nat.lt_of_le_of_lt bound smaller
                    obtain ⟨addresses, listing⟩ := block_listing tour inner childHandle child block gathered
                    exact ⟨childHandle, child, addresses, rfl, listing⟩
                | _ =>
                    rw [block_other tour inner _ (by simp)] at gathered
                    exact absurd gathered (by simp)
              obtain ⟨addresses, _, listing⟩ := listing_among tour found blocks 0 listed
              refine ⟨[] :: addresses,
                listing_node tour place s found row addresses blocks.flatten shown below ?_ listing⟩
              rw [block_schema] at whole ⊢
              exact whole
termination_by sizeOf s

-- A tour of a tree ends without a fault if every node has a row and a place for each of its children.
theorem block_finishes (tour : Tour α β) (condition : Schema → Prop)
    (clear : ∀ place s, s.Shaped → condition s → ∃ row found, tour.row place s = .ok row ∧
      tour.below place s = .ok found ∧ ∀ placed ∈ found, ∃ child ∈ s.offspring, placed.value = child.2)
    (value : Value) (tree : value.IsTree condition) (place : α) : ∃ rows, tour.block place value = .ok rows := by
  induction tree generalizing place with
  | node handle s here shaped below hypothesis =>
      obtain ⟨row, found, shown, listed, among⟩ := clear place s shaped here
      have parts : ∃ blocks, (found.mapM fun placed => tour.block placed.place placed.value) = .ok blocks := by
        apply map_m_exists
        intro placed member
        obtain ⟨child, childMember, same⟩ := among placed member
        rw [same]
        exact hypothesis child childMember placed.place
      obtain ⟨blocks, gathered⟩ := parts
      refine ⟨row :: blocks.flatten, ?_⟩
      rw [block_schema, shown, listed]
      simp only [Except.bind]
      rw [gathered]
      rfl

end Schemata
