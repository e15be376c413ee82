import Schemata.Proofs.Listing
import Schemata.Walk

set_option autoImplicit false

/-!
The walk in pre-order. The walk of a node is the node itself, then the walks of its children one after
the other; so it visits every address of the tree once, with the pointer along the steps to it, and the
pointers only begin with the one that the walk began with. What stands at an address is read off the records.
-/

namespace Schemata

-- The node in a child position, with the step to it.
def Schema.childAt? (s : Schema) (index : Nat) : Option (Step × Schema) :=
  match s.offspring[index]? with
  | some (step, .schema _ child) => some (step, child)
  | _ => none

-- The steps to an address below a node, and the node there.
def Schema.descend (s : Schema) : Address → Option (List Step × Schema)
  | [] => some ([], s)
  | index :: rest =>
    (s.childAt? index).bind fun child =>
      (child.2.descend rest).map fun found => (child.1 :: found.1, found.2)

def pointerAlong (start : String) (steps : List Step) : String :=
  steps.foldl (fun pointer step => pointer ++ "/" ++ step.segment) start

theorem walk_block (value : Value) (start : String) :
    value.walk start = (Tour.byPointer (.ok : Visit → Except Fault Visit)).block start value := rfl

theorem walk_schema (handle : Handle) (s : Schema) (start : String) :
    (Value.schema handle s).walk start =
      s.children.bind fun children =>
        (children.mapM fun child => Value.walk child.2 (start ++ "/" ++ child.1.segment)).map fun blocks =>
          ⟨start, s⟩ :: blocks.flatten := by
  rw [walk_block, block_schema]
  change ((s.children.map _).bind _) = _
  cases s.children with
  | error fault => rfl
  | ok children =>
      simp only [Except.map, Except.bind, List.mapM_map, Tour.byPointer]
      rfl

theorem walk_append (lead start : String) (value : Value) :
    value.walk (lead ++ start) =
      (value.walk start).map (List.map fun visit => ⟨lead ++ visit.pointer, visit.node⟩) := by
  rw [walk_block, walk_block]
  apply block_image (Tour.byPointer .ok) (Tour.byPointer .ok) (lead ++ ·)
    (fun visit : Visit => (⟨lead ++ visit.pointer, visit.node⟩ : Visit))
  · intro here s
    rfl
  · intro here s
    simp only [Tour.byPointer, Schema.childrenBelow]
    cases s.children with
    | error fault => rfl
    | ok children => simp [Except.map, Placed.move, String.append_assoc]

theorem walk_finishes (condition : Schema → Prop) (value : Value) (tree : value.IsTree condition)
    (start : String) : ∃ visits, value.walk start = .ok visits := by
  refine block_finishes (Tour.byPointer .ok) condition ?_ value tree start
  intro place s shaped here
  have children := children_of_shaped s shaped
  refine ⟨⟨place, s⟩, s.offspring.map fun child => ⟨place ++ "/" ++ child.1.segment, child.2⟩, rfl, ?_, ?_⟩
  · simp only [Tour.byPointer, Schema.childrenBelow]
    rw [children]
    rfl
  · intro placed member
    obtain ⟨child, childMember, rfl⟩ := List.mem_map.mp member
    exact ⟨child, childMember, rfl⟩

theorem child_at_tree (condition : Schema → Prop) (handle : Handle) (s : Schema)
    (tree : (Value.schema handle s).IsTree condition) (index : Nat) (step : Step) (child : Schema)
    (found : s.childAt? index = some (step, child)) :
    ∃ inner, s.offspring[index]? = some (step, .schema inner child) ∧
      (Value.schema inner child).IsTree condition := by
  cases tree with
  | node _ _ here shaped below =>
      rw [Schema.childAt?] at found
      cases present : s.offspring[index]? with
      | none => simp [present] at found
      | some offspring =>
          obtain ⟨other, value⟩ := offspring
          have tree := below (other, value) (List.mem_of_getElem? present)
          obtain ⟨inner, node, rfl⟩ := tree_is_schema condition value tree
          simp only [present, Option.some.injEq, Prod.mk.injEq] at found
          obtain ⟨rfl, rfl⟩ := found
          exact ⟨inner, rfl, tree⟩

theorem node_by_pointer (start : String) (s : Schema) (index : Nat) :
    nodeAt? (s.offspring.map fun child => (⟨start ++ "/" ++ child.1.segment, child.2⟩ : Placed String)) index =
      (s.childAt? index).map fun child => (start ++ "/" ++ child.1.segment, child.2) := by
  rw [nodeAt?, List.getElem?_map, Schema.childAt?]
  cases s.offspring[index]? with
  | none => rfl
  | some child =>
      obtain ⟨step, value⟩ := child
      cases value <;> rfl

-- A walk comes to the nodes that the records lead to.
theorem stand_by_pointer {β : Type} (read : Visit → Except Fault β) (condition : Schema → Prop) (address : Address)
    (start : String) (handle : Handle) (s : Schema) (tree : (Value.schema handle s).IsTree condition) :
    (Tour.byPointer read).stand address start s =
      (s.descend address).map fun found => (pointerAlong start found.1, found.2) := by
  induction address generalizing start handle s with
  | nil => rfl
  | cons index rest hypothesis =>
      have children : (Tour.byPointer read).below start s =
          .ok (s.offspring.map fun child => ⟨start ++ "/" ++ child.1.segment, child.2⟩) := by
        change s.childrenBelow start = _
        rw [Schema.childrenBelow, children_of_shaped s (tree_here condition handle s tree).2]
        rfl
      simp only [Tour.stand, Schema.descend, children, node_by_pointer]
      cases reached : s.childAt? index with
      | none => rfl
      | some child =>
          obtain ⟨step, node⟩ := child
          obtain ⟨inner, _, below⟩ := child_at_tree condition handle s tree index step node reached
          have later := hypothesis (start ++ "/" ++ step.segment) inner node below
          simp only [Option.map_some, Option.bind_some, later]
          cases node.descend rest <;> rfl

-- The visits of a walk belong to the addresses of a tree. Each address is there once, with its node and
-- the pointer along the steps to it; a node stands before all that is below it, and an earlier child with
-- all below it before a later one; the walk of a node from its own pointer stands where the node stands.
structure PreOrder (s : Schema) (start : String) (visits : List Visit) (addresses : List Address) : Prop where
  once : addresses.Nodup
  complete : ∀ address, address ∈ addresses ↔ (s.descend address).isSome
  placed : List.Forall₂
    (fun address visit => ∃ steps, s.descend address = some (steps, visit.node) ∧
      visit.pointer = pointerAlong start steps) addresses visits
  parents : ∀ (i j : Nat) (upper lower : Address), addresses[i]? = some upper → addresses[j]? = some lower →
    upper <+: lower → upper ≠ lower → i < j
  siblings : ∀ (i j : Nat) (shared left right : Address) (a b : Nat), addresses[i]? = some (shared ++ a :: left) →
    addresses[j]? = some (shared ++ b :: right) → a < b → i < j
  contiguous : ∀ address steps node, s.descend address = some (steps, node) →
    ∃ before block after, (Value.schema none node).walk (pointerAlong start steps) = .ok block ∧
      visits = before ++ block ++ after ∧ addresses[before.length]? = some address

theorem prefix_less (upper lower : Address) (begins : upper <+: lower) (different : upper ≠ lower) :
    upper < lower := by
  obtain ⟨rest, rfl⟩ := begins
  induction upper with
  | nil =>
      cases rest with
      | nil => exact absurd rfl different
      | cons index rest => exact .nil
  | cons index upper hypothesis =>
      refine List.cons_lt_cons_iff.mpr (.inr ⟨rfl, hypothesis fun same => ?_⟩)
      exact different (congrArg (index :: ·) same)

theorem sibling_less (shared left right : Address) (a b : Nat) (less : a < b) :
    shared ++ a :: left < shared ++ b :: right := by
  induction shared with
  | nil => exact List.cons_lt_cons_iff.mpr (.inl less)
  | cons index shared hypothesis => exact List.cons_lt_cons_iff.mpr (.inr ⟨rfl, hypothesis⟩)

theorem index_less (addresses : List Address) (ascending : addresses.Pairwise (· < ·)) (i j : Nat)
    (a b : Address) (first : addresses[i]? = some a) (second : addresses[j]? = some b) (less : a < b) : i < j := by
  obtain ⟨firstBound, rfl⟩ := List.getElem?_eq_some_iff.mp first
  obtain ⟨secondBound, rfl⟩ := List.getElem?_eq_some_iff.mp second
  rcases Nat.lt_trichotomy i j with before | same | after
  · exact before
  · subst same
    exact absurd less (List.lex_irrefl Nat.lt_irrefl _)
  · have reverse := List.pairwise_iff_getElem.mp ascending j i secondBound firstBound after
    exact absurd less (List.lt_asymm reverse)

theorem listing_pre_order (condition : Schema → Prop) (handle : Handle) (s : Schema)
    (tree : (Value.schema handle s).IsTree condition) (start : String) (visits : List Visit) (addresses : List Address)
    (listing : Listing (Tour.byPointer (.ok : Visit → Except Fault Visit))
      (fun address => (Tour.byPointer .ok).stand address start s) addresses visits) :
    PreOrder s start visits addresses := by
  have ascending := listing.ascending
  have stands (address : Address) := stand_by_pointer (.ok : Visit → _) condition address start handle s tree
  refine ⟨?_, ?_, ?_, ?_, ?_, ?_⟩
  · rw [List.nodup_iff_pairwise_ne]
    refine ascending.imp fun {upper lower} less same => ?_
    subst same
    exact List.lex_irrefl Nat.lt_irrefl upper less
  · intro address
    rw [listing.complete address, stands, Option.isSome_map]
  · refine listing.placed.imp fun address visit placed => ?_
    obtain ⟨place, node, found, read⟩ := placed
    obtain rfl : ⟨place, node⟩ = visit := Except.ok.inj read
    rw [stands, Option.map_eq_some_iff] at found
    obtain ⟨⟨steps, there⟩, descended, same⟩ := found
    obtain ⟨rfl, rfl⟩ := Prod.mk.inj same
    exact ⟨steps, descended, rfl⟩
  · intro i j upper lower first second above different
    exact index_less addresses ascending i j upper lower first second (prefix_less upper lower above different)
  · intro i j shared left right a b first second less
    exact index_less addresses ascending i j _ _ first second (sibling_less shared left right a b less)
  · intro address steps node descended
    apply listing.contiguous address (pointerAlong start steps) node
    rw [stands, descended]
    rfl

theorem walk_pre_order (condition : Schema → Prop) (handle : Handle) (s : Schema)
    (tree : (Value.schema handle s).IsTree condition) (start : String) (visits : List Visit)
    (walked : (Value.schema handle s).walk start = .ok visits) :
    ∃ addresses, PreOrder s start visits addresses := by
  obtain ⟨addresses, listing⟩ := block_listing (Tour.byPointer .ok) start handle s visits walked
  exact ⟨addresses, listing_pre_order condition handle s tree start visits addresses listing⟩

-- A walk from another start gives the same nodes, with the other start in front of their pointers.
theorem walk_restarted (value : Value) (start other : String) (visits : List Visit)
    (walked : value.walk start = .ok visits) :
    ∃ others, value.walk other = .ok others ∧ List.Forall₂
      (fun visit otherVisit => ∃ rest, visit.pointer = start ++ rest ∧ otherVisit.pointer = other ++ rest ∧
        visit.node = otherVisit.node) visits others := by
  have fromStart := walk_append start "" value
  have fromOther := walk_append other "" value
  rw [String.append_empty] at fromStart fromOther
  cases bare : value.walk "" with
  | error fault =>
      rw [fromStart, bare] at walked
      exact absurd walked (by simp [Except.map])
  | ok visited =>
      rw [fromStart, bare] at walked
      obtain rfl := Except.ok.inj walked
      rw [bare] at fromOther
      refine ⟨_, fromOther, ?_⟩
      rw [List.forall₂_map_left_iff, List.forall₂_map_right_iff]
      exact List.forall₂_same.mpr fun visit _ => ⟨visit.pointer, rfl, rfl, rfl⟩

theorem walk_refines_recursion (condition : Schema → Prop) (handle : Handle) (s : Schema)
    (tree : (Value.schema handle s).IsTree condition) (start : String) :
    ∃ visits, (Value.schema handle s).walk start = .ok visits ∧
      (∃ children blocks, s.children = .ok children ∧
        List.Forall₂ (fun child block => Value.walk child.2 (start ++ "/" ++ child.1.segment) = .ok block)
          children blocks ∧
        visits = ⟨start, s⟩ :: blocks.flatten) ∧
      (∃ addresses, PreOrder s start visits addresses) ∧
      ∃ fromRoot, (Value.schema handle s).walk rootPointer = .ok fromRoot ∧ List.Forall₂
        (fun visit rootVisit => ∃ rest, visit.pointer = start ++ rest ∧
          rootVisit.pointer = rootPointer ++ rest ∧ visit.node = rootVisit.node) visits fromRoot := by
  obtain ⟨visits, walked⟩ := walk_finishes condition _ tree start
  refine ⟨visits, walked, ?_, walk_pre_order condition handle s tree start visits walked,
    walk_restarted _ start rootPointer visits walked⟩
  have recursion := walked
  rw [walk_schema] at recursion
  cases listed : s.children with
  | error fault => simp [listed, Except.bind] at recursion
  | ok children =>
      cases parts : children.mapM fun child => Value.walk child.2 (start ++ "/" ++ child.1.segment) with
      | error fault => simp [listed, parts, Except.bind, Except.map] at recursion
      | ok blocks =>
          refine ⟨children, blocks, rfl, map_m_parts _ children blocks parts, ?_⟩
          simpa [listed, parts, Except.bind, Except.map] using recursion.symm

theorem forked_node_walk :
    (Value.schema none forkedNode).IsTree Schema.DistinctNames ∧
      ∃ visits, (Value.schema none forkedNode).walk "~" = .ok visits ∧
        ∃ addresses, PreOrder forkedNode "~" visits addresses := by
  obtain ⟨visits, walked, _, order, _⟩ :=
    walk_refines_recursion Schema.DistinctNames none forkedNode forked_node_tree "~"
  exact ⟨forked_node_tree, visits, walked, order⟩

end Schemata
