import Schemata.Proofs.PreOrder
import Schemata.Proofs.Token

set_option autoImplicit false

/-!
Pointers as addresses. A pointer is cut at its slashes and its words are read from a node on: the word of
an object's properties and a token, the word of the items, or the word of a combination and a number. In a
tree whose objects have each name once, the pointers of a walk are distinct and lead back to their nodes.
-/

namespace Schemata

-- The number that decimal digits stand for.
def Text.index? (digits : String) : Option Nat :=
  if digits.toList ≠ [] ∧ digits.toList.all Char.isDigit then some (Nat.ofDigitChars 10 digits.toList 0)
  else none

-- The node that words lead to; a name is looked up as what its token reads back as.
def Schema.follow : Schema → List String → Option Schema
  | s, [] => some s
  | .object labels properties low high, word :: token :: rest =>
    if word = "properties" then
      match (Schema.object labels properties low high).property? (.text (Text.unescapeToken token)) with
      | .ok (some property) =>
        match property.attribute "schema" with
        | .ok (.schema _ child) => child.follow rest
        | _ => none
      | _ => none
    else none
  | .array _ items _ _, word :: rest =>
    if word = "items" then
      match items with
      | .schema _ child => child.follow rest
      | _ => none
    else none
  | .combined mode combinator, word :: digits :: rest =>
    if word = mode.kind.text then
      match combinator.attribute "sub_schemas", Text.index? digits with
      | .ok (.tuple _ alternatives), some index =>
        match alternatives[index]? with
        | some (.schema _ child) => child.follow rest
        | _ => none
      | _, _ => none
    else none
  | _, _ => none

-- The node that a pointer leads to.
def Schema.resolve (s : Schema) (pointer : String) : Option Schema :=
  match pointer.toList with
  | '#' :: rest =>
    match Text.split '/' (String.ofList rest) with
    | "" :: words => s.follow words
    | _ => none
  | _ => none

def Step.words : Step → List String
  | .property name => ["properties", Text.escapeToken name]
  | .items => ["items"]
  | .branch mode index => [mode.kind.text, toString index]

theorem number_digits (index : Nat) : (toString index).toList = Nat.toDigits 10 index := Nat.toList_repr

theorem digits_only (index : Nat) (c : Char) (member : c ∈ (toString index).toList) : c.isDigit = true := by
  rw [number_digits] at member
  exact Nat.isDigit_of_mem_toDigits (by decide) (by decide) member

theorem number_read_back (index : Nat) : Text.index? (toString index) = some index := by
  have written : (toString index).toList ≠ [] := by
    rw [number_digits]
    exact Nat.toDigits_ne_nil
  rw [Text.index?, if_pos ⟨written, List.all_eq_true.mpr (digits_only index)⟩, number_digits,
    Nat.ofDigitChars_ten_toDigits]

theorem mode_text_injective (a b : Mode) (same : a.kind.text = b.kind.text) : a = b := by
  revert same
  cases a <;> cases b <;> decide

theorem mode_text_other (mode : Mode) : mode.kind.text ≠ "properties" ∧ mode.kind.text ≠ "items" := by
  cases mode <;> decide

-- The first word tells how many words belong to a step, so what follows a step cannot run into it.
theorem words_append_injective (a b : Step) (left right : List String)
    (same : a.words ++ left = b.words ++ right) : a = b ∧ left = right := by
  cases a with
  | property name =>
      cases b with
      | property other =>
          simp only [Step.words, List.cons_append, List.nil_append, List.cons.injEq, true_and] at same
          exact ⟨congrArg Step.property (Text.escape_injective name other same.1), same.2⟩
      | items => simp [Step.words] at same
      | branch mode index =>
          simp only [Step.words, List.cons_append, List.cons.injEq] at same
          exact absurd same.1.symm (mode_text_other mode).1
  | items =>
      cases b with
      | property other => simp [Step.words] at same
      | items => exact ⟨rfl, by simpa [Step.words] using same⟩
      | branch mode index =>
          simp only [Step.words, List.cons_append, List.cons.injEq] at same
          exact absurd same.1.symm (mode_text_other mode).2
  | branch mode index =>
      cases b with
      | property other =>
          simp only [Step.words, List.cons_append, List.cons.injEq] at same
          exact absurd same.1 (mode_text_other mode).1
      | items =>
          simp only [Step.words, List.cons_append, List.cons.injEq] at same
          exact absurd same.1 (mode_text_other mode).2
      | branch other number =>
          simp only [Step.words, List.cons_append, List.nil_append, List.cons.injEq] at same
          obtain ⟨sameMode, sameIndex, rest⟩ := same
          have equal : some index = some number := by
            rw [← number_read_back index, sameIndex, number_read_back]
          rw [mode_text_injective mode other sameMode, Option.some.inj equal]
          exact ⟨rfl, rest⟩

theorem words_no_slash (step : Step) : ∀ word ∈ step.words, '/' ∉ word.toList := by
  cases step with
  | property name =>
      simp only [Step.words, List.forall_mem_cons]
      exact ⟨by decide, Text.escape_no_slash name, List.forall_mem_nil _⟩
  | items => decide
  | branch mode index =>
      simp only [Step.words, List.forall_mem_cons]
      refine ⟨by cases mode <;> decide, fun slash => ?_, List.forall_mem_nil _⟩
      exact absurd (digits_only index '/' slash) (by decide)

theorem segment_slashed (step : Step) : '/' :: step.segment.toList = Text.slashed step.words := by
  cases step with
  | branch mode index => simp [branch_segment, Step.words, Text.slashed]
  | _ => simp [Step.segment, Step.words, Text.slashed]

theorem pointer_slashed (start : String) (steps : List Step) :
    (pointerAlong start steps).toList = start.toList ++ Text.slashed (steps.flatMap Step.words) := by
  induction steps generalizing start with
  | nil => simp [pointerAlong, Text.slashed]
  | cons step rest hypothesis =>
      have later := hypothesis (start ++ "/" ++ step.segment)
      change (pointerAlong (start ++ "/" ++ step.segment) rest).toList = _
      rw [later, String.toList_append, String.toList_append, List.flatMap_cons]
      have here := segment_slashed step
      simp only [Text.slashed, List.flatMap_append] at here ⊢
      rw [← here]
      simp

theorem along_no_slash (steps : List Step) : ∀ word ∈ steps.flatMap Step.words, '/' ∉ word.toList := by
  intro word member
  obtain ⟨step, _, within⟩ := List.mem_flatMap.mp member
  exact words_no_slash step word within

theorem resolve_along (s : Schema) (steps : List Step) :
    s.resolve (pointerAlong rootPointer steps) = s.follow (steps.flatMap Step.words) := by
  have text := pointer_slashed rootPointer steps
  have cut := Text.split_slashed _ (along_no_slash steps)
  change _ = '#' :: Text.slashed _ at text
  rw [Schema.resolve, text]
  simp only [cut]

-- A step to a child reads as one turn to that child.
theorem follow_child (s : Schema) (shaped : s.Shaped) (distinct : s.DistinctNames) (step : Step)
    (handle : Handle) (child : Schema) (member : (step, Value.schema handle child) ∈ s.offspring)
    (rest : List String) : s.follow (step.words ++ rest) = child.follow rest := by
  cases s with
  | object labels properties low high =>
      obtain ⟨tupleHandle, items, rfl, named⟩ := shaped
      obtain ⟨item, itemMember, same⟩ := List.mem_map.mp member
      obtain ⟨rfl, target⟩ := Prod.mk.inj same
      have found : (Schema.object labels (.tuple tupleHandle items) low high).property? (.text item.spelling) =
          .ok (some item) := by
        rw [property_found labels tupleHandle items low high named]
        exact congrArg _ (find_distinct Value.spelling items distinct item itemMember)
      have led := property_target item (named item itemMember)
      rw [target] at led
      rw [Step.words, List.cons_append, List.cons_append, List.nil_append, Schema.follow, if_pos rfl,
        Text.unescape_escape]
      simp only [found, led]
  | array labels items low high =>
      rcases array_offspring labels items low high with none | one
      · exact absurd (none ▸ member) List.not_mem_nil
      · obtain ⟨rfl, rfl⟩ := Prod.mk.inj (List.mem_singleton.mp (one ▸ member))
        rw [Step.words, List.cons_append, List.nil_append, Schema.follow, if_pos rfl]
  | combined mode combinator =>
      obtain ⟨outer, labels, inner, alternatives, rfl⟩ := shaped
      obtain ⟨index, at_index⟩ := List.mem_iff_getElem?.mp member
      have listed : (branches mode 0 alternatives)[index]? = some (step, .schema handle child) := at_index
      rw [branch_at, Nat.zero_add, Option.map_eq_some_iff] at listed
      obtain ⟨value, present, same⟩ := listed
      obtain ⟨rfl, rfl⟩ := Prod.mk.inj same
      have read : Value.attribute "sub_schemas" (.combinator outer ⟨labels, .tuple inner alternatives⟩) =
          .ok (.tuple inner alternatives) := rfl
      rw [Step.words, List.cons_append, List.cons_append, List.nil_append, Schema.follow, if_pos rfl]
      simp only [read, number_read_back, present]
  | _ => exact absurd member List.not_mem_nil

-- A node does not reach two children by one step.
theorem step_once (s : Schema) (shaped : s.Shaped) (distinct : s.DistinctNames) (i j : Nat) (step : Step)
    (left right : Value) (first : s.offspring[i]? = some (step, left))
    (second : s.offspring[j]? = some (step, right)) : i = j := by
  cases s with
  | object labels properties low high =>
      obtain ⟨handle, items, rfl, named⟩ := shaped
      simp only [Schema.offspring, List.getElem?_map, Option.map_eq_some_iff] at first second
      obtain ⟨a, atFirst, sameFirst⟩ := first
      obtain ⟨b, atSecond, sameSecond⟩ := second
      have spelled : (items.map Value.spelling)[i]? = (items.map Value.spelling)[j]? := by
        have steps : Step.property a.spelling = Step.property b.spelling :=
          (congrArg Prod.fst sameFirst).trans (congrArg Prod.fst sameSecond).symm
        rw [List.getElem?_map, List.getElem?_map, atFirst, atSecond]
        exact congrArg some (Step.property.inj steps)
      have bound : i < (items.map Value.spelling).length := by
        rw [List.length_map]
        exact (List.getElem?_eq_some_iff.mp atFirst).1
      exact (List.getElem?_inj bound distinct).mp spelled
  | array labels items low high =>
      have firstBound := (List.getElem?_eq_some_iff.mp first).1
      have secondBound := (List.getElem?_eq_some_iff.mp second).1
      rcases array_offspring labels items low high with none | one
      · rw [none] at firstBound
        exact absurd firstBound (Nat.not_lt_zero i)
      · rw [one, List.length_singleton] at firstBound secondBound
        omega
  | combined mode combinator =>
      obtain ⟨outer, labels, inner, alternatives, rfl⟩ := shaped
      simp only [Schema.offspring, branch_at, Option.map_eq_some_iff] at first second
      obtain ⟨a, _, sameFirst⟩ := first
      obtain ⟨b, _, sameSecond⟩ := second
      have steps : Step.branch mode (0 + i) = Step.branch mode (0 + j) :=
        (congrArg Prod.fst sameFirst).trans (congrArg Prod.fst sameSecond).symm
      have indices := (Step.branch.inj steps).2
      omega
  | _ => exact absurd first (by simp [Schema.offspring])

theorem descend_cons (s : Schema) (index : Nat) (rest : Address) (steps : List Step) (node : Schema)
    (found : s.descend (index :: rest) = some (steps, node)) :
    ∃ step child others, s.childAt? index = some (step, child) ∧ child.descend rest = some (others, node) ∧
      steps = step :: others := by
  rw [Schema.descend, Option.bind_eq_some_iff] at found
  obtain ⟨⟨step, child⟩, here, later⟩ := found
  obtain ⟨⟨others, there⟩, below, same⟩ := Option.map_eq_some_iff.mp later
  obtain ⟨rfl, rfl⟩ := Prod.mk.inj same
  exact ⟨step, child, others, here, below, rfl⟩

theorem descend_follows (handle : Handle) (s : Schema)
    (tree : (Value.schema handle s).IsTree Schema.DistinctNames) (address : Address) (steps : List Step)
    (node : Schema) (found : s.descend address = some (steps, node)) :
    s.follow (steps.flatMap Step.words) = some node := by
  induction address generalizing handle s steps with
  | nil =>
      obtain ⟨rfl, rfl⟩ := Prod.mk.inj (Option.some.inj found)
      cases s <;> rfl
  | cons index rest hypothesis =>
      obtain ⟨step, child, others, here, later, rfl⟩ := descend_cons s index rest steps node found
      obtain ⟨inner, present, below⟩ := child_at_tree _ handle s tree index step child here
      obtain ⟨distinct, shaped⟩ := tree_here _ handle s tree
      rw [List.flatMap_cons, follow_child s shaped distinct step inner child (List.mem_of_getElem? present)]
      exact hypothesis inner child below others later

-- Words tell the address: the first step is read off, and only one child is reached by it.
theorem words_tell_address (handle : Handle) (s : Schema)
    (tree : (Value.schema handle s).IsTree Schema.DistinctNames) (left right : Address)
    (leftSteps rightSteps : List Step) (a b : Schema) (first : s.descend left = some (leftSteps, a))
    (second : s.descend right = some (rightSteps, b))
    (same : leftSteps.flatMap Step.words = rightSteps.flatMap Step.words) : left = right := by
  induction left generalizing handle s right leftSteps rightSteps with
  | nil =>
      cases right with
      | nil => rfl
      | cons index rest =>
          obtain ⟨rfl, _⟩ := Prod.mk.inj (Option.some.inj first)
          obtain ⟨step, child, others, _, _, rfl⟩ := descend_cons s index rest rightSteps b second
          cases step <;> simp [Step.words] at same
  | cons index rest hypothesis =>
      obtain ⟨step, child, others, here, later, rfl⟩ := descend_cons s index rest leftSteps a first
      cases right with
      | nil =>
          obtain ⟨rfl, _⟩ := Prod.mk.inj (Option.some.inj second)
          cases step <;> simp [Step.words] at same
      | cons index₂ rest₂ =>
          obtain ⟨step₂, child₂, others₂, here₂, later₂, rfl⟩ := descend_cons s index₂ rest₂ rightSteps b second
          rw [List.flatMap_cons, List.flatMap_cons] at same
          obtain ⟨rfl, sameRest⟩ := words_append_injective step step₂ _ _ same
          obtain ⟨inner, present, below⟩ := child_at_tree _ handle s tree index step child here
          obtain ⟨inner₂, present₂, _⟩ := child_at_tree _ handle s tree index₂ step child₂ here₂
          obtain ⟨distinct, shaped⟩ := tree_here _ handle s tree
          obtain rfl := step_once s shaped distinct index index₂ step _ _ present present₂
          rw [present, Option.some.injEq, Prod.mk.injEq, Value.schema.injEq] at present₂
          obtain ⟨_, _, rfl⟩ := present₂
          rw [hypothesis inner child below rest₂ others others₂ later later₂ sameRest]

theorem pointer_tells_address (handle : Handle) (s : Schema)
    (tree : (Value.schema handle s).IsTree Schema.DistinctNames) (left right : Address)
    (leftSteps rightSteps : List Step) (a b : Schema) (first : s.descend left = some (leftSteps, a))
    (second : s.descend right = some (rightSteps, b))
    (same : pointerAlong rootPointer leftSteps = pointerAlong rootPointer rightSteps) : left = right := by
  have texts := congrArg String.toList same
  rw [pointer_slashed, pointer_slashed, List.append_cancel_left_eq] at texts
  have words := Text.split_slashed _ (along_no_slash leftSteps)
  rw [texts, Text.split_slashed _ (along_no_slash rightSteps)] at words
  have same := (List.cons.inj words).2.symm
  exact words_tell_address handle s tree left right leftSteps rightSteps a b first second same

theorem walk_pointers_lead_back (handle : Handle) (s : Schema)
    (tree : (Value.schema handle s).IsTree Schema.DistinctNames) :
    ∃ visits, (Value.schema handle s).walk rootPointer = .ok visits ∧
      (visits.map Visit.pointer).Nodup ∧ (∀ visit ∈ visits, s.resolve visit.pointer = some visit.node) ∧
      ∀ address steps node, s.descend address = some (steps, node) →
        ⟨pointerAlong rootPointer steps, node⟩ ∈ visits := by
  obtain ⟨visits, walked⟩ := walk_finishes _ _ tree rootPointer
  obtain ⟨addresses, order⟩ := walk_pre_order _ handle s tree rootPointer visits walked
  refine ⟨visits, walked, images_distinct _ Visit.pointer addresses visits order.once order.placed ?_, ?_, ?_⟩
  · rintro left right a b ⟨leftSteps, first, leftPointer⟩ ⟨rightSteps, second, rightPointer⟩ same
    rw [leftPointer, rightPointer] at same
    exact pointer_tells_address handle s tree left right leftSteps rightSteps a.node b.node first second same
  · intro visit member
    obtain ⟨address, _, steps, descended, pointer⟩ := source_of_result _ addresses visits order.placed visit member
    rw [pointer, resolve_along]
    exact descend_follows handle s tree address steps visit.node descended
  · intro address steps node reached
    have listed : address ∈ addresses := (order.complete address).mpr (by rw [reached]; rfl)
    obtain ⟨visit, member, others, found, pointer⟩ :=
      source_of_result _ visits addresses order.placed.flip address listed
    obtain ⟨rfl, rfl⟩ := Prod.mk.inj (Option.some.inj (reached.symm.trans found))
    rwa [← pointer]

theorem forked_node_pointers :
    (Value.schema none forkedNode).IsTree Schema.DistinctNames ∧
      ∃ visits, (Value.schema none forkedNode).walk rootPointer = .ok visits ∧
        (visits.map Visit.pointer).Nodup ∧
        (∀ visit ∈ visits, forkedNode.resolve visit.pointer = some visit.node) ∧
        ⟨"#/properties/a~1b/oneOf/1", .null (.of .null .null [])⟩ ∈ visits ∧
        ⟨"#/properties//items", .null (.of .null .null [])⟩ ∈ visits := by
  obtain ⟨visits, walked, distinct, back, complete⟩ := walk_pointers_lead_back none forkedNode forked_node_tree
  exact ⟨forked_node_tree, visits, walked, distinct, back, complete [0, 1] _ _ rfl, complete [1, 0] _ _ rfl⟩

end Schemata
