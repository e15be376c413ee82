import Schemata.Build
import Schemata.Proofs.Stepwise
import Schemata.Proofs.Wording
import Schemata.Query

set_option autoImplicit false

/-!
Trees. A node is shaped when its fields hold its children the way they are declared: properties under
texts in a tuple, alternatives in a tuple of a combinator. A tree has shaped nodes in all child
positions. The children of a shaped node can be told without a fault, and so can its properties by name.
-/

namespace Schemata

-- The text of the name of a property.
def Value.spelling : Value → String
  | .property _ p => p.name.text?.getD ""
  | _ => ""

def Value.isRequired : Value → Bool
  | .property _ p => p.required
  | _ => false

-- What a property leads to.
def Value.target : Value → Value
  | .property _ p => p.schema
  | value => value

def Value.IsProperty : Value → Prop
  | .property _ p => p.name.text?.isSome
  | _ => False

def Schema.Shaped : Schema → Prop
  | .object _ properties _ _ =>
    ∃ handle items, properties = .tuple handle items ∧ ∀ item ∈ items, item.IsProperty
  | .combined _ combinator =>
    ∃ handle labels inner alternatives, combinator = .combinator handle ⟨labels, .tuple inner alternatives⟩
  | _ => True

-- What a shaped node has in its child positions, in document order.
def Schema.offspring : Schema → List (Step × Value)
  | .object _ (.tuple _ items) _ _ => items.map fun item => (.property item.spelling, item.target)
  | .array _ (.scalar .null) _ _ => []
  | .array _ items _ _ => [(.items, items)]
  | .combined mode (.combinator _ ⟨_, .tuple _ alternatives⟩) => branches mode 0 alternatives
  | _ => []

-- Each of an object's names is there once.
def Schema.DistinctNames : Schema → Prop
  | .object _ (.tuple _ items) _ _ => (items.map Value.spelling).Nodup
  | _ => True

-- A value is a node, all nodes from there on are shaped, and each of them meets a condition.
inductive Value.IsTree (condition : Schema → Prop) : Value → Prop where
  | node (handle : Handle) (s : Schema) (here : condition s) (shaped : s.Shaped)
      (below : ∀ child ∈ s.offspring, IsTree condition child.2) : IsTree condition (.schema handle s)

def Value.IsNode (value : Value) : Prop := ∃ handle s, value = .schema handle s

theorem tree_is_schema (condition : Schema → Prop) (value : Value) (tree : value.IsTree condition) :
    ∃ handle s, value = .schema handle s := by
  cases tree with
  | node handle s here shaped below => exact ⟨handle, s, rfl⟩

theorem tree_here (condition : Schema → Prop) (handle : Handle) (s : Schema)
    (tree : (Value.schema handle s).IsTree condition) : condition s ∧ s.Shaped := by
  cases tree with
  | node _ _ here shaped below => exact ⟨here, shaped⟩

theorem property_child (item : Value) (shaped : item.IsProperty) :
    propertyChild item = .ok (.property item.spelling, item.target) := by
  cases item with
  | property handle p =>
      obtain ⟨text, named⟩ := Option.isSome_iff_exists.mp shaped
      have name : Value.attribute "name" (.property handle p) = .ok p.name := rfl
      have schema : Value.attribute "schema" (.property handle p) = .ok p.schema := rfl
      have spelled : p.name.textFor "replace" = .ok text := by rw [Value.textFor, named]
      rw [propertyChild, name, schema]
      simp only [bind, Except.bind, spelled]
      rw [Value.spelling, named]
      rfl
  | _ => exact absurd shaped id

theorem property_target (item : Value) (shaped : item.IsProperty) : item.attribute "schema" = .ok item.target := by
  cases item with
  | property handle p => rfl
  | _ => exact absurd shaped id

-- The kinds' own values are texts, which can all be printed.
theorem branches_printed (mode : Mode) (values : List Value) :
    printedBranches ownWords mode values = .ok (branches mode 0 values) := by
  cases values <;> rfl

theorem branch_segment (mode : Mode) (index : Nat) :
    (Step.branch mode index).segment = mode.kind.text ++ "/" ++ toString index := rfl

theorem children_of_shaped (s : Schema) (shaped : s.Shaped) : s.children = .ok s.offspring := by
  cases s with
  | object labels properties low high =>
      obtain ⟨handle, items, rfl, named⟩ := shaped
      exact map_m_ok propertyChild _ items fun item member => property_child item (named item member)
  | array labels items low high =>
      cases items with
      | scalar content => cases content <;> rfl
      | _ => rfl
  | combined mode combinator =>
      obtain ⟨handle, labels, inner, alternatives, rfl⟩ := shaped
      exact branches_printed mode alternatives
  | _ => rfl

theorem array_offspring (labels : Labels) (items low high : Value) :
    (Schema.array labels items low high).offspring = [] ∨
      (Schema.array labels items low high).offspring = [(.items, items)] := by
  cases items with
  | scalar content =>
      cases content with
      | null => exact .inl rfl
      | _ => exact .inr rfl
  | _ => exact .inr rfl

theorem branch_at (mode : Mode) (start : Nat) (values : List Value) (index : Nat) :
    (branches mode start values)[index]? =
      values[index]?.map fun value => (.branch mode (start + index), value) := by
  induction values generalizing start index with
  | nil => rfl
  | cons value rest hypothesis =>
      cases index with
      | zero => rfl
      | succ index =>
          rw [branches, List.getElem?_cons_succ, List.getElem?_cons_succ, hypothesis (start + 1) index]
          congr! 4
          omega

-- Where a key is there once, its item is the one that is found.
theorem find_distinct {γ : Type} (key : γ → String) (items : List γ) (distinct : (items.map key).Nodup)
    (item : γ) (member : item ∈ items) : items.find? (fun other => key other == key item) = some item := by
  induction items with
  | nil => exact absurd member List.not_mem_nil
  | cons first rest hypothesis =>
      rw [List.map_cons, List.nodup_cons] at distinct
      rcases List.mem_cons.mp member with rfl | later
      · exact List.find?_cons_of_pos (beq_self_eq_true _)
      · have other : key first ≠ key item := by
          intro same
          exact distinct.1 (same ▸ List.mem_map_of_mem later)
        rw [List.find?_cons_of_neg (by simpa using other)]
        exact hypothesis distinct.2 later

-- The first property under a text is found by that text.
theorem property_found (labels : Labels) (handle : Handle) (items : List Value) (low high : Value)
    (named : ∀ item ∈ items, item.IsProperty) (name : String) :
    (Schema.object labels (.tuple handle items) low high).property? (.text name) =
      .ok (items.find? fun item => item.spelling == name) := by
  apply find_m_ok
  intro item member
  have shaped := named item member
  cases item with
  | property itemHandle p =>
      obtain ⟨text, spelled⟩ := Option.isSome_iff_exists.mp shaped
      have read : Value.attribute "name" (.property itemHandle p) = .ok p.name := rfl
      rw [read]
      simp only [bind, Except.bind]
      rw [Value.text, compared_with_word p.name (.text name) name rfl, Value.spelling, spelled]
      rfl
  | _ => exact absurd shaped id

def nullLeaf : Value := .schema none (.null (.of .null .null []))

-- An object with a slash in one name and no character in the other, over a choice and an array.
def forkedNode : Schema :=
  .object (.of .null .null [])
    (.tuple none
      [.property none ⟨true, .text "a/b",
         .schema none (.combined .oneOf (.combinator none ⟨.of .null .null [], .tuple none [nullLeaf, nullLeaf]⟩))⟩,
       .property none ⟨false, .text "", .schema none (.array (.of .null .null []) nullLeaf .null .null)⟩])
    .null .null

theorem forked_node_tree : (Value.schema none forkedNode).IsTree Schema.DistinctNames := by
  have leaf : nullLeaf.IsTree Schema.DistinctNames := .node none _ trivial trivial (List.forall_mem_nil _)
  have names : Schema.DistinctNames forkedNode := by
    change ["a/b", ""].Nodup
    decide
  have named : forkedNode.Shaped :=
    ⟨none, _, rfl, List.forall_mem_cons.mpr ⟨rfl, List.forall_mem_singleton.mpr rfl⟩⟩
  refine .node none forkedNode names named (List.forall_mem_cons.mpr ⟨?_, List.forall_mem_singleton.mpr ?_⟩)
  · exact .node none _ trivial ⟨none, _, none, _, rfl⟩
      (List.forall_mem_cons.mpr ⟨leaf, List.forall_mem_singleton.mpr leaf⟩)
  · exact .node none _ trivial trivial (List.forall_mem_singleton.mpr leaf)

end Schemata
