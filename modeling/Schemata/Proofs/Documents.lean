import Mathlib.Data.List.Nodup
import Schemata.Proofs.Congruence
import Schemata.Proofs.Rearrangement

set_option autoImplicit false

/-!
Equal documents. Two documents can be equal although their definitions stand in different orders. What one of them
defines under a name is then equal to what the other one defines, and where both were built in the sorted order they
also list the same names and have the same outline.
-/

namespace Schemata

-- A document as it is declared: nodes under different texts, and a root.
structure Model.IsTyped (m : Model) : Prop where
  root : m.root.IsTree Schema.Worded
  definitions : ∀ definition ∈ m.definitions, definition.1.text?.isSome ∧ definition.2.IsTree Schema.Worded
  once : (m.definitions.map keyWord).Nodup

-- Definitions under different texts, whatever they are.
structure Model.Keyed (m : Model) : Prop where
  words : ∀ definition ∈ m.definitions, definition.1.text?.isSome
  once : (m.definitions.map keyWord).Nodup

theorem typed_keyed (m : Model) (typed : m.IsTyped) : m.Keyed :=
  ⟨fun definition member => (typed.definitions definition member).1, typed.once⟩

-- An entry is compared with the only one that has the same key.
theorem entries_equal_iff (entries others : List (Form × Form))
    (single : ∀ entry ∈ entries, ∀ other ∈ others, ∀ another ∈ others, entry.1.fits other.1 = true →
      entry.1.fits another.1 = true → other = another) :
    Form.obstacleOfEntries Form.fits (fun _ _ => none) entries others = none ∧
        (∀ entry ∈ entries, ∃ other ∈ others, SameEntry entry other) ↔
      ∀ entry ∈ entries, ∃ other ∈ others, entry.1.fits other.1 = true ∧ entry.2.Meets other.2 := by
  induction entries with
  | nil => exact ⟨fun _ => List.forall_mem_nil _, fun _ => ⟨by rw [Form.obstacleOfEntries], List.forall_mem_nil _⟩⟩
  | cons entry rest hypothesis =>
      obtain ⟨key, form⟩ := entry
      obtain ⟨singleHere, singleLater⟩ := List.forall_mem_cons.mp single
      rw [List.forall_mem_cons, List.forall_mem_cons, ← hypothesis singleLater, Form.obstacleOfEntries]
      split
      · rename_i k b found
        have keysToo := List.find?_some found
        have memberToo := List.mem_of_find?_eq_some found
        constructor
        · rintro ⟨clear, ⟨other, member, keys, forms⟩, later⟩
          obtain rfl := singleHere other member (k, b) memberToo keys keysToo
          rw [if_pos forms, Option.or_eq_none_iff] at clear
          exact ⟨⟨_, member, keys, (meets_iff _ _).mp ⟨clear.1, forms⟩⟩, clear.2, later⟩
        · rintro ⟨⟨other, member, keys, meets⟩, clearLater, later⟩
          obtain rfl := singleHere other member (k, b) memberToo keys keysToo
          obtain ⟨clear, forms⟩ := (meets_iff _ _).mpr meets
          rw [if_pos forms, Option.or_eq_none_iff]
          exact ⟨⟨clear, clearLater⟩, ⟨_, member, keys, forms⟩, later⟩
      · rename_i missing
        have absent (other : Form × Form) (member : other ∈ others) : key.fits other.1 ≠ true :=
          List.find?_eq_none.mp missing other member
        constructor
        · rintro ⟨_, ⟨other, member, keys, _⟩, _⟩
          exact absurd keys (absent other member)
        · rintro ⟨⟨other, member, keys, _⟩, _⟩
          exact absurd keys (absent other member)

theorem key_word_text (definition : Value × Value) (word : definition.1.text?.isSome) :
    definition.1.text? = some (keyWord definition) := by
  obtain ⟨text, spelled⟩ := Option.isSome_iff_exists.mp word
  rw [keyWord, spelled]
  rfl

theorem words_fit (a b : Value) (word : a.text?.isSome) (other : b.text?.isSome) :
    a.fits b = true ↔ a.text? = b.text? := by
  have own := (words_same a a word word).mpr rfl
  exact ⟨fun fit => (words_same a b word other).mp (fits_same a.form b.form own fit),
    fun same => same_fits a.form b.form ((words_same a b word other).mpr same)⟩

theorem keys_fit (definition other : Value × Value) (word : definition.1.text?.isSome)
    (wordToo : other.1.text?.isSome) : definition.1.fits other.1 = true ↔ keyWord definition = keyWord other := by
  rw [words_fit _ _ word wordToo, key_word_text _ word, key_word_text _ wordToo]
  exact Option.some_inj

-- Of equal documents each definition of the first meets the one under the same name in the second.
structure DefinitionsMatch (m n : Model) : Prop where
  length : m.definitions.length = n.definitions.length
  each : ∀ definition ∈ m.definitions, ∃ other ∈ n.definitions, keyWord definition = keyWord other ∧
    definition.2.equalsPart other.2 = .ok true
  roots : m.root.equalsPart n.root = .ok true

-- The forms of a definition.
def definitionForms (definition : Value × Value) : Form × Form := (definition.1.form, definition.2.form)

theorem definitions_single (m n : Model) (keyed : m.Keyed) (keyedToo : n.Keyed) :
    ∀ entry ∈ m.definitions.map definitionForms, ∀ other ∈ n.definitions.map definitionForms,
      ∀ another ∈ n.definitions.map definitionForms, entry.1.fits other.1 = true → entry.1.fits another.1 = true →
      other = another := by
  intro _ member _ otherMember _ anotherMember first second
  obtain ⟨definition, here, rfl⟩ := List.mem_map.mp member
  obtain ⟨other, there, rfl⟩ := List.mem_map.mp otherMember
  obtain ⟨another, thereToo, rfl⟩ := List.mem_map.mp anotherMember
  have word := keyed.words definition here
  have keys := (keys_fit definition other word (keyedToo.words other there)).mp first
  have keysToo := (keys_fit definition another word (keyedToo.words another thereToo)).mp second
  rw [List.inj_on_of_nodup_map keyedToo.once there thereToo (keys.symm.trans keysToo)]

theorem tables_equal_iff (m n : Model) (keyed : m.Keyed) (keyedToo : n.Keyed) :
    (Value.frozen none m.definitions).equals (.frozen none n.definitions) = .ok true ↔
      m.definitions.length = n.definitions.length ∧ ∀ definition ∈ m.definitions, ∃ other ∈ n.definitions,
        keyWord definition = keyWord other ∧ definition.2.equalsPart other.2 = .ok true := by
  have parts : (∀ entry ∈ m.definitions.map definitionForms, ∃ other ∈ n.definitions.map definitionForms,
        entry.1.fits other.1 = true ∧ entry.2.Meets other.2) ↔
      ∀ definition ∈ m.definitions, ∃ other ∈ n.definitions,
        keyWord definition = keyWord other ∧ definition.2.equalsPart other.2 = .ok true := by
    rw [List.forall_mem_map]
    refine forall₂_congr fun definition member => ?_
    simp only [List.mem_map, exists_exists_and_eq_and]
    refine exists_congr fun other => and_congr_right fun otherMember => and_congr ?_ (equals_part_iff _ _).symm
    exact keys_fit definition other (keyed.words definition member) (keyedToo.words other otherMember)
  rw [← parts, ← entries_equal_iff _ _ (definitions_single m n keyed keyedToo), equals_iff, Value.form, Value.form,
    Value.entry_forms_eq_map, Value.entry_forms_eq_map, Form.Equal, Form.same, Form.sameBy, Bool.and_eq_true,
    beq_iff_eq, entries_agree, List.length_map, List.length_map]
  refine Iff.trans (and_left_comm) (and_congr_right fun length => and_congr_left fun _ => ?_)
  have even : ¬(m.definitions.map definitionForms).length ≠ (n.definitions.map definitionForms).length := by
    simpa using length
  have fixed : ¬(Access.fixed = .editable ∧ Access.fixed = .fixed) := by simp
  change Form.obstacleBy _ _ (.mapping .fixed (m.definitions.map definitionForms))
    (.mapping .fixed (n.definitions.map definitionForms)) = none ↔ _
  rw [Form.obstacleBy, if_neg even, if_neg fixed]

-- A table is equal to itself, so it meets only what it is equal to.
theorem tables_meet_iff (m n : Model) (keyed : m.Keyed) (keyedToo : n.Keyed) :
    (Value.frozen none m.definitions).equalsPart (.frozen none n.definitions) = .ok true ↔
      m.definitions.length = n.definitions.length ∧ ∀ definition ∈ m.definitions, ∃ other ∈ n.definitions,
        keyWord definition = keyWord other ∧ definition.2.equalsPart other.2 = .ok true := by
  have own : (Value.frozen none m.definitions).equals (.frozen none m.definitions) = .ok true :=
    (tables_equal_iff m m keyed keyed).mpr
      ⟨rfl, fun definition member => ⟨definition, member, rfl, equals_part_self definition.2⟩⟩
  rw [← tables_equal_iff m n keyed keyedToo]
  exact ⟨equal_of_part _ _ own, part_of_equal _ _⟩

theorem documents_equal_iff (handle other : Handle) (m n : Model) (keyed : m.Keyed) (keyedToo : n.Keyed) :
    (Value.model handle m).equals (.model other n) = .ok true ↔ DefinitionsMatch m n := by
  rw [records_equal_iff _ _ _ _ _ _ rfl rfl, List.forall₂_cons, List.forall₂_cons]
  dsimp only
  rw [tables_meet_iff m n keyed keyedToo]
  constructor
  · rintro ⟨_, ⟨length, each⟩, roots, _⟩
    exact ⟨length, each, roots⟩
  · rintro ⟨length, each, roots⟩
    exact ⟨rfl, ⟨length, each⟩, roots, .nil⟩

theorem names_moved (m n : Model) (typed : m.IsTyped) (alike : DefinitionsMatch m n) :
    (m.definitions.map keyWord).Perm (n.definitions.map keyWord) := by
  have among : m.definitions.map keyWord ⊆ n.definitions.map keyWord := by
    intro name member
    obtain ⟨definition, here, rfl⟩ := List.mem_map.mp member
    obtain ⟨other, otherMember, keys, _⟩ := alike.each definition here
    exact keys ▸ List.mem_map_of_mem otherMember
  refine (List.subperm_of_subset typed.once among).perm_of_length_le (Nat.le_of_eq ?_)
  rw [List.length_map, List.length_map, alike.length]

theorem lookup_word (definitions : List (Value × Value)) (named : ∀ definition ∈ definitions, definition.1.text?.isSome)
    (name : Value) (text : String) (spelled : name.text? = some text) :
    definitions.lookup name = (definitions.find? fun definition => keyWord definition == text).map Prod.snd := by
  induction definitions with
  | nil => rfl
  | cons definition rest hypothesis =>
      obtain ⟨word, later⟩ := List.forall_mem_cons.mp named
      have key : (name == definition.1) = (keyWord definition == text) := by
        refine Bool.eq_iff_iff.mpr ((words_fit name definition.1 ?_ word).trans ?_)
        · exact Option.isSome_iff_exists.mpr ⟨text, spelled⟩
        · rw [spelled, key_word_text definition word, Option.some_inj, beq_iff_eq]
          exact eq_comm
      rw [List.lookup_cons, List.find?_cons, key, hypothesis later]
      cases keyWord definition == text <;> rfl

theorem definition_found (m : Model) (keyed : m.Keyed) (name : Value) (text : String)
    (spelled : name.text? = some text) : m.definition? name =
      .ok ((m.definitions.find? fun definition => keyWord definition == text).map Prod.snd) := by
  have hashable : name.checkHashable = .ok () := by
    cases name with
    | scalar s => rfl
    | _ => cases spelled
  rw [Model.definition?, hashable, lookup_word m.definitions keyed.words name text spelled]
  rfl

-- Under one name both documents have equal definitions, or none.
theorem found_alike (m n : Model) (typed : m.IsTyped) (typedToo : n.IsTyped) (alike : DefinitionsMatch m n)
    (text : String) :
    Option.Rel (fun definition other => definition.2.equals other.2 = .ok true)
      (m.definitions.find? fun definition => keyWord definition == text)
      (n.definitions.find? fun definition => keyWord definition == text) := by
  cases found : m.definitions.find? fun definition => keyWord definition == text with
  | some definition =>
      have named : keyWord definition = text := by simpa using List.find?_some found
      have here := List.mem_of_find?_eq_some found
      obtain ⟨other, member, keys, meets⟩ := alike.each definition here
      have foundToo := find_distinct keyWord n.definitions typedToo.once other member
      rw [← keys, named] at foundToo
      rw [foundToo]
      exact .some (node_equals _ _ (tree_is_schema _ _ (typed.definitions definition here).2) meets)
  | none =>
      have absent : text ∉ m.definitions.map keyWord := by
        intro member
        obtain ⟨definition, here, same⟩ := List.mem_map.mp member
        exact List.find?_eq_none.mp found definition here (beq_iff_eq.mpr same)
      have absentToo : (n.definitions.find? fun definition => keyWord definition == text) = none := by
        rw [List.find?_eq_none]
        intro definition member same
        have there := (names_moved m n typed alike).mem_iff.mpr (List.mem_map_of_mem member)
        exact absent (eq_of_beq same ▸ there)
      rw [absentToo]
      exact .none

theorem definitions_agree (m n : Model) (typed : m.IsTyped) (typedToo : n.IsTyped) (alike : DefinitionsMatch m n)
    (name : Value) (word : name.text?.isSome) :
    ∃ found along, m.definition? name = .ok found ∧ n.definition? name = .ok along ∧
      Option.Rel (fun definition other => definition.equals other = .ok true) found along := by
  obtain ⟨text, spelled⟩ := Option.isSome_iff_exists.mp word
  have related := found_alike m n typed typedToo alike text
  refine ⟨_, _, definition_found m (typed_keyed m typed) name text spelled,
    definition_found n (typed_keyed n typedToo) name text spelled, ?_⟩
  generalize m.definitions.find? (fun definition => keyWord definition == text) = found at related ⊢
  generalize n.definitions.find? (fun definition => keyWord definition == text) = along at related ⊢
  cases related with
  | some equal => exact .some equal
  | none => exact .none

theorem under_texts_keys (entries : List (String × Value)) :
    (underTexts entries).map keyWord = entries.map Prod.fst := by
  rw [underTexts, List.map_map]
  rfl

-- A document that the builder makes under the sorted order.
def Model.BuiltSorted (m : Model) : Prop :=
  ∃ args entries, Arguments.SortsDefinitions args entries ∧
    Builder.model.apply args = { value := .ok (.model none m) }

theorem built_names (m : Model) (built : m.BuiltSorted) :
    (m.definitions.map keyWord).Pairwise (· < ·) ∧
      m.definitionNames = (m.definitions.map keyWord).map fun name => .text name := by
  obtain ⟨args, entries, call, made⟩ := built
  obtain ⟨config, configured, sorted⟩ := asked_order _ .sorted call.config
  rw [document_of args entries call.known call.definitions config configured] at made
  obtain rfl : Model.build entries (args.get "root") config = m := by
    injection made with made
    injection made with made
    injection made
  rw [Model.build, under_texts_keys]
  refine ⟨order_ascending config sorted entries call.distinct, ?_⟩
  rw [Model.definitionNames, underTexts, List.map_map, List.map_map]
  rfl

theorem sorted_names_same (m n : Model) (typed : m.IsTyped) (alike : DefinitionsMatch m n) (built : m.BuiltSorted)
    (builtToo : n.BuiltSorted) : m.definitions.map keyWord = n.definitions.map keyWord :=
  ascending_once id _ _ (names_moved m n typed alike) (built_names m built).1 (built_names n builtToo).1

-- Where the names are listed alike, equal definitions stand at the same places.
theorem definitions_aligned (m n : Model) (typed : m.IsTyped) (typedToo : n.IsTyped) (alike : DefinitionsMatch m n)
    (names : m.definitions.map keyWord = n.definitions.map keyWord) (pair : (Value × Value) × Value × Value)
    (member : pair ∈ m.definitions.zip n.definitions) :
    keyWord pair.1 = keyWord pair.2 ∧ pair.1.2.equals pair.2.2 = .ok true := by
  rw [← List.forall₂_eq_eq_eq, List.forall₂_map_left_iff, List.forall₂_map_right_iff] at names
  have keys : keyWord pair.1 = keyWord pair.2 := List.forall₂_zip names member
  have here := (List.of_mem_zip member).1
  obtain ⟨other, otherMember, keysToo, meets⟩ := alike.each pair.1 here
  obtain rfl : other = pair.2 :=
    List.inj_on_of_nodup_map typedToo.once otherMember (List.of_mem_zip member).2 (keysToo.symm.trans keys)
  exact ⟨keys, node_equals _ _ (tree_is_schema _ _ (typed.definitions pair.1 here).2) meets⟩

theorem equal_blocks (definition other : Value × Value) (word : definition.1.text?.isSome)
    (wordToo : other.1.text?.isSome) (tree : definition.2.IsTree Schema.Worded) (treeToo : other.2.IsTree Schema.Worded)
    (keys : keyWord definition = keyWord other) (equal : definition.2.equals other.2 = .ok true) :
    definitionBlock other = definitionBlock definition := by
  rw [definitionBlock, definitionBlock, (definition_label_ok _ _ (key_word_text definition word)).1,
    (definition_label_ok _ _ (key_word_text other wordToo)).1, keys]
  obtain ⟨rows, shown, shownToo⟩ := equal_trees_outlined _ _ tree treeToo equal
    ⟨0, "definitions/" ++ Text.lineText (keyWord other)⟩
  exact shownToo.trans shown.symm

theorem documents_outlined (handle other : Handle) (m n : Model) (typed : m.IsTyped) (typedToo : n.IsTyped)
    (alike : DefinitionsMatch m n) (names : m.definitions.map keyWord = n.definitions.map keyWord) :
    ∃ text, (Value.model handle m).outline = .ok text ∧ (Value.model other n).outline = .ok text := by
  have roots := node_equals _ _ (tree_is_schema _ _ typed.root) alike.roots
  obtain ⟨root, shown, shownToo⟩ := equal_trees_outlined _ _ typed.root typedToo.root roots ⟨0, rootLabel⟩
  obtain ⟨blocks, listed, _⟩ := definition_blocks_show m.definitions typed.definitions
  have listedToo : n.definitions.mapM definitionBlock = .ok blocks := by
    rw [map_m_alike definitionBlock m.definitions n.definitions alike.length, listed]
    intro pair member
    obtain ⟨keys, equal⟩ := definitions_aligned m n typed typedToo alike names pair member
    obtain ⟨word, tree⟩ := typed.definitions pair.1 (List.of_mem_zip member).1
    obtain ⟨wordToo, treeToo⟩ := typedToo.definitions pair.2 (List.of_mem_zip member).2
    exact equal_blocks pair.1 pair.2 word wordToo tree treeToo keys equal
  refine ⟨renderRows (root ++ blocks.flatten).toArray, ?_, ?_⟩
  · rw [Value.outline, Value.rows, model_rows_blocks, shown, listed]
    rfl
  · rw [Value.outline, Value.rows, model_rows_blocks, shownToo, listedToo]
    rfl

theorem equality_is_congruence :
    (∀ (handle other : Handle) (s t : Schema), (Value.schema handle s).IsTree Schema.Worded →
      (Value.schema other t).IsTree Schema.Worded → (Value.schema handle s).equals (.schema other t) = .ok true →
      NodesAlike handle other s t) ∧
    ∀ (handle other : Handle) (m n : Model), m.IsTyped → n.IsTyped →
      ((Value.model handle m).equals (.model other n) = .ok true ↔ DefinitionsMatch m n) ∧
      ((Value.model handle m).equals (.model other n) = .ok true →
        (∀ name : Value, name.text?.isSome → ∃ found along, m.definition? name = .ok found ∧
          n.definition? name = .ok along ∧
          Option.Rel (fun definition other => definition.equals other = .ok true) found along) ∧
        (m.BuiltSorted → n.BuiltSorted → m.definitionNames = n.definitionNames ∧
          ∃ text, (Value.model handle m).outline = .ok text ∧ (Value.model other n).outline = .ok text)) := by
  refine ⟨equal_nodes_alike, fun handle other m n typed typedToo => ?_⟩
  have matched := documents_equal_iff handle other m n (typed_keyed m typed) (typed_keyed n typedToo)
  refine ⟨matched, fun equal => ?_⟩
  have alike := matched.mp equal
  refine ⟨definitions_agree m n typed typedToo alike, fun built builtToo => ?_⟩
  have names := sorted_names_same m n typed alike built builtToo
  refine ⟨?_, documents_outlined handle other m n typed typedToo alike names⟩
  rw [(built_names m built).2, (built_names n builtToo).2, names]

-- An array of nulls that has at least one item, which can be said in several ways.
def filledNode (least : Scalar) : Schema := .array (.of (.text "rows") .null []) nullLeaf (.scalar least) .null

def rowsEntries (least : Scalar) : List (String × Value) := [("a", nullLeaf), ("b", .schema none (filledNode least))]

def rowsDocument (entries : List (String × Value)) : Model := ⟨underTexts entries, nullLeaf⟩

theorem filled_node_worded (least : Scalar) : (Value.schema none (filledNode least)).IsTree Schema.Worded := by
  have worded : (filledNode least).Worded := ⟨⟨.text "rows", rfl, .inr rfl⟩, fun labels token same => by cases same⟩
  exact .node none _ worded trivial (List.forall_mem_singleton.mpr null_leaf_worded)

theorem filled_nodes_equal (least other : Scalar) (same : least.same other = true) :
    (Value.schema none (filledNode least)).equals (.schema none (filledNode other)) = .ok true := by
  have bounds : (Value.scalar least).equalsPart (.scalar other) = .ok true :=
    part_of_equal _ _ ((scalars_equal_iff _ _).mpr same)
  refine (records_equal_iff _ _ _ _ _ _ rfl rfl).mpr ⟨rfl, ?_⟩
  exact .cons (equals_part_self _) (.cons (equals_part_self _) (.cons (equals_part_self _)
    (.cons (equals_part_self _) (.cons bounds (.cons (equals_part_self _) .nil)))))

theorem rows_document_typed (least : Scalar) (entries : List (String × Value))
    (moved : entries.Perm (rowsEntries least)) : (rowsDocument entries).IsTyped := by
  have names : ((underTexts entries).map keyWord).Perm ["a", "b"] := by
    rw [under_texts_keys]
    exact moved.map Prod.fst
  refine ⟨null_leaf_worded, ?_, names.nodup_iff.mpr (by decide)⟩
  refine List.forall_mem_map.mpr fun entry member => ⟨rfl, ?_⟩
  rcases List.mem_pair.mp (moved.mem_iff.mp member) with rfl | rfl
  · exact null_leaf_worded
  · exact filled_node_worded least

theorem rows_documents_match (entries : List (String × Value)) (moved : entries.Perm (rowsEntries (.bool true))) :
    DefinitionsMatch (rowsDocument (rowsEntries (.int 1))) (rowsDocument entries) := by
  have definition (entry : String × Value) (member : entry ∈ rowsEntries (.bool true)) :
      (.text entry.1, entry.2) ∈ underTexts entries :=
    List.mem_map.mpr ⟨entry, moved.mem_iff.mpr member, rfl⟩
  refine ⟨?_, ?_, equals_part_self nullLeaf⟩
  · change (underTexts _).length = (underTexts entries).length
    rw [underTexts, underTexts, List.length_map, List.length_map, moved.length_eq]
    rfl
  · refine List.forall_mem_cons.mpr ⟨?_, List.forall_mem_singleton.mpr ?_⟩
    · exact ⟨_, definition _ List.mem_cons_self, rfl, equals_part_self nullLeaf⟩
    · exact ⟨_, definition _ (List.mem_cons_of_mem _ List.mem_cons_self), rfl,
        part_of_equal _ _ (filled_nodes_equal _ _ (by decide))⟩

theorem rows_built_sorted (least : Scalar) : (rowsDocument (rowsEntries least)).BuiltSorted := by
  have distinct : DistinctKeys (rowsEntries least) := by
    change ["a", "b"].Nodup
    decide
  have call : Arguments.SortsDefinitions [("definitions", .table none (underTexts (rowsEntries least))),
      ("root", nullLeaf)] (rowsEntries least) := ⟨rfl, rfl, distinct, .inl ⟨rfl, rfl⟩⟩
  have ascending : "a" ≤ "b" := by decide
  have ordered : Config.order {} (rowsEntries least) = rowsEntries least :=
    List.mergeSort_of_pairwise (List.pairwise_pair.mpr (decide_eq_true ascending))
  refine ⟨_, _, call, ?_⟩
  rw [document_of _ _ call.known call.definitions {} rfl, Model.build, ordered]
  rfl

-- The undefined number is not equal to itself, and two nodes that hold it are equal.
def undefinedNumber : Scalar := .float .notANumber 0

theorem rows_answer_alike :
    NodesAlike none none (filledNode (.int 1)) (filledNode (.bool true)) ∧
    (undefinedNumber.same undefinedNumber = false ∧
      (Value.schema none (filledNode undefinedNumber)).equals (.schema none (filledNode undefinedNumber)) = .ok true ∧
      NodesAlike none none (filledNode undefinedNumber) (filledNode undefinedNumber)) ∧
    (Value.model none (rowsDocument (rowsEntries (.int 1)))).equals
      (.model none (rowsDocument (rowsEntries (.bool true)).reverse)) = .ok true ∧
    (∃ found along, (rowsDocument (rowsEntries (.int 1))).definition? (.text "b") = .ok found ∧
      (rowsDocument (rowsEntries (.bool true)).reverse).definition? (.text "b") = .ok along ∧
      Option.Rel (fun definition other => definition.equals other = .ok true) found along) ∧
    (rowsDocument (rowsEntries (.int 1))).definitionNames = (rowsDocument (rowsEntries (.bool true))).definitionNames ∧
    ∃ text, (Value.model none (rowsDocument (rowsEntries (.int 1)))).outline = .ok text ∧
      (Value.model none (rowsDocument (rowsEntries (.bool true)))).outline = .ok text := by
  obtain ⟨nodes, documents⟩ := equality_is_congruence
  have typed := rows_document_typed (.int 1) _ (.refl _)
  have turn := List.reverse_perm (rowsEntries (.bool true))
  obtain ⟨turned, answers⟩ := documents none none _ _ typed (rows_document_typed (.bool true) _ turn)
  have equal := turned.mpr (rows_documents_match _ turn)
  obtain ⟨along, others⟩ := documents none none _ _ typed (rows_document_typed (.bool true) _ (.refl _))
  have equalToo := along.mpr (rows_documents_match _ (.refl _))
  have undefined : (Value.schema none (filledNode undefinedNumber)).equals (.schema none (filledNode undefinedNumber)) =
      .ok true := record_equals_self _ _ _ rfl
  exact ⟨nodes none none _ _ (filled_node_worded _) (filled_node_worded _)
      (filled_nodes_equal _ _ (by decide)),
    ⟨by decide, undefined, nodes none none _ _ (filled_node_worded _) (filled_node_worded _) undefined⟩, equal,
    (answers equal).1 (.text "b") rfl, (others equalToo).2 (rows_built_sorted _) (rows_built_sorted _)⟩

end Schemata
