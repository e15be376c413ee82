import Schemata.Proofs.Partition
import Schemata.Proofs.Rendering

set_option autoImplicit false

/-!
Assembly. A tree is put together from the bottom up, one call of a builder after the other, and a document of
trees. Where all arguments are of the declared sorts every call succeeds, and there are only nodes as they are
declared in what comes out.
-/

namespace Schemata

-- The calls that put a tree together. Arguments that are no nodes are given as they are.
inductive Recipe where
  | leaf (builder : Builder) (args : Arguments)
  | array (items : Recipe) (args : Arguments)
  | combination (mode : Mode) (access : Access) (alternatives : List Recipe) (args : Arguments)
  | object (access : Access) (properties : List (String × Recipe)) (required : Value) (args : Arguments)

def Mode.builder : Mode → Builder
  | .oneOf => .oneOf
  | .anyOf => .anyOf
  | .allOf => .allOf

mutual
def Recipe.make : Recipe → Except Fault Value
  | .leaf builder args => (builder.apply args).value
  | .array items args => do
    let child ← items.make
    (Builder.array.apply (("items", child) :: args)).value
  | .combination mode access alternatives args => do
    let children ← Recipe.makeAll alternatives
    let combinator ← (Builder.combinator.apply (("sub_schemas", access.sequence children) :: args)).value
    (mode.builder.apply [("combinator", combinator)]).value
  | .object access properties required args => do
    let entries ← Recipe.makeEntries properties
    (Builder.object.apply
      (("properties", access.mapping (underTexts entries)) :: ("required", required) :: args)).value
def Recipe.makeAll : List Recipe → Except Fault (List Value)
  | [] => .ok []
  | recipe :: rest => do
    let value ← recipe.make
    return value :: (← Recipe.makeAll rest)
def Recipe.makeEntries : List (String × Recipe) → Except Fault (List (String × Value))
  | [] => .ok []
  | (name, recipe) :: rest => do
    let value ← recipe.make
    return (name, value) :: (← Recipe.makeEntries rest)
end

-- A document that is put together of trees.
structure Draft where
  access : Access
  definitions : List (String × Recipe)
  root : Recipe
  config : Value

def Draft.make (draft : Draft) : Except Fault Value := do
  let entries ← Recipe.makeEntries draft.definitions
  let root ← draft.root.make
  (Builder.model.apply [("definitions", draft.access.mapping (underTexts entries)), ("root", root),
    ("config", draft.config)]).value

-- Arguments of the declared sorts, apart from nodes; what is left out has its default.
structure Arguments.Plain (args : Arguments) (builder : Builder) : Prop where
  known : args.unexpected? builder.parameters = none
  title : args.get "title" = .null ∨ (args.get "title").text?.isSome
  examples : ∃ items, (args.iterable "examples").elements? = some items ∧ ∀ item ∈ items, item.Nested
  enum : args.get "enum" = .null ∨ (args.get "enum").elements?.isSome
  token : (args.getD "ref" (.text "")).text?.isSome
  payload : (args.get "value").Nested

-- Required names are texts that something iterable gives.
def Value.GivesNames (required : Value) (names : List String) : Prop :=
  ∃ items, required.elements? = some items ∧ items.mapM Value.text? = some names

def Value.AsksForOneOf (settings : Value) (orders : KeyOrder → Prop) : Prop :=
  ∃ order, orders order ∧ settings.AsksFor order

-- The builders of nodes that need no other nodes.
def Builder.leaves : List Builder :=
  [.array, .integer, .number, .string, .boolean, .null, .reference, .fallback]

inductive Recipe.Typed (orders : KeyOrder → Prop) : Recipe → Prop where
  | leaf (builder : Builder) (args : Arguments) (childless : builder ∈ Builder.leaves) (plain : args.Plain builder)
      (itemless : args.get "items" = .null) : Typed orders (.leaf builder args)
  | array (items : Recipe) (args : Arguments) (plain : args.Plain .array) (below : Typed orders items) :
      Typed orders (.array items args)
  | combination (mode : Mode) (access : Access) (alternatives : List Recipe) (args : Arguments)
      (plain : args.Plain .combinator) (below : ∀ recipe ∈ alternatives, Typed orders recipe) :
      Typed orders (.combination mode access alternatives args)
  | object (access : Access) (properties : List (String × Recipe)) (required : Value) (args : Arguments)
      (plain : args.Plain .object) (names : ∃ names, required.GivesNames names)
      (distinct : (properties.map Prod.fst).Nodup) (config : (args.get "config").AsksForOneOf orders)
      (below : ∀ entry ∈ properties, Typed orders entry.2) : Typed orders (.object access properties required args)

structure Draft.Typed (draft : Draft) (orders : KeyOrder → Prop) : Prop where
  distinct : (draft.definitions.map Prod.fst).Nodup
  config : draft.config.AsksForOneOf orders
  definitions : ∀ entry ∈ draft.definitions, entry.2.Typed orders
  root : draft.root.Typed orders

theorem make_all_each (recipes : List Recipe) : Recipe.makeAll recipes = recipes.mapM Recipe.make := by
  induction recipes with
  | nil => rfl
  | cons recipe rest hypothesis =>
      rw [Recipe.makeAll, List.mapM_cons, hypothesis]

theorem make_entries_each (entries : List (String × Recipe)) :
    Recipe.makeEntries entries = entries.mapM fun entry => do return (entry.1, ← entry.2.make) := by
  induction entries with
  | nil => rfl
  | cons entry rest hypothesis =>
      rw [Recipe.makeEntries, List.mapM_cons, hypothesis]
      cases entry.2.make <;> rfl

-- What a mapping of recipes is made into, entry by entry.
theorem entries_made (condition : Value → Prop) (entries : List (String × Recipe))
    (each : ∀ entry ∈ entries, ∃ value, entry.2.make = .ok value ∧ condition value) :
    ∃ results, Recipe.makeEntries entries = .ok results ∧ results.map Prod.fst = entries.map Prod.fst ∧
      ∀ result ∈ results, condition result.2 := by
  induction entries with
  | nil => exact ⟨[], rfl, rfl, List.forall_mem_nil _⟩
  | cons entry rest hypothesis =>
      obtain ⟨value, made, here⟩ := each entry List.mem_cons_self
      obtain ⟨results, later, keys, there⟩ :=
        hypothesis fun other member => each other (List.mem_cons_of_mem entry member)
      refine ⟨(entry.1, value) :: results, ?_, ?_, List.forall_mem_cons.mpr ⟨here, there⟩⟩
      · rw [Recipe.makeEntries, made, later]
        rfl
      · rw [List.map_cons, List.map_cons, keys]

section Plain

variable {args : Arguments} {builder : Builder}

theorem plain_labels (plain : args.Plain builder) :
    ∃ labels, args.labels = .ok labels ∧ labels.title = args.get "title" := by
  obtain ⟨examples, listed, nested⟩ := plain.examples
  exact ⟨_, labels_ok args examples listed nested, rfl⟩

theorem plain_enum (plain : args.Plain builder) : ∃ enum, args.enum = .ok enum := by
  unfold Arguments.enum
  split
  · exact ⟨.null, rfl⟩
  · rename_i given
    exact tuple_ok _ (plain.enum.resolve_left given)

-- A node without children, under labels whose title is a text or absent.
theorem childless_tree (s : Schema) (plain : args.Plain builder) (titled : s.title = .ok (args.get "title"))
    (token : ∀ labels token, s = .ref labels token → token.text?.isSome) (shaped : s.Shaped) (none : s.offspring = []) :
    (Value.schema .none s).IsTree Schema.Worded := by
  refine .node .none s ⟨⟨_, titled, plain.title⟩, token⟩ shaped ?_
  rw [none]
  exact List.forall_mem_nil _

-- Integers, numbers, strings and truth values take an enumeration besides.
theorem enumerated_tree (plain : args.Plain builder)
    (direct : builder ∉ [Builder.object, Builder.model, Builder.stringFormat, Builder.reference])
    (make : Labels → Value → Schema)
    (assembled : builder.recordClass.assemble args =
      args.labels.bind fun labels => args.enum.bind fun enum => .ok (.schema none (make labels enum)))
    (titled : ∀ labels enum, (make labels enum).title = .ok labels.title)
    (token : ∀ labels enum inner token, make labels enum ≠ .ref inner token)
    (childless : ∀ labels enum, (make labels enum).Shaped ∧ (make labels enum).offspring = []) :
    ∃ value, (builder.apply args).value = .ok value ∧ value.IsTree Schema.Worded := by
  obtain ⟨labels, labelled, same⟩ := plain_labels plain
  obtain ⟨enum, taken⟩ := plain_enum plain
  obtain ⟨shaped, none⟩ := childless labels enum
  refine ⟨.schema .none (make labels enum), ?_, childless_tree _ plain (same ▸ titled labels enum)
    (fun inner given ref => absurd ref (token labels enum inner given)) shaped none⟩
  rw [apply_assembles builder args direct plain.known, assembled, labelled, taken]
  rfl

theorem leaf_tree (childless : builder ∈ Builder.leaves) (plain : args.Plain builder)
    (itemless : args.get "items" = .null) :
    ∃ value, (builder.apply args).value = .ok value ∧ value.IsTree Schema.Worded := by
  obtain ⟨labels, labelled, titled⟩ := plain_labels plain
  have title : Except.ok labels.title = (.ok (args.get "title") : Except Fault Value) := congrArg _ titled
  cases builder with
  | integer =>
      exact enumerated_tree plain (by decide) (.integer · · args.bounds) rfl (fun _ _ => rfl)
        (fun _ _ _ _ same => by cases same) fun _ _ => ⟨trivial, rfl⟩
  | number =>
      exact enumerated_tree plain (by decide) (.number · · args.bounds) rfl (fun _ _ => rfl)
        (fun _ _ _ _ same => by cases same) fun _ _ => ⟨trivial, rfl⟩
  | string =>
      exact enumerated_tree plain (by decide) (.string · · (args.get "min_length") (args.get "max_length")
        (args.get "pattern") (args.get "format")) rfl (fun _ _ => rfl) (fun _ _ _ _ same => by cases same)
        fun _ _ => ⟨trivial, rfl⟩
  | boolean =>
      exact enumerated_tree plain (by decide) .boolean rfl (fun _ _ => rfl) (fun _ _ _ _ same => by cases same)
        fun _ _ => ⟨trivial, rfl⟩
  | array =>
      refine ⟨.schema none (.array labels (args.get "items") (args.get "min_items") (args.get "max_items")), ?_,
        childless_tree _ plain title (fun _ _ same => by cases same) trivial ?_⟩
      · rw [apply_assembles .array args (by decide) plain.known, Builder.recordClass, RecordClass.assemble, labelled]
        rfl
      · rw [itemless]
        rfl
  | null =>
      refine ⟨.schema none (.null labels), ?_, childless_tree _ plain title (fun _ _ same => by cases same) trivial rfl⟩
      rw [apply_assembles .null args (by decide) plain.known, Builder.recordClass, RecordClass.assemble, labelled]
      rfl
  | reference =>
      refine ⟨.schema none (.ref labels (args.getD "ref" (.text ""))), ?_,
        childless_tree _ plain title (fun _ _ same => by cases same; exact plain.token) trivial rfl⟩
      have same : Arguments.labels (("ref", args.getD "ref" (.text "")) :: args) = .ok labels := labelled
      rw [Builder.apply, plain.known]
      change RecordClass.ref.assemble _ = _
      rw [RecordClass.assemble, same]
      rfl
  | fallback =>
      refine ⟨.schema none (.carrying (args.get "value")), ?_,
        .node none _ ⟨⟨.null, rfl, .inl rfl⟩, fun _ _ same => by cases same⟩ trivial (List.forall_mem_nil _)⟩
      rw [apply_assembles .fallback args (by decide) plain.known, Builder.recordClass, RecordClass.assemble,
        check_nested _ plain.payload]
      rfl
  | _ => exact absurd childless (by decide)

theorem array_tree (plain : args.Plain .array) (child : Value) (tree : child.IsTree Schema.Worded) :
    ∃ value, (Builder.array.apply (("items", child) :: args)).value = .ok value ∧ value.IsTree Schema.Worded := by
  obtain ⟨labels, labelled, titled⟩ := plain_labels plain
  have same : Arguments.labels (("items", child) :: args) = .ok labels := labelled
  have known : Arguments.unexpected? (("items", child) :: args) Builder.array.parameters = none := plain.known
  refine ⟨.schema none (.array labels child (args.get "min_items") (args.get "max_items")), ?_,
    .node none _ ⟨⟨_, congrArg _ titled, plain.title⟩, fun _ _ same => by cases same⟩ trivial ?_⟩
  · rw [apply_assembles .array _ (by decide) known]
    change RecordClass.array.assemble _ = _
    rw [RecordClass.assemble, same]
    rfl
  · obtain ⟨handle, s, rfl⟩ := tree_is_schema _ child tree
    exact List.forall_mem_singleton.mpr tree

theorem combination_tree (mode : Mode) (access : Access) (plain : args.Plain .combinator) (children : List Value)
    (trees : ∀ child ∈ children, child.IsTree Schema.Worded) :
    ∃ combinator value,
      (Builder.combinator.apply (("sub_schemas", access.sequence children) :: args)).value = .ok combinator ∧
        (mode.builder.apply [("combinator", combinator)]).value = .ok value ∧ value.IsTree Schema.Worded := by
  obtain ⟨labels, labelled, titled⟩ := plain_labels plain
  have same : Arguments.labels (("sub_schemas", access.sequence children) :: args) = .ok labels := labelled
  have known : Arguments.unexpected? (("sub_schemas", access.sequence children) :: args)
      Builder.combinator.parameters = none := plain.known
  have taken : Arguments.tuple (("sub_schemas", access.sequence children) :: args) "sub_schemas" =
      .ok (.tuple none children) := by cases access <;> rfl
  refine ⟨.combinator none ⟨labels, .tuple none children⟩,
    .schema none (.combined mode (.combinator none ⟨labels, .tuple none children⟩)), ?_, by cases mode <;> rfl, ?_⟩
  · rw [apply_assembles .combinator _ (by decide) known]
    change RecordClass.combinator.assemble _ = _
    rw [RecordClass.assemble, same]
    simp only [bind, Except.bind]
    rw [taken]
    rfl
  · refine .node none _ ⟨⟨labels.title, rfl, titled ▸ plain.title⟩, fun _ _ same => by cases same⟩
      ⟨none, labels, none, children, rfl⟩ ?_
    have values : ∀ child ∈ (branches mode 0 children).map Prod.snd, child.IsTree Schema.Worded := by
      rw [branches_values]
      exact trees
    exact List.forall_mem_map.mp values

theorem object_tree (plain : args.Plain builder) (labels : Labels) (titled : labels.title = args.get "title")
    (entries : List (String × Value)) (required : List String) (low high : Value) (config : Config)
    (trees : ∀ entry ∈ entries, entry.2.IsTree Schema.Worded) :
    (Value.schema none (.ofEntries labels entries required low high config)).IsTree Schema.Worded := by
  rw [Schema.ofEntries, split_map]
  refine .node none _ ⟨⟨_, congrArg _ titled, plain.title⟩, fun _ _ same => by cases same⟩
    ⟨none, _, rfl, List.forall_mem_map.mpr fun _ _ => rfl⟩ ?_
  refine List.forall_mem_map.mpr (List.forall_mem_map.mpr fun entry member => ?_)
  exact trees entry ((order_perm config entries).mem_iff.mp member)

-- The builder of objects, whatever its properties and required names.
theorem plain_object (plain : args.Plain .object) (order : KeyOrder) (asked : (args.get "config").AsksFor order) :
    ∃ labels config, labels.title = args.get "title" ∧ config.keyOrder = order ∧
      ∀ (access : Access) (entries : List (String × Value)) (required : Value) (names : List String),
        required.GivesNames names →
          Builder.object.apply (("properties", access.mapping (underTexts entries)) :: ("required", required) :: args) =
            { value := .ok (.schema none (.ofEntries labels entries names (args.get "min_properties")
                (args.get "max_properties") config)),
              events := undefinedWarning config labels.title names entries } := by
  obtain ⟨labels, labelled, titled⟩ := plain_labels plain
  obtain ⟨config, configured, ordered⟩ := asked_order _ order asked
  refine ⟨labels, config, titled, ordered, fun access entries required names given => ?_⟩
  obtain ⟨items, listed, texts⟩ := given
  apply object_built
  · exact plain.known
  · cases access <;> exact text_keyed_under_texts entries
  · change required.elements?.bind _ = _
    rw [listed]
    exact texts
  · exact configured
  · exact labelled

end Plain

theorem typed_made (orders : KeyOrder → Prop) (recipe : Recipe) (typed : recipe.Typed orders) :
    ∃ value, recipe.make = .ok value ∧ value.IsTree Schema.Worded := by
  induction typed with
  | leaf builder args childless plain itemless => exact leaf_tree childless plain itemless
  | array items args plain _ hypothesis =>
      obtain ⟨child, made, tree⟩ := hypothesis
      rw [Recipe.make, made]
      exact array_tree plain child tree
  | combination mode access alternatives args plain _ hypothesis =>
      obtain ⟨children, made⟩ := map_m_exists Recipe.make alternatives fun recipe member =>
        (hypothesis recipe member).imp fun _ => And.left
      have trees : ∀ child ∈ children, child.IsTree Schema.Worded := by
        intro child member
        obtain ⟨recipe, source, same⟩ := source_of_result _ _ _ (map_m_parts _ _ _ made) child member
        obtain ⟨value, other, tree⟩ := hypothesis recipe source
        exact Except.ok.inj (same.symm.trans other) ▸ tree
      obtain ⟨combinator, value, combined, wrapped, tree⟩ := combination_tree mode access plain children trees
      refine ⟨value, ?_, tree⟩
      rw [Recipe.make, make_all_each, made]
      simp only [bind, Except.bind]
      rw [combined]
      exact wrapped
  | object access properties required args plain names _ config _ hypothesis =>
      obtain ⟨entries, made, _, trees⟩ := entries_made _ properties hypothesis
      obtain ⟨names, given⟩ := names
      obtain ⟨order, _, asked⟩ := config
      obtain ⟨labels, config, titled, _, built⟩ := plain_object plain order asked
      refine ⟨.schema none (.ofEntries labels entries names (args.get "min_properties") (args.get "max_properties")
        config), ?_, object_tree plain labels titled entries names _ _ config trees⟩
      rw [Recipe.make, made]
      exact congrArg Reported.value (built access entries required names given)

-- What a document is made of where everything it is made from is.
theorem document_built (draft : Draft) (order : KeyOrder) (asked : draft.config.AsksFor order)
    (entries : List (String × Value)) (made : Recipe.makeEntries draft.definitions = .ok entries) (root : Value)
    (rooted : draft.root.make = .ok root) :
    ∃ config, config.keyOrder = order ∧ Config.ofValue? draft.config = some config ∧
      draft.make = .ok (.model none (.build entries root config)) := by
  obtain ⟨config, configured, ordered⟩ := asked_order _ order asked
  refine ⟨config, ordered, configured, ?_⟩
  have definitions : Arguments.textMapping? [("definitions", draft.access.mapping (underTexts entries)), ("root", root),
      ("config", draft.config)] "definitions" = some entries := by
    cases draft.access <;> exact text_keyed_under_texts entries
  have given : Arguments.config? [("definitions", draft.access.mapping (underTexts entries)), ("root", root),
      ("config", draft.config)] = some config := configured
  rw [Draft.make, made, rooted]
  change Arguments.modelDocument _ = _
  rw [Arguments.modelDocument, definitions, given]
  rfl

theorem draft_made (orders : KeyOrder → Prop) (draft : Draft) (typed : draft.Typed orders) :
    ∃ m, draft.make = .ok (.model none m) ∧ m.root.IsTree Schema.Worded ∧
      ∀ definition ∈ m.definitions, definition.1.text?.isSome ∧ definition.2.IsTree Schema.Worded := by
  obtain ⟨entries, made, _, trees⟩ := entries_made _ draft.definitions fun entry member =>
    typed_made orders entry.2 (typed.definitions entry member)
  obtain ⟨root, rooted, tree⟩ := typed_made orders draft.root typed.root
  obtain ⟨order, _, asked⟩ := typed.config
  obtain ⟨config, _, _, built⟩ := document_built draft order asked entries made root rooted
  refine ⟨_, built, tree, List.forall_mem_map.mpr fun entry member => ⟨rfl, ?_⟩⟩
  exact trees entry ((order_perm config entries).mem_iff.mp member)

theorem no_arguments_plain (builder : Builder) : Arguments.Plain [] builder := by
  have payload : Value.null.IsLeaf := by simp [Value.IsLeaf, Value.shape?, Value.null]
  exact ⟨rfl, .inl rfl, ⟨[], rfl, List.forall_mem_nil _⟩, .inl rfl, rfl, .leaf _ payload⟩

def nullRecipe : Recipe := .leaf .null []

theorem null_recipe_typed (orders : KeyOrder → Prop) : nullRecipe.Typed orders :=
  .leaf .null [] (by decide) (no_arguments_plain .null) rfl

-- Two properties against the order of texts; one name is required twice, another one is no property.
def pairRecipe : Recipe :=
  .object .editable [("b", .array nullRecipe []), ("a", .combination .anyOf .fixed [nullRecipe] [])]
    (.list none [.text "b", .text "z", .text "b"]) []

theorem pair_recipe_typed : pairRecipe.Typed (· = .sorted) := by
  have distinct : ["b", "a"].Nodup := by decide
  have leaf := null_recipe_typed (· = .sorted)
  refine .object _ _ _ _ (no_arguments_plain .object) ⟨_, _, rfl, rfl⟩ distinct ⟨.sorted, rfl, .inl ⟨rfl, rfl⟩⟩
    (List.forall_mem_cons.mpr ⟨?_, List.forall_mem_singleton.mpr ?_⟩)
  · exact .array _ _ (no_arguments_plain .array) leaf
  · exact .combination _ _ _ _ (no_arguments_plain .combinator) (List.forall_mem_singleton.mpr leaf)

end Schemata
