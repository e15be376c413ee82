import Schemata.Proofs.Assembly

set_option autoImplicit false

/-!
Rearrangements. Under the sorted order the builders do not see in which order the entries of a mapping were written,
nor in which order and how often names were required. A document that is assembled from rearranged parts, wherever
they are in it, is the same document.
-/

namespace Schemata

theorem erased_once (names : List String) : names.eraseDups.Nodup := by
  cases names with
  | nil => exact .nil
  | cons name rest =>
      rw [List.eraseDups_cons, List.nodup_cons]
      refine ⟨fun member => ?_, erased_once _⟩
      simp [List.mem_eraseDups] at member
termination_by names.length
decreasing_by
  have shorter := List.length_filter_le (fun other => !other == name) rest
  rw [List.length_cons]
  omega

-- Items with different texts have one ascending order.
theorem ascending_once {α : Type} (key : α → String) (items others : List α) (permuted : items.Perm others)
    (ascending : items.Pairwise fun a b => key a < key b) (ascendingToo : others.Pairwise fun a b => key a < key b) :
    items = others :=
  permuted.eq_of_pairwise (fun _ _ _ _ less more => absurd more (String.lt_asymm less)) ascending ascendingToo

-- The same entries in another order come in one order when they are sorted.
theorem sorted_canonical (config : Config) (sorted : config.keyOrder = .sorted) (entries others : List (String × Value))
    (distinct : DistinctKeys entries) (moved : entries.Perm others) : config.order entries = config.order others := by
  have distinctToo : DistinctKeys others := (moved.map Prod.fst).nodup_iff.mp distinct
  have ascending (given : List (String × Value)) (once : DistinctKeys given) :
      (config.order given).Pairwise fun a b => a.1 < b.1 :=
    List.pairwise_map.mp (order_ascending config sorted given once)
  have permuted : (config.order entries).Perm (config.order others) :=
    (order_perm config entries).trans (moved.trans (order_perm config others).symm)
  exact ascending_once Prod.fst _ _ permuted (ascending entries distinct) (ascending others distinctToo)

theorem split_canonical (required names : List String) (same : ∀ name, name ∈ required ↔ name ∈ names)
    (entries : List (String × Value)) : Property.split required entries = Property.split names entries := by
  refine List.map_congr_left fun entry _ => ?_
  rw [List.contains_eq_mem, List.contains_eq_mem, decide_eq_decide.mpr (same entry.1)]

theorem entries_canonical (labels : Labels) (entries others : List (String × Value)) (required names : List String)
    (low high : Value) (config : Config) (sorted : config.keyOrder = .sorted) (distinct : DistinctKeys entries)
    (moved : entries.Perm others) (same : ∀ name, name ∈ required ↔ name ∈ names) :
    Schema.ofEntries labels others names low high config =
      Schema.ofEntries labels entries required low high config := by
  rw [Schema.ofEntries, Schema.ofEntries, sorted_canonical config sorted entries others distinct moved,
    split_canonical required names same]

-- The names that are required and are no keys, each once and in ascending order.
structure MissingNames (required keys names : List String) : Prop where
  ascending : names.Pairwise (· < ·)
  exact : ∀ name, name ∈ names ↔ name ∈ required ∧ name ∉ keys

theorem undefined_missing (required : List String) (entries : List (String × Value)) :
    MissingNames required (entries.map Prod.fst) (undefinedNames required entries) := by
  constructor
  · refine merged_strict id _ ?_
    rw [List.map_id]
    exact erased_once _
  · intro name
    have absent : (entries.lookup name).isNone = true ↔ name ∉ entries.map Prod.fst := by
      rw [Option.isNone_iff_eq_none, List.lookup_eq_none_iff, List.mem_map]
      constructor
      · rintro others ⟨entry, member, rfl⟩
        simpa using others entry member
      · exact fun others entry member => bne_iff_ne.mpr fun same => others ⟨entry, member, same.symm⟩
    rw [undefinedNames, List.mem_mergeSort, List.mem_eraseDups, List.mem_filter, absent]

-- A set in ascending order is one list.
theorem missing_names_same (required keys names others : List String) (missing : MissingNames required keys names)
    (missingToo : MissingNames required keys others) : names = others := by
  have once (given : List String) (ascending : given.Pairwise (· < ·)) : given.Nodup :=
    ascending.imp fun less => String.ne_of_lt less
  have members (name : String) : name ∈ names ↔ name ∈ others := (missing.exact name).trans (missingToo.exact name).symm
  have permuted : names.Perm others :=
    (List.perm_ext_iff_of_nodup (once names missing.ascending) (once others missingToo.ascending)).mpr members
  exact ascending_once id _ _ permuted missing.ascending missingToo.ascending

theorem undefined_canonical (entries others : List (String × Value)) (moved : entries.Perm others)
    (required names : List String) (same : ∀ name, name ∈ required ↔ name ∈ names) :
    undefinedNames required entries = undefinedNames names others := by
  obtain ⟨ascending, exact⟩ := undefined_missing names others
  refine missing_names_same required (entries.map Prod.fst) _ _ (undefined_missing required entries) ⟨ascending, ?_⟩
  intro name
  rw [exact name, same name, (moved.map Prod.fst).mem_iff]

theorem warning_canonical (config : Config) (title : Value) (entries others : List (String × Value))
    (moved : entries.Perm others) (required names : List String) (same : ∀ name, name ∈ required ↔ name ∈ names) :
    undefinedWarning config title names others = undefinedWarning config title required entries := by
  rw [undefinedWarning, undefinedWarning, undefined_canonical entries others moved required names same]

-- Arguments without the fields that a builder puts in order.
def Arguments.AgreeBeside (args others : Arguments) (fields : List String) : Prop :=
  ∀ field ∉ fields, others.lookup field = args.lookup field

-- A call of the builder of objects under the sorted order.
structure Arguments.SortsProperties (args : Arguments) (entries : List (String × Value)) (required : List String) :
    Prop where
  known : args.unexpected? Builder.object.parameters = none
  properties : (args.mapping "properties").entries? = some (underTexts entries)
  distinct : DistinctKeys entries
  names : (args.iterable "required").GivesNames required
  examples : ∃ items, (args.iterable "examples").elements? = some items ∧ ∀ item ∈ items, item.Nested
  config : (args.get "config").AsksFor .sorted

structure Arguments.SortsDefinitions (args : Arguments) (entries : List (String × Value)) : Prop where
  known : args.unexpected? Builder.model.parameters = none
  definitions : (args.mapping "definitions").entries? = some (underTexts entries)
  distinct : DistinctKeys entries
  config : (args.get "config").AsksFor .sorted

theorem mapping_keyed (args : Arguments) (field : String) (entries : List (String × Value))
    (given : (args.mapping field).entries? = some (underTexts entries)) : args.textMapping? field = some entries := by
  rw [Arguments.textMapping?, given]
  exact text_keyed_under_texts entries

theorem names_required (args : Arguments) (required : List String)
    (given : (args.iterable "required").GivesNames required) : args.requiredNames? = some required := by
  obtain ⟨items, listed, texts⟩ := given
  rw [Arguments.requiredNames?, listed]
  exact texts

theorem agree_get (args others : Arguments) (fields : List String) (beside : args.AgreeBeside others fields)
    (field : String) (unmoved : field ∉ fields) : others.get field = args.get field := by
  rw [Arguments.get, Arguments.get, Arguments.getD, Arguments.getD, beside field unmoved]

theorem properties_rearranged (args others : Arguments) (entries moved : List (String × Value))
    (required names : List String) (call : args.SortsProperties entries required)
    (other : others.SortsProperties moved names) (permuted : entries.Perm moved)
    (same : ∀ name, name ∈ required ↔ name ∈ names) (beside : args.AgreeBeside others ["properties", "required"]) :
    ∃ node, (Builder.object.apply args).value = .ok node ∧ Builder.object.apply others = Builder.object.apply args := by
  obtain ⟨examples, listed, nested⟩ := call.examples
  obtain ⟨config, configured, sorted⟩ := asked_order _ .sorted call.config
  have get := agree_get args others _ beside
  have labelled := labels_ok args examples listed nested
  have labels : others.labels = args.labels := by
    rw [Arguments.labels, Arguments.labels, get "title" (by decide), get "description" (by decide), Arguments.elements,
      Arguments.elements, Arguments.iterable, Arguments.iterable, Arguments.getD, Arguments.getD,
      beside "examples" (by decide)]
  have configs : others.config? = args.config? := by
    rw [Arguments.config?, Arguments.config?, get "config" (by decide)]
  have first := object_built args entries required config _ call.known (mapping_keyed args _ _ call.properties)
    (names_required args required call.names) configured labelled
  have second := object_built others moved names config _ other.known (mapping_keyed others _ _ other.properties)
    (names_required others names other.names) (configs.trans configured) (labels.trans labelled)
  refine ⟨_, congrArg Reported.value first, ?_⟩
  rw [second, first, entries_canonical _ entries moved required names _ _ config sorted call.distinct permuted same,
    warning_canonical config _ entries moved permuted required names same, get "min_properties" (by decide),
    get "max_properties" (by decide)]

theorem document_of (args : Arguments) (entries : List (String × Value))
    (known : args.unexpected? Builder.model.parameters = none)
    (definitions : (args.mapping "definitions").entries? = some (underTexts entries)) (config : Config)
    (configured : args.config? = some config) :
    Builder.model.apply args = { value := .ok (.model none (.build entries (args.get "root") config)) } := by
  rw [Builder.apply, known]
  change ({ value := args.modelDocument } : Reported (Except Fault Value)) = _
  rw [Arguments.modelDocument, mapping_keyed args _ _ definitions, configured]

theorem definitions_rearranged (args others : Arguments) (entries moved : List (String × Value))
    (call : args.SortsDefinitions entries) (other : others.SortsDefinitions moved) (permuted : entries.Perm moved)
    (beside : args.AgreeBeside others ["definitions"]) :
    ∃ document, (Builder.model.apply args).value = .ok document ∧
      Builder.model.apply others = Builder.model.apply args := by
  obtain ⟨config, configured, sorted⟩ := asked_order _ .sorted call.config
  have get := agree_get args others _ beside
  have configs : others.config? = args.config? := by
    rw [Arguments.config?, Arguments.config?, get "config" (by decide)]
  have first := document_of args entries call.known call.definitions config configured
  have second := document_of others moved other.known other.definitions config (configs.trans configured)
  refine ⟨_, congrArg Reported.value first, ?_⟩
  rw [second, first, Model.build, Model.build, sorted_canonical config sorted entries moved call.distinct permuted,
    get "root" (by decide)]

-- Recipes for one tree: at any number of places, properties may be written in another order, and names may be
-- required in another order and more or less often.
inductive Recipe.Rearranged : Recipe → Recipe → Prop where
  | leaf (builder : Builder) (args : Arguments) : Rearranged (.leaf builder args) (.leaf builder args)
  | array (items others : Recipe) (args : Arguments) (below : Rearranged items others) :
      Rearranged (.array items args) (.array others args)
  | combination (mode : Mode) (access : Access) (alternatives others : List Recipe) (args : Arguments)
      (length : alternatives.length = others.length)
      (below : ∀ pair ∈ alternatives.zip others, Rearranged pair.1 pair.2) :
      Rearranged (.combination mode access alternatives args) (.combination mode access others args)
  | object (access otherAccess : Access) (properties moved others : List (String × Recipe))
      (required otherRequired : Value) (names otherNames : List String) (args : Arguments)
      (permuted : properties.Perm moved) (keys : moved.map Prod.fst = others.map Prod.fst)
      (below : ∀ pair ∈ moved.zip others, Rearranged pair.1.2 pair.2.2) (given : required.GivesNames names)
      (otherGiven : otherRequired.GivesNames otherNames) (same : ∀ name, name ∈ names ↔ name ∈ otherNames) :
      Rearranged (.object access properties required args) (.object otherAccess others otherRequired args)

structure Draft.Rearranged (draft other : Draft) : Prop where
  config : other.config = draft.config
  root : draft.root.Rearranged other.root
  definitions : ∃ moved, draft.definitions.Perm moved ∧ moved.map Prod.fst = other.definitions.map Prod.fst ∧
    ∀ pair ∈ moved.zip other.definitions, pair.1.2.Rearranged pair.2.2

-- Nothing that can be asked of two values tells them apart.
structure Value.Indistinct (value other : Value) : Prop where
  dump : other.form = value.form
  fingerprint : other.form.digest = value.form.digest
  walk : ∀ start, other.walk start = value.walk start
  outline : other.outline = value.outline

theorem entries_moved (entries moved others : List (String × Recipe)) (permuted : entries.Perm moved)
    (keys : moved.map Prod.fst = others.map Prod.fst) (alike : ∀ pair ∈ moved.zip others, pair.2.2.make = pair.1.2.make)
    (results : List (String × Value)) (made : Recipe.makeEntries entries = .ok results) :
    ∃ rearranged, Recipe.makeEntries others = .ok rearranged ∧ results.Perm rearranged := by
  rw [make_entries_each] at made
  obtain ⟨rearranged, results_moved, there⟩ := map_m_perm _ moved entries permuted.symm results made
  refine ⟨rearranged, ?_, results_moved.symm⟩
  have length : moved.length = others.length := by simpa using congrArg List.length keys
  rw [make_entries_each, map_m_alike _ moved others length, there]
  intro pair member
  obtain ⟨index, present⟩ := List.mem_iff_getElem?.mp member
  obtain ⟨first, second⟩ := List.getElem?_zip_eq_some.mp present
  have key : pair.1.1 = pair.2.1 := by
    have same := congrArg (·[index]?) keys
    simpa only [List.getElem?_map, first, second, Option.map_some, Option.some.injEq] using same
  rw [key, alike pair member]

theorem rearranged_made (recipe other : Recipe) (rearranged : recipe.Rearranged other)
    (typed : recipe.Typed (· = .sorted)) : other.make = recipe.make := by
  induction rearranged with
  | leaf builder args => rfl
  | array items others args _ hypothesis =>
      cases typed with
      | array _ _ plain below => rw [Recipe.make, Recipe.make, hypothesis below]
  | combination mode access alternatives others args length _ hypothesis =>
      cases typed with
      | combination _ _ _ _ plain below =>
          have children : Recipe.makeAll others = Recipe.makeAll alternatives := by
            rw [make_all_each, make_all_each]
            refine map_m_alike Recipe.make alternatives others length fun pair member => ?_
            exact hypothesis pair member (below pair.1 (List.of_mem_zip member).1)
          rw [Recipe.make, Recipe.make, children]
  | object access otherAccess properties moved others required otherRequired names otherNames args permuted keys _ given
      otherGiven same hypothesis =>
      cases typed with
      | object _ _ _ _ plain known distinct config below =>
          obtain ⟨entries, made, named, _⟩ := entries_made _ properties fun entry member =>
            typed_made _ entry.2 (below entry member)
          obtain ⟨results, otherMade, results_moved⟩ := entries_moved properties moved others permuted keys
            (fun pair member => hypothesis pair member
              (below pair.1 (permuted.mem_iff.mpr (List.of_mem_zip member).1))) entries made
          obtain ⟨order, rfl, asked⟩ := config
          obtain ⟨labels, config, _, sorted, built⟩ := plain_object plain .sorted asked
          have once : DistinctKeys entries := by
            rw [DistinctKeys, named]
            exact distinct
          have first := congrArg Reported.value (built access entries required names given)
          have second := congrArg Reported.value (built otherAccess results otherRequired otherNames otherGiven)
          rw [Recipe.make, Recipe.make, made, otherMade]
          refine second.trans (Eq.trans ?_ first.symm)
          rw [entries_canonical labels entries results names otherNames _ _ config sorted once results_moved same]

theorem drafts_made (draft other : Draft) (rearranged : draft.Rearranged other) (typed : draft.Typed (· = .sorted)) :
    other.make = draft.make := by
  obtain ⟨moved, permuted, keys, below⟩ := rearranged.definitions
  obtain ⟨order, rfl, asked⟩ := typed.config
  obtain ⟨entries, made, named, _⟩ := entries_made _ draft.definitions fun entry member =>
    typed_made _ entry.2 (typed.definitions entry member)
  obtain ⟨root, rooted, _⟩ := typed_made _ draft.root typed.root
  obtain ⟨results, otherMade, results_moved⟩ := entries_moved draft.definitions moved other.definitions permuted keys
    (fun pair member => rearranged_made _ _ (below pair member)
      (typed.definitions pair.1 (permuted.mem_iff.mpr (List.of_mem_zip member).1))) entries made
  have otherRoot := (rearranged_made _ _ rearranged.root typed.root).trans rooted
  obtain ⟨config, sorted, configured, built⟩ := document_built draft .sorted asked entries made root rooted
  obtain ⟨again, _, configuredToo, rebuilt⟩ :=
    document_built other .sorted (rearranged.config ▸ asked) results otherMade root otherRoot
  obtain rfl : config = again := by
    rw [rearranged.config] at configuredToo
    exact Option.some.inj (configured.symm.trans configuredToo)
  have once : DistinctKeys entries := by
    rw [DistinctKeys, named]
    exact typed.distinct
  rw [built, rebuilt, Model.build, Model.build, sorted_canonical config sorted entries results once results_moved]

theorem construction_ignores_order :
    (∀ (args others : Arguments) (entries moved : List (String × Value)) (required names : List String),
      args.SortsProperties entries required → others.SortsProperties moved names → entries.Perm moved →
      (∀ name, name ∈ required ↔ name ∈ names) → args.AgreeBeside others ["properties", "required"] →
      ∃ node, (Builder.object.apply args).value = .ok node ∧
        Builder.object.apply others = Builder.object.apply args) ∧
    (∀ (args others : Arguments) (entries moved : List (String × Value)),
      args.SortsDefinitions entries → others.SortsDefinitions moved → entries.Perm moved →
      args.AgreeBeside others ["definitions"] →
      ∃ document, (Builder.model.apply args).value = .ok document ∧
        Builder.model.apply others = Builder.model.apply args) ∧
    (∀ recipe other : Recipe, recipe.Rearranged other → recipe.Typed (· = .sorted) →
      ∃ node another, recipe.make = .ok node ∧ other.make = .ok another ∧ node.Indistinct another) ∧
    ∀ draft other : Draft, draft.Rearranged other → draft.Typed (· = .sorted) →
      ∃ document another, draft.make = .ok document ∧ other.make = .ok another ∧ document.Indistinct another := by
  refine ⟨properties_rearranged, definitions_rearranged, fun recipe other rearranged typed => ?_,
    fun draft other rearranged typed => ?_⟩
  · obtain ⟨node, made, _⟩ := typed_made _ recipe typed
    exact ⟨node, node, made, (rearranged_made recipe other rearranged typed).trans made,
      ⟨rfl, rfl, fun _ => rfl, rfl⟩⟩
  · obtain ⟨m, made, _⟩ := draft_made _ draft typed
    exact ⟨_, _, made, (drafts_made draft other rearranged typed).trans made, ⟨rfl, rfl, fun _ => rfl, rfl⟩⟩

-- The pair with its properties in order, in a fixed table, and with each name required once.
def orderedPairRecipe : Recipe :=
  .object .fixed [("a", .combination .anyOf .fixed [nullRecipe] []), ("b", .array nullRecipe [])]
    (.tuple none [.text "z", .text "b"]) []

theorem pair_rearranged : pairRecipe.Rearranged orderedPairRecipe := by
  have leaf : nullRecipe.Rearranged nullRecipe := .leaf _ _
  refine .object _ _ _ _ _ _ _ ["b", "z", "b"] ["z", "b"] _ (.swap _ _ _) rfl
    (List.forall_mem_cons.mpr ⟨?_, List.forall_mem_singleton.mpr ?_⟩) ⟨_, rfl, rfl⟩ ⟨_, rfl, rfl⟩ ?_
  · exact .combination _ _ _ _ _ rfl (List.forall_mem_singleton.mpr leaf)
  · exact .array _ _ _ leaf
  · intro name
    simp only [List.mem_cons, List.not_mem_nil, or_false]
    tauto

def warningCall (properties required : Value) : Arguments :=
  [("properties", properties), ("required", required),
   ("config", .settings none [(Config.missingRequiredKey, .keyword (.missingRequired .warn))])]

def pairDraft (definitions : List (String × Recipe)) : Draft := ⟨.editable, definitions, nullRecipe, .null⟩

theorem rearranged_document_same :
    (∃ node, (Builder.object.apply (warningCall (.table none (underTexts unsortedEntries))
        (.list none [.text "z", .text "y", .text "z"]))).value = .ok node ∧
      Builder.object.apply (warningCall (.frozen none (underTexts [("a", nullLeaf), ("b", nullLeaf)]))
          (.tuple none [.text "y", .text "z"])) =
        Builder.object.apply (warningCall (.table none (underTexts unsortedEntries))
          (.list none [.text "z", .text "y", .text "z"]))) ∧
    (∃ document, (Builder.model.apply [("definitions", .table none (underTexts unsortedEntries)),
        ("root", nullLeaf)]).value = .ok document ∧
      Builder.model.apply [("definitions", .table none (underTexts [("a", nullLeaf), ("b", nullLeaf)])),
          ("root", nullLeaf)] =
        Builder.model.apply [("definitions", .table none (underTexts unsortedEntries)), ("root", nullLeaf)]) ∧
    (∃ node another, pairRecipe.make = .ok node ∧ orderedPairRecipe.make = .ok another ∧ node.Indistinct another) ∧
    ∃ document another, (pairDraft [("d", pairRecipe), ("c", nullRecipe)]).make = .ok document ∧
      (pairDraft [("c", nullRecipe), ("d", orderedPairRecipe)]).make = .ok another ∧ document.Indistinct another := by
  obtain ⟨objects, documents, trees, drafts⟩ := construction_ignores_order
  have unsorted : DistinctKeys unsortedEntries := by
    change ["b", "a"].Nodup
    decide
  have sorted : DistinctKeys [("a", nullLeaf), ("b", nullLeaf)] := by
    change ["a", "b"].Nodup
    decide
  have names : ["d", "c"].Nodup := by decide
  have leaf := null_recipe_typed (· = .sorted)
  have asked : Value.AsksFor .null .sorted := .inl ⟨rfl, rfl⟩
  refine ⟨?_, ?_, trees _ _ pair_rearranged pair_recipe_typed, drafts _ _ ?_ ?_⟩
  · refine objects _ _ unsortedEntries _ ["z", "y", "z"] ["y", "z"]
      ⟨rfl, rfl, unsorted, ⟨_, rfl, rfl⟩, ⟨[], rfl, List.forall_mem_nil _⟩, .inr ⟨_, _, rfl, rfl⟩⟩
      ⟨rfl, rfl, sorted, ⟨_, rfl, rfl⟩, ⟨[], rfl, List.forall_mem_nil _⟩, .inr ⟨_, _, rfl, rfl⟩⟩ (.swap _ _ _) ?_ ?_
    · intro name
      simp only [List.mem_cons, List.not_mem_nil, or_false]
      tauto
    · intro field unmoved
      simp only [List.mem_cons, List.not_mem_nil, or_false, not_or] at unmoved
      have first : (field == "properties") = false := beq_eq_false_iff_ne.mpr unmoved.1
      have second : (field == "required") = false := beq_eq_false_iff_ne.mpr unmoved.2
      simp only [warningCall, List.lookup_cons, first, second]
  · refine documents _ _ unsortedEntries _ ⟨rfl, rfl, unsorted, asked⟩ ⟨rfl, rfl, sorted, asked⟩ (.swap _ _ _) ?_
    intro field unmoved
    have first : (field == "definitions") = false := beq_eq_false_iff_ne.mpr (mt List.mem_singleton.mpr unmoved)
    simp only [List.lookup_cons, first]
  · refine ⟨rfl, .leaf _ _, _, .swap _ _ _, rfl, ?_⟩
    exact List.forall_mem_cons.mpr ⟨.leaf _ _, List.forall_mem_singleton.mpr pair_rearranged⟩
  · exact ⟨names, ⟨.sorted, rfl, asked⟩,
      List.forall_mem_cons.mpr ⟨pair_recipe_typed, List.forall_mem_singleton.mpr leaf⟩, leaf⟩

end Schemata
