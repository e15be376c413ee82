import Schemata.Proofs.Rearrangement

set_option autoImplicit false

/-!
Undefined names. A name can be required of an object that has no property of that name. The node is built without it
under either policy, and only the log tells the policies apart: under one of them there is one row, and it lists these
names as a set in ascending order. So neither the order of keys nor the way in which names were required shows in it.
-/

namespace Schemata

-- The policy that settings ask for. No settings ask for none.
def Value.AsksToReport (settings : Value) (policy : MissingRequired) : Prop :=
  settings = .null ∧ policy = .ignore ∨
    ∃ handle attributes, settings = .settings handle attributes ∧
      settings.attribute Config.missingRequiredKey = .ok (.keyword (.missingRequired policy))

/-- A row of the log: its level, who writes it and the message. -/
def Event.row (event : Event) : String × String × String := (event.level, event.logger, event.message)

def missingRow (title : Value) (names : List String) : String × String × String :=
  ("WARNING", "json_schema_model.schema_model.builders",
    "Object schema " ++ title.display ++ " lists required properties with no definition: " ++ ", ".intercalate names)

-- What is written to the log about names that are missing.
def missingRows (policy : MissingRequired) (title : Value) (names : List String) : List (String × String × String) :=
  match policy with
  | .ignore => []
  | .warn => if names = [] then [] else [missingRow title names]

theorem policy_of_member (policy : MissingRequired) :
    Config.policyOf (.keyword (.missingRequired policy)) = policy := by
  have compared : (Value.keyword (.missingRequired policy)).same (.text MissingRequired.warn.text) =
      decide (policy = .warn) := by
    rw [Value.keyword, Value.text, same_scalars]
    cases policy <;> decide
  rw [Config.policyOf, compared]
  cases policy <;> rfl

theorem asked_policy (settings : Value) (policy : MissingRequired) (asked : settings.AsksToReport policy)
    (config : Config) (configured : Config.ofValue? settings = some config) : config.missingRequired = policy := by
  rcases asked with ⟨rfl, rfl⟩ | ⟨handle, attributes, rfl, read⟩
  · obtain rfl := Option.some.inj configured
    rfl
  · have field := settings_field handle attributes Config.missingRequiredKey _ _ rfl read
    obtain rfl := Option.some.inj configured
    dsimp only
    rw [field]
    exact policy_of_member policy

theorem warning_rows (config : Config) (title : Value) (required : List String) (entries : List (String × Value)) :
    (undefinedWarning config title required entries).map Event.row =
      missingRows config.missingRequired title (undefinedNames required entries) := by
  rw [undefinedWarning]
  cases config.missingRequired with
  | ignore => rfl
  | warn => cases undefinedNames required entries <;> rfl

-- The builder of objects and what is read off its settings.
theorem object_call_reports (args : Arguments) (entries : List (String × Value)) (required : List String)
    (order : KeyOrder) (policy : MissingRequired) (call : args.CallsObject entries required order)
    (asked : (args.get "config").AsksToReport policy) :
    ∃ labels config, config.keyOrder = order ∧ config.missingRequired = policy ∧ Builder.object.apply args =
      { value := .ok (.schema none (.ofEntries labels entries required (args.get "min_properties")
          (args.get "max_properties") config)),
        events := undefinedWarning config (args.get "title") required entries } := by
  obtain ⟨examples, given, nested⟩ := call.examples
  obtain ⟨config, configured, ordered, built⟩ :=
    object_call_with args entries required order call examples given nested
  exact ⟨_, config, ordered, asked_policy _ policy asked config configured, built⟩

-- Settings that ask for one order make one node, whatever else they ask for.
theorem policies_build_alike (args others : Arguments) (entries : List (String × Value)) (required : List String)
    (order : KeyOrder) (call : args.CallsObject entries required order)
    (other : others.CallsObject entries required order) (beside : args.AgreeBeside others ["config"]) :
    ∃ node, (Builder.object.apply args).value = .ok node ∧ (Builder.object.apply others).value = .ok node := by
  obtain ⟨examples, given, nested⟩ := call.examples
  have get := agree_get args others _ beside
  have givenToo : (others.get "examples").elements? = some examples := by
    rw [get "examples" (by decide)]
    exact given
  obtain ⟨config, _, ordered, built⟩ := object_call_with args entries required order call examples given nested
  obtain ⟨another, _, orderedToo, builtToo⟩ :=
    object_call_with others entries required order other examples givenToo nested
  have same := order_alike config another (orderedToo.trans ordered.symm) entries
  refine ⟨_, congrArg Reported.value built, ?_⟩
  rw [builtToo, get "title" (by decide), get "description" (by decide), get "min_properties" (by decide),
    get "max_properties" (by decide), Schema.ofEntries, Schema.ofEntries, same]

theorem policy_only_reports :
    (∀ (args : Arguments) (entries : List (String × Value)) (required : List String) (order : KeyOrder)
      (policy : MissingRequired), args.CallsObject entries required order → (args.get "config").AsksToReport policy →
      ∃ (node : Value) (names shown : List String), (Builder.object.apply args).value = .ok node ∧
        MissingNames required (entries.map Prod.fst) names ∧
        (Builder.object.apply args).events.map Event.row = missingRows policy (args.get "title") names ∧
        node.attribute "property_names" = .ok (.tuple none (shown.map Value.text)) ∧
        ∀ name ∈ names, name ∉ shown ∧ node.propertyNamed (.text name) = .ok none) ∧
    (∀ (args others : Arguments) (entries : List (String × Value)) (required : List String) (order : KeyOrder),
      args.CallsObject entries required order → others.CallsObject entries required order →
      args.AgreeBeside others ["config"] →
      ∃ node, (Builder.object.apply args).value = .ok node ∧ (Builder.object.apply others).value = .ok node) ∧
    ∀ (args others : Arguments) (entries moved : List (String × Value)) (required names : List String)
      (order another : KeyOrder) (policy : MissingRequired), args.CallsObject entries required order →
      others.CallsObject moved names another → (args.get "config").AsksToReport policy →
      (others.get "config").AsksToReport policy → others.get "title" = args.get "title" → entries.Perm moved →
      (∀ name, name ∈ required ↔ name ∈ names) →
      (Builder.object.apply others).events = (Builder.object.apply args).events := by
  refine ⟨?_, policies_build_alike, ?_⟩
  · intro args entries required order policy call asked
    obtain ⟨labels, config, rfl, rfl, built⟩ := object_call_reports args entries required order policy call asked
    have missing := undefined_missing required entries
    have parts := ordered_partition labels required entries (args.get "min_properties") (args.get "max_properties")
      config call.distinct
    rw [built]
    refine ⟨_, undefinedNames required entries, _, rfl, missing, warning_rows config _ required entries, parts.named,
      fun name member => ?_⟩
    have absent := ((missing.exact name).mp member).2
    exact ⟨mt parts.keys.mem_iff.mp absent, parts.absent name absent⟩
  · intro args others entries moved required names order another policy call other asked askedToo title permuted same
    obtain ⟨_, config, _, reports, built⟩ := object_call_reports args entries required order policy call asked
    obtain ⟨_, config', _, reportsToo, builtToo⟩ :=
      object_call_reports others moved names another policy other askedToo
    rw [built, builtToo, title]
    dsimp only
    rw [← warning_canonical config _ entries moved permuted required names same, undefinedWarning, undefinedWarning,
      reports, reportsToo]

def reportingCall (properties required : Value) (order : KeyOrder) (policy : MissingRequired) : Arguments :=
  [("title", .text "it's"), ("properties", properties), ("required", required), ("examples", .tuple none []),
   ("config", .settings none [(Config.keyOrderKey, .keyword (.keyOrder order)),
      (Config.missingRequiredKey, .keyword (.missingRequired policy))])]

-- Two names are required that are no keys, one of them twice.
def unsortedReport (policy : MissingRequired) : Arguments :=
  reportingCall (.table none (underTexts unsortedEntries)) (.list none [.text "z", .text "a", .text "y", .text "z"])
    .insertion policy

def sortedReport : Arguments :=
  reportingCall (.frozen none (underTexts [("a", nullLeaf), ("b", nullLeaf)]))
    (.tuple none [.text "a", .text "y", .text "z"]) .sorted .warn

theorem unsorted_report_calls (policy : MissingRequired) :
    (unsortedReport policy).CallsObject unsortedEntries ["z", "a", "y", "z"] .insertion ∧
      ((unsortedReport policy).get "config").AsksToReport policy := by
  have distinct : DistinctKeys unsortedEntries := by
    change ["b", "a"].Nodup
    decide
  exact ⟨⟨rfl, rfl, distinct, ⟨_, rfl, rfl⟩, ⟨[], rfl, List.forall_mem_nil _⟩, .inr ⟨_, _, rfl, rfl⟩⟩,
    .inr ⟨_, _, rfl, rfl⟩⟩

theorem missing_names_reported :
    (Builder.object.apply (unsortedReport .warn)).events.map Event.row =
      [("WARNING", "json_schema_model.schema_model.builders",
        "Object schema \"it's\" lists required properties with no definition: y, z")] ∧
    (Builder.object.apply (unsortedReport .ignore)).events.map Event.row = [] ∧
    (∃ node, (Builder.object.apply (unsortedReport .warn)).value = .ok node ∧
      (Builder.object.apply (unsortedReport .ignore)).value = .ok node) ∧
    (Builder.object.apply sortedReport).events = (Builder.object.apply (unsortedReport .warn)).events := by
  obtain ⟨reports, alike, rows⟩ := policy_only_reports
  obtain ⟨warns, askedWarn⟩ := unsorted_report_calls .warn
  obtain ⟨ignores, askedIgnore⟩ := unsorted_report_calls .ignore
  have sorted : sortedReport.CallsObject [("a", nullLeaf), ("b", nullLeaf)] ["a", "y", "z"] .sorted := by
    have distinct : DistinctKeys [("a", nullLeaf), ("b", nullLeaf)] := by
      change ["a", "b"].Nodup
      decide
    exact ⟨rfl, rfl, distinct, ⟨_, rfl, rfl⟩, ⟨[], rfl, List.forall_mem_nil _⟩, .inr ⟨_, _, rfl, rfl⟩⟩
  have exact : MissingNames ["z", "a", "y", "z"] (unsortedEntries.map Prod.fst) ["y", "z"] := by
    refine ⟨by decide, fun name => ?_⟩
    change _ ↔ _ ∧ name ∉ ["b", "a"]
    simp only [List.mem_cons, List.not_mem_nil, or_false]
    constructor
    · rintro (rfl | rfl) <;> decide
    · tauto
  obtain ⟨_, names, _, _, missing, row, _⟩ := reports _ _ _ _ _ warns askedWarn
  obtain rfl := missing_names_same _ _ _ _ missing exact
  obtain ⟨_, _, _, _, _, none, _⟩ := reports _ _ _ _ _ ignores askedIgnore
  refine ⟨row.trans (by decide), none, alike _ _ _ _ _ warns ignores ?_, ?_⟩
  · intro field unmoved
    have other : (field == "config") = false := beq_eq_false_iff_ne.mpr (mt List.mem_singleton.mpr unmoved)
    simp only [unsortedReport, reportingCall, List.lookup_cons, other]
  · refine rows _ _ _ _ _ _ _ _ .warn warns sorted askedWarn (.inr ⟨_, _, rfl, rfl⟩) rfl (.swap _ _ _) fun name => ?_
    simp only [List.mem_cons, List.not_mem_nil, or_false]
    tauto

end Schemata
