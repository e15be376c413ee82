import Schemata.Proofs.Call

set_option autoImplicit false

/-!
Raw values through the builders. What a builder is given as examples or as a fallback value is frozen once
it is stored, and thawing what is stored gives the same content back.
-/

namespace Schemata

-- The other arguments are of the sorts that the builders declare.
structure Arguments.Typed (args : Arguments) : Prop where
  enum : args.get "enum" = .null ∨ (args.get "enum").elements?.isSome
  subSchemas : (args.iterable "sub_schemas").elements?.isSome
  properties : (args.textMapping? "properties").isSome
  required : args.requiredNames?.isSome
  config : args.config?.isSome

theorem enum_ok (args : Arguments) (typed : args.Typed) : ∃ enum, args.enum = .ok enum := by
  rw [Arguments.enum]
  rcases typed.enum with absent | iterable
  · rw [absent]
    exact ⟨.null, rfl⟩
  · obtain ⟨tuple, made⟩ := tuple_ok (args.get "enum") iterable
    split
    · exact ⟨.null, rfl⟩
    · exact ⟨tuple, made⟩

theorem assembled_examples (cls : RecordClass) (args : Arguments) (takes : "examples" ∈ cls.fields)
    (different : cls ≠ .object) (typed : args.Typed) (labels : Labels) (read : args.labels = .ok labels) :
    ∃ node, cls.assemble args = .ok node ∧ node.attribute "examples" = .ok (.tuple none labels.examples) := by
  obtain ⟨enum, allowed⟩ := enum_ok args typed
  obtain ⟨alternatives, listed⟩ := tuple_ok (args.iterable "sub_schemas") typed.subSchemas
  have subSchemas : args.tuple "sub_schemas" = .ok alternatives := listed
  cases cls with
  | object => exact absurd rfl different
  | array => exact ⟨_, by rw [RecordClass.assemble, read]; rfl, rfl⟩
  | string => exact ⟨_, by rw [RecordClass.assemble, read, allowed]; rfl, rfl⟩
  | integer => exact ⟨_, by rw [RecordClass.assemble, read, allowed]; rfl, rfl⟩
  | number => exact ⟨_, by rw [RecordClass.assemble, read, allowed]; rfl, rfl⟩
  | boolean => exact ⟨_, by rw [RecordClass.assemble, read, allowed]; rfl, rfl⟩
  | null => exact ⟨_, by rw [RecordClass.assemble, read]; rfl, rfl⟩
  | ref => exact ⟨_, by rw [RecordClass.assemble, read]; rfl, rfl⟩
  | combinator => exact ⟨_, by rw [RecordClass.assemble, read, subSchemas]; rfl, rfl⟩
  | _ => exact absurd takes (by decide)

theorem object_examples (args : Arguments) (typed : args.Typed) (labels : Labels) (read : args.labels = .ok labels) :
    ∃ node, args.objectSchema.value = .ok node ∧
      node.attribute "examples" = .ok (.tuple none labels.examples) := by
  obtain ⟨entries, properties⟩ := Option.isSome_iff_exists.mp typed.properties
  obtain ⟨names, required⟩ := Option.isSome_iff_exists.mp typed.required
  obtain ⟨config, configured⟩ := Option.isSome_iff_exists.mp typed.config
  rw [Arguments.objectSchema, properties, required, configured, read]
  exact ⟨_, rfl, rfl⟩

theorem built_examples (builder : Builder) (args : Arguments) (takes : "examples" ∈ builder.parameters)
    (known : args.unexpected? builder.parameters = none) (typed : args.Typed) (labels : Labels)
    (read : args.labels = .ok labels) :
    ∃ node, (builder.apply args).value = .ok node ∧
      node.attribute "examples" = .ok (.tuple none labels.examples) := by
  cases builder with
  | object =>
      rw [Builder.apply, known]
      exact object_examples args typed labels read
  | reference =>
      have typedToo : Arguments.Typed (("ref", args.getD "ref" (.text "")) :: args) :=
        ⟨typed.enum, typed.subSchemas, typed.properties, typed.required, typed.config⟩
      rw [Builder.apply, known]
      exact assembled_examples .ref _ takes (by decide) typedToo labels read
  | model => exact absurd takes (by decide)
  | stringFormat => exact absurd takes (by decide)
  | _ =>
      rw [apply_assembles _ args (by decide) known]
      dsimp only
      refine assembled_examples _ args ?_ ?_ typed labels read
      · exact takes
      · decide

theorem examples_thaw (builder : Builder) (args : Arguments) (takes : "examples" ∈ builder.parameters)
    (known : args.unexpected? builder.parameters = none) (typed : args.Typed) (examples : List Value)
    (listed : (args.iterable "examples").elements? = some examples) (plain : ∀ value ∈ examples, value.PlainJson) :
    ∃ node stored, (builder.apply args).value = .ok node ∧ node.attribute "examples" = .ok stored ∧
      stored.ThawsTo (.list none examples) := by
  have read := labels_ok args examples listed fun item member => plain_nested item (plain item member)
  obtain ⟨node, built, shown⟩ := built_examples builder args takes known typed _ read
  have kept : (Value.list none examples).freeze = .tuple none (examples.map Value.freeze) :=
    copy_list .fixed none examples
  exact ⟨node, _, built, shown, kept ▸ frozen_thaws_to (.list none examples) (.list none examples plain)⟩

theorem fallback_thaws (value : Value) (plain : value.PlainJson) :
    ∃ node stored, (Builder.fallback.apply [("value", value)]).value = .ok node ∧
      node.attribute "value" = .ok stored ∧ stored.ThawsTo value := by
  refine ⟨.schema none (.fallback value.freeze), value.freeze, ?_, rfl, frozen_thaws_to value plain⟩
  rw [apply_assembles .fallback [("value", value)] (by decide) rfl]
  exact fallback_assembled value (plain_nested value plain)

theorem raw_values_round_trip :
    (∀ value : Value, value.Nested → ∃ frozen thawed,
      value.frozenCopy = .ok frozen ∧ frozen.Uniform .fixed ∧
      value.thawedCopy = .ok thawed ∧ thawed.Uniform .editable ∧
      frozen.thawedCopy = .ok thawed ∧ thawed.frozenCopy = .ok frozen ∧
      frozen.frozenCopy = .ok frozen ∧ thawed.thawedCopy = .ok thawed) ∧
    (∀ value : Value, value.IsLeaf → value.frozenCopy = .ok value ∧ value.thawedCopy = .ok value) ∧
    (∀ value : Value, value.PlainJson → ∃ frozen, value.frozenCopy = .ok frozen ∧ frozen.ThawsTo value) ∧
    (∀ value : Value, value.PlainJson →
      ∃ node stored, (Builder.fallback.apply [("value", value)]).value = .ok node ∧
        node.attribute "value" = .ok stored ∧ stored.ThawsTo value) ∧
    ∀ (builder : Builder) (args : Arguments) (examples : List Value), "examples" ∈ builder.parameters →
      args.unexpected? builder.parameters = none → args.Typed →
      (args.iterable "examples").elements? = some examples → (∀ value ∈ examples, value.PlainJson) →
      ∃ node stored, (builder.apply args).value = .ok node ∧ node.attribute "examples" = .ok stored ∧
        stored.ThawsTo (.list none examples) := by
  refine ⟨?_, ?_, ?_, fallback_thaws, ?_⟩
  · intro value nested
    have frozenNested : value.freeze.Nested := nested_copy .fixed value nested
    have thawedNested : value.thaw.Nested := nested_copy .editable value nested
    refine ⟨value.freeze, value.thaw, frozen_copy_ok value nested, copy_uniform .fixed value nested,
      thawed_copy_ok value nested, copy_uniform .editable value nested, ?_, ?_, ?_, ?_⟩
    · exact (thawed_copy_ok _ frozenNested).trans (congrArg _ (copy_copy .fixed .editable value nested))
    · exact (frozen_copy_ok _ thawedNested).trans (congrArg _ (copy_copy .editable .fixed value nested))
    · exact (frozen_copy_ok _ frozenNested).trans (congrArg _ (copy_copy .fixed .fixed value nested))
    · exact (thawed_copy_ok _ thawedNested).trans (congrArg _ (copy_copy .editable .editable value nested))
  · intro value leaf
    have nested := Value.Nested.leaf value leaf
    have kept := (leaf_kept value leaf).2
    exact ⟨(frozen_copy_ok value nested).trans (congrArg _ (kept .fixed)),
      (thawed_copy_ok value nested).trans (congrArg _ (kept .editable))⟩
  · intro value plain
    exact ⟨value.freeze, frozen_copy_ok value (plain_nested value plain), frozen_thaws_to value plain⟩
  · intro builder args examples takes known typed listed plain
    exact examples_thaw builder args takes known typed examples listed plain

-- A table around an empty list, and scalars that only their sort tells apart.
def rawSample : Value :=
  .table none [(.text "deep", .list none [.list none [], .int 1, .bool true]), (.text "", .null)]

theorem raw_sample_plain : rawSample.PlainJson := by
  have inner : (Value.list none [.list none [], .int 1, .bool true]).PlainJson := by
    refine .list none _ (List.forall_mem_cons.mpr ⟨.list none [] (List.forall_mem_nil _), ?_⟩)
    exact List.forall_mem_cons.mpr ⟨.scalar (.int 1), List.forall_mem_singleton.mpr (.scalar (.bool true))⟩
  exact .table none _ (List.forall_mem_cons.mpr ⟨inner, List.forall_mem_singleton.mpr (.scalar .null)⟩)

theorem raw_sample_round_trips :
    (∃ frozen thawed, Value.frozenCopy (.tuple none [.frozen none [(.text "inside", rawSample)]]) = .ok frozen ∧
      frozen.thawedCopy = .ok thawed ∧ thawed.frozenCopy = .ok frozen) ∧
    Value.frozenCopy (.customFormat none rawSample) = .ok (.customFormat none rawSample) ∧
    (∃ frozen, rawSample.frozenCopy = .ok frozen ∧ frozen.ThawsTo rawSample) ∧
    (∃ node stored, (Builder.fallback.apply [("value", rawSample)]).value = .ok node ∧
      node.attribute "value" = .ok stored ∧ stored.ThawsTo rawSample) ∧
    ∃ node stored, (Builder.string.apply [("examples", .list none [rawSample, rawSample])]).value = .ok node ∧
      node.attribute "examples" = .ok stored ∧ stored.ThawsTo (.list none [rawSample, rawSample]) := by
  obtain ⟨copies, leaves, plain, fallback, examples⟩ := raw_values_round_trip
  have held : (Value.frozen none [(.text "inside", rawSample)]).Nested :=
    .frozen none _ (List.forall_mem_singleton.mpr (plain_nested rawSample raw_sample_plain))
  obtain ⟨frozen, thawed, first, _, _, _, second, third, _⟩ :=
    copies (.tuple none [.frozen none [(.text "inside", rawSample)]])
      (.tuple none _ (List.forall_mem_singleton.mpr held))
  have twice : ∀ value ∈ [rawSample, rawSample], value.PlainJson :=
    List.forall_mem_cons.mpr ⟨raw_sample_plain, List.forall_mem_singleton.mpr raw_sample_plain⟩
  refine ⟨⟨frozen, thawed, first, second, third⟩, (leaves (.customFormat none rawSample) ?_).1,
    plain rawSample raw_sample_plain, fallback rawSample raw_sample_plain, ?_⟩
  · simp [Value.IsLeaf, Value.shape?]
  · exact examples .string [("examples", .list none [rawSample, rawSample])] [rawSample, rawSample] (by decide)
      rfl ⟨.inl rfl, rfl, rfl, rfl, rfl⟩ rfl twice

end Schemata
