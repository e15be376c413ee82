import Schemata.Proofs.Call
import Schemata.Proofs.Held

set_option autoImplicit false

/-!
What builders make. From scalars, raw values and values that builders made before they make solid values: raw
values are copied into fixed containers, and of any other container only its elements are taken.
-/

namespace Schemata

/-- Lists, tuples and tables nested to any depth around scalars, under plain keys. -/
inductive Value.Json : Value → Prop where
  | scalar (s : Scalar) : Json (.scalar s)
  | list (handle : Handle) (items : List Value) (below : ∀ item ∈ items, item.Json) : Json (.list handle items)
  | tuple (handle : Handle) (items : List Value) (below : ∀ item ∈ items, item.Json) : Json (.tuple handle items)
  | table (handle : Handle) (entries : List (Value × Value)) (keys : ∀ entry ∈ entries, ∃ s, entry.1 = .scalar s)
      (below : ∀ entry ∈ entries, entry.2.Json) : Json (.table handle entries)
  | frozen (handle : Handle) (entries : List (Value × Value)) (keys : ∀ entry ∈ entries, ∃ s, entry.1 = .scalar s)
      (below : ∀ entry ∈ entries, entry.2.Json) : Json (.frozen handle entries)

theorem scalar_solid (cells : Cells) (s : Scalar) : (Value.scalar s).Solid cells :=
  .fresh _ rfl (fun _ object => nomatch object) (List.forall_mem_nil _) (List.forall_mem_nil _)

theorem tuple_solid (cells : Cells) (items : List Value) (below : ∀ item ∈ items, item.Solid cells) :
    (Value.tuple none items).Solid cells :=
  .fresh _ rfl (fun _ _ => rfl) (List.forall_mem_nil _) below

theorem scalar_keys_whole (entries : List (Value × Value)) (keys : ∀ entry ∈ entries, ∃ s, entry.1 = .scalar s) :
    ∀ entry ∈ entries, entry.1.form.Whole := by
  intro entry member
  obtain ⟨s, scalar⟩ := keys entry member
  rw [scalar]
  exact scalar_whole s

theorem frozen_solid (cells : Cells) (entries : List (Value × Value))
    (keys : ∀ entry ∈ entries, ∃ s, entry.1 = .scalar s) (below : ∀ entry ∈ entries, entry.2.Solid cells) :
    (Value.frozen none entries).Solid cells :=
  .fresh _ rfl (fun _ _ => rfl) (List.forall_mem_map.mpr (scalar_keys_whole entries keys)) (List.forall_mem_map.mpr below)

theorem freeze_solid (cells : Cells) (value : Value) (json : value.Json) : value.freeze.Solid cells := by
  induction json with
  | scalar s => exact scalar_solid cells s
  | list handle items _ hypothesis =>
      rw [Value.freeze, freeze_items_map]
      exact tuple_solid cells _ (List.forall_mem_map.mpr hypothesis)
  | tuple handle items _ hypothesis =>
      rw [Value.freeze, freeze_items_map]
      exact tuple_solid cells _ (List.forall_mem_map.mpr hypothesis)
  | table handle entries keys _ hypothesis =>
      rw [Value.freeze, freeze_entries_map]
      exact frozen_solid cells _ (List.forall_mem_map.mpr keys) (List.forall_mem_map.mpr hypothesis)
  | frozen handle entries keys _ hypothesis =>
      rw [Value.freeze, freeze_entries_map]
      exact frozen_solid cells _ (List.forall_mem_map.mpr keys) (List.forall_mem_map.mpr hypothesis)

-- What a builder takes its elements or entries of, copies, or only looks at; all else it keeps as it is.
def Arguments.readFields : List String :=
  ["properties", "definitions", "examples", "value", "enum", "sub_schemas", "required", "config"]

-- Mappings under texts, required names and settings are what they are to be, and raw values are such.
structure Arguments.WellTyped (args : Arguments) : Prop where
  properties : (args.textMapping? "properties").isSome
  definitions : (args.textMapping? "definitions").isSome
  required : args.requiredNames?.isSome
  config : args.config?.isSome
  examples : ∃ items, (args.iterable "examples").elements? = some items ∧ ∀ item ∈ items, item.Json
  payload : (args.get "value").Json

-- What is kept of the arguments is of some sort: what stays as it is, a tuple of elements, or the values of a
-- mapping.
structure Arguments.Keeps (args : Arguments) (sort : Value → Prop) : Prop where
  plain : ∀ field ∉ readFields, sort (args.get field)
  grouped : ∀ field ∈ ["enum", "sub_schemas"], ∀ tuple, (args.get field).toTuple = .ok tuple → sort tuple
  mapped : ∀ field ∈ ["properties", "definitions"], ∀ entries, args.textMapping? field = some entries →
    ∀ entry ∈ entries, sort entry.2

theorem json_nested (value : Value) (json : value.Json) : value.Nested := by
  induction json with
  | scalar s => exact .leaf (.scalar s) (by simp [Value.IsLeaf, Value.shape?])
  | list handle items _ hypothesis => exact .list handle items hypothesis
  | tuple handle items _ hypothesis => exact .tuple handle items hypothesis
  | table handle entries _ _ hypothesis => exact .table handle entries hypothesis
  | frozen handle entries _ _ hypothesis => exact .frozen handle entries hypothesis

section Builders

variable {cells : Cells} {args : Arguments}

theorem schema_solid (s : Schema) (parts : ∀ part ∈ s.pieces, part.Solid cells) : (Value.schema none s).Solid cells :=
  .fresh _ rfl (fun _ _ => rfl) (List.forall_mem_nil _) parts

theorem labels_solid (title description : Value) (examples : List Value) (first : title.Solid cells)
    (second : description.Solid cells) (json : ∀ item ∈ examples, item.Json) :
    ∀ part ∈ (Labels.of title description examples).pieces, part.Solid cells := by
  refine List.forall_mem_cons.mpr ⟨first, List.forall_mem_cons.mpr ⟨second, List.forall_mem_map.mpr ?_⟩⟩
  exact fun item member => freeze_solid cells item (json item member)

theorem typed_labels (typed : args.WellTyped) (kept : args.Keeps (Value.Solid cells)) :
    ∃ labels, args.labels = .ok labels ∧ ∀ part ∈ labels.pieces, part.Solid cells := by
  obtain ⟨examples, listed, json⟩ := typed.examples
  refine ⟨_, labels_ok args examples listed fun item member => json_nested item (json item member), ?_⟩
  exact labels_solid _ _ examples (kept.plain "title" (by decide)) (kept.plain "description" (by decide)) json

theorem enum_solid (kept : args.Keeps (Value.Solid cells)) (enum : Value) (taken : args.enum = .ok enum) :
    enum.Solid cells := by
  unfold Arguments.enum at taken
  split at taken
  · cases taken
    exact scalar_solid cells .null
  · exact kept.grouped "enum" (by decide) enum taken

theorem enumerated_solid (kept : args.Keeps (Value.Solid cells)) {labels : Labels}
    (shared : ∀ part ∈ labels.pieces, part.Solid cells) (make : Value → Schema) {others : List Value}
    (is : ∀ enum, (make enum).pieces = labels.pieces ++ enum :: others) (below : ∀ part ∈ others, part.Solid cells)
    (node : Value) (built : (args.enum.bind fun enum => pure (.schema none (make enum))) = .ok node) :
    node.Solid cells := by
  cases taken : args.enum with
  | error fault =>
      rw [taken] at built
      cases built
  | ok enum =>
      rw [taken] at built
      cases built
      refine schema_solid _ ?_
      rw [is enum]
      exact List.forall_mem_append.mpr ⟨shared, List.forall_mem_cons.mpr ⟨enum_solid kept enum taken, below⟩⟩

theorem group_solid (kept : args.Keeps (Value.Solid cells)) (tuple : Value)
    (taken : args.tuple "sub_schemas" = .ok tuple) : tuple.Solid cells := by
  have given := kept.grouped "sub_schemas" (by decide) tuple
  unfold Arguments.tuple Arguments.iterable Arguments.getD at taken
  unfold Arguments.get Arguments.getD at given
  cases found : args.lookup "sub_schemas" with
  | none =>
      rw [found] at taken
      cases taken
      exact tuple_solid cells [] (List.forall_mem_nil _)
  | some value =>
      rw [found] at taken given
      exact given taken

theorem plain_solid (kept : args.Keeps (Value.Solid cells)) (fields : List String)
    (plain : ∀ field ∈ fields, field ∉ Arguments.readFields) : ∀ part ∈ fields.map args.get, part.Solid cells :=
  List.forall_mem_map.mpr fun field member => kept.plain field (plain field member)

theorem bounds_solid (kept : args.Keeps (Value.Solid cells)) : ∀ part ∈ args.bounds.pieces, part.Solid cells :=
  plain_solid kept ["minimum", "maximum", "exclusive_minimum", "exclusive_maximum", "multiple_of"] (by decide)

theorem properties_solid (required : List String) (entries : List (String × Value))
    (below : ∀ entry ∈ entries, entry.2.Solid cells) :
    (Value.tuple none ((Property.split required entries).map (.property none))).Solid cells := by
  refine tuple_solid cells _ (List.forall_mem_map.mpr (List.forall_mem_map.mpr fun entry member => ?_))
  refine .fresh _ rfl (fun _ _ => rfl) (List.forall_mem_nil _) ?_
  exact List.forall_mem_cons.mpr ⟨scalar_solid cells _, List.forall_mem_singleton.mpr (below entry member)⟩

theorem ordered_below (config : Config) (entries : List (String × Value))
    (below : ∀ entry ∈ entries, entry.2.Solid cells) : ∀ entry ∈ config.order entries, entry.2.Solid cells := by
  intro entry member
  refine below entry ?_
  unfold Config.order at member
  split at member
  · exact List.mem_mergeSort.mp member
  · exact member

theorem object_solid (typed : args.WellTyped) (kept : args.Keeps (Value.Solid cells)) (node : Value)
    (built : args.objectSchema.value = .ok node) : node.Solid cells := by
  obtain ⟨entries, properties⟩ := Option.isSome_iff_exists.mp typed.properties
  obtain ⟨required, names⟩ := Option.isSome_iff_exists.mp typed.required
  obtain ⟨config, configured⟩ := Option.isSome_iff_exists.mp typed.config
  obtain ⟨labels, labelled, shared⟩ := typed_labels typed kept
  rw [Arguments.objectSchema, properties, names, configured, labelled] at built
  cases built
  have below := ordered_below config entries (kept.mapped "properties" (by decide) entries properties)
  refine schema_solid _ (List.forall_mem_append.mpr ⟨shared, ?_⟩)
  refine List.forall_mem_cons.mpr ⟨properties_solid required _ below, ?_⟩
  exact plain_solid kept ["min_properties", "max_properties"] (by decide)

theorem document_solid (typed : args.WellTyped) (kept : args.Keeps (Value.Solid cells)) (node : Value)
    (built : args.modelDocument = .ok node) : node.Solid cells := by
  obtain ⟨entries, definitions⟩ := Option.isSome_iff_exists.mp typed.definitions
  obtain ⟨config, configured⟩ := Option.isSome_iff_exists.mp typed.config
  rw [Arguments.modelDocument, definitions, configured] at built
  cases built
  have below := ordered_below config entries (kept.mapped "definitions" (by decide) entries definitions)
  refine .fresh _ rfl (fun _ _ => rfl) ?_ (List.forall_mem_append.mpr ⟨?_, ?_⟩)
  · exact List.forall_mem_map.mpr (List.forall_mem_map.mpr fun entry _ => scalar_whole _)
  · exact List.forall_mem_map.mpr (List.forall_mem_map.mpr below)
  · exact List.forall_mem_singleton.mpr (kept.plain "root" (by decide))

theorem format_solid (name node : Value) (solid : name.Solid cells) (built : formatNamed name = .ok node) :
    node.Solid cells := by
  unfold formatNamed at built
  split at built
  · cases built
    exact scalar_solid cells _
  · cases built
  · cases built
    exact .fresh _ rfl (fun _ _ => rfl) (List.forall_mem_nil _) (List.forall_mem_singleton.mpr solid)

theorem reference_solid (typed : args.WellTyped) (kept : args.Keeps (Value.Solid cells)) (node : Value)
    (built : RecordClass.ref.assemble (("ref", args.getD "ref" (.text "")) :: args) = .ok node) : node.Solid cells := by
  have token : (args.getD "ref" (.text "")).Solid cells := by
    have given := kept.plain "ref" (by decide)
    unfold Arguments.get Arguments.getD at given
    unfold Arguments.getD
    cases found : args.lookup "ref" with
    | none => exact scalar_solid cells _
    | some value =>
        rw [found] at given
        exact given
  obtain ⟨labels, labelled, shared⟩ := typed_labels typed kept
  have same : Arguments.labels (("ref", args.getD "ref" (.text "")) :: args) = .ok labels := labelled
  simp only [RecordClass.assemble, same, bind, Except.bind] at built
  cases built
  exact schema_solid _ (List.forall_mem_append.mpr ⟨shared, List.forall_mem_singleton.mpr token⟩)

theorem assembled_solid (typed : args.WellTyped) (kept : args.Keeps (Value.Solid cells)) (builder : Builder)
    (direct : builder ∉ [Builder.object, Builder.model, Builder.stringFormat, Builder.reference]) (node : Value)
    (built : builder.recordClass.assemble args = .ok node) : node.Solid cells := by
  obtain ⟨labels, labelled, shared⟩ := typed_labels typed kept
  cases builder with
  | object => exact absurd direct (by decide)
  | model => exact absurd direct (by decide)
  | stringFormat => exact absurd direct (by decide)
  | reference => exact absurd direct (by decide)
  | array =>
      simp only [Builder.recordClass, RecordClass.assemble, labelled, bind, Except.bind] at built
      cases built
      have own := plain_solid kept ["items", "min_items", "max_items"] (by decide)
      exact schema_solid _ (List.forall_mem_append.mpr ⟨shared, own⟩)
  | string =>
      rw [Builder.recordClass, RecordClass.assemble, labelled] at built
      have own := plain_solid kept ["min_length", "max_length", "pattern", "format"] (by decide)
      exact enumerated_solid kept shared (.string labels · (args.get "min_length") (args.get "max_length")
        (args.get "pattern") (args.get "format")) (fun _ => rfl) own node built
  | integer =>
      rw [Builder.recordClass, RecordClass.assemble, labelled] at built
      exact enumerated_solid kept shared (.integer labels · args.bounds) (fun _ => rfl) (bounds_solid kept) node built
  | number =>
      rw [Builder.recordClass, RecordClass.assemble, labelled] at built
      exact enumerated_solid kept shared (.number labels · args.bounds) (fun _ => rfl) (bounds_solid kept) node built
  | boolean =>
      rw [Builder.recordClass, RecordClass.assemble, labelled] at built
      exact enumerated_solid kept shared (.boolean labels) (fun _ => rfl) (List.forall_mem_nil _) node built
  | null =>
      simp only [Builder.recordClass, RecordClass.assemble, labelled, bind, Except.bind] at built
      cases built
      exact schema_solid _ shared
  | combinator =>
      simp only [Builder.recordClass, RecordClass.assemble, labelled, bind, Except.bind] at built
      cases taken : args.tuple "sub_schemas" with
      | error fault =>
          rw [taken] at built
          cases built
      | ok tuple =>
          rw [taken] at built
          cases built
          refine .fresh _ rfl (fun _ _ => rfl) (List.forall_mem_nil _) (List.forall_mem_append.mpr ⟨shared, ?_⟩)
          exact List.forall_mem_singleton.mpr (group_solid kept tuple taken)
  | fallback =>
      simp only [Builder.recordClass, RecordClass.assemble, bind, Except.bind] at built
      rw [check_nested _ (json_nested _ typed.payload)] at built
      cases built
      exact schema_solid _ (List.forall_mem_singleton.mpr (freeze_solid cells _ typed.payload))
  | _ =>
      cases built
      exact schema_solid _ (List.forall_mem_singleton.mpr (kept.plain "combinator" (by decide)))

theorem built_solid (typed : args.WellTyped) (kept : args.Keeps (Value.Solid cells)) (builder : Builder) (node : Value)
    (built : (builder.apply args).value = .ok node) : node.Solid cells := by
  cases known : args.unexpected? builder.parameters with
  | some name =>
      unfold Builder.apply at built
      rw [known] at built
      cases built
  | none =>
      by_cases direct : builder ∉ [Builder.object, Builder.model, Builder.stringFormat, Builder.reference]
      · rw [apply_assembles builder args direct known] at built
        exact assembled_solid typed kept builder direct node built
      · simp only [List.mem_cons, List.not_mem_nil, or_false, not_not] at direct
        unfold Builder.apply at built
        rw [known] at built
        rcases direct with rfl | rfl | rfl | rfl
        · exact object_solid typed kept node built
        · exact document_solid typed kept node built
        · exact format_solid _ node (kept.plain "name" (by decide)) built
        · exact reference_solid typed kept node built

end Builders

end Schemata
