import Schemata.Builder
import Schemata.Proofs.Copy

set_option autoImplicit false

/-!
Calls of builders. A field that is kept as a tuple takes what is iterable, labels take examples that can be
copied, and most builders do no more than assemble their record.
-/

namespace Schemata

theorem elements_ok (value : Value) (items : List Value) (listed : value.elements? = some items) :
    value.elements = .ok items := by
  rw [Value.elements, listed]

theorem tuple_ok (value : Value) (iterable : value.elements?.isSome) : ∃ tuple, value.toTuple = .ok tuple := by
  obtain ⟨items, listed⟩ := Option.isSome_iff_exists.mp iterable
  have elements := elements_ok value items listed
  unfold Value.toTuple
  split
  · exact ⟨_, rfl⟩
  · exact ⟨.tuple none items, congrArg (Except.map (Value.tuple none)) elements⟩

theorem labels_ok (args : Arguments) (examples : List Value)
    (listed : (args.iterable "examples").elements? = some examples) (nested : ∀ item ∈ examples, item.Nested) :
    args.labels = .ok (.of (args.get "title") (args.get "description") examples) := by
  have checked := check_items_ok examples fun item member => check_nested item (nested item member)
  rw [Arguments.labels, Arguments.elements, elements_ok _ examples listed]
  simp only [bind, Except.bind, checked]
  rfl

theorem apply_assembles (builder : Builder) (args : Arguments)
    (direct : builder ∉ [Builder.object, Builder.model, Builder.stringFormat, Builder.reference])
    (known : args.unexpected? builder.parameters = none) :
    builder.apply args = { value := builder.recordClass.assemble args } := by
  cases builder with
  | object => exact absurd direct (by decide)
  | model => exact absurd direct (by decide)
  | stringFormat => exact absurd direct (by decide)
  | reference => exact absurd direct (by decide)
  | _ =>
      unfold Builder.apply
      rw [known]

theorem fallback_assembled (value : Value) (nested : value.Nested) :
    RecordClass.fallback.assemble [("value", value)] = .ok (.schema none (.carrying value)) := by
  have read : Arguments.get [("value", value)] "value" = value := rfl
  rw [RecordClass.assemble, read, check_nested value nested]
  rfl

theorem given_value (args : Arguments) (field : String) (default : Value) (present : args.get field ≠ .null) :
    args.getD field default = args.get field := by
  simp only [Arguments.get, Arguments.getD] at present ⊢
  cases found : args.lookup field with
  | none => exact absurd (by rw [found]; rfl) present
  | some value => rfl

theorem given_elements (args : Arguments) (field : String) (items : List Value)
    (listed : (args.get field).elements? = some items) : (args.iterable field).elements? = some items := by
  have present : args.get field ≠ .null := by
    intro absent
    rw [absent] at listed
    cases listed
  rw [Arguments.iterable, given_value args field _ present, listed]

theorem text_keyed_under_texts (entries : List (String × Value)) :
    textKeyed? (underTexts entries) = some entries := by
  induction entries with
  | nil => rfl
  | cons entry rest hypothesis =>
      rw [textKeyed?, underTexts] at hypothesis
      rw [textKeyed?, underTexts, List.map_cons, List.mapM_cons, hypothesis]
      rfl

theorem given_mapping (args : Arguments) (field : String) (entries : List (String × Value))
    (listed : (args.get field).entries? = some (underTexts entries)) : args.textMapping? field = some entries := by
  have present : args.get field ≠ .null := by
    intro absent
    rw [absent] at listed
    cases listed
  rw [Arguments.textMapping?, Arguments.mapping, given_value args field _ present, listed]
  exact text_keyed_under_texts entries

theorem texts_of_names (names : List String) : (names.map Value.text).mapM Value.text? = some names := by
  induction names with
  | nil => rfl
  | cons name rest hypothesis =>
      rw [List.map_cons, List.mapM_cons, hypothesis]
      rfl

end Schemata
