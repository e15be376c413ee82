import Schemata.Proofs.Call
import Schemata.Proofs.Spelling

set_option autoImplicit false

/-!
Stored raw values. A record keeps a frozen copy of the raw values that it is made of, and what is emitted for it later
is the thawed copy of that. Records that are equal in everything else are equal just when what is emitted for them is,
and it does not matter how the raw values were spelled.
-/

namespace Schemata

-- Fields of one name, with values that are one or equal unless it is that name.
def EqualUnless (field : String) (part along : String × Value) : Prop :=
  part.1 = along.1 ∧ (part.1 ≠ field → part.2.equalsPart along.2 = .ok true)

-- Records of one class that are equal in all their fields but one.
def Value.EqualBeside (field : String) (a b : Value) : Prop :=
  ∃ cls fields others, a.record? = some (cls, fields) ∧ b.record? = some (cls, others) ∧
    List.Forall₂ (EqualUnless field) fields others

theorem record_names (value : Value) (cls : RecordClass) (fields : List (String × Value))
    (shown : value.record? = some (cls, fields)) : fields.map Prod.fst = cls.fields := by
  cases value with
  | settings handle attributes =>
      cases shown
      rfl
  | schema handle s =>
      cases shown
      cases s with
      | combined mode combinator => cases mode <;> rfl
      | _ => rfl
  | property handle p =>
      cases shown
      obtain ⟨required, name, schema⟩ := p
      cases required <;> rfl
  | combinator handle c =>
      cases shown
      rfl
  | customFormat handle name =>
      cases shown
      rfl
  | model handle m =>
      cases shown
      rfl
  | _ => cases shown

theorem class_fields_once (cls : RecordClass) : cls.fields.Nodup := by cases cls <;> decide

theorem equal_elsewhere (field : String) (fields others : List (String × Value)) (absent : field ∉ fields.map Prod.fst)
    (beside : List.Forall₂ (EqualUnless field) fields others) :
    Form.obstacleOfFields Form.fits (fun _ _ => none) (Value.fieldForms fields) (Value.fieldForms others) = none ∧
      Form.sameFields Form.isOne (Value.fieldForms fields) (Value.fieldForms others) = true := by
  rw [fields_agree, fields_meet_iff]
  induction beside with
  | nil => exact .nil
  | cons here _ hypothesis =>
      rw [List.map_cons, List.mem_cons, not_or] at absent
      exact .cons ((equals_part_iff _ _).mp (here.2 (Ne.symm absent.1))) (hypothesis absent.2)

-- The one field that is left is all that the comparison comes to.
theorem forms_decide (field : String) (fields others : List (String × Value)) (once : (fields.map Prod.fst).Nodup)
    (beside : List.Forall₂ (EqualUnless field) fields others) (value other : Value)
    (here : fields.lookup field = some value) (there : others.lookup field = some other) :
    Form.obstacleOfFields Form.fits (fun _ _ => none) (Value.fieldForms fields) (Value.fieldForms others) =
        (if value.form.isOne other.form then none else value.form.obstacle? other.form) ∧
      Form.sameFields Form.isOne (Value.fieldForms fields) (Value.fieldForms others) =
        value.form.fits other.form := by
  induction beside with
  | nil => cases here
  | @cons part along rest later alike behind hypothesis =>
      obtain ⟨name, own⟩ := part
      obtain ⟨label, theirs⟩ := along
      obtain ⟨rfl, equal⟩ : name = label ∧ (name ≠ field → own.equalsPart theirs = .ok true) := alike
      rw [List.map_cons, List.nodup_cons] at once
      rw [List.lookup_cons] at here there
      rw [Value.fieldForms, Value.fieldForms, Form.obstacleOfFields, Form.sameFields]
      by_cases same : field = name
      · rw [beq_iff_eq.mpr same] at here there
        obtain rfl := Option.some.inj here
        obtain rfl := Option.some.inj there
        obtain ⟨clear, alike⟩ := equal_elsewhere field rest later (same ▸ once.1) behind
        rw [clear, alike, ite_self, Option.or_none, Bool.and_true]
        exact ⟨rfl, rfl⟩
      · rw [beq_eq_false_iff_ne.mpr same] at here there
        obtain ⟨clear, fit⟩ := (meets_iff _ _).mpr ((equals_part_iff own theirs).mp (equal (Ne.symm same)))
        rw [Form.obstacle?] at clear
        rw [clear, if_pos fit, Option.none_or]
        rw [Form.fits, Form.same] at fit
        rw [fit, Bool.true_and]
        exact hypothesis once.2 here there

theorem records_decided (a b : Value) (field : String) (cls : RecordClass) (fields others : List (String × Value))
    (shown : a.record? = some (cls, fields)) (shownToo : b.record? = some (cls, others))
    (parts : List.Forall₂ (EqualUnless field) fields others) (value other : Value)
    (here : fields.lookup field = some value) (there : others.lookup field = some other) :
    a.equals b = value.equalsPart other := by
  have once : (fields.map Prod.fst).Nodup := record_names a cls fields shown ▸ class_fields_once cls
  obtain ⟨clear, fit⟩ := forms_decide field fields others once parts value other here there
  rw [Value.equals, Value.same, record_form a cls fields shown, record_form b cls others shownToo, Form.obstacle?,
    Form.obstacleBy, if_pos rfl, clear, Form.same, Form.sameBy, beq_self_eq_true, Bool.true_and, fit, Value.equalsPart,
    Form.fits]
  by_cases one : value.form.isOne other.form = true
  · rw [if_pos one, if_pos one, one, Bool.true_or]
  · rw [if_neg one, if_neg one, eq_false_of_ne_true one, Bool.false_or, Value.equals, Value.same]

-- A node that carries a value along, as the class makes it and as the builder does.
structure Value.CarriedBy (value node : Value) : Prop where
  constructed : RecordClass.fallback.construct [("value", value)] = .ok node
  built : (Builder.fallback.apply [("value", value)]).value = .ok node

theorem value_carried (value : Value) (nested : value.Nested) :
    value.CarriedBy (.schema none (.fallback (value.copyTo .fixed))) := by
  have assembled := fallback_assembled value nested
  constructor
  · exact assembled
  · rw [apply_assembles .fallback [("value", value)] (by decide) rfl]
    exact assembled

theorem carried_answer (a b : Value) (left : a.Comparable) (right : b.Comparable) :
    ∃ node other stored kept answer, a.CarriedBy node ∧ b.CarriedBy other ∧ node.attribute "value" = .ok stored ∧
      other.attribute "value" = .ok kept ∧ node.equals other = .ok answer ∧ stored.thawedEquals kept = .ok answer ∧
      CopiesAnswer a b answer := by
  have nested := comparable_nested a left
  have nestedToo := comparable_nested b right
  obtain ⟨answer, copies⟩ := copies_answer a b left right
  refine ⟨_, _, a.copyTo .fixed, b.copyTo .fixed, answer, value_carried a nested, value_carried b nestedToo, rfl, rfl,
    ?_, (stored_thawed a b nested nestedToo).trans copies.thawed, copies⟩
  have parts : List.Forall₂ (EqualUnless "value") [("value", a.copyTo .fixed)] [("value", b.copyTo .fixed)] :=
    .cons ⟨rfl, fun different => absurd rfl different⟩ .nil
  rw [records_decided _ _ "value" .fallback _ _ rfl rfl parts _ _ rfl rfl, copies_equal_part .fixed a b left right,
    ← frozen_equals_copies a b nested nestedToo, copies.frozen]

-- A record with labels that stores examples.
structure Value.StoresExamples (node : Value) (examples : List Value) : Prop where
  field : ∃ cls fields, node.record? = some (cls, fields) ∧ fields.lookup "examples" = some (.tuple none examples)
  shown : node.attribute "examples" = .ok (.tuple none examples)

theorem examples_decide (node other : Value) (examples along : List Value) (stores : node.StoresExamples examples)
    (storesToo : other.StoresExamples along) (beside : node.EqualBeside "examples" other) :
    node.equals other = (Value.tuple none examples).equalsPart (.tuple none along) := by
  obtain ⟨cls, fields, others, shown, shownToo, parts⟩ := beside
  obtain ⟨_, _, again, here⟩ := stores.field
  obtain ⟨_, _, againToo, there⟩ := storesToo.field
  cases shown.symm.trans again
  cases shownToo.symm.trans againToo
  exact records_decided node other "examples" cls fields others shown shownToo parts _ _ here there

-- A record with labels, made of arguments by its class or by its builder.
inductive Arguments.Labelling (args : Arguments) (node : Value) : Prop where
  | constructed (cls : RecordClass) (takes : "examples" ∈ cls.fields) (made : cls.construct args = .ok node)
  | built (builder : Builder) (takes : "examples" ∈ builder.parameters) (made : (builder.apply args).value = .ok node)

-- Labels are read before the other parts.
theorem stored_behind (labels : Labels) (part : Except Fault Value) (make : Value → Value) (node : Value)
    (stores : ∀ value, (make value).StoresExamples labels.examples)
    (made : (part.bind fun value => pure (make value)) = .ok node) : node.StoresExamples labels.examples := by
  cases part with
  | error fault => cases made
  | ok value =>
      obtain rfl := Except.ok.inj made
      exact stores value

theorem assembled_labels (cls : RecordClass) (args : Arguments) (node : Value) (takes : "examples" ∈ cls.fields)
    (made : cls.assemble args = .ok node) :
    ∃ labels, args.labels = .ok labels ∧ node.StoresExamples labels.examples := by
  cases read : args.labels with
  | error fault =>
      have failed : cls.assemble args = .error fault := by
        cases cls <;> first
          | exact absurd takes (by decide)
          | (rw [RecordClass.assemble, read]; rfl)
      cases failed.symm.trans made
  | ok labels =>
      refine ⟨labels, rfl, ?_⟩
      have stored {node : Value} {cls : RecordClass} {fields : List (String × Value)}
          (shown : node.record? = some (cls, fields))
          (field : fields.lookup "examples" = some (.tuple none labels.examples))
          (read : node.attribute "examples" = .ok (.tuple none labels.examples)) :
          node.StoresExamples labels.examples := ⟨⟨cls, fields, shown, field⟩, read⟩
      unfold RecordClass.assemble at made
      rw [read] at made
      cases cls with
      | object => exact stored_behind labels (args.tuple "properties") _ node (fun _ => stored rfl rfl rfl) made
      | array => cases made; exact stored rfl rfl rfl
      | string => exact stored_behind labels args.enum _ node (fun _ => stored rfl rfl rfl) made
      | integer => exact stored_behind labels args.enum _ node (fun _ => stored rfl rfl rfl) made
      | number => exact stored_behind labels args.enum _ node (fun _ => stored rfl rfl rfl) made
      | boolean => exact stored_behind labels args.enum _ node (fun _ => stored rfl rfl rfl) made
      | null => cases made; exact stored rfl rfl rfl
      | ref => cases made; exact stored rfl rfl rfl
      | combinator => exact stored_behind labels (args.tuple "sub_schemas") _ node (fun _ => stored rfl rfl rfl) made
      | _ => exact absurd takes (by decide)

theorem object_labels (args : Arguments) (node : Value) (made : args.objectSchema.value = .ok node) :
    ∃ labels, args.labels = .ok labels ∧ node.StoresExamples labels.examples := by
  unfold Arguments.objectSchema at made
  split at made
  · next labels _ _ _ read =>
      cases made
      exact ⟨labels, read, ⟨⟨_, _, rfl, rfl⟩, rfl⟩⟩
  · unfold Arguments.objectOfAny at made
    split at made
    · cases made
    · obtain ⟨labels, read, rfl⟩ := map_ok _ _ node made
      exact ⟨labels, read, ⟨⟨_, _, rfl, rfl⟩, rfl⟩⟩

theorem built_labels (builder : Builder) (args : Arguments) (node : Value) (takes : "examples" ∈ builder.parameters)
    (made : (builder.apply args).value = .ok node) :
    ∃ labels, args.labels = .ok labels ∧ node.StoresExamples labels.examples := by
  cases known : args.unexpected? builder.parameters with
  | some name =>
      unfold Builder.apply at made
      rw [known] at made
      cases made
  | none =>
      cases builder with
      | object =>
          rw [Builder.apply, known] at made
          exact object_labels args node made
      | reference =>
          rw [Builder.apply, known] at made
          exact assembled_labels .ref (("ref", args.getD "ref" (.text "")) :: args) node takes made
      | model => exact absurd takes (by decide)
      | stringFormat => exact absurd takes (by decide)
      | _ =>
          rw [apply_assembles _ args (by decide) known] at made
          dsimp only at made
          refine assembled_labels _ args node ?_ made
          exact takes

theorem labelling_stores (args : Arguments) (node : Value) (labelling : args.Labelling node) (examples : List Value)
    (listed : (args.iterable "examples").elements? = some examples) (nested : ∀ item ∈ examples, item.Nested) :
    node.StoresExamples (examples.map (Value.copyTo .fixed)) := by
  have stores : ∃ labels, args.labels = .ok labels ∧ node.StoresExamples labels.examples := by
    cases labelling with
    | constructed cls takes made =>
        rw [RecordClass.construct] at made
        cases accepted : cls.accepts args with
        | error fault =>
            rw [accepted] at made
            cases made
        | ok _ =>
            rw [accepted] at made
            exact assembled_labels cls args node takes made
    | built builder takes made => exact built_labels builder args node takes made
  obtain ⟨labels, read, stored⟩ := stores
  cases read.symm.trans (labels_ok args examples listed nested)
  exact stored

theorem tuple_respelled (examples samples : List Value)
    (each : List.Forall₂ Value.Respelled examples samples) :
    (Value.tuple none examples).Respelled (.tuple none samples) := by
  rw [Value.Respelled, Value.form, Value.form, Value.forms_eq_map, Value.forms_eq_map]
  refine .sequence _ _ _ _ (by simpa using each.length_eq) fun pair member => ?_
  rw [List.zip_map] at member
  obtain ⟨source, here, rfl⟩ := List.mem_map.mp member
  exact List.forall₂_zip each here

theorem labelled_answer (args others : Arguments) (node other : Value) (examples samples : List Value)
    (labelling : args.Labelling node) (labellingToo : others.Labelling other)
    (listed : (args.iterable "examples").elements? = some examples)
    (listedToo : (others.iterable "examples").elements? = some samples) (known : ∀ item ∈ examples, item.Comparable)
    (knownToo : ∀ item ∈ samples, item.Comparable) (beside : node.EqualBeside "examples" other) :
    ∃ stored kept answer, node.attribute "examples" = .ok stored ∧ other.attribute "examples" = .ok kept ∧
      node.equals other = .ok answer ∧ stored.thawedEquals kept = .ok answer ∧
      (List.Forall₂ Value.Respelled examples samples → answer = true) := by
  have left : (Value.tuple none examples).Comparable := .tuple none examples known
  have right : (Value.tuple none samples).Comparable := .tuple none samples knownToo
  have nested := comparable_nested _ left
  have nestedToo := comparable_nested _ right
  have stores := labelling_stores args node labelling examples listed fun item member =>
    comparable_nested item (known item member)
  have storesToo := labelling_stores others other labellingToo samples listedToo fun item member =>
    comparable_nested item (knownToo item member)
  obtain ⟨answer, copies⟩ := copies_answer _ _ left right
  have frozen := copies.frozen
  rw [frozen_equals_copies _ _ nested nestedToo, ← copies_equal_part .fixed _ _ left right, copy_tuple,
    copy_tuple] at frozen
  have thawed := (stored_thawed _ _ nested nestedToo).trans copies.thawed
  rw [copy_tuple, copy_tuple] at thawed
  exact ⟨_, _, answer, stores.shown, storesToo.shown,
    (examples_decide node other _ _ stores storesToo beside).trans frozen, thawed,
    fun each => copies.respelled (tuple_respelled examples samples each)⟩

theorem stored_equality_is_raw :
    (∀ a b : Value, a.Comparable → b.Comparable → ∃ answer, CopiesAnswer a b answer) ∧
    (∀ a b : Value, a.Comparable → b.Comparable →
      ∃ node other stored kept answer, a.CarriedBy node ∧ b.CarriedBy other ∧ node.attribute "value" = .ok stored ∧
        other.attribute "value" = .ok kept ∧ node.equals other = .ok answer ∧ stored.thawedEquals kept = .ok answer ∧
        CopiesAnswer a b answer) ∧
    ∀ (args others : Arguments) (node other : Value) (examples samples : List Value), args.Labelling node →
      others.Labelling other → (args.iterable "examples").elements? = some examples →
      (others.iterable "examples").elements? = some samples → (∀ item ∈ examples, item.Comparable) →
      (∀ item ∈ samples, item.Comparable) → node.EqualBeside "examples" other →
      ∃ stored kept answer, node.attribute "examples" = .ok stored ∧ other.attribute "examples" = .ok kept ∧
        node.equals other = .ok answer ∧ stored.thawedEquals kept = .ok answer ∧
        (List.Forall₂ Value.Respelled examples samples → answer = true) :=
  ⟨copies_answer, carried_answer, labelled_answer⟩

-- A table in a sequence, with a sequence in it that is spelled in its own way.
def spelledCell (outer inner : Access) : Value := outer.mapping [(.text "x", inner.sequence [.int 1])]

def spelledRow (outer inner : Access) : Value := outer.sequence [spelledCell outer inner]

theorem sequence_comparable (access : Access) (item : Value) (comparable : item.Comparable) :
    (access.sequence [item]).Comparable := by
  cases access with
  | editable => exact .list none _ (List.forall_mem_singleton.mpr comparable)
  | fixed => exact .tuple none _ (List.forall_mem_singleton.mpr comparable)

theorem spelled_row_comparable (outer inner : Access) : (spelledRow outer inner).Comparable := by
  have key : ∀ entry ∈ [(Value.text "x", inner.sequence [.int 1])], entry.1.Comparable :=
    List.forall_mem_singleton.mpr (.scalar (.text "x") nofun)
  have below : ∀ entry ∈ [(Value.text "x", inner.sequence [.int 1])], entry.2.Comparable :=
    List.forall_mem_singleton.mpr (sequence_comparable inner _ (.scalar (.int 1) nofun))
  refine sequence_comparable outer _ ?_
  cases outer with
  | editable => exact .table none _ key below (List.pairwise_singleton _ _)
  | fixed => exact .frozen none _ key below (List.pairwise_singleton _ _)

theorem spelled_rows_respelled (outer inner other another : Access) :
    (spelledRow outer inner).Respelled (spelledRow other another) := by
  have below : (inner.sequence [.int 1]).Respelled (another.sequence [.int 1]) := by
    rw [Value.Respelled, sequence_form, sequence_form]
    exact .sequence _ _ _ _ rfl (List.forall_mem_singleton.mpr (.refl _))
  have cell : (spelledCell outer inner).Respelled (spelledCell other another) := by
    rw [Value.Respelled, spelledCell, spelledCell, mapping_form, mapping_form]
    exact .mapping _ _ _ _ rfl (List.forall_mem_singleton.mpr rfl) (List.forall_mem_singleton.mpr below)
  rw [Value.Respelled, spelledRow, spelledRow, sequence_form, sequence_form]
  exact .sequence _ _ _ _ rfl (List.forall_mem_singleton.mpr cell)

theorem respelled_rows_equal :
    (spelledRow .editable .fixed).frozenEquals (spelledRow .fixed .editable) = .ok true ∧
    (spelledRow .editable .fixed).thawedEquals (spelledRow .fixed .editable) = .ok true ∧
    (∃ node other, (spelledRow .editable .fixed).CarriedBy node ∧ (spelledRow .fixed .editable).CarriedBy other ∧
      node.equals other = .ok true) ∧
    ∃ node other, (Builder.null.apply [("examples", .list none [spelledRow .editable .fixed])]).value = .ok node ∧
      RecordClass.null.construct [("examples", .tuple none [spelledRow .fixed .editable])] = .ok other ∧
      node.equals other = .ok true := by
  obtain ⟨copies, carried, labelled⟩ := stored_equality_is_raw
  have left := spelled_row_comparable .editable .fixed
  have right := spelled_row_comparable .fixed .editable
  have respelled := spelled_rows_respelled .editable .fixed .fixed .editable
  obtain ⟨answer, first⟩ := copies _ _ left right
  obtain rfl := first.respelled respelled
  obtain ⟨node, other, _, _, answer, makes, makesToo, _, _, compared, _, second⟩ := carried _ _ left right
  obtain rfl := second.respelled respelled
  refine ⟨first.frozen, first.thawed, ⟨node, other, makes, makesToo, compared⟩, _, _, rfl, rfl, ?_⟩
  have beside : Value.EqualBeside "examples" (.schema none (.null (.of .null .null [spelledRow .editable .fixed])))
      (.schema none (.null (.of .null .null [spelledRow .fixed .editable]))) :=
    ⟨.null, _, _, rfl, rfl, .cons ⟨rfl, fun _ => equals_part_self .null⟩ (.cons ⟨rfl, fun _ => equals_part_self .null⟩
      (.cons ⟨rfl, fun different => absurd rfl different⟩ .nil))⟩
  obtain ⟨_, _, answer, _, _, same, _, alike⟩ := labelled [("examples", .list none [spelledRow .editable .fixed])]
    [("examples", .tuple none [spelledRow .fixed .editable])] _ _ _ _ (.built .null (by decide) rfl)
    (.constructed .null (by decide) rfl) rfl rfl (List.forall_mem_singleton.mpr left)
    (List.forall_mem_singleton.mpr right) beside
  exact same.trans (congrArg Except.ok (alike (.cons respelled .nil)))

end Schemata
