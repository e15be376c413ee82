import Schemata.Proofs.Partition

set_option autoImplicit false

/-!
Nodes taken apart and built again. Every node is read field by field, raw values are thawed, children are
rebuilt first, and then the builder of its kind or its record class is called with the parts. What comes out
has the same form as the node, so accessors and builders together lose nothing.
-/

namespace Schemata

-- How nodes are built again: by builders, which keep or sort the order of keys, or all but objects by
-- their classes, with lists in place of tuples.
structure Manner where
  direct : Bool
  order : KeyOrder

namespace Manner

-- The sorted order is the default.
def settings (m : Manner) : Value :=
  match m.order with
  | .sorted => .null
  | .insertion => Config.toSettings { keyOrder := .insertion }

def make (m : Manner) (builder : Builder) (args : Arguments) : Except Fault Value :=
  if m.direct then builder.recordClass.construct args else (builder.apply args).value

def sequence (m : Manner) : Value → Value
  | .tuple handle items => if m.direct then .list none items else .tuple handle items
  | value => value

-- Names that come back in the same order.
def Keeps (m : Manner) (names : List String) : Prop :=
  match m.order with
  | .sorted => names.Pairwise (· < ·)
  | .insertion => names.Nodup

end Manner

def Labels.given (labels : Labels) : Except Fault Arguments := do
  return [("title", labels.title), ("description", labels.description),
    ("examples", ← (Value.tuple none labels.examples).thawedCopy)]

def Bounds.given (bounds : Bounds) : Arguments :=
  [("minimum", bounds.minimum), ("maximum", bounds.maximum), ("exclusive_minimum", bounds.exclusiveMinimum),
   ("exclusive_maximum", bounds.exclusiveMaximum), ("multiple_of", bounds.multipleOf)]

mutual
def Value.rebuilt (m : Manner) : Value → Except Fault Value
  | .schema _ s => s.rebuilt m
  | .combinator _ c => c.rebuilt m
  | .model _ document => document.rebuilt m
  | value => .ok value
def Schema.rebuilt (m : Manner) : Schema → Except Fault Value
  | .object labels properties low high => do
    let children ← properties.rebuiltProperties m
    (Builder.object.apply ((← labels.given) ++
      [("properties", .table none (← Value.tableOf children)),
       ("required", ← Value.requiredNamesOfItems properties), ("min_properties", low), ("max_properties", high),
       ("config", m.settings)])).value
  | .array labels items low high => do
    m.make .array ((← labels.given) ++ [("items", ← items.rebuilt m), ("min_items", low), ("max_items", high)])
  | .string labels enum low high pattern format => do
    m.make .string ((← labels.given) ++
      [("enum", m.sequence enum), ("min_length", low), ("max_length", high), ("pattern", pattern), ("format", format)])
  | .integer labels enum bounds => do
    m.make .integer ((← labels.given) ++ ("enum", m.sequence enum) :: bounds.given)
  | .number labels enum bounds => do
    m.make .number ((← labels.given) ++ ("enum", m.sequence enum) :: bounds.given)
  | .boolean labels enum => do m.make .boolean ((← labels.given) ++ [("enum", m.sequence enum)])
  | .null labels => do m.make .null (← labels.given)
  | .ref labels token => do m.make .reference ((← labels.given) ++ [("ref", token)])
  | .combined mode combinator => do
    let inner ← combinator.rebuilt m
    match mode with
    | .oneOf => m.make .oneOf [("combinator", inner)]
    | .anyOf => m.make .anyOf [("combinator", inner)]
    | .allOf => m.make .allOf [("combinator", inner)]
  | .fallback value => do m.make .fallback [("value", ← value.thawedCopy)]
def Combinator.rebuilt (m : Manner) : Combinator → Except Fault Value
  | ⟨labels, subSchemas⟩ => do
    m.make .combinator ((← labels.given) ++ [("sub_schemas", .list none (← subSchemas.rebuiltAlternatives m))])
def Model.rebuilt (m : Manner) : Model → Except Fault Value
  | ⟨definitions, root⟩ => do
    let definitions ← Value.tableOf (← Value.rebuiltEntries m definitions)
    m.make .model ([("definitions", .table none definitions), ("root", ← root.rebuilt m)] ++
      if m.direct then [] else [("config", m.settings)])
def Value.rebuiltAlternatives (m : Manner) : Value → Except Fault (List Value)
  | .tuple _ items => Value.rebuiltItems m items
  | value => .error value.refuseElements
def Value.rebuiltItems (m : Manner) : List Value → Except Fault (List Value)
  | [] => .ok []
  | item :: rest => do return (← item.rebuilt m) :: (← Value.rebuiltItems m rest)
-- The mapping from names to rebuilt children.
def Value.rebuiltProperties (m : Manner) : Value → Except Fault (List (Value × Value))
  | .tuple _ items => Value.rebuiltTargets m items
  | value => .error value.refuseElements
def Value.rebuiltTargets (m : Manner) : List Value → Except Fault (List (Value × Value))
  | [] => .ok []
  | .property _ ⟨_, name, child⟩ :: rest => do
    return (name, ← child.rebuilt m) :: (← Value.rebuiltTargets m rest)
  | value :: _ => .error (value.refuseCall "name")
def Value.rebuiltEntries (m : Manner) : List (Value × Value) → Except Fault (List (Value × Value))
  | [] => .ok []
  | (name, value) :: rest => do return (name, ← value.rebuilt m) :: (← Value.rebuiltEntries m rest)
end

-- An enumeration is absent or a tuple, which may be empty.
def Value.IsEnum (value : Value) : Prop := value = .null ∨ ∃ handle items, value = .tuple handle items

-- A property under a plain text.
def Value.IsNamed : Value → Prop
  | .property _ p => ∃ name, p.name = .text name
  | _ => False

def Labels.Fixed (labels : Labels) : Prop := ∀ item ∈ labels.examples, item.Fixed

-- The fields of a node are of their sorts, and the names of an object come back in their order.
def Schema.Restorable (m : Manner) : Schema → Prop
  | .object labels (.tuple _ items) _ _ =>
    labels.Fixed ∧ (∀ item ∈ items, item.IsNamed) ∧ m.Keeps (items.map Value.spelling)
  | .object .. => False
  | .array labels .. => labels.Fixed
  | .string labels enum .. => labels.Fixed ∧ enum.IsEnum
  | .integer labels enum _ => labels.Fixed ∧ enum.IsEnum
  | .number labels enum _ => labels.Fixed ∧ enum.IsEnum
  | .boolean labels enum => labels.Fixed ∧ enum.IsEnum
  | .null labels => labels.Fixed
  | .ref labels _ => labels.Fixed
  | .combined _ (.combinator _ c) => c.labels.Fixed
  | .combined .. => False
  | .fallback value => value.Fixed

-- Building the parts of a value again gives the same form.
def Value.Restored (m : Manner) (value : Value) : Prop :=
  ∃ result, value.rebuilt m = .ok result ∧ result.form = value.form

-- The labels that come out of those that are read.
def Labels.again (labels : Labels) : Labels :=
  .of labels.title labels.description (labels.examples.map Value.thaw)

theorem labels_again (labels : Labels) (fixed : labels.Fixed) : labels.again.fieldForms = labels.fieldForms := by
  have examples : Value.forms ((labels.examples.map Value.thaw).map Value.freeze) = Value.forms labels.examples := by
    rw [Value.forms_eq_map, Value.forms_eq_map, List.map_map, List.map_map]
    exact List.map_congr_left fun item member => freeze_thawed item (fixed item member)
  obtain ⟨title, description, stored⟩ := labels
  rw [Labels.again, Labels.of, Labels.fieldForms, examples]
  rfl

-- What labels are given to a builder as.
def Labels.thawed (labels : Labels) : Arguments :=
  [("title", labels.title), ("description", labels.description),
    ("examples", .list none (labels.examples.map Value.thaw))]

theorem labels_given (labels : Labels) (fixed : labels.Fixed) : labels.given = .ok labels.thawed := by
  have nested : (Value.tuple none labels.examples).Nested :=
    .tuple none _ fun item member => fixed_nested item (fixed item member)
  rw [Labels.given, thawed_copy_ok _ nested, Value.thaw, thaw_items_map]
  rfl

theorem labels_taken (labels : Labels) (fixed : labels.Fixed) (others : Arguments) :
    Arguments.labels (labels.thawed ++ others) = .ok labels.again :=
  labels_ok _ (labels.examples.map Value.thaw) rfl
    (List.forall_mem_map.mpr fun item member => thawed_nested item (fixed item member))

theorem accepts_known (cls : RecordClass) (args : Arguments) (accepted : cls.accepts args = .ok ()) :
    args.unexpected? cls.fields = none := by
  rw [RecordClass.accepts] at accepted
  cases unexpected : args.unexpected? cls.fields with
  | none => rfl
  | some name =>
      rw [unexpected] at accepted
      cases accepted

-- A builder that only assembles its record does so with arguments that the record accepts.
theorem make_assembles (m : Manner) (builder : Builder) (args : Arguments) (node : Value)
    (plain : builder ∉ [Builder.object, Builder.model, Builder.stringFormat, Builder.reference])
    (accepted : builder.recordClass.accepts args = .ok ())
    (assembled : builder.recordClass.assemble args = .ok node) : m.make builder args = .ok node := by
  have known := accepts_known builder.recordClass args accepted
  have parameters : builder.parameters = builder.recordClass.fields := by
    cases builder with
    | object => exact absurd plain (by decide)
    | model => exact absurd plain (by decide)
    | _ => rfl
  rw [Manner.make]
  cases m.direct with
  | true =>
      rw [if_pos rfl, RecordClass.construct, accepted]
      exact assembled
  | false =>
      rw [if_neg Bool.false_ne_true, apply_assembles builder args plain (parameters ▸ known)]
      exact assembled

-- The same where the labels of a node are read for the arguments.
theorem labelled_assembles (m : Manner) (labels : Labels) (fixed : labels.Fixed) (builder : Builder)
    (others : Arguments) (node : Value)
    (plain : builder ∉ [Builder.object, Builder.model, Builder.stringFormat, Builder.reference])
    (accepted : builder.recordClass.accepts (labels.thawed ++ others) = .ok ())
    (assembled : builder.recordClass.assemble (labels.thawed ++ others) = .ok node) :
    (do m.make builder ((← labels.given) ++ others)) = .ok node := by
  rw [labels_given labels fixed]
  exact make_assembles m builder _ node plain accepted assembled

theorem enum_again (m : Manner) (enum : Value) (sort : enum.IsEnum) :
    ∃ again, again.form = enum.form ∧ ∀ (labels : Labels) (others : Arguments),
      Arguments.enum (labels.thawed ++ ("enum", m.sequence enum) :: others) = .ok again := by
  rcases sort with rfl | ⟨handle, items, rfl⟩
  · exact ⟨.null, rfl, fun _ _ => rfl⟩
  · rw [Manner.sequence]
    cases m.direct with
    | true => exact ⟨.tuple none items, rfl, fun _ _ => rfl⟩
    | false => exact ⟨.tuple handle items, rfl, fun _ _ => rfl⟩

theorem bounds_again (labels : Labels) (enum : Value) (bounds : Bounds) :
    Arguments.bounds (labels.thawed ++ ("enum", enum) :: bounds.given) = bounds := by
  cases bounds
  rfl

section Nodes

variable (m : Manner) (handle : Handle)

theorem array_restored (labels : Labels) (items low high : Value) (fixed : labels.Fixed)
    (below : items.Restored m) : (Value.schema handle (.array labels items low high)).Restored m := by
  obtain ⟨again, rebuilt, same⟩ := below
  refine ⟨.schema none (.array labels.again again low high), ?_, ?_⟩
  · rw [Value.rebuilt, Schema.rebuilt, labels_given labels fixed, rebuilt]
    refine make_assembles m .array _ _ (by decide) rfl ?_
    rw [Builder.recordClass, RecordClass.assemble, labels_taken labels fixed]
    rfl
  · rw [Value.form, Value.form, Schema.fieldForms, Schema.fieldForms, labels_again labels fixed, same]
    rfl

theorem string_restored (labels : Labels) (enum low high pattern format : Value) (fixed : labels.Fixed)
    (sort : enum.IsEnum) : (Value.schema handle (.string labels enum low high pattern format)).Restored m := by
  obtain ⟨again, same, taken⟩ := enum_again m enum sort
  refine ⟨.schema none (.string labels.again again low high pattern format), ?_, ?_⟩
  · refine labelled_assembles m labels fixed .string _ _ (by decide) rfl ?_
    rw [Builder.recordClass, RecordClass.assemble, labels_taken labels fixed, taken]
    rfl
  · rw [Value.form, Value.form, Schema.fieldForms, Schema.fieldForms, labels_again labels fixed, same]
    rfl

theorem integer_restored (labels : Labels) (enum : Value) (bounds : Bounds) (fixed : labels.Fixed)
    (sort : enum.IsEnum) : (Value.schema handle (.integer labels enum bounds)).Restored m := by
  obtain ⟨again, same, taken⟩ := enum_again m enum sort
  refine ⟨.schema none (.integer labels.again again bounds), ?_, ?_⟩
  · refine labelled_assembles m labels fixed .integer _ _ (by decide) rfl ?_
    rw [Builder.recordClass, RecordClass.assemble, labels_taken labels fixed, taken, bounds_again]
    rfl
  · rw [Value.form, Value.form, Schema.fieldForms, Schema.fieldForms, labels_again labels fixed, same]
    rfl

theorem number_restored (labels : Labels) (enum : Value) (bounds : Bounds) (fixed : labels.Fixed)
    (sort : enum.IsEnum) : (Value.schema handle (.number labels enum bounds)).Restored m := by
  obtain ⟨again, same, taken⟩ := enum_again m enum sort
  refine ⟨.schema none (.number labels.again again bounds), ?_, ?_⟩
  · refine labelled_assembles m labels fixed .number _ _ (by decide) rfl ?_
    rw [Builder.recordClass, RecordClass.assemble, labels_taken labels fixed, taken, bounds_again]
    rfl
  · rw [Value.form, Value.form, Schema.fieldForms, Schema.fieldForms, labels_again labels fixed, same]
    rfl

theorem boolean_restored (labels : Labels) (enum : Value) (fixed : labels.Fixed) (sort : enum.IsEnum) :
    (Value.schema handle (.boolean labels enum)).Restored m := by
  obtain ⟨again, same, taken⟩ := enum_again m enum sort
  refine ⟨.schema none (.boolean labels.again again), ?_, ?_⟩
  · refine labelled_assembles m labels fixed .boolean _ _ (by decide) rfl ?_
    rw [Builder.recordClass, RecordClass.assemble, labels_taken labels fixed, taken]
    rfl
  · rw [Value.form, Value.form, Schema.fieldForms, Schema.fieldForms, labels_again labels fixed, same]
    rfl

theorem null_restored (labels : Labels) (fixed : labels.Fixed) :
    (Value.schema handle (.null labels)).Restored m := by
  refine ⟨.schema none (.null labels.again), ?_, ?_⟩
  · change (do m.make .null (← labels.given)) = _
    rw [labels_given labels fixed]
    refine make_assembles m .null _ _ (by decide) rfl ?_
    have taken := labels_taken labels fixed []
    rw [List.append_nil] at taken
    rw [Builder.recordClass, RecordClass.assemble, taken]
    rfl
  · rw [Value.form, Value.form, Schema.fieldForms, Schema.fieldForms, labels_again labels fixed]
    rfl

theorem ref_restored (labels : Labels) (token : Value) (fixed : labels.Fixed) :
    (Value.schema handle (.ref labels token)).Restored m := by
  have assembled (others : Arguments) (read : Arguments.labels others = .ok labels.again)
      (named : others.get "ref" = token) :
      RecordClass.ref.assemble others = .ok (.schema none (.ref labels.again token)) := by
    rw [RecordClass.assemble, read, named]
    rfl
  have read := labels_taken labels fixed [("ref", token)]
  refine ⟨.schema none (.ref labels.again token), ?_, ?_⟩
  · change (do m.make .reference ((← labels.given) ++ [("ref", token)])) = _
    rw [labels_given labels fixed]
    change m.make .reference (labels.thawed ++ [("ref", token)]) = _
    rw [Manner.make]
    cases m.direct with
    | true => exact assembled _ read rfl
    | false => exact assembled (("ref", token) :: _) read rfl
  · rw [Value.form, Value.form, Schema.fieldForms, Schema.fieldForms, labels_again labels fixed]
    rfl

theorem fallback_restored (value : Value) (fixed : value.Fixed) :
    (Value.schema handle (.fallback value)).Restored m := by
  have checked := check_nested value.thaw (thawed_nested value fixed)
  refine ⟨.schema none (.fallback value.thaw.freeze), ?_, ?_⟩
  · rw [Value.rebuilt, Schema.rebuilt, thawed_copy_ok value (fixed_nested value fixed)]
    refine make_assembles m .fallback _ _ (by decide) rfl ?_
    change RecordClass.assemble .fallback [("value", value.thaw)] = _
    rw [RecordClass.assemble]
    change (do value.thaw.checkCopy; _) = _
    rw [checked]
    rfl
  · rw [Value.form, Value.form, Schema.fieldForms, Schema.fieldForms, freeze_thawed value fixed]
    rfl

theorem items_restored (items : List Value) (below : ∀ item ∈ items, item.Restored m) :
    ∃ results, Value.rebuiltItems m items = .ok results ∧ Value.forms results = Value.forms items := by
  induction items with
  | nil => exact ⟨[], rfl, rfl⟩
  | cons item rest hypothesis =>
      obtain ⟨again, rebuilt, same⟩ := below item List.mem_cons_self
      obtain ⟨others, later, sameLater⟩ :=
        hypothesis fun other member => below other (List.mem_cons_of_mem item member)
      refine ⟨again :: others, ?_, ?_⟩
      · rw [Value.rebuiltItems, rebuilt, later]
        rfl
      · rw [Value.forms, Value.forms, same, sameLater]

theorem combined_restored (mode : Mode) (outer inner : Handle) (labels : Labels) (alternatives : List Value)
    (fixed : labels.Fixed) (below : ∀ item ∈ alternatives, item.Restored m) :
    (Value.schema handle (.combined mode (.combinator outer ⟨labels, .tuple inner alternatives⟩))).Restored m := by
  obtain ⟨again, rebuilt, same⟩ := items_restored m alternatives below
  have combinator : Combinator.rebuilt m ⟨labels, .tuple inner alternatives⟩ =
      .ok (.combinator none ⟨labels.again, .tuple none again⟩) := by
    rw [Combinator.rebuilt, labels_given labels fixed, Value.rebuiltAlternatives, rebuilt]
    refine make_assembles m .combinator _ _ (by decide) rfl ?_
    rw [Builder.recordClass, RecordClass.assemble, labels_taken labels fixed]
    rfl
  refine ⟨.schema none (.combined mode (.combinator none ⟨labels.again, .tuple none again⟩)), ?_, ?_⟩
  · rw [Value.rebuilt, Schema.rebuilt, Value.rebuilt, combinator]
    cases mode with
    | oneOf => exact make_assembles m .oneOf _ _ (by decide) rfl rfl
    | anyOf => exact make_assembles m .anyOf _ _ (by decide) rfl rfl
    | allOf => exact make_assembles m .allOf _ _ (by decide) rfl rfl
  · have form : Combinator.form ⟨labels.again, .tuple none again⟩ =
        Combinator.form ⟨labels, .tuple inner alternatives⟩ := by
      rw [Combinator.form, Combinator.form, labels_again labels fixed, Value.form, Value.form, same]
    rw [Value.form, Value.form, Schema.fieldForms, Schema.fieldForms, Value.form, Value.form, form]
    rfl

theorem targets_restored (items : List Value) (named : ∀ item ∈ items, item.IsNamed)
    (below : ∀ item ∈ items, item.target.Restored m) :
    ∃ entries, Value.rebuiltTargets m items = .ok (underTexts entries) ∧
      List.Forall₂ (fun item entry => item.spelling = entry.1 ∧ item.target.form = entry.2.form) items entries := by
  induction items with
  | nil => exact ⟨[], rfl, .nil⟩
  | cons item rest hypothesis =>
      obtain ⟨entries, later, same⟩ :=
        hypothesis (fun other member => named other (List.mem_cons_of_mem item member))
          fun other member => below other (List.mem_cons_of_mem item member)
      have here := named item List.mem_cons_self
      cases item with
      | property handle p =>
          obtain ⟨required, key, child⟩ := p
          obtain ⟨name, rfl⟩ := here
          obtain ⟨again, rebuilt, sameHere⟩ := below _ List.mem_cons_self
          refine ⟨(name, again) :: entries, ?_, .cons ⟨rfl, sameHere.symm⟩ same⟩
          have first : child.rebuilt m = .ok again := rebuilt
          rw [Value.rebuiltTargets, first, later]
          rfl
      | _ => exact absurd here id

end Nodes

theorem required_of_named (items : List Value) (named : ∀ item ∈ items, item.IsNamed) :
    Value.requiredNames items =
      .ok (((items.filter Value.isRequired).map Value.spelling).map Value.text) := by
  induction items with
  | nil => rfl
  | cons item rest hypothesis =>
      have later := hypothesis fun other member => named other (List.mem_cons_of_mem item member)
      have here := named item List.mem_cons_self
      cases item with
      | property handle p =>
          obtain ⟨required, key, child⟩ := p
          obtain ⟨name, rfl⟩ := here
          have read : (Value.property handle ⟨required, .text name, child⟩).attribute "is_required" =
            .ok (.bool required) := rfl
          rw [Value.requiredNames, later, read, List.filter_cons]
          cases required with
          | true => rfl
          | false => rfl
      | _ => exact absurd here id

theorem kept_distinct (m : Manner) (names : List String) (kept : m.Keeps names) : names.Nodup := by
  rw [Manner.Keeps] at kept
  cases order : m.order with
  | sorted =>
      rw [order] at kept
      exact List.nodup_iff_pairwise_ne.mpr (kept.imp fun less => String.ne_of_lt less)
  | insertion =>
      rw [order] at kept
      exact kept

theorem kept_order (m : Manner) (config : Config) (asked : config.keyOrder = m.order)
    (entries : List (String × Value)) (kept : m.Keeps (entries.map Prod.fst)) : config.order entries = entries := by
  rw [Config.order, asked]
  rw [Manner.Keeps] at kept
  cases order : m.order with
  | sorted =>
      rw [order] at kept
      have upward : entries.Pairwise fun a b => decide (a.1 ≤ b.1) = true :=
        (List.pairwise_map.mp kept).imp fun less => decide_eq_true (String.not_lt.mp (String.lt_asymm less))
      exact List.mergeSort_of_pairwise upward
  | insertion => rfl

theorem put_text (name : String) (value : Value) (entries : List (String × Value))
    (absent : name ∉ entries.map Prod.fst) :
    putEntry (.text name) value (underTexts entries) = underTexts (entries ++ [(name, value)]) := by
  induction entries with
  | nil => rfl
  | cons entry rest hypothesis =>
      rw [List.map_cons, List.mem_cons, not_or] at absent
      have other : (Value.text entry.1 == Value.text name) = false := by
        refine Bool.eq_false_iff.mpr fun alike => absent.1 ?_
        rcases (fits_iff (.scalar (.text entry.1)) (.scalar (.text name))).mp alike with one | same
        · exact (Scalar.text.inj (Form.scalar.inj one)).symm
        · exact (Option.some.inj (eq_of_beq ((same_scalars (.text entry.1) (.text name)).symm.trans same))).symm
      change putEntry (.text name) value ((.text entry.1, entry.2) :: underTexts rest) = _
      rw [putEntry, other, hypothesis absent.2]
      rfl

-- Entries under texts that are all different make the table that they are.
theorem table_of_texts (entries : List (String × Value)) (distinct : DistinctKeys entries) :
    Value.tableOf (underTexts entries) = .ok (underTexts entries) := by
  suffices grown : ∀ before : List (String × Value), DistinctKeys (before ++ entries) →
      (underTexts entries).foldlM (fun table pair => Value.putKey pair.1 pair.2 table) (underTexts before) =
        .ok (underTexts (before ++ entries)) from grown [] distinct
  clear distinct
  induction entries with
  | nil =>
      intro before _
      rw [List.append_nil]
      rfl
  | cons entry rest hypothesis =>
      intro before distinct
      have absent : entry.1 ∉ before.map Prod.fst := by
        rw [DistinctKeys, List.map_append, List.nodup_append] at distinct
        exact fun member => distinct.2.2 entry.1 member entry.1 List.mem_cons_self rfl
      have put : Value.putKey (.text entry.1) entry.2 (underTexts before) = .ok (underTexts (before ++ [entry])) :=
        congrArg Except.ok (put_text entry.1 entry.2 before absent)
      rw [List.append_cons] at distinct ⊢
      change (Value.putKey (.text entry.1) entry.2 (underTexts before) >>= _) = _
      rw [put]
      exact hypothesis (before ++ [entry]) distinct

theorem spelling_decides (items : List Value) (distinct : (items.map Value.spelling).Nodup) (item : Value)
    (member : item ∈ items) :
    decide (item.spelling ∈ (items.filter Value.isRequired).map Value.spelling) = item.isRequired := by
  have found := find_distinct Value.spelling items distinct
  rw [Bool.eq_iff_iff, decide_eq_true_iff, List.mem_map]
  constructor
  · rintro ⟨other, kept, same⟩
    obtain ⟨otherMember, required⟩ := List.mem_filter.mp kept
    have here := found item member
    rw [← same, found other otherMember] at here
    exact Option.some.inj here ▸ required
  · exact fun required => ⟨item, List.mem_filter.mpr ⟨member, required⟩, rfl⟩

theorem key_property_form (item : Value) (named : item.IsNamed) (required : List String) (schema : Value)
    (decided : decide (item.spelling ∈ required) = item.isRequired) (same : item.target.form = schema.form) :
    (keyProperty required item.spelling schema).form = item.form := by
  cases item with
  | property handle p =>
      obtain ⟨flag, key, child⟩ := p
      obtain ⟨name, rfl⟩ := named
      have flagged : decide (name ∈ required) = flag := decided
      change Property.form ⟨decide (name ∈ required), .text name, schema⟩ =
        Property.form ⟨flag, .text name, child⟩
      rw [flagged, Property.form, Property.form, ← same]
      rfl
  | _ => exact absurd named id

theorem key_property_forms (required : List String) (items : List Value) (entries : List (String × Value))
    (named : ∀ item ∈ items, item.IsNamed)
    (decided : ∀ item ∈ items, decide (item.spelling ∈ required) = item.isRequired)
    (same : List.Forall₂ (fun item entry => item.spelling = entry.1 ∧ item.target.form = entry.2.form) items entries) :
    Value.forms (entries.map fun entry => keyProperty required entry.1 entry.2) = Value.forms items := by
  induction same with
  | nil => rfl
  | @cons item entry rest others here _ hypothesis =>
      have later := hypothesis (fun other member => named other (List.mem_cons_of_mem item member))
        fun other member => decided other (List.mem_cons_of_mem item member)
      have first := key_property_form item (named item List.mem_cons_self) required entry.2
        (decided item List.mem_cons_self) here.2
      rw [List.map_cons, Value.forms, Value.forms, later, ← here.1, first]

theorem settings_asked (m : Manner) : m.settings.AsksFor m.order := by
  rw [Manner.settings]
  cases m.order with
  | sorted => exact .inl ⟨rfl, rfl⟩
  | insertion => exact .inr ⟨_, _, rfl, rfl⟩

theorem object_restored (m : Manner) (handle inner : Handle) (labels : Labels) (items : List Value) (low high : Value)
    (fixed : labels.Fixed) (named : ∀ item ∈ items, item.IsNamed) (kept : m.Keeps (items.map Value.spelling))
    (below : ∀ item ∈ items, item.target.Restored m) :
    (Value.schema handle (.object labels (.tuple inner items) low high)).Restored m := by
  obtain ⟨entries, rebuilt, same⟩ := targets_restored m items named below
  have keys : items.map Value.spelling = entries.map Prod.fst := by
    rw [← List.forall₂_eq_eq_eq, List.forall₂_map_left_iff, List.forall₂_map_right_iff]
    exact same.imp fun _ _ here => here.1
  have once := kept_distinct m _ kept
  have distinct : DistinctKeys entries := by
    rw [DistinctKeys, ← keys]
    exact once
  let required := (items.filter Value.isRequired).map Value.spelling
  let args : Arguments := labels.thawed ++
    [("properties", .table none (underTexts entries)), ("required", .tuple none (required.map Value.text)),
      ("min_properties", low), ("max_properties", high), ("config", m.settings)]
  have nested : ∀ item ∈ labels.examples.map Value.thaw, item.Nested :=
    List.forall_mem_map.mpr fun item member => thawed_nested item (fixed item member)
  have call : args.CallsObject entries required m.order :=
    ⟨rfl, rfl, distinct, ⟨_, rfl, texts_of_names required⟩, ⟨_, rfl, nested⟩, settings_asked m⟩
  obtain ⟨config, _, asked, built⟩ := object_call_with args entries required m.order call _ rfl nested
  refine ⟨.schema none (.ofEntries labels.again entries required low high config), ?_, ?_⟩
  · rw [Value.rebuilt, Schema.rebuilt, Value.rebuiltProperties, rebuilt, labels_given labels fixed]
    change (do
      let table ← Value.tableOf (underTexts entries)
      let names ← (Value.requiredNames items).map (Value.tuple none)
      (Builder.object.apply (labels.thawed ++ [("properties", Value.table none table), ("required", names),
        ("min_properties", low), ("max_properties", high), ("config", m.settings)])).value) = _
    rw [table_of_texts entries distinct, required_of_named items named]
    exact congrArg Reported.value built
  · have forms := key_property_forms required items entries named (spelling_decides items once) same
    rw [Schema.ofEntries, kept_order m config asked entries (keys ▸ kept), split_map, Value.form, Value.form,
      Schema.fieldForms, Schema.fieldForms, labels_again labels fixed, Value.form, Value.form, forms]
    rfl

theorem array_items_restored (m : Manner) (labels : Labels) (items low high : Value)
    (below : ∀ child ∈ (Schema.array labels items low high).offspring, child.2.Restored m) : items.Restored m := by
  cases items with
  | scalar content => exact ⟨.scalar content, rfl, rfl⟩
  | _ => exact below _ List.mem_cons_self

theorem branch_member (mode : Mode) (start : Nat) (values : List Value) (value : Value) (member : value ∈ values) :
    ∃ child ∈ branches mode start values, child.2 = value := by
  obtain ⟨index, here⟩ := List.mem_iff_getElem?.mp member
  have child := branch_at mode start values index
  rw [here] at child
  exact ⟨_, List.mem_of_getElem? child, rfl⟩

theorem tree_restored (m : Manner) (value : Value) (tree : value.IsTree (Schema.Restorable m)) :
    value.Restored m := by
  induction tree with
  | node handle s here shaped _ hypothesis =>
      cases s with
      | object labels properties low high =>
          obtain ⟨inner, items, rfl, _⟩ := shaped
          obtain ⟨fixed, named, kept⟩ := here
          exact object_restored m handle inner labels items low high fixed named kept
            fun item member => hypothesis _ (List.mem_map_of_mem member)
      | array labels items low high =>
          exact array_restored m handle labels items low high here
            (array_items_restored m labels items low high hypothesis)
      | string labels enum low high pattern format =>
          exact string_restored m handle labels enum low high pattern format here.1 here.2
      | integer labels enum bounds => exact integer_restored m handle labels enum bounds here.1 here.2
      | number labels enum bounds => exact number_restored m handle labels enum bounds here.1 here.2
      | boolean labels enum => exact boolean_restored m handle labels enum here.1 here.2
      | null labels => exact null_restored m handle labels here
      | ref labels token => exact ref_restored m handle labels token here
      | combined mode combinator =>
          obtain ⟨outer, labels, inner, alternatives, rfl⟩ := shaped
          refine combined_restored m handle mode outer inner labels alternatives here fun value member => ?_
          obtain ⟨child, childMember, rfl⟩ := branch_member mode 0 alternatives value member
          exact hypothesis child childMember
      | fallback value => exact fallback_restored m handle value here

theorem entries_restored (m : Manner) (entries : List (String × Value))
    (below : ∀ entry ∈ entries, entry.2.Restored m) :
    ∃ results, Value.rebuiltEntries m (underTexts entries) = .ok (underTexts results) ∧
      results.map Prod.fst = entries.map Prod.fst ∧
      Value.entryForms (underTexts results) = Value.entryForms (underTexts entries) := by
  induction entries with
  | nil => exact ⟨[], rfl, rfl, rfl⟩
  | cons entry rest hypothesis =>
      obtain ⟨again, rebuilt, same⟩ := below entry List.mem_cons_self
      obtain ⟨results, later, keys, sameLater⟩ :=
        hypothesis fun other member => below other (List.mem_cons_of_mem entry member)
      refine ⟨(entry.1, again) :: results, ?_, ?_, ?_⟩
      · change (do
          return (Value.text entry.1, ← entry.2.rebuilt m) :: (← Value.rebuiltEntries m (underTexts rest))) = _
        rw [rebuilt, later]
        rfl
      · rw [List.map_cons, List.map_cons, keys]
      · change (_, again.form) :: Value.entryForms (underTexts results) = (_, entry.2.form) :: _
        rw [same, sameLater]
        rfl

theorem model_made (m : Manner) (entries : List (String × Value)) (root : Value)
    (kept : m.Keeps (entries.map Prod.fst)) :
    m.make .model ([("definitions", .table none (underTexts entries)), ("root", root)] ++
      if m.direct then [] else [("config", m.settings)]) = .ok (.model none ⟨underTexts entries, root⟩) := by
  rw [Manner.make]
  cases m.direct with
  | true => rfl
  | false =>
      obtain ⟨config, configured, asked⟩ := asked_order _ m.order (settings_asked m)
      let args : Arguments :=
        [("definitions", .table none (underTexts entries)), ("root", root), ("config", m.settings)]
      have definitions : args.textMapping? "definitions" = some entries := text_keyed_under_texts entries
      have given : args.config? = some config := configured
      change args.modelDocument = _
      rw [Arguments.modelDocument, definitions, given]
      change Except.ok (Value.model none ⟨underTexts (config.order entries), root⟩) = _
      rw [kept_order m config asked entries kept]

theorem model_restored (m : Manner) (handle : Handle) (entries : List (String × Value)) (root : Value)
    (kept : m.Keeps (entries.map Prod.fst)) (below : ∀ entry ∈ entries, entry.2.Restored m)
    (rootBelow : root.Restored m) : (Value.model handle ⟨underTexts entries, root⟩).Restored m := by
  obtain ⟨results, rebuilt, keys, same⟩ := entries_restored m entries below
  obtain ⟨again, rootRebuilt, sameRoot⟩ := rootBelow
  have keptToo : m.Keeps (results.map Prod.fst) := keys ▸ kept
  have table := table_of_texts results (kept_distinct m _ keptToo)
  refine ⟨.model none ⟨underTexts results, again⟩, ?_, ?_⟩
  · rw [Value.rebuilt, Model.rebuilt, rebuilt]
    change (do
      let definitions ← Value.tableOf (underTexts results)
      m.make .model ([("definitions", Value.table none definitions), ("root", ← root.rebuilt m)] ++
        if m.direct then [] else [("config", m.settings)])) = _
    rw [table, rootRebuilt]
    exact model_made m results again keptToo
  · rw [Value.form, Value.form, Model.form, Model.form, same, sameRoot]

theorem rebuilding_loses_nothing (m : Manner) :
    (∀ value : Value, value.IsTree (Schema.Restorable m) → value.Restored m) ∧
    ∀ (handle : Handle) (definitions : List (String × Value)) (root : Value), m.Keeps (definitions.map Prod.fst) →
      (∀ definition ∈ definitions, definition.2.IsTree (Schema.Restorable m)) →
      root.IsTree (Schema.Restorable m) →
      (Value.model handle ⟨underTexts definitions, root⟩).Restored m := by
  refine ⟨tree_restored m, fun handle definitions root kept below rootTree => ?_⟩
  exact model_restored m handle definitions root kept
    (fun definition member => tree_restored m definition.2 (below definition member)) (tree_restored m root rootTree)

-- Two properties against the order of texts: one with an empty enumeration, one with a raw payload.
def descendingNode : Schema :=
  .object ⟨.text "t", .null, [.tuple none [.int 1, .frozen none [(.text "k", .tuple none [])]]]⟩
    (.tuple none
      [.property none ⟨true, .text "b",
         .schema none (.string (.of .null .null []) (.tuple none []) .null .null .null .null)⟩,
       .property none ⟨false, .text "a",
         .schema none (.combined .anyOf (.combinator none ⟨.of .null .null [],
           .tuple none [nullLeaf, .schema none (.fallback (.frozen none [(.text "x", .tuple none [.int 2])]))]⟩))⟩])
    .null (.int 3)

def directManner : Manner := { direct := true, order := .insertion }

theorem descending_node_tree : (Value.schema none descendingNode).IsTree (Schema.Restorable directManner) := by
  have number (n : Int) : (Value.int n).Fixed := .leaf _ (by simp [Value.IsLeaf, Value.shape?, Value.int])
  have empty : (Value.tuple none []).Fixed := .tuple none [] (List.forall_mem_nil _)
  have table : (Value.frozen none [(.text "k", .tuple none [])]).Fixed :=
    .frozen none _ (List.forall_mem_singleton.mpr empty)
  have payload : (Value.frozen none [(.text "x", .tuple none [.int 2])]).Fixed :=
    .frozen none _ (List.forall_mem_singleton.mpr (.tuple none _ (List.forall_mem_singleton.mpr (number 2))))
  have sample : (Value.tuple none [.int 1, .frozen none [(.text "k", .tuple none [])]]).Fixed :=
    .tuple none _ (List.forall_mem_cons.mpr ⟨number 1, List.forall_mem_singleton.mpr table⟩)
  have leaf : nullLeaf.IsTree (Schema.Restorable directManner) :=
    .node none _ (List.forall_mem_nil _) trivial (List.forall_mem_nil _)
  have carried : (Value.schema none (.fallback (.frozen none [(.text "x", .tuple none [.int 2])]))).IsTree
      (Schema.Restorable directManner) := .node none _ payload trivial (List.forall_mem_nil _)
  have distinct : ["b", "a"].Nodup := by decide
  refine .node none descendingNode
    ⟨List.forall_mem_singleton.mpr sample,
      List.forall_mem_cons.mpr ⟨⟨"b", rfl⟩, List.forall_mem_singleton.mpr ⟨"a", rfl⟩⟩, distinct⟩
    ⟨none, _, rfl, List.forall_mem_cons.mpr ⟨rfl, List.forall_mem_singleton.mpr rfl⟩⟩
    (List.forall_mem_cons.mpr ⟨?_, List.forall_mem_singleton.mpr ?_⟩)
  · exact .node none _ ⟨List.forall_mem_nil _, .inr ⟨none, [], rfl⟩⟩ trivial (List.forall_mem_nil _)
  · exact .node none _ (List.forall_mem_nil _) ⟨none, _, none, _, rfl⟩
      (List.forall_mem_cons.mpr ⟨leaf, List.forall_mem_singleton.mpr carried⟩)

theorem descending_node_restored :
    (Value.schema none descendingNode).Restored directManner ∧
    (Value.model none ⟨underTexts [("z", nullLeaf), ("d", .schema none descendingNode)],
      .schema none descendingNode⟩).Restored directManner := by
  obtain ⟨trees, models⟩ := rebuilding_loses_nothing directManner
  have leaf : nullLeaf.IsTree (Schema.Restorable directManner) :=
    .node none _ (List.forall_mem_nil _) trivial (List.forall_mem_nil _)
  have distinct : ["z", "d"].Nodup := by decide
  refine ⟨trees _ descending_node_tree, models none _ _ distinct ?_ descending_node_tree⟩
  exact List.forall_mem_cons.mpr ⟨leaf, List.forall_mem_singleton.mpr descending_node_tree⟩

end Schemata
