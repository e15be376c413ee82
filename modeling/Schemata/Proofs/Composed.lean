import Schemata.Proofs.Visit

set_option autoImplicit false

/-!
What forms are composed of. A form that is composed of forms of some sort has nothing but fixed containers and
records around them; a whole form has such containers and records to the end. The form of a lasting value is
composed of the forms of its pieces, and all of these are inside it.
-/

namespace Schemata

-- Fixed containers and records around forms of a sort.
inductive Form.Composed (sort : Form → Prop) : Form → Prop where
  | given (form : Form) (is : sort form) : Composed sort form
  | scalar (s : Scalar) : Composed sort (.scalar s)
  | member (typeName : String) : Composed sort (.member typeName)
  | sequence (items : List Form) (below : ∀ item ∈ items, Composed sort item) : Composed sort (.sequence .fixed items)
  | mapping (entries : List (Form × Form)) (keys : ∀ entry ∈ entries, Composed sort entry.1)
      (below : ∀ entry ∈ entries, Composed sort entry.2) : Composed sort (.mapping .fixed entries)
  | record (cls : RecordClass) (fields : List (String × Form)) (fixed : cls ≠ .settings)
      (below : ∀ field ∈ fields, Composed sort field.2) : Composed sort (.record cls fields)

-- A form that can never change, with nothing in it that is elsewhere.
def Form.Whole (form : Form) : Prop := form.Composed fun _ => False

-- A form is met on a way down through containers and records.
inductive Form.Inside (part : Form) : Form → Prop where
  | here : Inside part part
  | item (access : Access) (items : List Form) (item : Form) (member : item ∈ items) (below : Inside part item) :
      Inside part (.sequence access items)
  | entry (access : Access) (entries : List (Form × Form)) (entry : Form × Form) (member : entry ∈ entries)
      (below : Inside part entry.2) : Inside part (.mapping access entries)
  | field (cls : RecordClass) (fields : List (String × Form)) (field : String × Form) (member : field ∈ fields)
      (below : Inside part field.2) : Inside part (.record cls fields)

theorem composed_weaken {sort other : Form → Prop} {form : Form} (composed : form.Composed sort)
    (weaken : ∀ part, sort part → part.Composed other) : form.Composed other := by
  induction composed with
  | given form is => exact weaken form is
  | scalar s => exact .scalar s
  | member typeName => exact .member typeName
  | sequence items _ hypothesis => exact .sequence items hypothesis
  | mapping entries _ _ keyHypothesis hypothesis => exact .mapping entries keyHypothesis hypothesis
  | record cls fields fixed _ hypothesis => exact .record cls fields fixed hypothesis

theorem whole_composed {form : Form} (whole : form.Whole) (sort : Form → Prop) : form.Composed sort :=
  composed_weaken whole fun _ none => none.elim

-- Nothing under which a value has its entries can change.
def Value.PlainKeys (value : Value) : Prop := ∀ key ∈ value.keys, key.form.Whole

theorem scalar_whole (s : Scalar) : (Value.scalar s).form.Whole := .scalar s

section Pieces

variable {sort : Form → Prop}

theorem forms_composed (items : List Value) (each : ∀ item ∈ items, item.form.Composed sort) :
    (Form.sequence .fixed (Value.forms items)).Composed sort := by
  rw [Value.forms_eq_map]
  exact .sequence _ (List.forall_mem_map.mpr each)

theorem entry_forms_composed (entries : List (Value × Value)) (keys : ∀ key ∈ entries.map Prod.fst, key.form.Whole)
    (each : ∀ part ∈ entries.map Prod.snd, part.form.Composed sort) :
    (Form.mapping .fixed (Value.entryForms entries)).Composed sort := by
  rw [Value.entry_forms_eq_map]
  refine .mapping _ (List.forall_mem_map.mpr ?_) (List.forall_mem_map.mpr ?_)
  · exact fun entry member => whole_composed (keys entry.1 (List.mem_map_of_mem member)) sort
  · exact fun entry member => each entry.2 (List.mem_map_of_mem member)

theorem label_forms_composed (labels : Labels) (each : ∀ part ∈ labels.pieces, part.form.Composed sort) :
    ∀ field ∈ labels.fieldForms, field.2.Composed sort := by
  obtain ⟨title, description, examples⟩ := labels
  simp only [Labels.pieces, List.forall_mem_cons] at each
  obtain ⟨first, second, third⟩ := each
  exact List.forall_mem_cons.mpr ⟨first, List.forall_mem_cons.mpr ⟨second,
    List.forall_mem_singleton.mpr (forms_composed examples third)⟩⟩

theorem named_forms_composed (fields : List (String × Value))
    (each : ∀ part ∈ fields.map Prod.snd, part.form.Composed sort) :
    ∀ field ∈ fields.map fun field => (field.1, field.2.form), field.2.Composed sort :=
  List.forall_mem_map.mpr fun field member => each field.2 (List.mem_map_of_mem member)

theorem labelled_forms_composed (labels : Labels) (fields : List (String × Value))
    (each : ∀ part ∈ labels.pieces ++ fields.map Prod.snd, part.form.Composed sort) :
    ∀ field ∈ labels.fieldForms ++ fields.map fun field => (field.1, field.2.form), field.2.Composed sort := by
  obtain ⟨shared, own⟩ := List.forall_mem_append.mp each
  exact List.forall_mem_append.mpr ⟨label_forms_composed labels shared, named_forms_composed fields own⟩

theorem bounded_forms (enum : Value) (bounds : Bounds) :
    (("enum", enum) :: bounds.fields).map (fun field => (field.1, field.2.form)) =
      ("enum", enum.form) :: bounds.fieldForms := by
  obtain ⟨low, high, below, above, factor⟩ := bounds
  rfl

theorem schema_forms_composed (s : Schema) (each : ∀ part ∈ s.pieces, part.form.Composed sort) :
    ∀ field ∈ s.fieldForms, field.2.Composed sort := by
  cases s with
  | object labels properties low high =>
      exact labelled_forms_composed labels
        [("properties", properties), ("min_properties", low), ("max_properties", high)] each
  | array labels items low high =>
      exact labelled_forms_composed labels [("items", items), ("min_items", low), ("max_items", high)] each
  | string labels enum low high pattern format =>
      exact labelled_forms_composed labels [("enum", enum), ("min_length", low), ("max_length", high),
        ("pattern", pattern), ("format", format)] each
  | integer labels enum bounds =>
      have known := labelled_forms_composed labels (("enum", enum) :: bounds.fields) each
      rw [bounded_forms] at known
      exact known
  | number labels enum bounds =>
      have known := labelled_forms_composed labels (("enum", enum) :: bounds.fields) each
      rw [bounded_forms] at known
      exact known
  | boolean labels enum => exact labelled_forms_composed labels [("enum", enum)] each
  | null labels => exact label_forms_composed labels each
  | ref labels token => exact labelled_forms_composed labels [("ref", token)] each
  | combined mode combinator => exact named_forms_composed [("combinator", combinator)] each
  | fallback value => exact named_forms_composed [("value", value)] each

theorem schema_class_fixed (s : Schema) : s.recordClass ≠ .settings := by
  cases s with
  | combined mode combinator => cases mode <;> nofun
  | _ => nofun

-- The form of a lasting value is composed of what the forms of its pieces are composed of.
theorem pieces_composed (value : Value) (fixed : ∀ shape, value.shape? = some shape → value.isLasting = true)
    (keys : value.PlainKeys) (each : ∀ part ∈ value.pieces, part.form.Composed sort) : value.form.Composed sort := by
  cases value with
  | scalar s => exact .scalar s
  | member typeName => exact .member typeName
  | tuple handle items => exact forms_composed items each
  | frozen handle entries => exact entry_forms_composed entries keys each
  | schema handle s => exact .record _ _ (schema_class_fixed s) (schema_forms_composed s each)
  | combinator handle c =>
      obtain ⟨labels, alternatives⟩ := c
      exact .record _ _ nofun (labelled_forms_composed labels [("sub_schemas", alternatives)] each)
  | property handle p =>
      obtain ⟨required, name, schema⟩ := p
      refine .record _ _ (by cases required <;> nofun) ?_
      exact named_forms_composed [("name", name), ("schema", schema)] each
  | customFormat handle name => exact .record _ _ nofun (named_forms_composed [("name", name)] each)
  | model handle m =>
      obtain ⟨definitions, root⟩ := m
      obtain ⟨inside, last⟩ := List.forall_mem_append.mp each
      refine .record _ _ nofun (List.forall_mem_cons.mpr ⟨entry_forms_composed definitions keys inside, ?_⟩)
      exact named_forms_composed [("root", root)] last
  | _ => cases fixed _ rfl

end Pieces

section Members

variable {part : Value}

theorem forms_inside (access : Access) (items : List Value) (member : part ∈ items) :
    part.form.Inside (.sequence access (Value.forms items)) := by
  rw [Value.forms_eq_map]
  exact .item access _ _ (List.mem_map_of_mem member) .here

theorem entry_forms_inside (access : Access) (entries : List (Value × Value)) (member : part ∈ entries.map Prod.snd) :
    part.form.Inside (.mapping access (Value.entryForms entries)) := by
  obtain ⟨entry, known, rfl⟩ := List.mem_map.mp member
  rw [Value.entry_forms_eq_map]
  exact .entry access _ (entry.1.form, entry.2.form) (List.mem_map_of_mem known) .here

theorem label_forms_inside (labels : Labels) (member : part ∈ labels.pieces) :
    ∃ field ∈ labels.fieldForms, part.form.Inside field.2 := by
  obtain ⟨title, description, examples⟩ := labels
  simp only [Labels.pieces, List.mem_cons] at member
  rcases member with rfl | rfl | listed
  · exact ⟨_, List.mem_cons_self, .here⟩
  · exact ⟨_, List.mem_cons_of_mem _ List.mem_cons_self, .here⟩
  · exact ⟨_, List.mem_cons_of_mem _ (List.mem_cons_of_mem _ List.mem_cons_self), forms_inside .fixed examples listed⟩

theorem named_forms_inside (fields : List (String × Value)) (member : part ∈ fields.map Prod.snd) :
    ∃ field ∈ fields.map fun field => (field.1, field.2.form), part.form.Inside field.2 := by
  obtain ⟨field, known, rfl⟩ := List.mem_map.mp member
  exact ⟨(field.1, field.2.form), List.mem_map_of_mem known, .here⟩

theorem labelled_forms_inside (labels : Labels) (fields : List (String × Value))
    (member : part ∈ labels.pieces ++ fields.map Prod.snd) :
    ∃ field ∈ labels.fieldForms ++ fields.map fun field => (field.1, field.2.form), part.form.Inside field.2 := by
  rcases List.mem_append.mp member with shared | own
  · obtain ⟨field, known, inside⟩ := label_forms_inside labels shared
    exact ⟨field, List.mem_append_left _ known, inside⟩
  · obtain ⟨field, known, inside⟩ := named_forms_inside fields own
    exact ⟨field, List.mem_append_right _ known, inside⟩

theorem schema_forms_inside (s : Schema) (member : part ∈ s.pieces) :
    ∃ field ∈ s.fieldForms, part.form.Inside field.2 := by
  cases s with
  | object labels properties low high =>
      exact labelled_forms_inside labels
        [("properties", properties), ("min_properties", low), ("max_properties", high)] member
  | array labels items low high =>
      exact labelled_forms_inside labels [("items", items), ("min_items", low), ("max_items", high)] member
  | string labels enum low high pattern format =>
      exact labelled_forms_inside labels [("enum", enum), ("min_length", low), ("max_length", high),
        ("pattern", pattern), ("format", format)] member
  | integer labels enum bounds =>
      have known := labelled_forms_inside labels (("enum", enum) :: bounds.fields) member
      rw [bounded_forms] at known
      exact known
  | number labels enum bounds =>
      have known := labelled_forms_inside labels (("enum", enum) :: bounds.fields) member
      rw [bounded_forms] at known
      exact known
  | boolean labels enum => exact labelled_forms_inside labels [("enum", enum)] member
  | null labels => exact label_forms_inside labels member
  | ref labels token => exact labelled_forms_inside labels [("ref", token)] member
  | combined mode combinator => exact named_forms_inside [("combinator", combinator)] member
  | fallback value => exact named_forms_inside [("value", value)] member

theorem pieces_inside (value : Value) (lasting : value.isLasting = true) (member : part ∈ value.pieces) :
    part.form.Inside value.form := by
  cases value with
  | tuple handle items => exact forms_inside .fixed items member
  | frozen handle entries => exact entry_forms_inside .fixed entries member
  | schema handle s =>
      obtain ⟨field, known, inside⟩ := schema_forms_inside s member
      exact .field _ _ field known inside
  | combinator handle c =>
      obtain ⟨labels, alternatives⟩ := c
      obtain ⟨field, known, inside⟩ := labelled_forms_inside labels [("sub_schemas", alternatives)] member
      exact .field _ _ field known inside
  | property handle p =>
      obtain ⟨required, name, schema⟩ := p
      obtain ⟨field, known, inside⟩ := named_forms_inside [("name", name), ("schema", schema)] member
      exact .field _ _ field known inside
  | customFormat handle name =>
      obtain ⟨field, known, inside⟩ := named_forms_inside [("name", name)] member
      exact .field _ _ field known inside
  | model handle m =>
      obtain ⟨definitions, root⟩ := m
      rcases List.mem_append.mp member with defined | last
      · exact .field _ _ ("definitions", _) List.mem_cons_self (entry_forms_inside .fixed definitions defined)
      · obtain rfl : part = root := List.mem_singleton.mp last
        exact .field _ _ ("root", part.form) (List.mem_cons_of_mem _ List.mem_cons_self) .here
  | _ => cases lasting

end Members

end Schemata
