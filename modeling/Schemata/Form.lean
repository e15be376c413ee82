import Schemata.Record

set_option autoImplicit false

/-!
The form of a value: what can be observed of it at one moment, without the identity of its objects.
A record is shown as its class with named fields. Equality, fingerprints and the written form are
functions of the form.
-/

namespace Schemata

/-- Whether a container can be edited. -/
inductive Access where
  | editable | fixed
deriving DecidableEq

inductive Form where
  | scalar (s : Scalar)
  | sequence (access : Access) (items : List Form)
  | mapping (access : Access) (entries : List (Form × Form))
  | showing (handle : Nat) (other : Form)
  | record (cls : RecordClass) (fields : List (String × Form))
  | holder (attributes : List (String × Form))
  | elsewhere (handle : Nat) (shape : Shape)
  | member (typeName : String)

/-- What a form shows, which is itself unless it was given something else to show. -/
def Form.shown : Form → Form
  | .showing _ other => other.shown
  | form => form

def Form.typeName : Form → String
  | .scalar s => s.typeName
  | .sequence .editable _ => Shape.list.typeName
  | .sequence .fixed _ => Shape.tuple.typeName
  | .mapping .editable _ => Shape.table.typeName
  | .mapping .fixed _ => Shape.frozen.typeName
  | .showing .. => Shape.frozen.typeName
  | .record cls _ => cls.name
  | .holder _ => Shape.holder.qualifiedName
  | .elsewhere _ shape => shape.qualifiedName
  | .member typeName => typeName

def settingsForms (attributes : List (String × Form)) : List (String × Form) :=
  [("key_order", (attributes.lookup "key_order").getD (.scalar (.keyword (.keyOrder .sorted)))),
   ("missing_required",
     (attributes.lookup "missing_required").getD (.scalar (.keyword (.missingRequired .ignore))))]

mutual
def Value.form : Value → Form
  | .scalar s => .scalar s
  | .list _ items => .sequence .editable (Value.forms items)
  | .tuple _ items => .sequence .fixed (Value.forms items)
  | .table _ entries => .mapping .editable (Value.entryForms entries)
  | .frozen _ entries => .mapping .fixed (Value.entryForms entries)
  | .showing handle other => .showing handle other.form
  | .settings _ attributes => .record .settings (settingsForms (Value.fieldForms attributes))
  | .holder _ attributes => .holder (Value.fieldForms attributes)
  | .schema _ s => .record s.recordClass s.fieldForms
  | .combinator _ c => c.form
  | .property _ p => p.form
  | .customFormat _ name => .record .customFormat [("name", name.form)]
  | .model _ m => m.form
  | .elsewhere handle shape => .elsewhere handle shape
  | .member typeName => .member typeName
def Value.forms : List Value → List Form
  | [] => []
  | value :: rest => value.form :: Value.forms rest
def Value.entryForms : List (Value × Value) → List (Form × Form)
  | [] => []
  | (key, value) :: rest => (key.form, value.form) :: Value.entryForms rest
def Value.fieldForms : List (String × Value) → List (String × Form)
  | [] => []
  | (name, value) :: rest => (name, value.form) :: Value.fieldForms rest
def Schema.fieldForms : Schema → List (String × Form)
  | .object labels properties low high =>
    labels.fieldForms ++ [("properties", properties.form), ("min_properties", low.form),
      ("max_properties", high.form)]
  | .array labels items low high =>
    labels.fieldForms ++ [("items", items.form), ("min_items", low.form), ("max_items", high.form)]
  | .string labels enum low high pattern format =>
    labels.fieldForms ++ [("enum", enum.form), ("min_length", low.form), ("max_length", high.form),
      ("pattern", pattern.form), ("format", format.form)]
  | .integer labels enum bounds => labels.fieldForms ++ ("enum", enum.form) :: bounds.fieldForms
  | .number labels enum bounds => labels.fieldForms ++ ("enum", enum.form) :: bounds.fieldForms
  | .boolean labels enum => labels.fieldForms ++ [("enum", enum.form)]
  | .null labels => labels.fieldForms
  | .ref labels token => labels.fieldForms ++ [("ref", token.form)]
  | .combined _ combinator => [("combinator", combinator.form)]
  | .fallback value => [("value", value.form)]
def Labels.fieldForms : Labels → List (String × Form)
  | ⟨title, description, examples⟩ =>
    [("title", title.form), ("description", description.form),
     ("examples", .sequence .fixed (Value.forms examples))]
def Bounds.fieldForms : Bounds → List (String × Form)
  | ⟨minimum, maximum, exclusiveMinimum, exclusiveMaximum, multipleOf⟩ =>
    [("minimum", minimum.form), ("maximum", maximum.form),
     ("exclusive_minimum", exclusiveMinimum.form), ("exclusive_maximum", exclusiveMaximum.form),
     ("multiple_of", multipleOf.form)]
def Property.form : Property → Form
  | ⟨required, name, schema⟩ =>
    .record (if required then .requiredProperty else .optionalProperty)
      [("name", name.form), ("schema", schema.form)]
def Combinator.form : Combinator → Form
  | ⟨labels, subSchemas⟩ => .record .combinator (labels.fieldForms ++ [("sub_schemas", subSchemas.form)])
def Model.form : Model → Form
  | ⟨definitions, root⟩ =>
    .record .model [("definitions", .mapping .fixed (Value.entryForms definitions)), ("root", root.form)]
end

namespace Value

theorem forms_eq_map (items : List Value) : forms items = items.map form := by
  induction items with
  | nil => simp [forms]
  | cons value rest hypothesis => simp [forms, hypothesis]

theorem entry_forms_eq_map (entries : List (Value × Value)) :
    entryForms entries = entries.map fun entry => (entry.1.form, entry.2.form) := by
  induction entries with
  | nil => simp [entryForms]
  | cons entry rest hypothesis => simp [entryForms, hypothesis]

theorem field_forms_eq_map (fields : List (String × Value)) :
    fieldForms fields = fields.map fun field => (field.1, field.2.form) := by
  induction fields with
  | nil => simp [fieldForms]
  | cons field rest hypothesis => simp [fieldForms, hypothesis]

end Value

theorem field_forms_append (left right : List (String × Value)) :
    Value.fieldForms (left ++ right) = Value.fieldForms left ++ Value.fieldForms right := by
  simp [Value.field_forms_eq_map]

theorem label_field_forms (labels : Labels) :
    Value.fieldForms labels.fields = labels.fieldForms := by
  cases labels
  simp [Labels.fields, Labels.fieldForms, Value.fieldForms, Value.form]

theorem bound_field_forms (bounds : Bounds) :
    Value.fieldForms bounds.fields = bounds.fieldForms := by
  cases bounds
  simp [Bounds.fields, Bounds.fieldForms, Value.fieldForms]

theorem schema_field_forms (schema : Schema) :
    Value.fieldForms schema.fields = schema.fieldForms := by
  cases schema <;>
    simp [Schema.fields, Schema.fieldForms, field_forms_append, label_field_forms, bound_field_forms,
      Value.fieldForms]

theorem lookup_field_forms (attributes : List (String × Value)) (name : String) :
    (Value.fieldForms attributes).lookup name = (attributes.lookup name).map Value.form := by
  induction attributes with
  | nil => simp [Value.fieldForms]
  | cons entry rest hypothesis =>
      obtain ⟨key, value⟩ := entry
      simp only [Value.fieldForms, List.lookup_cons, hypothesis]
      split <;> simp

theorem settings_field_forms (attributes : List (String × Value)) :
    Value.fieldForms (Value.settingsFields attributes) = settingsForms (Value.fieldForms attributes) := by
  have shown (found : Option Value) (k : Keyword) :
      (found.getD (.keyword k)).form = (found.map Value.form).getD (.scalar (.keyword k)) := by
    cases found <;> simp [Value.keyword, Value.form]
  simp [Value.settingsFields, Value.settingsDefaults, settingsForms, Value.fieldForms, lookup_field_forms,
    shown]

/-- The fields of a record, one by one, are the fields of its form. -/
theorem record_form (value : Value) (cls : RecordClass) (fields : List (String × Value))
    (shown : value.record? = some (cls, fields)) :
    value.form = .record cls (Value.fieldForms fields) := by
  cases value with
  | settings handle attributes =>
      simp only [Value.record?, Option.some.injEq, Prod.mk.injEq] at shown
      obtain ⟨rfl, rfl⟩ := shown
      rw [Value.form, settings_field_forms]
  | schema handle s =>
      simp only [Value.record?, Option.some.injEq, Prod.mk.injEq] at shown
      obtain ⟨rfl, rfl⟩ := shown
      rw [Value.form, schema_field_forms]
  | combinator handle c =>
      simp only [Value.record?, Option.some.injEq, Prod.mk.injEq] at shown
      obtain ⟨rfl, rfl⟩ := shown
      cases c
      simp [Value.form, Combinator.form, Combinator.fields, field_forms_append, label_field_forms,
        Value.fieldForms]
  | property handle p =>
      simp only [Value.record?, Option.some.injEq, Prod.mk.injEq] at shown
      obtain ⟨rfl, rfl⟩ := shown
      cases p
      simp [Value.form, Property.form, Property.recordClass, Value.fieldForms]
  | customFormat handle name =>
      simp only [Value.record?, Option.some.injEq, Prod.mk.injEq] at shown
      obtain ⟨rfl, rfl⟩ := shown
      simp [Value.form, Value.fieldForms]
  | model handle m =>
      simp only [Value.record?, Option.some.injEq, Prod.mk.injEq] at shown
      obtain ⟨rfl, rfl⟩ := shown
      cases m
      simp [Value.form, Model.form, Value.fieldForms]
  | _ => simp [Value.record?] at shown

end Schemata
