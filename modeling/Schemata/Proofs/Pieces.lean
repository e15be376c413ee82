import Mathlib.Data.List.Forall2
import Mathlib.Logic.Relation
import Schemata.Form
import Schemata.Parts

set_option autoImplicit false

/-!
Pieces. A value is its constructor with what it consists of, examples and definitions one by one. Two values
run along each other when they differ at most in their handles and piece by piece; visiting all parts of a
value, with or without a state, gives a value that runs along it.
-/

namespace Schemata

def Labels.pieces (labels : Labels) : List Value := labels.title :: labels.description :: labels.examples

def Bounds.pieces (bounds : Bounds) : List Value :=
  [bounds.minimum, bounds.maximum, bounds.exclusiveMinimum, bounds.exclusiveMaximum, bounds.multipleOf]

def Schema.pieces : Schema → List Value
  | .object labels properties low high => labels.pieces ++ [properties, low, high]
  | .array labels items low high => labels.pieces ++ [items, low, high]
  | .string labels enum low high pattern format => labels.pieces ++ [enum, low, high, pattern, format]
  | .integer labels enum bounds => labels.pieces ++ enum :: bounds.pieces
  | .number labels enum bounds => labels.pieces ++ enum :: bounds.pieces
  | .boolean labels enum => labels.pieces ++ [enum]
  | .null labels => labels.pieces
  | .ref labels token => labels.pieces ++ [token]
  | .combined _ combinator => [combinator]
  | .fallback value => [value]

def Value.pieces : Value → List Value
  | .list _ items => items
  | .tuple _ items => items
  | .table _ entries => entries.map Prod.snd
  | .frozen _ entries => entries.map Prod.snd
  | .showing _ other => [other]
  | .settings _ attributes => attributes.map Prod.snd
  | .holder _ attributes => attributes.map Prod.snd
  | .schema _ s => s.pieces
  | .combinator _ c => c.labels.pieces ++ [c.subSchemas]
  | .property _ p => [p.name, p.schema]
  | .customFormat _ name => [name]
  | .model _ m => m.definitions.map Prod.snd ++ [m.root]
  | _ => []

section Along

variable (related : Value → Value → Prop)

def EntriesAlong {κ : Type} (entries others : List (κ × Value)) : Prop :=
  List.Forall₂ (fun entry other => entry.1 = other.1 ∧ related entry.2 other.2) entries others

structure Labels.Along (labels others : Labels) : Prop where
  title : related labels.title others.title
  description : related labels.description others.description
  examples : List.Forall₂ related labels.examples others.examples

structure Bounds.Along (bounds others : Bounds) : Prop where
  minimum : related bounds.minimum others.minimum
  maximum : related bounds.maximum others.maximum
  exclusiveMinimum : related bounds.exclusiveMinimum others.exclusiveMinimum
  exclusiveMaximum : related bounds.exclusiveMaximum others.exclusiveMaximum
  multipleOf : related bounds.multipleOf others.multipleOf

inductive Schema.Along : Schema → Schema → Prop where
  | object {labels others properties properties' low low' high high'} (shared : Labels.Along related labels others)
      (first : related properties properties') (second : related low low') (third : related high high') :
      Along (.object labels properties low high) (.object others properties' low' high')
  | array {labels others items items' low low' high high'} (shared : Labels.Along related labels others)
      (first : related items items') (second : related low low') (third : related high high') :
      Along (.array labels items low high) (.array others items' low' high')
  | string {labels others enum enum' low low' high high' pattern pattern' format format'}
      (shared : Labels.Along related labels others) (first : related enum enum') (second : related low low')
      (third : related high high') (fourth : related pattern pattern') (fifth : related format format') :
      Along (.string labels enum low high pattern format) (.string others enum' low' high' pattern' format')
  | integer {labels others enum enum' bounds bounds'} (shared : Labels.Along related labels others)
      (first : related enum enum') (second : Bounds.Along related bounds bounds') :
      Along (.integer labels enum bounds) (.integer others enum' bounds')
  | number {labels others enum enum' bounds bounds'} (shared : Labels.Along related labels others)
      (first : related enum enum') (second : Bounds.Along related bounds bounds') :
      Along (.number labels enum bounds) (.number others enum' bounds')
  | boolean {labels others enum enum'} (shared : Labels.Along related labels others) (first : related enum enum') :
      Along (.boolean labels enum) (.boolean others enum')
  | null {labels others} (shared : Labels.Along related labels others) : Along (.null labels) (.null others)
  | ref {labels others token token'} (shared : Labels.Along related labels others) (first : related token token') :
      Along (.ref labels token) (.ref others token')
  | combined {mode combinator combinator'} (first : related combinator combinator') :
      Along (.combined mode combinator) (.combined mode combinator')
  | fallback {value value'} (first : related value value') : Along (.fallback value) (.fallback value')

inductive Value.Along : Value → Value → Prop where
  | scalar (s : Scalar) : Along (.scalar s) (.scalar s)
  | list {handle items others} (each : List.Forall₂ related items others) :
      Along (.list handle items) (.list handle others)
  | tuple {handle items others} (each : List.Forall₂ related items others) :
      Along (.tuple handle items) (.tuple handle others)
  | table {handle entries others} (each : EntriesAlong related entries others) :
      Along (.table handle entries) (.table handle others)
  | frozen {handle entries others} (each : EntriesAlong related entries others) :
      Along (.frozen handle entries) (.frozen handle others)
  | showing {handle value other} (first : related value other) :
      Along (.showing handle value) (.showing handle other)
  | settings {handle attributes others} (each : EntriesAlong related attributes others) :
      Along (.settings handle attributes) (.settings handle others)
  | holder {handle attributes others} (each : EntriesAlong related attributes others) :
      Along (.holder handle attributes) (.holder handle others)
  | schema {handle s s'} (fields : Schema.Along related s s') : Along (.schema handle s) (.schema handle s')
  | combinator {handle labels others alternatives alternatives'} (shared : Labels.Along related labels others)
      (first : related alternatives alternatives') :
      Along (.combinator handle ⟨labels, alternatives⟩) (.combinator handle ⟨others, alternatives'⟩)
  | property {handle required name name' child child'} (first : related name name')
      (second : related child child') :
      Along (.property handle ⟨required, name, child⟩) (.property handle ⟨required, name', child'⟩)
  | customFormat {handle name name'} (first : related name name') :
      Along (.customFormat handle name) (.customFormat handle name')
  | model {handle definitions others root root'} (each : EntriesAlong related definitions others)
      (first : related root root') : Along (.model handle ⟨definitions, root⟩) (.model handle ⟨others, root'⟩)
  | elsewhere (handle : Nat) (shape : Shape) : Along (.elsewhere handle shape) (.elsewhere handle shape)
  | member (typeName : String) : Along (.member typeName) (.member typeName)

end Along

section Reading

variable {related : Value → Value → Prop}

theorem entries_along_values {κ : Type} {entries others : List (κ × Value)}
    (along : EntriesAlong related entries others) :
    List.Forall₂ related (entries.map Prod.snd) (others.map Prod.snd) := by
  rw [List.forall₂_map_left_iff, List.forall₂_map_right_iff]
  exact along.imp fun _ _ here => here.2

theorem labels_along_pieces {labels others : Labels} (along : Labels.Along related labels others) :
    List.Forall₂ related labels.pieces others.pieces := .cons along.title (.cons along.description along.examples)

theorem bounds_along_pieces {bounds others : Bounds} (along : Bounds.Along related bounds others) :
    List.Forall₂ related bounds.pieces others.pieces :=
  .cons along.minimum (.cons along.maximum (.cons along.exclusiveMinimum (.cons along.exclusiveMaximum
    (.cons along.multipleOf .nil))))

theorem schema_along_pieces {s s' : Schema} (along : Schema.Along related s s') :
    List.Forall₂ related s.pieces s'.pieces := by
  cases along with
  | object shared first second third =>
      exact List.rel_append (labels_along_pieces shared) (.cons first (.cons second (.cons third .nil)))
  | array shared first second third =>
      exact List.rel_append (labels_along_pieces shared) (.cons first (.cons second (.cons third .nil)))
  | string shared first second third fourth fifth =>
      exact List.rel_append (labels_along_pieces shared)
        (.cons first (.cons second (.cons third (.cons fourth (.cons fifth .nil)))))
  | integer shared first second =>
      exact List.rel_append (labels_along_pieces shared) (.cons first (bounds_along_pieces second))
  | number shared first second =>
      exact List.rel_append (labels_along_pieces shared) (.cons first (bounds_along_pieces second))
  | boolean shared first => exact List.rel_append (labels_along_pieces shared) (.cons first .nil)
  | null shared => exact labels_along_pieces shared
  | ref shared first => exact List.rel_append (labels_along_pieces shared) (.cons first .nil)
  | combined first => exact .cons first .nil
  | fallback first => exact .cons first .nil

theorem along_pieces {value other : Value} (along : value.Along related other) :
    List.Forall₂ related value.pieces other.pieces := by
  cases along with
  | list each => exact each
  | tuple each => exact each
  | table each => exact entries_along_values each
  | frozen each => exact entries_along_values each
  | showing first => exact .cons first .nil
  | settings each => exact entries_along_values each
  | holder each => exact entries_along_values each
  | schema fields => exact schema_along_pieces fields
  | combinator shared first => exact List.rel_append (labels_along_pieces shared) (.cons first .nil)
  | property first second => exact .cons first (.cons second .nil)
  | customFormat first => exact .cons first .nil
  | model each first => exact List.rel_append (entries_along_values each) (.cons first .nil)
  | _ => exact .nil

theorem along_shape {value other : Value} (along : value.Along related other) : other.shape? = value.shape? := by
  cases along with
  | schema fields => cases fields <;> rfl
  | property first second => rfl
  | _ => rfl

theorem along_handle {value other : Value} (along : value.Along related other) : other.handle? = value.handle? := by
  cases along <;> rfl

end Reading

section Reflexive

variable {related : Value → Value → Prop} (refl : ∀ part, related part part)

include refl

theorem each_refl (items : List Value) : List.Forall₂ related items items :=
  List.forall₂_same.mpr fun item _ => refl item

theorem entries_refl {κ : Type} (entries : List (κ × Value)) : EntriesAlong related entries entries :=
  List.forall₂_same.mpr fun entry _ => ⟨rfl, refl entry.2⟩

theorem labels_refl (labels : Labels) : Labels.Along related labels labels :=
  ⟨refl labels.title, refl labels.description, each_refl refl labels.examples⟩

theorem bounds_refl (bounds : Bounds) : Bounds.Along related bounds bounds :=
  ⟨refl bounds.minimum, refl bounds.maximum, refl bounds.exclusiveMinimum, refl bounds.exclusiveMaximum,
    refl bounds.multipleOf⟩

theorem schema_refl (s : Schema) : Schema.Along related s s := by
  cases s <;> constructor <;>
    first
    | exact labels_refl refl _
    | exact bounds_refl refl _
    | exact refl _

theorem along_refl (value : Value) : value.Along related value := by
  cases value with
  | scalar s => exact .scalar s
  | list handle items => exact .list (each_refl refl items)
  | tuple handle items => exact .tuple (each_refl refl items)
  | table handle entries => exact .table (entries_refl refl entries)
  | frozen handle entries => exact .frozen (entries_refl refl entries)
  | showing handle other => exact .showing (refl other)
  | settings handle attributes => exact .settings (entries_refl refl attributes)
  | holder handle attributes => exact .holder (entries_refl refl attributes)
  | schema handle s => exact .schema (schema_refl refl s)
  | combinator handle c =>
      obtain ⟨labels, alternatives⟩ := c
      exact .combinator (labels_refl refl labels) (refl alternatives)
  | property handle p =>
      obtain ⟨required, name, schema⟩ := p
      exact .property (refl name) (refl schema)
  | customFormat handle name => exact .customFormat (refl name)
  | model handle m =>
      obtain ⟨definitions, root⟩ := m
      exact .model (entries_refl refl definitions) (refl root)
  | elsewhere handle shape => exact .elsewhere handle shape
  | member typeName => exact .member typeName

end Reflexive

-- What relates the pieces may be replaced by anything that follows for them.
section Weakening

variable {related further : Value → Value → Prop}

theorem each_weaken {items others : List Value} (along : List.Forall₂ related items others)
    (weaken : ∀ part ∈ items, ∀ other ∈ others, related part other → further part other) :
    List.Forall₂ further items others := by
  induction along with
  | nil => exact .nil
  | @cons item other rest later here _ hypothesis =>
      refine .cons (weaken item List.mem_cons_self other List.mem_cons_self here) (hypothesis ?_)
      exact fun part member third inLater =>
        weaken part (List.mem_cons_of_mem item member) third (List.mem_cons_of_mem other inLater)

theorem entries_weaken {κ : Type} {entries others : List (κ × Value)} (along : EntriesAlong related entries others)
    (weaken : ∀ part ∈ entries.map Prod.snd, ∀ other ∈ others.map Prod.snd, related part other → further part other) :
    EntriesAlong further entries others := by
  induction along with
  | nil => exact .nil
  | @cons entry other rest later here _ hypothesis =>
      refine .cons ⟨here.1, weaken entry.2 List.mem_cons_self other.2 List.mem_cons_self here.2⟩ (hypothesis ?_)
      exact fun part member third inLater =>
        weaken part (List.mem_cons_of_mem entry.2 member) third (List.mem_cons_of_mem other.2 inLater)

theorem labels_weaken {labels others : Labels} (along : Labels.Along related labels others)
    (weaken : ∀ part ∈ labels.pieces, ∀ other ∈ others.pieces, related part other → further part other) :
    Labels.Along further labels others := by
  have title := weaken labels.title (by simp [Labels.pieces]) others.title (by simp [Labels.pieces]) along.title
  have description := weaken labels.description (by simp [Labels.pieces]) others.description (by simp [Labels.pieces])
    along.description
  refine ⟨title, description, each_weaken along.examples fun part member other also => ?_⟩
  exact weaken part (by simp [Labels.pieces, member]) other (by simp [Labels.pieces, also])

theorem bounds_weaken {bounds others : Bounds} (along : Bounds.Along related bounds others)
    (weaken : ∀ part ∈ bounds.pieces, ∀ other ∈ others.pieces, related part other → further part other) :
    Bounds.Along further bounds others := by
  refine ⟨weaken _ ?_ _ ?_ along.minimum, weaken _ ?_ _ ?_ along.maximum, weaken _ ?_ _ ?_ along.exclusiveMinimum,
    weaken _ ?_ _ ?_ along.exclusiveMaximum, weaken _ ?_ _ ?_ along.multipleOf⟩
  all_goals simp [Bounds.pieces]

theorem schema_weaken {s s' : Schema} (along : Schema.Along related s s')
    (weaken : ∀ part ∈ s.pieces, ∀ other ∈ s'.pieces, related part other → further part other) :
    Schema.Along further s s' := by
  cases along <;> constructor <;>
    first
    | exact weaken _ (by simp [Schema.pieces]) _ (by simp [Schema.pieces]) ‹_›
    | exact labels_weaken ‹_› fun part member other also =>
        weaken part (by simp [Schema.pieces, member]) other (by simp [Schema.pieces, also])
    | exact bounds_weaken ‹_› fun part member other also =>
        weaken part (by simp [Schema.pieces, member]) other (by simp [Schema.pieces, also])

theorem along_weaken {value other : Value} (along : value.Along related other)
    (weaken : ∀ part ∈ value.pieces, ∀ third ∈ other.pieces, related part third → further part third) :
    value.Along further other := by
  cases along with
  | list each => exact .list (each_weaken each weaken)
  | tuple each => exact .tuple (each_weaken each weaken)
  | table each => exact .table (entries_weaken each weaken)
  | frozen each => exact .frozen (entries_weaken each weaken)
  | showing first => exact .showing (weaken _ List.mem_cons_self _ List.mem_cons_self first)
  | settings each => exact .settings (entries_weaken each weaken)
  | holder each => exact .holder (entries_weaken each weaken)
  | schema fields => exact .schema (schema_weaken fields weaken)
  | combinator shared first =>
      refine .combinator (labels_weaken shared fun part member third also => ?_) (weaken _ ?_ _ ?_ first)
      · exact weaken part (List.mem_append_left _ member) third (List.mem_append_left _ also)
      all_goals simp [Value.pieces]
  | property first second =>
      refine .property (weaken _ ?_ _ ?_ first) (weaken _ ?_ _ ?_ second)
      all_goals simp [Value.pieces]
  | customFormat first => exact .customFormat (weaken _ List.mem_cons_self _ List.mem_cons_self first)
  | model each first =>
      refine .model (entries_weaken each fun part member third also => ?_) (weaken _ ?_ _ ?_ first)
      · exact weaken part (List.mem_append_left _ member) third (List.mem_append_left _ also)
      all_goals simp [Value.pieces]
  | elsewhere handle shape => exact .elsewhere handle shape
  | member typeName => exact .member typeName
  | scalar s => exact .scalar s

end Weakening

-- What runs along a second value that runs along a first one runs along the first.
section Transitive

variable {related further : Value → Value → Prop}

theorem each_through {items others thirds : List Value} (first : List.Forall₂ related items others)
    (second : List.Forall₂ further others thirds) : List.Forall₂ (Relation.Comp related further) items thirds := by
  induction first generalizing thirds with
  | nil =>
      cases second
      exact .nil
  | cons here _ hypothesis =>
      cases second with
      | cons there later => exact .cons ⟨_, here, there⟩ (hypothesis later)

theorem entries_through {κ : Type} {entries others thirds : List (κ × Value)}
    (first : EntriesAlong related entries others) (second : EntriesAlong further others thirds) :
    EntriesAlong (Relation.Comp related further) entries thirds := by
  induction first generalizing thirds with
  | nil =>
      cases second
      exact .nil
  | cons here _ hypothesis =>
      cases second with
      | cons there later =>
          exact .cons ⟨here.1.trans there.1, _, here.2, there.2⟩ (hypothesis later)

theorem labels_through {labels others thirds : Labels} (first : Labels.Along related labels others)
    (second : Labels.Along further others thirds) : Labels.Along (Relation.Comp related further) labels thirds :=
  ⟨⟨_, first.title, second.title⟩, ⟨_, first.description, second.description⟩,
    each_through first.examples second.examples⟩

theorem bounds_through {bounds others thirds : Bounds} (first : Bounds.Along related bounds others)
    (second : Bounds.Along further others thirds) : Bounds.Along (Relation.Comp related further) bounds thirds :=
  ⟨⟨_, first.minimum, second.minimum⟩, ⟨_, first.maximum, second.maximum⟩,
    ⟨_, first.exclusiveMinimum, second.exclusiveMinimum⟩, ⟨_, first.exclusiveMaximum, second.exclusiveMaximum⟩,
    ⟨_, first.multipleOf, second.multipleOf⟩⟩

theorem schema_through {s other third : Schema} (along : Schema.Along related s other)
    (again : Schema.Along further other third) : Schema.Along (Relation.Comp related further) s third := by
  cases along <;> cases again <;> constructor <;>
    first
    | exact labels_through ‹_› ‹_›
    | exact bounds_through ‹_› ‹_›
    | exact ⟨_, ‹_›, ‹_›⟩

theorem along_through {value other third : Value} (along : value.Along related other)
    (again : other.Along further third) : value.Along (Relation.Comp related further) third := by
  cases along <;> cases again <;> constructor <;>
    first
    | exact each_through ‹_› ‹_›
    | exact entries_through ‹_› ‹_›
    | exact labels_through ‹_› ‹_›
    | exact schema_through ‹_› ‹_›
    | exact ⟨_, ‹_›, ‹_›⟩

end Transitive

-- What runs along a value piece by piece is one value, where every piece has one partner.
section Unique

variable {related : Value → Value → Prop}
  (unique : ∀ part other third, related part other → related part third → other = third)

include unique

theorem each_unique {items others thirds : List Value} (first : List.Forall₂ related items others)
    (second : List.Forall₂ related items thirds) : others = thirds := by
  induction first generalizing thirds with
  | nil =>
      cases second
      rfl
  | cons here _ hypothesis =>
      cases second with
      | cons there later => rw [unique _ _ _ here there, hypothesis later]

theorem entries_unique {κ : Type} {entries others thirds : List (κ × Value)}
    (first : EntriesAlong related entries others) (second : EntriesAlong related entries thirds) : others = thirds := by
  induction first generalizing thirds with
  | nil =>
      cases second
      rfl
  | cons here _ hypothesis =>
      cases second with
      | cons there later =>
          rw [Prod.ext (here.1.symm.trans there.1) (unique _ _ _ here.2 there.2), hypothesis later]

theorem labels_unique {labels others thirds : Labels} (first : Labels.Along related labels others)
    (second : Labels.Along related labels thirds) : others = thirds := by
  obtain ⟨title, description, examples⟩ := others
  obtain ⟨title', description', examples'⟩ := thirds
  rw [Labels.mk.injEq]
  exact ⟨unique _ _ _ first.title second.title, unique _ _ _ first.description second.description,
    each_unique unique first.examples second.examples⟩

theorem bounds_unique {bounds others thirds : Bounds} (first : Bounds.Along related bounds others)
    (second : Bounds.Along related bounds thirds) : others = thirds := by
  obtain ⟨low, high, below, above, factor⟩ := others
  obtain ⟨low', high', below', above', factor'⟩ := thirds
  rw [Bounds.mk.injEq]
  exact ⟨unique _ _ _ first.minimum second.minimum, unique _ _ _ first.maximum second.maximum,
    unique _ _ _ first.exclusiveMinimum second.exclusiveMinimum,
    unique _ _ _ first.exclusiveMaximum second.exclusiveMaximum, unique _ _ _ first.multipleOf second.multipleOf⟩

theorem schema_unique {s other third : Schema} (along : Schema.Along related s other)
    (again : Schema.Along related s third) : other = third := by
  cases along with
  | object shared first second third =>
      cases again with
      | object also a b c =>
          rw [labels_unique unique shared also, unique _ _ _ first a, unique _ _ _ second b, unique _ _ _ third c]
  | array shared first second third =>
      cases again with
      | array also a b c =>
          rw [labels_unique unique shared also, unique _ _ _ first a, unique _ _ _ second b, unique _ _ _ third c]
  | string shared first second third fourth fifth =>
      cases again with
      | string also a b c d e =>
          rw [labels_unique unique shared also, unique _ _ _ first a, unique _ _ _ second b, unique _ _ _ third c,
            unique _ _ _ fourth d, unique _ _ _ fifth e]
  | integer shared first second =>
      cases again with
      | integer also a b => rw [labels_unique unique shared also, unique _ _ _ first a, bounds_unique unique second b]
  | number shared first second =>
      cases again with
      | number also a b => rw [labels_unique unique shared also, unique _ _ _ first a, bounds_unique unique second b]
  | boolean shared first =>
      cases again with
      | boolean also a => rw [labels_unique unique shared also, unique _ _ _ first a]
  | null shared =>
      cases again with
      | null also => rw [labels_unique unique shared also]
  | ref shared first =>
      cases again with
      | ref also a => rw [labels_unique unique shared also, unique _ _ _ first a]
  | combined first =>
      cases again with
      | combined a => rw [unique _ _ _ first a]
  | fallback first =>
      cases again with
      | fallback a => rw [unique _ _ _ first a]

theorem along_unique {value other third : Value} (along : value.Along related other)
    (again : value.Along related third) : other = third := by
  cases along with
  | list each =>
      cases again with
      | list also => rw [each_unique unique each also]
  | tuple each =>
      cases again with
      | tuple also => rw [each_unique unique each also]
  | table each =>
      cases again with
      | table also => rw [entries_unique unique each also]
  | frozen each =>
      cases again with
      | frozen also => rw [entries_unique unique each also]
  | showing first =>
      cases again with
      | showing also => rw [unique _ _ _ first also]
  | settings each =>
      cases again with
      | settings also => rw [entries_unique unique each also]
  | holder each =>
      cases again with
      | holder also => rw [entries_unique unique each also]
  | schema fields =>
      cases again with
      | schema also => rw [schema_unique unique fields also]
  | combinator shared first =>
      cases again with
      | combinator also a => rw [labels_unique unique shared also, unique _ _ _ first a]
  | property first second =>
      cases again with
      | property a b => rw [unique _ _ _ first a, unique _ _ _ second b]
  | customFormat first =>
      cases again with
      | customFormat also => rw [unique _ _ _ first also]
  | model each first =>
      cases again with
      | model also a => rw [entries_unique unique each also, unique _ _ _ first a]
  | _ =>
      cases again
      rfl

end Unique

-- Values that run along each other piece by piece in the same form.
section Forms

theorem forms_along {items others : List Value}
    (each : List.Forall₂ (fun item other => other.form = item.form) items others) :
    Value.forms others = Value.forms items := by
  induction each with
  | nil => rfl
  | cons here _ hypothesis => rw [Value.forms, Value.forms, here, hypothesis]

theorem entry_forms_along {entries others : List (Value × Value)}
    (each : EntriesAlong (fun value other => other.form = value.form) entries others) :
    Value.entryForms others = Value.entryForms entries := by
  induction each with
  | nil => rfl
  | @cons entry other _ _ here _ hypothesis =>
      obtain ⟨key, value⟩ := entry
      obtain ⟨_, value'⟩ := other
      obtain ⟨rfl, same⟩ := here
      rw [Value.entryForms, Value.entryForms, same, hypothesis]

theorem field_forms_along {fields others : List (String × Value)}
    (each : EntriesAlong (fun value other => other.form = value.form) fields others) :
    Value.fieldForms others = Value.fieldForms fields := by
  induction each with
  | nil => rfl
  | @cons field other _ _ here _ hypothesis =>
      obtain ⟨name, value⟩ := field
      obtain ⟨_, value'⟩ := other
      obtain ⟨rfl, same⟩ := here
      rw [Value.fieldForms, Value.fieldForms, same, hypothesis]

theorem label_forms_along {labels others : Labels}
    (along : Labels.Along (fun value other => other.form = value.form) labels others) :
    others.fieldForms = labels.fieldForms := by
  obtain ⟨title, description, examples⟩ := labels
  obtain ⟨title', description', examples'⟩ := others
  have each := forms_along along.examples
  rw [Labels.fieldForms, Labels.fieldForms, along.title, along.description, each]

theorem bound_forms_along {bounds others : Bounds}
    (along : Bounds.Along (fun value other => other.form = value.form) bounds others) :
    others.fieldForms = bounds.fieldForms := by
  obtain ⟨low, high, below, above, factor⟩ := bounds
  obtain ⟨low', high', below', above', factor'⟩ := others
  rw [Bounds.fieldForms, Bounds.fieldForms, along.minimum, along.maximum, along.exclusiveMinimum,
    along.exclusiveMaximum, along.multipleOf]

theorem schema_forms_along {s s' : Schema} (along : Schema.Along (fun value other => other.form = value.form) s s') :
    s'.fieldForms = s.fieldForms ∧ s'.recordClass = s.recordClass := by
  cases along with
  | object shared first second third => simp [Schema.fieldForms, Schema.recordClass, label_forms_along shared, *]
  | array shared first second third => simp [Schema.fieldForms, Schema.recordClass, label_forms_along shared, *]
  | string shared first second third fourth fifth =>
      simp [Schema.fieldForms, Schema.recordClass, label_forms_along shared, *]
  | integer shared first second =>
      simp [Schema.fieldForms, Schema.recordClass, label_forms_along shared, bound_forms_along second, *]
  | number shared first second =>
      simp [Schema.fieldForms, Schema.recordClass, label_forms_along shared, bound_forms_along second, *]
  | boolean shared first => simp [Schema.fieldForms, Schema.recordClass, label_forms_along shared, *]
  | null shared => simp [Schema.fieldForms, Schema.recordClass, label_forms_along shared]
  | ref shared first => simp [Schema.fieldForms, Schema.recordClass, label_forms_along shared, *]
  | combined first => simp [Schema.fieldForms, Schema.recordClass, *]
  | fallback first => simp [Schema.fieldForms, Schema.recordClass, *]

theorem along_form {value other : Value} (along : value.Along (fun part other => other.form = part.form) other) :
    other.form = value.form := by
  cases along with
  | list each => rw [Value.form, Value.form, forms_along each]
  | tuple each => rw [Value.form, Value.form, forms_along each]
  | table each => rw [Value.form, Value.form, entry_forms_along each]
  | frozen each => rw [Value.form, Value.form, entry_forms_along each]
  | showing first => rw [Value.form, Value.form, first]
  | settings each => rw [Value.form, Value.form, field_forms_along each]
  | holder each => rw [Value.form, Value.form, field_forms_along each]
  | schema fields =>
      obtain ⟨forms, cls⟩ := schema_forms_along fields
      rw [Value.form, Value.form, forms, cls]
  | combinator shared first =>
      rw [Value.form, Value.form, Combinator.form, Combinator.form, label_forms_along shared, first]
  | property first second => rw [Value.form, Value.form, Property.form, Property.form, first, second]
  | customFormat first => rw [Value.form, Value.form, first]
  | model each first => rw [Value.form, Value.form, Model.form, Model.form, entry_forms_along each, first]
  | _ => rfl

end Forms

end Schemata
