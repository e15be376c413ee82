import Schemata.Query

set_option autoImplicit false

/-!
Tours of a tree: a row for every node, parents before children and siblings in document order. A
work list holds what is still to be visited; it shrinks in total size because a node's children are
together smaller than the node, also where a child is reached through attributes of some other
object. A tour ends at the first fault in its own order; a value that is no schema is one.
-/

namespace Schemata

-- A value and what is known of its place.
structure Placed (α : Type) where
  place : α
  value : Value

-- Only schemas have anything below them.
noncomputable def Value.burden : Value → Nat
  | .schema _ s => sizeOf s
  | _ => 0

theorem burden_le (value : Value) : value.burden ≤ sizeOf value := by
  cases value <;> simp only [Value.burden, Value.schema.sizeOf_spec] <;> omega

noncomputable def burdens : List Value → Nat
  | [] => 0
  | value :: rest => value.burden + burdens rest

theorem burdens_append (left right : List Value) : burdens (left ++ right) = burdens left + burdens right := by
  induction left with
  | nil => simp [burdens]
  | cons value rest hypothesis => simp [burdens, hypothesis, Nat.add_assoc]

theorem burdens_le (values : List Value) : burdens values ≤ sizeOf values := by
  induction values with
  | nil => simp [burdens]
  | cons value rest hypothesis =>
      have smaller := burden_le value
      simp only [burdens, List.cons.sizeOf_spec]
      omega

theorem burdens_of_texts {α : Type} (items : List α) (text : α → String) :
    burdens (items.map fun item => .text (text item)) = 0 := by
  induction items with
  | nil => simp [burdens]
  | cons item rest hypothesis => simpa [burdens, Value.text, Value.burden] using hypothesis

theorem burdens_of_keys (entries : List (Value × Value)) :
    burdens (entries.map Prod.fst) ≤ sizeOf entries := by
  induction entries with
  | nil => simp [burdens]
  | cons entry rest hypothesis =>
      obtain ⟨key, value⟩ := entry
      have smaller := burden_le key
      simp only [List.map_cons, burdens, List.cons.sizeOf_spec, Prod.mk.sizeOf_spec]
      omega

noncomputable def workload {α : Type} (work : List (Placed α)) : Nat := burdens (work.map Placed.value)

theorem lookup_smaller (entries : List (String × Value)) (name : String) (value : Value)
    (found : entries.lookup name = some value) : sizeOf value < sizeOf entries := by
  induction entries with
  | nil => simp at found
  | cons entry rest hypothesis =>
      obtain ⟨key, other⟩ := entry
      rw [List.lookup_cons] at found
      simp only [List.cons.sizeOf_spec, Prod.mk.sizeOf_spec]
      split at found
      · obtain rfl := Option.some.inj found
        omega
      · have smaller := hypothesis found
        omega

-- What is read is an attribute, or a member that nothing more is known of.
theorem attribute_among_cases (value : Value) (name : String) (attributes : List (String × Value))
    (found : Value) (read : attributeAmong value name attributes = .ok found) :
    attributes.lookup name = some found ∨ ∃ sort, found = .member sort := by
  unfold attributeAmong at read
  split at read
  · rename_i other shape
    exact .inl (by rw [shape, Except.ok.inj read])
  · split at read
    · exact .inr ⟨_, (Except.ok.inj read).symm⟩
    · exact absurd read (by simp)

theorem shown_size_le (value : Value) : sizeOf value.shown ≤ sizeOf value := by
  unfold Value.shown
  split
  · rename_i handle other
    have smaller := shown_size_le other
    simp only [Value.showing.sizeOf_spec]
    omega
  · exact Nat.le_refl _
termination_by sizeOf value

theorem elements_burden (value : Value) (items : List Value) (found : value.elements = .ok items) :
    burdens items ≤ sizeOf value := by
  have bound := shown_size_le value
  unfold Value.elements at found
  split at found
  · rename_i others elements
    obtain rfl := Except.ok.inj found
    unfold Value.elements? at elements
    split at elements
    · rename_i handle items shape
      obtain rfl := Option.some.inj elements
      have smaller := burdens_le items
      rw [shape, Value.list.sizeOf_spec] at bound
      omega
    · rename_i handle items shape
      obtain rfl := Option.some.inj elements
      have smaller := burdens_le items
      rw [shape, Value.tuple.sizeOf_spec] at bound
      omega
    · rename_i handle entries shape
      obtain rfl := Option.some.inj elements
      have smaller := burdens_of_keys entries
      rw [shape, Value.table.sizeOf_spec] at bound
      omega
    · rename_i handle entries shape
      obtain rfl := Option.some.inj elements
      have smaller := burdens_of_keys entries
      rw [shape, Value.frozen.sizeOf_spec] at bound
      omega
    · obtain ⟨spelling, _, rfl⟩ := Option.map_eq_some_iff.mp elements
      rw [burdens_of_texts]
      omega
    · exact absurd elements (by simp)
  · exact absurd found (by simp)

theorem items_smaller (value : Value) (items : List Value) (found : value.items = .ok items) :
    sizeOf items < sizeOf value := by
  cases value with
  | tuple handle others =>
      obtain rfl := Except.ok.inj found
      simp only [Value.tuple.sizeOf_spec]
      omega
  | _ => simp [Value.items] at found

-- A value is smaller than another one, or it has no nodes of its own.
def Below (value whole : Value) : Prop :=
  sizeOf value < sizeOf whole ∨ (∃ s, value = .scalar s) ∨ ∃ sort, value = .member sort

theorem value_size_positive (value : Value) : 0 < sizeOf value := by
  cases value <;>
    simp only [Value.scalar.sizeOf_spec, Value.list.sizeOf_spec, Value.tuple.sizeOf_spec,
      Value.table.sizeOf_spec, Value.frozen.sizeOf_spec, Value.showing.sizeOf_spec,
      Value.settings.sizeOf_spec,
      Value.holder.sizeOf_spec, Value.schema.sizeOf_spec, Value.combinator.sizeOf_spec,
      Value.property.sizeOf_spec, Value.customFormat.sizeOf_spec, Value.model.sizeOf_spec,
      Value.elsewhere.sizeOf_spec, Value.member.sizeOf_spec] <;>
    omega

theorem below_burden (value whole : Value) (below : Below value whole) : value.burden < sizeOf whole := by
  have bound := burden_le value
  have positive := value_size_positive whole
  rcases below with smaller | ⟨s, rfl⟩ | ⟨sort, rfl⟩
  · omega
  · simpa only [Value.burden] using positive
  · simpa only [Value.burden] using positive

theorem below_elements (value whole : Value) (below : Below value whole) (items : List Value)
    (found : value.elements = .ok items) : burdens items < sizeOf whole := by
  have bound := elements_burden value items found
  have positive := value_size_positive whole
  rcases below with smaller | ⟨s, rfl⟩ | ⟨sort, rfl⟩
  · omega
  · cases spelled : s.text? with
    | none => simp [Value.elements, Value.elements?, Value.shown, spelled] at found
    | some text =>
        simp only [Value.elements, Value.elements?, Value.shown, spelled, Option.map_some, Except.ok.injEq] at found
        rw [← found, burdens_of_texts]
        exact positive
  · simp [Value.elements, Value.elements?, Value.shown] at found

theorem attribute_among_below (value : Value) (name : String) (attributes : List (String × Value))
    (found whole : Value) (read : attributeAmong value name attributes = .ok found)
    (part : attributes.lookup name = some found → Below found whole) : Below found whole := by
  rcases attribute_among_cases value name attributes found read with here | ⟨sort, same⟩
  · exact part here
  · exact .inr (.inr ⟨sort, same⟩)

theorem lookup_member (entries : List (String × Value)) (name : String) (value : Value)
    (found : entries.lookup name = some value) : ∃ entry ∈ entries, entry.2 = value := by
  induction entries with
  | nil => simp at found
  | cons entry rest hypothesis =>
      obtain ⟨key, other⟩ := entry
      rw [List.lookup_cons] at found
      split at found
      · exact ⟨(key, other), by simp, Option.some.inj found⟩
      · obtain ⟨entry, member, same⟩ := hypothesis found
        exact ⟨entry, by simp [member], same⟩

theorem scalar_attributes_below (s : Scalar) (name : String) (found whole : Value)
    (here : s.attributes.lookup name = some found) : Below found whole := by
  obtain ⟨entry, member, rfl⟩ := lookup_member _ _ _ here
  refine .inr (.inl ?_)
  cases s with
  | keyword k =>
      simp only [Scalar.attributes, keywordAttributes, List.mem_cons, List.mem_map] at member
      rcases member with rfl | rfl | ⟨other, _, rfl⟩
      · exact ⟨_, rfl⟩
      · exact ⟨_, rfl⟩
      · exact ⟨_, rfl⟩
  | bool b =>
      simp only [Scalar.attributes, integerAttributes, List.mem_cons, List.not_mem_nil, or_false] at member
      rcases member with rfl | rfl | rfl | rfl <;> exact ⟨_, rfl⟩
  | int n =>
      simp only [Scalar.attributes, integerAttributes, List.mem_cons, List.not_mem_nil, or_false] at member
      rcases member with rfl | rfl | rfl | rfl <;> exact ⟨_, rfl⟩
  | float x =>
      simp only [Scalar.attributes, List.mem_cons, List.not_mem_nil, or_false] at member
      rcases member with rfl | rfl <;> exact ⟨_, rfl⟩
  | _ => simp [Scalar.attributes] at member

theorem alternatives_below (combinator : Value) (alternatives : Value)
    (found : combinator.attribute "sub_schemas" = .ok alternatives) : Below alternatives combinator := by
  cases combinator with
  | schema handle s =>
      cases s with
      | combined mode inner =>
          have below := alternatives_below inner alternatives
            (by simpa [Value.attribute, Schema.attribute, sharedFields] using found)
          refine below.imp (fun smaller => ?_) id
          simp only [Value.schema.sizeOf_spec, Schema.combined.sizeOf_spec]
          omega
      | object labels properties low high =>
          refine attribute_among_below _ _ _ _ _
            (by simpa [Value.attribute, Schema.attribute] using found) (fun here => ?_)
          simp [Schema.fields, Labels.fields, List.lookup_cons] at here
      | _ =>
          refine attribute_among_below _ _ _ _ _
            (by simpa [Value.attribute, Schema.attribute] using found) (fun here => ?_)
          simp [Schema.fields, Labels.fields, Bounds.fields, List.lookup_cons] at here
  | scalar s =>
      refine attribute_among_below _ _ _ _ _ (by simpa [Value.attribute] using found) (fun here => ?_)
      exact scalar_attributes_below s _ alternatives _ here
  | settings handle attributes =>
      refine attribute_among_below _ _ _ _ _ (by simpa [Value.attribute] using found) (fun here => ?_)
      have smaller := lookup_smaller attributes "sub_schemas" alternatives
        (by simpa [List.lookup_append, Value.settingsDefaults, List.lookup_cons] using here)
      refine .inl ?_
      simp only [Value.settings.sizeOf_spec]
      omega
  | holder handle attributes =>
      refine attribute_among_below _ _ _ _ _ (by simpa [Value.attribute] using found) (fun here => ?_)
      have smaller := lookup_smaller attributes "sub_schemas" alternatives here
      refine .inl ?_
      simp only [Value.holder.sizeOf_spec]
      omega
  | combinator handle c =>
      refine attribute_among_below _ _ _ _ _ (by simpa [Value.attribute] using found) (fun here => ?_)
      cases c
      simp [Combinator.fields, Labels.fields, List.lookup_cons] at here
      subst here
      refine .inl ?_
      simp only [Value.combinator.sizeOf_spec, Combinator.mk.sizeOf_spec]
      omega
  | elsewhere handle shape => simp [Value.attribute] at found
  | _ =>
      refine attribute_among_below _ _ _ _ _ (by simpa [Value.attribute] using found) (fun here => ?_)
      simp [Property.attributes, Model.attributes, List.lookup_cons] at here

theorem property_schema_below (property schema : Value)
    (found : property.attribute "schema" = .ok schema) : Below schema property := by
  cases property with
  | schema handle s =>
      cases s <;>
        refine attribute_among_below _ _ _ _ _
          (by simpa [Value.attribute, Schema.attribute, sharedFields] using found) (fun here => ?_) <;>
        simp [Schema.fields, Labels.fields, Bounds.fields, List.lookup_cons] at here
  | scalar s =>
      refine attribute_among_below _ _ _ _ _ (by simpa [Value.attribute] using found) (fun here => ?_)
      exact scalar_attributes_below s _ schema _ here
  | settings handle attributes =>
      refine attribute_among_below _ _ _ _ _ (by simpa [Value.attribute] using found) (fun here => ?_)
      have smaller := lookup_smaller attributes "schema" schema
        (by simpa [List.lookup_append, Value.settingsDefaults, List.lookup_cons] using here)
      refine .inl ?_
      simp only [Value.settings.sizeOf_spec]
      omega
  | holder handle attributes =>
      refine attribute_among_below _ _ _ _ _ (by simpa [Value.attribute] using found) (fun here => ?_)
      have smaller := lookup_smaller attributes "schema" schema here
      refine .inl ?_
      simp only [Value.holder.sizeOf_spec]
      omega
  | property handle p =>
      refine attribute_among_below _ _ _ _ _ (by simpa [Value.attribute] using found) (fun here => ?_)
      cases p
      simp [Property.attributes, List.lookup_cons] at here
      subst here
      refine .inl ?_
      simp only [Value.property.sizeOf_spec, Property.mk.sizeOf_spec]
      omega
  | elsewhere handle shape => simp [Value.attribute] at found
  | _ =>
      refine attribute_among_below _ _ _ _ _ (by simpa [Value.attribute] using found) (fun here => ?_)
      simp [Combinator.fields, Labels.fields, Model.attributes, List.lookup_cons] at here

theorem branches_values (mode : Mode) (start : Nat) (values : List Value) :
    (branches mode start values).map Prod.snd = values := by
  induction values generalizing start with
  | nil => simp [branches]
  | cons value rest hypothesis => simp [branches, hypothesis]

theorem printed_branches_values (words : KindWords) (mode : Mode) (values : List Value) (children : List (Step × Value))
    (found : printedBranches words mode values = .ok children) : children.map Prod.snd = values := by
  unfold printedBranches at found
  split at found
  · rename_i none
    obtain rfl := Except.ok.inj found
    exact (List.isEmpty_iff.mp none).symm
  · cases printed : (words mode.kind).printed with
    | error fault => simp [printed, Except.map] at found
    | ok text =>
        obtain rfl : branches mode 0 values = children := by simpa [printed, Except.map] using found
        exact branches_values mode 0 values

theorem property_child_below (property : Value) (child : Step × Value)
    (found : propertyChild property = .ok child) : Below child.2 property := by
  unfold propertyChild at found
  cases named : property.attribute "name" with
  | error fault => simp [named, bind, Except.bind] at found
  | ok name =>
      cases spelled : name.textFor "replace" with
      | error fault => simp [named, spelled, bind, Except.bind] at found
      | ok token =>
          cases led : property.attribute "schema" with
          | error fault => simp [named, spelled, led, bind, Except.bind] at found
          | ok schema =>
              obtain rfl : (.property token, schema) = child := by
                simpa [named, spelled, led, bind, Except.bind, pure, Except.pure] using found
              exact property_schema_below property schema led

/-- What properties lead to, one by one, is together no larger than the properties. -/
theorem reached_burden {γ : Type} (step : Value → Except Fault γ) (value : γ → Value)
    (reached : ∀ property child, step property = .ok child → Below (value child) property)
    (properties : List Value) (children : List γ) (found : properties.mapM step = .ok children) :
    burdens (children.map value) ≤ sizeOf properties := by
  induction properties generalizing children with
  | nil =>
      obtain rfl : [] = children := by simpa [pure, Except.pure] using found
      simp [burdens]
  | cons property rest hypothesis =>
      rw [List.mapM_cons] at found
      cases here : step property with
      | error fault => simp [here, bind, Except.bind] at found
      | ok first =>
          cases there : rest.mapM step with
          | error fault => simp [here, there, bind, Except.bind] at found
          | ok others =>
              obtain rfl : first :: others = children := by
                simpa [here, there, bind, Except.bind, pure, Except.pure] using found
              have head := below_burden _ _ (reached property first here)
              have tail := hypothesis others there
              simp only [List.map_cons, burdens, List.cons.sizeOf_spec]
              omega

theorem Schema.size_positive (s : Schema) : 0 < sizeOf s := by
  cases s <;>
    simp only [Schema.object.sizeOf_spec, Schema.array.sizeOf_spec, Schema.string.sizeOf_spec,
      Schema.integer.sizeOf_spec, Schema.number.sizeOf_spec, Schema.boolean.sizeOf_spec,
      Schema.null.sizeOf_spec, Schema.ref.sizeOf_spec, Schema.combined.sizeOf_spec,
      Schema.fallback.sizeOf_spec] <;>
    omega

/-- Children are together smaller than their node. -/
theorem children_burden (s : Schema) (words : KindWords) (children : List (Step × Value))
    (found : s.children words = .ok children) : burdens (children.map Prod.snd) < sizeOf s := by
  unfold Schema.children at found
  split at found
  · rename_i labels properties low high
    cases listed : properties.items with
    | error fault => simp [listed, bind, Except.bind] at found
    | ok items =>
        have smaller := items_smaller properties items listed
        have bound := reached_burden propertyChild Prod.snd property_child_below items children
          (by simpa [listed, bind, Except.bind] using found)
        simp only [Schema.object.sizeOf_spec]
        omega
  · obtain rfl := Except.ok.inj found
    simp only [List.map_nil, burdens, Schema.array.sizeOf_spec]
    omega
  · rename_i labels items low high _
    obtain rfl := Except.ok.inj found
    have bound := burden_le items
    simp only [List.map_cons, List.map_nil, burdens, Schema.array.sizeOf_spec]
    omega
  · rename_i mode combinator
    cases read : combinator.attribute "sub_schemas" with
    | error fault => simp [read, bind, Except.bind] at found
    | ok alternatives =>
        cases listed : alternatives.elements with
        | error fault => simp [read, listed, bind, Except.bind] at found
        | ok items =>
            have bound := below_elements _ _ (alternatives_below combinator alternatives read) items listed
            rw [printed_branches_values words mode items children
              (by simpa [read, listed, bind, Except.bind] using found)]
            simp only [Schema.combined.sizeOf_spec]
            omega
  · obtain rfl := Except.ok.inj found
    exact s.size_positive

/-- A way to go through a tree: the row of each node, and the places below it. -/
structure Tour (α β : Type) where
  row : α → Schema → Except Fault β
  below : α → Schema → Except Fault (List (Placed α))
  shrinks : ∀ place s found, below place s = .ok found → workload found < sizeOf s

/-- Visits the first of the work list, then what is below it, then the others. -/
def Tour.visit {α β : Type} (tour : Tour α β) : List (Placed α) → Array β → Except Fault (Array β)
  | [], rows => .ok rows
  | ⟨place, .schema _ s⟩ :: rest, rows =>
    match tour.row place s with
    | .error fault => .error fault
    | .ok row =>
      match _ : tour.below place s with
      | .error fault => .error fault
      | .ok found => tour.visit (found ++ rest) (rows.push row)
  | ⟨_, value⟩ :: _, _ => .error value.refuseNode
termination_by work => workload work
decreasing_by
  have smaller := tour.shrinks place s found ‹_›
  simp only [workload, List.map_append, burdens_append, List.map_cons, burdens, Value.burden] at smaller ⊢
  omega

end Schemata
