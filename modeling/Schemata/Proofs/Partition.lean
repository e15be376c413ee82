import Schemata.Proofs.Call
import Schemata.Proofs.Tree

set_option autoImplicit false

/-!
The partition of an object's properties. An object schema that is built from a mapping and from required
names has one property for each key, in the order that its settings ask for, and tells by name which
properties there are and which of them are required.
-/

namespace Schemata

-- No settings ask for the sorted order; settings ask for the order that is read from them.
def Value.AsksFor (settings : Value) (order : KeyOrder) : Prop :=
  settings = .null ∧ order = .sorted ∨
    ∃ handle attributes, settings = .settings handle attributes ∧
      settings.attribute Config.keyOrderKey = .ok (.keyword (.keyOrder order))

-- A call of the builder of objects with arguments of the declared sorts.
structure Arguments.CallsObject (args : Arguments) (entries : List (String × Value)) (required : List String)
    (order : KeyOrder) : Prop where
  known : args.unexpected? Builder.object.parameters = none
  properties : (args.get "properties").entries? = some (underTexts entries)
  distinct : DistinctKeys entries
  required : ∃ names, (args.get "required").elements? = some names ∧ names.mapM Value.text? = some required
  examples : ∃ items, (args.get "examples").elements? = some items ∧ ∀ item ∈ items, item.Nested
  config : (args.get "config").AsksFor order

-- The property of a key.
def keyProperty (required : List String) (name : String) (schema : Value) : Value :=
  .property none ⟨decide (name ∈ required), .text name, schema⟩

structure Partition (entries : List (String × Value)) (required : List String) (order : KeyOrder) (node : Value)
    (names : List String) : Prop where
  named : node.attribute "property_names" = .ok (.tuple none (names.map Value.text))
  keys : names.Perm (entries.map Prod.fst)
  once : names.Nodup
  ascending : order = .sorted → names.Pairwise (· < ·)
  kept : order = .insertion → names = entries.map Prod.fst
  split : ∃ properties, node.attribute "properties" = .ok (.tuple none properties) ∧
    List.Forall₂ (fun name property => ∃ schema, (name, schema) ∈ entries ∧
      property = keyProperty required name schema) names properties
  mandatory : node.attribute "required_names" =
    .ok (.tuple none ((names.filter fun name => decide (name ∈ required)).map Value.text))
  found : ∀ entry ∈ entries,
    node.propertyNamed (.text entry.1) = .ok (some (keyProperty required entry.1 entry.2))
  absent : ∀ name, name ∉ entries.map Prod.fst → node.propertyNamed (.text name) = .ok none

-- Settings have their attributes for fields, and a default where there is none.
theorem settings_lookup (attributes : List (String × Value)) (name : String) (default : Value)
    (known : Value.settingsDefaults.lookup name = some default) :
    (Value.settingsFields attributes).lookup name = some ((attributes.lookup name).getD default) := by
  rw [Value.settingsFields]
  generalize Value.settingsDefaults = defaults at known
  induction defaults with
  | nil => cases known
  | cons field rest hypothesis =>
      rw [List.lookup_cons] at known
      rw [List.map_cons, List.lookup_cons]
      cases same : name == field.1 with
      | true =>
          rw [same] at known
          obtain rfl := Option.some.inj known
          obtain rfl := eq_of_beq same
          rfl
      | false =>
          rw [same] at known
          exact hypothesis known

theorem settings_field (handle : Handle) (attributes : List (String × Value)) (name : String) (default value : Value)
    (known : Value.settingsDefaults.lookup name = some default)
    (read : (Value.settings handle attributes).attribute name = .ok value) :
    (Value.settingsFields attributes).lookup name = some value := by
  rw [Value.attribute, attributeAmong, List.lookup_append, known] at read
  rw [settings_lookup attributes name default known]
  cases found : attributes.lookup name with
  | none =>
      rw [found] at read
      exact congrArg some (Except.ok.inj read)
  | some other =>
      rw [found] at read
      exact congrArg some (Except.ok.inj read)

theorem order_of_member (order : KeyOrder) : Config.orderOf (.keyword (.keyOrder order)) = order := by
  have compared : (Value.keyword (.keyOrder order)).same (.text KeyOrder.sorted.text) =
      decide (order = .sorted) := by
    rw [Value.keyword, Value.text, same_scalars]
    cases order <;> decide
  rw [Config.orderOf, compared]
  cases order <;> rfl

theorem asked_order (settings : Value) (order : KeyOrder) (asked : settings.AsksFor order) :
    ∃ config, Config.ofValue? settings = some config ∧ config.keyOrder = order := by
  rcases asked with ⟨rfl, rfl⟩ | ⟨handle, attributes, rfl, read⟩
  · exact ⟨{}, rfl, rfl⟩
  · have field := settings_field handle attributes Config.keyOrderKey _ _ rfl read
    refine ⟨_, rfl, ?_⟩
    dsimp only
    rw [field]
    exact order_of_member order

theorem order_perm (config : Config) (entries : List (String × Value)) : (config.order entries).Perm entries := by
  rw [Config.order]
  cases config.keyOrder with
  | sorted => exact List.mergeSort_perm entries _
  | insertion => exact .refl entries

-- Settings that ask for one order put entries in one order.
theorem order_alike (config other : Config) (alike : other.keyOrder = config.keyOrder)
    (entries : List (String × Value)) : other.order entries = config.order entries := by
  rw [Config.order, Config.order, alike]

theorem order_names_distinct (config : Config) (entries : List (String × Value)) (distinct : DistinctKeys entries) :
    ((config.order entries).map Prod.fst).Nodup :=
  ((order_perm config entries).map Prod.fst).nodup_iff.mpr distinct

-- What is sorted by texts ascends by them.
theorem merged_ascending {α : Type} (key : α → String) (items : List α) :
    (items.mergeSort fun a b => decide (key a ≤ key b)).Pairwise fun a b => key a ≤ key b := by
  have merged : (items.mergeSort fun a b => decide (key a ≤ key b)).Pairwise
      fun a b => decide (key a ≤ key b) = true := by
    apply List.pairwise_mergeSort
    · intro a b c first second
      simp only [decide_eq_true_eq] at first second ⊢
      exact String.le_trans first second
    · intro a b
      simpa using String.le_total (key a) (key b)
  exact merged.imp fun less => of_decide_eq_true less

-- Where the texts are different, it ascends strictly.
theorem merged_strict {α : Type} (key : α → String) (items : List α) (once : (items.map key).Nodup) :
    (items.mergeSort fun a b => decide (key a ≤ key b)).Pairwise fun a b => key a < key b := by
  have moved := (List.mergeSort_perm items fun a b => decide (key a ≤ key b)).map key
  have apart := List.pairwise_map.mp (List.nodup_iff_pairwise_ne.mp (moved.nodup_iff.mpr once))
  refine (merged_ascending key items).imp₂ (fun _ _ less unequal => ?_) apart
  exact String.not_le.mp fun back => unequal (String.le_antisymm less back)

theorem order_ascending (config : Config) (sorted : config.keyOrder = .sorted) (entries : List (String × Value))
    (distinct : DistinctKeys entries) : ((config.order entries).map Prod.fst).Pairwise (· < ·) := by
  rw [Config.order, sorted]
  exact List.pairwise_map.mpr (merged_strict Prod.fst entries distinct)

theorem order_finds (config : Config) (entries : List (String × Value)) (distinct : DistinctKeys entries)
    (entry : String × Value) (member : entry ∈ entries) :
    ((config.order entries).find? fun other => other.1 == entry.1) = some entry :=
  find_distinct Prod.fst _ (order_names_distinct config entries distinct) entry
    ((order_perm config entries).mem_iff.mpr member)

theorem order_misses (config : Config) (entries : List (String × Value)) (name : String)
    (absent : name ∉ entries.map Prod.fst) : ((config.order entries).find? fun entry => entry.1 == name) = none := by
  rw [List.find?_eq_none]
  intro entry member same
  exact absent (eq_of_beq same ▸ List.mem_map_of_mem ((order_perm config entries).mem_iff.mp member))

theorem names_shown (properties : List Property) :
    Value.attributeOfAll "name" (properties.map (Value.property none)) = .ok (properties.map Property.name) := by
  induction properties with
  | nil => rfl
  | cons property rest hypothesis =>
      rw [List.map_cons, Value.attributeOfAll, hypothesis]
      rfl

theorem required_names_shown (properties : List Property) :
    Value.requiredNames (properties.map (Value.property none)) =
      .ok ((properties.filter Property.required).map Property.name) := by
  induction properties with
  | nil => rfl
  | cons property rest hypothesis =>
      have read : (Value.property none property).attribute "is_required" = .ok (.bool property.required) := rfl
      rw [List.map_cons, Value.requiredNames, hypothesis, read, List.filter_cons]
      cases required : property.required with
      | true => rfl
      | false => rfl

-- Arguments of the declared sorts are what the builder of objects splits and orders.
theorem object_built (args : Arguments) (entries : List (String × Value)) (required : List String) (config : Config)
    (labels : Labels) (known : args.unexpected? Builder.object.parameters = none)
    (properties : args.textMapping? "properties" = some entries) (names : args.requiredNames? = some required)
    (configured : args.config? = some config) (labelled : args.labels = .ok labels) :
    Builder.object.apply args =
      { value := .ok (.schema none (.ofEntries labels entries required (args.get "min_properties")
          (args.get "max_properties") config)),
        events := undefinedWarning config labels.title required entries } := by
  rw [Builder.apply, known]
  change args.objectSchema = _
  rw [Arguments.objectSchema, properties, names, configured, labelled]
  rfl

theorem object_call_with (args : Arguments) (entries : List (String × Value)) (required : List String)
    (order : KeyOrder) (call : args.CallsObject entries required order) (examples : List Value)
    (given : (args.get "examples").elements? = some examples) (nested : ∀ item ∈ examples, item.Nested) :
    ∃ config, Config.ofValue? (args.get "config") = some config ∧ config.keyOrder = order ∧
      Builder.object.apply args =
        { value := .ok (.schema none (.ofEntries (.of (args.get "title") (args.get "description") examples) entries
            required (args.get "min_properties") (args.get "max_properties") config)),
          events := undefinedWarning config (args.get "title") required entries } := by
  obtain ⟨names, listed, texts⟩ := call.required
  obtain ⟨config, configured, ordered⟩ := asked_order _ order call.config
  have requiredNames : args.requiredNames? = some required := by
    rw [Arguments.requiredNames?, given_elements args "required" names listed]
    exact texts
  exact ⟨config, configured, ordered, object_built args entries required config _ call.known
    (given_mapping args "properties" entries call.properties) requiredNames configured
    (labels_ok args examples (given_elements args "examples" examples given) nested)⟩

theorem object_call_builds (args : Arguments) (entries : List (String × Value)) (required : List String)
    (order : KeyOrder) (call : args.CallsObject entries required order) :
    ∃ examples config, config.keyOrder = order ∧ Builder.object.apply args =
      { value := .ok (.schema none (.ofEntries (.of (args.get "title") (args.get "description") examples) entries
          required (args.get "min_properties") (args.get "max_properties") config)),
        events := undefinedWarning config (args.get "title") required entries } := by
  obtain ⟨examples, given, nested⟩ := call.examples
  obtain ⟨config, _, ordered, built⟩ := object_call_with args entries required order call examples given nested
  exact ⟨examples, config, ordered, built⟩

-- The properties of an object schema and their names.
theorem split_map (required : List String) (entries : List (String × Value)) :
    (Property.split required entries).map (Value.property none) =
      entries.map fun entry => keyProperty required entry.1 entry.2 := by
  rw [Property.split, List.map_map]
  refine List.map_congr_left fun entry _ => ?_
  rw [Function.comp_apply, keyProperty, List.contains_eq_mem]

theorem split_names (required : List String) (entries : List (String × Value)) :
    (Property.split required entries).map Property.name = (entries.map Prod.fst).map Value.text := by
  rw [Property.split, List.map_map, List.map_map]
  rfl

theorem split_required_names (required : List String) (entries : List (String × Value)) :
    ((Property.split required entries).filter Property.required).map Property.name =
      ((entries.map Prod.fst).filter fun name => decide (name ∈ required)).map Value.text := by
  rw [Property.split, List.filter_map, List.filter_map, List.map_map, List.map_map]
  simp only [Function.comp_def, List.contains_eq_mem]

theorem split_each (required : List String) (entries : List (String × Value)) :
    List.Forall₂ (fun name property => ∃ schema, (name, schema) ∈ entries ∧
      property = keyProperty required name schema) (entries.map Prod.fst)
      (entries.map fun entry => keyProperty required entry.1 entry.2) := by
  rw [List.forall₂_map_left_iff, List.forall₂_map_right_iff, List.forall₂_same]
  exact fun entry member => ⟨entry.2, member, rfl⟩

-- What is found under a text are the entries of that key, made properties.
theorem key_lookup (labels : Labels) (required : List String) (entries : List (String × Value)) (low high : Value)
    (config : Config) (name : String) :
    (Schema.ofEntries labels entries required low high config).property? (.text name) =
      .ok (((config.order entries).find? fun entry => entry.1 == name).map fun entry =>
        keyProperty required entry.1 entry.2) := by
  have named : ∀ item ∈ (config.order entries).map fun entry => keyProperty required entry.1 entry.2,
      item.IsProperty := List.forall_mem_map.mpr fun _ _ => rfl
  rw [Schema.ofEntries, split_map, property_found _ _ _ _ _ named, List.find?_map]
  rfl

theorem ordered_partition (labels : Labels) (required : List String) (entries : List (String × Value))
    (low high : Value) (config : Config) (distinct : DistinctKeys entries) :
    Partition entries required config.keyOrder
      (.schema none (.ofEntries labels entries required low high config)) ((config.order entries).map Prod.fst) := by
  have members (entry : String × Value) : entry ∈ config.order entries ↔ entry ∈ entries :=
    (order_perm config entries).mem_iff
  have keys : ((config.order entries).map Prod.fst).Perm (entries.map Prod.fst) :=
    (order_perm config entries).map Prod.fst
  have distinctHere : DistinctKeys (config.order entries) := order_names_distinct config entries distinct
  constructor
  · change (Value.attributeOfAll "name" _).map (Value.tuple none) = _
    rw [names_shown, split_names]
    rfl
  · exact keys
  · exact distinctHere
  · exact fun sorted => order_ascending config sorted entries distinct
  · intro kept
    rw [Config.order, kept]
  · refine ⟨_, rfl, ?_⟩
    rw [split_map]
    exact (split_each required (config.order entries)).imp fun name property shown => by
      obtain ⟨schema, member, same⟩ := shown
      exact ⟨schema, (members _).mp member, same⟩
  · change (Value.requiredNames _).map (Value.tuple none) = _
    rw [required_names_shown, split_required_names]
    rfl
  · intro entry member
    change (Schema.ofEntries labels entries required low high config).property? _ = _
    rw [key_lookup, order_finds config entries distinct entry member]
    rfl
  · intro name absent
    change (Schema.ofEntries labels entries required low high config).property? _ = _
    rw [key_lookup, order_misses config entries name absent]
    rfl

theorem object_schema_partitions (args : Arguments) (entries : List (String × Value)) (required : List String)
    (order : KeyOrder) (call : args.CallsObject entries required order) :
    ∃ handle s names, (Builder.object.apply args).value = .ok (.schema handle s) ∧ s.kind = .object ∧
      Partition entries required order (.schema handle s) names := by
  obtain ⟨examples, config, rfl, built⟩ := object_call_builds args entries required order call
  rw [built]
  exact ⟨none, _, _, rfl, rfl, ordered_partition _ required entries _ _ config call.distinct⟩

def unsortedEntries : List (String × Value) := [("b", nullLeaf), ("a", nullLeaf)]

-- One required name is there twice, another one is no key.
def unsortedCall : Arguments :=
  [("properties", .table none (underTexts unsortedEntries)),
   ("required", .list none [.text "b", .text "z", .text "b"]), ("examples", .tuple none []),
   ("config", .settings none [(Config.keyOrderKey, .keyword (.keyOrder .insertion))])]

theorem unsorted_call_partitions :
    unsortedCall.CallsObject unsortedEntries ["b", "z", "b"] .insertion ∧
      ∃ handle s names, (Builder.object.apply unsortedCall).value = .ok (.schema handle s) ∧ s.kind = .object ∧
        Partition unsortedEntries ["b", "z", "b"] .insertion (.schema handle s) names := by
  have distinct : DistinctKeys unsortedEntries := by
    change ["b", "a"].Nodup
    decide
  have call : unsortedCall.CallsObject unsortedEntries ["b", "z", "b"] .insertion :=
    ⟨rfl, rfl, distinct, ⟨_, rfl, rfl⟩, ⟨[], rfl, List.forall_mem_nil _⟩, .inr ⟨_, _, rfl, rfl⟩⟩
  exact ⟨call, object_schema_partitions unsortedCall unsortedEntries ["b", "z", "b"] .insertion call⟩

end Schemata
