import Schemata.Proofs.Documents
import Schemata.Proofs.Fingerprint

set_option autoImplicit false

/-!
The table of definitions. A document keeps the definitions that it is given, in the order that its settings ask for.
The order is seen in what is listed. What is looked up, compared or hashed does not show it, and a table that is in
order already is kept as it is.
-/

namespace Schemata

-- A call of the builder of documents with arguments of the declared sorts.
structure Arguments.CallsModel (args : Arguments) (entries : List (String × Value)) (order : KeyOrder) : Prop where
  known : args.unexpected? Builder.model.parameters = none
  definitions : (args.mapping "definitions").entries? = some (underTexts entries)
  distinct : DistinctKeys entries
  config : (args.get "config").AsksFor order

-- What a document tells of the definitions that it is built from.
structure KeptDefinitions (entries : List (String × Value)) (order : KeyOrder) (document : Value)
    (names : List String) : Prop where
  listed : document.attribute "definition_names" = .ok (.tuple none (names.map Value.text))
  table : ∃ listing, document.attribute "definitions" = .ok (.frozen none (underTexts listing)) ∧
    listing.Perm entries ∧ listing.map Prod.fst = names
  once : names.Nodup
  ascending : order = .sorted → names.Pairwise (· < ·)
  kept : order = .insertion → names = entries.map Prod.fst
  found : ∀ entry ∈ entries, ∀ name : Value, name.text? = some entry.1 →
    document.definitionNamed name = .ok (some entry.2)
  absent : ∀ (name : Value) (text : String), name.text? = some text → text ∉ entries.map Prod.fst →
    document.definitionNamed name = .ok none

def Value.Hashed (value : Value) : Prop := ∃ mark, value.form.digest = .ok mark

theorem built_keyed (entries : List (String × Value)) (root : Value) (config : Config)
    (distinct : DistinctKeys entries) : (Model.build entries root config).Keyed := by
  refine ⟨List.forall_mem_map.mpr fun _ _ => rfl, ?_⟩
  rw [Model.build, under_texts_keys]
  exact order_names_distinct config entries distinct

theorem document_called (args : Arguments) (entries : List (String × Value)) (order : KeyOrder)
    (call : args.CallsModel entries order) :
    ∃ config, config.keyOrder = order ∧
      Builder.model.apply args = { value := .ok (.model none (.build entries (args.get "root") config)) } := by
  obtain ⟨config, configured, ordered⟩ := asked_order _ order call.config
  exact ⟨config, ordered, document_of args entries call.known call.definitions config configured⟩

-- Under a text there is the entry with that key.
theorem built_lookup (entries : List (String × Value)) (root : Value) (config : Config)
    (distinct : DistinctKeys entries) (name : Value) (text : String) (spelled : name.text? = some text) :
    (Model.build entries root config).definition? name =
      .ok (((config.order entries).find? fun entry => entry.1 == text).map Prod.snd) := by
  rw [definition_found _ (built_keyed entries root config distinct) name text spelled, Model.build, underTexts,
    List.find?_map, Option.map_map]
  rfl

theorem built_definitions (entries : List (String × Value)) (root : Value) (config : Config)
    (distinct : DistinctKeys entries) :
    KeptDefinitions entries config.keyOrder (.model none (.build entries root config))
      ((config.order entries).map Prod.fst) := by
  constructor
  · change Except.ok (Value.tuple none ((underTexts (config.order entries)).map Prod.fst)) = _
    rw [underTexts, List.map_map, List.map_map]
    rfl
  · exact ⟨_, rfl, order_perm config entries, rfl⟩
  · exact order_names_distinct config entries distinct
  · exact fun sorted => order_ascending config sorted entries distinct
  · intro kept
    rw [Config.order, kept]
  · intro entry member name spelled
    change Model.definition? _ name = _
    rw [built_lookup entries root config distinct name _ spelled, order_finds config entries distinct entry member]
    rfl
  · intro name text spelled absent
    change Model.definition? _ name = _
    rw [built_lookup entries root config distinct name text spelled, order_misses config entries text absent]
    rfl

theorem built_moved (entries moved : List (String × Value)) (root : Value) (config other : Config)
    (permuted : entries.Perm moved) :
    (Model.build moved root other).definitions.Perm (Model.build entries root config).definitions := by
  refine List.Perm.map _ ((order_perm other moved).trans ?_)
  exact permuted.symm.trans (order_perm config entries).symm

-- Documents with the same definitions in different orders are equal: they have one root, and under one name
-- there is one definition, so that neither is compared with itself.
theorem moved_documents_equal (m n : Model) (keyed : m.Keyed) (keyedToo : n.Keyed)
    (moved : n.definitions.Perm m.definitions) (root : n.root = m.root) :
    (Value.model none m).equals (.model none n) = .ok true := by
  refine (documents_equal_iff none none m n keyed keyedToo).mpr ⟨moved.length_eq.symm, ?_, ?_⟩
  · exact fun definition member =>
      ⟨definition, moved.mem_iff.mpr member, rfl, equals_part_self definition.2⟩
  · rw [root]
    exact equals_part_self m.root

theorem document_form (handle : Handle) (m : Model) : (Value.model handle m).form =
    .record .model [("definitions", .mapping .fixed (Value.entryForms m.definitions)), ("root", m.root.form)] := by
  obtain ⟨definitions, root⟩ := m
  rw [Value.form, Model.form]

section Marks

variable (beyond : Nat → Shape → Except Fault UInt64)

theorem moved_documents_marked (m n : Model) (moved : n.definitions.Perm m.definitions) (root : n.root = m.root)
    (mark : UInt64) (marked : (Value.model none m).form.digestBy beyond = .ok mark) :
    (Value.model none n).form.digestBy beyond = .ok mark := by
  rw [document_form, record_digest beyond .model _ (by decide), digest_fields_map] at marked ⊢
  obtain ⟨marks, fieldsMarked, rfl⟩ := map_ok _ _ mark marked
  have entries : (Value.entryForms n.definitions).Perm (Value.entryForms m.definitions) := by
    rw [Value.entry_forms_eq_map, Value.entry_forms_eq_map]
    exact moved.map _
  have along : List.Forall₂ (fun field other : String × Form => ∀ mark, field.2.digestBy beyond = .ok mark →
      other.2.digestBy beyond = .ok mark)
      [("definitions", .mapping .fixed (Value.entryForms m.definitions)), ("root", m.root.form)]
      [("definitions", .mapping .fixed (Value.entryForms n.definitions)), ("root", m.root.form)] :=
    .cons (digest_moved beyond .fixed _ _ entries) (.cons (fun _ here => here) .nil)
  rw [root, marks_replaced _ _ _ along marks fieldsMarked]
  rfl

theorem word_marked (key : Value) (word : key.text?.isSome) : ∃ mark, key.form.digestBy beyond = .ok mark := by
  cases key with
  | scalar s => exact ⟨s.digest, by rw [Value.form, Form.digestBy]⟩
  | _ => cases word

-- A document has a fingerprint if its root and its definitions have one.
theorem document_marked (m : Model) (keyed : m.Keyed)
    (each : ∀ definition ∈ m.definitions, ∃ mark, definition.2.form.digestBy beyond = .ok mark)
    (root : ∃ mark, m.root.form.digestBy beyond = .ok mark) :
    ∃ mark, (Value.model none m).form.digestBy beyond = .ok mark := by
  obtain ⟨last, rootMarked⟩ := root
  have entries : ∃ marks, (Value.entryForms m.definitions).mapM (entryMark beyond) = .ok marks := by
    apply map_m_exists
    rw [Value.entry_forms_eq_map]
    refine List.forall_mem_map.mpr fun definition member => ?_
    obtain ⟨first, keyMarked⟩ := word_marked beyond definition.1 (keyed.words definition member)
    obtain ⟨second, marked⟩ := each definition member
    exact ⟨Mixing.sequence [first, second], by rw [entryMark, keyMarked, marked]; rfl⟩
  obtain ⟨marks, entriesMarked⟩ := entries
  refine ⟨Mixing.sequence [Mixing.collection marks, last], ?_⟩
  rw [document_form, record_digest beyond .model _ (by decide), digest_fields_map, List.mapM_cons, List.mapM_cons,
    Form.digestBy, digest_entries_map, entriesMarked, rootMarked]
  rfl

end Marks

-- Two calls with the same definitions, whatever order they are given in or asked for.
theorem documents_alike (args others : Arguments) (entries moved : List (String × Value)) (order another : KeyOrder)
    (call : args.CallsModel entries order) (other : others.CallsModel moved another) (permuted : entries.Perm moved)
    (root : others.get "root" = args.get "root") :
    ∃ document rearranged, (Builder.model.apply args).value = .ok document ∧
      (Builder.model.apply others).value = .ok rearranged ∧ document.equals rearranged = .ok true ∧
      (∀ mark, document.form.digest = .ok mark ↔ rearranged.form.digest = .ok mark) ∧
      ((args.get "root").Hashed → (∀ entry ∈ entries, entry.2.Hashed) → document.Hashed) := by
  obtain ⟨config, _, built⟩ := document_called args entries order call
  obtain ⟨config', _, builtToo⟩ := document_called others moved another other
  have keyed := built_keyed entries (args.get "root") config call.distinct
  have keyedToo := built_keyed moved (args.get "root") config' other.distinct
  have turned := built_moved entries moved (args.get "root") config config' permuted
  have below (condition : Value → Prop) (all : ∀ entry ∈ entries, condition entry.2) :
      ∀ definition ∈ (Model.build entries (args.get "root") config).definitions, condition definition.2 :=
    List.forall_mem_map.mpr fun entry member => all entry ((order_perm config entries).mem_iff.mp member)
  rw [built, builtToo, root]
  refine ⟨_, _, rfl, rfl, moved_documents_equal _ _ keyed keyedToo turned rfl,
    fun mark => ⟨fun marked => ?_, fun marked => ?_⟩, fun roots each => ?_⟩
  · exact moved_documents_marked _ _ _ turned rfl mark marked
  · exact moved_documents_marked _ _ _ turned.symm rfl mark marked
  · exact document_marked _ _ keyed (below Value.Hashed each) roots

-- Entries that are in order already stay as they are.
theorem order_settled (config other : Config) (alike : other.keyOrder = config.keyOrder)
    (entries : List (String × Value)) (distinct : DistinctKeys entries) :
    other.order (config.order entries) = config.order entries := by
  rw [order_alike config other alike]
  cases kept : config.keyOrder with
  | sorted =>
      exact sorted_canonical config kept _ entries (order_names_distinct config entries distinct)
        (order_perm config entries)
  | insertion => rw [Config.order, kept]

theorem table_settled (args again : Arguments) (entries : List (String × Value)) (order : KeyOrder)
    (call : args.CallsModel entries order) (document table : Value)
    (built : (Builder.model.apply args).value = .ok document) (shown : document.attribute "definitions" = .ok table)
    (known : again.unexpected? Builder.model.parameters = none)
    (given : (again.mapping "definitions").entries? = table.entries?) (config : (again.get "config").AsksFor order) :
    ∃ rebuilt, (Builder.model.apply again).value = .ok rebuilt ∧ rebuilt.attribute "definitions" = .ok table ∧
      rebuilt.attribute "definition_names" = document.attribute "definition_names" ∧
      (again.get "root" = args.get "root" → rebuilt = document) := by
  obtain ⟨config', ordered, made⟩ := document_called args entries order call
  obtain ⟨config'', configured, orderedToo⟩ := asked_order _ order config
  rw [made] at built
  obtain rfl := Except.ok.inj built
  obtain rfl := Except.ok.inj shown
  have again_made := document_of again (config'.order entries) known given config'' configured
  have settled := order_settled config' config'' (orderedToo.trans ordered.symm) entries call.distinct
  rw [Model.build, settled] at again_made
  refine ⟨_, congrArg Reported.value again_made, rfl, rfl, fun root => ?_⟩
  rw [root]
  rfl

theorem definitions_keep_order :
    (∀ (args : Arguments) (entries : List (String × Value)) (order : KeyOrder), args.CallsModel entries order →
      ∃ document names, (Builder.model.apply args).value = .ok document ∧
        KeptDefinitions entries order document names) ∧
    (∀ (args others : Arguments) (entries moved : List (String × Value)) (order another : KeyOrder),
      args.CallsModel entries order → others.CallsModel moved another → entries.Perm moved →
      others.get "root" = args.get "root" →
      ∃ document rearranged, (Builder.model.apply args).value = .ok document ∧
        (Builder.model.apply others).value = .ok rearranged ∧ document.equals rearranged = .ok true ∧
        (∀ mark, document.form.digest = .ok mark ↔ rearranged.form.digest = .ok mark) ∧
        ((args.get "root").Hashed → (∀ entry ∈ entries, entry.2.Hashed) → document.Hashed)) ∧
    ∀ (args again : Arguments) (entries : List (String × Value)) (order : KeyOrder), args.CallsModel entries order →
      ∀ document table, (Builder.model.apply args).value = .ok document →
      document.attribute "definitions" = .ok table → again.unexpected? Builder.model.parameters = none →
      (again.mapping "definitions").entries? = table.entries? → (again.get "config").AsksFor order →
      ∃ rebuilt, (Builder.model.apply again).value = .ok rebuilt ∧ rebuilt.attribute "definitions" = .ok table ∧
        rebuilt.attribute "definition_names" = document.attribute "definition_names" ∧
        (again.get "root" = args.get "root" → rebuilt = document) := by
  refine ⟨fun args entries order call => ?_, documents_alike, table_settled⟩
  obtain ⟨config, rfl, built⟩ := document_called args entries order call
  exact ⟨_, _, congrArg Reported.value built, built_definitions entries _ config call.distinct⟩

-- A call with a null leaf for its root.
def tableCall (table : Value) (order : KeyOrder) : Arguments :=
  [("definitions", table), ("root", nullLeaf),
   ("config", .settings none [(Config.keyOrderKey, .keyword (.keyOrder order))])]

theorem table_call_typed (table : Value) (entries : List (String × Value)) (order : KeyOrder)
    (given : table.entries? = some (underTexts entries)) (distinct : DistinctKeys entries) :
    (tableCall table order).CallsModel entries order :=
  ⟨rfl, given, distinct, .inr ⟨none, _, rfl, rfl⟩⟩

-- A node with an example that is not equal to itself.
def unsteadyLeaf : Value := .schema none (.null (.of .null .null [.scalar (.float .notANumber 0)]))

def unsteadyEntries : List (String × Value) := [("a", nullLeaf), ("b", unsteadyLeaf)]

theorem turned_table_kept :
    (∃ document names, (Builder.model.apply (tableCall (.table none (underTexts unsteadyEntries.reverse))
        .insertion)).value = .ok document ∧
      KeptDefinitions unsteadyEntries.reverse .insertion document names ∧ names = ["b", "a"]) ∧
    (∃ document rearranged, (Builder.model.apply (tableCall (.table none (underTexts unsteadyEntries.reverse))
        .insertion)).value = .ok document ∧
      (Builder.model.apply (tableCall (.frozen none (underTexts unsteadyEntries)) .sorted)).value =
        .ok rearranged ∧ document.equals rearranged = .ok true ∧
      ∃ mark, document.form.digest = .ok mark ∧ rearranged.form.digest = .ok mark) ∧
    ∃ document, (Builder.model.apply (tableCall (.table none (underTexts unsteadyEntries.reverse))
        .sorted)).value = .ok document ∧
      ∃ table, document.attribute "definitions" = .ok table ∧
        (Builder.model.apply (tableCall table .sorted)).value = .ok document := by
  obtain ⟨tables, alike, settled⟩ := definitions_keep_order
  have distinct : DistinctKeys unsteadyEntries := by
    change ["a", "b"].Nodup
    decide
  have turn := List.reverse_perm unsteadyEntries
  have distinctToo : DistinctKeys unsteadyEntries.reverse := (turn.map Prod.fst).nodup_iff.mpr distinct
  have given (order : KeyOrder) := table_call_typed (.table none (underTexts unsteadyEntries.reverse)) _ order
    rfl distinctToo
  refine ⟨?_, ?_, ?_⟩
  · obtain ⟨document, names, built, parts⟩ := tables _ _ _ (given .insertion)
    exact ⟨document, names, built, parts, parts.kept rfl⟩
  · obtain ⟨document, rearranged, built, builtToo, equal, marks, marked⟩ := alike _ _ _ _ _ _ (given .insertion)
      (table_call_typed (.frozen none (underTexts unsteadyEntries)) _ .sorted rfl distinct) turn rfl
    have hashed : ∀ entry ∈ unsteadyEntries.reverse, entry.2.Hashed :=
      List.forall_mem_cons.mpr ⟨⟨_, rfl⟩, List.forall_mem_singleton.mpr ⟨_, rfl⟩⟩
    obtain ⟨mark, first⟩ := marked ⟨_, rfl⟩ hashed
    exact ⟨document, rearranged, built, builtToo, equal, mark, first, (marks mark).mp first⟩
  · obtain ⟨document, names, built, parts⟩ := tables _ _ _ (given .sorted)
    obtain ⟨listing, shown, _⟩ := parts.table
    obtain ⟨rebuilt, again, _, _, whole⟩ := settled _ (tableCall (.frozen none (underTexts listing)) .sorted) _ _
      (given .sorted) document _ built shown rfl rfl (.inr ⟨none, _, rfl, rfl⟩)
    obtain rfl := whole rfl
    exact ⟨_, built, _, shown, again⟩

end Schemata
