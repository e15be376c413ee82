import Schemata.Proofs.Comparison
import Schemata.Proofs.Rendering

set_option autoImplicit false

/-!
Equality as a congruence. Equal values can be different objects with differently spelled contents, but equal records
have equal fields, and so no question that is asked of a node, no walk and no outline tells equal nodes apart.
-/

namespace Schemata

-- Two forms can be compared and are the same.
def Form.Equal (a b : Form) : Prop := a.obstacle? b = none ∧ a.same b = true

-- Two parts are one, or they can be compared and are the same.
def Form.Meets (a b : Form) : Prop := a = b ∨ a.Equal b

theorem equals_iff (a b : Value) : a.equals b = .ok true ↔ a.form.Equal b.form := by
  rw [Value.equals, Form.Equal, Value.same]
  cases a.form.obstacle? b.form <;> simp

theorem equals_part_iff (a b : Value) : a.equalsPart b = .ok true ↔ a.form.Meets b.form := by
  rw [Value.equalsPart, Form.Meets, ← equals_iff]
  split
  · next one => exact iff_of_true rfl (.inl ((is_one_iff _ _).mp one))
  · next other => exact (or_iff_right (mt (is_one_iff _ _).mpr other)).symm

theorem equals_part_self (a : Value) : a.equalsPart a = .ok true := (equals_part_iff a a).mpr (.inl rfl)

theorem part_of_equal (a b : Value) (equal : a.equals b = .ok true) : a.equalsPart b = .ok true :=
  (equals_part_iff a b).mpr (.inr ((equals_iff a b).mp equal))

-- What is equal to itself is equal to all that it meets.
theorem equal_of_part (a b : Value) (own : a.equals a = .ok true) (meets : a.equalsPart b = .ok true) :
    a.equals b = .ok true := by
  rcases (equals_part_iff a b).mp meets with one | equal
  · rw [equals_iff] at own ⊢
    exact one ▸ own
  · exact (equals_iff a b).mpr equal

-- Parts that are one are not compared, so no obstacle is met in them.
theorem meets_iff (a b : Form) :
    (if a.isOne b then none else a.obstacle? b) = none ∧ a.fits b = true ↔ a.Meets b := by
  rw [fits_iff, Form.Meets, Form.Equal]
  by_cases one : a.isOne b = true
  · have same := (is_one_iff a b).mp one
    exact iff_of_true ⟨if_pos one, .inl same⟩ (.inl same)
  · have differ := mt (is_one_iff a b).mpr one
    rw [if_neg one, or_iff_right differ, or_iff_right differ]

theorem items_meet_iff (items others : List Form) :
    Form.obstacleOfItems Form.fits (fun _ _ => none) items others = none ∧
        List.Forall₂ (fun a b => a.fits b = true) items others ↔ List.Forall₂ Form.Meets items others := by
  constructor
  · rintro ⟨clear, fit⟩
    induction fit with
    | nil => exact .nil
    | cons here _ hypothesis =>
        rw [Form.obstacleOfItems, if_pos here, Option.or_eq_none_iff] at clear
        exact .cons ((meets_iff _ _).mp ⟨clear.1, here⟩) (hypothesis clear.2)
  · intro meet
    induction meet with
    | nil => exact ⟨by simp [Form.obstacleOfItems], .nil⟩
    | cons here _ hypothesis =>
        obtain ⟨clear, fits⟩ := (meets_iff _ _).mpr here
        refine ⟨?_, .cons fits hypothesis.2⟩
        rw [Form.obstacleOfItems, if_pos fits, Option.or_eq_none_iff]
        exact ⟨clear, hypothesis.1⟩

theorem fields_meet_iff (fields others : List (String × Form)) :
    Form.obstacleOfFields Form.fits (fun _ _ => none) fields others = none ∧
        List.Forall₂ (fun a b => a.2.fits b.2 = true) fields others ↔
      List.Forall₂ (fun a b => a.2.Meets b.2) fields others := by
  constructor
  · rintro ⟨clear, fit⟩
    induction fit with
    | nil => exact .nil
    | cons here _ hypothesis =>
        rw [Form.obstacleOfFields, if_pos here, Option.or_eq_none_iff] at clear
        exact .cons ((meets_iff _ _).mp ⟨clear.1, here⟩) (hypothesis clear.2)
  · intro meet
    induction meet with
    | nil => exact ⟨by simp [Form.obstacleOfFields], .nil⟩
    | cons here _ hypothesis =>
        obtain ⟨clear, fits⟩ := (meets_iff _ _).mpr here
        refine ⟨?_, .cons fits hypothesis.2⟩
        rw [Form.obstacleOfFields, if_pos fits, Option.or_eq_none_iff]
        exact ⟨clear, hypothesis.1⟩

-- Records are equal when they are of one class, with fields that are one or equal.
theorem records_equal_iff (a b : Value) (cls other : RecordClass) (fields others : List (String × Value))
    (shown : a.record? = some (cls, fields)) (shownToo : b.record? = some (other, others)) :
    a.equals b = .ok true ↔
      cls = other ∧ List.Forall₂ (fun field along => field.2.equalsPart along.2 = .ok true) fields others := by
  have each : List.Forall₂ (fun field along => field.2.equalsPart along.2 = .ok true) fields others ↔
      List.Forall₂ (fun a b => a.2.Meets b.2) (Value.fieldForms fields) (Value.fieldForms others) := by
    simp only [Value.field_forms_eq_map, List.forall₂_map_left_iff, List.forall₂_map_right_iff, equals_part_iff]
  rw [equals_iff, record_form a cls fields shown, record_form b other others shownToo, Form.Equal, Form.same,
    Form.sameBy, Bool.and_eq_true, beq_iff_eq, fields_agree, Form.obstacle?, Form.obstacleBy, each, ← fields_meet_iff]
  constructor
  · rintro ⟨clear, rfl, fit⟩
    exact ⟨rfl, by rwa [if_pos rfl] at clear, fit⟩
  · rintro ⟨rfl, clear, fit⟩
    exact ⟨(if_pos rfl).trans clear, rfl, fit⟩

-- A record is equal to itself, whatever is in it.
theorem record_equals_self (a : Value) (cls : RecordClass) (fields : List (String × Value))
    (shown : a.record? = some (cls, fields)) : a.equals a = .ok true :=
  (records_equal_iff a a cls cls fields fields shown shown).mpr
    ⟨rfl, List.forall₂_same.mpr fun field _ => equals_part_self field.2⟩

theorem tuple_items_equal (handle other : Handle) (items others : List Value)
    (equal : (Value.tuple handle items).equalsPart (.tuple other others) = .ok true) :
    List.Forall₂ (fun item along => item.equalsPart along = .ok true) items others := by
  have parts : List.Forall₂ Form.Meets (items.map Value.form) (others.map Value.form) := by
    rw [equals_part_iff, Value.form, Value.form, Value.forms_eq_map, Value.forms_eq_map] at equal
    rcases equal with one | ⟨clear, same⟩
    · rw [(Form.sequence.inj one).2]
      exact List.forall₂_same.mpr fun _ _ => .inl rfl
    · rw [Form.same, Form.sameBy, Bool.and_eq_true, items_agree] at same
      rw [Form.obstacle?, Form.obstacleBy] at clear
      exact (items_meet_iff _ _).mp ⟨clear, same.2⟩
  rw [List.forall₂_map_left_iff, List.forall₂_map_right_iff] at parts
  exact parts.imp fun _ _ => (equals_part_iff _ _).mpr

theorem scalars_equal_iff (a b : Scalar) : (Value.scalar a).equals (.scalar b) = .ok true ↔ a.same b = true := by
  rw [← same_scalars, equals_iff, Form.Equal]
  refine and_iff_right ?_
  simp [Value.form, Form.obstacle?, Form.obstacleBy]

-- Texts are the same when they are spelled alike, whether they are words of a vocabulary or not.
theorem words_same (a b : Value) (word : a.text?.isSome) (other : b.text?.isSome) :
    a.same b = true ↔ a.text? = b.text? := by
  cases a with
  | scalar s =>
      cases b with
      | scalar t =>
          rw [same_scalars, Scalar.same, word_amount s word, word_amount t other]
          exact beq_iff_eq
      | _ => cases other
  | _ => cases word

theorem word_equals_self (a : Value) (word : a.text?.isSome) : a.equals a = .ok true := by
  have same := (words_same a a word word).mpr rfl
  cases a with
  | scalar s => exact (scalars_equal_iff s s).mpr ((same_scalars s s).symm.trans same)
  | _ => cases word

theorem words_equal (a b : Value) (word : a.text?.isSome) (other : b.text?.isSome)
    (meets : a.equalsPart b = .ok true) : a.text? = b.text? :=
  (words_same a b word other).mp ((equals_iff a b).mp (equal_of_part a b (word_equals_self a word) meets)).2

-- The kinds of nodes that lead nowhere and have nothing but their labels in an outline.
def SchemaKind.leaves : List SchemaKind := [.string, .integer, .number, .boolean, .null]

-- Nodes of one variant, with equal titles and equal parts where a part is asked for.
inductive Schema.Matches : Schema → Schema → Prop where
  | object (labels others : Labels) (properties low high otherProperties otherLow otherHigh : Value)
      (titles : labels.title.equalsPart others.title = .ok true) (parts : properties.equalsPart otherProperties = .ok true) :
      Matches (.object labels properties low high) (.object others otherProperties otherLow otherHigh)
  | array (labels others : Labels) (items low high otherItems otherLow otherHigh : Value)
      (titles : labels.title.equalsPart others.title = .ok true) (parts : items.equalsPart otherItems = .ok true) :
      Matches (.array labels items low high) (.array others otherItems otherLow otherHigh)
  | leaf (s t : Schema) (kind : SchemaKind) (labels others : Labels) (leaf : kind ∈ SchemaKind.leaves)
      (first : s.kind = kind ∧ s.labels? = some labels) (second : t.kind = kind ∧ t.labels? = some others)
      (titles : labels.title.equalsPart others.title = .ok true) : Matches s t
  | ref (labels others : Labels) (token other : Value) (titles : labels.title.equalsPart others.title = .ok true)
      (tokens : token.equalsPart other = .ok true) : Matches (.ref labels token) (.ref others other)
  | combined (mode : Mode) (combinator other : Value) (parts : combinator.equalsPart other = .ok true) :
      Matches (.combined mode combinator) (.combined mode other)
  | fallback (value other : Value) : Matches (.fallback value) (.fallback other)

theorem mode_of_class (mode other : Mode) (same : mode.recordClass = other.recordClass) : mode = other := by
  cases mode <;> cases other <;> first | rfl | cases same

-- Two leaves, whose first fields are the titles.
theorem leaf_matches (s t : Schema) (kind : SchemaKind) (labels others : Labels) (rest later : List (String × Value))
    (leaf : kind ∈ SchemaKind.leaves) (along : List.Forall₂ (fun field along => field.2.equalsPart along.2 = .ok true)
      (("title", labels.title) :: rest) (("title", others.title) :: later))
    (first : s.kind = kind ∧ s.labels? = some labels) (second : t.kind = kind ∧ t.labels? = some others) :
    s.Matches t := .leaf s t kind labels others leaf first second (List.forall₂_cons.mp along).1

theorem equal_nodes_match (handle other : Handle) (s t : Schema)
    (equal : (Value.schema handle s).equals (.schema other t) = .ok true) : s.Matches t := by
  obtain ⟨same, along⟩ := (records_equal_iff _ _ _ _ _ _ rfl rfl).mp equal
  cases s with
  | object labels properties low high =>
      cases t with
      | object others otherProperties otherLow otherHigh =>
          obtain ⟨titles, later⟩ := List.forall₂_cons.mp along
          obtain ⟨parts, _⟩ := List.forall₂_cons.mp (List.forall₂_cons.mp (List.forall₂_cons.mp later).2).2
          exact .object _ _ _ _ _ _ _ _ titles parts
      | combined mode combinator => cases mode <;> cases same
      | _ => cases same
  | array labels items low high =>
      cases t with
      | array others otherItems otherLow otherHigh =>
          obtain ⟨titles, later⟩ := List.forall₂_cons.mp along
          obtain ⟨parts, _⟩ := List.forall₂_cons.mp (List.forall₂_cons.mp (List.forall₂_cons.mp later).2).2
          exact .array _ _ _ _ _ _ _ _ titles parts
      | combined mode combinator => cases mode <;> cases same
      | _ => cases same
  | string labels enum low high pattern format =>
      cases t with
      | string others => exact leaf_matches _ _ .string labels others _ _ (by decide) along ⟨rfl, rfl⟩ ⟨rfl, rfl⟩
      | combined mode combinator => cases mode <;> cases same
      | _ => cases same
  | integer labels enum bounds =>
      cases t with
      | integer others => exact leaf_matches _ _ .integer labels others _ _ (by decide) along ⟨rfl, rfl⟩ ⟨rfl, rfl⟩
      | combined mode combinator => cases mode <;> cases same
      | _ => cases same
  | number labels enum bounds =>
      cases t with
      | number others => exact leaf_matches _ _ .number labels others _ _ (by decide) along ⟨rfl, rfl⟩ ⟨rfl, rfl⟩
      | combined mode combinator => cases mode <;> cases same
      | _ => cases same
  | boolean labels enum =>
      cases t with
      | boolean others => exact leaf_matches _ _ .boolean labels others _ _ (by decide) along ⟨rfl, rfl⟩ ⟨rfl, rfl⟩
      | combined mode combinator => cases mode <;> cases same
      | _ => cases same
  | null labels =>
      cases t with
      | null others => exact leaf_matches _ _ .null labels others _ _ (by decide) along ⟨rfl, rfl⟩ ⟨rfl, rfl⟩
      | combined mode combinator => cases mode <;> cases same
      | _ => cases same
  | ref labels token =>
      cases t with
      | ref others otherToken =>
          obtain ⟨titles, later⟩ := List.forall₂_cons.mp along
          obtain ⟨tokens, _⟩ := List.forall₂_cons.mp (List.forall₂_cons.mp (List.forall₂_cons.mp later).2).2
          exact .ref _ _ _ _ titles tokens
      | combined mode combinator => cases mode <;> cases same
      | _ => cases same
  | combined mode combinator =>
      cases t with
      | combined otherMode otherCombinator =>
          obtain rfl := mode_of_class mode otherMode same
          exact .combined mode _ _ (List.forall₂_cons.mp along).1
      | _ => cases mode <;> cases same
  | fallback value =>
      cases t with
      | fallback otherValue => exact .fallback value otherValue
      | combined mode combinator => cases mode <;> cases same
      | _ => cases same

-- What a leaf tells besides its labels.
structure Schema.Plain (s : Schema) : Prop where
  title : ∀ labels, s.labels? = some labels → s.title = .ok labels.title
  base : s.base? = some (.own s)
  childless : s.offspring = [] ∧ s.childLabels = []
  token : s.tokenPart = .ok ""

theorem leaf_plain (s : Schema) (kind : SchemaKind) (leaf : kind ∈ SchemaKind.leaves) (here : s.kind = kind) :
    s.Plain := by
  subst here
  have titled (given : Schema) (uncombined : given.title = .ok ((given.labels?.map Labels.title).getD .null))
      (labels : Labels) (first : given.labels? = some labels) : given.title = .ok labels.title := by
    rw [uncombined, first]
    rfl
  cases s with
  | object labels properties low high => exact absurd leaf (by decide : SchemaKind.object ∉ SchemaKind.leaves)
  | array labels items low high => exact absurd leaf (by decide : SchemaKind.array ∉ SchemaKind.leaves)
  | ref labels token => exact absurd leaf (by decide : SchemaKind.ref ∉ SchemaKind.leaves)
  | fallback value => exact absurd leaf (by decide : SchemaKind.fallback ∉ SchemaKind.leaves)
  | combined mode combinator =>
      have branching : mode.kind ∉ SchemaKind.leaves := by cases mode <;> decide
      exact absurd leaf branching
  | _ => exact ⟨titled _ rfl, rfl, ⟨rfl, rfl⟩, rfl⟩

theorem matching_kinds (s t : Schema) (alike : s.Matches t) : s.kind = t.kind := by
  cases alike with
  | leaf _ _ kind labels others leaf first second titles => rw [first.1, second.1]
  | _ => rfl

-- Combinators that are equal have equal titles and alternatives.
theorem equal_combinators (handle other inner outer : Handle) (labels others : Labels)
    (alternatives values : List Value)
    (meets : (Value.combinator handle ⟨labels, .tuple inner alternatives⟩).equalsPart
      (.combinator other ⟨others, .tuple outer values⟩) = .ok true) :
    labels.title.equalsPart others.title = .ok true ∧
      List.Forall₂ (fun alternative value => alternative.equalsPart value = .ok true) alternatives values := by
  have equal := equal_of_part _ _ (record_equals_self _ _ _ rfl) meets
  obtain ⟨_, along⟩ := (records_equal_iff _ _ _ _ _ _ rfl rfl).mp equal
  obtain ⟨titles, later⟩ := List.forall₂_cons.mp along
  obtain ⟨parts, _⟩ := List.forall₂_cons.mp (List.forall₂_cons.mp (List.forall₂_cons.mp later).2).2
  exact ⟨titles, tuple_items_equal _ _ _ _ parts⟩

theorem null_equals_null : Value.null.equals .null = .ok true := (scalars_equal_iff .null .null).mpr rfl

theorem matching_titles (s t : Schema) (alike : s.Matches t) (shaped : s.Shaped) (shapedToo : t.Shaped) :
    ∃ title other, s.title = .ok title ∧ t.title = .ok other ∧ title.equalsPart other = .ok true := by
  cases alike with
  | leaf _ _ kind labels others leaf first second titles =>
      exact ⟨_, _, (leaf_plain s kind leaf first.1).title labels first.2,
        (leaf_plain t kind leaf second.1).title others second.2, titles⟩
  | combined mode combinator other parts =>
      obtain ⟨handle, labels, inner, alternatives, rfl⟩ := shaped
      obtain ⟨outer, others, behind, values, rfl⟩ := shapedToo
      exact ⟨labels.title, others.title, rfl, rfl, (equal_combinators _ _ _ _ _ _ _ _ parts).1⟩
  | fallback value other => exact ⟨.null, .null, rfl, rfl, equals_part_self .null⟩
  | object labels others _ _ _ _ _ _ titles _ => exact ⟨_, _, rfl, rfl, titles⟩
  | array labels others _ _ _ _ _ _ titles _ => exact ⟨_, _, rfl, rfl, titles⟩
  | ref labels others _ _ titles _ => exact ⟨_, _, rfl, rfl, titles⟩

theorem null_no_word (a : Value) (word : a.text?.isSome) :
    Value.null.equalsPart a ≠ .ok true ∧ a.equalsPart .null ≠ .ok true := by
  cases a with
  | scalar s =>
      have differ (first second : Scalar) (texts : first.text? ≠ second.text?) (amounts : first.quantity? = none)
          (other : second.quantity? = none) : (Value.scalar first).equals (.scalar second) ≠ .ok true := by
        intro equal
        have same := (scalars_equal_iff first second).mp equal
        rw [Scalar.same, amounts, other] at same
        exact texts (eq_of_beq same)
      have here : s.text? ≠ none := Option.isSome_iff_ne_none.mp word
      constructor
      · exact fun meets => differ .null s here.symm rfl (word_amount s word) (equal_of_part _ _ null_equals_null meets)
      · exact fun meets => differ s .null here (word_amount s word) rfl
          (equal_of_part _ _ (word_equals_self (.scalar s) word) meets)
  | _ => cases word

-- A title that is a word or absent is equal to all that it meets.
theorem title_equals (title other : Value) (sort : title = .null ∨ title.text?.isSome)
    (meets : title.equalsPart other = .ok true) : title.equals other = .ok true := by
  refine equal_of_part title other ?_ meets
  rcases sort with rfl | word
  · exact null_equals_null
  · exact word_equals_self title word

theorem matching_title_parts (s t : Schema) (alike : s.Matches t) (shaped : s.Shaped) (shapedToo : t.Shaped)
    (worded : s.Worded) (wordedToo : t.Worded) : s.titlePart = t.titlePart := by
  obtain ⟨title, other, read, readToo, equal⟩ := matching_titles s t alike shaped shapedToo
  obtain ⟨_, again, sort⟩ := worded.title
  obtain rfl := Except.ok.inj (read.symm.trans again)
  obtain ⟨_, againToo, otherSort⟩ := wordedToo.title
  obtain rfl := Except.ok.inj (readToo.symm.trans againToo)
  rcases sort with rfl | word
  · rcases otherSort with rfl | otherWord
    · rw [title_part_absent s read, title_part_absent t readToo]
    · exact absurd equal (null_no_word _ otherWord).1
  · rcases otherSort with rfl | otherWord
    · exact absurd equal (null_no_word _ word).2
    · obtain ⟨text, spelled⟩ := Option.isSome_iff_exists.mp word
      have same := (words_equal _ _ word otherWord equal).symm.trans spelled
      rw [title_part_text s _ text read spelled, title_part_text t _ text readToo same]

theorem matching_token_parts (s t : Schema) (alike : s.Matches t) (worded : s.Worded) (wordedToo : t.Worded) :
    s.tokenPart = t.tokenPart := by
  cases alike with
  | leaf _ _ kind labels others leaf first second titles =>
      rw [(leaf_plain s kind leaf first.1).token, (leaf_plain t kind leaf second.1).token]
  | ref labels others token other titles tokens =>
      have word := worded.token labels token rfl
      obtain ⟨text, spelled⟩ := Option.isSome_iff_exists.mp word
      have same := (words_equal token other word (wordedToo.token others other rfl) tokens).symm.trans spelled
      rw [token_part_text labels token text spelled, token_part_text others other text same]
  | _ => rfl

theorem matching_summaries (s t : Schema) (alike : s.Matches t) (shaped : s.Shaped) (shapedToo : t.Shaped)
    (worded : s.Worded) (wordedToo : t.Worded) : s.summary = t.summary := by
  rw [summary_parts, summary_parts, matching_kinds s t alike,
    matching_title_parts s t alike shaped shapedToo worded wordedToo,
    matching_token_parts s t alike worded wordedToo]

-- Children under one step are equal.
def ChildrenEqual (child other : Step × Value) : Prop := child.1 = other.1 ∧ child.2.equals other.2 = .ok true

-- Children under one step are one or equal.
def ChildrenMeet (child other : Step × Value) : Prop := child.1 = other.1 ∧ child.2.equalsPart other.2 = .ok true

theorem node_equals (a b : Value) (node : a.IsNode) (meets : a.equalsPart b = .ok true) : a.equals b = .ok true := by
  obtain ⟨handle, s, rfl⟩ := node
  exact equal_of_part _ b (record_equals_self _ _ _ rfl) meets

theorem children_equal (children others : List (Step × Value)) (nodes : ∀ child ∈ children, child.2.IsNode)
    (meet : List.Forall₂ ChildrenMeet children others) : List.Forall₂ ChildrenEqual children others := by
  refine List.forall₂_iff_zip.mpr ⟨meet.length_eq, fun {child other} member => ?_⟩
  have here := List.forall₂_zip meet member
  exact ⟨here.1, node_equals child.2 other.2 (nodes child (List.of_mem_zip member).1) here.2⟩

theorem equal_properties (item other : Value) (shaped : item.IsProperty) (shapedToo : other.IsProperty)
    (meets : item.equalsPart other = .ok true) :
    item.isRequired = other.isRequired ∧ item.spelling = other.spelling ∧
      item.target.equalsPart other.target = .ok true := by
  cases item with
  | property handle p =>
      cases other with
      | property inner q =>
          have equal := equal_of_part _ _ (record_equals_self (.property handle p) _ _ rfl) meets
          obtain ⟨classes, along⟩ := (records_equal_iff _ _ _ _ _ _ rfl rfl).mp equal
          obtain ⟨names, later⟩ := List.forall₂_cons.mp along
          have required : p.required = q.required := by
            unfold Property.recordClass at classes
            cases first : p.required <;> cases second : q.required <;> simp [first, second] at classes ⊢
          refine ⟨required, ?_, (List.forall₂_cons.mp later).1⟩
          rw [Value.spelling, Value.spelling, words_equal p.name q.name shaped shapedToo names]
      | _ => exact absurd shapedToo id
  | _ => exact absurd shaped id

theorem branches_meet (mode : Mode) (start : Nat) (alternatives values : List Value)
    (meet : List.Forall₂ (fun alternative value => alternative.equalsPart value = .ok true) alternatives values) :
    List.Forall₂ ChildrenMeet (branches mode start alternatives) (branches mode start values) := by
  induction meet generalizing start with
  | nil => exact .nil
  | cons here _ hypothesis => exact .cons ⟨rfl, here⟩ (hypothesis (start + 1))

theorem null_no_node (handle : Handle) (s : Schema) :
    Value.null.equalsPart (.schema handle s) ≠ .ok true ∧ (Value.schema handle s).equalsPart .null ≠ .ok true := by
  constructor <;>
    simp [equals_part_iff, Form.Meets, Form.Equal, Value.null, Value.form, Form.same, Form.sameBy]

-- An array has items, or it has none where they are null.
theorem array_children (labels : Labels) (items low high : Value) :
    items = .null ∧ (Schema.array labels items low high).offspring = [] ∨
      (Schema.array labels items low high).offspring = [(.items, items)] := by
  cases items with
  | scalar content =>
      cases content with
      | null => exact .inl ⟨rfl, rfl⟩
      | _ => exact .inr rfl
  | _ => exact .inr rfl

theorem labels_of_children (s t : Schema) (other : s.kind ≠ .object) (otherToo : t.kind ≠ .object)
    (equal : List.Forall₂ ChildrenMeet s.offspring t.offspring) :
    s.childLabels = t.childLabels := by
  rw [labels_are_segments s other, labels_are_segments t otherToo, ← List.forall₂_eq_eq_eq,
    List.forall₂_map_left_iff, List.forall₂_map_right_iff]
  exact equal.imp fun _ _ same => congrArg (·.segment) same.1

theorem object_children_meet (labels others : Labels) (properties low high otherProperties otherLow otherHigh : Value)
    (shaped : (Schema.object labels properties low high).Shaped)
    (shapedToo : (Schema.object others otherProperties otherLow otherHigh).Shaped)
    (parts : properties.equalsPart otherProperties = .ok true) :
    List.Forall₂ ChildrenMeet (Schema.object labels properties low high).offspring
        (Schema.object others otherProperties otherLow otherHigh).offspring ∧
      (Schema.object labels properties low high).childLabels =
        (Schema.object others otherProperties otherLow otherHigh).childLabels := by
  obtain ⟨handle, items, rfl, named⟩ := shaped
  obtain ⟨inner, values, rfl, namedToo⟩ := shapedToo
  have along := tuple_items_equal handle inner items values parts
  have each : List.Forall₂ (fun item value => item.isRequired = value.isRequired ∧ item.spelling = value.spelling ∧
      item.target.equalsPart value.target = .ok true) items values :=
    List.forall₂_iff_zip.mpr ⟨along.length_eq, fun member => equal_properties _ _
      (named _ (List.of_mem_zip member).1) (namedToo _ (List.of_mem_zip member).2) (List.forall₂_zip along member)⟩
  constructor
  · rw [Schema.offspring, Schema.offspring, List.forall₂_map_left_iff, List.forall₂_map_right_iff]
    exact each.imp fun _ _ same => ⟨congrArg Step.property same.2.1, same.2.2⟩
  · rw [Schema.childLabels, Schema.childLabels, ← List.forall₂_eq_eq_eq, List.forall₂_map_left_iff,
      List.forall₂_map_right_iff]
    exact each.imp fun _ _ same => by rw [same.1, same.2.1]

theorem array_children_meet (labels others : Labels) (items low high otherItems otherLow otherHigh : Value)
    (parts : items.equalsPart otherItems = .ok true)
    (nodes : ∀ child ∈ (Schema.array labels items low high).offspring, child.2.IsNode)
    (nodesToo : ∀ child ∈ (Schema.array others otherItems otherLow otherHigh).offspring, child.2.IsNode) :
    List.Forall₂ ChildrenMeet (Schema.array labels items low high).offspring
      (Schema.array others otherItems otherLow otherHigh).offspring := by
  rcases array_children labels items low high with ⟨rfl, none⟩ | one
  · rcases array_children others otherItems otherLow otherHigh with ⟨rfl, noneToo⟩ | oneToo
    · rw [none, noneToo]
      exact .nil
    · rw [oneToo] at nodesToo
      obtain ⟨handle, node, rfl⟩ := nodesToo _ List.mem_cons_self
      exact absurd parts (null_no_node handle node).1
  · rcases array_children others otherItems otherLow otherHigh with ⟨rfl, noneToo⟩ | oneToo
    · rw [one] at nodes
      obtain ⟨handle, node, rfl⟩ := nodes _ List.mem_cons_self
      exact absurd parts (null_no_node handle node).2
    · rw [one, oneToo]
      exact .cons ⟨rfl, parts⟩ .nil

theorem matching_children (s t : Schema) (alike : s.Matches t) (shaped : s.Shaped) (shapedToo : t.Shaped)
    (nodes : ∀ child ∈ s.offspring, child.2.IsNode) (nodesToo : ∀ child ∈ t.offspring, child.2.IsNode) :
    List.Forall₂ ChildrenEqual s.offspring t.offspring ∧ s.childLabels = t.childLabels := by
  refine (?_ : List.Forall₂ ChildrenMeet s.offspring t.offspring ∧ _).imp_left (children_equal _ _ nodes)
  cases alike with
  | object labels others properties low high otherProperties otherLow otherHigh titles parts =>
      exact object_children_meet _ _ _ _ _ _ _ _ shaped shapedToo parts
  | array labels others items low high otherItems otherLow otherHigh titles parts =>
      have equal := array_children_meet labels others _ low high _ otherLow otherHigh parts nodes nodesToo
      have array : SchemaKind.array ≠ .object := by decide
      exact ⟨equal, labels_of_children _ _ array array equal⟩
  | leaf _ _ kind labels others leaf first second titles =>
      obtain ⟨childless, unlabelled⟩ := (leaf_plain s kind leaf first.1).childless
      obtain ⟨childlessToo, unlabelledToo⟩ := (leaf_plain t kind leaf second.1).childless
      rw [childless, childlessToo, unlabelled, unlabelledToo]
      exact ⟨.nil, rfl⟩
  | ref labels others token other titles tokens => exact ⟨.nil, rfl⟩
  | combined mode combinator other parts =>
      obtain ⟨handle, labels, inner, alternatives, rfl⟩ := shaped
      obtain ⟨outer, others, behind, values, rfl⟩ := shapedToo
      have equal := branches_meet mode 0 _ _ (equal_combinators _ _ _ _ _ _ _ _ parts).2
      have choice : mode.kind ≠ .object := by cases mode <;> decide
      exact ⟨equal, labels_of_children _ _ choice choice equal⟩
  | fallback value other => exact ⟨.nil, rfl⟩

theorem matching_bases (handle other : Handle) (s t : Schema)
    (equal : (Value.schema handle s).equals (.schema other t) = .ok true) (alike : s.Matches t) (shaped : s.Shaped) :
    Option.Rel (fun base along => base.value.equals along.value = .ok true) s.base? t.base? := by
  have own : (Base.own s).value.equals (Base.own t).value = .ok true := equal
  cases alike with
  | leaf _ _ kind labels others leaf first second titles =>
      rw [(leaf_plain s kind leaf first.1).base, (leaf_plain t kind leaf second.1).base]
      exact .some own
  | combined mode combinator other parts =>
      obtain ⟨handle, labels, inner, alternatives, rfl⟩ := shaped
      exact .some (equal_of_part _ _ (record_equals_self _ _ _ rfl) parts)
  | fallback value other => exact .none
  | _ => exact .some own

-- Nodes as they are declared that are equal, and what a tour learns of them.
structure Schema.Twins (s t : Schema) : Prop where
  equal : (Value.schema none s).equals (.schema none t) = .ok true
  shaped : s.Shaped ∧ t.Shaped
  worded : s.Worded ∧ t.Worded
  summary : s.summary = t.summary
  children : List.Forall₂ ChildrenEqual s.offspring t.offspring
  labels : s.childLabels = t.childLabels

theorem tree_offspring (condition : Schema → Prop) (s : Schema)
    (below : ∀ child ∈ s.offspring, child.2.IsTree condition) : ∀ child ∈ s.offspring, child.2.IsNode :=
  fun child member => tree_is_schema condition child.2 (below child member)

theorem equal_twins (handle other : Handle) (s t : Schema)
    (equal : (Value.schema handle s).equals (.schema other t) = .ok true) (shaped : s.Shaped) (shapedToo : t.Shaped)
    (worded : s.Worded) (wordedToo : t.Worded) (below : ∀ child ∈ s.offspring, child.2.IsTree Schema.Worded)
    (belowToo : ∀ child ∈ t.offspring, child.2.IsTree Schema.Worded) : s.Twins t := by
  have alike := equal_nodes_match handle other s t equal
  obtain ⟨children, labels⟩ := matching_children s t alike shaped shapedToo (tree_offspring _ s below)
    (tree_offspring _ t belowToo)
  exact ⟨equal, ⟨shaped, shapedToo⟩, ⟨worded, wordedToo⟩,
    matching_summaries s t alike shaped shapedToo worded wordedToo, children, labels⟩

section Tours

variable {α β : Type} (tour : Tour α β) (related : β → β → Prop)

-- Tours of two values from one place come to an end, and their rows are related one by one.
def TouredAlike (a b : Value) : Prop :=
  ∀ place, ∃ rows others, tour.block place a = .ok rows ∧ tour.block place b = .ok others ∧
    List.Forall₂ related rows others

def placedAt (places : List α) (children : List (Step × Value)) : List (Placed α) :=
  List.zipWith (fun place child => ⟨place, child.2⟩) places children

-- A tour that has related rows for equal nodes, and the same places for their children.
def Tour.SeesAlike : Prop :=
  ∀ (place : α) (s t : Schema), s.Twins t → ∃ row other places, tour.row place s = .ok row ∧
    tour.row place t = .ok other ∧ related row other ∧ tour.below place s = .ok (placedAt places s.offspring) ∧
    tour.below place t = .ok (placedAt places t.offspring)

theorem children_toured (children others : List (Step × Value))
    (alike : List.Forall₂ (fun child other => TouredAlike tour related child.2 other.2) children others)
    (places : List α) :
    ∃ blocks along, ((placedAt places children).mapM fun placed => tour.block placed.place placed.value) = .ok blocks ∧
      ((placedAt places others).mapM fun placed => tour.block placed.place placed.value) = .ok along ∧
      List.Forall₂ related blocks.flatten along.flatten := by
  induction alike generalizing places with
  | nil =>
      have nothing : placedAt places [] = [] := List.zipWith_nil_right
      rw [nothing]
      exact ⟨[], [], rfl, rfl, .nil⟩
  | @cons child other rest later here _ hypothesis =>
      cases places with
      | nil => exact ⟨[], [], rfl, rfl, .nil⟩
      | cons place places =>
          obtain ⟨rows, rowsToo, shown, shownToo, first⟩ := here place
          obtain ⟨blocks, along, done, doneToo, second⟩ := hypothesis places
          refine ⟨rows :: blocks, rowsToo :: along, ?_, ?_, List.rel_append first second⟩
          · change ((⟨place, child.2⟩ : Placed α) :: placedAt places rest).mapM _ = _
            rw [List.mapM_cons, shown, done]
            rfl
          · change ((⟨place, other.2⟩ : Placed α) :: placedAt places later).mapM _ = _
            rw [List.mapM_cons, shownToo, doneToo]
            rfl

theorem equal_trees_toured (sees : tour.SeesAlike related) (a : Value) (tree : a.IsTree Schema.Worded) :
    ∀ b : Value, b.IsTree Schema.Worded → a.equals b = .ok true → TouredAlike tour related a b := by
  induction tree with
  | node handle s worded shaped below hypothesis =>
      intro b treeToo equal place
      cases treeToo with
      | node other t wordedToo shapedToo belowToo =>
          have twins := equal_twins handle other s t equal shaped shapedToo worded wordedToo below belowToo
          obtain ⟨row, along, places, shown, shownToo, rows, found, foundToo⟩ := sees place s t twins
          have alike : List.Forall₂ (fun child other => TouredAlike tour related child.2 other.2) s.offspring
              t.offspring :=
            List.forall₂_iff_zip.mpr ⟨twins.children.length_eq, fun member => hypothesis _ (List.of_mem_zip member).1 _
              (belowToo _ (List.of_mem_zip member).2) (List.forall₂_zip twins.children member).2⟩
          obtain ⟨blocks, blocksToo, done, doneToo, flat⟩ := children_toured tour related _ _ alike places
          refine ⟨row :: blocks.flatten, along :: blocksToo.flatten, ?_, ?_, .cons rows flat⟩
          · rw [block_schema, shown, found]
            simp only [Except.bind]
            rw [done]
            rfl
          · rw [block_schema, shownToo, foundToo]
            simp only [Except.bind]
            rw [doneToo]
            rfl

end Tours

-- Visits with one pointer to equal nodes.
def VisitsAlike (visit other : Visit) : Prop :=
  visit.pointer = other.pointer ∧ (Value.schema none visit.node).equals (.schema none other.node) = .ok true

theorem walk_sees_alike : (Tour.byPointer (.ok : Visit → Except Fault Visit)).SeesAlike VisitsAlike := by
  intro place s t twins
  have below (given : Schema) (ready : given.Shaped) : given.childrenBelow place =
      .ok (placedAt (given.offspring.map fun child => place ++ "/" ++ child.1.segment) given.offspring) := by
    rw [Schema.childrenBelow, children_of_shaped given ready, placedAt, List.zipWith_map_left, List.zipWith_self]
    rfl
  have steps : (s.offspring.map fun child => place ++ "/" ++ child.1.segment) =
      t.offspring.map fun child => place ++ "/" ++ child.1.segment := by
    rw [← List.forall₂_eq_eq_eq, List.forall₂_map_left_iff, List.forall₂_map_right_iff]
    exact twins.children.imp fun _ _ same => by rw [same.1]
  refine ⟨⟨place, s⟩, ⟨place, t⟩, _, rfl, rfl, ⟨rfl, twins.equal⟩, below s twins.shaped.1, ?_⟩
  rw [steps]
  exact below t twins.shaped.2

theorem outline_sees_alike : Tour.byOutline.SeesAlike (· = ·) := by
  intro place s t twins
  have below (given : Schema) (ready : given.Shaped) : given.outlineChildren place =
      .ok (placedAt (given.childLabels.map fun label => ⟨place.depth + 1, label⟩) given.offspring) := by
    rw [outline_children_of_shaped place given ready, placedAt, List.zipWith_map_left]
  obtain ⟨summary, read, _⟩ := summary_ok s twins.worded.1
  have row (given : Schema) (told : given.summary = .ok summary) :
      Tour.byOutline.row place given = .ok ⟨place.depth, place.label, summary⟩ := by
    change given.summary.map _ = _
    rw [told]
    rfl
  refine ⟨_, _, _, row s read, row t (twins.summary ▸ read), rfl, below s twins.shaped.1, ?_⟩
  rw [twins.labels]
  exact below t twins.shaped.2

theorem equal_trees_outlined (a b : Value) (tree : a.IsTree Schema.Worded) (treeToo : b.IsTree Schema.Worded)
    (equal : a.equals b = .ok true) (place : Place) :
    ∃ rows, Tour.byOutline.block place a = .ok rows ∧ Tour.byOutline.block place b = .ok rows := by
  obtain ⟨rows, others, shown, shownToo, same⟩ :=
    equal_trees_toured _ _ outline_sees_alike a tree b treeToo equal place
  rw [List.forall₂_eq_eq_eq] at same
  exact ⟨rows, shown, same ▸ shownToo⟩

-- What is asked of equal nodes has equal answers.
structure NodesAlike (handle other : Handle) (s t : Schema) : Prop where
  kind : s.kind = t.kind
  title : ∃ title along, s.title = .ok title ∧ t.title = .ok along ∧ title.equals along = .ok true
  base : Option.Rel (fun base along => base.value.equals along.value = .ok true) s.base? t.base?
  children : ∃ children along, s.children = .ok children ∧ t.children = .ok along ∧
    List.Forall₂ (fun child next => child.1.segment = next.1.segment ∧ child.2.equals next.2 = .ok true) children along
  walk : ∀ start, ∃ visits along, (Value.schema handle s).walk start = .ok visits ∧
    (Value.schema other t).walk start = .ok along ∧ List.Forall₂ VisitsAlike visits along
  outline : ∃ text, (Value.schema handle s).outline = .ok text ∧ (Value.schema other t).outline = .ok text

theorem equal_nodes_alike (handle other : Handle) (s t : Schema) (tree : (Value.schema handle s).IsTree Schema.Worded)
    (treeToo : (Value.schema other t).IsTree Schema.Worded)
    (equal : (Value.schema handle s).equals (.schema other t) = .ok true) : NodesAlike handle other s t := by
  have alike := equal_nodes_match handle other s t equal
  have walks := equal_trees_toured _ _ walk_sees_alike _ tree _ treeToo equal
  obtain ⟨rows, shown, shownToo⟩ := equal_trees_outlined _ _ tree treeToo equal ⟨0, rootLabel⟩
  cases tree with
  | node _ _ worded shaped below =>
      cases treeToo with
      | node _ _ wordedToo shapedToo belowToo =>
          have twins := equal_twins handle other s t equal shaped shapedToo worded wordedToo below belowToo
          refine ⟨matching_kinds s t alike, ?_, matching_bases handle other s t equal alike shaped, ?_, walks,
            renderRows rows.toArray, ?_, ?_⟩
          · obtain ⟨title, along, read, readToo, meets⟩ := matching_titles s t alike shaped shapedToo
            obtain ⟨_, again, sort⟩ := worded.title
            obtain rfl := Except.ok.inj (read.symm.trans again)
            exact ⟨title, along, read, readToo, title_equals title along sort meets⟩
          · exact ⟨_, _, children_of_shaped s shaped, children_of_shaped t shapedToo,
              twins.children.imp fun _ _ same => ⟨congrArg (·.segment) same.1, same.2⟩⟩
          · rw [Value.outline, schema_rows_block, shown]
            rfl
          · rw [Value.outline, schema_rows_block, shownToo]
            rfl

end Schemata
