import Schemata.Proofs.Rendering

set_option autoImplicit false

/-!
Lines under every boundary. A reader may end a line at other characters than the line feed, and a text that
holds one of them brings it into the outline as it is. So an outline has one line for each node, and one more
for each such character in the titles, names and tokens of the tree.
-/

namespace Schemata

namespace Text

-- The boundaries that escaped texts can still hold.
def innerBoundaries : List Char := ['\x0b', '\x0c', '\x1c', '\x1d', '\x1e', '\x85', '\u2028', '\u2029']

-- The characters that end a line for some reader.
def boundaries : List Char := '\n' :: '\r' :: innerBoundaries

-- A text cut at every boundary. A carriage return and the line feed behind it are one, and what is behind the
-- last boundary is a line only if something is there.
def lines : List Char → List (List Char)
  | [] => []
  | c :: rest =>
    if c = '\r' ∧ rest.head? = some '\n' then lines rest
    else if c ∈ boundaries then [] :: lines rest
    else
      match lines rest with
      | [] => [[c]]
      | line :: others => (c :: line) :: others

example : lines "a\r\nb\r\x0bc".toList = [['a'], ['b'], [], ['c']] := by decide

def breaks (text : String) : Nat := text.toList.countP (· ∈ innerBoundaries)

def breaksAmong : List String → Nat
  | [] => 0
  | text :: rest => breaks text + breaksAmong rest

-- No boundary stands in a text.
def Unbroken (text : String) : Prop := ∀ c ∈ innerBoundaries, c ∉ text.toList

theorem breaks_append (first second : String) : breaks (first ++ second) = breaks first + breaks second := by
  rw [breaks, String.toList_append, List.countP_append]
  rfl

theorem breaks_none (text : String) : breaks text = 0 ↔ Unbroken text := by
  rw [breaks, List.countP_eq_zero, Unbroken]
  constructor
  · intro none c boundary member
    exact none c member (decide_eq_true boundary)
  · intro unbroken c member boundary
    exact unbroken c (of_decide_eq_true boundary) member

theorem breaks_among_none (texts : List String) : breaksAmong texts = 0 ↔ ∀ text ∈ texts, Unbroken text := by
  induction texts with
  | nil => exact iff_of_true rfl (List.forall_mem_nil _)
  | cons text rest hypothesis =>
      rw [List.forall_mem_cons, ← breaks_none, ← hypothesis]
      exact Nat.add_eq_zero_iff

theorem breaks_among_append (first second : List String) :
    breaksAmong (first ++ second) = breaksAmong first + breaksAmong second := by
  induction first with
  | nil => exact (Nat.zero_add _).symm
  | cons text rest hypothesis => rw [List.cons_append, breaksAmong, breaksAmong, hypothesis, Nat.add_assoc]

theorem breaks_among_map {α : Type} (first second : α → String) (items : List α)
    (alike : ∀ item, breaks (first item) = breaks (second item)) :
    breaksAmong (items.map first) = breaksAmong (items.map second) := by
  induction items with
  | nil => rfl
  | cons item rest hypothesis => rw [List.map_cons, List.map_cons, breaksAmong, breaksAmong, hypothesis, alike item]

-- What ends in a line feed has one line more than there are other boundaries before it.
theorem lines_counted (cs rest : List Char) (feed : '\n' ∉ cs) (carriage : '\r' ∉ cs) :
    (lines (cs ++ '\n' :: rest)).length = cs.countP (· ∈ innerBoundaries) + 1 + (lines rest).length := by
  induction cs with
  | nil =>
      have here : '\n' ∈ boundaries := by decide
      rw [List.nil_append, lines, if_neg (by simp), if_pos here, List.length_cons, List.countP_nil]
      omega
  | cons c cs hypothesis =>
      obtain ⟨notFeed, feedLater⟩ := not_or.mp (mt List.mem_cons.mpr feed)
      obtain ⟨notCarriage, carriageLater⟩ := not_or.mp (mt List.mem_cons.mpr carriage)
      have later := hypothesis feedLater carriageLater
      rw [List.cons_append, lines, if_neg fun both => notCarriage both.1.symm, List.countP_cons]
      by_cases boundary : c ∈ innerBoundaries
      · have here : c ∈ boundaries := List.mem_cons_of_mem _ (List.mem_cons_of_mem _ boundary)
        rw [if_pos here, List.length_cons, later]
        simp only [boundary, decide_true, if_true]
        omega
      · have other : c ∉ boundaries := by simp [boundaries, boundary, Ne.symm notFeed, Ne.symm notCarriage]
        rw [if_neg other]
        simp only [boundary, decide_false, Bool.false_eq_true, if_false]
        cases cut : lines (cs ++ '\n' :: rest) with
        | nil =>
            rw [cut, List.length_nil] at later
            omega
        | cons line others => rw [List.length_cons, Nat.add_zero, ← later, cut, List.length_cons]

theorem rows_counted (rows : List String) (clear : ∀ row ∈ rows, StaysOnLine row) :
    (lines (rows.flatMap fun row => row.toList ++ ['\n'])).length = rows.length + breaksAmong rows := by
  induction rows with
  | nil => rfl
  | cons row rest hypothesis =>
      have stays := clear row List.mem_cons_self
      have later := hypothesis fun other member => clear other (List.mem_cons_of_mem row member)
      rw [List.flatMap_cons, List.append_assoc, List.singleton_append,
        lines_counted _ _ (stays '\n' (by decide)) (stays '\r' (by decide)), later, List.length_cons]
      rw [breaksAmong, breaks]
      omega

-- Escapes neither add nor take away any of these boundaries.
theorem line_char_breaks (c : Char) :
    (lineChar c).countP (· ∈ innerBoundaries) = [c].countP (· ∈ innerBoundaries) := by
  unfold lineChar
  split
  · subst c
    decide
  · split
    · subst c
      decide
    · split
      · subst c
        decide
      · split
        · subst c
          decide
        · rfl

theorem title_char_breaks (c : Char) :
    (titleChar c).countP (· ∈ innerBoundaries) = [c].countP (· ∈ innerBoundaries) := by
  by_cases quote : c = '"'
  · subst c
    decide
  · rw [titleChar, if_neg quote, line_char_breaks]

theorem escaped_breaks (escape : Char → List Char)
    (kept : ∀ c, (escape c).countP (· ∈ innerBoundaries) = [c].countP (· ∈ innerBoundaries)) (cs : List Char) :
    (cs.flatMap escape).countP (· ∈ innerBoundaries) = cs.countP (· ∈ innerBoundaries) := by
  induction cs with
  | nil => rfl
  | cons c rest hypothesis =>
      rw [List.flatMap_cons, List.countP_append, kept c, hypothesis, ← List.countP_append, List.singleton_append]

theorem line_text_breaks (text : String) : breaks (lineText text) = breaks text := by
  rw [breaks, lineText, String.toList_ofList, escaped_breaks lineChar line_char_breaks]
  rfl

theorem title_text_breaks (text : String) : breaks (titleText text) = breaks text := by
  rw [breaks, titleText, String.toList_ofList, escaped_breaks titleChar title_char_breaks]
  rfl

theorem spaces_unbroken (count : Nat) : breaks (String.ofList (List.replicate count ' ')) = 0 := by
  rw [breaks, String.toList_ofList, List.countP_replicate]
  rfl

theorem number_unbroken (index : Nat) : breaks (toString index) = 0 := by
  rw [breaks_none]
  intro c boundary member
  have digit := digits_only index c member
  revert boundary digit
  simp only [innerBoundaries, List.mem_cons, List.not_mem_nil, or_false]
  rintro (rfl | rfl | rfl | rfl | rfl | rfl | rfl | rfl) <;> decide

end Text

-- The texts that a node brings into an outline: its title, its token and the names of its properties.
def Schema.titleWords (s : Schema) : List String :=
  match s.title with
  | .ok title => title.text?.toList
  | .error _ => []

def Schema.tokenWords : Schema → List String
  | .ref _ token => token.text?.toList
  | _ => []

def Schema.nameWords : Schema → List String
  | .object _ (.tuple _ items) _ _ => items.map Value.spelling
  | _ => []

def Schema.words (s : Schema) : List String := s.titleWords ++ s.tokenWords ++ s.nameWords

def wordsShown (visits : List Visit) : List String := visits.flatMap fun visit => visit.node.words

theorem kind_unbroken (kind : SchemaKind) : Text.breaks kind.text = 0 := by
  cases kind <;> decide

theorem title_part_breaks (s : Schema) (text : String) (read : s.titlePart = .ok text) :
    Text.breaks text = Text.breaksAmong s.titleWords := by
  unfold Schema.titlePart at read
  unfold Schema.titleWords
  cases shown : s.title with
  | error fault =>
      rw [shown] at read
      cases read
  | ok title =>
      rw [shown] at read
      simp only [bind, Except.bind] at read
      split at read
      · obtain rfl := Except.ok.inj read
        rfl
      · cases spelled : title.text? with
        | none =>
            rw [Value.lineSource, Value.textFor, spelled] at read
            cases read
        | some source =>
            rw [Value.lineSource, Value.textFor, spelled] at read
            obtain rfl := Except.ok.inj read
            have lead : Text.breaks " \"" = 0 := by decide
            have quote : Text.breaks "\"" = 0 := by decide
            change _ = Text.breaksAmong title.text?.toList
            rw [Text.breaks_append, Text.breaks_append, lead, quote, Text.title_text_breaks, spelled, Nat.zero_add]
            rfl

theorem token_part_breaks (s : Schema) (text : String) (read : s.tokenPart = .ok text) :
    Text.breaks text = Text.breaksAmong s.tokenWords := by
  cases s with
  | ref labels token =>
      cases spelled : token.text? with
      | none =>
          rw [Schema.tokenPart, Value.lineSource, Value.textFor, spelled] at read
          cases read
      | some source =>
          rw [Schema.tokenPart, Value.lineSource, Value.textFor, spelled] at read
          obtain rfl := Except.ok.inj read
          have arrow : Text.breaks " -> " = 0 := by decide
          rw [Text.breaks_append, arrow, Text.line_text_breaks, Schema.tokenWords, spelled, Nat.zero_add]
          rfl
  | _ =>
      obtain rfl := Except.ok.inj read
      rfl

theorem summary_breaks (s : Schema) (summary : String) (read : s.summary = .ok summary) :
    Text.breaks summary = Text.breaksAmong s.titleWords + Text.breaksAmong s.tokenWords := by
  rw [summary_parts] at read
  cases titled : s.titlePart with
  | error fault =>
      rw [titled] at read
      cases read
  | ok title =>
      cases referred : s.tokenPart with
      | error fault =>
          rw [titled, referred] at read
          cases read
      | ok token =>
          rw [titled, referred] at read
          obtain rfl := Except.ok.inj read
          rw [Text.breaks_append, Text.breaks_append, kind_unbroken, title_part_breaks s title titled,
            token_part_breaks s token referred, Nat.zero_add]

theorem property_label_breaks (required : Bool) (name : String) :
    Text.breaks (Text.onOneLine name ++ (if required then " (required)" else "")) = Text.breaks name := by
  have mark : Text.breaks (if required then " (required)" else "") = 0 := by
    cases required <;> decide
  rw [← Text.line_text_put_in, Text.breaks_append, Text.line_text_breaks, mark, Nat.add_zero]

theorem branch_segment_unbroken (mode : Mode) (index : Nat) : Text.Unbroken (Step.branch mode index).segment := by
  have slash : Text.breaks "/" = 0 := by decide
  rw [← Text.breaks_none, branch_segment, Text.breaks_append, Text.breaks_append, kind_unbroken, slash,
    Text.number_unbroken]

-- Of the labels of children only names of properties have boundaries.
theorem child_labels_breaks (s : Schema) (shaped : s.Shaped) :
    Text.breaksAmong s.childLabels = Text.breaksAmong s.nameWords := by
  by_cases object : s.kind = .object
  · obtain ⟨labels, properties, low, high, rfl⟩ := object_of_kind s object
    obtain ⟨handle, items, rfl, named⟩ := shaped
    exact Text.breaks_among_map _ _ items fun item => property_label_breaks item.isRequired item.spelling
  · have segments : ∀ label ∈ s.childLabels, Text.Unbroken label := by
      intro label member
      rcases segment_labels s shaped object label member with rfl | ⟨mode, index, rfl⟩
      · exact (Text.breaks_none "items").mp (by decide)
      · exact branch_segment_unbroken mode index
    have unnamed : s.nameWords = [] := by
      cases s with
      | object labels properties low high => exact absurd rfl object
      | _ => rfl
    rw [(Text.breaks_among_none s.childLabels).mpr segments, unnamed]
    rfl

theorem row_line_breaks (row : Row) : Text.breaks row.line = Text.breaks row.label + Text.breaks row.summary := by
  have colon : Text.breaks ": " = 0 := by decide
  rw [Row.line, Text.breaks_append, Text.breaks_append, Text.breaks_append, colon, Row.indentation,
    Text.spaces_unbroken, Nat.zero_add, Nat.add_zero]

def breaksOfRows (rows : List Row) : Nat := Text.breaksAmong (rows.map Row.line)

-- The rows of a value and its walk are as many, and the boundaries in the rows are those of the texts in the tree
-- and of the first label.
def Value.Counted (value : Value) : Prop :=
  ∀ (place : Place) (start : String), ∃ rows visits, Tour.byOutline.block place value = .ok rows ∧
    value.walk start = .ok visits ∧ rows.length = visits.length ∧
    breaksOfRows rows = Text.breaks place.label + Text.breaksAmong (wordsShown visits)

theorem breaks_of_rows_append (first second : List Row) :
    breaksOfRows (first ++ second) = breaksOfRows first + breaksOfRows second := by
  rw [breaksOfRows, List.map_append, Text.breaks_among_append]
  rfl

theorem words_shown_append (first second : List Visit) :
    wordsShown (first ++ second) = wordsShown first ++ wordsShown second := List.flatMap_append

theorem children_counted (depth : Nat) (start : String) (labels : List String) (children : List (Step × Value))
    (length : labels.length = children.length) (counted : ∀ child ∈ children, child.2.Counted) :
    ∃ blocks walks,
      ((List.zipWith (fun label child => (⟨⟨depth, label⟩, child.2⟩ : Placed Place)) labels children).mapM
        fun placed => Tour.byOutline.block placed.place placed.value) = .ok blocks ∧
      (children.mapM fun child => Value.walk child.2 (start ++ "/" ++ child.1.segment)) = .ok walks ∧
      blocks.flatten.length = walks.flatten.length ∧
      breaksOfRows blocks.flatten = Text.breaksAmong labels + Text.breaksAmong (wordsShown walks.flatten) := by
  induction children generalizing labels with
  | nil =>
      obtain rfl := List.length_eq_zero_iff.mp length
      exact ⟨[], [], rfl, rfl, rfl, rfl⟩
  | cons child rest hypothesis =>
      cases labels with
      | nil => cases length
      | cons label labels =>
          obtain ⟨rows, visits, shown, walked, sameLength, sum⟩ :=
            counted child List.mem_cons_self ⟨depth, label⟩ (start ++ "/" ++ child.1.segment)
          obtain ⟨blocks, walks, later, walkedLater, lengthLater, sumLater⟩ :=
            hypothesis labels (Nat.succ.inj length) fun other member =>
              counted other (List.mem_cons_of_mem child member)
          refine ⟨rows :: blocks, visits :: walks, ?_, ?_, ?_, ?_⟩
          · rw [List.zipWith_cons_cons, List.mapM_cons, shown, later]
            rfl
          · rw [List.mapM_cons, walked, walkedLater]
            rfl
          · rw [List.flatten_cons, List.flatten_cons, List.length_append, List.length_append, sameLength, lengthLater]
          · rw [List.flatten_cons, List.flatten_cons, breaks_of_rows_append, sum, sumLater, words_shown_append,
              Text.breaks_among_append]
            dsimp only [Text.breaksAmong]
            omega

theorem tree_counted (value : Value) (tree : value.IsTree Schema.Worded) : value.Counted := by
  induction tree with
  | node handle s worded shaped _ hypothesis =>
      intro place start
      obtain ⟨summary, read, _⟩ := summary_ok s worded
      obtain ⟨blocks, walks, collected, walked, length, sum⟩ :=
        children_counted (place.depth + 1) start s.childLabels s.offspring (child_labels_length s) hypothesis
      have row : Tour.byOutline.row place s = .ok ⟨place.depth, place.label, summary⟩ := by
        change s.summary.map _ = _
        rw [read]
        rfl
      have below : Tour.byOutline.below place s = .ok _ := outline_children_of_shaped place s shaped
      refine ⟨⟨place.depth, place.label, summary⟩ :: blocks.flatten, ⟨start, s⟩ :: walks.flatten, ?_, ?_, ?_, ?_⟩
      · rw [block_schema, row, below]
        simp only [Except.bind]
        rw [collected]
        rfl
      · rw [walk_schema, children_of_shaped s shaped]
        simp only [Except.bind]
        rw [walked]
        rfl
      · rw [List.length_cons, List.length_cons, length]
      · have first : breaksOfRows [⟨place.depth, place.label, summary⟩] =
            Text.breaks place.label + Text.breaks summary :=
          (Nat.add_zero _).trans (row_line_breaks _)
        have words : Text.breaksAmong s.words =
            Text.breaks summary + Text.breaksAmong s.nameWords := by
          rw [Schema.words, Text.breaks_among_append, Text.breaks_among_append, summary_breaks s summary read]
        have shown : wordsShown (⟨start, s⟩ :: walks.flatten) = s.words ++ wordsShown walks.flatten := rfl
        rw [← List.singleton_append, breaks_of_rows_append, first, sum, child_labels_breaks s shaped, shown,
          Text.breaks_among_append, words]
        omega

theorem definitions_counted (definitions : List (Value × Value))
    (typed : ∀ definition ∈ definitions, definition.1.text?.isSome ∧ definition.2.IsTree Schema.Worded) :
    ∃ blocks walks, definitions.mapM definitionBlock = .ok blocks ∧
      (definitions.mapM fun definition => definition.2.walk rootPointer) = .ok walks ∧
      blocks.flatten.length = walks.flatten.length ∧
      breaksOfRows blocks.flatten =
        Text.breaksAmong (definitions.map keyWord) + Text.breaksAmong (wordsShown walks.flatten) := by
  induction definitions with
  | nil => exact ⟨[], [], rfl, rfl, rfl, rfl⟩
  | cons definition rest hypothesis =>
      obtain ⟨named, tree⟩ := typed definition List.mem_cons_self
      obtain ⟨name, spelled⟩ := Option.isSome_iff_exists.mp named
      obtain ⟨labelled, _⟩ := definition_label_ok definition.1 name spelled
      obtain ⟨rows, visits, shown, walked, sameLength, sum⟩ :=
        tree_counted definition.2 tree ⟨0, "definitions/" ++ Text.lineText name⟩ rootPointer
      obtain ⟨blocks, walks, later, walkedLater, lengthLater, sumLater⟩ :=
        hypothesis fun other member => typed other (List.mem_cons_of_mem definition member)
      have first : definitionBlock definition = .ok rows := by
        rw [definitionBlock, labelled]
        exact shown
      have label : Text.breaks ("definitions/" ++ Text.lineText name) = Text.breaks (keyWord definition) := by
        have lead : Text.breaks "definitions/" = 0 := by decide
        rw [Text.breaks_append, lead, Text.line_text_breaks, keyWord, spelled, Nat.zero_add]
        rfl
      refine ⟨rows :: blocks, visits :: walks, ?_, ?_, ?_, ?_⟩
      · rw [List.mapM_cons, first, later]
        rfl
      · rw [List.mapM_cons, walked, walkedLater]
        rfl
      · rw [List.flatten_cons, List.flatten_cons, List.length_append, List.length_append, sameLength, lengthLater]
      · rw [List.flatten_cons, List.flatten_cons, breaks_of_rows_append, sum, sumLater, words_shown_append,
          Text.breaks_among_append, label]
        rw [List.map_cons, Text.breaksAmong]
        omega

-- The lines of rendered rows are as many as the rows and the boundaries in them.
theorem rendered_rows_counted (rows : List Row) (whole : ∀ row ∈ rows, Text.StaysOnLine row.line) :
    (Text.lines (renderRows rows.toArray).toList).length = rows.length + breaksOfRows rows := by
  rw [rendered_rows, Text.rows_counted _ (List.forall_mem_map.mpr whole), List.length_map, breaksOfRows]

-- An outline of visited nodes and other texts: a line for each node and for each boundary in the texts, so one for
-- each node exactly when no text has a boundary.
structure Outlines (text : String) (visits : List Visit) (words : List String) : Prop where
  count : (Text.lines text.toList).length = visits.length + Text.breaksAmong words
  single : (Text.lines text.toList).length = visits.length ↔ ∀ word ∈ words, Text.Unbroken word

theorem outlines_counted (text : String) (visits : List Visit) (words : List String)
    (count : (Text.lines text.toList).length = visits.length + Text.breaksAmong words) :
    Outlines text visits words := by
  refine ⟨count, ?_⟩
  rw [count, ← Text.breaks_among_none]
  omega

theorem schema_outlined (value : Value) (tree : value.IsTree Schema.Worded) :
    ∃ text visits, value.outline = .ok text ∧ value.walk rootPointer = .ok visits ∧
      Outlines text visits (wordsShown visits) := by
  obtain ⟨rows, visits, shown, walked, length, sum⟩ := tree_counted value tree ⟨0, rootLabel⟩ rootPointer
  obtain ⟨others, collected, _, whole⟩ := block_shows rootLabel root_label_stays value tree
  obtain rfl := Except.ok.inj (shown.symm.trans collected)
  obtain ⟨handle, s, rfl⟩ := tree_is_schema _ value tree
  refine ⟨renderRows rows.toArray, visits, ?_, walked, outlines_counted _ _ _ ?_⟩
  · rw [Value.outline, schema_rows_block, shown]
    rfl
  · have root : Text.breaks rootLabel = 0 := by decide
    rw [rendered_rows_counted rows whole, length, sum, root, Nat.zero_add]

theorem document_outlined (handle : Handle) (m : Model) (rootTree : m.root.IsTree Schema.Worded)
    (typed : ∀ definition ∈ m.definitions, definition.1.text?.isSome ∧ definition.2.IsTree Schema.Worded) :
    ∃ text visits walks, (Value.model handle m).outline = .ok text ∧ m.root.walk rootPointer = .ok visits ∧
      (m.definitions.mapM fun definition => definition.2.walk rootPointer) = .ok walks ∧
      Outlines text (visits ++ walks.flatten)
        (m.definitions.map keyWord ++ wordsShown (visits ++ walks.flatten)) := by
  obtain ⟨rows, visits, shown, walked, length, sum⟩ := tree_counted m.root rootTree ⟨0, rootLabel⟩ rootPointer
  obtain ⟨others, collected, _, whole⟩ := block_shows rootLabel root_label_stays m.root rootTree
  obtain rfl := Except.ok.inj (shown.symm.trans collected)
  obtain ⟨blocks, walks, later, walkedLater, lengthLater, sumLater⟩ := definitions_counted m.definitions typed
  obtain ⟨others, gathered, _, wholeLater⟩ := definition_blocks_show m.definitions typed
  obtain rfl := Except.ok.inj (later.symm.trans gathered)
  refine ⟨renderRows (rows ++ blocks.flatten).toArray, visits, walks, ?_, walked, walkedLater,
    outlines_counted _ _ _ ?_⟩
  · change m.rows.map renderRows = _
    rw [model_rows_blocks, shown]
    simp only [Except.bind]
    rw [later]
    rfl
  · have root : Text.breaks rootLabel = 0 := by decide
    rw [rendered_rows_counted _ (List.forall_mem_append.mpr ⟨whole, wholeLater⟩), breaks_of_rows_append, sum, sumLater,
      root, words_shown_append, Text.breaks_among_append, Text.breaks_among_append, List.length_append,
      List.length_append, length, lengthLater]
    omega

-- The trees that an outline shows, one after the other.
def Value.treesShown : Value → List Value
  | .model _ m => m.root :: m.definitions.map Prod.snd
  | value => [value]

def Value.definitionsShown : Value → List (Value × Value)
  | .model _ m => m.definitions
  | _ => []

-- A node or a document as it is declared.
structure Value.IsTarget (target : Value) : Prop where
  trees : ∀ value ∈ target.treesShown, value.IsTree Schema.Worded
  names : ∀ definition ∈ target.definitionsShown, definition.1.text?.isSome

theorem outline_lines_counted (target : Value) (typed : target.IsTarget) :
    ∃ text walks, target.outline = .ok text ∧
      (target.treesShown.mapM fun value => value.walk rootPointer) = .ok walks ∧
      Outlines text walks.flatten (target.definitionsShown.map keyWord ++ wordsShown walks.flatten) := by
  cases target with
  | model handle m =>
      obtain ⟨root, definitions⟩ := List.forall_mem_cons.mp typed.trees
      obtain ⟨text, visits, walks, rendered, walked, walkedLater, outlined⟩ :=
        document_outlined handle m root fun definition member =>
          ⟨typed.names definition member, definitions _ (List.mem_map_of_mem member)⟩
      have walkedBehind : ((m.definitions.map Prod.snd).mapM fun value => value.walk rootPointer) = .ok walks :=
        List.mapM_map.trans walkedLater
      refine ⟨text, visits :: walks, rendered, ?_, outlined⟩
      rw [Value.treesShown, List.mapM_cons, walked, walkedBehind]
      rfl
  | schema handle s =>
      obtain ⟨text, visits, rendered, walked, outlined⟩ := schema_outlined _ (typed.trees _ List.mem_cons_self)
      refine ⟨text, [visits], rendered, ?_, ?_⟩
      · change [Value.schema handle s].mapM _ = _
        rw [List.mapM_cons, walked]
        rfl
      · rw [List.flatten_singleton]
        exact outlined
  | _ => cases typed.trees _ List.mem_cons_self

-- A title with a line separator in it.
def separatedNode : Schema := .null (.of (.text "a\u2028b") .null [])

theorem separated_node_tree : (Value.schema none separatedNode).IsTree Schema.Worded :=
  .node none _ ⟨⟨.text "a\u2028b", rfl, .inr rfl⟩, fun _ _ same => by cases same⟩ trivial (List.forall_mem_nil _)

theorem separated_node_walk :
    (Value.schema none separatedNode).walk rootPointer = .ok [⟨rootPointer, separatedNode⟩] := by
  rw [walk_schema]
  rfl

-- One node, and two lines.
theorem separated_title_breaks :
    (Value.schema none separatedNode).IsTree Schema.Worded ∧
      ∃ text visits, (Value.schema none separatedNode).outline = .ok text ∧
        (Value.schema none separatedNode).walk rootPointer = .ok visits ∧ visits.length = 1 ∧
        (Text.lines text.toList).length = 2 := by
  obtain ⟨text, visits, rendered, walked, outlined⟩ := schema_outlined _ separated_node_tree
  obtain rfl := Except.ok.inj (separated_node_walk.symm.trans walked)
  have words : Text.breaksAmong (wordsShown [⟨rootPointer, separatedNode⟩]) = 1 := by decide
  refine ⟨separated_node_tree, text, _, rendered, walked, rfl, ?_⟩
  rw [outlined.count, words]
  rfl

-- A document with a separator in the title of its root, and with a boundary in the name of a definition.
def separatedDocument : Value :=
  .model none ⟨[(.text "b\x85c", .schema none brokenNode)], .schema none separatedNode⟩

theorem separated_document_counted :
    (Value.schema none brokenNode).IsTarget ∧
    (∃ text walks, (Value.schema none brokenNode).outline = .ok text ∧
      ((Value.schema none brokenNode).treesShown.mapM fun value => value.walk rootPointer) = .ok walks ∧
      Outlines text walks.flatten ([] ++ wordsShown walks.flatten)) ∧
    separatedDocument.IsTarget ∧
    ∃ text walks, separatedDocument.outline = .ok text ∧
      (separatedDocument.treesShown.mapM fun value => value.walk rootPointer) = .ok walks ∧
      Outlines text walks.flatten (["b\x85c"] ++ wordsShown walks.flatten) := by
  have node : (Value.schema none brokenNode).IsTarget :=
    ⟨List.forall_mem_singleton.mpr broken_node_tree, List.forall_mem_nil _⟩
  have document : separatedDocument.IsTarget :=
    ⟨List.forall_mem_cons.mpr ⟨separated_node_tree, List.forall_mem_singleton.mpr broken_node_tree⟩,
      List.forall_mem_singleton.mpr rfl⟩
  exact ⟨node, outline_lines_counted _ node, document, outline_lines_counted _ document⟩

end Schemata
