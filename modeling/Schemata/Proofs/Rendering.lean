import Schemata.Proofs.Line
import Schemata.Proofs.Pointer

set_option autoImplicit false

/-!
The outline as a rendering of the walk. Both tours list the addresses of a tree in the same order, so there
is one line for each visit: indented by the steps to the node, labelled by what leads to it, with the
summary of that node. No text within a tree can add a line or take one away. What a line is made of is
spelled out here, and the outline is proved to have it.
-/

namespace Schemata

-- Titles and tokens are texts, and a title may be absent.
structure Schema.Worded (s : Schema) : Prop where
  title : ∃ title, s.title = .ok title ∧ (title = .null ∨ title.text?.isSome)
  token : ∀ labels token, s = .ref labels token → token.text?.isSome

-- What the children of a node are labelled with, in document order: a property with its name and whether it is
-- required, any other child with its segment.
def Schema.childLabels : Schema → List String
  | .object _ (.tuple _ items) _ _ =>
    items.map fun item => Text.onOneLine item.spelling ++ (if item.isRequired then " (required)" else "")
  | s => s.offspring.map fun child => child.1.segment

-- The label of the node at an address, where the node that it is taken from has a label of its own.
def Schema.labelAt? (label : String) (s : Schema) : Address → Option String
  | [] => some label
  | index :: rest =>
    s.childLabels[index]?.bind fun label =>
      (s.childAt? index).bind fun child => child.2.labelAt? label rest

-- Lines that show the visits of a walk one by one.
structure ShowsWalk (first : String) (s : Schema) (visits : List Visit) (lines : List String) : Prop where
  count : lines.length = visits.length
  each : ∃ addresses, PreOrder s rootPointer visits addresses ∧
    List.Forall₂ (fun here line => ∃ steps label summary,
      s.descend here.1 = some (steps, here.2.node) ∧ s.labelAt? first here.1 = some label ∧
        here.2.node.summary = .ok summary ∧
        line = String.join (List.replicate steps.length "  ") ++ label ++ ": " ++ summary)
    (addresses.zip visits) lines
  whole : ∀ line ∈ lines, Text.StaysOnLine line

-- A value is a node whose walk the lines show.
def Value.OutlinedAs (value : Value) (first : String) (lines : List String) : Prop :=
  ∃ handle s visits, value = .schema handle s ∧ value.walk rootPointer = .ok visits ∧ ShowsWalk first s visits lines

theorem kind_text_stays (kind : SchemaKind) : Text.StaysOnLine kind.text := by
  cases kind <;> decide

theorem title_part_absent (s : Schema) (read : s.title = .ok .null) : s.titlePart = .ok "" := by
  rw [Schema.titlePart, read]
  rfl

theorem title_part_text (s : Schema) (title : Value) (text : String) (read : s.title = .ok title)
    (spelled : title.text? = some text) : s.titlePart = .ok (" \"" ++ Text.titleText text ++ "\"") := by
  rw [Schema.titlePart, read]
  simp only [bind, Except.bind]
  split
  · cases spelled
  · rw [Value.lineSource, Value.textFor, spelled]
    rfl

theorem token_part_text (labels : Labels) (token : Value) (text : String) (spelled : token.text? = some text) :
    (Schema.ref labels token).tokenPart = .ok (" -> " ++ Text.lineText text) := by
  rw [Schema.tokenPart, Value.lineSource, Value.textFor, spelled]
  rfl

theorem text_adding (text addition : String) : (Value.text text).adding addition = .ok (.text (text ++ addition)) := by
  unfold Value.adding
  split
  · next nothing => rw [nothing, String.append_empty]
  · rfl

-- The kind is shown by its own value, and whatever is added to that is a text.
theorem summary_parts (s : Schema) : s.summary = do
    let title ← s.titlePart
    let token ← s.tokenPart
    return s.kind.text ++ title ++ token := by
  rw [Schema.summary, ownWords]
  cases s.titlePart with
  | error fault => rfl
  | ok title =>
      simp only [bind, Except.bind, text_adding]
      cases s.tokenPart <;> rfl

theorem title_part_ok (s : Schema) (worded : s.Worded) :
    ∃ text, s.titlePart = .ok text ∧ Text.StaysOnLine text := by
  obtain ⟨title, read, sort⟩ := worded.title
  rcases sort with rfl | spelled
  · exact ⟨"", title_part_absent s read, by decide⟩
  · obtain ⟨text, source⟩ := Option.isSome_iff_exists.mp spelled
    have quote : Text.StaysOnLine "\"" := by decide
    have lead : Text.StaysOnLine " \"" := by decide
    exact ⟨" \"" ++ Text.titleText text ++ "\"", title_part_text s title text read source,
      Text.stays_append _ _ (Text.stays_append _ _ lead (Text.title_text_stays text)) quote⟩

theorem token_part_ok (s : Schema) (worded : s.Worded) :
    ∃ text, s.tokenPart = .ok text ∧ Text.StaysOnLine text := by
  have nothing : Text.StaysOnLine "" := by decide
  cases s with
  | ref labels token =>
      obtain ⟨text, source⟩ := Option.isSome_iff_exists.mp (worded.token labels token rfl)
      have arrow : Text.StaysOnLine " -> " := by decide
      exact ⟨" -> " ++ Text.lineText text, token_part_text labels token text source,
        Text.stays_append _ _ arrow (Text.line_text_stays text)⟩
  | _ => exact ⟨"", rfl, nothing⟩

theorem summary_ok (s : Schema) (worded : s.Worded) :
    ∃ summary, s.summary = .ok summary ∧ Text.StaysOnLine summary := by
  obtain ⟨title, titleRead, titleStays⟩ := title_part_ok s worded
  obtain ⟨token, tokenRead, tokenStays⟩ := token_part_ok s worded
  refine ⟨s.kind.text ++ title ++ token, ?_,
    Text.stays_append _ _ (Text.stays_append _ _ (kind_text_stays s.kind) titleStays) tokenStays⟩
  rw [summary_parts, titleRead, tokenRead]
  rfl

theorem number_stays (index : Nat) : Text.StaysOnLine (toString index) := by
  intro c moves member
  have digit := digits_only index c member
  revert moves digit
  simp only [Text.lineMoves, List.mem_cons, List.not_mem_nil, or_false]
  rintro (rfl | rfl | rfl) <;> decide

theorem branches_steps (mode : Mode) (start : Nat) (values : List Value) :
    ∀ child ∈ branches mode start values, ∃ index, child.1 = .branch mode index := by
  induction values generalizing start with
  | nil => exact List.forall_mem_nil _
  | cons value rest hypothesis =>
      exact List.forall_mem_cons.mpr ⟨⟨start, rfl⟩, hypothesis (start + 1)⟩

theorem branch_segment_stays (mode : Mode) (index : Nat) :
    Text.StaysOnLine (Step.branch mode index).segment := by
  have slash : Text.StaysOnLine "/" := by decide
  exact Text.stays_append _ _ (Text.stays_append _ _ (kind_text_stays mode.kind) slash) (number_stays index)

theorem property_label_put_in (required : Bool) (name : String) :
    propertyLabel required name = Text.onOneLine name ++ (if required then " (required)" else "") := by
  rw [propertyLabel, Text.line_text_put_in]
  rfl

theorem property_label_stays (required : Bool) (name : String) :
    Text.StaysOnLine (Text.onOneLine name ++ (if required then " (required)" else "")) := by
  refine Text.stays_append _ _ (Text.line_text_put_in name ▸ Text.line_text_stays name) ?_
  cases required <;> decide

theorem object_of_kind (s : Schema) (object : s.kind = .object) :
    ∃ labels properties low high, s = .object labels properties low high := by
  cases s with
  | object labels properties low high => exact ⟨labels, properties, low, high, rfl⟩
  | combined mode combinator => cases mode <;> cases object
  | _ => cases object

-- A child that is no property is labelled by its segment.
theorem labels_are_segments (s : Schema) (other : s.kind ≠ .object) :
    s.childLabels = s.offspring.map fun child => child.1.segment := by
  cases s with
  | object labels properties low high => exact absurd rfl other
  | _ => rfl

theorem segment_labels (s : Schema) (shaped : s.Shaped) (other : s.kind ≠ .object) :
    ∀ label ∈ s.childLabels, label = Step.items.segment ∨ ∃ mode index, label = (Step.branch mode index).segment := by
  rw [labels_are_segments s other]
  refine List.forall_mem_map.mpr fun child member => ?_
  cases s with
  | object labels properties low high => exact absurd rfl other
  | array labels items low high =>
      rcases array_offspring labels items low high with none | one
      · rw [none] at member
        exact absurd member List.not_mem_nil
      · rw [one] at member
        exact .inl (congrArg (fun child => child.1.segment) (List.mem_singleton.mp member))
  | combined mode combinator =>
      obtain ⟨handle, labels, inner, alternatives, rfl⟩ := shaped
      obtain ⟨index, step⟩ := branches_steps mode 0 alternatives child member
      exact .inr ⟨mode, index, congrArg (·.segment) step⟩
  | _ => exact absurd member List.not_mem_nil

theorem child_labels_stay (s : Schema) (shaped : s.Shaped) : ∀ label ∈ s.childLabels, Text.StaysOnLine label := by
  by_cases object : s.kind = .object
  · obtain ⟨labels, properties, low, high, rfl⟩ := object_of_kind s object
    obtain ⟨handle, items, rfl, named⟩ := shaped
    exact List.forall_mem_map.mpr fun item _ => property_label_stays item.isRequired item.spelling
  · intro label member
    rcases segment_labels s shaped object label member with rfl | ⟨mode, index, rfl⟩
    · exact (by decide : Text.StaysOnLine "items")
    · exact branch_segment_stays mode index

theorem truth_of_bool (b : Bool) : (Value.bool b).truth = .ok b := by
  cases b <;> rfl

theorem labelled_property (depth : Nat) (item : Value) (shaped : item.IsProperty) :
    labelledChild depth item =
      .ok ⟨⟨depth, Text.onOneLine item.spelling ++ (if item.isRequired then " (required)" else "")⟩, item.target⟩ := by
  cases item with
  | property handle p =>
      obtain ⟨text, named⟩ := Option.isSome_iff_exists.mp shaped
      have schema : Value.attribute "schema" (.property handle p) = .ok p.schema := rfl
      have name : Value.attribute "name" (.property handle p) = .ok p.name := rfl
      have marked : Value.attribute "is_required" (.property handle p) = .ok (.bool p.required) := rfl
      have spelled : p.name.lineSource = .ok text := by rw [Value.lineSource, Value.textFor, named]
      rw [labelledChild, schema, name, marked]
      simp only [bind, Except.bind, spelled, truth_of_bool, property_label_put_in]
      rw [Value.spelling, named]
      rfl
  | _ => exact absurd shaped id

-- Children are placed one level deeper, under their labels.
theorem outline_children_of_shaped (place : Place) (s : Schema) (shaped : s.Shaped) :
    s.outlineChildren place = .ok (List.zipWith (fun label child => ⟨⟨place.depth + 1, label⟩, child.2⟩)
      s.childLabels s.offspring) := by
  have plain : s.children.map (fun children => children.map fun child =>
        (⟨⟨place.depth + 1, child.1.segment⟩, child.2⟩ : Placed Place)) =
      .ok (List.zipWith (fun label child => ⟨⟨place.depth + 1, label⟩, child.2⟩)
        (s.offspring.map fun child => child.1.segment) s.offspring) := by
    rw [children_of_shaped s shaped, List.zipWith_map_left, List.zipWith_self]
    rfl
  cases s with
  | object labels properties low high =>
      obtain ⟨handle, items, rfl, named⟩ := shaped
      rw [Schema.childLabels, Schema.offspring, List.zipWith_map, List.zipWith_self]
      exact map_m_ok _ _ items fun item member => labelled_property (place.depth + 1) item (named item member)
  | _ => exact plain

theorem child_labels_length (s : Schema) : s.childLabels.length = s.offspring.length := by
  unfold Schema.childLabels
  split
  · rw [Schema.offspring, List.length_map, List.length_map]
  · rw [List.length_map]

theorem node_at_outline (place : Place) (s : Schema) (index : Nat) :
    nodeAt? (List.zipWith (fun label child => (⟨⟨place.depth + 1, label⟩, child.2⟩ : Placed Place))
      s.childLabels s.offspring) index =
      s.childLabels[index]?.bind fun label =>
        (s.childAt? index).map fun child => (⟨place.depth + 1, label⟩, child.2) := by
  rw [nodeAt?, List.getElem?_zipWith, Schema.childAt?]
  cases s.childLabels[index]? with
  | none => rfl
  | some label =>
      cases s.offspring[index]? with
      | none => simp
      | some child =>
          obtain ⟨step, value⟩ := child
          cases value <;> simp

-- An outline comes to the nodes that a walk comes to, and knows how deep they are.
theorem stand_by_outline (condition : Schema → Prop) (address : Address) (place : Place) (handle : Handle)
    (s : Schema) (tree : (Value.schema handle s).IsTree condition) :
    Tour.byOutline.stand address place s =
      (s.descend address).bind fun found =>
        (s.labelAt? place.label address).map fun label => (⟨place.depth + address.length, label⟩, found.2) := by
  induction address generalizing place handle s with
  | nil => rfl
  | cons index rest hypothesis =>
      have shaped := (tree_here condition handle s tree).2
      simp only [Tour.stand, Schema.descend, Schema.labelAt?, Tour.byOutline,
        outline_children_of_shaped place s shaped, node_at_outline place s index]
      cases s.childLabels[index]? with
      | none => cases (s.childAt? index).bind _ <;> rfl
      | some label =>
          cases reached : s.childAt? index with
          | none => rfl
          | some child =>
              obtain ⟨step, node⟩ := child
              obtain ⟨inner, _, below⟩ := child_at_tree condition handle s tree index step node reached
              have later := hypothesis ⟨place.depth + 1, label⟩ inner node below
              simp only [Tour.byOutline] at later
              simp only [Option.map_some, Option.bind_some, later, List.length_cons]
              cases node.descend rest with
              | none => rfl
              | some found =>
                  simp only [Option.map_some, Option.bind_some]
                  congr! 4
                  omega

theorem label_reached (condition : Schema → Prop) (address : Address) (label : String) (handle : Handle)
    (s : Schema) (tree : (Value.schema handle s).IsTree condition) (reached : (s.descend address).isSome) :
    ∃ here, s.labelAt? label address = some here ∧ (here = label ∨ Text.StaysOnLine here) := by
  induction address generalizing label handle s with
  | nil => exact ⟨label, rfl, .inl rfl⟩
  | cons index rest hypothesis =>
      obtain ⟨⟨steps, node⟩, found⟩ := Option.isSome_iff_exists.mp reached
      obtain ⟨step, child, others, here, later, _⟩ := descend_cons s index rest steps node found
      obtain ⟨inner, present, below⟩ := child_at_tree condition handle s tree index step child here
      have bound : index < s.childLabels.length := by
        rw [child_labels_length s]
        exact (List.getElem?_eq_some_iff.mp present).1
      have stays := child_labels_stay s (tree_here condition handle s tree).2 _ (List.getElem_mem bound)
      obtain ⟨last, lower, sort⟩ := hypothesis s.childLabels[index] inner child below (by rw [later]; rfl)
      refine ⟨last, ?_, .inr ?_⟩
      · rw [Schema.labelAt?, List.getElem?_eq_getElem bound, here]
        exact lower
      · rcases sort with rfl | apart
        · exact stays
        · exact apart

theorem descend_length (s : Schema) (address : Address) (steps : List Step) (node : Schema)
    (found : s.descend address = some (steps, node)) : steps.length = address.length := by
  induction address generalizing s steps with
  | nil =>
      obtain ⟨rfl, _⟩ := Prod.mk.inj (Option.some.inj found)
      rfl
  | cons index rest hypothesis =>
      obtain ⟨step, child, others, _, later, rfl⟩ := descend_cons s index rest steps node found
      rw [List.length_cons, List.length_cons, hypothesis child others later]

-- Two ascending lists of addresses with the same members are the same list.
theorem same_addresses (first second : List Address) (left : first.Pairwise (· < ·)) (right : second.Pairwise (· < ·))
    (members : ∀ address, address ∈ first ↔ address ∈ second) : first = second := by
  have once (addresses : List Address) (ascending : addresses.Pairwise (· < ·)) : addresses.Nodup :=
    ascending.imp fun {upper lower} less same => by
      subst same
      exact List.lex_irrefl Nat.lt_irrefl upper less
  have permuted := (List.perm_ext_iff_of_nodup (once first left) (once second right)).mpr members
  refine permuted.eq_of_pairwise (fun a b _ _ less more => ?_) left right
  exact absurd more (List.lt_asymm less)

theorem related_to_both {α β γ : Type} (left : α → β → Prop) (right : α → γ → Prop) (items : List α) (firsts : List β)
    (seconds : List γ) (first : List.Forall₂ left items firsts) (second : List.Forall₂ right items seconds) :
    List.Forall₂ (fun here result => left here.1 here.2 ∧ right here.1 result) (items.zip firsts) seconds := by
  induction first generalizing seconds with
  | nil =>
      cases second
      exact .nil
  | cons here _ hypothesis =>
      cases second with
      | cons there later => exact .cons ⟨here, there⟩ (hypothesis _ later)

theorem outline_finishes (value : Value) (tree : value.IsTree Schema.Worded) (place : Place) :
    ∃ rows, Tour.byOutline.block place value = .ok rows := by
  refine block_finishes Tour.byOutline Schema.Worded ?_ value tree place
  intro place s shaped worded
  obtain ⟨summary, read, _⟩ := summary_ok s worded
  refine ⟨⟨place.depth, place.label, summary⟩, _, ?_, outline_children_of_shaped place s shaped, ?_⟩
  · simp only [Tour.byOutline, read]
    rfl
  · intro placed member
    obtain ⟨index, found⟩ := List.mem_iff_getElem?.mp member
    rw [List.getElem?_zipWith] at found
    cases labels : s.childLabels[index]? with
    | none => simp [labels] at found
    | some label =>
        cases children : s.offspring[index]? with
        | none => simp [labels, children] at found
        | some child =>
            simp only [labels, children, Option.some.injEq] at found
            exact ⟨child, List.mem_of_getElem? children, found ▸ rfl⟩

theorem descend_tree (condition : Schema → Prop) (address : Address) (handle : Handle) (s : Schema)
    (tree : (Value.schema handle s).IsTree condition) (steps : List Step) (node : Schema)
    (found : s.descend address = some (steps, node)) : ∃ inner, (Value.schema inner node).IsTree condition := by
  induction address generalizing handle s steps with
  | nil =>
      obtain ⟨_, rfl⟩ := Prod.mk.inj (Option.some.inj found)
      exact ⟨handle, tree⟩
  | cons index rest hypothesis =>
      obtain ⟨step, child, others, here, later, _⟩ := descend_cons s index rest steps node found
      obtain ⟨inner, _, below⟩ := child_at_tree condition handle s tree index step child here
      exact hypothesis inner child below others later

-- The row that an outline has at an address of a tree.
theorem row_at_address (first : String) (handle : Handle) (s : Schema)
    (tree : (Value.schema handle s).IsTree Schema.Worded) (stays : Text.StaysOnLine first) (address : Address)
    (steps : List Step) (node : Schema) (found : s.descend address = some (steps, node)) :
    ∃ label summary, s.labelAt? first address = some label ∧ node.summary = .ok summary ∧
      (∀ place other row, Tour.byOutline.stand address ⟨0, first⟩ s = some (place, other) →
        Tour.byOutline.row place other = .ok row → row = ⟨steps.length, label, summary⟩) ∧
      Text.StaysOnLine (Row.line ⟨steps.length, label, summary⟩) := by
  obtain ⟨inner, below⟩ := descend_tree Schema.Worded address handle s tree steps node found
  obtain ⟨summary, read, summaryStays⟩ := summary_ok node (tree_here _ inner node below).1
  obtain ⟨label, here, sort⟩ := label_reached _ address first handle s tree (by rw [found]; rfl)
  have labelStays : Text.StaysOnLine label := by
    rcases sort with rfl | apart
    · exact stays
    · exact apart
  refine ⟨label, summary, here, read, ?_, row_line_stays _ labelStays summaryStays⟩
  intro place other row stands shown
  rw [stand_by_outline Schema.Worded address ⟨0, first⟩ handle s tree, found] at stands
  simp only [Option.bind_some, here, Option.map_some, Option.some.injEq, Prod.mk.injEq, Nat.zero_add] at stands
  obtain ⟨rfl, rfl⟩ := stands
  simp only [Tour.byOutline, read, Except.map, Except.ok.injEq] at shown
  rw [descend_length s address steps node found]
  exact shown.symm

theorem block_shows (first : String) (stays : Text.StaysOnLine first) (value : Value)
    (tree : value.IsTree Schema.Worded) :
    ∃ rows, Tour.byOutline.block ⟨0, first⟩ value = .ok rows ∧ value.OutlinedAs first (rows.map Row.line) ∧
      ∀ row ∈ rows, Text.StaysOnLine row.line := by
  obtain ⟨handle, s, rfl⟩ := tree_is_schema _ value tree
  obtain ⟨visits, walked⟩ := walk_finishes _ _ tree rootPointer
  obtain ⟨rows, collected⟩ := outline_finishes _ tree ⟨0, first⟩
  obtain ⟨addresses, walkListing⟩ := block_listing (Tour.byPointer .ok) rootPointer handle s visits walked
  obtain ⟨others, outlineListing⟩ := block_listing Tour.byOutline ⟨0, first⟩ handle s rows collected
  have order := listing_pre_order _ handle s tree rootPointer visits addresses walkListing
  have members : ∀ address, address ∈ others ↔ address ∈ addresses := by
    intro address
    rw [outlineListing.complete, order.complete, stand_by_outline _ address _ handle s tree]
    cases reached : s.descend address with
    | none => simp
    | some found =>
        obtain ⟨label, here, _⟩ := label_reached _ address first handle s tree (by rw [reached]; rfl)
        simp [here]
  obtain rfl := same_addresses others addresses outlineListing.ascending walkListing.ascending members
  have whole : ∀ row ∈ rows, Text.StaysOnLine row.line := by
    intro row member
    obtain ⟨address, listed, place, other, stands, shown⟩ :=
      source_of_result _ others rows outlineListing.placed row member
    obtain ⟨⟨steps, node⟩, found⟩ := Option.isSome_iff_exists.mp ((order.complete address).mp listed)
    obtain ⟨label, summary, _, _, same, rowStays⟩ := row_at_address first handle s tree stays address steps node found
    rw [same place other row stands shown]
    exact rowStays
  refine ⟨rows, collected, ⟨handle, s, visits, rfl, walked, ?_⟩, whole⟩
  refine ⟨?_, ⟨others, order, ?_⟩, List.forall_mem_map.mpr whole⟩
  · rw [List.length_map, ← outlineListing.placed.length_eq, walkListing.placed.length_eq]
  · rw [List.forall₂_map_right_iff]
    refine (related_to_both _ _ others visits rows order.placed outlineListing.placed).imp ?_
    rintro here row ⟨⟨steps, found, _⟩, place, other, stands, shown⟩
    obtain ⟨label, summary, labelled, read, same, _⟩ :=
      row_at_address first handle s tree stays here.1 steps here.2.node found
    refine ⟨steps, label, summary, found, labelled, read, ?_⟩
    rw [same place other row stands shown, Row.line, indentation_levels]

-- The lines of an outline whose rows are known.
theorem outline_lines (value : Value) (rows : Rows) (collected : value.rows = .ok rows)
    (whole : ∀ row ∈ rows.toList, Text.StaysOnLine row.line) :
    ∃ text, value.outline = .ok text ∧ Text.split '\n' text = rows.toList.map Row.line ++ [""] := by
  refine ⟨renderRows rows, ?_, rendered_rows_split rows whole⟩
  rw [Value.outline, collected]
  rfl

theorem root_label_stays : Text.StaysOnLine rootLabel := by decide

theorem definition_label_ok (name : Value) (text : String) (spelled : name.text? = some text) :
    definitionLabel name = .ok ("definitions/" ++ Text.lineText text) ∧
      Text.StaysOnLine ("definitions/" ++ Text.lineText text) := by
  have lead : Text.StaysOnLine "definitions/" := by decide
  refine ⟨?_, Text.stays_append _ _ lead (Text.line_text_stays text)⟩
  rw [definitionLabel, Value.lineSource, Value.textFor, spelled]
  rfl

-- The text of the key of a definition.
def keyWord (definition : Value × Value) : String := definition.1.text?.getD ""

-- What a definition adds to an outline.
def definitionBlock (definition : Value × Value) : Except Fault (List Row) := do
  let label ← definitionLabel definition.1
  Tour.byOutline.block ⟨0, label⟩ definition.2

theorem definition_rows_block (rows : Rows) (definition : Value × Value) :
    definitionRows ownWords rows definition = (definitionBlock definition).map fun block => rows ++ block.toArray := by
  rw [definitionRows, definitionBlock]
  cases definitionLabel definition.1 with
  | error fault => rfl
  | ok label => exact visit_block Tour.byOutline ⟨0, label⟩ definition.2 rows

theorem definition_rows_blocks (definitions : List (Value × Value)) (rows : Rows) :
    definitions.foldlM (definitionRows ownWords) rows =
      (definitions.mapM definitionBlock).map fun blocks => rows ++ blocks.flatten.toArray := by
  induction definitions generalizing rows with
  | nil => simp [Except.map, pure, Except.pure]
  | cons definition rest hypothesis =>
      rw [List.foldlM_cons, definition_rows_block, List.mapM_cons]
      cases definitionBlock definition with
      | error fault => rfl
      | ok block =>
          simp only [Except.map, bind, Except.bind]
          rw [hypothesis]
          cases rest.mapM definitionBlock with
          | error fault => rfl
          | ok blocks => simp [Except.map, pure, Except.pure]

-- An outline has the rows of the root, then those of the definitions.
theorem model_rows_blocks (m : Model) :
    m.rows = (Tour.byOutline.block ⟨0, rootLabel⟩ m.root).bind fun block =>
      (m.definitions.mapM definitionBlock).map fun blocks => (block ++ blocks.flatten).toArray := by
  rw [Model.rows, Value.outlineOnto, visit_block]
  cases Tour.byOutline.block ⟨0, rootLabel⟩ m.root with
  | error fault => rfl
  | ok block =>
      simp only [Except.map, bind, Except.bind]
      rw [definition_rows_blocks]
      cases m.definitions.mapM definitionBlock with
      | error fault => rfl
      | ok blocks => simp [Except.map]

theorem schema_rows_block (handle : Handle) (s : Schema) :
    (Value.schema handle s).rows =
      (Tour.byOutline.block ⟨0, rootLabel⟩ (.schema handle s)).map List.toArray := by
  change Tour.byOutline.visit _ _ = _
  rw [visit_block]
  cases Tour.byOutline.block ⟨0, rootLabel⟩ (.schema handle s) with
  | error fault => rfl
  | ok block => simp [Except.map]

-- A node without children has one line.
theorem leaf_outlined (handle : Handle) (s : Schema) (words : KindWords) (summary : String)
    (shown : s.summary words = .ok summary) (childless : s.outlineChildren ⟨0, rootLabel⟩ words = .ok []) :
    (Value.schema handle s).outline words = .ok ("root: " ++ summary ++ "\n") := by
  have row : (Tour.byOutline words).row ⟨0, rootLabel⟩ s = .ok ⟨0, rootLabel, summary⟩ := congrArg (Except.map _) shown
  change ((Tour.byOutline words).visit [⟨⟨0, rootLabel⟩, .schema handle s⟩] #[]).map renderRows = _
  rw [visit_schema, row]
  change ((s.outlineChildren ⟨0, rootLabel⟩ words).bind _).map renderRows = _
  rw [childless]
  change ((Tour.byOutline words).visit [] _).map renderRows = _
  rw [visit_nil]
  simp [Except.map, renderRows, Row.render, Row.indentation, rootLabel]

-- The blocks of definitions show their walks.
theorem definition_blocks_show (definitions : List (Value × Value))
    (typed : ∀ definition ∈ definitions, definition.1.text?.isSome ∧ definition.2.IsTree Schema.Worded) :
    ∃ blocks, definitions.mapM definitionBlock = .ok blocks ∧
      List.Forall₂ (fun definition block => ∃ name, definition.1.text? = some name ∧
        definition.2.OutlinedAs ("definitions/" ++ Text.onOneLine name) (block.map Row.line)) definitions blocks ∧
      ∀ row ∈ blocks.flatten, Text.StaysOnLine row.line := by
  induction definitions with
  | nil => exact ⟨[], rfl, .nil, List.forall_mem_nil _⟩
  | cons definition rest hypothesis =>
      obtain ⟨named, tree⟩ := typed definition List.mem_cons_self
      obtain ⟨name, spelled⟩ := Option.isSome_iff_exists.mp named
      obtain ⟨labelled, stays⟩ := definition_label_ok definition.1 name spelled
      obtain ⟨block, collected, shows, whole⟩ := block_shows _ stays definition.2 tree
      obtain ⟨blocks, later, others, wholeLater⟩ :=
        hypothesis fun other member => typed other (List.mem_cons_of_mem definition member)
      have first : definitionBlock definition = .ok block := by
        rw [definitionBlock, labelled]
        exact collected
      rw [Text.line_text_put_in] at shows
      refine ⟨block :: blocks, ?_, .cons ⟨name, spelled, shows⟩ others, ?_⟩
      · rw [List.mapM_cons, first, later]
        rfl
      · rw [List.flatten_cons]
        exact List.forall_mem_append.mpr ⟨whole, wholeLater⟩

-- Definitions add their blocks one after the other.
theorem definition_blocks (definitions : List (Value × Value)) (rows : Rows)
    (typed : ∀ definition ∈ definitions, definition.1.text?.isSome ∧ definition.2.IsTree Schema.Worded) :
    ∃ blocks, definitions.foldlM (definitionRows ownWords) rows = .ok (rows ++ blocks.flatten.toArray) ∧
      List.Forall₂ (fun definition block => ∃ name, definition.1.text? = some name ∧
        definition.2.OutlinedAs ("definitions/" ++ Text.onOneLine name) (block.map Row.line)) definitions blocks ∧
      ∀ row ∈ blocks.flatten, Text.StaysOnLine row.line := by
  obtain ⟨blocks, collected, shows, whole⟩ := definition_blocks_show definitions typed
  refine ⟨blocks, ?_, shows, whole⟩
  rw [definition_rows_blocks, collected]
  rfl

theorem outline_renders_walk :
    (∀ value : Value, value.IsTree Schema.Worded → ∃ text lines, value.outline = .ok text ∧
      Text.split '\n' text = lines ++ [""] ∧ value.OutlinedAs "root" lines) ∧
    ∀ (handle : Handle) (m : Model), m.root.IsTree Schema.Worded →
      (∀ definition ∈ m.definitions, definition.1.text?.isSome ∧ definition.2.IsTree Schema.Worded) →
      ∃ text lines blocks, (Value.model handle m).outline = .ok text ∧
        Text.split '\n' text = lines ++ blocks.flatten ++ [""] ∧ m.root.OutlinedAs "root" lines ∧
        List.Forall₂ (fun definition block => ∃ name, definition.1.text? = some name ∧
          definition.2.OutlinedAs ("definitions/" ++ Text.onOneLine name) block) m.definitions blocks := by
  constructor
  · intro value tree
    obtain ⟨rows, collected, shows, whole⟩ := block_shows rootLabel root_label_stays value tree
    obtain ⟨handle, s, rfl⟩ := tree_is_schema _ value tree
    have gathered : (Value.schema handle s).rows = .ok rows.toArray := by
      change Tour.byOutline.visit _ _ = _
      rw [visit_block, collected]
      simp [Except.map]
    obtain ⟨text, rendered, split⟩ := outline_lines _ _ gathered whole
    exact ⟨text, rows.map Row.line, rendered, split, shows⟩
  · intro handle m rootTree typed
    obtain ⟨rows, collected, shows, whole⟩ := block_shows rootLabel root_label_stays m.root rootTree
    obtain ⟨blocks, later, others, wholeLater⟩ := definition_blocks m.definitions rows.toArray typed
    have gathered : (Value.model handle m).rows = .ok (rows.toArray ++ blocks.flatten.toArray) := by
      change m.rows = _
      rw [Model.rows, Value.outlineOnto, visit_block, collected]
      simpa [bind, Except.bind, Except.map] using later
    have wholeAll : ∀ row ∈ (rows.toArray ++ blocks.flatten.toArray).toList, Text.StaysOnLine row.line := by
      simpa using List.forall_mem_append.mpr ⟨whole, wholeLater⟩
    obtain ⟨text, rendered, split⟩ := outline_lines _ _ gathered wholeAll
    refine ⟨text, rows.map Row.line, blocks.map (List.map Row.line), rendered, ?_, shows, ?_⟩
    · rw [split, Array.toList_append, List.map_append, List.map_flatten]
    · rw [List.forall₂_map_right_iff]
      exact others

-- A title over two lines, a required name with a tab in it, and a token with a line feed at its end.
def brokenNode : Schema :=
  .object (.of (.text "two\nlines") .null [])
    (.tuple none
      [.property none ⟨true, .text "a\tb", .schema none (.ref (.of .null .null []) (.text "#/x\n"))⟩,
       .property none ⟨false, .text "", .schema none (.array (.of .null .null []) nullLeaf .null .null)⟩])
    .null .null

theorem null_leaf_worded : nullLeaf.IsTree Schema.Worded := by
  have worded : Schema.Worded (.null (.of .null .null [])) :=
    ⟨⟨.null, rfl, .inl rfl⟩, fun labels token same => by cases same⟩
  exact .node none _ worded trivial (List.forall_mem_nil _)

theorem broken_node_tree : (Value.schema none brokenNode).IsTree Schema.Worded := by
  have here : brokenNode.Worded := ⟨⟨.text "two\nlines", rfl, .inr rfl⟩, fun labels token same => by cases same⟩
  have reference : Schema.Worded (.ref (.of .null .null []) (.text "#/x\n")) :=
    ⟨⟨.null, rfl, .inl rfl⟩, fun labels token same => by cases same; rfl⟩
  have array : Schema.Worded (.array (.of .null .null []) nullLeaf .null .null) :=
    ⟨⟨.null, rfl, .inl rfl⟩, fun labels token same => by cases same⟩
  have named : brokenNode.Shaped :=
    ⟨none, _, rfl, List.forall_mem_cons.mpr ⟨rfl, List.forall_mem_singleton.mpr rfl⟩⟩
  refine .node none brokenNode here named (List.forall_mem_cons.mpr ⟨?_, List.forall_mem_singleton.mpr ?_⟩)
  · exact .node none _ reference trivial (List.forall_mem_nil _)
  · exact .node none _ array trivial (List.forall_mem_singleton.mpr null_leaf_worded)

theorem null_leaf_block (place : Place) :
    Tour.byOutline.block place nullLeaf = .ok [⟨place.depth, place.label, "null"⟩] := by
  rw [nullLeaf, block_schema]
  rfl

theorem broken_node_block (label : String) :
    Tour.byOutline.block ⟨0, label⟩ (.schema none brokenNode) =
      .ok [⟨0, label, "object \"two\\nlines\""⟩, ⟨1, "a\\tb (required)", "$ref -> #/x\\n"⟩, ⟨1, "", "array"⟩,
        ⟨2, "items", "null"⟩] := by
  have reference : Tour.byOutline.block ⟨1, "a\\tb (required)"⟩
      (.schema none (.ref (.of .null .null []) (.text "#/x\n"))) = .ok [⟨1, "a\\tb (required)", "$ref -> #/x\\n"⟩] := by
    rw [block_schema]
    rfl
  have array : Tour.byOutline.block ⟨1, ""⟩ (.schema none (.array (.of .null .null []) nullLeaf .null .null)) =
      .ok [⟨1, "", "array"⟩, ⟨2, "items", "null"⟩] := by
    rw [block_schema]
    change (([⟨⟨2, "items"⟩, nullLeaf⟩] : List (Placed Place)).mapM fun placed =>
      Tour.byOutline.block placed.place placed.value).map _ = _
    rw [List.mapM_cons, null_leaf_block]
    rfl
  rw [block_schema]
  change (([⟨⟨1, "a\\tb (required)"⟩, _⟩, ⟨⟨1, ""⟩, _⟩] : List (Placed Place)).mapM fun placed =>
    Tour.byOutline.block placed.place placed.value).map _ = _
  rw [List.mapM_cons, reference, List.mapM_cons, array]
  rfl

-- The lines of this node, of which the first one begins with a label.
def brokenLines (label : String) : List String :=
  [label ++ ": object \"two\\nlines\"", "  a\\tb (required): $ref -> #/x\\n", "  : array", "    items: null"]

theorem broken_node_outline :
    ((Value.schema none brokenNode).outline = .ok (String.join ((brokenLines "root").map (· ++ "\n"))) ∧
      (Value.schema none brokenNode).OutlinedAs "root" (brokenLines "root")) ∧
    (Value.model none ⟨[(.text "b\nc", .schema none brokenNode)], nullLeaf⟩).outline =
        .ok (String.join (("root: null" :: brokenLines "definitions/b\\nc").map (· ++ "\n"))) ∧
      nullLeaf.OutlinedAs "root" ["root: null"] ∧
      (Value.schema none brokenNode).OutlinedAs "definitions/b\\nc" (brokenLines "definitions/b\\nc") := by
  obtain ⟨single, whole⟩ := outline_renders_walk
  refine ⟨?_, ?_⟩
  · obtain ⟨text, lines, outlined, split, shows⟩ := single _ broken_node_tree
    have shown : (Value.schema none brokenNode).outline =
        .ok (String.join ((brokenLines "root").map (· ++ "\n"))) := by
      rw [Value.outline, schema_rows_block, broken_node_block]
      rfl
    obtain rfl := Except.ok.inj (outlined.symm.trans shown)
    have cut : lines ++ [""] = brokenLines "root" ++ [""] := split.symm.trans rfl
    obtain rfl := List.append_cancel_right cut
    exact ⟨shown, shows⟩
  · obtain ⟨text, lines, blocks, outlined, split, rootShows, shows⟩ :=
      whole none ⟨[(.text "b\nc", .schema none brokenNode)], nullLeaf⟩ null_leaf_worded
        (List.forall_mem_singleton.mpr ⟨rfl, broken_node_tree⟩)
    have shown : (Value.model none ⟨[(.text "b\nc", .schema none brokenNode)], nullLeaf⟩).outline =
        .ok (String.join (("root: null" :: brokenLines "definitions/b\\nc").map (· ++ "\n"))) := by
      change (Model.rows ⟨[(.text "b\nc", .schema none brokenNode)], nullLeaf⟩).map renderRows = _
      rw [model_rows_blocks, null_leaf_block, List.mapM_cons, definitionBlock,
        (definition_label_ok _ "b\nc" rfl).1]
      simp only [bind, Except.bind]
      rw [broken_node_block]
      rfl
    obtain rfl := Except.ok.inj (outlined.symm.trans shown)
    obtain ⟨block, rfl, name, named, blockShows⟩ : ∃ block, blocks = [block] ∧ ∃ name,
        (Value.text "b\nc").text? = some name ∧
        (Value.schema none brokenNode).OutlinedAs ("definitions/" ++ Text.onOneLine name) block := by
      cases shows with
      | cons here later =>
          cases later
          exact ⟨_, rfl, here⟩
    obtain rfl : "b\nc" = name := Option.some.inj named
    have first : lines.length = 1 := by
      obtain ⟨handle, s, visits, _, walked, walk⟩ := rootShows
      have leaf : nullLeaf.walk rootPointer = .ok [⟨rootPointer, .null (.of .null .null [])⟩] := by
        rw [nullLeaf, walk_schema]
        rfl
      rw [walk.count, ← Except.ok.inj (leaf.symm.trans walked)]
      rfl
    have cut : lines ++ (block ++ [""]) = ["root: null"] ++ (brokenLines "definitions/b\\nc" ++ [""]) := by
      rw [List.flatten_singleton, List.append_assoc] at split
      exact split.symm.trans rfl
    obtain ⟨rfl, rest⟩ := List.append_inj cut first
    obtain rfl := List.append_cancel_right rest
    exact ⟨shown, rootShows, blockShows⟩

end Schemata
