import Schemata.Proofs.Anchored
import Schemata.Proofs.Stepwise

set_option autoImplicit false

/-!
Holding values. Giving cells to a value adds cells and touches none that is there. A solid value is made of
scalars, of lasting containers and records that nobody holds yet, and of what is seen of anchored mentions; once
it is held it is anchored, and shows what it has been.
-/

namespace Schemata

-- Every cell is there with what it has.
def Cells.Extends (cells later : Cells) : Prop :=
  ∀ (handle : Nat) (cell : Cell), cells[handle]? = some cell → later[handle]? = some cell

theorem extends_refl (cells : Cells) : cells.Extends cells := fun _ _ here => here

theorem extends_trans {cells later last : Cells} (first : cells.Extends later) (second : later.Extends last) :
    cells.Extends last := fun handle cell here => second handle cell (first handle cell here)

theorem extends_size {cells later : Cells} (extended : cells.Extends later) : cells.size ≤ later.size := by
  by_contra fewer
  have present : later.size < cells.size := Nat.lt_of_not_le fewer
  have here := extended later.size cells[later.size] (Array.getElem?_eq_getElem present)
  rw [Array.getElem?_eq_none (Nat.le_refl _)] at here
  cases here

theorem extends_push (cells : Cells) (cell : Cell) : cells.Extends (cells.push cell) := by
  intro handle known here
  obtain ⟨present, rfl⟩ := Array.getElem?_eq_some_iff.mp here
  rw [Array.getElem?_push_lt present]

theorem extends_keeps {cells later : Cells} (extended : cells.Extends later) {bound : Nat} {value : Value}
    (anchored : cells.Anchored bound value) : cells.Keeps later value := by
  refine ⟨extends_size extended, fun handle leads => ?_⟩
  obtain ⟨content, cell, _⟩ := anchored_leads_to leads bound anchored
  rw [cell, extended handle _ cell]

theorem anchored_extends {cells later : Cells} (extended : cells.Extends later) {value : Value}
    (anchored : cells.Anchored cells.size value) : later.Anchored later.size value :=
  anchored_above (anchored_kept anchored (extends_keeps extended anchored)) (extends_size extended)

theorem view_extends {cells later : Cells} (extended : cells.Extends later) {value : Value}
    (anchored : cells.Anchored cells.size value) : later.view 1 value = cells.view 1 value :=
  view_kept anchored (extends_keeps extended anchored) 1 1 Nat.one_pos Nat.one_pos

-- Scalars, lasting values that nobody holds yet, and what is seen of anchored mentions.
inductive Value.Solid (cells : Cells) : Value → Prop where
  | fresh (value : Value) (unheld : value.handle? = none)
      (rigid : ∀ shape, value.shape? = some shape → value.isLasting = true) (keys : value.PlainKeys)
      (parts : ∀ part ∈ value.pieces, Solid cells part) : Solid cells value
  | seen (handle : Nat) (shape : Shape) (anchored : cells.Anchored cells.size (.elsewhere handle shape)) :
      Solid cells (cells.view 1 (.elsewhere handle shape))

-- Holding the value again changes nothing.
def Value.IsHeld (held : Value) : Prop := ∀ cells : Cells, held.hold.run cells = (held, cells)

-- What is held stands for a value in some cells.
structure Cells.Holds (cells : Cells) (value held : Value) : Prop where
  anchored : cells.Anchored cells.size held
  seen : (cells.view 1 held).form = value.form
  rests : held.IsHeld

theorem holds_extends {cells later : Cells} (extended : cells.Extends later) {value held : Value}
    (holds : cells.Holds value held) : later.Holds value held :=
  ⟨anchored_extends extended holds.anchored,
    (congrArg Value.form (view_extends extended holds.anchored)).trans holds.seen, holds.rests⟩

theorem mention_rests (handle : Nat) (shape : Shape) : (Value.elsewhere handle shape).IsHeld := by
  intro cells
  rw [Value.hold]
  rfl

theorem plain_rests (value : Value) (plain : value.shape? = none) : value.IsHeld := by
  intro cells
  rw [Value.hold, plain]
  rfl

-- A computation that leaves the cells as they are.
def Judgement.ofRest (cells : Cells) : Judgement (StateM Cells) where
  holds computation known := (computation.run cells).2 = cells ∧ known (computation.run cells).1
  pure _ _ here := ⟨rfl, here⟩
  bind first next known wanted here later := by
    obtain ⟨rest, result⟩ := here
    obtain ⟨restLater, resultLater⟩ := later (first.run cells).1
    change ((next (first.run cells).1).run (first.run cells).2).2 = cells ∧
      wanted ((next (first.run cells).1).run (first.run cells).2).1
    rw [rest]
    exact ⟨restLater, resultLater result⟩

-- Pieces that are held stay as they are.
theorem parts_rest (value : Value) (parts : ∀ part ∈ value.pieces, part.IsHeld) (cells : Cells) :
    StateT.run (value.mapParts fun part _ => part.hold) cells = (value, cells) := by
  obtain ⟨same, along⟩ := judged_parts (.ofRest cells) (fun part other => other = part) value (fun part _ => part.hold)
    fun part member _ => ⟨congrArg Prod.snd (parts part member cells), congrArg Prod.fst (parts part member cells)⟩
  have itself : value.Along (fun part other => other = part) value := by
    refine along_refl ?_ value
    exact fun _ => rfl
  exact Prod.ext (along_unique (unique_image id) along itself) same

-- A value that needs no cell, of pieces that are held, is held itself.
theorem pieces_rest (value : Value) (shape : Shape) (object : value.shape? = some shape) (unheld : value.handle? = none)
    (fixed : shape.canChange = false) (parts : ∀ part ∈ value.pieces, part.IsHeld)
    (none : ¬ value.parts.any Value.leadsElsewhere = true) : value.IsHeld := by
  intro cells
  have needs : ¬ (shape.canChange || value.parts.any Value.leadsElsewhere) = true := by
    rw [fixed, Bool.false_or]
    exact none
  rw [Value.hold, object, unheld]
  simp only [StateT.run_bind, parts_rest value parts cells]
  simp only [bind, if_neg needs]
  rfl

-- A value that needs a cell, of pieces that are held, gets one at the end.
theorem pieces_pushed (value : Value) (shape : Shape) (object : value.shape? = some shape)
    (unheld : value.handle? = none) (changes : shape.canChange = true) (parts : ∀ part ∈ value.pieces, part.IsHeld)
    (cells : Cells) :
    value.hold.run cells = (.elsewhere cells.size shape, cells.push (.contents (value.withHandle cells.size))) := by
  have needs : (shape.canChange || value.parts.any Value.leadsElsewhere) = true := by rw [changes, Bool.true_or]
  rw [Value.hold, object, unheld]
  simp only [StateT.run_bind, parts_rest value parts cells]
  simp only [bind, if_pos needs]
  rfl

-- A computation that starts from some cells touches none; what is known of its result is known with the cells
-- that there are at last.
def Judgement.ofCells (start finish : Cells) : Judgement (StateM Cells) where
  holds computation known := ∀ cells : Cells, start.Extends cells →
    cells.Extends (computation.run cells).2 ∧
      (Cells.Extends (computation.run cells).2 finish → known (computation.run cells).1)
  pure _ _ here cells _ := ⟨extends_refl cells, fun _ => here⟩
  bind first next known wanted here later := by
    intro cells extended
    obtain ⟨grown, result⟩ := here cells extended
    obtain ⟨grownLater, resultLater⟩ := later (first.run cells).1 (first.run cells).2 (extends_trans extended grown)
    exact ⟨extends_trans grown grownLater, fun last => resultLater last (result (extends_trans grownLater last))⟩

theorem seen_object {cells : Cells} (handle : Nat) (shape : Shape)
    (anchored : cells.Anchored cells.size (.elsewhere handle shape)) :
    (cells.view 1 (.elsewhere handle shape)).handle? = some handle ∧
      (cells.view 1 (.elsewhere handle shape)).shape? = some shape := by
  cases anchored with
  | inPlace _ _ here => exact absurd here (in_place_unmentioned handle shape)
  | mention _ _ _ content below cell own is _ _ _ =>
      have room := room_view cells cells.size 1 Nat.one_pos (Nat.le_refl _)
      obtain ⟨left, _, seen⟩ := room_mention cells room handle shape content below cell
      rw [Cells.view, seen, mapped_handle, mapped_shape]
      exact ⟨own, is⟩

theorem mention_leads (value : Value) (mention : value.isElsewhere = true) : value.leadsElsewhere = true := by
  cases value with
  | elsewhere handle shape => rfl
  | _ => cases mention

theorem listed_elsewhere (parts : List Value) (part : Value) (member : part ∈ parts)
    (mention : part.isElsewhere = true) : parts.any Value.leadsElsewhere = true :=
  List.any_eq_true.mpr ⟨part, member, mention_leads part mention⟩

theorem labels_elsewhere (labels : Labels) (part : Value) (member : part ∈ labels.pieces)
    (mention : part.isElsewhere = true) : (labels.fields.map Prod.snd).any Value.leadsElsewhere = true := by
  rcases List.mem_cons.mp member with rfl | member
  · exact listed_elsewhere _ labels.title (by simp [Labels.fields]) mention
  · rcases List.mem_cons.mp member with rfl | member
    · exact listed_elsewhere _ labels.description (by simp [Labels.fields]) mention
    · refine List.any_eq_true.mpr ⟨.tuple none labels.examples, by simp [Labels.fields], ?_⟩
      exact List.any_eq_true.mpr ⟨part, member, mention⟩

theorem fields_elsewhere (labels : Labels) (others : List (String × Value)) (part : Value)
    (member : part ∈ labels.pieces ++ others.map Prod.snd) (mention : part.isElsewhere = true) :
    ((labels.fields ++ others).map Prod.snd).any Value.leadsElsewhere = true := by
  rw [List.map_append, List.any_append, Bool.or_eq_true]
  rcases List.mem_append.mp member with shared | own
  · exact .inl (labels_elsewhere labels part shared mention)
  · exact .inr (listed_elsewhere _ part own mention)

-- Examples and definitions are parts that lead elsewhere where one of them does.
theorem piece_elsewhere (value part : Value) (member : part ∈ value.pieces) (mention : part.isElsewhere = true) :
    value.parts.any Value.leadsElsewhere = true := by
  cases value with
  | schema handle s =>
      cases s with
      | object labels properties low high =>
          exact fields_elsewhere labels [("properties", properties), ("min_properties", low), ("max_properties", high)]
            part member mention
      | array labels items low high =>
          exact fields_elsewhere labels [("items", items), ("min_items", low), ("max_items", high)] part member mention
      | string labels enum low high pattern format =>
          exact fields_elsewhere labels [("enum", enum), ("min_length", low), ("max_length", high),
            ("pattern", pattern), ("format", format)] part member mention
      | integer labels enum bounds =>
          exact fields_elsewhere labels (("enum", enum) :: bounds.fields) part member mention
      | number labels enum bounds =>
          exact fields_elsewhere labels (("enum", enum) :: bounds.fields) part member mention
      | boolean labels enum => exact fields_elsewhere labels [("enum", enum)] part member mention
      | null labels => exact labels_elsewhere labels part member mention
      | ref labels token => exact fields_elsewhere labels [("ref", token)] part member mention
      | combined mode combinator => exact listed_elsewhere _ part member mention
      | fallback inner => exact listed_elsewhere _ part member mention
  | combinator handle c => exact fields_elsewhere c.labels [("sub_schemas", c.subSchemas)] part member mention
  | model handle m =>
      rcases List.mem_append.mp member with inside | root
      · refine List.any_eq_true.mpr ⟨.frozen none m.definitions, by simp [Value.parts, Value.record?], ?_⟩
        obtain ⟨entry, known, rfl⟩ := List.mem_map.mp inside
        exact List.any_eq_true.mpr ⟨entry, known, mention⟩
      · obtain rfl := List.mem_singleton.mp root
        exact listed_elsewhere _ m.root (by simp [Value.parts, Value.record?]) mention
  | _ => exact listed_elsewhere _ part member mention

theorem view_in_place (cells : Cells) (value : Value) (inPlace : value.InPlace) : cells.view 1 value = value :=
  unfold_in_place cells 1 _ [] value inPlace

theorem plain_empty (value : Value) (plain : value.shape? = none) :
    value.handle? = none ∧ value.pieces = [] ∧ value.keys = [] := by
  cases value with
  | scalar s => exact ⟨rfl, rfl, rfl⟩
  | member typeName => exact ⟨rfl, rfl, rfl⟩
  | _ => cases plain

theorem plain_in_place (value : Value) (plain : value.shape? = none) : value.InPlace := by
  obtain ⟨unheld, empty, keyless⟩ := plain_empty value plain
  refine .intro value unheld (fun shape object => nomatch plain.symm.trans object) ?_ ?_
  · exact fun key member => absurd (keyless ▸ member) List.not_mem_nil
  · exact fun part member => absurd (empty ▸ member) List.not_mem_nil

theorem plain_holds (cells : Cells) (value : Value) (plain : value.shape? = none) : cells.Holds value value := by
  have inPlace := plain_in_place value plain
  exact ⟨.inPlace _ value inPlace, congrArg Value.form (view_in_place cells value inPlace), plain_rests value plain⟩

theorem seen_holds {cells : Cells} {value : Value} (solid : value.Solid cells) (handle : Nat) (shape : Shape)
    (known : value.handle? = some handle) (object : value.shape? = some shape) :
    cells.Holds value (.elsewhere handle shape) := by
  cases solid with
  | fresh _ unheld _ _ _ => exact absurd (unheld.symm.trans known) nofun
  | seen known' shape' anchored =>
      obtain ⟨own, is⟩ := seen_object known' shape' anchored
      obtain rfl : known' = handle := Option.some.inj (own.symm.trans known)
      obtain rfl : shape' = shape := Option.some.inj (is.symm.trans object)
      exact ⟨anchored, rfl, mention_rests known' shape'⟩

-- A value in which no object has a cell, and that needs none, stays in place.
theorem kept_in_place {related : Value → Value → Prop} {value kept : Value} (shape : Shape)
    (object : value.shape? = some shape) (unheld : value.handle? = none) (fixed : shape.canChange = false)
    (keys : value.PlainKeys) (along : value.Along related kept)
    (sort : ∀ part other, related part other → (other.InPlace ∨ other.isElsewhere = true) ∧ other.IsHeld)
    (none : ¬ kept.parts.any Value.leadsElsewhere = true) : kept.InPlace ∧ kept.IsHeld := by
  have each : ∀ part ∈ kept.pieces, (part.InPlace ∨ part.isElsewhere = true) ∧ part.IsHeld := by
    intro part member
    obtain ⟨source, _, here⟩ := source_of_result related _ _ (along_pieces along) part member
    exact sort source part here
  have keptObject : kept.shape? = some shape := by rw [along_shape along, object]
  have keptHandle : kept.handle? = Option.none := by rw [along_handle along, unheld]
  refine ⟨.intro kept keptHandle (fun other is => ?_) ?_ fun part member => ?_, ?_⟩
  · obtain rfl : shape = other := Option.some.inj (keptObject.symm.trans is)
    exact fixed
  · rw [Value.PlainKeys, along_keys along]
    exact keys
  · exact (each part member).1.resolve_right fun mention => none (piece_elsewhere kept part member mention)
  · exact pieces_rest kept shape keptObject keptHandle fixed (fun part member => (each part member).2) none

theorem anchored_sort {cells : Cells} {bound : Nat} {value : Value} (anchored : cells.Anchored bound value) :
    value.InPlace ∨ value.isElsewhere = true := by
  cases anchored with
  | inPlace _ _ here => exact .inl here
  | mention => exact .inr rfl

theorem kept_holds {cells : Cells} {value kept : Value} (shape : Shape) (object : value.shape? = some shape)
    (unheld : value.handle? = none) (fixed : shape.canChange = false) (keys : value.PlainKeys)
    (along : value.Along cells.Holds kept) (none : ¬ kept.parts.any Value.leadsElsewhere = true) :
    cells.Holds value kept := by
  obtain ⟨inPlace, rests⟩ := kept_in_place shape object unheld fixed keys along
    (fun _ _ holds => ⟨anchored_sort holds.anchored, holds.rests⟩) none
  refine ⟨.inPlace _ kept inPlace, ?_, rests⟩
  rw [view_in_place cells kept inPlace]
  refine along_form (along_weaken along fun part _ other member holds => ?_)
  rw [← view_in_place cells other (in_place_parts kept inPlace other member)]
  exact holds.seen

theorem pushed_holds {cells : Cells} {value kept : Value} (shape : Shape) (object : value.shape? = some shape)
    (unheld : value.handle? = none) (lasting : value.isLasting = true) (keys : value.PlainKeys)
    (along : value.Along cells.Holds kept) :
    Cells.Holds (cells.push (.contents (kept.withHandle cells.size))) value (.elsewhere cells.size shape) := by
  have extended := extends_push cells (.contents (kept.withHandle cells.size))
  have keptObject : kept.shape? = some shape := by rw [along_shape along, object]
  have keptHandle : kept.handle? = none := by rw [along_handle along, unheld]
  have below : cells.size < (cells.push (.contents (kept.withHandle cells.size))).size := by simp
  have cell : (cells.push (.contents (kept.withHandle cells.size)))[cells.size]? =
      some (.contents (kept.withHandle cells.size)) := by simp
  have each : ∀ part ∈ (kept.withHandle cells.size).pieces, cells.Anchored cells.size part := by
    intro part member
    rw [with_handle_pieces] at member
    obtain ⟨_, _, holds⟩ := source_of_result cells.Holds _ _ (along_pieces along) part member
    exact holds.anchored
  have anchored : Cells.Anchored (cells.push (.contents (kept.withHandle cells.size)))
      (cells.push (.contents (kept.withHandle cells.size))).size (.elsewhere cells.size shape) := by
    refine .mention _ _ shape (kept.withHandle cells.size) below cell ?_ ?_ ?_ ?_ fun part member => ?_
    · exact with_handle_handle cells.size kept shape keptObject keptHandle
    · rw [with_handle_shape, keptObject]
    · rw [with_handle_lasting, along_lasting along, lasting]
    · unfold Value.PlainKeys
      rw [with_handle_keys, along_keys along]
      exact keys
    · exact anchored_kept (each part member) (extends_keeps extended (each part member))
  refine ⟨anchored, ?_, mention_rests cells.size shape⟩
  obtain ⟨left, inside, seen⟩ := room_mention _ (room_view _ _ 1 Nat.one_pos (Nat.le_refl _)) cells.size shape
    (kept.withHandle cells.size) below cell
  rw [Cells.view, seen, mapped_with_handle, with_handle_form]
  refine along_form (along_weaken (along_through along (mapped_along _ kept)) fun part _ other _ through => ?_)
  obtain ⟨held, holds, rfl⟩ := through
  rw [← holds.seen]
  exact congrArg Value.form (unfold_anchored holds.anchored (extends_keeps extended holds.anchored) inside
    (room_view cells cells.size 1 Nat.one_pos (Nat.le_refl _)))

theorem solid_fresh {cells : Cells} {value : Value} (solid : value.Solid cells) (unheld : value.handle? = none) :
    (∀ shape, value.shape? = some shape → value.isLasting = true) ∧ value.PlainKeys ∧
      ∀ part ∈ value.pieces, part.Solid cells := by
  cases solid with
  | fresh _ _ rigid keys parts => exact ⟨rigid, keys, parts⟩
  | seen handle shape anchored => exact absurd (unheld.symm.trans (seen_object handle shape anchored).1) nofun

-- By recursion over the value; its parts are held one after the other, so each finds the cells of those before.
theorem hold_judged (value : Value) (start finish : Cells) :
    (Judgement.ofCells start finish).holds value.hold fun held => value.Solid start → finish.Holds value held := by
  intro cells extended
  rw [Value.hold]
  cases object : value.shape? with
  | none => exact ⟨extends_refl cells, fun _ _ => plain_holds finish value object⟩
  | some shape =>
      cases known : value.handle? with
      | some handle =>
          refine ⟨extends_refl cells, fun last solid => ?_⟩
          exact holds_extends (extends_trans extended last) (seen_holds solid handle shape known object)
      | none =>
          have parts (last : Cells) := judged_parts (.ofCells start last)
            (fun part held => part.Solid start → last.Holds part held) value (fun part _ => part.hold)
            (fun part _ small => hold_judged part start last) cells extended
          simp only [StateT.run_bind]
          generalize StateT.run (value.mapParts fun part _ => part.hold) cells = outcome at parts ⊢
          obtain ⟨kept, reached⟩ := outcome
          have grown : cells.Extends reached := (parts reached).1
          have along (solid : value.Solid start) : value.Along reached.Holds kept :=
            along_weaken ((parts reached).2 (extends_refl reached)) fun part member _ _ holds =>
              holds ((solid_fresh solid known).2.2 part member)
          by_cases needs : (shape.canChange || kept.parts.any Value.leadsElsewhere) = true
          · simp only [bind, if_pos needs]
            refine ⟨extends_trans grown (extends_push reached _), fun last solid => holds_extends last ?_⟩
            obtain ⟨rigid, keys, _⟩ := solid_fresh solid known
            exact pushed_holds shape object known (rigid shape object) keys (along solid)
          · simp only [bind, if_neg needs]
            rw [Bool.or_eq_true, not_or, Bool.not_eq_true] at needs
            refine ⟨grown, fun last solid => holds_extends last ?_⟩
            exact kept_holds shape object known needs.1 (solid_fresh solid known).2.1 (along solid) needs.2
termination_by sizeOf value

theorem hold_extends (value : Value) (cells : Cells) : cells.Extends (value.hold.run cells).2 :=
  (hold_judged value cells cells cells (extends_refl cells)).1

theorem hold_solid (value : Value) (cells : Cells) (solid : value.Solid cells) :
    Cells.Holds (value.hold.run cells).2 value (value.hold.run cells).1 :=
  (hold_judged value cells _ cells (extends_refl cells)).2 (extends_refl _) solid

theorem in_place_solid (cells : Cells) (value : Value) (inPlace : value.InPlace) : value.Solid cells := by
  induction inPlace with
  | intro value unheld rigid keys _ hypothesis =>
      exact .fresh value unheld (rigid_lasting value unheld rigid) keys hypothesis

theorem view_solid {cells : Cells} {held : Value} (anchored : cells.Anchored cells.size held) (limit : Nat)
    (positive : 0 < limit) : (cells.view limit held).Solid cells := by
  rw [view_kept anchored (extends_keeps (extends_refl cells) anchored) limit 1 positive Nat.one_pos]
  cases anchored with
  | inPlace _ _ here =>
      rw [view_in_place cells held here]
      exact in_place_solid cells held here
  | mention _ handle shape content below cell own is lasting keys parts =>
      exact .seen handle shape (.mention _ handle shape content below cell own is lasting keys parts)

theorem solid_parts {cells : Cells} {value : Value} (solid : value.Solid cells) :
    ∀ part ∈ value.pieces, part.Solid cells := by
  cases solid with
  | fresh _ _ _ _ parts => exact parts
  | seen handle shape anchored =>
      cases anchored with
      | inPlace _ _ here => exact absurd here (in_place_unmentioned handle shape)
      | mention _ _ _ content below cell _ _ _ _ parts =>
          have room := room_view cells cells.size 1 Nat.one_pos (Nat.le_refl _)
          obtain ⟨left, inside, seen⟩ := room_mention cells room handle shape content below cell
          intro part member
          rw [Cells.view, seen, mapped_pieces] at member
          obtain ⟨inner, innerMember, rfl⟩ := List.mem_map.mp member
          have anchored := parts inner innerMember
          rw [unfold_anchored anchored (extends_keeps (extends_refl cells) anchored) inside
            (room_view cells handle 1 Nat.one_pos (Nat.le_of_lt below))]
          exact view_solid (anchored_above anchored (Nat.le_of_lt below)) 1 Nat.one_pos

end Schemata
