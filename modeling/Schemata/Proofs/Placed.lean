import Schemata.Proofs.Held

set_option autoImplicit false

/-!
What a caller has in hand. Where no object shows anything but its own entries, every cell has contents of its own,
and what can never change mentions older objects only. A caller passes values that are made of such objects; once
one is held, the cells are such again, and what is met on a way down from it is what was met before.
-/

namespace Schemata

-- Lists, tables, settings and holders.
def Value.isEditable : Value → Bool
  | .list .. => true
  | .table .. => true
  | .settings .. => true
  | .holder .. => true
  | _ => false

-- A value that a caller can pass: an object that is held, in whatever view, or one of such that nobody holds yet.
inductive Value.InHand (cells : Cells) : Value → Prop where
  | held (value : Value) (handle : Nat) (shape : Shape) (content : Value) (known : value.handle? = some handle)
      (object : value.shape? = some shape) (cell : cells[handle]? = some (.contents content))
      (is : content.shape? = some shape) : InHand cells value
  | fresh (value : Value) (unheld : value.handle? = none) (keys : value.isLasting = true → value.PlainKeys)
      (parts : ∀ part ∈ value.pieces, InHand cells part) : InHand cells value

namespace Cells

-- A value in place, or a mention of an object below the bound.
inductive Places (cells : Cells) (bound : Nat) : Value → Prop where
  | inPlace (value : Value) (here : value.InPlace) (rests : value.IsHeld) : Places cells bound value
  | mention (handle : Nat) (shape : Shape) (content : Value) (below : handle < bound)
      (cell : cells[handle]? = some (.contents content)) (is : content.shape? = some shape) :
      Places cells bound (.elsewhere handle shape)

-- What is in a cell: what can never change was made of what was there before it.
structure Fills (cells : Cells) (handle : Nat) (content : Value) : Prop where
  own : content.handle? = some handle
  parts : (content.isLasting = true ∧ content.PlainKeys ∧ ∀ part ∈ content.pieces, cells.Places handle part) ∨
    (content.isEditable = true ∧ ∀ part ∈ content.pieces, cells.Places cells.size part)

-- No object shows anything but what is its own.
def Sound (cells : Cells) : Prop :=
  ∀ handle cell, cells[handle]? = some cell → ∃ content, cell = .contents content ∧ cells.Fills handle content

-- A value with the contents that it has now.
def current (cells : Cells) (value : Value) : Value := (value.handle?.bind cells.at?).getD value

-- An object of a shape is met on a way down from a value, itself included, through items of tuples, values of
-- frozen tables and fields of records.
inductive Reaches (cells : Cells) : Value → Shape → Prop where
  | here (value : Value) (shape : Shape) (is : value.shape? = some shape) : Reaches cells value shape
  | through (value part : Value) (shape : Shape) (lasting : (cells.current value).isLasting = true)
      (member : part ∈ (cells.current value).pieces) (further : Reaches cells part shape) : Reaches cells value shape

theorem reaches_iff (cells : Cells) (value : Value) (shape : Shape) :
    cells.Reaches value shape ↔ value.shape? = some shape ∨
      ((cells.current value).isLasting = true ∧ ∃ part ∈ (cells.current value).pieces, cells.Reaches part shape) := by
  constructor
  · intro reaches
    cases reaches with
    | here _ _ is => exact .inl is
    | through _ part _ lasting member further => exact .inr ⟨lasting, part, member, further⟩
  · rintro (is | ⟨lasting, part, member, further⟩)
    · exact .here value shape is
    · exact .through value part shape lasting member further

theorem current_unheld (cells : Cells) (value : Value) (unheld : value.handle? = none) : cells.current value = value := by
  rw [current, unheld]
  rfl

theorem current_held (cells : Cells) (value content : Value) (handle : Nat) (known : value.handle? = some handle)
    (cell : cells[handle]? = some (.contents content)) : cells.current value = content := by
  rw [current, known, Option.bind_some, cell_content cells handle content cell]
  rfl

theorem places_above {cells : Cells} {bound higher : Nat} {value : Value} (places : cells.Places bound value)
    (most : bound ≤ higher) : cells.Places higher value := by
  cases places with
  | inPlace _ here rests => exact .inPlace value here rests
  | mention handle shape content below cell is =>
      exact .mention handle shape content (Nat.lt_of_lt_of_le below most) cell is

-- Every object is there, of the same sort.
structure Retains (cells later : Cells) : Prop where
  size : cells.size ≤ later.size
  same : ∀ (handle : Nat) (content : Value), cells[handle]? = some (.contents content) →
    ∃ other, later[handle]? = some (.contents other) ∧ other.shape? = content.shape?

theorem extends_retains {cells later : Cells} (extended : cells.Extends later) : cells.Retains later :=
  ⟨extends_size extended, fun handle content cell => ⟨content, extended handle _ cell, rfl⟩⟩

theorem places_retained {cells later : Cells} (retained : cells.Retains later) {bound : Nat} {value : Value}
    (places : cells.Places bound value) : later.Places bound value := by
  cases places with
  | inPlace _ here rests => exact .inPlace value here rests
  | mention handle shape content below cell is =>
      obtain ⟨other, there, same⟩ := retained.same handle content cell
      exact .mention handle shape other below there (same.trans is)

theorem places_rests {cells : Cells} {bound : Nat} {value : Value} (places : cells.Places bound value) :
    value.IsHeld := by
  cases places with
  | inPlace _ _ rests => exact rests
  | mention handle shape _ _ _ _ => exact mention_rests handle shape

theorem placed_sort {cells : Cells} {bound : Nat} {value : Value} (places : cells.Places bound value) :
    value.InPlace ∨ value.isElsewhere = true := by
  cases places with
  | inPlace _ here _ => exact .inl here
  | mention handle shape _ _ _ _ => exact .inr rfl

theorem in_place_in_hand (cells : Cells) (value : Value) (inPlace : value.InPlace) : value.InHand cells := by
  induction inPlace with
  | intro value unheld rigid keys _ hypothesis =>
      exact .fresh value unheld (fun _ => keys) hypothesis

theorem places_in_hand {cells : Cells} {bound : Nat} {value : Value} (places : cells.Places bound value) :
    value.InHand cells := by
  cases places with
  | inPlace _ here _ => exact in_place_in_hand cells value here
  | mention handle shape content _ cell is => exact .held _ handle shape content rfl rfl cell is

theorem solid_in_hand {cells : Cells} {value : Value} (solid : value.Solid cells) : value.InHand cells := by
  induction solid with
  | fresh value unheld rigid keys _ hypothesis =>
      exact .fresh value unheld (fun _ => keys) hypothesis
  | seen handle shape anchored =>
      obtain ⟨own, is⟩ := seen_object handle shape anchored
      cases anchored with
      | inPlace _ _ here => exact absurd here (in_place_unmentioned handle shape)
      | mention _ _ _ content _ cell _ object _ _ _ => exact .held _ handle shape content own is cell object

theorem current_extends {cells later : Cells} (extended : cells.Extends later) {value : Value}
    (inHand : value.InHand cells) : later.current value = cells.current value := by
  cases inHand with
  | held _ handle shape content known _ cell _ =>
      rw [current_held cells value content handle known cell,
        current_held later value content handle known (extended handle _ cell)]
  | fresh _ unheld _ _ => rw [current_unheld cells value unheld, current_unheld later value unheld]

theorem sound_content {cells : Cells} (sound : cells.Sound) {handle : Nat} {content : Value}
    (cell : cells[handle]? = some (.contents content)) : cells.Fills handle content := by
  obtain ⟨known, same, fills⟩ := sound handle _ cell
  cases same
  exact fills

theorem fills_retained {cells later : Cells} (retained : cells.Retains later) {handle : Nat} {content : Value}
    (fills : cells.Fills handle content) : later.Fills handle content := by
  refine ⟨fills.own, ?_⟩
  rcases fills.parts with ⟨lasting, keys, older⟩ | ⟨editable, any⟩
  · exact .inl ⟨lasting, keys, fun part member => places_retained retained (older part member)⟩
  · refine .inr ⟨editable, fun part member => ?_⟩
    exact places_above (places_retained retained (any part member)) retained.size

theorem fills_placed {cells : Cells} {handle : Nat} {content : Value} (fills : cells.Fills handle content)
    (inside : handle < cells.size) : ∀ part ∈ content.pieces, cells.Places cells.size part := by
  intro part member
  rcases fills.parts with ⟨_, _, older⟩ | ⟨_, any⟩
  · exact places_above (older part member) (Nat.le_of_lt inside)
  · exact any part member

theorem cell_present {cells : Cells} {handle : Nat} {cell : Cell} (here : cells[handle]? = some cell) :
    handle < cells.size :=
  (Array.getElem?_eq_some_iff.mp here).1

theorem current_parts_in_hand {cells : Cells} (sound : cells.Sound) {value : Value} (inHand : value.InHand cells) :
    ∀ part ∈ (cells.current value).pieces, part.InHand cells := by
  cases inHand with
  | held _ handle shape content known _ cell _ =>
      rw [current_held cells value content handle known cell]
      intro part member
      exact places_in_hand (fills_placed (sound_content sound cell) (cell_present cell) part member)
  | fresh _ unheld _ parts =>
      rw [current_unheld cells value unheld]
      exact parts

-- In more cells, the same is met on the way down from what could be passed before.
theorem reaches_extends {cells later : Cells} (extended : cells.Extends later) (sound : cells.Sound) {value : Value}
    (inHand : value.InHand cells) (shape : Shape) : later.Reaches value shape ↔ cells.Reaches value shape := by
  constructor
  · intro reaches
    induction reaches with
    | here value shape is => exact .here value shape is
    | through value part shape lasting member _ hypothesis =>
        rw [current_extends extended inHand] at lasting member
        exact .through value part shape lasting member (hypothesis (current_parts_in_hand sound inHand part member))
  · intro reaches
    induction reaches with
    | here value shape is => exact .here value shape is
    | through value part shape lasting member _ hypothesis =>
        have inside := hypothesis (current_parts_in_hand sound inHand part member)
        rw [← current_extends extended inHand] at lasting member
        exact .through value part shape lasting member inside

-- What is held stands for a value: it leads to what the value led to.
structure Stands (start finish : Cells) (value held : Value) : Prop where
  placed : finish.Places finish.size held
  reaches : ∀ shape, finish.Reaches held shape ↔ start.Reaches value shape

theorem stands_extends {start cells later : Cells} (extended : cells.Extends later) (sound : cells.Sound)
    {value held : Value} (stands : start.Stands cells value held) : start.Stands later value held := by
  have retained := extends_retains extended
  refine ⟨places_above (places_retained retained stands.placed) retained.size, fun shape => ?_⟩
  exact (reaches_extends extended sound (places_in_hand stands.placed) shape).trans (stands.reaches shape)

theorem pieces_reach {start finish : Cells} {items others : List Value}
    (each : List.Forall₂ (start.Stands finish) items others) (shape : Shape) :
    (∃ part ∈ others, finish.Reaches part shape) ↔ ∃ part ∈ items, start.Reaches part shape := by
  induction each with
  | nil => simp
  | cons here _ hypothesis => rw [List.exists_mem_cons_iff, List.exists_mem_cons_iff, here.reaches, hypothesis]

-- A value and what is held for it lead to the same, where the contents of both are made of such pieces.
theorem contents_reach {start finish : Cells} {value held : Value} (is : held.shape? = value.shape?)
    (sort : (finish.current held).isLasting = (start.current value).isLasting)
    (each : List.Forall₂ (start.Stands finish) (start.current value).pieces (finish.current held).pieces)
    (shape : Shape) : finish.Reaches held shape ↔ start.Reaches value shape := by
  rw [reaches_iff, reaches_iff, is, sort, pieces_reach each]

-- A computation that keeps the cells sound; what is known of its result is known with the cells at last.
def ofSound (start finish : Cells) : Judgement (StateM Cells) where
  holds computation known := ∀ cells : Cells, start.Extends cells → cells.Sound →
    cells.Extends (computation.run cells).2 ∧ Sound (computation.run cells).2 ∧
      (Extends (computation.run cells).2 finish → known (computation.run cells).1)
  pure _ _ here cells _ sound := ⟨extends_refl cells, sound, fun _ => here⟩
  bind first next known wanted here later := by
    intro cells extended sound
    obtain ⟨grown, soundThere, result⟩ := here cells extended sound
    obtain ⟨grownLater, soundLater, resultLater⟩ :=
      later (first.run cells).1 (first.run cells).2 (extends_trans extended grown) soundThere
    exact ⟨extends_trans grown grownLater, soundLater,
      fun last => resultLater last (result (extends_trans grownLater last))⟩

theorem fresh_sort (value : Value) (shape : Shape) (object : value.shape? = some shape)
    (unheld : value.handle? = none) : value.isLasting = true ∨ value.isEditable = true := by
  cases value with
  | scalar s => cases object
  | member typeName => cases object
  | elsewhere handle shape => cases unheld
  | showing handle other => cases unheld
  | list handle items => exact .inr rfl
  | table handle entries => exact .inr rfl
  | settings handle attributes => exact .inr rfl
  | holder handle attributes => exact .inr rfl
  | _ => exact .inl rfl

theorem with_handle_editable (handle : Nat) (value : Value) :
    (value.withHandle handle).isEditable = value.isEditable := by
  cases value <;> rfl

theorem along_editable {related : Value → Value → Prop} {value other : Value} (along : value.Along related other) :
    other.isEditable = value.isEditable := by
  cases along <;> rfl

-- A new cell with what is made of values in hand leaves the cells sound.
theorem sound_push {cells : Cells} (sound : cells.Sound) (content : Value) (own : content.handle? = some cells.size)
    (sort : content.isLasting = true ∧ content.PlainKeys ∨ content.isEditable = true)
    (parts : ∀ part ∈ content.pieces, cells.Places cells.size part) :
    Sound (cells.push (.contents content)) := by
  have retained := extends_retains (extends_push cells (.contents content))
  intro handle cell here
  by_cases last : handle = cells.size
  · subst last
    rw [Array.getElem?_push_size] at here
    cases here
    have there (part : Value) (member : part ∈ content.pieces) := places_retained retained (parts part member)
    refine ⟨content, rfl, own, ?_⟩
    rcases sort with ⟨lasting, keys⟩ | editable
    · exact .inl ⟨lasting, keys, there⟩
    · exact .inr ⟨editable, fun part member => places_above (there part member) retained.size⟩
  · rw [Array.getElem?_push, if_neg last] at here
    obtain ⟨known, same, fills⟩ := sound handle cell here
    exact ⟨known, same, fills_retained retained fills⟩

theorem plain_stands {start finish : Cells} (value : Value) (plain : value.shape? = none) :
    start.Stands finish value value := by
  obtain ⟨unheld, empty, _⟩ := plain_empty value plain
  refine ⟨.inPlace value (plain_in_place value plain) (plain_rests value plain), contents_reach rfl ?_ ?_⟩
  · rw [current_unheld finish value unheld, current_unheld start value unheld]
  · rw [current_unheld finish value unheld, current_unheld start value unheld, empty]
    exact .nil

theorem held_stands {cells : Cells} {value : Value} (inHand : value.InHand cells) (handle : Nat) (shape : Shape)
    (known : value.handle? = some handle) (object : value.shape? = some shape) :
    cells.Stands cells value (.elsewhere handle shape) := by
  cases inHand with
  | fresh _ unheld _ _ => exact absurd (unheld.symm.trans known) nofun
  | held _ handle' shape' content known' object' cell is =>
      obtain rfl : handle' = handle := Option.some.inj (known'.symm.trans known)
      obtain rfl : shape' = shape := Option.some.inj (object'.symm.trans object)
      have same : cells.current (.elsewhere handle' shape') = cells.current value := by
        rw [current_held cells value content handle' known cell, current_held cells _ content handle' rfl cell]
      refine ⟨.mention handle' shape' content (cell_present cell) cell is, fun shape => ?_⟩
      rw [reaches_iff, reaches_iff, same, object]
      rfl

theorem in_hand_fresh {cells : Cells} {value : Value} (inHand : value.InHand cells) (unheld : value.handle? = none) :
    (value.isLasting = true → value.PlainKeys) ∧ ∀ part ∈ value.pieces, part.InHand cells := by
  cases inHand with
  | fresh _ _ keys parts => exact ⟨keys, parts⟩
  | held _ handle _ _ known _ _ _ => exact absurd (unheld.symm.trans known) nofun

-- A value that nobody holds, and that needs no cell, stays in place.
theorem kept_stands {start cells : Cells} {value kept : Value} (shape : Shape) (object : value.shape? = some shape)
    (unheld : value.handle? = none) (fixed : shape.canChange = false)
    (keys : value.isLasting = true → value.PlainKeys) (along : value.Along (start.Stands cells) kept)
    (none : ¬ kept.parts.any Value.leadsElsewhere = true) :
    start.Stands cells value kept := by
  have keptHandle : kept.handle? = Option.none := by rw [along_handle along, unheld]
  have lasting : value.isLasting = true := by
    refine rigid_lasting value unheld (fun other is => ?_) shape object
    obtain rfl : shape = other := Option.some.inj (object.symm.trans is)
    exact fixed
  obtain ⟨inPlace, rests⟩ := kept_in_place shape object unheld fixed (keys lasting) along
    (fun _ _ stands => ⟨placed_sort stands.placed, places_rests stands.placed⟩) none
  refine ⟨.inPlace kept inPlace rests, contents_reach (along_shape along) ?_ ?_⟩
  · rw [current_unheld cells kept keptHandle, current_unheld start value unheld, along_lasting along]
  · rw [current_unheld cells kept keptHandle, current_unheld start value unheld]
    exact along_pieces along

-- A value that nobody holds gets a cell at the end.
theorem pushed_stands {start cells : Cells} (sound : cells.Sound) {value kept : Value} (shape : Shape)
    (object : value.shape? = some shape) (unheld : value.handle? = none)
    (keys : value.isLasting = true → value.PlainKeys) (along : value.Along (start.Stands cells) kept) :
    Sound (cells.push (.contents (kept.withHandle cells.size))) ∧
      start.Stands (cells.push (.contents (kept.withHandle cells.size))) value (.elsewhere cells.size shape) := by
  have extended := extends_push cells (.contents (kept.withHandle cells.size))
  have cell : (cells.push (.contents (kept.withHandle cells.size)))[cells.size]? =
      some (.contents (kept.withHandle cells.size)) := by simp
  have keptObject : kept.shape? = some shape := by rw [along_shape along, object]
  have keptHandle : kept.handle? = none := by rw [along_handle along, unheld]
  refine ⟨sound_push sound (kept.withHandle cells.size) ?_ ?_ ?_, ?_, contents_reach ?_ ?_ ?_⟩
  · exact with_handle_handle cells.size kept shape keptObject keptHandle
  · rw [with_handle_lasting, with_handle_editable, along_lasting along, along_editable along, Value.PlainKeys,
      with_handle_keys, along_keys along]
    exact (fresh_sort value shape object unheld).imp_left fun lasting => ⟨lasting, keys lasting⟩
  · intro part member
    rw [with_handle_pieces] at member
    obtain ⟨_, _, stands⟩ := source_of_result (start.Stands cells) _ _ (along_pieces along) part member
    exact stands.placed
  · refine .mention cells.size shape (kept.withHandle cells.size) (by simp) cell ?_
    rw [with_handle_shape, keptObject]
  · exact object.symm
  · rw [current_held _ _ _ cells.size rfl cell, current_unheld start value unheld, with_handle_lasting,
      along_lasting along]
  · rw [current_held _ _ _ cells.size rfl cell, current_unheld start value unheld, with_handle_pieces]
    exact (along_pieces along).imp fun _ _ stands => stands_extends extended sound stands

-- By recursion over the value; its parts are held one after the other.
theorem hold_stands (value : Value) (start finish : Cells) (sound : start.Sound) (inHand : value.InHand start) :
    (ofSound start finish).holds value.hold (start.Stands finish value) := by
  intro cells extended soundHere
  rw [Value.hold]
  cases object : value.shape? with
  | none => exact ⟨extends_refl cells, soundHere, fun _ => plain_stands value object⟩
  | some shape =>
      cases known : value.handle? with
      | some handle =>
          refine ⟨extends_refl cells, soundHere, fun last => ?_⟩
          exact stands_extends (extends_trans extended last) sound (held_stands inHand handle shape known object)
      | none =>
          obtain ⟨keys, fresh⟩ := in_hand_fresh inHand known
          have parts (last : Cells) := judged_parts (ofSound start last) (start.Stands last) value
            (fun part _ => part.hold) (fun part member small => hold_stands part start last sound (fresh part member))
            cells extended soundHere
          simp only [StateT.run_bind]
          generalize StateT.run (value.mapParts fun part _ => part.hold) cells = outcome at parts ⊢
          obtain ⟨kept, reached⟩ := outcome
          have grown : cells.Extends reached := (parts reached).1
          have soundThere : reached.Sound := (parts reached).2.1
          have along : value.Along (start.Stands reached) kept := (parts reached).2.2 (extends_refl reached)
          by_cases needs : (shape.canChange || kept.parts.any Value.leadsElsewhere) = true
          · simp only [bind, if_pos needs]
            obtain ⟨soundLast, stands⟩ := pushed_stands soundThere shape object known keys along
            exact ⟨extends_trans grown (extends_push reached _), soundLast,
              fun last => stands_extends last soundLast stands⟩
          · simp only [bind, if_neg needs]
            rw [Bool.or_eq_true, not_or, Bool.not_eq_true] at needs
            refine ⟨grown, soundThere, fun last => stands_extends last soundThere ?_⟩
            exact kept_stands shape object known needs.1 keys along needs.2
termination_by sizeOf value

theorem hold_sound {cells : Cells} (sound : cells.Sound) {value : Value} (inHand : value.InHand cells) :
    Sound (value.hold.run cells).2 ∧ cells.Stands (value.hold.run cells).2 value (value.hold.run cells).1 := by
  obtain ⟨_, later, stands⟩ := hold_stands value cells _ sound inHand cells (extends_refl cells) sound
  exact ⟨later, stands (extends_refl _)⟩

end Cells
end Schemata
