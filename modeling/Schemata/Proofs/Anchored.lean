import Schemata.Proofs.Composed

set_option autoImplicit false

/-!
Anchored values. An anchored value is in place, with nothing in it that has a cell, or it mentions an object
that cannot be edited and leads to such objects only, each behind those that it leads to. What is seen of it
does not depend on how deep a view goes, and is the same wherever these cells are.
-/

namespace Schemata

-- Nothing of the value has a cell or needs one.
inductive Value.InPlace : Value → Prop where
  | intro (value : Value) (unheld : value.handle? = none)
      (rigid : ∀ shape, value.shape? = some shape → shape.canChange = false) (keys : value.PlainKeys)
      (parts : ∀ part ∈ value.pieces, part.InPlace) : InPlace value

-- A value in place, or a mention of an object below the bound that is there to last.
inductive Cells.Anchored (cells : Cells) : Nat → Value → Prop where
  | inPlace (bound : Nat) (value : Value) (here : value.InPlace) : Anchored cells bound value
  | mention (bound handle : Nat) (shape : Shape) (content : Value) (below : handle < bound)
      (cell : cells[handle]? = some (.contents content)) (own : content.handle? = some handle)
      (is : content.shape? = some shape) (lasting : content.isLasting = true) (keys : content.PlainKeys)
      (parts : ∀ part ∈ content.pieces, Anchored cells handle part) : Anchored cells bound (.elsewhere handle shape)

/-- An object is met on a way down from a value. -/
inductive Cells.LeadsTo (cells : Cells) : Value → Nat → Prop where
  | here (handle : Nat) (shape : Shape) : LeadsTo cells (.elsewhere handle shape) handle
  | part (value part : Value) (handle : Nat) (member : part ∈ value.pieces) (below : LeadsTo cells part handle) :
      LeadsTo cells value handle
  | behind (outer : Nat) (shape : Shape) (content part : Value) (handle : Nat) (cell : cells.at? outer = some content)
      (member : part ∈ content.pieces) (below : LeadsTo cells part handle) :
      LeadsTo cells (.elsewhere outer shape) handle

-- The objects that a value leads to are what they have been.
structure Cells.Keeps (cells later : Cells) (value : Value) : Prop where
  size : cells.size ≤ later.size
  same : ∀ handle, cells.LeadsTo value handle → later[handle]? = cells[handle]?

theorem cell_content (cells : Cells) (handle : Nat) (content : Value)
    (cell : cells[handle]? = some (.contents content)) : cells.at? handle = some content := by
  rw [Cells.at?, cell]

theorem in_place_unmentioned (handle : Nat) (shape : Shape) : ¬ (Value.elsewhere handle shape).InPlace := by
  intro inPlace
  cases inPlace with
  | intro _ unheld _ _ _ => cases unheld

theorem in_place_parts (value : Value) (inPlace : value.InPlace) : ∀ part ∈ value.pieces, part.InPlace := by
  cases inPlace with
  | intro _ _ _ _ parts => exact parts

theorem rigid_lasting (value : Value) (unheld : value.handle? = none)
    (rigid : ∀ shape, value.shape? = some shape → shape.canChange = false) (shape : Shape)
    (object : value.shape? = some shape) : value.isLasting = true := by
  have fixed := rigid shape object
  cases value with
  | scalar s => cases object
  | member typeName => cases object
  | elsewhere handle shape => cases unheld
  | list handle items => cases object; cases fixed
  | table handle entries => cases object; cases fixed
  | showing handle other => cases object; cases fixed
  | settings handle attributes => cases object; cases fixed
  | holder handle attributes => cases object; cases fixed
  | _ => rfl

theorem anchored_above {cells : Cells} {bound higher : Nat} {value : Value} (anchored : cells.Anchored bound value)
    (most : bound ≤ higher) : cells.Anchored higher value := by
  cases anchored with
  | inPlace _ _ here => exact .inPlace higher value here
  | mention _ handle shape content below cell own is lasting keys parts =>
      exact .mention higher handle shape content (Nat.lt_of_lt_of_le below most) cell own is lasting keys parts

theorem anchored_leads_to {cells : Cells} {value : Value} {handle : Nat} (leads : cells.LeadsTo value handle) :
    ∀ bound, cells.Anchored bound value →
      ∃ content, cells[handle]? = some (.contents content) ∧ content.isLasting = true := by
  induction leads with
  | here handle shape =>
      intro bound anchored
      cases anchored with
      | inPlace _ _ here => exact absurd here (in_place_unmentioned handle shape)
      | mention _ _ _ content _ cell _ _ lasting _ _ => exact ⟨content, cell, lasting⟩
  | part value part handle member _ hypothesis =>
      intro bound anchored
      cases anchored with
      | inPlace _ _ here => exact hypothesis bound (.inPlace bound part (in_place_parts value here part member))
      | mention => cases member
  | behind outer shape content part handle cell member _ hypothesis =>
      intro bound anchored
      cases anchored with
      | inPlace _ _ here => exact absurd here (in_place_unmentioned outer shape)
      | mention _ _ _ known _ found _ _ _ _ parts =>
          obtain rfl : known = content := Option.some.inj ((cell_content cells outer known found).symm.trans cell)
          exact hypothesis outer (parts part member)

theorem keeps_part {cells later : Cells} {handle : Nat} {shape : Shape} {content part : Value}
    (kept : cells.Keeps later (.elsewhere handle shape)) (cell : cells[handle]? = some (.contents content))
    (member : part ∈ content.pieces) : cells.Keeps later part :=
  ⟨kept.size, fun inner leads =>
    kept.same inner (.behind handle shape content part inner (cell_content cells handle content cell) member leads)⟩

theorem anchored_kept {cells later : Cells} {bound : Nat} {value : Value} (anchored : cells.Anchored bound value) :
    cells.Keeps later value → later.Anchored bound value := by
  induction anchored with
  | inPlace bound value here => exact fun _ => .inPlace bound value here
  | mention bound handle shape content below cell own is lasting keys parts hypothesis =>
      intro kept
      refine .mention bound handle shape content below ?_ own is lasting keys fun part member => ?_
      · rw [kept.same handle (.here handle shape), cell]
      · exact hypothesis part member (keeps_part kept cell member)

theorem leads_kept {cells later : Cells} {value : Value} {handle : Nat} (leads : cells.LeadsTo value handle) :
    ∀ bound, cells.Anchored bound value → cells.Keeps later value → later.LeadsTo value handle := by
  induction leads with
  | here handle shape => exact fun _ _ _ => .here handle shape
  | part value part handle member _ hypothesis =>
      intro bound anchored kept
      cases anchored with
      | inPlace _ _ here =>
          have inside : cells.Anchored bound part := .inPlace bound part (in_place_parts value here part member)
          refine .part value part handle member (hypothesis bound inside ?_)
          exact ⟨kept.size, fun inner leads => kept.same inner (.part value part inner member leads)⟩
      | mention => cases member
  | behind outer shape content part handle cell member _ hypothesis =>
      intro bound anchored kept
      cases anchored with
      | inPlace _ _ here => exact absurd here (in_place_unmentioned outer shape)
      | mention _ _ _ known _ found _ _ _ _ parts =>
          obtain rfl : known = content := Option.some.inj ((cell_content cells outer known found).symm.trans cell)
          have there : later.at? outer = some known :=
            cell_content later outer known ((kept.same outer (.here outer shape)).trans found)
          exact .behind outer shape known part handle there member
            (hypothesis outer (parts part member) (keeps_part kept found member))

theorem keeps_trans {cells later last : Cells} {bound : Nat} {value : Value} (anchored : cells.Anchored bound value)
    (first : cells.Keeps later value) (second : later.Keeps last value) : cells.Keeps last value :=
  ⟨Nat.le_trans first.size second.size, fun handle leads =>
    (second.same handle (leads_kept leads bound anchored first)).trans (first.same handle leads)⟩

-- Fuel and limit are enough for what is below the bound, and nothing of that was entered yet.
structure Room (bound limit fuel : Nat) (above : List Nat) : Prop where
  limit : 0 < limit
  fuel : bound ≤ fuel
  above : ∀ handle ∈ above, bound ≤ handle

theorem room_below {bound limit fuel : Nat} {above : List Nat} (room : Room bound limit (fuel + 1) above) (handle : Nat)
    (below : handle < bound) : Room handle limit fuel (handle :: above) := by
  refine ⟨room.limit, ?_, List.forall_mem_cons.mpr ⟨Nat.le_refl handle, fun other member => ?_⟩⟩
  · have enough := room.fuel
    omega
  · have high := room.above other member
    omega

theorem unfold_in_place (cells : Cells) (limit fuel : Nat) (above : List Nat) (value : Value)
    (inPlace : value.InPlace) : cells.unfold limit fuel above value = value := by
  cases value with
  | elsewhere handle shape => exact absurd inPlace (in_place_unmentioned handle shape)
  | _ => cases fuel <;> rfl

theorem unfold_mention (cells : Cells) (limit fuel : Nat) (above : List Nat) (handle : Nat) (shape : Shape)
    (content : Value) (cell : cells[handle]? = some (.contents content)) (entered : above.count handle < limit) :
    cells.unfold limit (fuel + 1) above (.elsewhere handle shape) =
      content.mapped (cells.unfold limit fuel (handle :: above)) := by
  have entrance : cells.entrance? handle = some handle := by rw [Cells.entrance?, cell]
  have open' : (some handle).any (fun entrance => decide (limit ≤ above.count entrance)) = false := by
    simpa using entered
  rw [Cells.unfold, entrance, cell_content cells handle content cell]
  simp only [open']
  rfl

theorem room_mention (cells : Cells) {bound limit fuel : Nat} {above : List Nat} (room : Room bound limit fuel above)
    (handle : Nat) (shape : Shape) (content : Value) (below : handle < bound)
    (cell : cells[handle]? = some (.contents content)) : ∃ left, Room handle limit left (handle :: above) ∧
      cells.unfold limit fuel above (.elsewhere handle shape) =
        content.mapped (cells.unfold limit left (handle :: above)) := by
  have enough := room.fuel
  obtain ⟨left, rfl⟩ : ∃ left, fuel = left + 1 := ⟨fuel - 1, by omega⟩
  refine ⟨left, room_below room handle below, unfold_mention cells limit left above handle shape content cell ?_⟩
  have new : handle ∉ above := fun member => absurd (room.above handle member) (by omega)
  rw [List.count_eq_zero_of_not_mem new]
  exact room.limit

theorem unfold_anchored {cells later : Cells} {bound : Nat} {value : Value} (anchored : cells.Anchored bound value) :
    ∀ {limit fuel : Nat} {above : List Nat} {limit' fuel' : Nat} {above' : List Nat}, cells.Keeps later value →
      Room bound limit fuel above → Room bound limit' fuel' above' →
      later.unfold limit fuel above value = cells.unfold limit' fuel' above' value := by
  induction anchored with
  | inPlace bound value here =>
      intros
      rw [unfold_in_place _ _ _ _ _ here, unfold_in_place _ _ _ _ _ here]
  | mention bound handle shape content below cell own is lasting keys parts hypothesis =>
      intro limit fuel above limit' fuel' above' kept room room'
      have found : later[handle]? = some (.contents content) := by rw [kept.same handle (.here handle shape), cell]
      obtain ⟨left, inside, here⟩ := room_mention later room handle shape content below found
      obtain ⟨left', inside', there⟩ := room_mention cells room' handle shape content below cell
      rw [here, there]
      exact mapped_congr _ _ _ fun part member => hypothesis part member (keeps_part kept cell member) inside inside'

theorem room_view (cells : Cells) (bound limit : Nat) (positive : 0 < limit) (enough : bound ≤ cells.size) :
    Room bound limit ((limit * cells.size + 1) * (cells.size + 1)) [] := by
  refine ⟨positive, ?_, List.forall_mem_nil _⟩
  calc bound ≤ 1 * (cells.size + 1) := by omega
    _ ≤ (limit * cells.size + 1) * (cells.size + 1) := Nat.mul_le_mul_right _ (Nat.le_add_left 1 _)

theorem view_kept {cells later : Cells} {value : Value} (anchored : cells.Anchored cells.size value)
    (kept : cells.Keeps later value) (limit limit' : Nat) (positive : 0 < limit) (positive' : 0 < limit') :
    later.view limit value = cells.view limit' value :=
  unfold_anchored anchored kept (room_view later cells.size limit positive kept.size)
    (room_view cells cells.size limit' positive' (Nat.le_refl _))

end Schemata
