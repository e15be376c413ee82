import Schemata.Proofs.Placed
import Schemata.Proofs.Remembered

set_option autoImplicit false

/-!
What has a fingerprint. Where no object shows anything but its own entries, and nothing wrong is remembered, a value
leads to no object that can be edited and has a fingerprint, or else it leads to such an object and that is reported.
-/

namespace Schemata

theorem can_change_editable (shape : Shape) (fixed : shape.canChange = false) : shape.isEditable = false := by
  rw [Shape.canChange, Bool.or_eq_false_iff] at fixed
  exact fixed.1

-- What can be edited has no fingerprint, whatever its contents are.
theorem editable_unmarked (content : Value) (editable : content.isEditable = true) :
    (∃ shape, content.shape? = some shape ∧ shape.isEditable = true) ∧ (∀ table other, content.form ≠ .showing table other) ∧
      ∀ beyond, ∃ name, content.form.digestBy beyond = .error (.unhashable name) := by
  cases content with
  | list handle items => exact ⟨⟨_, rfl, rfl⟩, nofun, fun _ => ⟨_, rfl⟩⟩
  | table handle entries => exact ⟨⟨_, rfl, rfl⟩, nofun, fun _ => ⟨_, rfl⟩⟩
  | settings handle attributes => exact ⟨⟨_, rfl, rfl⟩, nofun, fun _ => ⟨_, rfl⟩⟩
  | holder handle attributes => exact ⟨⟨_, rfl, rfl⟩, nofun, fun _ => ⟨_, rfl⟩⟩
  | _ => cases editable

namespace Workspace

variable {w : Workspace}

-- The value leads to an object that can be edited, and to no fingerprint.
structure Unmarked (w : Workspace) (bound : Nat) (value : Value) : Prop where
  leads : ∃ shape : Shape, shape.isEditable = true ∧ w.cells.Reaches value shape
  reported : ∀ fuel, bound + 2 ≤ fuel → ∃ name, w.digestForm fuel value.form = .error (.unhashable name)

theorem editable_mention_unmarked (bound handle : Nat) (shape : Shape) (content : Value)
    (cell : w.cells[handle]? = some (.contents content)) (is : content.shape? = some shape)
    (editable : content.isEditable = true) (none : w.fingerprints.lookup handle = none) :
    w.Unmarked bound (.elsewhere handle shape) := by
  obtain ⟨⟨known, object, changes⟩, own, reported⟩ := editable_unmarked content editable
  obtain rfl : known = shape := Option.some.inj (object.symm.trans is)
  refine ⟨⟨known, changes, .here _ known rfl⟩, fun fuel enough => ?_⟩
  obtain ⟨fuel, rfl⟩ : ∃ less, fuel = less + 2 := ⟨fuel - 2, by omega⟩
  change ∃ name, w.markOf (fuel + 1) handle known = .error (.unhashable name)
  rw [w.mark_entered (fuel + 1) handle known content cell own none]
  exact reported (w.markOf fuel)

-- The first fault in a lasting object is that of one of the pieces without a fingerprint.
theorem lasting_mention_unmarked (only : w.OnlyTaken) (bound handle : Nat) (shape : Shape) (content : Value)
    (below : handle < bound) (cell : w.cells[handle]? = some (.contents content)) (lasting : content.isLasting = true)
    (keys : content.PlainKeys) (none : w.fingerprints.lookup handle = none)
    (parts : ∀ part ∈ content.pieces, w.cells.Anchored handle part ∨ w.Unmarked handle part) (part : Value)
    (member : part ∈ content.pieces) (unmarked : w.Unmarked handle part) : w.Unmarked bound (.elsewhere handle shape) := by
  refine ⟨?_, fun fuel enough => ?_⟩
  · obtain ⟨inner, editable, reaches⟩ := unmarked.leads
    have current := Cells.current_held w.cells (.elsewhere handle shape) content handle rfl cell
    exact ⟨inner, editable, .through _ part inner (current ▸ lasting) (current ▸ member) reaches⟩
  · obtain ⟨fuel, rfl⟩ : ∃ less, fuel = less + 2 := ⟨fuel - 2, by omega⟩
    change ∃ name, w.markOf (fuel + 1) handle shape = .error (.unhashable name)
    rw [w.mark_entered (fuel + 1) handle shape content cell (lasting_unshown content lasting) none]
    obtain ⟨name, failed⟩ := unmarked.reported (fuel + 1) (by omega)
    obtain ⟨fault, found⟩ := inside_fails (w.markOf fuel) (pieces_inside content lasting member) ⟨_, failed⟩
    obtain ⟨_, ⟨first, firstMember, rfl⟩, firstFailed⟩ :=
      composed_error (w.markOf fuel) (lasting_composed content lasting keys) fault found
    rcases parts first firstMember with anchored | other
    · obtain ⟨mark, marked⟩ := anchored_marked only anchored (fuel + 1) (by omega)
      nomatch marked.symm.trans firstFailed
    · obtain ⟨name, reported⟩ := other.reported (fuel + 1) (by omega)
      exact ⟨name, found.trans (firstFailed.symm.trans reported)⟩

-- By induction on the bound: what can never change is made of what was there before it.
theorem anchored_or_unmarked (sound : w.cells.Sound) (right : w.RemembersRight) (bound : Nat) :
    ∀ value, w.cells.Places bound value → w.cells.Anchored bound value ∨ w.Unmarked bound value := by
  induction bound using Nat.strongRecOn with
  | ind bound hypothesis =>
      intro value places
      cases places with
      | inPlace _ here _ => exact .inl (.inPlace bound value here)
      | mention handle shape content below cell is =>
          cases known : w.fingerprints.lookup handle with
          | some fingerprint =>
              obtain ⟨_, _, entries, _, found, anchored, _⟩ := right handle fingerprint known
              obtain rfl : content = .frozen (some handle) entries := by
                simpa using cell.symm.trans found
              obtain rfl : Shape.frozen = shape := Option.some.inj is
              exact .inl (anchored_above (anchored_right_above anchored) below)
          | none =>
              have fills := Cells.sound_content sound cell
              rcases fills.parts with ⟨lasting, keys, older⟩ | ⟨editable, _⟩
              · have parts (part : Value) (member : part ∈ content.pieces) :=
                  hypothesis handle below part (older part member)
                by_cases each : ∀ part ∈ content.pieces, w.cells.Anchored handle part
                · exact .inl (.mention bound handle shape content below cell fills.own is lasting keys each)
                · simp only [not_forall] at each
                  obtain ⟨part, member, loose⟩ := each
                  exact .inr (lasting_mention_unmarked (right_taken right) bound handle shape content below cell
                    lasting keys known parts part member ((parts part member).resolve_left loose))
              · exact .inr (editable_mention_unmarked bound handle shape content cell is editable known)

theorem anchored_reaches {cells : Cells} {value : Value} {shape : Shape} (reaches : cells.Reaches value shape) :
    ∀ bound, cells.Anchored bound value → shape.isEditable = false := by
  induction reaches with
  | here value shape is =>
      intro bound anchored
      cases anchored with
      | inPlace _ _ here =>
          cases here with
          | intro _ _ rigid _ _ => exact can_change_editable shape (rigid shape is)
      | mention _ handle known content _ _ _ object lasting _ _ =>
          obtain rfl : known = shape := Option.some.inj is
          exact lasting_fixed content lasting known object
  | through value part shape lasting member _ hypothesis =>
      intro bound anchored
      cases anchored with
      | inPlace _ _ here =>
          cases here with
          | intro _ unheld _ _ parts =>
              rw [Cells.current_unheld cells value unheld] at member
              exact hypothesis bound (.inPlace bound part (parts part member))
      | mention _ handle known content _ cell _ _ _ _ parts =>
          rw [Cells.current_held cells _ content handle rfl cell] at member
          exact hypothesis handle (parts part member)

-- What is remembered stays right, as long as no object behind it is changed.
theorem right_kept {later : Workspace} (right : w.RemembersRight) (same : later.fingerprints = w.fingerprints)
    (kept : ∀ handle, w.cells.Anchored w.cells.size (.elsewhere handle .frozen) →
      w.cells.Keeps later.cells (.elsewhere handle .frozen)) : later.RemembersRight := by
  intro handle fingerprint known
  rw [same] at known
  obtain ⟨mark, counted, entries, taken, cell, anchored, fuel, enough, marked⟩ := right handle fingerprint known
  have keeps := kept handle anchored
  refine ⟨mark, counted, entries, taken, (keeps.same handle (.here handle .frozen)).trans cell, ?_, fuel, enough, ?_⟩
  · exact anchored_above (anchored_kept anchored keeps) keeps.size
  · rw [← marked]
    exact unremembered_mark anchored keeps fuel fuel enough enough

theorem right_extends (right : w.RemembersRight) {cells : Cells} (extended : w.cells.Extends cells) :
    RemembersRight { w with cells := cells } :=
  right_kept right rfl fun _ anchored => extends_keeps extended anchored

-- The workspace while a value is held.
def holding (w : Workspace) (value : Value) : Workspace := { w with cells := (value.hold.run w.cells).2 }

theorem digest_holding (w : Workspace) (value : Value) :
    w.digest value =
      (w.holding value).digestForm ((w.holding value).cells.size + 2) (value.hold.run w.cells).1.form := rfl

theorem digest_held (w : Workspace) (value held : Value) (as : ∀ cells : Cells, value.hold.run cells = (held, cells)) :
    w.digest value = w.digestForm (w.cells.size + 2) held.form := by
  rw [digest, as]

-- A value that can be passed leads to what can be edited, which is reported, or has a fingerprint.
theorem digest_in_hand (sound : w.cells.Sound) (right : w.RemembersRight) {value : Value}
    (inHand : value.InHand w.cells) :
    ((∃ mark, w.digest value = .ok mark) ∧ ∀ shape, w.cells.Reaches value shape → shape.isEditable = false) ∨
      (∃ name, w.digest value = .error (.unhashable name)) ∧
        ∃ shape : Shape, shape.isEditable = true ∧ w.cells.Reaches value shape := by
  obtain ⟨soundLater, stands⟩ := Cells.hold_sound sound inHand
  have rightLater : (w.holding value).RemembersRight := right_extends right (hold_extends value w.cells)
  rw [digest_holding]
  rcases anchored_or_unmarked (w := w.holding value) soundLater rightLater _ _ stands.placed with anchored | unmarked
  · refine .inl ⟨anchored_marked (right_taken rightLater) anchored _ ?_, fun shape reaches => ?_⟩
    · exact Nat.lt_succ_of_lt (Nat.lt_succ_self _)
    · exact anchored_reaches ((stands.reaches shape).mpr reaches) _ anchored
  · obtain ⟨shape, editable, reaches⟩ := unmarked.leads
    exact .inr ⟨unmarked.reported _ (Nat.le_refl _), shape, editable, (stands.reaches shape).mp reaches⟩

end Workspace
end Schemata
