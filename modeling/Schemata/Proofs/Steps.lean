import Mathlib.Logic.Relation
import Schemata.Proofs.Held
import Schemata.Workspace

set_option autoImplicit false

/-!
Steps of a caller. Objects are stored under names, edited, and compared. What lasts refuses every edit, so a
step changes no cell behind an anchored value, unless it gives a frozen table that the value leads to other
entries to show; and the kinds keep their words, unless a step gives one of them another value.
-/

namespace Schemata

-- An attribute that stands for the entries of a frozen table is set.
def Edit.replacesEntries : Edit → Bool
  | .setField field _ => field == "_data"
  | _ => false

-- A kind is given another value, or all its attributes at once.
def Edit.respells (change : Edit) (target : Value) : Bool :=
  match change, target with
  | .setField field _, .scalar (.keyword (.kind _)) => field == "_value_" || field == Value.attributesField
  | _, _ => false

-- The workspace after an edit, which is the one before where the edit is refused.
def Workspace.attempt (w : Workspace) (target : Value) (change : Edit) : Workspace :=
  match w.edit target change with
  | .ok later => later
  | .error _ => w

-- What a caller does next.
inductive Workspace.Step (w : Workspace) : Workspace → Prop where
  | set (name : String) (value : Value) : Step w (w.set name value)
  | edit (target : Value) (change : Edit) : Step w (w.attempt target change)
  | remember (value : Value) : Step w (w.remember value)

-- A step that spares what is to last: nobody replaces the entries of a frozen table that is part of it, and no kind
-- is given another value.
inductive Workspace.SparingStep (lasting : List Value) (w : Workspace) : Workspace → Prop where
  | set (name : String) (value : Value) : SparingStep lasting w (w.set name value)
  | edit (target : Value) (change : Edit)
      (apart : change.replacesEntries = true → ∀ handle, target.handle? = some handle →
        ∀ held ∈ lasting, ¬ w.cells.LeadsTo held handle)
      (spelled : change.respells target = false) : SparingStep lasting w (w.attempt target change)
  | remember (value : Value) : SparingStep lasting w (w.remember value)

theorem lasting_assigning (content key value changed : Value) (lasting : content.isLasting = true) :
    content.assigning key value ≠ .ok changed := by
  unfold Value.assigning
  cases content with
  | list handle items => cases lasting
  | table handle entries => cases lasting
  | _ =>
      intro done
      simp only at done
      split at done <;> cases done

theorem lasting_appending (content value changed : Value) (lasting : content.isLasting = true) :
    content.appending value ≠ .ok changed := by
  cases content with
  | list handle items => cases lasting
  | _ => exact nofun

theorem lasting_assigning_field (content : Value) (field : String) (value changed : Value)
    (lasting : content.isLasting = true) (done : content.assigningField field value = .ok changed) :
    content.shape? = some .frozen ∧ (content.backing? field).isSome = true := by
  unfold Value.assigningField at done
  cases content with
  | tuple handle items =>
      simp only [Value.record?] at done
      split at done
      · cases done
      · cases done
  | frozen handle entries =>
      simp only [Value.record?] at done
      split at done
      · cases done
      · split at done
        · exact ⟨rfl, ‹_›⟩
        · cases done
  | schema handle s => cases done
  | combinator handle c => cases done
  | property handle p => cases done
  | customFormat handle name => cases done
  | model handle m => cases done
  | _ => cases lasting

theorem lasting_apply (content : Value) (change : Edit) (changed : Value) (lasting : content.isLasting = true)
    (done : change.apply content = .ok changed) :
    content.shape? = some .frozen ∧ (change.backing? content).isSome = true := by
  cases change with
  | put key value => exact absurd done (lasting_assigning content key value changed lasting)
  | append value => exact absurd done (lasting_appending content value changed lasting)
  | setField field value => exact lasting_assigning_field content field value changed lasting done

theorem lasting_backing (content : Value) (change : Edit) (lasting : content.isLasting = true)
    (shown : change.backing? content = some .shown) : change.replacesEntries = true := by
  cases change with
  | put key value => cases shown
  | append value => cases shown
  | setField field value =>
      have behind : content.backing? field = some .shown := shown
      unfold Value.backing? at behind
      split at behind
      · by_cases entries : field = "_data"
        · exact beq_iff_eq.mpr entries
        · rw [if_neg entries] at behind
          split at behind <;> cases behind
      · rename_i settings
        exact nomatch lasting_fixed content lasting _ settings
      · cases behind

-- One cell at most is changed; unless it is excepted, it is not one of those that are there to last.
def Cells.Changes (cells later : Cells) (excepted : Nat → Prop) : Prop :=
  later = cells ∨ ∃ place cell, later = cells.setIfInBounds place cell ∧
    ∀ content, cells[place]? = some (.contents content) → content.isLasting = true → excepted place

-- What comes of a change of a held object: its cell has the changed contents, or the table that is shown in its place
-- has another entry.
inductive Workspace.Changed (w : Workspace) (handle : Nat) (object : Value) (change : Edit) : Workspace → Prop where
  | contents (changed : Value) (applied : change.apply object = .ok changed) :
      Changed w handle object change { w with cells := w.cells.setIfInBounds handle (.contents changed) }
  | entry (field value changed shown another : Value) (table : Nat) (applied : change.apply object = .ok changed)
      (backed : ∃ shape other, w.cells[handle]? = some (.backed shape (.elsewhere table other)))
      (behind : w.cells.at? table = some shown) (placed : shown.assigning field value = .ok another) :
      Changed w handle object change { w with cells := w.cells.setIfInBounds table (.contents another) }

theorem change_cases {w later : Workspace} {handle : Nat} {object : Value} {change : Edit}
    (done : w.change handle object change = .ok later) : w.Changed handle object change later := by
  unfold Workspace.change at done
  cases applied : change.apply object with
  | error fault =>
      rw [applied] at done
      cases done
  | ok changed =>
      rw [applied] at done
      simp only [bind, Except.bind] at done
      split at done
      · rename_i field value shape table other backed
        split at done
        · rename_i shown behind
          cases placed : shown.assigning (.text field) value with
          | error fault =>
              rw [placed] at done
              cases done
          | ok another =>
              rw [placed] at done
              cases done
              exact .entry (.text field) value changed shown another table applied ⟨shape, other, backed⟩ behind placed
        · cases done
      · cases done
        exact .contents changed applied

-- What comes of an edit, where the value that is put in is held already: something is set behind an object, the object
-- is changed, a word is given an attribute, or nothing is kept of it.
inductive Workspace.Edited (w : Workspace) (target : Value) (change : Edit) (held : Value) : Workspace → Prop where
  | behind (handle : Nat) (object : Value) (backing : Value.Backing) (shape : Shape)
      (own : target.handle? = some handle) (found : w.cells.at? handle = some object)
      (known : change.backing? object = some backing) :
      Edited w target change held (w.back backing shape handle held)
  | object (handle : Nat) (object : Value) (later : Workspace) (own : target.handle? = some handle)
      (found : w.cells.at? handle = some object)
      (unbacked : ∀ backing shape, change.backing? object = some backing → object.shape? = some shape → False)
      (changed : w.Changed handle object change later) : Edited w target change held later
  | word (k : Keyword) (field : String) (value : Value) (word : target = .scalar (.keyword k))
      (given : change = .setField field value) : Edited w target change held (w.mark k field value)
  | unkept : Edited w target change held w

theorem edit_cases {w later : Workspace} {target : Value} {change : Edit} {held : Value} {cells : Cells}
    (holds : change.value.hold.run w.cells = (held, cells)) (done : w.edit target change = .ok later) :
    { w with cells := cells }.Edited target (change.withValue held) held later := by
  unfold Workspace.edit at done
  rw [holds] at done
  simp only at done
  split at done
  · rename_i handle object known
    obtain ⟨_, own, present⟩ := Option.bind_eq_some_iff.mp known
    obtain ⟨_, found, same⟩ := Option.map_eq_some_iff.mp present
    obtain ⟨rfl, rfl⟩ := Prod.mk.inj same
    split at done
    · rename_i backing shape behind _
      cases applied : (change.withValue held).apply _ with
      | error fault =>
          rw [applied] at done
          cases done
      | ok changed =>
          rw [applied] at done
          cases done
          exact .behind _ _ backing shape own found behind
    · rename_i unbacked
      exact .object _ _ later own found unbacked (change_cases done)
  · cases applied : (change.withValue held).apply target with
    | error fault =>
        rw [applied] at done
        cases done
    | ok changed =>
        rw [applied] at done
        simp only [bind, Except.bind] at done
        split at done
        · rename_i k field value given _
          cases done
          exact .word k field value rfl given
        · cases done
          exact .unkept

theorem changed_cells {w later : Workspace} {handle : Nat} {object : Value} {change : Edit} (excepted : Nat → Prop)
    (found : w.cells.at? handle = some object)
    (unbacked : ∀ backing shape, change.backing? object = some backing → object.shape? = some shape → False)
    (changed : w.Changed handle object change later) : w.cells.Changes later.cells excepted := by
  cases changed with
  | contents changed applied =>
      refine .inr ⟨handle, .contents changed, rfl, fun content cell lasting => ?_⟩
      obtain rfl := Option.some.inj ((cell_content w.cells handle content cell).symm.trans found)
      obtain ⟨frozen, backing⟩ := lasting_apply content _ changed lasting applied
      obtain ⟨backing, known⟩ := Option.isSome_iff_exists.mp backing
      exact absurd (unbacked backing .frozen known frozen) id
  | entry field value changed shown another table applied backed behind placed =>
      refine .inr ⟨table, _, rfl, fun content cell lasting => ?_⟩
      obtain rfl := Option.some.inj ((cell_content w.cells table content cell).symm.trans behind)
      exact absurd placed (lasting_assigning content _ value another lasting)

theorem replaces_with_value (change : Edit) (value : Value) :
    (change.withValue value).replacesEntries = change.replacesEntries := by
  cases change <;> rfl

theorem back_cells (w : Workspace) (backing : Value.Backing) (shape : Shape) (handle : Nat) (object value : Value)
    (change : Edit) (excepted : Nat → Prop) (found : w.cells.at? handle = some object)
    (known : change.backing? object = some backing) (excused : change.replacesEntries = true → excepted handle) :
    w.cells.Changes (w.back backing shape handle value).cells excepted := by
  cases backing with
  | fingerprint => exact .inl rfl
  | shown =>
      refine .inr ⟨handle, _, rfl, fun content cell lasting => excused ?_⟩
      obtain rfl := Option.some.inj ((cell_content w.cells handle content cell).symm.trans found)
      exact lasting_backing content change lasting known

-- Where the cells were before the value of the edit was held, they are extended first.
theorem edit_cells (w later : Workspace) (target : Value) (change : Edit) (done : w.edit target change = .ok later) :
    ∃ cells : Cells, w.cells.Extends cells ∧
      cells.Changes later.cells fun place => change.replacesEntries = true ∧ target.handle? = some place := by
  refine ⟨(change.value.hold.run w.cells).2, hold_extends _ _, ?_⟩
  cases edit_cases rfl done with
  | behind handle object backing shape own found known =>
      refine back_cells _ backing shape handle object _ _ _ found known fun replaces => ⟨?_, own⟩
      exact (replaces_with_value change _).symm.trans replaces
  | object handle object _ own found unbacked changed => exact changed_cells _ found unbacked changed
  | word k field value word given => exact .inl rfl
  | unkept => exact .inl rfl

theorem changed_keeps {cells extended later : Cells} {excepted : Nat → Prop} (more : cells.Extends extended)
    (changes : extended.Changes later excepted) {bound : Nat} {held : Value} (anchored : cells.Anchored bound held)
    (apart : ∀ place, excepted place → ¬ cells.LeadsTo held place) : cells.Keeps later held := by
  rcases changes with rfl | ⟨place, cell, rfl, change⟩
  · exact extends_keeps more anchored
  · refine ⟨by simpa using extends_size more, fun handle leads => ?_⟩
    obtain ⟨content, known, lasting⟩ := anchored_leads_to leads bound anchored
    have other : place ≠ handle := by
      rintro rfl
      exact apart place (change content (more place _ known) lasting) leads
    rw [Array.getElem?_setIfInBounds_ne other, known, more handle _ known]

theorem step_keeps {lasting : List Value} {w later : Workspace} (step : w.SparingStep lasting later) {held : Value}
    (member : held ∈ lasting) (anchored : w.cells.Anchored w.cells.size held) : w.cells.Keeps later.cells held := by
  cases step with
  | set name value => exact extends_keeps (hold_extends value w.cells) anchored
  | remember value => exact ⟨Nat.le_refl _, fun _ _ => rfl⟩
  | edit target change apart _ =>
      unfold Workspace.attempt
      split
      · rename_i later done
        obtain ⟨cells, more, changes⟩ := edit_cells w later target change done
        exact changed_keeps more changes anchored fun place excepted => apart excepted.1 place excepted.2 held member
      · exact ⟨Nat.le_refl _, fun _ _ => rfl⟩

theorem step_anchored {lasting : List Value} {w later : Workspace} (step : w.SparingStep lasting later) {held : Value}
    (member : held ∈ lasting) (anchored : w.cells.Anchored w.cells.size held) :
    later.cells.Anchored later.cells.size held :=
  have kept := step_keeps step member anchored
  anchored_above (anchored_kept anchored kept) kept.size

-- Whatever steps are taken, what lasts is anchored, and so are its objects what they have been.
theorem steps_keep {lasting : List Value} {w later : Workspace}
    (steps : Relation.ReflTransGen (Workspace.SparingStep lasting) w later) {held : Value} (member : held ∈ lasting)
    (anchored : w.cells.Anchored w.cells.size held) :
    later.cells.Anchored later.cells.size held ∧ w.cells.Keeps later.cells held := by
  induction steps with
  | refl => exact ⟨anchored, extends_keeps (extends_refl w.cells) anchored⟩
  | tail _ step hypothesis =>
      obtain ⟨anchoredBefore, kept⟩ := hypothesis
      exact ⟨step_anchored step member anchoredBefore,
        keeps_trans anchored kept (step_keeps step member anchoredBefore)⟩

end Schemata
