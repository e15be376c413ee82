import Mathlib.Logic.Relation
import Schemata.Proofs.Lasting
import Schemata.Proofs.Rigidity

set_option autoImplicit false

/-!
Callers who keep to public names. Whatever they store, edit and take fingerprints of, no object shows anything but its
own entries, what can never change is made of what was there before it, and nothing wrong is remembered.
-/

namespace Schemata

-- A name that begins with an underscore is the library's own.
def Edit.isPublic : Edit → Bool
  | .setField field _ => field.toList.head? != some '_'
  | _ => true

-- What a caller does next who keeps to public names, with values in hand.
inductive Workspace.PublicStep (w : Workspace) : Workspace → Prop where
  | set (name : String) (value : Value) (inHand : value.InHand w.cells) : PublicStep w (w.set name value)
  | edit (target : Value) (change : Edit) (named : change.isPublic = true) (inHand : change.value.InHand w.cells) :
      PublicStep w (w.attempt target change)
  | remember (value : Value) : PublicStep w (w.remember value)

-- What can come about when values are built and kept under names, between public steps.
inductive Workspace.PublicSession : Workspace → List Value → Prop where
  | start : PublicSession {} []
  | keep (w : Workspace) (lasting : List Value) (name : String) (node : Value) (before : PublicSession w lasting)
      (built : node.Built w.cells lasting) : PublicSession (w.set name node) ((node.hold.run w.cells).1 :: lasting)
  | step (w later : Workspace) (lasting : List Value) (before : PublicSession w lasting) (step : w.PublicStep later) :
      PublicSession later lasting

theorem public_unbacked (change : Edit) (named : change.isPublic = true) (object : Value) :
    change.backing? object = none := by
  cases change with
  | put key value => rfl
  | append value => rfl
  | setField field value =>
      have other (name : String) (own : name.toList.head? = some '_') : field ≠ name := by
        rintro rfl
        rw [Edit.isPublic, own] at named
        exact absurd named (by decide)
      change object.backing? field = none
      unfold Value.backing?
      split
      · rw [if_neg (other "_data" rfl), if_neg (other "_hash" rfl)]
      · rw [if_neg (other Value.attributesField rfl)]
      · rfl

theorem public_keeps_entries (change : Edit) (named : change.isPublic = true) : change.replacesEntries = false := by
  cases change with
  | setField field value =>
      by_contra replaces
      obtain rfl : field = "_data" := by simpa [Edit.replacesEntries] using replaces
      change ("_data".toList.head? != some '_') = true at named
      exact absurd named (by decide)
  | _ => rfl

theorem public_keeps_words (change : Edit) (named : change.isPublic = true) (target : Value) :
    change.respells target = false := by
  cases change with
  | setField field value =>
      have other (name : String) (own : name.toList.head? = some '_') : (field == name) = false := by
        rw [beq_eq_false_iff_ne]
        rintro rfl
        rw [Edit.isPublic, own] at named
        exact absurd named (by decide)
      unfold Edit.respells
      split
      · rename_i same
        obtain ⟨rfl, _⟩ := Edit.setField.inj same
        rw [other "_value_" rfl, other Value.attributesField rfl]
        rfl
      · rfl
  | _ => rfl

theorem put_entry_values {κ : Type} [BEq κ] (key : κ) (value : Value) (entries : List (κ × Value)) :
    ∀ part ∈ (putEntry key value entries).map Prod.snd, part ∈ entries.map Prod.snd ∨ part = value := by
  induction entries with
  | nil => exact fun part member => .inr (List.mem_singleton.mp member)
  | cons entry rest hypothesis =>
      obtain ⟨known, old⟩ := entry
      intro part member
      rw [putEntry] at member
      split at member
      · rcases List.mem_cons.mp member with same | later
        · exact .inr same
        · exact .inl (List.mem_cons_of_mem old later)
      · rcases List.mem_cons.mp member with same | later
        · exact .inl (same ▸ List.mem_cons_self)
        · exact (hypothesis part later).imp_left (List.mem_cons_of_mem old)

-- The object after an edit is the same sort of object, of the same pieces and what was put in.
structure Value.Edited (content changed value : Value) : Prop where
  editable : changed.isEditable = true
  own : changed.handle? = content.handle?
  is : changed.shape? = content.shape?
  parts : ∀ part ∈ changed.pieces, part ∈ content.pieces ∨ part = value

theorem same_edited (content value : Value) (editable : content.isEditable = true) : content.Edited content value :=
  ⟨editable, rfl, rfl, fun _ member => .inl member⟩

theorem assigning_edited (content key value changed : Value) (editable : content.isEditable = true)
    (done : content.assigning key value = .ok changed) : content.Edited changed value := by
  unfold Value.assigning at done
  cases content with
  | list handle items =>
      cases found : key.index? with
      | none =>
          rw [found] at done
          cases done
      | some index =>
          rw [found] at done
          simp only at done
          split at done
          · cases done
          · split at done
            · cases done
              exact ⟨rfl, rfl, rfl, fun part member => List.mem_or_eq_of_mem_set member⟩
            · cases done
  | table handle entries =>
      simp only [Value.putKey] at done
      cases checked : key.checkHashable with
      | error fault =>
          rw [checked] at done
          cases done
      | ok _ =>
          rw [checked] at done
          cases done
          exact ⟨rfl, rfl, rfl, put_entry_values key value entries⟩
  | settings handle attributes =>
      simp only at done
      split at done <;> cases done
  | holder handle attributes =>
      simp only at done
      split at done <;> cases done
  | _ => cases editable

theorem appending_edited (content value changed : Value) (editable : content.isEditable = true)
    (done : content.appending value = .ok changed) : content.Edited changed value := by
  cases content with
  | list handle items =>
      cases done
      exact ⟨rfl, rfl, rfl, fun part member => (List.mem_append.mp member).imp_right List.mem_singleton.mp⟩
  | table handle entries => cases done
  | settings handle attributes => cases done
  | holder handle attributes => cases done
  | _ => cases editable

theorem assigning_field_edited (content : Value) (field : String) (value changed : Value)
    (editable : content.isEditable = true) (done : content.assigningField field value = .ok changed) :
    content.Edited changed value := by
  unfold Value.assigningField at done
  cases content with
  | settings handle attributes =>
      simp only [Value.record?] at done
      split at done
      · cases done
      · split at done
        · cases done
        · split at done
          · cases refused : Value.refuseAttributes value with
            | some fault =>
                rw [refused] at done
                cases done
            | none =>
                rw [refused] at done
                cases done
                exact same_edited _ value rfl
          · cases done
            exact ⟨rfl, rfl, rfl, put_entry_values field value attributes⟩
  | holder handle attributes =>
      simp only [Value.record?] at done
      split at done
      · cases done
      · split at done
        · cases done
        · cases done
          exact ⟨rfl, rfl, rfl, put_entry_values field value attributes⟩
  | list handle items =>
      simp only [Value.record?] at done
      split at done
      · cases done
      · cases done
  | table handle entries =>
      simp only [Value.record?] at done
      split at done
      · cases done
      · cases done
  | _ => cases editable

theorem apply_edited (content : Value) (change : Edit) (changed : Value) (editable : content.isEditable = true)
    (done : change.apply content = .ok changed) : content.Edited changed change.value := by
  cases change with
  | put key value => exact assigning_edited content key value changed editable done
  | append value => exact appending_edited content value changed editable done
  | setField field value => exact assigning_field_edited content field value changed editable done

namespace Cells

theorem sound_at {cells : Cells} (sound : cells.Sound) (handle : Nat) (object : Value)
    (found : cells.at? handle = some object) : cells[handle]? = some (.contents object) := by
  cases here : cells[handle]? with
  | none =>
      rw [at?, here] at found
      cases found
  | some cell =>
      obtain ⟨content, rfl, _⟩ := sound handle cell here
      obtain rfl := Option.some.inj ((cell_content cells handle content here).symm.trans found)
      rfl

theorem retains_set {cells : Cells} (handle : Nat) (content changed : Value)
    (cell : cells[handle]? = some (.contents content)) (is : changed.shape? = content.shape?) :
    cells.Retains (cells.setIfInBounds handle (.contents changed)) := by
  refine ⟨by simp, fun place known here => ?_⟩
  by_cases same : handle = place
  · subst same
    obtain rfl : content = known := by simpa using cell.symm.trans here
    exact ⟨changed, by rw [Array.getElem?_setIfInBounds_self_of_lt (cell_present cell)], is⟩
  · exact ⟨known, by rw [Array.getElem?_setIfInBounds_ne same, here], rfl⟩

-- An edited object leaves the cells sound.
theorem sound_set {cells : Cells} (sound : cells.Sound) (handle : Nat) (content changed value : Value)
    (cell : cells[handle]? = some (.contents content)) (edited : content.Edited changed value)
    (placed : cells.Places cells.size value) : Sound (cells.setIfInBounds handle (.contents changed)) := by
  have retained := retains_set handle content changed cell edited.is
  have fills := sound_content sound cell
  intro place known here
  by_cases same : handle = place
  · subst same
    rw [Array.getElem?_setIfInBounds_self_of_lt (cell_present cell)] at here
    cases here
    refine ⟨changed, rfl, edited.own.trans fills.own, .inr ⟨edited.editable, fun part member => ?_⟩⟩
    rcases edited.parts part member with old | rfl
    · exact places_above (places_retained retained (fills_placed fills (cell_present cell) part old)) retained.size
    · exact places_above (places_retained retained placed) retained.size
  · rw [Array.getElem?_setIfInBounds_ne same] at here
    obtain ⟨other, rfl, otherFills⟩ := sound place known here
    exact ⟨other, rfl, fills_retained retained otherFills⟩

end Cells

namespace Workspace

theorem changed_sound {w later : Workspace} (sound : w.cells.Sound) (handle : Nat) (object : Value) (change : Edit)
    (named : change.isPublic = true) (placed : w.cells.Places w.cells.size change.value)
    (found : w.cells.at? handle = some object) (changed : w.Changed handle object change later) :
    later.cells.Sound ∧ later.fingerprints = w.fingerprints := by
  have cell := Cells.sound_at sound handle object found
  cases changed with
  | contents changed applied =>
      rcases (Cells.sound_content sound cell).parts with ⟨lasting, _, _⟩ | ⟨editable, _⟩
      · have behind := (lasting_apply object change changed lasting applied).2
        rw [public_unbacked change named object] at behind
        cases behind
      · exact ⟨Cells.sound_set sound handle object changed change.value cell
          (apply_edited object change changed editable applied) placed, rfl⟩
  | entry field value changed shown another table applied backed behind placed =>
      obtain ⟨shape, other, instead⟩ := backed
      cases cell.symm.trans instead

theorem with_value_public (change : Edit) (value : Value) : (change.withValue value).isPublic = change.isPublic := by
  cases change <;> rfl

theorem with_value_value (change : Edit) (value : Value) : (change.withValue value).value = value := by
  cases change <;> rfl

theorem edit_sound {w later : Workspace} (sound : w.cells.Sound) (target : Value) (change : Edit)
    (named : change.isPublic = true) (inHand : change.value.InHand w.cells) (done : w.edit target change = .ok later) :
    later.cells.Sound ∧ later.fingerprints = w.fingerprints := by
  obtain ⟨soundHere, stands⟩ := Cells.hold_sound sound inHand
  have namedHere : (change.withValue (change.value.hold.run w.cells).1).isPublic = true :=
    (with_value_public change _).trans named
  cases edit_cases rfl done with
  | behind handle object backing shape own found known => cases (public_unbacked _ namedHere object).symm.trans known
  | object handle object _ own found unbacked changed =>
      refine changed_sound (w := { w with cells := (change.value.hold.run w.cells).2 }) soundHere handle object _ namedHere
        ?_ found changed
      rw [with_value_value]
      exact stands.placed
  | word k field value word given => exact ⟨soundHere, rfl⟩
  | unkept => exact ⟨soundHere, rfl⟩

theorem edit_right {w later : Workspace} (right : w.RemembersRight) (target : Value) (change : Edit)
    (named : change.isPublic = true) (done : w.edit target change = .ok later)
    (same : later.fingerprints = w.fingerprints) : later.RemembersRight := by
  obtain ⟨cells, more, changes⟩ := edit_cells w later target change done
  refine right_kept right same fun handle anchored => changed_keeps more changes anchored fun place excepted => ?_
  exact absurd (excepted.1.symm.trans (public_keeps_entries change named)) (by decide)

theorem lookup_put_entries (taken known : List (Nat × Fingerprint)) (handle : Nat) (fingerprint : Fingerprint)
    (found : (taken.foldl (fun known entry => putEntry entry.1 entry.2 known) known).lookup handle = some fingerprint) :
    (handle, fingerprint) ∈ taken ∨ known.lookup handle = some fingerprint := by
  induction taken generalizing known with
  | nil => exact .inr found
  | cons entry rest hypothesis =>
      rcases hypothesis (putEntry entry.1 entry.2 known) found with later | here
      · exact .inl (List.mem_cons_of_mem entry later)
      · rw [lookup_put_entry] at here
        by_cases same : handle = entry.1
        · rw [if_pos same] at here
          obtain rfl := Option.some.inj here
          exact .inl (same ▸ List.mem_cons_self)
        · rw [if_neg same] at here
          exact .inr here

theorem frozen_content (content : Value) (handle : Nat) (own : content.handle? = some handle)
    (is : content.shape? = some .frozen) (lasting : content.isLasting = true) :
    ∃ entries, content = .frozen (some handle) entries := by
  cases content with
  | frozen known entries =>
      obtain rfl : known = some handle := own
      exact ⟨entries, rfl⟩
  | tuple known items => cases is
  | schema known s => cases is
  | combinator known c => cases is
  | property known p => cases is
  | customFormat known name => cases is
  | model known m => cases is
  | _ => cases lasting

-- What is taken of a frozen table is right, as nothing wrong is remembered of what it leads to.
theorem taken_right {w : Workspace} (sound : w.cells.Sound) (right : w.RemembersRight) (handle : Nat)
    (lacks : w.lacksFingerprint handle = true) (fingerprint : Fingerprint)
    (taken : w.takeFingerprint? handle = some fingerprint) :
    ∃ mark counted entries, fingerprint = .taken mark counted ∧
      w.cells[handle]? = some (.contents (.frozen (some handle) entries)) ∧
      w.cells.Anchored w.cells.size (.elsewhere handle .frozen) ∧
      ∃ fuel, handle < fuel ∧ w.unremembered.markOf fuel handle .frozen = .ok mark := by
  have object : (w.cells.at? handle).bind Value.shape? = some .frozen := by
    unfold lacksFingerprint at lacks
    split at lacks
    · assumption
    · assumption
    · cases lacks
  obtain ⟨content, found, is⟩ := Option.bind_eq_some_iff.mp object
  have cell := Cells.sound_at sound handle content found
  have fills := Cells.sound_content sound cell
  obtain ⟨mark, marked, rfl⟩ := Option.map_eq_some_iff.mp taken
  have digested : w.digestForm (w.cells.size + 2) (.elsewhere handle .frozen) = .ok mark := by
    cases here : w.digest (.elsewhere handle .frozen) with
    | error fault =>
        rw [here] at marked
        cases marked
    | ok other =>
        rw [here] at marked
        obtain rfl := Option.some.inj marked
        rw [← here, digest_held w _ _ (mention_rests handle .frozen)]
        rfl
  have placed : w.cells.Places w.cells.size (.elsewhere handle .frozen) :=
    .mention handle .frozen content (Cells.cell_present cell) cell is
  rcases anchored_or_unmarked sound right _ _ placed with anchored | unmarked
  · have lasting : content.isLasting = true := by
      rcases fills.parts with ⟨lasting, _⟩ | ⟨editable, _⟩
      · exact lasting
      · obtain ⟨⟨shape, known, changes⟩, _⟩ := editable_unmarked content editable
        obtain rfl := Option.some.inj (is.symm.trans known)
        cases changes
    obtain ⟨entries, rfl⟩ := frozen_content content handle fills.own is lasting
    refine ⟨mark, _, entries, rfl, cell, anchored, w.cells.size + 1, Nat.lt_succ_of_lt (Cells.cell_present cell), ?_⟩
    rw [← digested]
    exact (remembered_agree right anchored (w.cells.size + 2) (w.cells.size + 2) (by omega) (by omega)).symm
  · obtain ⟨name, reported⟩ := unmarked.reported _ (Nat.le_refl _)
    nomatch digested.symm.trans reported

theorem remember_right {w : Workspace} (sound : w.cells.Sound) (right : w.RemembersRight) (value : Value) :
    (w.remember value).RemembersRight := by
  intro handle fingerprint known
  rcases lookup_put_entries _ _ handle fingerprint known with taken | old
  · obtain ⟨handle', _, chosen⟩ := List.mem_filterMap.mp taken
    split at chosen
    · rename_i lacks
      obtain ⟨fingerprint', found, same⟩ := Option.map_eq_some_iff.mp chosen
      obtain ⟨rfl, rfl⟩ := Prod.mk.inj same
      rw [Bool.and_eq_true] at lacks
      exact taken_right sound right _ lacks.2 _ found
    · cases chosen
  · exact right handle fingerprint old

-- One public step leaves the cells sound and what is remembered right.
theorem public_step_kept {w later : Workspace} (sound : w.cells.Sound) (right : w.RemembersRight)
    (step : w.PublicStep later) : later.cells.Sound ∧ later.RemembersRight := by
  cases step with
  | set name value inHand =>
      exact ⟨(Cells.hold_sound sound inHand).1, right_kept right rfl fun _ anchored =>
        extends_keeps (hold_extends value w.cells) anchored⟩
  | remember value => exact ⟨sound, remember_right sound right value⟩
  | edit target change named inHand =>
      unfold attempt
      split
      · rename_i later done
        obtain ⟨soundLater, same⟩ := edit_sound sound target change named inHand done
        exact ⟨soundLater, edit_right right target change named done same⟩
      · exact ⟨sound, right⟩

theorem public_step_spares {w later : Workspace} (step : w.PublicStep later) (lasting : List Value) :
    w.SparingStep lasting later := by
  cases step with
  | set name value _ => exact .set name value
  | remember value => exact .remember value
  | edit target change named _ =>
      refine .edit target change (fun replaces => ?_) (public_keeps_words change named target)
      exact absurd (replaces.symm.trans (public_keeps_entries change named)) (by decide)

theorem start_sound : Cells.Sound #[] := by
  intro handle cell here
  rw [Array.getElem?_eq_none (Nat.zero_le handle)] at here
  cases here

theorem start_right : RemembersRight {} := by
  intro handle fingerprint known
  cases known

-- All through a public session, the cells are sound and nothing wrong is remembered.
theorem public_session_kept {w : Workspace} {lasting : List Value} (session : w.PublicSession lasting) :
    w.Session lasting ∧ w.cells.Sound ∧ w.RemembersRight := by
  induction session with
  | start => exact ⟨.start, start_sound, start_right⟩
  | keep w lasting name node _ built hypothesis =>
      obtain ⟨before, sound, right⟩ := hypothesis
      have inHand := Cells.solid_in_hand (solid_when_built (session_anchored before) built)
      exact ⟨.keep w lasting name node before built, public_step_kept sound right (.set name node inHand)⟩
  | step w later lasting _ step hypothesis =>
      obtain ⟨before, sound, right⟩ := hypothesis
      exact ⟨.step w later lasting before (public_step_spares step lasting), public_step_kept sound right step⟩

end Workspace
end Schemata
