import Schemata.Proofs.Held
import Schemata.Proofs.Marking
import Schemata.Workspace

set_option autoImplicit false

/-!
Fingerprints of anchored values. An anchored value has a fingerprint, which depends on nothing but the cells that it
leads to: neither on what other cells there are, nor on which fingerprints are remembered, as long as these are right.
-/

namespace Schemata

theorem in_place_whole (value : Value) (inPlace : value.InPlace) : value.form.Whole := by
  induction inPlace with
  | intro value unheld rigid keys _ hypothesis =>
      exact pieces_composed value (rigid_lasting value unheld rigid) keys hypothesis

theorem lasting_composed (content : Value) (lasting : content.isLasting = true) (keys : content.PlainKeys) :
    content.form.Composed fun form => ∃ part ∈ content.pieces, form = part.form :=
  pieces_composed content (fun _ _ => lasting) keys fun part member => .given _ ⟨part, member, rfl⟩

theorem lasting_unshown (content : Value) (lasting : content.isLasting = true) (table : Nat) (other : Form) :
    content.form ≠ .showing table other := by
  cases content with
  | combinator handle c =>
      obtain ⟨labels, alternatives⟩ := c
      nofun
  | property handle p =>
      obtain ⟨required, name, schema⟩ := p
      nofun
  | model handle m =>
      obtain ⟨definitions, root⟩ := m
      nofun
  | tuple handle items => nofun
  | frozen handle entries => nofun
  | schema handle s => nofun
  | customFormat handle name => nofun
  | _ => cases lasting

-- A mention is anchored right above what it mentions.
theorem anchored_right_above {cells : Cells} {bound handle : Nat} {shape : Shape}
    (anchored : cells.Anchored bound (.elsewhere handle shape)) :
    cells.Anchored (handle + 1) (.elsewhere handle shape) := by
  cases anchored with
  | inPlace _ _ here => exact absurd here (in_place_unmentioned handle shape)
  | mention _ _ _ content _ cell own is lasting keys parts =>
      exact .mention (handle + 1) handle shape content (Nat.lt_succ_self handle) cell own is lasting keys parts

namespace Workspace

-- The fingerprint of an object that is elsewhere.
def markOf (w : Workspace) (fuel handle : Nat) (shape : Shape) : Except Fault UInt64 :=
  w.digestForm (fuel + 1) (.elsewhere handle shape)

theorem mark_taken (w : Workspace) (fuel handle : Nat) (shape : Shape) (mark : UInt64) (counted : Bool)
    (known : w.fingerprints.lookup handle = some (.taken mark counted)) : w.markOf fuel handle shape = .ok mark := by
  rw [markOf, digestForm, Form.digestBy, known]

theorem mark_entered (w : Workspace) (fuel handle : Nat) (shape : Shape) (content : Value)
    (cell : w.cells[handle]? = some (.contents content)) (own : ∀ table other, content.form ≠ .showing table other)
    (none : w.fingerprints.lookup handle = none) : w.markOf fuel handle shape = w.digestForm fuel content.form := by
  have entered : w.cells.contents (.elsewhere handle shape) = content.form := by
    rw [Cells.contents, Cells.exposed, cell_content w.cells handle content cell, Option.map_some]
    split
    · rename_i table other same
      exact absurd (Option.some.inj same) (own table other)
    · rename_i form _ same
      exact (Option.some.inj same).symm
    · rename_i same
      nomatch same
  rw [markOf, digestForm, Form.digestBy, none, cell_content w.cells handle content cell]
  simp only [entered]

-- Nothing but fingerprints that were taken is remembered.
def OnlyTaken (w : Workspace) : Prop :=
  ∀ handle fingerprint, w.fingerprints.lookup handle = some fingerprint →
    ∃ mark counted, fingerprint = .taken mark counted

theorem anchored_marked {w : Workspace} (only : w.OnlyTaken) {bound : Nat} {value : Value}
    (anchored : w.cells.Anchored bound value) :
    ∀ fuel, bound < fuel → ∃ mark, w.digestForm fuel value.form = .ok mark := by
  induction anchored with
  | inPlace bound value here =>
      intro fuel enough
      obtain ⟨fuel, rfl⟩ : ∃ less, fuel = less + 1 := ⟨fuel - 1, by omega⟩
      exact whole_marked (in_place_whole value here) (w.markOf fuel)
  | mention bound handle shape content below cell own is lasting keys parts hypothesis =>
      intro fuel enough
      obtain ⟨fuel, rfl⟩ : ∃ less, fuel = less + 2 := ⟨fuel - 2, by omega⟩
      change ∃ mark, w.markOf (fuel + 1) handle shape = .ok mark
      cases known : w.fingerprints.lookup handle with
      | some fingerprint =>
          obtain ⟨mark, counted, rfl⟩ := only handle fingerprint known
          exact ⟨mark, w.mark_taken (fuel + 1) handle shape mark counted known⟩
      | none =>
          rw [w.mark_entered (fuel + 1) handle shape content cell (lasting_unshown content lasting) known]
          refine composed_marked (w.markOf fuel) (lasting_composed content lasting keys) ?_
          rintro _ ⟨part, member, rfl⟩
          exact hypothesis part member (fuel + 1) (by omega)

-- The fingerprints of one value in two workspaces, where those of all objects that may be remembered agree.
theorem digest_agree (w later : Workspace) {bound : Nat} {value : Value} (anchored : w.cells.Anchored bound value) :
    w.cells.Keeps later.cells value →
      (∀ handle, w.cells.LeadsTo value handle →
        (w.fingerprints.lookup handle = none ∧ later.fingerprints.lookup handle = none) ∨
          ∀ shape fuel fuel', handle < fuel → handle < fuel' →
            later.markOf fuel' handle shape = w.markOf fuel handle shape) →
      ∀ fuel fuel', bound < fuel → bound < fuel' →
        later.digestForm fuel' value.form = w.digestForm fuel value.form := by
  induction anchored with
  | inPlace bound value here =>
      intro _ _ fuel fuel' enough enough'
      obtain ⟨fuel, rfl⟩ : ∃ less, fuel = less + 1 := ⟨fuel - 1, by omega⟩
      obtain ⟨fuel', rfl⟩ : ∃ less, fuel' = less + 1 := ⟨fuel' - 1, by omega⟩
      exact whole_agree (in_place_whole value here) (w.markOf fuel) (later.markOf fuel')
  | mention bound handle shape content below cell own is lasting keys parts hypothesis =>
      intro kept meet fuel fuel' enough enough'
      obtain ⟨fuel, rfl⟩ : ∃ less, fuel = less + 2 := ⟨fuel - 2, by omega⟩
      obtain ⟨fuel', rfl⟩ : ∃ less, fuel' = less + 2 := ⟨fuel' - 2, by omega⟩
      change later.markOf (fuel' + 1) handle shape = w.markOf (fuel + 1) handle shape
      obtain ⟨none, noneLater⟩ | same := meet handle (.here handle shape)
      · have there : later.cells[handle]? = some (.contents content) :=
          (kept.same handle (.here handle shape)).trans cell
        have unshown := lasting_unshown content lasting
        rw [w.mark_entered (fuel + 1) handle shape content cell unshown none,
          later.mark_entered (fuel' + 1) handle shape content there unshown noneLater]
        refine composed_agree (lasting_composed content lasting keys) (w.markOf fuel) (later.markOf fuel') ?_
        rintro _ ⟨part, member, rfl⟩
        refine hypothesis part member (keeps_part kept cell member) (fun inner leads => meet inner ?_) (fuel + 1)
          (fuel' + 1) (by omega) (by omega)
        exact .behind handle shape content part inner (cell_content w.cells handle content cell) member leads
      · exact same shape (fuel + 1) (fuel' + 1) (by omega) (by omega)

-- The workspace without any fingerprints.
def unremembered (w : Workspace) : Workspace := { w with fingerprints := [] }

-- What is remembered of a frozen table is what its fingerprint would be if nothing were remembered.
def RemembersRight (w : Workspace) : Prop :=
  ∀ handle fingerprint, w.fingerprints.lookup handle = some fingerprint →
    ∃ mark counted entries, fingerprint = .taken mark counted ∧
      w.cells[handle]? = some (.contents (.frozen (some handle) entries)) ∧
      w.cells.Anchored w.cells.size (.elsewhere handle .frozen) ∧
      ∃ fuel, handle < fuel ∧ w.unremembered.markOf fuel handle .frozen = .ok mark

theorem right_taken {w : Workspace} (right : w.RemembersRight) : w.OnlyTaken := by
  intro handle fingerprint known
  obtain ⟨mark, counted, _, taken, _⟩ := right handle fingerprint known
  exact ⟨mark, counted, taken⟩

-- Without fingerprints, neither the fuel nor the other cells matter.
theorem unremembered_agree {w later : Workspace} {bound : Nat} {value : Value}
    (anchored : w.cells.Anchored bound value) (kept : w.cells.Keeps later.cells value) (fuel fuel' : Nat)
    (enough : bound < fuel) (enough' : bound < fuel') :
    later.unremembered.digestForm fuel' value.form = w.unremembered.digestForm fuel value.form :=
  digest_agree w.unremembered later.unremembered anchored kept (fun _ _ => .inl ⟨rfl, rfl⟩) fuel fuel' enough enough'

-- The same for an object that is mentioned.
theorem unremembered_mark {w later : Workspace} {bound handle : Nat} {shape : Shape}
    (anchored : w.cells.Anchored bound (.elsewhere handle shape))
    (kept : w.cells.Keeps later.cells (.elsewhere handle shape)) (fuel fuel' : Nat) (enough : handle < fuel)
    (enough' : handle < fuel') :
    later.unremembered.markOf fuel' handle shape = w.unremembered.markOf fuel handle shape :=
  unremembered_agree (anchored_right_above anchored) kept (fuel + 1) (fuel' + 1) (Nat.succ_lt_succ enough)
    (Nat.succ_lt_succ enough')

theorem remembered_agree {w : Workspace} (right : w.RemembersRight) {bound : Nat} {value : Value}
    (anchored : w.cells.Anchored bound value) (fuel fuel' : Nat) (enough : bound < fuel) (enough' : bound < fuel') :
    w.digestForm fuel' value.form = w.unremembered.digestForm fuel value.form := by
  refine digest_agree w.unremembered w anchored (extends_keeps (extends_refl _) anchored) ?_ fuel fuel' enough
    enough'
  intro handle _
  cases known : w.fingerprints.lookup handle with
  | none => exact .inl ⟨rfl, rfl⟩
  | some fingerprint =>
      refine .inr fun shape fuel fuel' enough enough' => ?_
      obtain ⟨mark, counted, entries, rfl, cell, there, most, more, marked⟩ := right handle fingerprint known
      have unshown (table : Nat) (other : Form) : (Value.frozen (some handle) entries).form ≠ .showing table other :=
        nofun
      rw [w.mark_taken fuel' handle shape mark counted known, ← marked,
        w.unremembered.mark_entered fuel handle shape _ cell unshown rfl,
        ← w.unremembered.mark_entered fuel handle .frozen _ cell unshown rfl]
      exact unremembered_mark there (extends_keeps (extends_refl _) there) fuel most enough more

-- The fingerprint of an anchored value, where what it leads to is kept and nothing wrong is remembered.
theorem digest_kept {w later : Workspace} (right : w.RemembersRight) (rightLater : later.RemembersRight) {bound : Nat}
    {value : Value} (anchored : w.cells.Anchored bound value) (kept : w.cells.Keeps later.cells value)
    (fuel fuel' : Nat) (enough : bound < fuel) (enough' : bound < fuel') :
    later.digestForm fuel' value.form = w.digestForm fuel value.form :=
  calc later.digestForm fuel' value.form = later.unremembered.digestForm fuel' value.form :=
        remembered_agree rightLater (anchored_kept anchored kept) fuel' fuel' enough' enough'
    _ = w.unremembered.digestForm fuel value.form := unremembered_agree anchored kept fuel fuel' enough enough'
    _ = w.digestForm fuel value.form := (remembered_agree right anchored fuel fuel enough enough).symm

end Workspace
end Schemata
