import Schemata.Proofs.Agreement
import Schemata.Proofs.Built
import Schemata.Proofs.Rendering
import Schemata.Proofs.Steps

set_option autoImplicit false

/-!
What is built lasts. In a session, values are built from what was built before, stored, edited and built from
again, in any order. Whatever a caller does to the containers that went into a node, to the node and to all that
is read from it, the node is seen as it was right after it was built, as long as nobody reaches behind a frozen
table that is part of it or gives a kind another value. Either of these does change what is seen.
-/

namespace Schemata

/-- Scalars and what builders made of values like these, with tuples of them and parts; some that were made
before are seen where they are held. -/
inductive Value.Built (cells : Cells) (lasting : List Value) : Value → Prop where
  | scalar (s : Scalar) : Built cells lasting (.scalar s)
  | group (items : List Value) (below : ∀ item ∈ items, Built cells lasting item) :
      Built cells lasting (.tuple none items)
  | call (builder : Builder) (args : Arguments) (node : Value) (typed : args.WellTyped)
      (plain : ∀ field ∉ Arguments.readFields, Built cells lasting (args.get field))
      (grouped : ∀ field ∈ ["enum", "sub_schemas"], ∀ tuple, (args.get field).toTuple = .ok tuple →
        Built cells lasting tuple)
      (mapped : ∀ field ∈ ["properties", "definitions"], ∀ entries, args.textMapping? field = some entries →
        ∀ entry ∈ entries, Built cells lasting entry.2)
      (made : (builder.apply args).value = .ok node) : Built cells lasting node
  | seen (limit : Nat) (held : Value) (member : held ∈ lasting) (positive : 0 < limit) :
      Built cells lasting (cells.view limit held)
  | part (value part : Value) (whole : Built cells lasting value) (member : part ∈ value.pieces) :
      Built cells lasting part

/-- What can come about when values are built and kept under names, between steps of any other sort. -/
inductive Workspace.Session : Workspace → List Value → Prop where
  | start : Session {} []
  | keep (w : Workspace) (lasting : List Value) (name : String) (node : Value) (before : Session w lasting)
      (built : node.Built w.cells lasting) : Session (w.set name node) ((node.hold.run w.cells).1 :: lasting)
  | step (w later : Workspace) (lasting : List Value) (before : Session w lasting) (step : w.SparingStep lasting later) :
      Session later lasting

theorem solid_when_built {cells : Cells} {lasting : List Value}
    (anchored : ∀ held ∈ lasting, cells.Anchored cells.size held) {value : Value} (built : value.Built cells lasting) :
    value.Solid cells := by
  induction built with
  | scalar s => exact scalar_solid cells s
  | group items _ hypothesis => exact tuple_solid cells items hypothesis
  | call builder args node typed _ _ _ made plain grouped mapped =>
      exact built_solid typed ⟨plain, grouped, mapped⟩ builder node made
  | seen limit held member positive => exact view_solid (anchored held member) limit positive
  | part value part _ member hypothesis => exact solid_parts hypothesis part member

-- All through a session, what was built and kept is anchored.
theorem session_anchored {w : Workspace} {lasting : List Value} (session : w.Session lasting) :
    ∀ held ∈ lasting, w.cells.Anchored w.cells.size held := by
  induction session with
  | start => exact List.forall_mem_nil _
  | keep w lasting name node _ built hypothesis =>
      have holds := hold_solid node w.cells (solid_when_built hypothesis built)
      refine List.forall_mem_cons.mpr ⟨holds.anchored, fun held member => ?_⟩
      exact anchored_extends (hold_extends node w.cells) (hypothesis held member)
  | step w later lasting _ step hypothesis =>
      exact fun held member => step_anchored step member (hypothesis held member)

-- A held value whose objects have had the same contents all the time; none of them is inside itself.
structure Workspace.Untouched (w later : Workspace) (other : Value) : Prop where
  held : other.IsHeld
  same : ∃ depth, other.form.Shared w.cells later.cells depth

-- All that a caller can tell of a held value is the same, by whatever words the kinds are told.
structure Workspace.TellsAlike (w later : Workspace) (held : Value) : Prop where
  dump : ∀ limit, 0 < limit → later.cells.view limit held = w.cells.view limit held
  walk : ∀ limit, 0 < limit → ∀ pointer words,
    (later.cells.view limit held).walk pointer words = (w.cells.view limit held).walk pointer words
  outline : ∀ limit, 0 < limit → ∀ words,
    (later.cells.view limit held).outline words = (w.cells.view limit held).outline words
  equality : ∀ other, w.Untouched later other →
    later.equals held other = w.equals held other ∧ later.equals other held = w.equals other held
  equalityOfViews : ∀ limit, 0 < limit → ∀ other : Value,
    (later.cells.view limit held).equals other = (w.cells.view limit held).equals other ∧
      other.equals (later.cells.view limit held) = other.equals (w.cells.view limit held)

theorem tells_alike {w later : Workspace} {held : Value} (anchored : w.cells.Anchored w.cells.size held)
    (rests : held.IsHeld) (kept : w.cells.Keeps later.cells held) : w.TellsAlike later held := by
  have seen (limit : Nat) (positive : 0 < limit) : later.cells.view limit held = w.cells.view limit held :=
    view_kept anchored kept limit limit positive positive
  have shared := anchored_shared anchored kept
  refine ⟨seen, ?_, ?_, fun other untouched => ?_, ?_⟩
  · exact fun limit positive pointer words => by rw [seen limit positive]
  · exact fun limit positive words => by rw [seen limit positive]
  · obtain ⟨depth, known⟩ := untouched.same
    exact ⟨equals_agree held other rests untouched.held kept.size _ depth shared known,
      equals_agree other held untouched.held rests kept.size depth _ known shared⟩
  · exact fun limit positive other => by rw [seen limit positive]; exact ⟨rfl, rfl⟩

end Schemata
