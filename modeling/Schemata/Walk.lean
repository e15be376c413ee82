import Schemata.Tour

set_option autoImplicit false

/-!
The walk through a tree: every node with its pointer. What is wanted of a node can be read from it
when it is visited, so that a fault of the reading comes before the faults of what is visited later.
-/

namespace Schemata

structure Visit where
  pointer : String
  node : Schema

-- The children of a node, placed below its pointer.
def Schema.childrenBelow (pointer : String) (s : Schema) (words : KindWords := ownWords) :
    Except Fault (List (Placed String)) :=
  (s.children words).map fun children =>
    children.map fun child => ⟨pointer ++ "/" ++ child.1.segment words, child.2⟩

theorem children_below_burden (words : KindWords) (pointer : String) (s : Schema) (found : List (Placed String))
    (below : s.childrenBelow pointer words = .ok found) : workload found < sizeOf s := by
  unfold Schema.childrenBelow at below
  cases read : s.children words with
  | error fault => simp [read, Except.map] at below
  | ok children =>
      have smaller := children_burden s words children read
      obtain rfl : children.map _ = found := by simpa [read, Except.map] using below
      simpa [workload, Function.comp_def] using smaller

/-- The tour by pointers, with what is read from each node. -/
def Tour.byPointer {β : Type} (read : Visit → Except Fault β) (words : KindWords := ownWords) : Tour String β :=
  { row := fun pointer s => read ⟨pointer, s⟩,
    below := fun pointer s => s.childrenBelow pointer words,
    shrinks := children_below_burden words }

/-- What is read from every node below a value, the value itself first. -/
def Value.walkReading {β : Type} (value : Value) (pointer : String) (read : Visit → Except Fault β)
    (words : KindWords := ownWords) : Except Fault (List β) :=
  ((Tour.byPointer read words).visit [⟨pointer, value⟩] #[]).map Array.toList

def Value.walk (value : Value) (pointer : String) (words : KindWords := ownWords) : Except Fault (List Visit) :=
  value.walkReading pointer .ok words

def rootPointer : String := "#"

end Schemata
