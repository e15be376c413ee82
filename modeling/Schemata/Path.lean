import Schemata.Cells
import Schemata.Finding

set_option autoImplicit false

/-!
Paths from a held object. What each step leads to is seen beginning with itself, also where it was cut
out of another view.
-/

namespace Schemata

-- A finding as it is seen beginning with itself, with the cells that hold it.
def Finding.entered (cells : Cells) (limit : Nat) : Finding → Finding × Cells
  | .value v =>
    let (held, cells) := v.hold.run cells
    (.value (cells.view limit held), cells)
  | finding => (finding, cells)

/-- What the last of some steps leads to. -/
def Cells.follow {σ : Type} (cells : Cells) (limit : Nat) (take : σ → Finding → Except Fault Finding) :
    List σ → Finding → Except Fault Finding
  | [], finding => .ok (finding.entered cells limit).1
  | step :: rest, finding => do
    let (seen, cells) := finding.entered cells limit
    follow cells limit take rest (← take step seen)

end Schemata
