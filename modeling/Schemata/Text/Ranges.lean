set_option autoImplicit false

/-!
Sets of code points as ascending runs, each given by its first and last member.
-/

namespace Schemata.Text

-- Runs that begin above the point are not looked at.
def within (point : Nat) : List (Nat × Nat) → Bool
  | [] => false
  | (first, last) :: rest => decide (first ≤ point) && (decide (point ≤ last) || within point rest)

end Schemata.Text
