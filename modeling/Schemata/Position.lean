import Schemata.Fault

set_option autoImplicit false

/-!
Positions in a sequence. A position counts from the start, or from the end if it is negative, and it
has to fit into a machine word before it is looked at.
-/

namespace Schemata

-- A truth value stands for one or zero.
def Scalar.index? : Scalar → Option Int
  | .int n => some n
  | .bool b => some (if b then 1 else 0)
  | _ => none

def Value.index? : Value → Option Int
  | .scalar s => s.index?
  | _ => none

namespace Position

-- Positions that fit into a machine word lie below this one.
def limit : Int := Int.pow 2 63

def fits (index : Int) : Bool := decide (-limit ≤ index ∧ index < limit)

/-- The place of a position in a sequence; negative positions count from the end. -/
def place? (length : Nat) (index : Int) : Option Nat :=
  let position := if index < 0 then index + (length : Int) else index
  if 0 ≤ position ∧ position < (length : Int) then some position.toNat else none

def item {α : Type} (sequence : String) (items : List α) (index : Int) : Except Fault α :=
  if !fits index then .error .hugeIndex
  else
    match (place? items.length index).bind fun place => items[place]? with
    | some found => .ok found
    | none => .error (.outOfRange sequence)

end Position
end Schemata
