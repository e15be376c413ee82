set_option autoImplicit false

/-!
How many values at the beginning of an array pass a test, where those that pass come first. The test
may fail, and which values it is put to first is a part of what is defined here: strides that grow
find an interval, and halving it finds the place.
-/

namespace Schemata.Sorting

/-- Which of the two values in the middle of an even number of them is meant. -/
inductive Middle where
  | lower | upper

def Middle.between (middle : Middle) (low high : Nat) : Nat :=
  match middle with
  | .lower => low + (high - low - 1) / 2
  | .upper => low + (high - low) / 2

section

variable {α ε : Type} (test : α → Except ε Bool)

/-- The place from `low` to `high` where the values that pass end. -/
def passingWithin (middle : Middle) (values : Array α) (low high : Nat) : Except ε Nat :=
  if high ≤ low then .ok low
  else
    match values[middle.between low high]? with
    | none => .ok low
    | some value => do
      if ← test value then passingWithin middle values (middle.between low high + 1) high
      else passingWithin middle values low (middle.between low high)
termination_by high - low
decreasing_by all_goals cases middle <;> simp only [Middle.between] <;> omega

-- The last place that is seen to pass, and one that does not or is behind the end.
def stride (values : Array α) (passed next : Nat) : Except ε (Nat × Nat) :=
  if next < values.size then
    match values[next]? with
    | none => .ok (passed, next)
    | some value => do
      if ← test value then stride values next (2 * next + 1) else return (passed, next)
  else .ok (passed, values.size)
termination_by values.size - next
decreasing_by omega

/-- The number of values at the beginning that pass. -/
def passing (middle : Middle) (values : Array α) : Except ε Nat :=
  match values[0]? with
  | none => .ok 0
  | some first => do
    if ← test first then
      let (passed, bound) ← stride test values 0 1
      passingWithin test middle values (passed + 1) bound
    else return 0

end

end Schemata.Sorting
