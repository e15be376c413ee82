import Schemata.Sorting.Leading

set_option autoImplicit false

/-!
The merge of two neighbouring runs by a comparison that may fail. What is in place already is left
out first; the rest is merged from the end at which the shorter run is. As long as the runs take
turns, their first values are compared one by one; when one of them has won often enough in a row, it
is searched how far it goes on winning. How often is enough changes with the success of the search.
-/

namespace Schemata.Sorting

/-- The end of two runs from which they are merged. -/
inductive Side where
  | front | back

def Side.middle : Side → Middle
  | .front => .upper
  | .back => .lower

/-- Two runs on the way, both seen from the side of the merge; what is merged has its last value first. -/
structure Merging (α : Type) where
  merged : List α
  short : List α
  long : List α

/-- One by one, with the wins in a row and the run that has them; or in leaps. -/
inductive Pace where
  | single (wins : Nat) (byLong : Bool)
  | leaping

-- The patience from which on a run goes on winning, and the wins that make a leap worth it.
def usualWins : Nat := 7

/-- A search counts on the number of wins in a row that is enough for it. -/
abbrev Patient (ε : Type) := StateT Nat (Except ε)

namespace Merging

variable {α : Type}

-- The order is known: the long run is used up, or only the last value of the short one is left.
def isSettled (m : Merging α) : Bool :=
  match m.long, m.short with
  | [], _ => true
  | _, [] => true
  | _, [_] => true
  | _, _ => false

def finished (m : Merging α) : List α := m.merged.reverse ++ m.long ++ m.short

def moveShort (m : Merging α) (count : Nat) : Merging α :=
  { m with merged := (m.short.take count).reverse ++ m.merged, short := m.short.drop count }

def moveLong (m : Merging α) (count : Nat) : Merging α :=
  { m with merged := (m.long.take count).reverse ++ m.merged, long := m.long.drop count }

end Merging

section

variable {α ε : Type} (before : α → α → Except ε Bool)

-- Whether a value of the long run goes in front of one of the short run, as seen from the side.
def Side.longFirst (side : Side) (long short : α) : Except ε Bool :=
  match side with
  | .front => before long short
  | .back => before short long

-- Moves what the short run wins against the first value of the long one, and then that value.
def Side.leapShort (side : Side) (m : Merging α) : Except ε (Nat × Merging α) :=
  match m.isSettled, m.long with
  | false, first :: _ => do
    let wins ← passing (fun value => (side.longFirst before first value).map not) side.middle m.short.toArray
    let moved := m.moveShort wins
    return (wins, if moved.isSettled then moved else moved.moveLong 1)
  | _, _ => .ok (0, m)

-- Moves what the long run wins against the first value of the short one, and then that value.
def Side.leapLong (side : Side) (m : Merging α) : Except ε (Nat × Merging α) :=
  match m.isSettled, m.short with
  | false, first :: _ => do
    let wins ← passing (fun value => side.longFirst before value first) side.middle m.long.toArray
    let moved := m.moveLong wins
    return (wins, if moved.isSettled then moved else moved.moveShort 1)
  | _, _ => .ok (0, m)

-- One leap with each run, and whether one of them was worth it.
def Side.leap (side : Side) (m : Merging α) : Except ε (Bool × Merging α) := do
  match side with
  | .front =>
    let (short, m) ← side.leapShort before m
    let (long, m) ← side.leapLong before m
    return (usualWins ≤ short || usualWins ≤ long, m)
  | .back =>
    let (long, m) ← side.leapLong before m
    let (short, m) ← side.leapShort before m
    return (usualWins ≤ short || usualWins ≤ long, m)

-- Merges what is not settled yet, with one unit of fuel for each of its values.
def Side.merge (side : Side) : Nat → Pace → Merging α → Patient ε (List α)
  | 0, _, m => return m.finished
  | fuel + 1, pace, m => do
    match m.isSettled, pace, m.short, m.long with
    | false, .single wins byLong, short :: _, long :: _ =>
      let longWins ← side.longFirst before long short
      let wins := if longWins == byLong then wins + 1 else 1
      let enough ← get
      side.merge fuel (if enough ≤ wins then .leaping else .single wins longWins)
        (if longWins then m.moveLong 1 else m.moveShort 1)
    | false, .leaping, _, _ =>
      let (worth, m) ← side.leap before m
      if m.isSettled then return m.finished
      if worth then
        modify fun enough => max 1 (enough - 1)
        side.merge fuel .leaping m
      else
        modify (· + 1)
        side.merge fuel (.single 0 false) m
    | _, _, _, _ => return m.finished

/-- The merge of two runs in order; of equal values those of the earlier run come first. -/
def mergeRuns (earlier later : List α) : Patient ε (List α) := do
  match later, earlier.getLast? with
  | first :: _, some last =>
    let placed ← passing (fun value => (before first value).map not) .upper earlier.toArray
    let (ahead, earlier) := earlier.splitAt placed
    if earlier.isEmpty then return ahead ++ later
    let beyond ← passing (fun value => (before value last).map not) .lower later.reverse.toArray
    let (later, behind) := later.splitAt (later.length - beyond)
    let fuel := earlier.length + later.length
    let merged ←
      if earlier.length ≤ later.length then
        Side.front.merge before fuel (.single 0 false) (Merging.moveLong ⟨[], earlier, later⟩ 1)
      else
        List.reverse <$>
          Side.back.merge before fuel (.single 0 false) (Merging.moveLong ⟨[], later.reverse, earlier.reverse⟩ 1)
    return ahead ++ merged ++ behind
  | _, _ => return earlier ++ later

end

end Schemata.Sorting
