import Schemata.Sorting.Merge

set_option autoImplicit false

/-!
Sorting by a comparison that may fail. The runs that a list already consists of are found one after
the other, a short one is filled up by insertion, and neighbouring runs are merged. Equal values stay
in the order in which they are given. The first comparison that fails is the answer, so the order of
the comparisons is a part of what is defined here.
-/

namespace Schemata.Sorting

section

variable {α ε : Type} (before : α → α → Except ε Bool)

-- Goes on with a run as long as its direction lasts; the run is in reverse, its last value apart.
def extendRun (descending : Bool) (last : α) (earlier : List α) : List α → Except ε (List α × List α)
  | [] => .ok (last :: earlier, [])
  | value :: rest => do
    if (← before value last) == descending then extendRun descending value (last :: earlier) rest
    else return (last :: earlier, value :: rest)

/-- The longest run that a list begins with, in ascending order, and what is left of the list. Two
values that are the same end a descending run. -/
def leadingRun : List α → Except ε (List α × List α)
  | first :: second :: rest => do
    let descending ← before second first
    let (run, others) ← extendRun before descending second [first] rest
    return (if descending then run else run.reverse, others)
  | values => .ok (values, [])

-- Puts a value behind all that it does not come before.
def insertSorted (sorted : Array α) (value : α) : Except ε (Array α) := do
  let place ← passingWithin (fun other => (before value other).map not) .upper sorted 0 sorted.size
  return (sorted.toList.take place ++ value :: sorted.toList.drop place).toArray

/-- A sorted part of a list, with the depth of the boundary behind it. -/
structure Run (α : Type) where
  start : Nat
  values : List α
  depth : Nat := 0

/-- How many halvings of the whole it takes to part two neighbours, given by twice the places of their
middles. -/
def boundaryDepth (total : Nat) : Nat → Nat → Nat → Nat
  | 0, _, _ => 0
  | fuel + 1, left, right =>
    if total ≤ left then boundaryDepth total fuel (2 * (left - total)) (2 * (right - total)) + 1
    else if total ≤ right then 1
    else boundaryDepth total fuel (2 * left) (2 * right) + 1

def Run.boundary (total : Nat) (run : Run α) (next : Nat) : Nat :=
  let left := 2 * run.start + run.values.length
  boundaryDepth total total left (left + run.values.length + next)

-- Merges the last runs while the boundary between them lies deeper than the new one.
def settle (depth : Nat) : List (Run α) → Patient ε (List (Run α))
  | last :: previous :: rest => do
    if previous.depth ≤ depth then return last :: previous :: rest
    let values ← mergeRuns before previous.values last.values
    settle depth ({ previous with values := values } :: rest)
  | runs => return runs
termination_by runs => runs.length

-- Adds a run behind others, the last of which comes first.
def addRun (total : Nat) (runs : List (Run α)) (values : List α) : Patient ε (List (Run α)) :=
  match runs with
  | [] => return [{ start := 0, values := values }]
  | last :: earlier => do
    let depth := last.boundary total values.length
    match ← settle before depth (last :: earlier) with
    | [] => return [{ start := 0, values := values }]
    | last :: earlier =>
      return { start := last.start + last.values.length, values := values } ::
        { last with depth := depth } :: earlier

-- Merges all runs, the last of which comes first.
def mergeAll : List (Run α) → Patient ε (List α)
  | [] => return []
  | [run] => return run.values
  | [last, first] => mergeRuns before first.values last.values
  | last :: middle :: first :: rest => do
    if first.values.length < last.values.length then
      let values ← mergeRuns before first.values middle.values
      mergeAll (last :: { first with values := values } :: rest)
    else
      let values ← mergeRuns before middle.values last.values
      mergeAll ({ middle with values := values } :: first :: rest)
termination_by runs => runs.length

-- From this many values on a list is sorted in more than one run.
def longestRun : Nat := 64

-- A number of values halved until it is small, and rounded up if any of the halvings left one over.
def halved (leftOver : Bool) (count : Nat) : Nat :=
  if count < longestRun then (if leftOver then count + 1 else count)
  else halved (leftOver || count % 2 == 1) (count / 2)
termination_by count
decreasing_by unfold longestRun at *; omega

/-- How long a run has to be, so that all runs are about as long. -/
def shortestRun (count : Nat) : Nat := halved false count

-- Finds the runs of a list, with one unit of fuel for each.
def collectRuns (total shortest : Nat) : Nat → List (Run α) → List α → Patient ε (List (Run α))
  | 0, runs, _ => return runs
  | _, runs, [] => return runs
  | fuel + 1, runs, values => do
    let (run, others) ← leadingRun before values
    let missing := shortest - run.length
    let filling : Except ε (Array α) := (others.take missing).foldlM (insertSorted before) run.toArray
    let filled ← filling
    collectRuns total shortest fuel (← addRun before total runs filled.toList) (others.drop missing)

def sortBy (values : List α) : Except ε (List α) := do
  let total := values.length
  let sorting : Patient ε (List α) := do
    mergeAll before (← collectRuns before total (shortestRun total) total [] values)
  sorting.run' usualWins

end

end Schemata.Sorting
