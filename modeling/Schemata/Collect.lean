import Schemata.Form.Obstacle
import Schemata.Freeze
import Schemata.Read
import Schemata.Slots
import Schemata.Sorting

set_option autoImplicit false

/-!
Collections of values from whatever is given for one: sets, sorted lists and tables. Texts are
ordered by code points and numbers by amount, sequences of one sort item by item; anything else is
in no order, and which two values are found to be so first depends on how a list is sorted. A table
is made of a mapping, or of pairs.
-/

namespace Schemata

def Scalar.precedes? (a b : Scalar) : Option Bool :=
  match a.quantity?, b.quantity?, a.text?, b.text? with
  | some p, some q, _, _ => some (p.precedes q)
  | _, _, some s, some t => some (decide (s < t))
  | _, _, _, _ => none

-- Two values that have no order; holders are compared by their attributes, as tables. Two sequences
-- have one, unless one of them is not shown.
def Value.unordered (a b : Value) : Fault :=
  match a.shape?, b.shape? with
  | some .list, some .list => .unseen
  | some .tuple, some .tuple => .unseen
  | some .holder, some .holder => .unordered Shape.table.typeName Shape.table.typeName
  | _, _ => .unordered a.qualifiedTypeName b.qualifiedTypeName

mutual
def Value.precedes : Value → Value → Except Fault Bool
  | .list _ items, .list _ others => Value.precedesItems items others
  | .tuple _ items, .tuple _ others => Value.precedesItems items others
  | .scalar a, .scalar b =>
    match a.precedes? b with
    | some answer => .ok answer
    | none => .error (.unordered a.typeName b.typeName)
  | a, b => .error (a.unordered b)
-- The first items that differ decide, then the lengths.
def Value.precedesItems : List Value → List Value → Except Fault Bool
  | [], others => .ok (!others.isEmpty)
  | _ :: _, [] => .ok false
  | a :: as, b :: bs => do
    if a.isObject b then Value.precedesItems as bs
    else if ← a.equalsPart b then Value.precedesItems as bs
    else a.precedes b
end

namespace Value

/-- The values in order; equal ones stay as they are given. -/
def sorted (values : List Value) : Except Fault (List Value) := Sorting.sortBy Value.precedes values

def isMember (value : Value) (values : List Value) : Bool := values.any fun other => value.fits other

/-- Each of several equal values once; all of them need fingerprints. -/
def distinct (values : List Value) : Except Fault (List Value) := do
  let _ ← values.mapM checkHashable
  return values.foldl (fun kept value => if value.isMember kept then kept else kept ++ [value]) []

-- A value with its fingerprint, where that is the same in every run.
def marked? (value : Value) : Option (UInt64 × Value) :=
  if value.form.isCounted then value.form.digest.toOption.map fun mark => (mark, value) else none

/-- The members of a set that are no keys of a mapping, in the order in which they are met. The set is made
from `source`; members whose fingerprints are not known are met in the order in which they came. -/
def absentFrom (source mapping : Value) (members keys : List Value) : List Value :=
  let isTable (value : Value) : Bool := value.shape? == some .table
  match members.mapM marked? with
  | some marked =>
    (Slots.ofValues (isTable source) marked).outside (fun member => member.isMember keys)
      (if isTable mapping then some keys.length else none)
  | none => members.filter fun member => !member.isMember keys

def textsFrom (position : Nat) : List Value → Except Fault (List String)
  | [] => .ok []
  | value :: rest =>
    match value.text? with
    | some text => (textsFrom (position + 1) rest).map fun texts => text :: texts
    | none => .error (.itemNotText position value.qualifiedTypeName)

/-- A table takes what has a fingerprint for a key. -/
def putKey (key value : Value) (entries : List (Value × Value)) : Except Fault (List (Value × Value)) := do
  key.checkHashable
  return putEntry key value entries

def tableOf (pairs : List (Value × Value)) : Except Fault (List (Value × Value)) :=
  pairs.foldlM (fun entries pair => putKey pair.1 pair.2 entries) []

-- The two elements of a pair at a position.
def pairAt (position : Nat) (pair : Value) : Except Fault (Value × Value) :=
  match pair.elements with
  | .error (.notIterable _) => .error (.notPair position)
  | .error fault => .error fault
  | .ok [key, value] => .ok (key, value)
  | .ok items => .error (.pairLength position items.length)

-- Writes pairs into a table, the first of which has the given position.
def entriesOfPairs (position : Nat) (entries : List (Value × Value)) :
    List Value → Except Fault (List (Value × Value))
  | [] => .ok entries
  | pair :: rest => do
    let (key, value) ← pairAt position pair
    entriesOfPairs (position + 1) (← putKey key value entries) rest

-- What a value has for keys, where it is no mapping.
def pseudoKeys? (value : Value) : Option Value :=
  match value.attribute "keys" with
  | .ok found => some found
  | .error _ => none

/-- The entries of the table that a value makes: those of a mapping, none of a false value, and
otherwise what its elements say pair by pair. -/
def toEntries (value : Value) : Except Fault (List (Value × Value)) :=
  match value.entries? with
  | some entries => .ok entries
  | none => do
    if !(← value.truth) then return []
    if value.isMapping then return entriesOf (← value.shown.told)
    match value.pseudoKeys? with
    | some found => .error (.notCallable found.qualifiedTypeName)
    | none => entriesOfPairs 0 [] (← value.elements)

end Value
end Schemata
