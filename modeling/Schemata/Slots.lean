set_option autoImplicit false

/-!
Sets of marked values in slots. The mark of a value says where its slot is looked for, so the order in
which the members of a set are met follows from their marks, from the size of the set and, where slots
are taken already, from the order in which the members came.
-/

namespace Schemata

inductive Slot (α : Type) where
  | free
  | taken (mark : UInt64) (value : α)

/-- Slots, a power of two of them, and how many are taken. -/
structure Slots (α : Type) where
  slots : Array (Slot α)
  used : Nat

namespace Slots

variable {α : Type}

def leastSize : Nat := 8

-- How many slots behind one are looked at before the search goes on elsewhere.
def neighbours : Nat := 9

-- Searches farther away use fewer of the bits of a mark.
def bitsPerSearch : UInt64 := 5

def withSize (size : Nat) : Slots α := ⟨Array.replicate size .free, 0⟩

-- The least size above a number, from a size on, with one unit of fuel for each doubling.
def sizeAbove (minimum : Nat) : Nat → Nat → Nat
  | 0, size => size
  | fuel + 1, size => if size ≤ minimum then sizeAbove minimum fuel (2 * size) else size

/-- Free slots, more than a number of them. -/
def above (minimum : Nat) : Slots α := withSize (sizeAbove minimum (minimum + 1) leastSize)

def isFree (slots : Array (Slot α)) (place : Nat) : Bool :=
  match slots[place]? with
  | some .free => true
  | _ => false

-- The first free place from one on; each unit of fuel looks at a place and its neighbours.
def freePlace (slots : Array (Slot α)) : Nat → Nat → UInt64 → Nat
  | 0, place, _ => place
  | fuel + 1, place, bits =>
    let behind := if place + neighbours < slots.size then neighbours else 0
    match (List.range' place (behind + 1)).find? (isFree slots) with
    | some found => found
    | none =>
      let bits := bits >>> bitsPerSearch
      freePlace slots fuel ((place * 5 + 1 + bits.toNat) % slots.size) bits

def put (s : Slots α) (mark : UInt64) (value : α) : Slots α :=
  let place := freePlace s.slots (s.slots.size + 64) (mark.toNat % s.slots.size) mark
  ⟨s.slots.setIfInBounds place (.taken mark value), s.used + 1⟩

def members (s : Slots α) : List (UInt64 × α) :=
  s.slots.toList.filterMap fun
    | .free => none
    | .taken mark value => some (mark, value)

def putAll (s : Slots α) (values : List (UInt64 × α)) : Slots α :=
  values.foldl (fun s value => s.put value.1 value.2) s

-- A set with this many members is full.
def isFull (size used : Nat) : Bool := decide (3 * (size - 1) ≤ 5 * used)

-- How many slots a set is given that has grown or shrunk.
def roomFor (used : Nat) : Nat := if 50000 < used then 2 * used else 4 * used

/-- Adds a value that is not there yet; a set that becomes full is given more slots. -/
def add (s : Slots α) (mark : UInt64) (value : α) : Slots α :=
  let s := s.put mark value
  if isFull s.slots.size s.used then (above (roomFor s.used)).putAll s.members else s

def addAll (s : Slots α) (values : List (UInt64 × α)) : Slots α :=
  values.foldl (fun s value => s.add value.1 value.2) s

-- Free slots for a number of values that come together.
def forMany (count : Nat) : Slots α :=
  if isFull leastSize count then above (2 * count) else withSize leastSize

/-- The set of distinct values, which come one after the other or together. -/
def ofValues (together : Bool) (values : List (UInt64 × α)) : Slots α :=
  (if together then forMany values.length else withSize leastSize).addAll values

def copied (s : Slots α) : Slots α :=
  let copy : Slots α := forMany s.used
  if copy.slots.size = s.slots.size then s else copy.putAll s.members

-- The members that are left when some are taken out; many free slots are given up.
def taking (s : Slots α) (isOut : α → Bool) : List (UInt64 × α) :=
  let left := s.members.filter fun entry => !isOut entry.2
  if s.used - left.length ≤ (s.slots.size - 1) / 4 then left
  else ((above (roomFor left.length)).putAll left).members

/-- The members of a set that are not in a collection, in the order in which they are met. A collection
that can be searched, and is not much smaller than the set, is asked for every member; any other takes out
what it has. -/
def outside (s : Slots α) (isIn : α → Bool) (searched : Option Nat) : List α :=
  let left :=
    match searched with
    | some count =>
      if count < s.used / 4 then s.copied.taking isIn
      else ((withSize leastSize).addAll (s.members.filter fun entry => !isIn entry.2)).members
    | none => s.copied.taking isIn
  left.map Prod.snd

end Slots
end Schemata
