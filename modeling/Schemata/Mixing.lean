import Schemata.Number.Binary64

set_option autoImplicit false

/-!
Fingerprints of numbers, and of what is made of parts that have fingerprints. Equal amounts have one
fingerprint, whatever they are stored as. The parts of a sequence count in order, those of a collection
in no order.
-/

namespace Schemata.Mixing

-- Amounts are counted modulo a prime; two to the power of its length is one.
def primeLength : Nat := 61

def prime : Nat := Nat.pow 2 primeLength - 1

-- An integer as a word, with its sign. No fingerprint is minus one.
def signedWord (n : Int) : UInt64 :=
  UInt64.ofNat ((if n = -1 then -2 else n) % (Nat.pow 2 64 : Nat)).toNat

def signed (word : UInt64) : Int :=
  if word.toNat < Nat.pow 2 63 then word.toNat else (word.toNat : Int) - (Nat.pow 2 64 : Nat)

/-- The fingerprint of a number whose denominator is a power of two, which is divided by multiplying. -/
def number (q : Rat) : UInt64 :=
  let inverse := Nat.pow 2 ((primeLength - q.den.log2 % primeLength) % primeLength)
  let residue : Int := ((q.num.natAbs % prime * inverse % prime : Nat) : Int)
  signedWord (if q.num < 0 then -residue else residue)

-- The mark of what lies beyond all numbers.
def infinite : Int := 314159

def quantity : Quantity → UInt64
  | .finite q => number q
  | .infinite negative => signedWord (if negative then -infinite else infinite)
  | .undefined => 7

-- The word in which a mark would not be told from a failure.
def reserved : UInt64 := 0xFFFFFFFFFFFFFFFF

def firstFactor : UInt64 := 11400714785074694791

def secondFactor : UInt64 := 14029467366897019727

def start : UInt64 := 2870177450012600261

def rotated (word : UInt64) : UInt64 := (word <<< 31) ||| (word >>> 33)

def sequence (marks : List UInt64) : UInt64 :=
  let mixed := marks.foldl (fun mixed mark => rotated (mixed + mark * secondFactor) * firstFactor) start
  let mark := mixed + (UInt64.ofNat marks.length ^^^ (start ^^^ 3527539))
  if mark = reserved then 1546275796 else mark

def shuffled (mark : UInt64) : UInt64 :=
  let salted : UInt64 := mark ^^^ 89869747
  (salted ^^^ (mark <<< 16)) * 3644798167

/-- The fingerprint of a collection from those of its members, in any order. -/
def collection (marks : List UInt64) : UInt64 :=
  let mixed := marks.foldl (fun mixed mark => mixed ^^^ shuffled mark) 0
  let count := UInt64.ofNat (marks.length + 1)
  let counted : UInt64 := mixed ^^^ (count * 1927868237)
  let spread := counted ^^^ (counted >>> 11) ^^^ (counted >>> 25)
  let mark := spread * 69069 + 907133923
  if mark = reserved then 590923713 else mark

end Schemata.Mixing
