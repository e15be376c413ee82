import Schemata.Number.Shortest

set_option autoImplicit false

/-!
The written form of binary numbers: which exponents are written positionally, how an exponent
looks, and what the undefined number and the infinities are called. `Layout.read?` reads the
written form again.
-/

namespace Schemata

/-- Decisions about the written form of a number. -/
structure Layout where
  /-- Powers of ten of the leading digit that are written without an exponent. -/
  leastPositional : Int
  mostPositional : Int
  point : String
  /-- Written after a whole number in place of a fraction. -/
  wholeMark : String
  exponentMark : String
  plus : String
  minus : String
  exponentWidth : Nat
  undefined : String
  infinity : String

namespace Layout

/-- Positional from 0.0001 up to sixteen digits, `.0` kept, exponents signed and two digits wide. -/
def standard : Layout :=
  { leastPositional := -4, mostPositional := 15, point := ".", wholeMark := ".0",
    exponentMark := "e", plus := "+", minus := "-", exponentWidth := 2,
    undefined := "nan", infinity := "inf" }

def digitsText (n : Nat) : List Char := Nat.toDigits 10 n

def zeros (n : Nat) : String := String.ofList (List.replicate n '0')

def padded (width n : Nat) : String :=
  let digits := digitsText n
  zeros (width - digits.length) ++ String.ofList digits

-- A decimal whose digits are written out around the point.
def positional (layout : Layout) (digits : List Char) (power : Int) : String :=
  let whole : Int := (digits.length : Int) + power
  if 0 ≤ power then
    String.ofList digits ++ zeros power.toNat ++ layout.wholeMark
  else if 0 < whole then
    String.ofList (digits.take whole.toNat) ++ layout.point ++ String.ofList (digits.drop whole.toNat)
  else
    "0" ++ layout.point ++ zeros (-whole).toNat ++ String.ofList digits

-- A decimal with one digit before the point and a power of ten.
def scientific (layout : Layout) (digits : List Char) (lead : Int) : String :=
  let mantissa :=
    match digits with
    | [] => "0"
    | [digit] => String.ofList [digit]
    | digit :: rest => String.ofList [digit] ++ layout.point ++ String.ofList rest
  mantissa ++ layout.exponentMark ++ (if lead < 0 then layout.minus else layout.plus)
    ++ padded layout.exponentWidth lead.natAbs

def decimal (layout : Layout) (d : Decimal) : String :=
  let digits := digitsText d.digits
  let lead : Int := (digits.length : Int) + d.power - 1
  if d.digits = 0 then "0" ++ layout.wholeMark
  else if layout.leastPositional ≤ lead ∧ lead ≤ layout.mostPositional then
    layout.positional digits d.power
  else layout.scientific digits lead

def unsigned (layout : Layout) (x : Binary64) : String :=
  if x.isFinite then layout.decimal (if x.significand = 0 then ⟨0, 0⟩ else x.shortest)
  else layout.infinity

/-- The sign of zero is written, that of the undefined number is not. -/
def render (layout : Layout) (x : Binary64) : String :=
  if x.isFinite = false ∧ x.fraction ≠ 0 then layout.undefined
  else (if x.negative then layout.minus else "") ++ layout.unsigned x

-- A nonempty run of decimal digits as a number.
def natural? (cs : List Char) : Option Nat :=
  if cs.isEmpty ∨ cs.any (fun c => !c.isDigit) then none
  else some (cs.foldl (fun n c => 10 * n + (c.toNat - '0'.toNat)) 0)

-- Digits with an optional point and an optional exponent.
def magnitude? (negative : Bool) (cs : List Char) : Option Binary64 := do
  let mantissa := cs.takeWhile (· ≠ 'e')
  let whole := mantissa.takeWhile (· ≠ '.')
  let fraction := (mantissa.dropWhile (· ≠ '.')).drop 1
  let digits ← natural? (whole ++ fraction)
  let shift : Int := -(fraction.length : Int)
  match (cs.dropWhile (· ≠ 'e')).drop 1 with
  | [] => some (Binary64.nearest negative digits shift)
  | '-' :: rest => (natural? rest).map fun n => Binary64.nearest negative digits (shift - (n : Int))
  | '+' :: rest => (natural? rest).map fun n => Binary64.nearest negative digits (shift + (n : Int))
  | rest => (natural? rest).map fun n => Binary64.nearest negative digits (shift + (n : Int))

def read? (text : String) : Option Binary64 :=
  let read (negative : Bool) (cs : List Char) : Option Binary64 :=
    if cs = ['i', 'n', 'f'] then some (Binary64.infinity negative) else magnitude? negative cs
  match text.toList with
  | ['n', 'a', 'n'] => some Binary64.notANumber
  | '-' :: cs => read true cs
  | cs => read false cs

end Layout
end Schemata
