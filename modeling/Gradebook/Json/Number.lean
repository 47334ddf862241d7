/-
# Numbers of JSON documents

A number without a point and an exponent is whole if it fits a word of 64 bits, with or without
a sign. Any other number is read in two steps, each of which may round: the first digits, as
many as fit a word, become a significand, and the significand is then scaled by a power of ten.
-/

import Gradebook.Json.Basic

namespace Gradebook
namespace Json

/-- The parts of a number as it is written, without marks. -/
structure Numeral where
  negative : Bool
  whole : List Char
  fraction : List Char
  exponent : Int
  /-- Whether there is a point or an exponent. -/
  marked : Bool

/-- Digits after a significand go into it for as long as it fits a word of 64 bits; the
significand and the digits that are left. -/
def takeDigits (significand : Nat) : List Char → Nat × List Char
  | [] => (significand, [])
  | digit :: rest =>
    let next := Decimal.digitsValue significand [digit]
    if next < UInt64.size then takeDigits next rest else (significand, digit :: rest)

/-- The greatest power of ten in range. -/
def greatestPower : Nat := 308

def powerOfTen (exponent : Nat) : Binary64 := Binary64.ofNat (Nat.pow 10 exponent)

/-- A number over a power of ten, which is divided by in pieces until nothing is left. -/
def scaleDown (x : Binary64) (exponent : Nat) : Binary64 :=
  if exponent ≤ greatestPower then x / powerOfTen exponent
  else if x.isZero then x
  else scaleDown (x / powerOfTen greatestPower) (exponent - greatestPower)
termination_by exponent
decreasing_by simp only [greatestPower] at *; omega

/-- A number times a power of ten; infinity if it is out of range. -/
def scale (x : Binary64) : Int → Binary64
  | .negSucc n => scaleDown x (n + 1)
  | .ofNat n =>
    if n ≤ greatestPower then x * powerOfTen n
    else if x.isZero then x
    else Binary64.infinity false

namespace Numeral

/-- **The number in two steps.** Digits before the point that do not fit count as places, digits
after it are left out. -/
def float (n : Numeral) : Binary64 :=
  let (significand, left) := takeDigits 0 n.whole
  let (significand, unused) := takeDigits significand n.fraction
  let places : Int := left.length - (n.fraction.length - unused.length)
  let x := scale (Binary64.ofNat significand) (n.exponent + places)
  if n.negative then x.neg else x

/-- **The document of a number.** A zero with a sign is not whole. -/
def document (n : Numeral) : Json :=
  let magnitude := Decimal.digitsValue 0 n.whole
  if n.marked then .float n.float
  else if n.negative then
    if 1 ≤ magnitude && magnitude ≤ 0x8000000000000000 then .integer (-magnitude)
    else .float n.float
  else if magnitude < UInt64.size then .integer magnitude
  else .float n.float

end Numeral
end Json
end Gradebook
