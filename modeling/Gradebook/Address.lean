/-
# Network addresses

Addresses of version 4 are four decimal numbers with points between them. Addresses of version 6
are eight hexadecimal numbers with colons between them; a row of zeros may be left out once,
and the last two numbers may be written as an address of version 4.
-/

import Gradebook.Text.Hexadecimal

namespace Gradebook

inductive Address where
  | v4 (octets : List Nat)
  | v6 (segments : List Nat)
deriving DecidableEq

namespace Address

/-! ## Reading -/

/-- A number in a base with no more digits than given, and what follows it. -/
def number? (base most : Nat) (s : List Char) : Option (Nat × List Char) :=
  let isDigit (c : Char) : Bool := (Text.hexDigit? c).any (· < base)
  let digits := s.takeWhile isDigit
  if digits.isEmpty || most < digits.length then none
  else
    some (digits.foldl (fun value c => value * base + (Text.hexDigit? c).getD 0) 0,
      s.drop digits.length)

/-- A number up to 255 without a leading zero. -/
def octet? (s : List Char) : Option (Nat × List Char) := do
  let (value, rest) ← number? 10 3 s
  if 255 < value || (s.head? = some '0' && s.length ≠ rest.length + 1) then none
  else some (value, rest)

/-- A given character before something else. -/
def after? {α : Type} (c : Char) (read? : List Char → Option α) : List Char → Option α
  | d :: rest => if d = c then read? rest else none
  | [] => none

/-- The octets of an address of version 4 at the head of a text. -/
def octets? (s : List Char) : Option (List Nat × List Char) := do
  let (a, s) ← octet? s
  let (b, s) ← after? '.' octet? s
  let (c, s) ← after? '.' octet? s
  let (d, s) ← after? '.' octet? s
  return ([a, b, c, d], s)

/-- Reads something after a colon, or without one at the start. -/
def separated? {α : Type} (atStart : Bool) (read? : List Char → Option α) (s : List Char) :
    Option α :=
  if atStart then read? s else after? ':' read? s

/-- Segments as far as they go. -/
structure Segments where
  values : List Nat
  /-- Whether the last two were written as an address of version 4. -/
  embedded : Bool
  rest : List Char

/-- **Reads up to `room` segments.** -/
def segments (atStart : Bool) : Nat → List Char → Segments
  | 0, s => ⟨[], false, s⟩
  | room + 1, s =>
    match if room = 0 then none else separated? atStart octets? s with
    | some (octets, rest) =>
      match octets with
      | [a, b, c, d] => ⟨[a * 256 + b, c * 256 + d], true, rest⟩
      | _ => ⟨[], false, s⟩
    | none =>
      match separated? atStart (number? 16 4) s with
      | some (value, rest) =>
        let others := segments false room rest
        { others with values := value :: others.values }
      | none => ⟨[], false, s⟩

/-- The segments of an address of version 6 at the head of a text. -/
def segments? (s : List Char) : Option (List Nat × List Char) :=
  let front := segments true 8 s
  if front.values.length = 8 then some (front.values, front.rest)
  else if front.embedded then none
  else
    match front.rest with
    | ':' :: ':' :: rest =>
      let room := 7 - front.values.length
      let back := segments true room rest
      let zeros := 8 - front.values.length - back.values.length
      some (front.values ++ List.replicate zeros 0 ++ back.values, back.rest)
    | _ => none

/-- **Reads an address.** -/
def read? (s : String) : Option Address :=
  let s := s.toList
  match octets? s with
  | some (octets, rest) => if rest.isEmpty then some (v4 octets) else none
  | none =>
    match segments? s with
    | some (segments, rest) => if rest.isEmpty then some (v6 segments) else none
    | none => none

/-! ## Writing -/

def octetText (octets : List Nat) : String := ".".intercalate (octets.map toString)

def segmentText (segments : List Nat) : String :=
  ":".intercalate (segments.map fun n => String.ofList (Nat.toDigits 16 n))

/-- A row of zero segments. -/
structure Run where
  start : Nat := 0
  length : Nat := 0

/-- The longest row of zeros, and of several the first. `current` is the row right before the
segments given, the first of which has the number `index`. -/
def longestRun (best current : Run) (index : Nat) : List Nat → Run
  | [] => best
  | segment :: rest =>
    if segment = 0 then
      let current : Run :=
        if current.length = 0 then ⟨index, 1⟩ else ⟨current.start, current.length + 1⟩
      longestRun (if best.length < current.length then current else best) current (index + 1) rest
    else longestRun best {} (index + 1) rest

/-- The octets of an address of version 4 that is given as one of version 6. -/
def mapped? : List Nat → Option (List Nat)
  | [0, 0, 0, 0, 0, 0xffff, high, low] => some [high / 256, high % 256, low / 256, low % 256]
  | _ => none

/-- **An address as text.** A row of two zeros or more is left out. -/
def text : Address → String
  | v4 octets => octetText octets
  | v6 segments =>
    match mapped? segments with
    | some octets => "::ffff:" ++ octetText octets
    | none =>
      let run := longestRun {} {} 0 segments
      if run.length < 2 then segmentText segments
      else
        segmentText (segments.take run.start) ++ "::"
          ++ segmentText (segments.drop (run.start + run.length))

/-- An address with a port. -/
def withPort (a : Address) (port : Nat) : String :=
  match a with
  | v4 _ => a.text ++ ":" ++ toString port
  | v6 _ => "[" ++ a.text ++ "]:" ++ toString port

end Address
end Gradebook
