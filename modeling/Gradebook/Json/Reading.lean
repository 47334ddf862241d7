/-
# Reading JSON

The reader takes a document from the head of a text. Where the text stops being JSON it ends
the document there, broken, and there is no rest.
-/

import Gradebook.Json.Number
import Gradebook.Text.Hexadecimal

namespace Gradebook
namespace Json

/-- Blanks between tokens. -/
def isSpace (c : Char) : Bool := c = ' ' || c = '\t' || c = '\n' || c = '\r'

def skipSpaces (s : List Char) : List Char := s.dropWhile isSpace

/-! ## Strings -/

/-- A character of a string, or half of a surrogate pair. -/
inductive Piece where
  | char (c : Char)
  | high (code : Nat)
  | low (code : Nat)

/-- What an escape by four digits stands for. -/
def Piece.ofCode (code : Nat) : Piece :=
  if 0xD800 ≤ code && code < 0xDC00 then high code
  else if 0xDC00 ≤ code && code < 0xE000 then low code
  else char (Char.ofNat code)

/-- The escapes of one letter. -/
def escaped? : Char → Option Char
  | '"' => some '"'
  | '\\' => some '\\'
  | '/' => some '/'
  | 'b' => some '\x08'
  | 'f' => some '\x0c'
  | 'n' => some '\n'
  | 'r' => some '\r'
  | 't' => some '\t'
  | _ => none

/-- **The pieces of a string** up to its closing quote, and what follows it. -/
def pieces? : List Char → Option (List Piece × List Char)
  | [] => none
  | '"' :: rest => some ([], rest)
  | '\\' :: 'u' :: a :: b :: c :: d :: rest => do
    let code ← Text.hexValue? [a, b, c, d]
    let (others, rest) ← pieces? rest
    return (.ofCode code :: others, rest)
  | '\\' :: letter :: rest => do
    let c ← escaped? letter
    let (others, rest) ← pieces? rest
    return (.char c :: others, rest)
  | c :: rest =>
    if c.toNat < 0x20 then none
    else do
      let (others, rest) ← pieces? rest
      return (.char c :: others, rest)

/-- The characters of a string, the halves of each pair put together; none if half of one
stands alone. -/
def joined? : List Piece → Option (List Char)
  | [] => some []
  | .char c :: rest => (joined? rest).map (c :: ·)
  | .high h :: .low l :: rest =>
    (joined? rest).map (Char.ofNat (0x10000 + (h - 0xD800) * 0x400 + (l - 0xDC00)) :: ·)
  | _ => none

/-- A string after its opening quote: its text, if its pieces make one, and the rest. -/
def stringBody? (s : List Char) : Option (Option String × List Char) :=
  (pieces? s).map fun (pieces, rest) => ((joined? pieces).map String.ofList, rest)

/-! ## Numbers -/

/-- The digits after a point, if there is one. -/
def readFraction : List Char → Option (List Char) × List Char
  | '.' :: rest =>
    let (digits, rest) := Decimal.spanDigits rest
    (some digits, rest)
  | rest => (none, rest)

/-- An exponent, if there is one: whether it is negative, and its digits. -/
def readExponent (s : List Char) : Option (Bool × List Char) × List Char :=
  match s with
  | [] => (none, [])
  | c :: rest =>
    if c = 'e' || c = 'E' then
      let (down, rest) := Decimal.sign rest
      let (digits, rest) := Decimal.spanDigits rest
      (some (down, digits), rest)
    else (none, s)

/-- A number after its sign: digits without a leading zero, a fraction, an exponent. -/
def number? (negative : Bool) (s : List Char) : Option (Json × List Char) :=
  let (whole, rest) := Decimal.spanDigits s
  let (fraction, rest) := readFraction rest
  let (exponent, rest) := readExponent rest
  if whole.isEmpty || (whole.head? = some '0' && 1 < whole.length) then none
  else if fraction = some [] || exponent.any (·.2.isEmpty) then none
  else
    let size : Int := exponent.elim 0 fun (_, digits) => Decimal.digitsValue 0 digits
    let numeral : Numeral :=
      { negative := negative
        whole := whole
        fraction := fraction.getD []
        exponent := if exponent.any (·.1) then -size else size
        marked := fraction.isSome || exponent.isSome }
    some (numeral.document, rest)

/-! ## Documents -/

/-- The text after given characters. -/
def word? (word : String) (s : List Char) : Option (List Char) :=
  if word.toList.isPrefixOf s then some (s.drop word.length) else none

/-- A document that is not an array or an object. -/
def scalar? : List Char → Option (Json × List Char)
  | '"' :: rest => (stringBody? rest).map fun (text, rest) => (text.elim unpaired string, rest)
  | '-' :: rest => number? true rest
  | 'n' :: rest => (word? "ull" rest).map (null, ·)
  | 't' :: rest => (word? "rue" rest).map (bool true, ·)
  | 'f' :: rest => (word? "alse" rest).map (bool false, ·)
  | s => number? false s

/-- A document that is not an array or an object; broken if there is none. -/
def scalar (s : List Char) : Json × Option (List Char) :=
  match scalar? s with
  | some (value, rest) => (value, some rest)
  | none => (broken, none)

mutual

/-- A document after blanks, and the rest of the text. Every call takes one from `fuel`, and no
more calls are nested or follow one another than twice the characters of the text. -/
def readValue : Nat → List Char → Json × Option (List Char)
  | 0, _ => (broken, none)
  | fuel + 1, s =>
    match skipSpaces s with
    | '[' :: rest =>
      match skipSpaces rest with
      | ']' :: rest => (array [] true, some rest)
      | rest =>
        let (items, rest) := readItems fuel rest
        (array items rest.isSome, rest)
    | '\x7b' :: rest =>
      match skipSpaces rest with
      | '\x7d' :: rest => (object [] true, some rest)
      | rest =>
        let (members, rest) := readMembers fuel rest
        (object members rest.isSome, rest)
    | s => scalar s

/-- The items of an array up to its end. -/
def readItems : Nat → List Char → List Json × Option (List Char)
  | 0, _ => ([], none)
  | fuel + 1, s =>
    let (item, rest) := readValue fuel s
    match rest.map skipSpaces with
    | some (']' :: rest) => ([item], some rest)
    | some (',' :: rest) =>
      match skipSpaces rest with
      | ']' :: _ => ([item], none)
      | rest =>
        let (items, rest) := readItems fuel rest
        (item :: items, rest)
    | _ => ([item], none)

/-- The members of an object up to its end. A name without a value has a broken one. -/
def readMembers : Nat → List Char → List (Option String × Json) × Option (List Char)
  | 0, _ => ([], none)
  | fuel + 1, s =>
    match skipSpaces s with
    | '"' :: rest =>
      match stringBody? rest with
      | none => ([], none)
      | some (name, rest) =>
        match skipSpaces rest with
        | ':' :: rest =>
          let (value, rest) := readValue fuel rest
          match rest.map skipSpaces with
          | some ('\x7d' :: rest) => ([(name, value)], some rest)
          | some (',' :: rest) =>
            let (members, rest) := readMembers fuel rest
            ((name, value) :: members, rest)
          | _ => ([(name, value)], none)
        | _ => ([(name, broken)], none)
    | _ => ([], none)

end

/-- **The document at the head of a text,** and whether nothing but blanks follows it. -/
def read (s : String) : Json × Bool :=
  let s := s.toList
  let (value, rest) := readValue (2 * s.length + 2) s
  (value, rest.any fun rest => (skipSpaces rest).isEmpty)

end Json
end Gradebook
