/-
# UTF-8

A character is one byte below 0x80, or a first byte that tells how many more follow. The ranges
of the second byte keep out forms longer than needed, surrogates and numbers beyond the last
code point. A row of bytes that breaks off or goes on with a byte out of range is no character;
the byte where it went wrong may start the next one.
-/

namespace Gradebook
namespace Text

/-- What a first byte says: how many bytes follow it, its own bits of the code point, and the
range of the second byte. -/
structure Utf8Lead where
  more : Nat
  bits : Nat
  least : Nat
  greatest : Nat

def Utf8Lead.ofByte? (b : Nat) : Option Utf8Lead :=
  if b < 0x80 then some ⟨0, b, 0, 0⟩
  else if b < 0xC2 then none
  else if b < 0xE0 then some ⟨1, b - 0xC0, 0x80, 0xBF⟩
  else if b = 0xE0 then some ⟨2, b - 0xE0, 0xA0, 0xBF⟩
  else if b = 0xED then some ⟨2, b - 0xE0, 0x80, 0x9F⟩
  else if b < 0xF0 then some ⟨2, b - 0xE0, 0x80, 0xBF⟩
  else if b = 0xF0 then some ⟨3, b - 0xF0, 0x90, 0xBF⟩
  else if b < 0xF4 then some ⟨3, b - 0xF0, 0x80, 0xBF⟩
  else if b = 0xF4 then some ⟨3, b - 0xF0, 0x80, 0x8F⟩
  else none

/-- A code point of which some bits are known and some bytes are to follow, the first of them in
a range, if they do; and the bytes after that. -/
def codePoint? (bits least greatest : Nat) : Nat → List UInt8 → Option Nat × List UInt8
  | 0, bytes => (some bits, bytes)
  | _ + 1, [] => (none, [])
  | more + 1, b :: rest =>
    if least ≤ b.toNat && b.toNat ≤ greatest then
      codePoint? (bits * 64 + b.toNat % 64) 0x80 0xBF more rest
    else (none, b :: rest)

theorem length_codePoint?_le (bits least greatest more : Nat) (bytes : List UInt8) :
    (codePoint? bits least greatest more bytes).2.length ≤ bytes.length := by
  induction more generalizing bits least greatest bytes with
  | zero => simp [codePoint?]
  | succ more ih =>
    cases bytes with
    | nil => simp [codePoint?]
    | cons b rest =>
      rw [codePoint?]
      split
      · exact Nat.le_succ_of_le (ih _ _ _ rest)
      · simp

/-- The character that starts with a byte, and the bytes after it. -/
def character? (b : UInt8) (rest : List UInt8) : Option Char × List UInt8 :=
  match Utf8Lead.ofByte? b.toNat with
  | none => (none, rest)
  | some lead =>
    let (code, rest) := codePoint? lead.bits lead.least lead.greatest lead.more rest
    (code.map Char.ofNat, rest)

theorem length_character?_le (b : UInt8) (rest : List UInt8) :
    (character? b rest).2.length ≤ rest.length := by
  unfold character?
  split
  · simp
  · exact length_codePoint?_le _ _ _ _ rest

/-- **The characters of bytes;** none stands for bytes that are no character. -/
def decodeUtf8 : List UInt8 → List (Option Char)
  | [] => []
  | b :: rest => (character? b rest).1 :: decodeUtf8 (character? b rest).2
termination_by bytes => bytes.length
decreasing_by exact Nat.lt_succ_of_le (length_character?_le b rest)

/-- The text of bytes, if all of them are characters. -/
def ofUtf8? (bytes : List UInt8) : Option String :=
  ((decodeUtf8 bytes).mapM id).map String.ofList

/-- The text of bytes, with a replacement character for what is no character. -/
def ofUtf8Lossy (bytes : List UInt8) : String :=
  String.ofList ((decodeUtf8 bytes).map fun c => c.getD '\ufffd')

end Text
end Gradebook
