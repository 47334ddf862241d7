/-
# Titles of task groups

A title such as `02-lock-free structures` is shown as `Lock-Free Structures`: without the
number and dash that put it in order, and with every word capitalised. A word starts at the
head of the title and after every character that is no letter, number or underscore.
-/

import Gradebook.Text.Letters
import Gradebook.Text.Uppercase

namespace Gradebook
namespace Title

/-- Without a leading number and dash. -/
def withoutOrdinal (title : List Char) : List Char :=
  let digits := title.takeWhile Char.isDigit
  match title.dropWhile Char.isDigit with
  | '-' :: rest => if digits.isEmpty then title else rest
  | _ => title

/-- Whether a character is part of a word. -/
def isWordChar (c : Char) : Bool := Text.isAlphanumeric c || c = '_'

/-- Every word capitalised; `atStart` says whether the first character starts one. -/
def capitalized (atStart : Bool) : List Char → List Char
  | [] => []
  | c :: rest => (if atStart then Text.uppercase c else [c]) ++ capitalized (!isWordChar c) rest

/-- **A title as it is shown.** -/
def pretty (title : String) : String :=
  String.ofList (capitalized true (withoutOrdinal title.toList))

end Title
end Gradebook
