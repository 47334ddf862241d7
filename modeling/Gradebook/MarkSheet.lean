/-
# Mark sheets

A mark sheet has a line for every student with the name, a tab and the final mark with three
decimal places, in the order of the names. A field that holds a tab, a quote or a line break
character is put in quotes, and a quote inside it is written twice.
-/

import Gradebook.Decimal.Fixed
import Gradebook.Report

namespace Gradebook
namespace MarkSheet

/-- Whether a field has to be put in quotes. -/
def needsQuotes (s : List Char) : Bool :=
  s.any fun c => c = '\t' || c = '"' || c = '\r' || c = '\n'

/-- Every quote twice. -/
def doubled : List Char → List Char
  | [] => []
  | c :: rest => if c = '"' then '"' :: '"' :: doubled rest else c :: doubled rest

def field (s : List Char) : List Char :=
  if needsQuotes s then '"' :: doubled s ++ ['"'] else s

/-- A line of a name and a mark. -/
def line (row : String × String) : List Char :=
  field row.1.toList ++ '\t' :: field row.2.toList ++ ['\n']

/-- The name and the mark of a report. -/
def row (r : Report) : String × String := (r.student.sortName, r.finalMark.fixed 3)

/-- The rows of standings by name; rows of one name stay in the order of their ranks. -/
def rows (s : Standings) : List (String × String) :=
  (s.users.mergeSort fun a b => decide (a.student.sortName ≤ b.student.sortName)).map row

/-- **The mark sheet of standings.** -/
def text (s : Standings) : String := String.ofList ((rows s).flatMap line)

end MarkSheet
end Gradebook
