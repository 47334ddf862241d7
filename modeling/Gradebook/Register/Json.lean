/-
# The register as a JSON document

The document has the members `students`, `pipelines`, `flags` and `overrides`, all of which may
be missing. Each of them is an array of records.
-/

import Gradebook.Json.Reading
import Gradebook.Record.Json
import Gradebook.Register

namespace Gradebook
namespace Register

open Json (Decoder Field)

def fields : List Field :=
  [.of "students" (Json.listOf Student.ofJson) true,
    .of "pipelines" (Json.listOf Pipeline.ofJson) true,
    .of "flags" (Json.listOf Flag.ofJson) true,
    .of "overrides" (Json.listOf Override.ofJson) true]

def ofJson : Decoder Register := fun j => do
  let slots ← Json.slots fields j
  return .ofRecords
    (← slots.getD "students" (Json.listOf Student.ofJson) [])
    (← slots.getD "pipelines" (Json.listOf Pipeline.ofJson) [])
    (← slots.getD "flags" (Json.listOf Flag.ofJson) [])
    (← slots.getD "overrides" (Json.listOf Override.ofJson) [])

/-- **Reads a register.** Nothing but blanks may follow the document. -/
def read (s : String) : Except Json.Fault Register := do
  let (document, whole) := Json.read s
  let register ← ofJson document
  if whole then return register else .error .malformed

end Register
end Gradebook
