import TestScribe.Json.Finite
import TestScribe.Journal.Flow
import TestScribe.Transport.Reply

/-!
# Sending requests

A request is written into the journal and answered by the next reply of the script of its service. A
request that cannot be written down is never sent: headers hold ASCII characters only, and bodies no
numbers that JSON has no notation for.
-/

namespace TestScribe.Transport

/-- The defect of a body with an infinite number or one without value. -/
def unwritable : Defect := .badValue "Out of range float values are not JSON compliant"

/-- Why a request cannot be sent, if so. -/
def objection? (c : Call) : Option Defect :=
  if !c.correlation.all (fun id => id.toList.all fun ch => ch.toNat < 128) then
    some .unwritableHeader
  else if !c.body.all Json.isFinite then some unwritable
  else none

/-- Send a request to a service with a script: the reply, what is left of the script, and what was
done. -/
def send (c : Call) (script : Script) : Except Defect (Reply × Script × Events) :=
  match objection? c with
  | some d => .error d
  | none =>
    let (reply, rest) := script.next
    .ok (reply, rest, [.call c])

end TestScribe.Transport
