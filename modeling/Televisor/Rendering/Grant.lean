import Televisor.Text.Number
import Televisor.Text.Search

namespace Televisor.Rendering

/-! How long an event subscription is granted for, and when it is renewed. -/

/-- The time asked for, in seconds. -/
def requestedSeconds : Nat := 1800

def leastRenewal : Nat := 30000

/-- The seconds granted by a header such as `Second-300`. -/
def parseGrant? (value : String) : Option Nat :=
  match Text.behind? "Second-".toList (Text.trimBlanks value.toList) with
  | some seconds => Text.readUnsigned? (Nat.pow 2 64) seconds
  | none => none

/-- Milliseconds after which a grant of that many milliseconds is renewed: half of it, but never
less than the shortest time. -/
def renewAfter (granted : Nat) : Nat :=
  max (granted / 2) leastRenewal

end Televisor.Rendering
