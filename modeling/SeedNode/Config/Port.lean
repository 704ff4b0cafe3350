import SeedNode.Failure

/-!
# Ports

A port is an integer from 1 to 65535. A truth value is no port, though it counts as an integer.
-/

namespace SeedNode.Port

def least : Int := 1

def greatest : Int := 65535

def isValid (n : Int) : Bool :=
  least ≤ n && n ≤ greatest

/-- Whether a value lies among the ports when it is compared as a number. -/
def spans : Value → Bool
  | .float x => (1.0 : Float) ≤ x && x ≤ (65535.0 : Float)
  | v => (v.integer?.map isValid).getD false

def range : String := s!"[{least}, {greatest}]"

/-- The port that a value is, or a report under the name of its field. Fails otherwise only where
the value has no text. -/
def check (value : Value) (field : String) : Except Failure Int := do
  match value with
  | .int n =>
    if isValid n then return n
    else
      let shown ← liftTooLong (decimalText n)
      let report ← liftTooLong (Report.aboutValue
        s!"Invalid '{field}': {shown}, should be in {range}" (.str field) value)
      throw (.report report)
  | _ =>
    let shown ← liftTooLong value.quoted
    let report ← liftTooLong (Report.aboutValue
      s!"Invalid '{field}': {shown}, should be an integer" (.str field) value)
    throw (.report report)

end SeedNode.Port
