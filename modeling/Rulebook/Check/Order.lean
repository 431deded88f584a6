import Rulebook.Diagnostic
import Rulebook.Text.Blank

/-!
# The order of findings

The findings of a unit are told in an order that does not depend on the order in which the rules
found them, except that findings which the order does not tell apart stay as they were.
-/

namespace Rulebook

/-- By message, or by where the node starts and then by message. -/
inductive FindingOrder where
  | message
  | position
  deriving Repr, DecidableEq, Inhabited

/-- The name of an order that there is not. -/
structure UnknownOrder where
  value : String
  deriving Repr, DecidableEq

namespace FindingOrder

def values : List FindingOrder := [message, position]

def token : FindingOrder → String
  | message => "message"
  | position => "position"

/-- The names of all orders. -/
def supported : String := ",".intercalate (values.map token)

/-- Reads the name of an order. White space around it does not count, and nothing stands for the
order by message. -/
def parse (value : String) : Except UnknownOrder FindingOrder :=
  let value := Text.trim value
  if value = "" then .ok message
  else match values.find? fun o => o.token = value with
    | some o => .ok o
    | none => .error ⟨value⟩

/-- Whether a finding may stand before another. Messages are compared byte by byte. -/
def le (o : FindingOrder) (a b : Finding) : Bool :=
  match o with
  | message => a.message ≤ b.message
  | position =>
    a.span.start < b.span.start || (a.span.start = b.span.start && a.message ≤ b.message)

/-- Findings in order. -/
def sort (o : FindingOrder) (findings : List Finding) : List Finding := findings.mergeSort o.le

end FindingOrder

def UnknownOrder.message (e : UnknownOrder) : String :=
  s!"'order' value '{e.value}' is invalid. Supported values are '{FindingOrder.supported}'"

end Rulebook
