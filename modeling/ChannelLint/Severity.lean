import ChannelLint.Text.Blank
import ChannelLint.Text.Case

/-!
# Severities

How grave a warning is, how severities are spelled, and when warnings make a run fail.
-/

namespace ChannelLint

/-- How grave a warning is. -/
inductive Severity where
  | info
  | warning
  | error
  deriving DecidableEq, Repr

namespace Severity

/-- The name of a severity. -/
def name : Severity → String
  | info => "info"
  | warning => "warning"
  | error => "error"

/-- The severity of a name. -/
def ofName? (name : String) : Option Severity :=
  if name == "info" then some info
  else if name == "warning" then some warning
  else if name == "error" then some error
  else none

/-- The severity that a configured text stands for: blanks around it and letter case do not count,
and `warn` is a warning. -/
def ofText? (text : String) : Option Severity :=
  let normal := String.ofList (Text.lower (Text.trim text.toList))
  if normal == "warn" then some warning else ofName? normal

/-- The rank of a severity. -/
def rank : Severity → Nat
  | info => 0
  | warning => 1
  | error => 2

/-- The rank of a severity by name; an unknown name ranks as a warning. -/
def rankOfName (name : String) : Nat :=
  ((ofName? name).getD warning).rank

end Severity

/-- From which severity on warnings make a run fail. -/
inductive FailOn where
  /-- Warnings of this severity or a graver one. -/
  | from (severity : Severity)
  /-- No warnings. -/
  | never
  deriving DecidableEq, Repr

namespace FailOn

/-- The choices by name, in the order in which they are listed. -/
def choices : List (String × FailOn) :=
  [("info", .from .info), ("warning", .from .warning), ("error", .from .error), ("never", .never)]

/-- The choice of a name. -/
def ofName? (name : String) : Option FailOn :=
  (choices.find? (·.1 == name)).map Prod.snd

/-- Whether warnings of the given severities make the run fail. -/
def fails (choice : FailOn) (severities : List String) : Bool :=
  match choice with
  | .never => false
  | .from severity => severities.any fun name => severity.rank ≤ Severity.rankOfName name

end FailOn

end ChannelLint
