import ChannelLint.Text.Case
import ChannelLint.Text.Integer

/-!
# Worker counts

How many workers inspect files: a configured positive number, or else a preferred number, or else
twice the number of processors; never more than a given limit.
-/

namespace ChannelLint.Workers

/-- The limit that holds unless another is given. -/
def defaultLimit : Int := 32

/-- The configured texts that ask for the fallback, apart from the empty one. -/
def fallbackWords : List String := ["auto", "default"]

/-- The number of workers without a configured number: the preferred one, or twice the number of
processors, of which there is at least one. -/
def fallback (processors preferred : Option Int) : Int :=
  let present := match processors with
    | none | some 0 => 1
    | some count => count
  max 1 (preferred.getD (present * 2))

/-- The positive number that a configured text asks for; blanks around it do not count. -/
def requested? (text : String) : Option Int :=
  let normal := Text.lower (Text.trim text.toList)
  if normal.isEmpty || fallbackWords.contains (String.ofList normal) then none
  else
    match Text.readInteger? normal with
    | some count => if count ≤ 0 then none else some count
    | none => none

/-- The number of workers for a configured text. -/
def count (configured : Option String) (processors preferred : Option Int) (limit : Int) : Int :=
  min ((configured.bind requested?).getD (fallback processors preferred)) limit

end ChannelLint.Workers
