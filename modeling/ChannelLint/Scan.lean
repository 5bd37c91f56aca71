import ChannelLint.Error
import ChannelLint.Rule

/-!
# Scanning a text with rules

A rule reports its matches from left to right without overlap: each search starts where the last
match ended, one character further after an empty match. A match on a suppressed line is dropped
when it is found, but counts for where the search and the lines go on. An empty text has no lines,
and so no matches.
-/

namespace ChannelLint

/-- A match of a rule and the line on which it starts. -/
structure Hit where
  /-- The ordinal of the line, from zero. -/
  line : Nat
  /-- The match. -/
  found : Pattern.Match
  deriving DecidableEq, Repr

namespace Scan

/-- Where the search goes on after a match. -/
def resume (found : Pattern.Match) : Nat :=
  if found.start < found.stop then found.stop else found.stop + 1

/-- The number of line feeds between two places. -/
def feedsBetween (text : Array Char) (start stop : Nat) : Nat :=
  Text.lineFeeds (text.extract start stop).toList

/-- The hits from `cursor` on that are not on suppressed lines. Lines have been counted up to
`counted`, where line `line` goes on; `fuel` bounds the number of searches. -/
def hitsFrom (search : Nat → Option Pattern.Match) (text : Array Char) (suppressed : List Nat) :
    Nat → Nat → Nat → Nat → List Hit
  | 0, _, _, _ => []
  | fuel + 1, cursor, counted, line =>
      if text.size < cursor then []
      else
        match search cursor with
        | none => []
        | some found =>
            let here := line + feedsBetween text counted found.start
            let later := hitsFrom search text suppressed fuel (resume found) found.start here
            if suppressed.contains here then later else ⟨here, found⟩ :: later

/-- The hits in a text that are not on suppressed lines. -/
def hits (search : Nat → Option Pattern.Match) (text : Array Char) (suppressed : List Nat) :
    List Hit :=
  if text.isEmpty then [] else hitsFrom search text suppressed (text.size + 1) 0 0 0

/-- Reads the pattern of a rule under the options of the rule. -/
def compile [Library] (rule : Rule) : Except LintError Pattern.Regex :=
  match Pattern.Regex.parse rule.flags rule.pattern.toList with
  | .ok regex => .ok regex
  | .error error => .error (.ofPattern (.rulePattern rule.label rule.pattern) error)

/-- What a match in a text holds. -/
def matchedText (text : Array Char) (found : Pattern.Match) : MatchedText where
  text := Pattern.spanText text found.start found.stop
  groups := found.groups.map fun span => span.map fun (start, stop) =>
    Pattern.spanText text start stop
  start := found.start
  stop := found.stop

/-- The hits of a rule in a text that are not on suppressed lines. A rule that is switched off has
none and its pattern is not read. -/
def ruleHits [Library] (rule : Rule) (suppressed : List Nat) (text : Array Char) :
    Except LintError (List Hit) :=
  if rule.disabled then .ok []
  else do
    let regex ← compile rule
    pure (hits (regex.search rule.flags text) text suppressed)

/-- The warning that a hit of a rule makes. -/
def warning (rule : Rule) (path : Path) (text : Array Char) (hit : Hit) : Warning :=
  ⟨rule, path, hit.line, some (matchedText text hit.found)⟩

/-- The warnings of a rule on the lines that are not suppressed. -/
def ruleWarnings [Library] (rule : Rule) (path : Path) (suppressed : List Nat)
    (text : Array Char) : Except LintError (List Warning) := do
  let found ← ruleHits rule suppressed text
  pure (found.map (warning rule path text))

/-- The warnings of all rules in their order, each on the text that it looks at. -/
def warnings [Library] (path : Path) (suppressed : List Nat)
    (withComments withoutComments : Array Char) : List Rule → Except LintError (List Warning)
  | [] => .ok []
  | rule :: rest => do
      let text := if rule.includeComments then withComments else withoutComments
      let own ← ruleWarnings rule path suppressed text
      let others ← warnings path suppressed withComments withoutComments rest
      pure (own ++ others)

end Scan

end ChannelLint
