/-!
# The library

What the program uses and does not define: how deep the calls that read a pattern may be nested, the
names of characters, and the codes of emoji. What depends on them takes a `Library` as a parameter,
and what is proved about it holds for all of them. Examples and the command line run with
`Library.small`, which knows a few names and codes only.
-/

namespace ChannelLint

/-- What the program uses of libraries. -/
class Library where
  /-- How many calls may be nested while a pattern is read, and while its tree is gone through. -/
  nesting : Nat
  /-- The character of a name. -/
  namedCharacter? : String → Option Char
  /-- The text of an emoji code in lower case. -/
  emoji? : String → Option String
  /-- There is room for a group, which takes two calls. -/
  room_for_group : 2 ≤ nesting := by decide

/-- A library that knows a few names and codes. -/
instance Library.small : Library where
  nesting := 960
  namedCharacter? name := [("EM DASH", '—'), ("NO-BREAK SPACE", '\xa0')].lookup name
  emoji? code := [("smile", "😄"), ("warning", "⚠")].lookup code

end ChannelLint
