import ChannelLint.Terminal.Emoji

/-!
# Style tags

A tag such as `[bold]` in the cell of a table sets a style, of which a plain terminal shows
nothing. A bracket that a backslash escapes, or that does not start a tag, is text.
-/

namespace ChannelLint.Terminal

/-- Whether a tag may start with the character after its bracket. -/
def startsTag (c : Char) : Bool :=
  ('a' ≤ c && c ≤ 'z') || c == '#' || c == '/' || c == '@'

/-- The text between the brackets of a tag at the start of a text, and the rest. -/
def readTag? : List Char → Option (List Char × List Char)
  | '[' :: c :: rest =>
      if startsTag c then
        let more := rest.takeWhile fun d => d != '[' && d != ']'
        match rest.drop more.length with
        | ']' :: after => some (c :: more, after)
        | _ => none
      else none
  | _ => none

/-- Replaces escaped brackets by brackets. -/
def unescapeBrackets : List Char → List Char
  | '\\' :: '[' :: rest => '[' :: unescapeBrackets rest
  | c :: rest => c :: unescapeBrackets rest
  | [] => []

/-- Plain text between tags as it is shown. -/
def shownText [Library] (text : List Char) : List Char :=
  replaceEmoji (unescapeBrackets text)

/-- What a marked-up text shows, where `pending` is plain text that has been read, last character
first. Of the backslashes before a tag each second one is dropped, and an odd one makes the tag
text. `fuel` bounds the number of characters. -/
def shownFrom [Library] : Nat → List Char → List Char → List Char
  | 0, pending, text => shownText (pending.reverse ++ text)
  | _ + 1, pending, [] => shownText pending.reverse
  | fuel + 1, pending, c :: rest =>
      let slashes := (c :: rest).takeWhile (· == '\\')
      match readTag? ((c :: rest).drop slashes.length) with
      | some (tag, after) =>
          let kept := List.replicate (slashes.length / 2) '\\'
          let escaped := if slashes.length % 2 == 1 then shownText ('[' :: tag ++ [']']) else []
          shownText pending.reverse ++ shownText kept ++ escaped ++ shownFrom fuel [] after
      | none => shownFrom fuel (c :: pending) rest

/-- What a marked-up text shows. -/
def shown [Library] (text : List Char) : List Char :=
  shownFrom (text.length + 1) [] text

end ChannelLint.Terminal
