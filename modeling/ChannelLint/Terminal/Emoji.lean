import ChannelLint.Library
import ChannelLint.Text.Blank
import ChannelLint.Text.Case

/-!
# Emoji codes

In texts that are printed from plain strings, a code such as `:smile:` stands for an emoji that the
library knows. A code that it does not know stays as it is.
-/

namespace ChannelLint.Terminal

/-- The endings of a code that choose how its emoji is shown, with the mark that does it. -/
def emojiVariants : List (String × Nat) :=
  [("-emoji", 0xFE0F), ("-text", 0xFE0E)]

/-- The emoji of a code; letter case does not count. -/
def emojiOf? [Library] (name : List Char) : Option String :=
  Library.emoji? (String.ofList (Text.lower name))

/-- The name of a code and the mark that its ending chooses. -/
def emojiVariant (body : List Char) : List Char × List Char :=
  match emojiVariants.find? fun variant => variant.1.toList.isSuffixOf body with
  | some variant => (body.take (body.length - variant.1.length), [Char.ofNat variant.2])
  | none => (body, [])

/-- What a code shows, written with its colons when it is not known. -/
def emojiText [Library] (body : List Char) : List Char :=
  let (name, mark) := emojiVariant body
  match emojiOf? name with
  | some emoji => emoji.toList ++ mark
  | none => ':' :: body ++ [':']

/-- Replaces the codes of a text. `fuel` bounds the number of codes and characters. -/
def replaceEmojiFrom [Library] : Nat → List Char → List Char
  | 0, text => text
  | _ + 1, [] => []
  | fuel + 1, c :: rest =>
      let body := rest.takeWhile fun c => c != ':' && !Text.isBlank c
      if c == ':' && (rest.drop body.length).head? == some ':' then
        emojiText body ++ replaceEmojiFrom fuel (rest.drop (body.length + 1))
      else c :: replaceEmojiFrom fuel rest

/-- A text with its codes replaced. -/
def replaceEmoji [Library] (text : List Char) : List Char :=
  replaceEmojiFrom (text.length + 1) text

end ChannelLint.Terminal
