import ChannelLint.Comment
import ChannelLint.Text.Blank

/-!
# Tags of markup

The tags of a markup line and how they change the number of open elements. A tag is an opening
angle bracket, a name, any characters but angle brackets, and a closing angle bracket.
-/

namespace ChannelLint.Markup

/-- A tag. -/
structure Tag where
  /-- Whether it is an end tag. -/
  closing : Bool
  /-- Whether it closes the element that it opens. -/
  selfClosing : Bool
  deriving DecidableEq, Repr

/-- Whether a tag name may start with the character. -/
def isNameStart (c : Char) : Bool :=
  c.isAlpha || c == '_'

/-- Whether the character is an angle bracket. -/
def isAngle (c : Char) : Bool :=
  c == '<' || c == '>'

/-- The rest of a tag after its name has started. -/
def tagBody? (closing : Bool) (text : List Char) : Option Tag :=
  let inner := text.takeWhile fun c => !isAngle c
  match text.drop inner.length with
  | '>' :: _ => some ⟨closing, inner.getLast? == some '/'⟩
  | _ => none

/-- The tag that an opening angle bracket before the text starts. -/
def tagAfter? : List Char → Option Tag
  | '/' :: c :: rest => if isNameStart c then tagBody? true rest else none
  | c :: rest => if isNameStart c then tagBody? false rest else none
  | [] => none

/-- The tags of a text. -/
def tags : List Char → List Tag
  | [] => []
  | c :: rest =>
      if c == '<' then
        match tagAfter? rest with
        | some tag => tag :: tags rest
        | none => tags rest
      else tags rest

/-- How many elements a tag leaves open. -/
def Tag.balance (tag : Tag) : Int :=
  if tag.closing then -1 else if tag.selfClosing then 0 else 1

/-- How many more elements the text opens than it closes. -/
def balance (text : List Char) : Int :=
  ((tags text).map Tag.balance).foldr (· + ·) 0

/-- The balance without the first tag if that is an end tag. -/
def balanceAfterLeading (text : List Char) : Int :=
  match tags text with
  | [] => 0
  | tag :: rest =>
      (if tag.closing then 0 else tag.balance) + (rest.map Tag.balance).foldr (· + ·) 0

/-- Whether the text ends inside a start tag. -/
def endsInTag : List Char → Bool
  | [] => false
  | c :: rest =>
      (c == '<' &&
        match rest with
        | d :: more => isNameStart d && more.all fun e => !isAngle e
        | [] => false)
      || endsInTag rest

/-- The mark that opens character data. -/
def dataOpen : List Char := "<![CDATA[".toList

/-- The mark that closes character data. -/
def dataClose : List Char := "]]>".toList

/-- Whether the text is a declaration or a processing instruction. -/
def isDeclaration (text : List Char) : Bool :=
  let start := Text.trimStart text
  "<?".toList.isPrefixOf start || "<!DOCTYPE".toList.isPrefixOf start

end ChannelLint.Markup
