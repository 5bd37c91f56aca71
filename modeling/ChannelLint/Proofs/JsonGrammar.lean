import ChannelLint.Proofs.JsonRoundTrip

/-!
# The grammar of JSON

`Derives` is the standard grammar of JSON texts, with one rule for each form of a value, and
`IsDocument` says that a text is a document of it. A text that names a number which is not finite is
none: outside strings no document has a letter that such a name starts with (`Derives.unnamed`), and
reading characters as inside or outside strings is something that the texts of all values allow
(`Shows`), whether they are documents or not.
-/

namespace ChannelLint.Json

/-! ## Strings -/

/-- The character is a hexadecimal digit. -/
def IsHexDigit (c : Char) : Prop :=
  c.isDigit = true ∨ 'a' ≤ c ∧ c ≤ 'f' ∨ 'A' ≤ c ∧ c ≤ 'F'

/-- What may stand between the quotes of a string. -/
inductive IsContent : List Char → Prop where
  | nil : IsContent []
  | plain {c : Char} {rest : List Char} :
      0x20 ≤ c.toNat → c ≠ '"' → c ≠ '\\' → IsContent rest → IsContent (c :: rest)
  | escape {c : Char} {rest : List Char} :
      c ∈ ['"', '\\', '/', 'b', 'f', 'n', 'r', 't'] → IsContent rest →
        IsContent ('\\' :: c :: rest)
  | unit {a b c d : Char} {rest : List Char} :
      (∀ digit ∈ [a, b, c, d], IsHexDigit digit) → IsContent rest →
        IsContent ('\\' :: 'u' :: a :: b :: c :: d :: rest)

/-- A string: its content in quotes. -/
inductive IsString : List Char → Prop where
  | quoted {content : List Char} : IsContent content → IsString ('"' :: (content ++ ['"']))

/-! ## Numbers -/

/-- One or more digits. -/
def IsDigits (text : List Char) : Prop :=
  text ≠ [] ∧ ∀ c ∈ text, c.isDigit = true

/-- The whole part of a number: a zero, or digits that do not start with one. -/
inductive IsWhole : List Char → Prop where
  | zero : IsWhole ['0']
  | digits {c : Char} {rest : List Char} :
      c ≠ '0' → IsDigits (c :: rest) → IsWhole (c :: rest)

/-- The fraction of a number, if there is one. -/
inductive IsFraction : List Char → Prop where
  | absent : IsFraction []
  | digits {text : List Char} : IsDigits text → IsFraction ('.' :: text)

/-- The exponent of a number, if there is one. -/
inductive IsExponent : List Char → Prop where
  | absent : IsExponent []
  | digits {mark : Char} {sign text : List Char} :
      mark ∈ ['e', 'E'] → sign ∈ [[], ['+'], ['-']] → IsDigits text →
        IsExponent (mark :: (sign ++ text))

/-- A number. -/
inductive IsNumber : List Char → Prop where
  | parts {sign whole fraction exponent : List Char} :
      sign ∈ [[], ['-']] → IsWhole whole → IsFraction fraction → IsExponent exponent →
        IsNumber (sign ++ whole ++ fraction ++ exponent)

/-! ## Documents -/

/-- What the grammar has rules for. -/
inductive Symbol where
  /-- A value. -/
  | value
  /-- A value with blanks around it. -/
  | element
  /-- The elements of an array between its brackets. -/
  | elements
  /-- The members of an object between its braces. -/
  | members

/-- The text is one that the symbol stands for. -/
inductive Derives : Symbol → List Char → Prop where
  | null : Derives .value "null".toList
  | «true» : Derives .value "true".toList
  | «false» : Derives .value "false".toList
  | number {text : List Char} : IsNumber text → Derives .value text
  | string {text : List Char} : IsString text → Derives .value text
  | emptyArray {gap : List Char} : IsGap gap → Derives .value ('[' :: (gap ++ [']']))
  | array {text : List Char} : Derives .elements text → Derives .value ('[' :: (text ++ [']']))
  | emptyObject {gap : List Char} : IsGap gap → Derives .value ('{' :: (gap ++ ['}']))
  | object {text : List Char} : Derives .members text → Derives .value ('{' :: (text ++ ['}']))
  | element {before text after : List Char} :
      IsGap before → Derives .value text → IsGap after → Derives .element (before ++ text ++ after)
  | lastElement {text : List Char} : Derives .element text → Derives .elements text
  | nextElement {text rest : List Char} :
      Derives .element text → Derives .elements rest → Derives .elements (text ++ ',' :: rest)
  | lastMember {before key after text : List Char} :
      IsGap before → IsString key → IsGap after → Derives .element text →
        Derives .members (before ++ key ++ after ++ ':' :: text)
  | nextMember {before key after text rest : List Char} :
      IsGap before → IsString key → IsGap after → Derives .element text → Derives .members rest →
        Derives .members (before ++ key ++ after ++ ':' :: (text ++ ',' :: rest))

/-- The text is a JSON document. -/
def IsDocument (text : List Char) : Prop :=
  Derives .element text

/-! ## Characters outside strings -/

/-- Where a character stands. -/
inductive Quoting where
  /-- Outside strings. -/
  | outside
  /-- Inside a string. -/
  | inside
  /-- Behind a backslash in a string. -/
  | escaped

/-- The characters of a text that stand outside strings. -/
def bare : Quoting → List Char → List Char
  | _, [] => []
  | .outside, c :: rest => if c == '"' then bare .inside rest else c :: bare .outside rest
  | .inside, c :: rest =>
      if c == '"' then bare .outside rest
      else if c == '\\' then bare .escaped rest
      else bare .inside rest
  | .escaped, _ :: rest => bare .inside rest

/-- The text has the given characters outside strings, and no string is open at its end. -/
def Shows (text shown : List Char) : Prop :=
  ∀ rest, bare .outside (text ++ rest) = shown ++ bare .outside rest

/-- The characters of two texts stand one after the other. -/
theorem Shows.append {first second shown others : List Char} (hfirst : Shows first shown)
    (hsecond : Shows second others) : Shows (first ++ second) (shown ++ others) := by
  intro rest
  rw [List.append_assoc, hfirst, hsecond, List.append_assoc]

/-- A text without quotes stands outside strings. -/
theorem shows_unquoted {text : List Char} (h : '"' ∉ text) : Shows text text := by
  intro rest
  induction text with
  | nil => rfl
  | cons c text ih =>
      have hc : (c == '"') = false := by simpa using Ne.symm (List.ne_of_not_mem_cons h)
      simp [bare, hc, ih (List.not_mem_of_not_mem_cons h)]

/-- Only one text of characters stands outside strings. -/
theorem Shows.unique {text shown others : List Char} (h : Shows text shown)
    (hothers : Shows text others) : shown = others := by
  simpa using (h []).symm.trans (hothers [])

/-- A string is read up to its quote. -/
theorem IsContent.bare_inside {content : List Char} (h : IsContent content) (rest : List Char) :
    bare .inside (content ++ '"' :: rest) = bare .outside rest := by
  induction h with
  | nil => simp [bare]
  | plain hcode hquote hslash hrest ih => simp [bare, hquote, hslash, ih]
  | escape hc hrest ih => simp [bare, ih]
  | @unit a b c d rest hdigits hrest ih =>
      -- no digit is a quote or a backslash
      have hplain : ∀ digit ∈ [a, b, c, d], digit ≠ '"' ∧ digit ≠ '\\' := by
        intro digit hdigit
        have hhex := hdigits digit hdigit
        constructor <;> rintro rfl <;> simp [IsHexDigit] at hhex
      simp only [List.forall_mem_cons] at hplain
      simp [bare, hplain, ih]

/-- No character of a string stands outside strings. -/
theorem IsString.shows {text : List Char} (h : IsString text) : Shows text [] := by
  cases h with
  | quoted hcontent =>
      intro rest
      simp [bare, hcontent.bare_inside]

/-! ## Names of numbers -/

/-- Outside its strings the text has no letter that the name of a number which is not finite starts
with. -/
def Unnamed (text : List Char) : Prop :=
  ∃ shown, Shows text shown ∧ 'N' ∉ shown ∧ 'I' ∉ shown

/-- Two such texts make up one. -/
theorem Unnamed.append {first second : List Char} (hfirst : Unnamed first)
    (hsecond : Unnamed second) : Unnamed (first ++ second) := by
  obtain ⟨shown, hshown, hshownN, hshownI⟩ := hfirst
  obtain ⟨others, hothers, hothersN, hothersI⟩ := hsecond
  exact ⟨shown ++ others, hshown.append hothers, by simp [hshownN, hothersN],
    by simp [hshownI, hothersI]⟩

/-- A text without quotes and these letters is such a text. -/
theorem unnamed_unquoted {text : List Char} (h : ∀ c ∈ ['"', 'N', 'I'], c ∉ text) : Unnamed text :=
  ⟨text, shows_unquoted (h '"' (by simp)), h 'N' (by simp), h 'I' (by simp)⟩

/-- A mark is such a text. -/
theorem unnamed_mark {c : Char} (h : c ∉ ['"', 'N', 'I']) : Unnamed [c] :=
  unnamed_unquoted fun _ hletter hmem => h (List.mem_singleton.mp hmem ▸ hletter)

/-- A mark in front of such a text leaves it such. -/
theorem Unnamed.cons {c : Char} {text : List Char} (hc : c ∉ ['"', 'N', 'I']) (h : Unnamed text) :
    Unnamed (c :: text) :=
  (unnamed_mark hc).append h

/-- A gap is such a text. -/
theorem unnamed_gap {gap : List Char} (h : IsGap gap) : Unnamed gap := by
  have hblanks : ∀ c ∈ ['"', 'N', 'I'], c ∉ blanks := by simp [blanks]
  exact unnamed_unquoted fun c hc hmem => hblanks c hc (h c hmem)

/-- A string is such a text. -/
theorem IsString.unnamed {text : List Char} (h : IsString text) : Unnamed text :=
  ⟨[], h.shows, List.not_mem_nil, List.not_mem_nil⟩

/-- The characters of a number. -/
theorem IsNumber.chars {text : List Char} (h : IsNumber text) :
    ∀ c ∈ text, c.isDigit = true ∨ c ∈ ['-', '+', '.', 'e', 'E'] := by
  cases h with
  | @parts sign whole fraction exponent hsign hwhole hfraction hexponent =>
      intro c hc
      simp only [List.mem_append] at hc
      rcases hc with ((hc | hc) | hc) | hc
      · simp only [List.mem_cons, List.not_mem_nil, or_false] at hsign
        rcases hsign with rfl | rfl <;> simp_all
      · cases hwhole with
        | zero => simp_all
        | digits _ hdigits => exact .inl (hdigits.2 c hc)
      · cases hfraction with
        | absent => cases hc
        | digits hdigits =>
            rcases List.mem_cons.mp hc with rfl | hc
            · simp
            · exact .inl (hdigits.2 c hc)
      · cases hexponent with
        | absent => cases hc
        | digits hmark hsign hdigits =>
            rcases List.mem_cons.mp hc with rfl | hc
            · simp_all
            · rcases List.mem_append.mp hc with hc | hc
              · simp only [List.mem_cons, List.not_mem_nil, or_false] at hsign
                rcases hsign with rfl | rfl | rfl <;> simp_all
              · exact .inl (hdigits.2 c hc)

/-- A number is such a text. -/
theorem IsNumber.unnamed {text : List Char} (h : IsNumber text) : Unnamed text := by
  have hletters : ∀ c ∈ ['"', 'N', 'I'],
      ¬ (c.isDigit = true ∨ c ∈ ['-', '+', '.', 'e', 'E']) := by simp
  exact unnamed_unquoted fun c hc hmem => hletters c hc (h.chars c hmem)

/-- The texts of the grammar are such texts. -/
theorem Derives.unnamed {symbol : Symbol} {text : List Char} (h : Derives symbol text) :
    Unnamed text := by
  have hbracket : Unnamed [']'] := unnamed_mark (by decide)
  have hbrace : Unnamed ['}'] := unnamed_mark (by decide)
  induction h with
  | null => exact unnamed_unquoted (by simp)
  | «true» => exact unnamed_unquoted (by simp)
  | «false» => exact unnamed_unquoted (by simp)
  | number h => exact h.unnamed
  | string h => exact h.unnamed
  | emptyArray hgap => exact ((unnamed_gap hgap).append hbracket).cons (by decide)
  | array h ih => exact (ih.append hbracket).cons (by decide)
  | emptyObject hgap => exact ((unnamed_gap hgap).append hbrace).cons (by decide)
  | object h ih => exact (ih.append hbrace).cons (by decide)
  | element hbefore h hafter ih =>
      exact ((unnamed_gap hbefore).append ih).append (unnamed_gap hafter)
  | lastElement h ih => exact ih
  | nextElement h hrest ih ihrest => exact ih.append (ihrest.cons (by decide))
  | lastMember hbefore hkey hafter h ih =>
      exact (((unnamed_gap hbefore).append hkey.unnamed).append (unnamed_gap hafter)).append
        (ih.cons (by decide))
  | nextMember hbefore hkey hafter h hrest ih ihrest =>
      exact (((unnamed_gap hbefore).append hkey.unnamed).append (unnamed_gap hafter)).append
        ((ih.append (ihrest.cons (by decide))).cons (by decide))

end ChannelLint.Json
