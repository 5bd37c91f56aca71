import ChannelLint.Proofs.Indenting
import ChannelLint.Proofs.LineMapping

/-!
# The directive silences its own line

`appendDirective` puts a comment with the directive at the end of one line of a script. The main
theorem, `inspect_text_append_directive`, compares the two inspections: the warnings of rules on
this line are gone, and all else is the same, errors included. Its parts are that stripping erases
the comment, that the set of suppressed lines grows by this one, that a hit on a suppressed line
still moves the search on, and that the indentation check does not see the end of a line.
-/

namespace ChannelLint

open Text

/-! ## Changing one line -/

namespace Text

/-- The line with an addition at the end of its body. -/
def appendToBody (addition line : List Char) : List Char :=
  (splitTerminator line).1 ++ addition ++ (splitTerminator line).2

/-- The text with one of its lines changed. -/
def modifyLine (change : List Char → List Char) (index : Nat) (text : List Char) : List Char :=
  ((splitLines text).modify index change).flatten

/-- An addition to the body of a line, written out. -/
theorem append_to_body_eq {addition body terminator : List Char} (hbody : '\n' ∉ body)
    (hterminator : IsTerminator terminator) :
    appendToBody addition (body ++ terminator) = body ++ addition ++ terminator := by
  simp [appendToBody, split_terminator_append hbody hterminator]

/-- A line is blank if its body is. -/
theorem is_blank_text_append {body terminator : List Char} (h : IsTerminator terminator) :
    isBlankText (body ++ terminator) = isBlankText body := by
  rcases h with rfl | rfl <;> simp [isBlankText, isBlank]

/-- What holds between each line and itself, and between one line and its change, holds line by
line of the changed list. -/
theorem forall₂_modify {α : Type} {related : α → α → Prop} {change : α → α} {index : Nat}
    {items : List α} (hrefl : ∀ item, related item item)
    (h : ∀ item, items[index]? = some item → related item (change item)) :
    List.Forall₂ related items (items.modify index change) := by
  induction items generalizing index with
  | nil => simp
  | cons item items ih =>
      cases index with
      | zero => exact .cons (h item rfl) (List.forall₂_same.mpr fun next _ => hrefl next)
      | succ index => exact .cons (hrefl item) (ih fun next hnext => h next hnext)

/-- An addition without line feeds to the body of a line keeps its end. -/
theorem stands_in_append_to_body {addition : List Char} (h : '\n' ∉ addition)
    (hne : addition ≠ []) (line : List Char) : StandsIn line (appendToBody addition line) := by
  refine ⟨?_, fun _ => by simp [appendToBody, hne]⟩
  rintro body terminator hbody hterminator rfl
  exact ⟨body ++ addition, by simp [hbody, h], append_to_body_eq hbody hterminator⟩

end Text

/-! ## The comment at the end of a line -/

namespace Comment

/-- The quotes of a text leave no string literal open; the flag says that one is open before it. -/
def EndsOutside (inString : Bool) (code : List Char) : Prop :=
  (code.count '"' + inString.toNat) % 2 = 0

/-- A comment can start at the end of the body, or one has started before: the body holds a comment
mark outside string literals, or none of them is open at its end. -/
def TakesComment (inString : Bool) (body : List Char) : Prop :=
  (∃ before after, body = before ++ scriptMark :: after ∧ EndsOutside inString before) ∨
    EndsOutside inString body

/-- A quote opens or closes a literal. -/
theorem ends_outside_quote {inString : Bool} {code : List Char} :
    EndsOutside inString ('"' :: code) ↔ EndsOutside (!inString) code := by
  cases inString <;> simp [EndsOutside]
  omega

/-- A character that is no quote changes nothing. -/
theorem ends_outside_cons {inString : Bool} {c : Char} {code : List Char} (hc : c ≠ '"') :
    EndsOutside inString (c :: code) ↔ EndsOutside inString code := by
  simp [EndsOutside, hc]

/-- Behind a character that does not start the comment, the rest takes the comment. -/
theorem TakesComment.of_cons {inString after : Bool} {c : Char} {body : List Char}
    (h : TakesComment inString (c :: body)) (hstart : ¬ (c = scriptMark ∧ inString = false))
    (hafter : ∀ code, EndsOutside inString (c :: code) ↔ EndsOutside after code) :
    TakesComment after body := by
  rcases h with ⟨before, rest, heq, hbefore⟩ | h
  · cases before with
    | nil =>
        obtain ⟨rfl, rfl⟩ := List.cons.inj heq
        cases inString with
        | false => exact absurd ⟨rfl, rfl⟩ hstart
        | true => simp [EndsOutside] at hbefore
    | cons d before =>
        obtain ⟨rfl, rfl⟩ := List.cons.inj heq
        exact .inl ⟨before, rest, rfl, (hafter before).mp hbefore⟩
  · exact .inr ((hafter body).mp h)

/-- Stripping erases a comment at the end of a body that takes one. -/
theorem script_code_append {inString : Bool} {body : List Char} (comment : List Char)
    (h : TakesComment inString body) :
    scriptCode inString (body ++ scriptMark :: comment) = scriptCode inString body := by
  -- at the end of the body no literal is open, unless the code has ended before
  induction body generalizing inString with
  | nil =>
      rcases h with ⟨before, after, heq, _⟩ | h
      · simp at heq
      · cases inString with
        | false => rfl
        | true => simp [EndsOutside] at h
  | cons c body ih =>
      rw [List.cons_append, scriptCode, scriptCode]
      split
      case isTrue hquote =>
          obtain rfl : c = '"' := by simpa using hquote
          rw [ih (h.of_cons (by simp [scriptMark]) fun _ => ends_outside_quote)]
      case isFalse hquote =>
          split
          case isTrue => rfl
          case isFalse hmark =>
              have hc : c ≠ '"' := by simpa using hquote
              rw [ih (h.of_cons (by simpa using hmark) fun _ => ends_outside_cons hc)]

end Comment

/-! ## Suppressed lines -/

/-- A word occurs in a text that holds it letter by letter. -/
theorem Text.occurs_folded_append {word : List Char}
    (h : ∀ c ∈ word, sameLetter c.toNat c.toNat = true) (before after : List Char) :
    occursFolded word (before ++ word ++ after) = true := by
  have hword : ∀ rest, dropWord? word (word ++ rest) = some rest := by
    intro rest
    induction word with
    | nil => rfl
    | cons c word ih => simp_all [dropWord?]
  induction before with
  | nil =>
      cases word with
      | nil => cases after <;> simp [occursFolded, dropWord?]
      | cons c word =>
          have hhere := hword after
          simp only [List.nil_append, List.cons_append, occursFolded] at hhere ⊢
          simp [hhere]
  | cons c before ih => simp only [List.cons_append, occursFolded, ih, Bool.or_true]

namespace Suppression

/-- A comment that holds the directive. -/
def comment : List Char :=
  Comment.scriptMark :: directive

/-- A line with the comment at its end is suppressed. -/
theorem is_directive_append_to_body (line : List Char) :
    isDirective (appendToBody comment line) = true := by
  have hletters : directive.all (fun c => sameLetter c.toNat c.toNat) = true := by decide +kernel
  have hoccurs := occurs_folded_append (List.all_eq_true.mp hletters)
    ((splitTerminator line).1 ++ [Comment.scriptMark]) (splitTerminator line).2
  simpa [isDirective, appendToBody, comment] using hoccurs

/-- With the comment at the end of one line, this line is suppressed in addition. -/
theorem mem_lines_modify {index place : Nat} {all : List (List Char)} {line : List Char}
    (hline : all[index]? = some line) :
    place ∈ lines (all.modify index (appendToBody comment)) ↔ place ∈ lines all ∨ place = index := by
  rw [mem_lines, mem_lines, List.getElem?_modify]
  by_cases hplace : index = place
  · subst hplace
    simp [hline, is_directive_append_to_body]
  · simp [hplace, Ne.symm hplace]

end Suppression

/-! ## Warnings of rules -/

namespace Scan

/-- A warning that is not one of a rule on the line. -/
def stays (index : Nat) (warned : Warning) : Bool :=
  warned.found.isNone || warned.line != index

variable {path : Path} {suppressed more : List Nat} {index : Nat}
  (h : ∀ place, place ∈ more ↔ place ∈ suppressed ∨ place = index)
include h

/-- With one more line suppressed, a rule loses its warnings on this line. -/
theorem rule_warnings_suppress [Library] (rule : Rule) (text : Array Char) :
    ruleWarnings rule path more text =
      (ruleWarnings rule path suppressed text).map (List.filter (stays index)) := by
  have hfilter : ∀ hit : Hit, (!more.contains hit.line) =
      (stays index (warning rule path text hit) && !suppressed.contains hit.line) := by
    intro hit
    have hcast : ((hit.line : Int) = index) ↔ hit.line = index := Int.ofNat_inj
    by_cases hhere : hit.line = index <;> simp [stays, warning, h, hhere, hcast]
  unfold ruleWarnings
  rw [rule_hits_suppressed rule more, rule_hits_suppressed rule suppressed]
  cases ruleHits rule [] text with
  | error error => rfl
  | ok found =>
      simp only [hfilter, bind, Except.bind, pure, Except.pure, Except.map, List.filter_map,
        List.filter_filter, Function.comp_def]

/-- With one more line suppressed, the rules lose their warnings on this line. -/
theorem warnings_suppress [Library] (withComments withoutComments : Array Char)
    (rules : List Rule) : warnings path more withComments withoutComments rules =
      (warnings path suppressed withComments withoutComments rules).map
        (List.filter (stays index)) := by
  induction rules with
  | nil => rfl
  | cons rule rest ih =>
      simp only [warnings, rule_warnings_suppress h, ih]
      exact (filter_append_ok (stays index) _ _).symm

end Scan

/-! ## Whole files -/

/-- A changed line that scripts treat as they treat the line. -/
structure ScriptAlike (line changed : List Char) : Prop where
  /-- The same is left of it. -/
  code : Comment.stripScript changed = Comment.stripScript line
  /-- It is blank if the line is. -/
  blank : isBlankText changed = isBlankText line
  /-- It starts with the same spaces and tabs. -/
  leading : Indentation.leading changed = Indentation.leading line

/-- A comment at the end of a line that is not blank and takes it is not seen. -/
theorem ScriptAlike.append_to_body {comment body terminator : List Char} (hbody : '\n' ∉ body)
    (hterminator : IsTerminator terminator) (hcomment : '\n' ∉ comment)
    (hblank : isBlankText body = false) (htakes : Comment.TakesComment false body) :
    ScriptAlike (body ++ terminator)
      (appendToBody (Comment.scriptMark :: comment) (body ++ terminator)) := by
  have hlonger : '\n' ∉ body ++ Comment.scriptMark :: comment := by
    simp [hbody, hcomment, Comment.scriptMark]
  rw [append_to_body_eq hbody hterminator]
  refine ⟨?_, ?_, ?_⟩
  · rw [Comment.strip_script_append hlonger hterminator,
      Comment.strip_script_append hbody hterminator, Comment.script_code_append comment htakes]
  · rw [is_blank_text_append hterminator, is_blank_text_append hterminator, hblank]
    simp only [isBlankText, List.all_append] at hblank ⊢
    rw [hblank, Bool.false_and]
  · rw [List.append_assoc, Indentation.leading_append hblank, Indentation.leading_append hblank]

/-- The lines of a script are stripped each on its own. -/
theorem Comment.strip_lines_script (state : CommentState) (lines : List (List Char)) :
    stripLines .script state lines = lines.map fun line => ⟨line, stripScript line, state⟩ := by
  induction lines with
  | nil => rfl
  | cons line rest ih => simp [stripLines, strip, ih]

/-- Every rule looks at the same text of a script, what is left of its lines. -/
theorem Comment.seen_script (state : CommentState) (lines : List (List Char)) :
    withComments .script (stripLines .script state lines) = (lines.map stripScript).flatten ∧
      withoutComments (stripLines .script state lines) = (lines.map stripScript).flatten := by
  rw [strip_lines_script]
  simp [withComments, withoutComments, List.flatMap, Function.comp_def]

section Alike

variable {lines changed : List (List Char)} (halike : List.Forall₂ ScriptAlike lines changed)
include halike

/-- The same is left of lines that scripts treat alike. -/
theorem strip_lines_code_alike :
    changed.map Comment.stripScript = lines.map Comment.stripScript := by
  induction halike with
  | nil => rfl
  | cons hline hrest ih => rw [List.map_cons, List.map_cons, hline.code, ih]

/-- The depth machine reads lines alike that scripts treat alike. -/
theorem indent_steps_alike (state : CommentState) :
    Inspection.indentSteps .script (Comment.stripLines .script state changed) =
      Inspection.indentSteps .script (Comment.stripLines .script state lines) := by
  simp only [Inspection.indentSteps, Comment.strip_lines_script, List.map_map]
  apply Indentation.run_congr
  rw [List.forall₂_map_left_iff, List.forall₂_map_right_iff]
  refine halike.flip.imp fun line other hline current => ?_
  have hcode : Script.codeOf line = Script.codeOf other := by simp only [Script.codeOf, hline.code]
  simp only [Function.comp, IndentState.step, IndentState.stepScript, hcode]

/-- The indentation check does not tell lines apart that scripts treat alike. -/
theorem misindented_alike (config : IndentConfig) (state : CommentState) :
    Inspection.misindented config .script (Comment.stripLines .script state changed) =
      Inspection.misindented config .script (Comment.stripLines .script state lines) := by
  refine Inspection.misindented_congr ?_ (indent_steps_alike halike state)
  rw [Comment.strip_lines_raw, Comment.strip_lines_raw]
  exact halike.flip.imp fun line other hline =>
    Indentation.checks_alike_of_leading hline.blank hline.leading

end Alike

namespace Inspection

/-- The check of a script's indentation does not tell lines apart that scripts treat alike. -/
theorem indent_warnings_alike {inspector : Inspector} {path : Path}
    {lines changed : List (List Char)} (hpath : Dialect.ofPath path = .script)
    (halike : List.Forall₂ ScriptAlike lines changed) :
    indentWarnings inspector path (Comment.stripLines .script .outside changed) =
      indentWarnings inspector path (Comment.stripLines .script .outside lines) := by
  unfold indentWarnings
  cases inspector.indentation with
  | none => rfl
  | some config => simp only [hpath, misindented_alike halike]

/-- Warnings about indentation match nothing, and so they all stay. -/
theorem indent_warnings_stay (inspector : Inspector) (path : Path)
    (lines : List Comment.StrippedLine) (index : Nat) :
    (indentWarnings inspector path lines).map (List.filter (Scan.stays index)) =
      indentWarnings inspector path lines := by
  cases hwarned : indentWarnings inspector path lines with
  | error error => rfl
  | ok warned =>
      refine congrArg Except.ok (List.filter_eq_self.mpr fun one hone => ?_)
      simp [Scan.stays, found_of_mem_indent_warnings hwarned hone]

/-- The text with a comment that holds the directive at the end of a line. -/
def appendDirective (index : Nat) (text : List Char) : List Char :=
  modifyLine (appendToBody Suppression.comment) index text

/-- With the comment, the lines of the text are the same but for one. -/
theorem split_lines_append_directive (index : Nat) (text : List Char) :
    splitLines (appendDirective index text) =
      (splitLines text).modify index (appendToBody Suppression.comment) :=
  split_lines_of_stands_in (forall₂_modify .refl fun line _ =>
    stands_in_append_to_body (by decide +kernel) (by decide) line)

/-- With the comment, the rules lose their warnings on the line. -/
theorem pattern_warnings_append_directive [Library] {inspector : Inspector} {path : Path}
    {text line : List Char} {index : Nat} (hpath : Dialect.ofPath path = .script)
    (hline : (splitLines text)[index]? = some line)
    (halike : List.Forall₂ ScriptAlike (splitLines text) (splitLines (appendDirective index text))) :
    patternWarnings inspector path (appendDirective index text) =
      (patternWarnings inspector path text).map (List.filter (Scan.stays index)) := by
  have hsuppressed : ∀ place, place ∈ Suppression.lines (splitLines (appendDirective index text)) ↔
      place ∈ Suppression.lines (splitLines text) ∨ place = index := by
    intro place
    rw [split_lines_append_directive, Suppression.mem_lines_modify hline]
  rw [patternWarnings, patternWarnings, Scan.warnings_suppress hsuppressed]
  simp only [strippedLines, hpath, Comment.seen_script, strip_lines_code_alike halike]

/-- A comment with the directive at the end of a line of a script takes away the warnings of rules
on this line, and nothing else. -/
theorem inspect_text_append_directive [Library] {inspector : Inspector} {path : Path}
    {text line : List Char} {index : Nat} (hpath : Dialect.ofPath path = .script)
    (hline : (splitLines text)[index]? = some line) (hblank : isBlankText line = false)
    (htakes : Comment.TakesComment false (splitTerminator line).1) :
    (inspectText inspector path (appendDirective index text)).map Result.warnings =
      (inspectText inspector path text).map fun result =>
        result.warnings.filter fun warned => warned.found.isNone || warned.line != (index : Int) := by
  obtain ⟨body, terminator, hbody, hterminator, rfl⟩ :=
    (split_lines_rows text).body_of_mem (List.mem_of_getElem? hline)
  rw [is_blank_text_append hterminator] at hblank
  rw [split_terminator_append hbody hterminator] at htakes
  have halike : List.Forall₂ ScriptAlike (splitLines text)
      (splitLines (appendDirective index text)) := by
    rw [split_lines_append_directive]
    refine forall₂_modify (fun _ => ⟨rfl, rfl, rfl⟩) fun other hother => ?_
    cases hline.symm.trans hother
    exact .append_to_body hbody hterminator (by decide +kernel) hblank htakes
  -- the indentation check gives the same on both texts, the scan less on the changed one
  have hindentation : indentWarnings inspector path
      (strippedLines path (appendDirective index text)) =
        indentWarnings inspector path (strippedLines path text) := by
    simp only [strippedLines, hpath, indent_warnings_alike hpath halike]
  have hfilter : ∀ outcome : Except LintError Result,
      (outcome.map fun result => result.warnings.filter (Scan.stays index)) =
        (outcome.map Result.warnings).map (List.filter (Scan.stays index)) := by
    rintro (_ | _) <;> rfl
  show _ = (inspectText inspector path text).map fun result =>
    result.warnings.filter (Scan.stays index)
  rw [hfilter, inspect_text_warnings, inspect_text_warnings, filter_append_ok, hindentation,
    indent_warnings_stay, pattern_warnings_append_directive hpath hline halike]

/-- The comment on the second line of a script, which is wrongly indented and holds a match. -/
theorem inspect_text_append_directive_second :
    appendDirective 1 "stop\n  stop\n".toList = "stop\n  stop'ignore-warning\n".toList ∧
      isBlankText "  stop\n".toList = false ∧
      Comment.TakesComment false (splitTerminator "  stop\n".toList).1 ∧
      (inspectText ⟨[{ pattern := "stop" }], some ⟨.space, 4⟩⟩ (.ofString "a.brs")
          (appendDirective 1 "stop\n  stop\n".toList)).map Result.warnings =
        (inspectText ⟨[{ pattern := "stop" }], some ⟨.space, 4⟩⟩ (.ofString "a.brs")
          "stop\n  stop\n".toList).map fun result =>
            result.warnings.filter fun warned => warned.found.isNone || warned.line != 1 := by
  have hline : (splitLines "stop\n  stop\n".toList)[1]? = some "  stop\n".toList := by
    decide +kernel
  have hblank : isBlankText "  stop\n".toList = false := by decide +kernel
  have htakes : Comment.TakesComment false (splitTerminator "  stop\n".toList).1 :=
    .inr (by unfold Comment.EndsOutside; decide +kernel)
  exact ⟨by decide +kernel, hblank, htakes,
    inspect_text_append_directive (by decide +kernel) hline hblank htakes⟩

end Inspection

end ChannelLint
