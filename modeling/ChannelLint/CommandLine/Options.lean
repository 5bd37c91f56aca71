import ChannelLint.CommandLine.Similar
import ChannelLint.CommandLine.Usage

/-!
# Options and arguments

The words of a command line are split into options and arguments. A word that starts with a dash is
an option, or several flags of one letter; two dashes alone end the options. An option's value
follows an equals sign or is the next word, whatever it is.
-/

namespace ChannelLint.CommandLine

/-- An option that a command knows. -/
structure OptionSpec where
  /-- How it is written: with two dashes, or with one and a single letter. -/
  spellings : List String
  /-- Whether it has a value. -/
  takesValue : Bool := false
  deriving DecidableEq, Repr

namespace OptionSpec

/-- The name of an option: its first spelling. -/
def name (spec : OptionSpec) : String :=
  spec.spellings.headD ""

/-- Whether a spelling has two dashes. -/
def isLong (spelling : String) : Bool :=
  spelling.length != 2

end OptionSpec

/-- An option that was given, by name and with its value. -/
structure GivenOption where
  /-- The name of the option. -/
  name : String
  /-- Its value, if it has one. -/
  value : Option String := none
  deriving DecidableEq, Repr

/-- The options and arguments of a command line. -/
structure Words where
  /-- The options in order. -/
  options : List GivenOption := []
  /-- The arguments in order. -/
  arguments : List String := []
  deriving DecidableEq, Repr

namespace Words

/-- Puts options in front. -/
def withOptions (given : List GivenOption) (words : Words) : Words :=
  { words with options := given ++ words.options }

/-- Puts an argument in front. -/
def withArgument (argument : String) (words : Words) : Words :=
  { words with arguments := argument :: words.arguments }

/-- Whether the option was given. -/
def has (words : Words) (name : String) : Bool :=
  words.options.any (·.name == name)

/-- The last value that was given to an option. -/
def lastValue? (words : Words) (name : String) : Option String :=
  ((words.options.filter (·.name == name)).getLast?).bind GivenOption.value

end Words

/-- The option of a spelling. -/
def findOption? (specs : List OptionSpec) (spelling : String) : Option OptionSpec :=
  specs.find? fun spec => spec.spellings.contains spelling

/-- The option of a long spelling; the error names similar ones. -/
def longOption (specs : List OptionSpec) (spelling : String) : Except UsageError OptionSpec :=
  match if OptionSpec.isLong spelling then findOption? specs spelling else none with
  | some spec => .ok spec
  | none =>
      let all := (specs.flatMap OptionSpec.spellings).filter OptionSpec.isLong
      .error (.unknownOption spelling (similarWords spelling all))

/-- The flags of a word of one dash and single letters. -/
def shortFlags (specs : List OptionSpec) : List Char → Except UsageError (List GivenOption)
  | [] => .ok []
  | letter :: rest =>
      let spelling := String.ofList ['-', letter]
      match findOption? specs spelling with
      | none => .error (.unknownOption spelling [])
      | some spec => do
          let others ← shortFlags specs rest
          pure (⟨spec.name, none⟩ :: others)

/-- A word at its first equals sign. -/
def splitAtEquals (word : List Char) : List Char × Option (List Char) :=
  let name := word.takeWhile (· != '=')
  match word.drop name.length with
  | _ :: value => (name, some value)
  | [] => (name, none)

/-- Whether a word is written as an option. -/
def isOptionWord (word : List Char) : Bool :=
  match word with
  | '-' :: _ :: _ => true
  | _ => false

/-- Whether a word starts with two dashes. -/
def isLongWord (word : List Char) : Bool :=
  match word with
  | '-' :: '-' :: _ => true
  | _ => false

/-- The option of a word and whether it waits for its value in the next word. -/
def readOption (specs : List OptionSpec) (word : List Char) :
    Except UsageError (List GivenOption × Option String) :=
  let (spelling, value) := splitAtEquals word
  match longOption specs (String.ofList spelling) with
  | .ok spec =>
      match spec.takesValue, value with
      | true, some value => .ok ([⟨spec.name, some (String.ofList value)⟩], none)
      | true, none => .ok ([], some spec.name)
      | false, some _ => .error (.unexpectedValue (String.ofList spelling))
      | false, none => .ok ([⟨spec.name, none⟩], none)
  | .error error =>
      if isLongWord word then .error error
      else (shortFlags specs (word.drop 1)).map fun given => (given, none)

/-- Splits the words of a command line. When arguments and options may not be mixed, everything from
the first argument on is an argument. `waiting` is the option whose value comes next. -/
def readWords (specs : List OptionSpec) (mixed : Bool) :
    Option String → List String → Except UsageError Words
  | none, [] => .ok {}
  | some name, [] => .error (.missingValue name)
  | some name, value :: rest => do
      let later ← readWords specs mixed none rest
      pure (later.withOptions [⟨name, some value⟩])
  | none, word :: rest =>
      if word == "--" then .ok { arguments := rest }
      else if isOptionWord word.toList then do
        let (given, waiting) ← readOption specs word.toList
        let later ← readWords specs mixed waiting rest
        pure (later.withOptions given)
      else if mixed then do
        let later ← readWords specs mixed none rest
        pure (later.withArgument word)
      else .ok { arguments := word :: rest }

end ChannelLint.CommandLine
