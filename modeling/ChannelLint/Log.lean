import ChannelLint.Log.Template

/-!
# Logging

Messages of the tool's loggers go to the error output when they reach its level. Configuring again
replaces the outlet that was installed before and leaves outlets of others alone. While nothing is
configured, only messages from warnings on are written, as they are, unless another outlet takes
them.
-/

namespace ChannelLint.Log

/-- The level of debug messages. -/
def debugLevel : Int := 10

/-- The level of informative messages. -/
def infoLevel : Int := 20

/-- The level of warnings. -/
def warningLevel : Int := 30

/-- The level for the given switches; `verbose` wins. -/
def resolveLevel (verbose quiet : Bool) : Int :=
  if verbose then debugLevel else if quiet then warningLevel else infoLevel

/-- The name of a level. -/
def levelName (level : Int) : String :=
  if level == 10 then "DEBUG"
  else if level == 20 then "INFO"
  else if level == 30 then "WARNING"
  else if level == 40 then "ERROR"
  else if level == 50 then "CRITICAL"
  else "Level " ++ toString level

/-- The name of the tool's logger, above all others of the tool. -/
def loggerName : String := "brslint"

/-- The logger of the scanner. -/
def scannerName : String := "brslint.scanner"

/-- The logger of the command line. -/
def commandLineName : String := "brslint.cli"

/-- How the tool's own outlet shows messages. -/
inductive Style where
  /-- The message alone. -/
  | brief
  /-- The message with its level and logger. -/
  | detailed
  deriving DecidableEq, Repr

/-- A message as a style shows it. -/
def Style.render (style : Style) (logger : String) (level : Int) (message : String) : String :=
  match style with
  | brief => "brslint: " ++ message
  | detailed => "brslint [" ++ levelName level ++ "] " ++ logger ++ ": " ++ message

/-- The outlets of the tool's logger and its level, which is zero while it is not set. -/
structure Setup where
  /-- The tool's own outlet, if it is installed. -/
  own : Option Style := none
  /-- The number of outlets of others. -/
  others : Nat := 0
  /-- The level. -/
  level : Int := 0
  deriving DecidableEq, Repr

namespace Setup

/-- Installs the tool's own outlet and sets the level. -/
def configure (setup : Setup) (verbose quiet : Bool) : Setup :=
  { setup with
    own := some (if verbose then .detailed else .brief)
    level := resolveLevel verbose quiet }

/-- Adds an outlet of others, which writes nothing here. -/
def addOther (setup : Setup) : Setup :=
  { setup with others := setup.others + 1 }

/-- The number of outlets. -/
def outlets (setup : Setup) : Nat :=
  setup.others + if setup.own.isSome then 1 else 0

/-- Whether a logger is the tool's or stands below it. -/
def covers (logger : String) : Bool :=
  logger == loggerName || (loggerName ++ ".").toList.isPrefixOf logger.toList

/-- The level from which on messages of a logger are written. -/
def threshold (setup : Setup) (logger : String) : Int :=
  if covers logger && setup.level != 0 then setup.level else warningLevel

/-- What is written for a message. -/
def write (setup : Setup) (logger : String) (level : Int) (message : String) : String :=
  if level < setup.threshold logger || level ≤ 0 then ""
  else if covers logger && setup.outlets != 0 then
    match setup.own with
    | some style => style.render logger level message ++ "\n"
    | none => ""
  else if level < warningLevel then ""
  else message ++ "\n"

/-- What is written for a template filled with values. -/
def writeFilled (setup : Setup) (logger : String) (level : Int) (template : String)
    (values : List Value) : String :=
  match fill? template values with
  | some message => setup.write logger level message
  | none => ""

end Setup

end ChannelLint.Log
