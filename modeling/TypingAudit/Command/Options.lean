import TypingAudit.Audit.Finding
import TypingAudit.Audit.Log
import TypingAudit.Text.Quoted

/-!
The options of the command line, how they are spelled, and what can be wrong with a use of them.
-/

namespace TypingAudit.Command

open Audit Text

/-- What an option was given. The word `--`, given as a value, is taken out and leaves nothing. -/
inductive Given (α : Type) where
  | value (a : α)
  | nothing
deriving DecidableEq, Repr

namespace Given

variable {α : Type}

def value? : Given α → Option α
  | .value a => some a
  | .nothing => none

end Given

structure Options where
  paths : List String
  ci : Bool
  jsonReport : Option (Given String)
  markdownReport : Option (Given String)
  exclude : List (Given String)
  disable : List (Given String)
  jobs : Given Int
  skipErrors : Bool
  listFindings : Bool
  noColor : Bool
  logDirectory : Given String
  logLevel : Given String
deriving DecidableEq, Repr

namespace Options

def default : Options where
  paths := ["."]
  ci := false
  jsonReport := none
  markdownReport := none
  exclude := []
  disable := []
  jobs := .value 1
  skipErrors := false
  listFindings := false
  noColor := false
  logDirectory := .value "logs"
  logLevel := .value "INFO"

end Options

inductive Switch where
  | help | ci | skipErrors | listFindings | noColor
deriving DecidableEq, Repr

inductive Setting where
  | jsonReport | markdownReport | exclude | disable | jobs | logDirectory | logLevel
deriving DecidableEq, Repr

inductive Flag where
  | switch (s : Switch)
  | setting (s : Setting)
deriving DecidableEq, Repr

namespace Flag

/-- Every spelling with its option, in the order in which they are listed to users. -/
def spellings : List (String × Flag) :=
  [("-h", .switch .help), ("--help", .switch .help), ("--ci", .switch .ci),
    ("--json-report", .setting .jsonReport), ("--markdown-report", .setting .markdownReport),
    ("--exclude", .setting .exclude), ("--disable", .setting .disable), ("--jobs", .setting .jobs),
    ("--skip-errors", .switch .skipErrors), ("--list-findings", .switch .listFindings),
    ("--no-color", .switch .noColor), ("--log-dir", .setting .logDirectory),
    ("--log-level", .setting .logLevel)]

def label (f : Flag) : String :=
  "/".intercalate ((spellings.filter fun s => s.2 = f).map Prod.fst)

end Flag

namespace Setting

def choices? : Setting → Option (List String)
  | .disable => some Code.all
  | .logLevel => some (LogLevel.all.map LogLevel.name)
  | _ => none

end Setting

inductive UsageError where
  | ambiguous (word : String) (candidates : List String)
  | expectedValue (flag : Flag)
  | ignoredValue (flag : Flag) (value : String)
  | invalidInteger (flag : Flag) (value : String)
  | invalidChoice (flag : Flag) (value : String) (choices : List String)
  | unrecognized (words : List String)
deriving DecidableEq, Repr

namespace UsageError

def about (flag : Flag) (message : String) : String := "argument " ++ flag.label ++ ": " ++ message

def message : UsageError → String
  | .ambiguous word candidates =>
    "ambiguous option: " ++ word ++ " could match " ++ ", ".intercalate candidates
  | .expectedValue flag => about flag "expected one argument"
  | .ignoredValue flag value => about flag ("ignored explicit argument " ++ quotedString value)
  | .invalidInteger flag value => about flag ("invalid int value: " ++ quotedString value)
  | .invalidChoice flag value choices =>
    about flag ("invalid choice: " ++ quotedString value ++ " (choose from "
      ++ ", ".intercalate (choices.map quotedString) ++ ")")
  | .unrecognized words => "unrecognized arguments: " ++ " ".intercalate words

end UsageError

inductive Refusal where
  | help
  | usage (error : UsageError)
deriving DecidableEq, Repr

end TypingAudit.Command
