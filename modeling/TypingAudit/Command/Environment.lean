import TypingAudit.Storage.Home

/-!
What a run sees of its surroundings besides files and arguments.
-/

namespace TypingAudit.Command

open Storage

structure Clock where
  /-- In the name of the log file. -/
  inName : String
  /-- In front of a log line. -/
  inLog : String
  /-- In a report. -/
  inReport : String

structure Environment where
  assignments : List (String × String)
  homes : Homes
  terminal : Bool
  processors : Nat
  clock : Clock

namespace Environment

def setting? (e : Environment) (name : String) : Option String := e.assignments.lookup name

end Environment

namespace Variable

def jsonReport : String := "TYPE_SAFETY_JSON_REPORT"
def markdownReport : String := "TYPE_SAFETY_MARKDOWN_REPORT"
def targetFile : String := "TYPE_SAFETY_TARGET_FILE"
def noColor : String := "NO_COLOR"

end Variable

end TypingAudit.Command
