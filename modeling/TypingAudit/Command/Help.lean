import TypingAudit.Command.Options

/-!
What the command line tells about itself.
-/

namespace TypingAudit.Command

def programName : String := "type-safety-audit"

namespace Setting

def placeholder : Setting → String
  | .jsonReport => "JSON_REPORT"
  | .markdownReport => "MARKDOWN_REPORT"
  | .exclude => "GLOB"
  | .disable => "CODE"
  | .jobs => "JOBS"
  | .logDirectory => "LOG_DIR"
  | .logLevel => "LOG_LEVEL"

end Setting

namespace Flag

def summary : Flag → String
  | .switch .help => "show this help message and exit"
  | .switch .ci =>
    "CI mode: skip the Markdown report and exit 1 when any error-severity issue is found."
  | .switch .skipErrors =>
    "Log and skip units that cannot be parsed instead of aborting the run."
  | .switch .listFindings => "Log every finding to the console."
  | .switch .noColor => "Disable coloured console output."
  | .setting .jsonReport =>
    "Structured report path (default: $TYPE_SAFETY_JSON_REPORT or type-safety-report.json)."
  | .setting .markdownReport =>
    "Narrative report path (default: $TYPE_SAFETY_MARKDOWN_REPORT or docs/TYPE_SAFETY_REPORT.md)."
  | .setting .exclude => "Skip units whose path or file name matches GLOB (repeatable)."
  | .setting .disable =>
    "Turn off one rule (repeatable). Codes: " ++ ", ".intercalate Audit.Code.all ++ "."
  | .setting .jobs => "Worker processes for analysis; 0 uses one per CPU (default: 1)."
  | .setting .logDirectory =>
    "Directory where timestamped analysis logs are written (default: logs)."
  | .setting .logLevel => "Console/log verbosity (default: INFO)."

def usage (spelling : String) : Flag → String
  | .switch _ => spelling
  | .setting s => spelling ++ " " ++ s.placeholder

end Flag

/-- The options in one line. The second spelling of help is left out. -/
def usageLine : String :=
  let shown := Flag.spellings.filter fun s => s.1 != "--help"
  "usage: " ++ programName ++ " "
    ++ " ".intercalate (shown.map fun s => "[" ++ s.2.usage s.1 ++ "]") ++ " [paths ...]"

def helpText : String :=
  let line := fun s : String × Flag => "  " ++ s.2.usage s.1 ++ "\n      " ++ s.2.summary
  "\n".intercalate ([usageLine, "", "Flag type-safety weaknesses in Python source trees.", "",
    "positional arguments:",
    "  paths\n      Files or directories to analyse (default: current directory).", "",
    "options:"] ++ Flag.spellings.map line) ++ "\n"

end TypingAudit.Command
