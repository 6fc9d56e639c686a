import TypingAudit.Audit.Finding
import TypingAudit.Audit.Log

/-!
Colours and symbols of the console. Both can be switched off, and a colour is only ever put round a text
with the code that ends it.
-/

namespace TypingAudit.Console

open Audit

namespace Color

def red : String := "\x1b[31m"
def yellow : String := "\x1b[33m"
def green : String := "\x1b[32m"
def blue : String := "\x1b[34m"
def bold : String := "\x1b[1m"
def reset : String := "\x1b[0m"

def ofRank : Int → String
  | 10 => blue
  | 20 => green
  | 30 => yellow
  | 40 => red
  | 50 => red ++ bold
  | _ => ""

def ofSeverity (severity : String) : String :=
  if severity = Severity.error then red ++ bold
  else if severity = Severity.warning then yellow
  else blue

end Color

namespace Symbol

def error : String := "🚨"
def warning : String := "⚠️"
def info : String := "ℹ️"
def clean : String := "✅"

end Symbol

structure Style where
  colors : Bool
  symbols : Bool
deriving DecidableEq, Repr

namespace Style

def plain : Style := ⟨false, false⟩
def full : Style := ⟨true, true⟩

/-- The style of a run: full on a terminal unless colours are refused. -/
def choose (noColor terminal : Bool) (refusal : Option String) : Style :=
  if !noColor && terminal && (refusal.getD "").isEmpty then full else plain

def paint (s : Style) (color text : String) : String :=
  if s.colors && color != "" then color ++ text ++ Color.reset else text

def symbol (s : Style) (symbol : String) : String := if s.symbols then symbol else ""

def severitySymbol (s : Style) (severity : String) : String :=
  s.symbol (if severity = Severity.error then Symbol.error
    else if severity = Severity.warning then Symbol.warning
    else Symbol.info)

def line (s : Style) (rank : Int) (level message : String) : String :=
  s.paint (Color.ofRank rank) level ++ ": " ++ message

end Style

end TypingAudit.Console
