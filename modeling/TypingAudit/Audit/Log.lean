/-!
Values that come with a log. Composition keeps the records in the order in which they arise.
-/

namespace TypingAudit.Audit

inductive LogLevel where
  | debug | info | warning | error | critical
deriving DecidableEq, Repr

namespace LogLevel

def name : LogLevel → String
  | .debug => "DEBUG"
  | .info => "INFO"
  | .warning => "WARNING"
  | .error => "ERROR"
  | .critical => "CRITICAL"

def rank : LogLevel → Nat
  | .debug => 10
  | .info => 20
  | .warning => 30
  | .error => 40
  | .critical => 50

def all : List LogLevel := [.debug, .info, .warning, .error, .critical]

def named? (name : String) : Option LogLevel := all.find? fun level => level.name == name

end LogLevel

structure LogRecord where
  level : LogLevel
  message : String
deriving DecidableEq, Repr

structure Logged (α : Type) where
  value : α
  log : List LogRecord

namespace Logged

variable {α β : Type}

def record (level : LogLevel) (message : String) : Logged Unit := ⟨(), [⟨level, message⟩]⟩

def debug (message : String) : Logged Unit := record .debug message
def info (message : String) : Logged Unit := record .info message
def warning (message : String) : Logged Unit := record .warning message
def error (message : String) : Logged Unit := record .error message

instance : Monad Logged where
  pure a := ⟨a, []⟩
  bind x f :=
    let y := f x.value
    ⟨y.value, x.log ++ y.log⟩

end Logged

end TypingAudit.Audit
