import TypingAudit.Command.Integer
import TypingAudit.Command.Words

/-!
From the words of a command line to options. Paths must stand together: once a first group of them has been
taken, later ones are not recognised, which is reported after everything else.
-/

namespace TypingAudit.Command

inductive PathGroup where
  | ahead | current | over
deriving DecidableEq, Repr

/-- What has been read so far. A setting is pending while its value is the next word. -/
structure Progress where
  options : Options
  group : PathGroup
  paths : List String
  pending : Option Setting
  unrecognized : List String

def applySwitch (o : Options) : Switch → Except Refusal Options
  | .help => .error .help
  | .ci => .ok { o with ci := true }
  | .skipErrors => .ok { o with skipErrors := true }
  | .listFindings => .ok { o with listFindings := true }
  | .noColor => .ok { o with noColor := true }

def givenText (value : String) : Given String := if value = "--" then .nothing else .value value

def checkChoice (s : Setting) (given : Given String) : Except Refusal Unit :=
  match given, s.choices? with
  | .value value, some choices =>
    if choices.contains value then .ok ()
    else .error (.usage (.invalidChoice (.setting s) value choices))
  | _, _ => .ok ()

def jobsOf (given : Given String) : Except Refusal (Given Int) :=
  match given with
  | .nothing => .ok .nothing
  | .value value =>
    match integer? value with
    | some n => .ok (.value n)
    | none => .error (.usage (.invalidInteger (.setting .jobs) value))

def applySetting (o : Options) (s : Setting) (value : String) : Except Refusal Options := do
  let given := givenText value
  checkChoice s given
  match s with
  | .jsonReport => return { o with jsonReport := some given }
  | .markdownReport => return { o with markdownReport := some given }
  | .exclude => return { o with exclude := o.exclude ++ [given] }
  | .disable => return { o with disable := o.disable ++ [given] }
  | .jobs => return { o with jobs := ← jobsOf given }
  | .logDirectory => return { o with logDirectory := given }
  | .logLevel => return { o with logLevel := given }

/-- A switch with something attached. Only the short one for help may be repeated in one word; anything
else is an error, which names what was left. -/
def attachedSwitch (s : Switch) (spelling attached : String) : Refusal :=
  let rest := if spelling = "-h" then attached.toList.dropWhile (· == 'h') else attached.toList
  if rest.isEmpty && attached != "" then .help
  else .usage (.ignoredValue (.switch s) (String.ofList rest))

namespace Progress

def start : Progress := ⟨.default, .ahead, [], none, []⟩

def closeGroup (p : Progress) : Progress :=
  { p with group := if p.group = .ahead then .ahead else .over }

def takePlain (p : Progress) (word : Word) : Progress :=
  match p.group, word with
  | .over, word => { p with unrecognized := p.unrecognized ++ [word.text] }
  | _, .separator => { p with group := .current }
  | _, word => { p with group := .current, paths := p.paths ++ [word.text] }

def takeOption (p : Progress) (flag : Flag) (spelling : String) (attached : Option String) :
    Except Refusal Progress :=
  match flag, attached with
  | .switch s, none => (applySwitch p.options s).map fun options => { p with options }
  | .switch s, some attached => .error (attachedSwitch s spelling attached)
  | .setting s, some value => (applySetting p.options s value).map fun options => { p with options }
  | .setting s, none => .ok { p with pending := some s }

/-- Takes one word. A pending setting needs a word that is no option. -/
def step (p : Progress) (word : Word) : Except Refusal Progress :=
  match p.pending, word with
  | some s, .plain value =>
    (applySetting p.options s value).map fun options => { p with options, pending := none }
  | some s, _ => .error (.usage (.expectedValue (.setting s)))
  | none, .option flag spelling attached => p.closeGroup.takeOption flag spelling attached
  | none, .unknown text =>
    .ok { p.closeGroup with unrecognized := p.unrecognized ++ [text] }
  | none, word => .ok (p.takePlain word)

/-- The options at the end of the words. Without any path the default stands. -/
def finish (p : Progress) : Except Refusal Options :=
  match p.pending with
  | some s => .error (.usage (.expectedValue (.setting s)))
  | none =>
    if p.unrecognized.isEmpty then
      .ok (if p.paths.isEmpty then p.options else { p.options with paths := p.paths })
    else .error (.usage (.unrecognized p.unrecognized))

end Progress

def readOptions (arguments : List String) : Except Refusal Options := do
  let words ← (readWords arguments).mapError Refusal.usage
  let read ← words.foldlM Progress.step .start
  read.finish

end TypingAudit.Command
