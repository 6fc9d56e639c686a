import TypingAudit.Decimal.Shortest
import TypingAudit.Text.Quoted
import TypingAudit.Ast.Expr

/-!
The text of an expression. Every kind of expression has a level, every place requires one, and an
expression stands in parentheses where the place requires more than its own level. Inside a formatted
string no backslash may appear; an expression that cannot do without is refused, and so is an integer of
more digits than a reader would accept.
-/

namespace TypingAudit.Ast

open Text (CodePoints)
open Decimal (Layout)

inductive PrintError where
  | backslashInField
  | integerTooLong
  | tooDeep
deriving DecidableEq, Repr

namespace PrintError

def message : PrintError → String
  | .backslashInField => "Unable to avoid backslash in f-string expression part"
  | .integerTooLong =>
    "Exceeds the limit (4300 digits) for integer string conversion; " ++
      "use sys.set_int_max_str_digits() to increase the limit"
  | .tooDeep => "maximum recursion depth exceeded"

end PrintError

/-- Levels of binding, from the loosest to the tightest. -/
abbrev Level := Nat

namespace Level

def namedExpr : Level := 0
def tuple : Level := 1
def yield : Level := 2
def test : Level := 3
def or : Level := 4
def and : Level := 5
def not : Level := 6
def cmp : Level := 7
def bitOr : Level := 8
def bitXor : Level := 9
def bitAnd : Level := 10
def shift : Level := 11
def arith : Level := 12
def term : Level := 13
def factor : Level := 14
def power : Level := 15
def await : Level := 16
def atom : Level := 17

def next (level : Level) : Level := if level < atom then level + 1 else atom

end Level

namespace BinOp

def symbol : BinOp → String
  | .add => "+" | .sub => "-" | .mult => "*" | .matMult => "@" | .div => "/" | .mod => "%"
  | .lShift => "<<" | .rShift => ">>" | .bitOr => "|" | .bitXor => "^" | .bitAnd => "&"
  | .floorDiv => "//" | .pow => "**"

def level : BinOp → Level
  | .add | .sub => .arith
  | .mult | .matMult | .div | .mod | .floorDiv => .term
  | .lShift | .rShift => .shift
  | .bitOr => .bitOr
  | .bitXor => .bitXor
  | .bitAnd => .bitAnd
  | .pow => .power

def operandLevels (op : BinOp) : Level × Level :=
  if op = .pow then (Level.next op.level, op.level) else (op.level, Level.next op.level)

end BinOp

namespace UnaryOp

def symbol : UnaryOp → String
  | .invert => "~" | .not => "not " | .plus => "+" | .minus => "-"

def level : UnaryOp → Level
  | .not => .not
  | _ => .factor

end UnaryOp

namespace BoolOp

def symbol : BoolOp → String
  | .and => "and"
  | .or => "or"

def level : BoolOp → Level
  | .and => .and
  | .or => .or

end BoolOp

namespace CmpOp

def symbol : CmpOp → String
  | .eq => "==" | .notEq => "!=" | .lt => "<" | .ltE => "<=" | .gt => ">" | .gtE => ">="
  | .is => "is" | .isNot => "is not" | .isIn => "in" | .notIn => "not in"

end CmpOp

namespace Conversion

def symbol : Conversion → String
  | .str => "!s" | .repr => "!r" | .ascii => "!a"

end Conversion

/-- Floats stay positional from four places after the point to sixteen before it, whole ones keep a zero
after the point, and infinity is written as a literal that overflows. -/
def floatLayout : Layout := ⟨-4, 16, true, "1e309"⟩

def imaginaryLayout : Layout := { floatLayout with keepsPoint := false }

/-- Longer integers have no text. -/
def maxIntegerDigits : Nat := 4300

namespace Constant

def printInt (n : Nat) : Except PrintError String :=
  if Nat.pow 10 maxIntegerDigits ≤ n then .error .integerTooLong else .ok (toString n)

/-- The text of a literal; `sparing` avoids backslashes where it can. -/
def print (sparing : Bool) : Constant → Except PrintError String
  | .none => .ok "None"
  | .bool true => .ok "True"
  | .bool false => .ok "False"
  | .ellipsis => .ok "..."
  | .str text marked =>
    let quoted :=
      if sparing then Text.Sparing.enclose (Text.Sparing.write text Text.Sparing.quotes false)
      else text.quoted
    .ok (if marked then "u" ++ quoted else quoted)
  | .bytes data => .ok (Text.quotedBytes data)
  | .int n => printInt n
  | .float value => .ok (floatLayout.write value)
  | .imaginary value => .ok (imaginaryLayout.write value ++ "j")

end Constant

namespace Printer

def parenthesize (needed : Bool) (text : String) : String :=
  if needed then "(" ++ text ++ ")" else text

def commas (texts : List String) : String := ", ".intercalate texts

/-- A sequence of items; a single one is followed by a comma. -/
def items : List String → String
  | [only] => only ++ ","
  | texts => commas texts

def isTruthNumber : Expr → Bool
  | .constant _ (.int _) => true
  | .constant _ (.bool _) => true
  | _ => false

def doubleBraces (text : CodePoints) : CodePoints :=
  ⟨text.points.flatMap fun point =>
    if point = '\x7b'.toNat || point = '\x7d'.toNat then [point, point] else [point]⟩

/-- The expression of a replacement field must do without backslashes. -/
def withoutBackslash (value : String) : Except PrintError String :=
  if value.toList.contains '\\' then .error .backslashInField else .ok value

def field (value : String) (conversion : Option Conversion) (format : Option CodePoints) :
    CodePoints :=
  let space := if value.toList.head? = some '\x7b' then " " else ""
  let mark := (conversion.map Conversion.symbol).getD ""
  let front := CodePoints.ofString ("\x7b" ++ space ++ value ++ mark)
  let format := match format with
    | some text => CodePoints.ofString ":" ++ text
    | none => ⟨[]⟩
  front ++ format ++ CodePoints.ofString "\x7d"

def joinedString (sparing : Bool) (parts : List (CodePoints × Bool)) : String :=
  let quotes := Text.Sparing.quotes
  if sparing then
    let whole := parts.foldl (fun acc part => acc ++ part.1) ⟨[]⟩
    "f" ++ Text.Sparing.enclose (Text.Sparing.write whole quotes false)
  else
    let common := Text.Sparing.writeParts? parts quotes
    "f" ++ Text.Sparing.enclose (common.getD (Text.Sparing.writePlainly parts))

def withDefaults (names : List String) (defaults : List (Option String)) : List String :=
  List.zipWith (fun name default =>
    match default with
    | some value => name ++ "=" ++ value
    | none => name) names defaults

/-- Positional parameters pair with the defaults from the last one back. -/
def padDefaults (count : Nat) (defaults : List String) : List (Option String) :=
  List.replicate (count - defaults.length) none ++ defaults.map some

def paramList (posOnly regular : List String) (defaults : List String) (varArg : Option String)
    (kwOnly : List String) (kwDefaults : List (Option String)) (kwArg : Option String) : String :=
  let positional := withDefaults (posOnly ++ regular)
    (padDefaults (posOnly.length + regular.length) defaults)
  let slash := if posOnly.isEmpty then [] else ["/"]
  let star := match varArg with
    | some name => ["*" ++ name]
    | none => if kwOnly.isEmpty then [] else ["*"]
  let rest := match kwArg with
    | some name => ["**" ++ name]
    | none => []
  commas (positional.take posOnly.length ++ slash ++ positional.drop posOnly.length ++ star ++
    withDefaults kwOnly kwDefaults ++ rest)

def dictEntries (keys : List (Option String)) (values : List String) : List String :=
  List.zipWith (fun key value =>
    match key with
    | some key => key ++ ": " ++ value
    | none => "**" ++ value) keys values

def valueLevels (keys : List (Option Expr)) : List Level :=
  keys.map fun key => if key.isNone then .bitOr else .test

def comparisonText (left : String) (ops : List CmpOp) (rights : List String) : String :=
  left ++ String.join (List.zipWith (fun op right => " " ++ op.symbol ++ " " ++ right) ops rights)

end Printer

open Printer

mutual

/-- The text of an expression in a place that requires `level`. -/
def Expr.printAt (sparing : Bool) (level : Level) : Expr → Except PrintError String
  | .boolOp _ op values => do
    let texts ← printRising sparing op.level values
    return parenthesize (op.level < level) ((" " ++ op.symbol ++ " ").intercalate texts)
  | .named _ target value => do
    let target ← target.printAt sparing .atom
    let value ← value.printAt sparing .atom
    return parenthesize (Level.namedExpr < level) (target ++ " := " ++ value)
  | .binOp _ left op right => do
    let left ← left.printAt sparing op.operandLevels.1
    let right ← right.printAt sparing op.operandLevels.2
    return parenthesize (op.level < level) (left ++ " " ++ op.symbol ++ " " ++ right)
  | .unaryOp _ op operand => do
    let operand ← operand.printAt sparing op.level
    return parenthesize (op.level < level) (op.symbol ++ operand)
  | .lambda _ params body => do
    let params ← params.print sparing
    let body ← body.printAt sparing .test
    let space := if params.isEmpty then "" else " "
    return parenthesize (Level.test < level) ("lambda" ++ space ++ params ++ ": " ++ body)
  | .ifExp _ test body orelse => do
    let body ← body.printAt sparing (Level.next .test)
    let test ← test.printAt sparing (Level.next .test)
    let orelse ← orelse.printAt sparing .test
    return parenthesize (Level.test < level) (body ++ " if " ++ test ++ " else " ++ orelse)
  | .dict _ keys values => do
    let keyTexts ← printOptions sparing keys
    let valueTexts ← printLevels sparing (valueLevels keys) values
    return "\x7b" ++ commas (dictEntries keyTexts valueTexts) ++ "\x7d"
  | .set _ elts => do
    let texts ← printAll sparing elts
    return if texts.isEmpty then "\x7b*()\x7d" else "\x7b" ++ commas texts ++ "\x7d"
  | .listComp _ elt generators => do
    let elt ← elt.printAt sparing .test
    let generators ← printGenerators sparing generators
    return "[" ++ elt ++ generators ++ "]"
  | .setComp _ elt generators => do
    let elt ← elt.printAt sparing .test
    let generators ← printGenerators sparing generators
    return "\x7b" ++ elt ++ generators ++ "\x7d"
  | .dictComp _ key value generators => do
    let key ← key.printAt sparing .test
    let value ← value.printAt sparing .test
    let generators ← printGenerators sparing generators
    return "\x7b" ++ key ++ ": " ++ value ++ generators ++ "\x7d"
  | .generator _ elt generators => do
    let elt ← elt.printAt sparing .test
    let generators ← printGenerators sparing generators
    return "(" ++ elt ++ generators ++ ")"
  | .await _ value => do
    let value ← value.printAt sparing .atom
    return parenthesize (Level.await < level) ("await " ++ value)
  | .yield _ value => do
    let value ← printOption sparing .atom value
    let text := match value with
      | some value => "yield " ++ value
      | none => "yield"
    return parenthesize (Level.yield < level) text
  | .yieldFrom _ value => do
    let value ← value.printAt sparing .atom
    return parenthesize (Level.yield < level) ("yield from " ++ value)
  | .compare _ left ops comparators => do
    let left ← left.printAt sparing (Level.next .cmp)
    let rights ← printAllAt sparing (Level.next .cmp) comparators
    return parenthesize (Level.cmp < level) (comparisonText left ops rights)
  | .call _ func args keywords => do
    let func ← func.printAt sparing .atom
    let args ← printAll sparing args
    let keywords ← printKeywords sparing keywords
    return func ++ "(" ++ commas (args ++ keywords) ++ ")"
  | .formatted _ value conversion spec => do
    let value ← value.printAt true (Level.next .test)
    let value ← withoutBackslash value
    let format ← printSpec spec
    return joinedString true [(field value conversion format, false)]
  | .joined _ values => do
    let parts ← printParts values
    return joinedString sparing parts
  | .constant _ value => value.print sparing
  | .attribute _ value attr _ => do
    let text ← value.printAt sparing .atom
    return text ++ (if isTruthNumber value then " ." else ".") ++ attr
  | .subscript _ value (.tuple _ (first :: rest) _) _ => do
    let value ← value.printAt sparing .atom
    let first ← first.printAt sparing .test
    let rest ← printAll sparing rest
    return value ++ "[" ++ items (first :: rest) ++ "]"
  | .subscript _ value index _ => do
    let value ← value.printAt sparing .atom
    let index ← index.printAt sparing .test
    return value ++ "[" ++ index ++ "]"
  | .starred _ value _ => do
    let value ← value.printAt sparing .bitOr
    return "*" ++ value
  | .name _ id _ => return id
  | .list _ elts _ => do
    let texts ← printAll sparing elts
    return "[" ++ commas texts ++ "]"
  | .tuple _ elts _ => do
    let texts ← printAll sparing elts
    return parenthesize (texts.isEmpty || Level.tuple < level) (items texts)
  | .slice _ lower upper step => do
    let lower ← printOption sparing .test lower
    let upper ← printOption sparing .test upper
    let step ← printOption sparing .test step
    let stepText := match step with
      | some step => ":" ++ step
      | none => ""
    return lower.getD "" ++ ":" ++ upper.getD "" ++ stepText

def printAllAt (sparing : Bool) (level : Level) : List Expr → Except PrintError (List String)
  | [] => return []
  | e :: es => do
    let text ← e.printAt sparing level
    let texts ← printAllAt sparing level es
    return text :: texts

def printAll (sparing : Bool) : List Expr → Except PrintError (List String)
  | [] => return []
  | e :: es => do
    let text ← e.printAt sparing .test
    let texts ← printAll sparing es
    return text :: texts

/-- Operands of a run of `and` or `or`: each is required to bind tighter than the one before. -/
def printRising (sparing : Bool) (level : Level) : List Expr → Except PrintError (List String)
  | [] => return []
  | e :: es => do
    let text ← e.printAt sparing (Level.next level)
    let texts ← printRising sparing (Level.next level) es
    return text :: texts

def printLevels (sparing : Bool) (levels : List Level) : List Expr → Except PrintError (List String)
  | [] => return []
  | e :: es => do
    let text ← e.printAt sparing (levels.headD .test)
    let texts ← printLevels sparing levels.tail es
    return text :: texts

def printOption (sparing : Bool) (level : Level) :
    Option Expr → Except PrintError (Option String)
  | none => return none
  | some e => do
    let text ← e.printAt sparing level
    return some text

def printOptions (sparing : Bool) : List (Option Expr) → Except PrintError (List (Option String))
  | [] => return []
  | e :: es => do
    let text ← printOption sparing .test e
    let texts ← printOptions sparing es
    return text :: texts

def Param.print (sparing : Bool) : Param → Except PrintError String
  | ⟨_, name, typeHint⟩ => do
    let type ← printOption sparing .test typeHint
    match type with
    | some type => return name ++ ": " ++ type
    | none => return name

def printParams (sparing : Bool) : List Param → Except PrintError (List String)
  | [] => return []
  | p :: ps => do
    let text ← p.print sparing
    let texts ← printParams sparing ps
    return text :: texts

def printParam? (sparing : Bool) : Option Param → Except PrintError (Option String)
  | none => return none
  | some p => do
    let text ← p.print sparing
    return some text

def Params.print (sparing : Bool) : Params → Except PrintError String
  | ⟨posOnly, regular, varArg, kwOnly, kwDefaults, kwArg, defaults⟩ => do
    let posOnly ← printParams sparing posOnly
    let regular ← printParams sparing regular
    let defaults ← printAll sparing defaults
    let varArg ← printParam? sparing varArg
    let kwOnly ← printParams sparing kwOnly
    let kwDefaults ← printOptions sparing kwDefaults
    let kwArg ← printParam? sparing kwArg
    return paramList posOnly regular defaults varArg kwOnly kwDefaults kwArg

def Keyword.print (sparing : Bool) : Keyword → Except PrintError String
  | ⟨_, name, value⟩ => do
    let value ← value.printAt sparing .test
    match name with
    | some name => return name ++ "=" ++ value
    | none => return "**" ++ value

def printKeywords (sparing : Bool) : List Keyword → Except PrintError (List String)
  | [] => return []
  | k :: ks => do
    let text ← k.print sparing
    let texts ← printKeywords sparing ks
    return text :: texts

def Comprehension.print (sparing : Bool) : Comprehension → Except PrintError String
  | ⟨target, iter, ifs, isAsync⟩ => do
    let target ← target.printAt sparing .tuple
    let iter ← iter.printAt sparing (Level.next .test)
    let ifs ← printAllAt sparing (Level.next .test) ifs
    let word := if isAsync then " async for " else " for "
    return word ++ target ++ " in " ++ iter ++ String.join (ifs.map (" if " ++ ·))

def printGenerators (sparing : Bool) : List Comprehension → Except PrintError String
  | [] => return ""
  | g :: gs => do
    let text ← g.print sparing
    let texts ← printGenerators sparing gs
    return text ++ texts

def printSpec : Option Expr → Except PrintError (Option CodePoints)
  | none => return none
  | some e => do
    match ← printPart e with
    | some (text, _) => return some text
    | none => return none

/-- A part of a formatted string, with whether its line feeds and tabs are escaped. -/
def printPart : Expr → Except PrintError (Option (CodePoints × Bool))
  | .constant _ (.str text _) => return some (doubleBraces text, true)
  | .formatted _ value conversion spec => do
    let value ← value.printAt true (Level.next .test)
    let value ← withoutBackslash value
    let format ← printSpec spec
    return some (field value conversion format, false)
  | .joined _ values => do
    let parts ← printParts values
    return some (parts.foldl (fun acc part => acc ++ part.1) ⟨[]⟩, false)
  | _ => return none

def printParts : List Expr → Except PrintError (List (CodePoints × Bool))
  | [] => return []
  | e :: es => do
    let part ← printPart e
    let parts ← printParts es
    return part.toList ++ parts

end

def Expr.print (e : Expr) : Except PrintError String := e.printAt false .test

end TypingAudit.Ast
