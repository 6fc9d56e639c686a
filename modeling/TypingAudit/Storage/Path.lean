import TypingAudit.Text.Split

/-!
Paths. Empty segments and single dots vanish when a path is read, double dots stay until the path is
resolved, and exactly two leading slashes are told apart from one or many.
-/

namespace TypingAudit.Storage

open Text

/-- Where a path starts: at the working directory, at the root, or at the root written with two slashes. -/
inductive Anchor where
  | here | root | doubleRoot
deriving DecidableEq, Repr

namespace Anchor

def ofSlashes : Nat → Anchor
  | 0 => .here
  | 2 => .doubleRoot
  | _ => .root

def text : Anchor → String
  | .here => ""
  | .root => "/"
  | .doubleRoot => "//"

end Anchor

abbrev Location := List String

structure Path where
  anchor : Anchor
  segments : List String
deriving DecidableEq, Repr

namespace Path

/-- The segments of a text: what stands between slashes, but neither nothing nor a single dot. -/
def segmentsOf (text : List Char) : List String :=
  ((splitWhere (· == '/') text).map String.ofList).filter fun s => s != "" && s != "."

def ofString (text : String) : Path :=
  ⟨.ofSlashes (text.toList.takeWhile (· == '/')).length, segmentsOf text.toList⟩

def text (p : Path) : String :=
  if p.anchor = .here ∧ p.segments = [] then "."
  else p.anchor.text ++ "/".intercalate p.segments

def name (p : Path) : String := p.segments.getLast?.getD ""

def parent (p : Path) : Path := ⟨p.anchor, p.segments.dropLast⟩

def child (p : Path) (name : String) : Path := ⟨p.anchor, p.segments ++ [name]⟩

def ofLocation (location : Location) : Path := ⟨.root, location⟩

/-- The location reached from `start` when each double dot takes back the segment before it. -/
def follow (start : Location) (segments : List String) : Location :=
  segments.foldl (fun reached s => if s == ".." then reached.dropLast else reached ++ [s]) start

def resolve (directory : Location) (p : Path) : Location :=
  follow (if p.anchor = .here then directory else []) p.segments

/-- A path as it is shown: relative to `root` when it leads below it, else as it was given. -/
def display (directory : Location) (root : Option Path) (p : Path) : String :=
  match root with
  | none => p.text
  | some root =>
    match (root.resolve directory).isPrefixOf? (p.resolve directory) with
    | some below => Path.text ⟨.here, below⟩
    | none => p.text

end Path

end TypingAudit.Storage
