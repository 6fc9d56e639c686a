import TypingAudit.Storage.Fault
import TypingAudit.Storage.FileTree
import TypingAudit.Storage.Path

/-!
Files as a process sees them: a tree and a working directory. Here a double dot goes up from a directory
that exists, so a path leads nowhere when anything on the way is missing or is a file.
-/

namespace TypingAudit.Storage

structure Workspace where
  files : FileTree
  directory : Location

/-- What is left after an attempt to change files, and the fault that ended it. -/
structure Attempt where
  workspace : Workspace
  fault : Option Fault

namespace Workspace

def get? (w : Workspace) (location : Location) : Option FileTree := w.files.get? location

def step (w : Workspace) (location : Location) (segment : String) : Except FaultKind Location :=
  match w.get? location with
  | none => .error .missing
  | some (.file _) => .error .notADirectory
  | some (.directory _) =>
    .ok (if segment == ".." then location.dropLast else location ++ [segment])

/-- Where a path leads. All but the last segment must be there. -/
def locate (w : Workspace) (p : Path) : Except FaultKind Location :=
  p.segments.foldlM w.step (if p.anchor = .here then w.directory else [])

def entry (w : Workspace) (p : Path) : Except Fault FileTree :=
  match w.locate p with
  | .error kind => .error ⟨kind, p.text⟩
  | .ok location =>
    match w.get? location with
    | none => .error ⟨.missing, p.text⟩
    | some node => .ok node

def isDirectory (w : Workspace) (p : Path) : Bool :=
  match w.entry p with
  | .ok (.directory _) => true
  | _ => false

def has (w : Workspace) (p : Path) : Bool := (w.entry p).isOk

def readFile (w : Workspace) (p : Path) : Except Fault (List UInt8) :=
  match w.entry p with
  | .error fault => .error fault
  | .ok (.file content) => .ok content
  | .ok (.directory _) => .error ⟨.isADirectory, p.text⟩

def put (w : Workspace) (location : Location) (node : FileTree) : Workspace :=
  { w with files := w.files.put location node }

def makeDirectory (w : Workspace) (p : Path) : Except Fault Workspace :=
  match w.locate p with
  | .error kind => .error ⟨kind, p.text⟩
  | .ok location =>
    match w.get? location with
    | some _ => .error ⟨.alreadyThere, p.text⟩
    | none => .ok (w.put location .empty)

/-- Makes a directory of which the parent is there; one that is there already will do. -/
def ensureDirectory (w : Workspace) (p : Path) : Attempt :=
  match w.makeDirectory p with
  | .ok made => ⟨made, none⟩
  | .error fault =>
    if fault.kind ≠ .missing ∧ w.isDirectory p then ⟨w, none⟩ else ⟨w, some fault⟩

def ensureBranch (w : Workspace) (anchor : Anchor) : List String → Attempt
  | [] => w.ensureDirectory ⟨anchor, []⟩
  | segment :: above =>
    let p : Path := ⟨anchor, (segment :: above).reverse⟩
    match w.makeDirectory p with
    | .ok made => ⟨made, none⟩
    | .error fault =>
      if fault.kind = .missing then
        let raised := w.ensureBranch anchor above
        match raised.fault with
        | some _ => raised
        | none => raised.workspace.ensureDirectory p
      else if w.isDirectory p then ⟨w, none⟩
      else ⟨w, some fault⟩

def ensureDirectories (w : Workspace) (p : Path) : Attempt :=
  w.ensureBranch p.anchor p.segments.reverse

def writeFile (w : Workspace) (p : Path) (content : List UInt8) : Attempt :=
  match w.locate p with
  | .error kind => ⟨w, some ⟨kind, p.text⟩⟩
  | .ok location =>
    match w.get? location with
    | some (.directory _) => ⟨w, some ⟨.isADirectory, p.text⟩⟩
    | _ => ⟨w.put location (.file content), none⟩

def writeFileBelow (w : Workspace) (p : Path) (content : List UInt8) : Attempt :=
  let raised := w.ensureDirectories p.parent
  match raised.fault with
  | some _ => raised
  | none => raised.workspace.writeFile p content

end Workspace

end TypingAudit.Storage
