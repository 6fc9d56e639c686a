import TypingAudit.Selection.Exclusion
import TypingAudit.Storage.Home
import TypingAudit.Storage.Workspace

/-!
Finding source files. A target is a source file itself or a directory, of which first the own source files
and then the directories in it are gone through, both by name. A file that is reached twice counts once.
-/

namespace TypingAudit.Selection

open Audit Storage

def skippedDirectories : List String :=
  [".git", ".hg", ".svn", "__pycache__", ".mypy_cache", ".pytest_cache", ".ruff_cache"]

/-- Whether a file is a source by its name, which needs something in front of the ending. -/
def isSourceName (name : String) : Bool :=
  ".py".toList.isSuffixOf name.toList && decide (3 < name.length)

def inNameOrder {α : Type} (items : List (String × α)) : List (String × α) :=
  items.mergeSort fun a b => decide (a.1 ≤ b.1)

def ownSources (directory : Path) (entries : List (String × FileTree)) : List (String × Path) :=
  (entries.filter fun e => e.2.isFile && isSourceName e.1).map fun e => (e.1, directory.child e.1)

mutual

def sourcesBelow (directory : Path) : FileTree → List Path
  | .file _ => []
  | .directory entries =>
    (inNameOrder (ownSources directory entries)).map Prod.snd
      ++ (inNameOrder (sourcesInside directory entries)).flatMap Prod.snd

def sourcesInside (directory : Path) : List (String × FileTree) → List (String × List Path)
  | [] => []
  | (name, node) :: rest =>
    if node.isFile || skippedDirectories.contains name then sourcesInside directory rest
    else (name, sourcesBelow (directory.child name) node) :: sourcesInside directory rest

end

def sourcesOf (w : Workspace) (target : Path) : Logged (List Path) :=
  match w.entry target with
  | .ok (.file _) =>
    if isSourceName target.name then pure [target]
    else do
      Logged.debug ("Skipping non-source file " ++ target.text)
      return []
  | .ok (.directory entries) => pure (sourcesBelow target (.directory entries))
  | .error fault => do
    Logged.warning ("Unable to access directory " ++ target.text ++ ": " ++ fault.message)
    return []

def firstOf {α : Type} (key : α → Location) : List Location → List α → List α
  | _, [] => []
  | seen, a :: rest =>
    if seen.contains (key a) then firstOf key seen rest
    else a :: firstOf key (key a :: seen) rest

/-- The units of a list of targets, each file once, named relative to `root`. -/
def sourceFiles (w : Workspace) (root : Option Path) (targets : List Path) : Logged (List SourceFile) := do
  let reached ← targets.mapM (sourcesOf w)
  let units := (firstOf (Path.resolve w.directory) [] reached.flatten).map fun path =>
    SourceFile.mk path (path.display w.directory root)
  Logged.debug ("Discovered " ++ toString units.length ++ " source unit(s)")
  return units

/-- The targets that exist among those a user has named, or `none` when a home is not known. -/
def existingTargets (w : Workspace) (homes : Homes) : List String → Logged (Option (List Path))
  | [] => pure (some [])
  | given :: rest =>
    match (Path.ofString given).expandHome homes with
    | none => pure none
    | some path => do
      let target := Path.ofLocation (path.resolve w.directory)
      if w.has target then
        return (← existingTargets w homes rest).map (target :: ·)
      else
        Logged.warning ("Path " ++ target.text ++ " does not exist; skipping.")
        existingTargets w homes rest

end TypingAudit.Selection
