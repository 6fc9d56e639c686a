import Std.Time.DateTime.Timestamp
import TypingAudit.Command.Calendar
import TypingAudit.Command.Help
import TypingAudit.Command.Run
import TypingAudit.Command.Usage

/-!
The program. It takes a picture of the files that a run can look at, lets the run work on that picture, and
then makes on disk what the run has changed in it.
-/

namespace TypingAudit.Program

open Command Storage

inductive Kind where
  | directory | file | nothing

def onDisk (location : Location) : String := (Path.ofLocation location).text

def kindOf (location : Location) : IO Kind := do
  let path := (← IO.currentDir) / onDisk location
  if ← path.isDir then return .directory
  else if ← path.pathExists then return .file
  else return .nothing

def withEntry (files : FileTree) (location : Location) (node : FileTree) : FileTree :=
  if (files.get? location).isSome then files else files.put location node

def withWay (files : FileTree) (location : Location) : IO FileTree := do
  let mut files := files
  for length in [0:location.length + 1] do
    let part := location.take length
    match ← kindOf part with
    | .directory => files := withEntry files part .empty
    | .file =>
      files := withEntry files part (.file [])
      break
    | .nothing => break
  return files

def withPath (files : FileTree) (directory : Location) (path : Path) : IO FileTree := do
  let mut files := files
  for length in [0:path.segments.length + 1] do
    let start : Path := ⟨path.anchor, path.segments.take length⟩
    files ← withWay files (start.resolve directory)
  return files

/-- The picture of a source file or of the sources below a directory. -/
partial def picture (location : Location) (name : String) : IO FileTree := do
  match ← kindOf location with
  | .nothing => return .file []
  | .file =>
    if Selection.isSourceName name then
      return .file (← IO.FS.readBinFile (onDisk location)).toList
    else return .file []
  | .directory =>
    let mut entries := #[]
    for entry in ← ((← IO.currentDir) / onDisk location).readDir do
      let name := entry.fileName
      let below := location ++ [name]
      let isDirectory := match ← kindOf below with
        | .directory => true
        | _ => false
      if !isDirectory || !Selection.skippedDirectories.contains name then
        entries := entries.push (name, ← picture below name)
    return .directory entries.toList

/-- Adds a target with all that is below it. -/
def withTarget (files : FileTree) (location : Location) : IO FileTree := do
  let files ← withWay files location
  match ← kindOf location with
  | .nothing => return files
  | _ => return files.put location (← picture location (location.getLast?.getD ""))

/-- Makes on disk what differs from the picture that was taken. -/
partial def save (old : Option FileTree) (location : Location) : FileTree → IO Unit
  | .file content => do
    let same := match old with
      | some (.file before) => before == content
      | _ => false
    if !same then IO.FS.writeBinFile (onDisk location) ⟨content.toArray⟩
  | .directory entries => do
    if old.isNone then IO.FS.createDirAll (onDisk location)
    for entry in entries do
      save (old.bind (·.get? [entry.1])) (location ++ [entry.1]) entry.2

def accountHomes : IO (List (String × String)) := do
  try
    let lines := (← IO.FS.readFile "/etc/passwd").splitOn "\n"
    return lines.filterMap fun line =>
      match line.splitOn ":" with
      | name :: _ :: _ :: _ :: _ :: home :: _ => some (name, home)
      | _ => none
  catch _ => return []

def observe : IO Environment := do
  let names := [Variable.jsonReport, Variable.markdownReport, Variable.targetFile, Variable.noColor]
  let mut assignments := []
  for name in names do
    if let some value ← IO.getEnv name then assignments := assignments ++ [(name, value)]
  let home := (← IO.getEnv "HOME").map fun home => if home == "" then "/" else home
  let now ← Std.Time.Timestamp.now
  return {
    assignments
    homes := ⟨home, ← accountHomes⟩
    terminal := ← (← IO.getStderr).isTty
    processors := 1
    clock := (Moment.ofMilliseconds now.toMillisecondsSinceUnixEpoch.val.toNat).clock }

/-- The picture of all files that a run with these options can look at. -/
def workspaceFor (env : Environment) (o : Options) : IO Workspace := do
  let directory := (Path.ofString (← IO.currentDir).toString).segments
  let mut files ← withWay .empty directory
  let expanded := fun text : String => (Path.ofString text).expandHome env.homes
  let reports := [
    Report.nonEmpty (o.jsonReport.bind Given.value?), env.setting? Variable.jsonReport,
    some defaultJsonReport, Report.nonEmpty (o.markdownReport.bind Given.value?),
    env.setting? Variable.markdownReport, some defaultMarkdownReport, o.logDirectory.value?]
  for path in reports.filterMap (·.bind expanded) do
    files ← withPath files directory path
  for path in (targetPaths env o).value.filterMap expanded do
    files ← withTarget files (path.resolve directory)
  return ⟨files, directory⟩

def perform (o : Options) : IO UInt32 := do
  let env ← observe
  let before ← workspaceFor env o
  let result := run env before o
  save (some before.files) [] result.workspace.files
  IO.eprint result.messages
  IO.print result.output
  return result.exitCode.toUInt32

end TypingAudit.Program

open TypingAudit TypingAudit.Command in
def main (arguments : List String) : IO UInt32 := do
  match readOptions arguments with
  | .ok options => Program.perform options
  | .error .help =>
    IO.print helpText
    return 0
  | .error (.usage error) =>
    IO.eprintln (usageLine ++ "\n" ++ programName ++ ": error: " ++ error.message)
    return 2
