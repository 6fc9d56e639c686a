import TypingAudit.Audit.Log
import TypingAudit.Selection.SourceFile
import TypingAudit.Selection.Wildcard

/-!
Which source files are left out. Dependencies are known by a directory on the way to the file, tests and
generated files by their name, and all else by the patterns of the user, the first that matches giving the
reason.
-/

namespace TypingAudit.Selection

open Audit Storage Text

inductive Exclusion where
  | dependency
  | test
  | generated
  | matching (pattern : String)
deriving DecidableEq, Repr

namespace Exclusion

def reason : Exclusion → String
  | .dependency => "dependency"
  | .test => "test"
  | .generated => "generated"
  | .matching pattern => "pattern " ++ pattern

end Exclusion

def dependencyDirectories : List String :=
  ["node_modules", "site-packages", "dist-packages", ".venv", "venv", "__pypackages__", ".tox", ".nox",
    ".eggs"]

def isTestName (name : String) : Bool :=
  name == "conftest.py" || "test_".toList.isPrefixOf name.toList
    || "_test.py".toList.isSuffixOf name.toList || occursIn ".test.".toList name.toList

def isGeneratedName (name : String) : Bool :=
  "_pb2.py".toList.isSuffixOf name.toList || "_pb2_grpc.py".toList.isSuffixOf name.toList

/-- The path that a name of a file is read as; a backslash separates like a slash. -/
def unitSegments (unitPath : String) : Path :=
  .ofString (String.ofList (unitPath.toList.map fun c => if c = '\\' then '/' else c))

/-- Why a file is left out under a way of matching patterns. -/
def exclusionBy (covers : String → String → Bool) (patterns : List String) (unitPath : String) :
    Option Exclusion :=
  let path := unitSegments unitPath
  if path.segments.dropLast.any dependencyDirectories.contains then some .dependency
  else if isTestName path.name then some .test
  else if isGeneratedName path.name then some .generated
  else
    (patterns.find? fun pattern => covers pattern path.text || covers pattern path.name).map
      .matching

def exclusion? (patterns : List String) (unitPath : String) : Option Exclusion :=
  exclusionBy Wildcard.covers patterns unitPath

def leavesOut (patterns : List String) (unitPath : String) : Bool :=
  (exclusion? patterns unitPath).isSome

def exclusionRecord? (patterns : List String) (u : SourceFile) : Option LogRecord :=
  (exclusion? patterns u.unitPath).map fun why =>
    ⟨.debug, "Excluding " ++ u.unitPath ++ " (" ++ why.reason ++ ")"⟩

def keepUnits (patterns : List String) (units : List SourceFile) : Logged (List SourceFile) :=
  let kept := units.filter fun u => !leavesOut patterns u.unitPath
  let excluded := units.length - kept.length
  let tally : List LogRecord :=
    if excluded = 0 then []
    else [⟨.info, "Excluded " ++ toString excluded ++ " of " ++ toString units.length
      ++ " discovered unit(s)"⟩]
  ⟨kept, units.filterMap (exclusionRecord? patterns) ++ tally⟩

end TypingAudit.Selection
