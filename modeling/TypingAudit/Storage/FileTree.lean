/-!
A tree of named files and directories. Entries stand in the order in which they are listed; of two entries
with one name the first counts.
-/

namespace TypingAudit.Storage

inductive FileTree where
  | file (content : List UInt8)
  | directory (entries : List (String × FileTree))

namespace FileTree

def empty : FileTree := .directory []

def isFile : FileTree → Bool
  | .file _ => true
  | .directory _ => false

def assign (name : String) (node : FileTree) : List (String × FileTree) → List (String × FileTree)
  | [] => [(name, node)]
  | entry :: rest =>
    if entry.1 = name then (name, node) :: rest else entry :: assign name node rest

def get? : FileTree → List String → Option FileTree
  | node, [] => some node
  | .file _, _ :: _ => none
  | .directory entries, name :: rest => (entries.lookup name).bind fun node => node.get? rest

/-- The tree with `node` at a location. Missing directories on the way are made; a file on the way stays. -/
def put : FileTree → List String → FileTree → FileTree
  | _, [], node => node
  | .file content, _ :: _, _ => .file content
  | .directory entries, name :: rest, node =>
    .directory (assign name (((entries.lookup name).getD empty).put rest node) entries)

end FileTree

end TypingAudit.Storage
