import RecordFilter.Config.Path

/-!
# RecordFilter.Config.FileTree

Files and directories as a value. A path is looked up step by step; every step but the last must lead
into a directory.
-/

namespace RecordFilter
namespace Config

/-- What a path leads to. -/
inductive Node where
  | missing
  | directory
  | text (content : String)
deriving DecidableEq, Repr

/-- What there is by its names from the root on. What lies above it is a directory. -/
structure FileTree where
  entries : List (List String × Node)

namespace FileTree

def node (tree : FileTree) (names : List String) : Node :=
  match tree.entries.lookup names with
  | some node => node
  | none =>
    if names.isEmpty || tree.entries.any fun entry => names.isPrefixOf entry.1 then .directory
    else .missing

/-- The names reached from a directory; the steps lead on from what has been reached. -/
def walk? (tree : FileTree) (reached : List String) : List String → Option (List String)
  | [] => some reached
  | step :: rest =>
    match tree.node reached with
    | .directory =>
      if step = "" ∨ step = "." then walk? tree reached rest
      else if step = ".." then walk? tree reached.dropLast rest
      else walk? tree (reached ++ [step]) rest
    | _ => none

def names (path : String) : List String :=
  (Text.pieces '/' path).filter fun name => !name.isEmpty

/-- A relative path begins in the working directory. -/
def look (tree : FileTree) (cwd path : String) : Node :=
  if path.isEmpty then .missing
  else
    let start := if isAbsolute path.toList then [] else names cwd
    match tree.walk? start (Text.pieces '/' path) with
    | some reached => tree.node reached
    | none => .missing

end FileTree
end Config
end RecordFilter
