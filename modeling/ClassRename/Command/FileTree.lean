import ClassRename.Command.Path
import ClassRename.Error
import Std.Data.HashMap

namespace ClassRename

inductive Node where
  | directory
  | file (content : Bytes)
deriving Repr, DecidableEq

-- A node is found under the names that lead to it. Relative paths start from the empty list of
-- names and absolute ones from "/"; these directories, and those above the start of relative
-- paths, are always there.
abbrev Location := List String

structure FileTree where
  nodes : Std.HashMap Location Node

namespace FileTree

def empty : FileTree := ⟨∅⟩

def start (path : String) : Location := if path.startsWith "/" then ["/"] else []

def isAlwaysThere (location : Location) : Bool := location.all (· = "..") || location = ["/"]

def node? (tree : FileTree) (location : Location) : Option Node :=
  if isAlwaysThere location then some .directory else tree.nodes[location]?

def insert (tree : FileTree) (location : Location) (node : Node) : FileTree :=
  ⟨tree.nodes.insert location node⟩

def follow (location : Location) (piece : String) : Location :=
  if Path.isRedundant piece then location
  else if piece ≠ ".." then location ++ [piece]
  else if location = ["/"] then location
  else if isAlwaysThere location then location ++ [".."]
  else location.dropLast

def nameLimit : Nat := 255

def pathLimit : Nat := 4095

def step (tree : FileTree) (location : Location) (piece : String) : Except FileFault Location :=
  match tree.node? location with
  | none => .error .notFound
  | some (.file _) => .error .notADirectory
  | some .directory =>
    if nameLimit < piece.utf8ByteSize then .error .nameTooLong else .ok (follow location piece)

def locate (tree : FileTree) (path : String) : Except FileFault Location :=
  if path = "" then .error .notFound
  else if pathLimit < path.utf8ByteSize then .error .nameTooLong
  else (Path.pieces path).foldlM tree.step (start path)

def isDirectory (tree : FileTree) (path : String) : Bool :=
  match tree.locate path with
  | .ok location => tree.node? location == some .directory
  | .error _ => false

def read (tree : FileTree) (path : String) : Except FileFault Bytes := do
  match tree.node? (← tree.locate path) with
  | none => .error .notFound
  | some .directory => .error .isDirectory
  | some (.file content) => .ok content

def below? : Location → Location → Option (List String)
  | [], names => if names.head? = some ".." || names.head? = some "/" then none else some names
  | _ :: _, [] => none
  | first :: location, name :: names => if first = name then below? location names else none

def filesBelow (tree : FileTree) (path : String) : List (String × Bytes) :=
  match tree.locate path with
  | .error _ => []
  | .ok location =>
    let below := tree.nodes.toList.filterMap fun (place, node) =>
      match node, below? location place with
      | .file content, some names => some (String.intercalate "/" names, content)
      | _, _ => none
    below.mergeSort fun left right => !(right.1 < left.1)

def write (tree : FileTree) (path : String) (content : Bytes) : Except FileFault FileTree := do
  let location ← tree.locate (Path.withoutClosedName path)
  match tree.node? location with
  | some .directory => throw .isDirectory
  | _ => return tree.insert location (.file content)

def makeDirectory (tree : FileTree) (start : Location) (names : List String) :
    Except FileFault FileTree := do
  let location ← names.foldlM tree.step start
  match tree.node? location with
  | none => return tree.insert location .directory
  | some .directory => return tree
  | some (.file _) => throw .alreadyExists

def makeUpward (tree : FileTree) (start : Location) : List String → Except FileFault FileTree
  | [] => .ok tree
  | last :: above =>
    match tree.makeDirectory start (last :: above).reverse with
    | .error .notFound => do
      (← tree.makeUpward start above).makeDirectory start (last :: above).reverse
    | result => result

def makeDirectories (tree : FileTree) (path : String) : Except FileFault FileTree :=
  if pathLimit < path.utf8ByteSize then .error .nameTooLong
  else tree.makeUpward (start path) ((Path.pieces path).filter (!Path.isRedundant ·)).reverse

-- The destination is emptied before anything is copied, so a file that is copied onto itself
-- loses its content.
def copy (tree : FileTree) (source destination : String) : Except FileFault FileTree := do
  let _ ← tree.read source
  let emptied ← tree.write destination []
  emptied.write destination (← emptied.read source)

def addFile (tree : FileTree) (path : String) (content : Bytes) : FileTree :=
  let added := do
    (← tree.makeDirectories ((Path.parent? path).getD "")).write path content
  added.toOption.getD tree

end FileTree
end ClassRename
