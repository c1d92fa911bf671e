import ClassRename.Command.Program

namespace ClassRename

def Request.paths : Request → List String
  | .rewrite request => [request.input, request.table] ++ request.output.toList
  | .refs request => request.input :: request.table.toList

namespace FileTree

def placeOf (path : String) : Location := (Path.pieces path).foldl follow (start path)

def pathOf : Location → String
  | "/" :: names => "/" ++ String.intercalate "/" names
  | names => String.intercalate "/" names

def above (place : Location) : List Location := (List.range place.length).map place.take

def addDirectory (tree : FileTree) (place : Location) : IO FileTree := do
  let entry : IO.FS.DirEntry := ⟨".", pathOf place⟩
  if ← entry.path.isDir then return tree.insert place .directory else return tree

partial def explore (tree : FileTree) (place : Location) : IO FileTree := do
  let entry : IO.FS.DirEntry := ⟨".", pathOf place⟩
  if ← entry.path.isDir then
    (← entry.path.readDir).foldlM (fun tree found => explore tree (place ++ [found.fileName]))
      (tree.insert place .directory)
  else if ← entry.path.pathExists then
    return tree.insert place (.file (← IO.FS.readBinFile entry.path).toList)
  else return tree

def addPath (tree : FileTree) (path : String) : IO FileTree := do
  let place := placeOf path
  explore (← (above place).foldlM addDirectory tree) place

-- Makes what is in the new tree and not in the old one. Directories come before what is in
-- them.
def save (old new : FileTree) : IO Unit := do
  let changed := new.nodes.toList.filter fun (place, node) => old.nodes[place]? != some node
  let ordered := changed.mergeSort fun left right => left.1.length ≤ right.1.length
  for (place, node) in ordered do
    match node with
    | .directory => IO.FS.createDirAll (pathOf place)
    | .file content => IO.FS.writeBinFile (pathOf place) ⟨content.toArray⟩

end FileTree
end ClassRename

open ClassRename in
def main (arguments : List String) : IO UInt32 := do
  let paths :=
    match Arguments.read arguments with
    | .ok (_, request) => request.paths
    | .error _ => []
  let files ← paths.foldlM FileTree.addPath FileTree.empty
  let execution := Program.run arguments files
  files.save execution.files
  IO.print execution.standardOutput
  IO.eprint execution.standardError
  return execution.exit.toUInt32
