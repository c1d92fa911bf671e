import ClassRename.Rename.Table

namespace ClassRename

abbrev FileReader := String → Except FileFault Bytes

inductive TableSource where
  | file (path : String)
  | inline (table : RenameTable)

namespace TableSource

def loadFile (read : FileReader) (path : String) : Logging RenameTable := do
  match read path with
  | .error fault => throw (.tableUnavailable path (.unreadable fault))
  | .ok bytes =>
    match Utf8.fault? bytes with
    | some fault => throw (.tableMalformed path (.notUtf8 fault))
    | none =>
      let table ← RenameTable.ofJson (String.ofList (Utf8.decodeLossy bytes)) path
      Logging.record (.loaded table.size path)
      return table

def resolve (read : FileReader) : TableSource → Logging RenameTable
  | .file path => loadFile read path
  | .inline table => return table

def resolveOptional (read : FileReader) : Option TableSource → Logging RenameTable
  | some source => source.resolve read
  | none => throw (.tableUnavailable "configuration" .notConfigured)

def describe : TableSource → String
  | .file path => s!"JSON table {path}"
  | .inline table => s!"in-memory table ({table.size} entries)"

def shown : TableSource → String
  | .file path => path
  | .inline table => s!"<inline, {table.size} entries>"

end TableSource
end ClassRename
