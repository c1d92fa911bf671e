import ClassRename.Archive.Checksum

namespace ClassRename

-- The content is as it is packed. The checksum and the two sizes, packed and unpacked, are those
-- stored with the entry, so that an entry that is only copied stays as it was even where they
-- are wrong. The packing method, the time and the mode are kept as stored numbers.
structure ArchiveEntry where
  name : String
  content : Bytes
  method : Nat
  checksum : UInt32
  packedSize : Nat
  size : Nat
  modified : Nat
  mode : Nat
deriving Repr, DecidableEq

abbrev Archive := List ArchiveEntry

namespace ArchiveEntry

def regularMode : Nat := 0o100644

def replaceContent (entry : ArchiveEntry) (content : Bytes) : ArchiveEntry :=
  { entry with
    content := content
    checksum := Checksum.crc32 content
    packedSize := content.length
    size := content.length
    mode := regularMode }

def isIntact (entry : ArchiveEntry) : Bool := Checksum.crc32 entry.content == entry.checksum

def hasClassName (name : String) : Bool := ".class".toList.isSuffixOf name.toList

def isClass (entry : ArchiveEntry) : Bool := hasClassName entry.name

end ArchiveEntry

namespace Archive

def contents (archive : Archive) : List (String × Bytes) :=
  archive.map fun entry => (entry.name, entry.content)

def replace (archive : Archive) (content? : String → Option Bytes) : Archive :=
  archive.map fun entry => ((content? entry.name).map entry.replaceContent).getD entry

end Archive
end ClassRename
