import ClassRename.Archive.Basic
import ClassRename.Archive.Zip.Format
import ClassRename.Text.Utf8

namespace ClassRename.Zip

def isLarge (entry : ArchiveEntry) : Bool := limit32 < max entry.packedSize entry.size

def largeFieldOf (numbers : List Nat) : Bytes :=
  if numbers.isEmpty then []
  else number 2 largeField ++ number 2 (8 * numbers.length) ++ numbers.flatMap (number 8)

def versionOf (entry : ArchiveEntry) : Nat :=
  if entry.method = sortingMethod then 46 else if isLarge entry then 45 else 20

def shared (entry : ArchiveEntry) (packedSize size : Nat) (name extra : Bytes) : Bytes :=
  number 2 (versionOf entry) ++
    number 2 (if name.all (· < 0x80) then 0 else 2048) ++ number 2 entry.method ++
    number 4 entry.modified ++ number 4 entry.checksum.toNat ++ number 4 packedSize ++
    number 4 size ++ number 2 name.length ++ number 2 extra.length

-- In front of a large entry both sizes stand in the extra field.
def localRecord (entry : ArchiveEntry) : Bytes :=
  let name := Utf8.encode entry.name.toList
  let extra := largeFieldOf (if isLarge entry then [entry.size, entry.packedSize] else [])
  let packedSize := if isLarge entry then limit32 else entry.packedSize
  let size := if isLarge entry then limit32 else entry.size
  localSignature ++ shared entry packedSize size name extra ++ name ++ extra ++ entry.content

def directoryRecord (offset : Nat) (entry : ArchiveEntry) : Bytes :=
  let name := Utf8.encode entry.name.toList
  let extra := largeFieldOf ([entry.size, entry.packedSize].filter (limit32 < ·))
  directorySignature ++ [46, 3] ++
    shared entry (min entry.packedSize limit32) (min entry.size limit32) name extra ++
    number 2 0 ++ number 2 0 ++ number 2 0 ++ number 4 (entry.mode * Nat.pow 2 16) ++
    number 4 offset ++ name ++ extra

def records (offset : Nat) : Archive → List Bytes × List Bytes
  | [] => ([], [])
  | entry :: rest =>
    let front := localRecord entry
    let (fronts, headers) := records (offset + front.length) rest
    (front :: fronts, directoryRecord offset entry :: headers)

def largeEnding (count size offset : Nat) : Bytes :=
  if count ≤ limit16 then []
  else
    largeEndSignature ++ number 8 (largeEndSize - 12) ++ number 2 46 ++ number 2 46 ++
      number 4 0 ++ number 4 0 ++ number 8 count ++ number 8 count ++ number 8 size ++
      number 8 offset ++
      locatorSignature ++ number 4 0 ++ number 8 (offset + size) ++ number 4 1

def write (archive : Archive) : Bytes :=
  let (fronts, headers) := records 0 archive
  let entries := fronts.flatten
  let listing := headers.flatten
  let count := min archive.length limit16
  entries ++ listing ++ largeEnding archive.length listing.length entries.length ++
    endSignature ++ number 4 0 ++ number 2 count ++ number 2 count ++
    number 4 listing.length ++ number 4 entries.length ++ number 2 0

end ClassRename.Zip
