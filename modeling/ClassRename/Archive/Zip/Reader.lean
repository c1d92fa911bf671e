import ClassRename.Archive.Zip.Directory

namespace ClassRename.Zip

-- Nothing is unpacked here, so an entry that is `needed` must be stored as it is.
def readEntry (needed : String → Bool) (file : Array UInt8) (header : Header) :
    Except Fault ArchiveEntry := do
  if header.isEncrypted then throw .encrypted
  let fixed ← record file header.offset localSignature localSize .localHeader
  if header.method ≠ storedMethod ∧ (needed header.name ∨ !copiedMethods.contains header.method)
    then throw .compressed
  if header.isCiphered then throw .encrypted
  let start := header.offset + localSize + numberAt fixed 26 2 + numberAt fixed 28 2
  let entry : ArchiveEntry := ⟨header.name, slice file start header.packedSize,
    header.method, header.checksum, header.packedSize, header.size, header.modified,
    header.mode⟩
  if needed entry.name ∧ !entry.isIntact then throw (.wrongChecksum entry.name)
  return entry

def read (needed : String → Bool) (bytes : Bytes) : Except Fault Archive := do
  let file := bytes.toArray
  (← readDirectory file).mapM (readEntry needed file)

end ClassRename.Zip
