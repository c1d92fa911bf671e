import ClassRename.Bytes

namespace ClassRename.Zip

inductive Fault where
  | tooShort
  | noDirectoryEnd
  | noLargeDirectoryEnd
  | noRoomForLargeDirectoryEnd
  | severalDisks
  | directoryBounds
  | directoryHeader
  | cipherLength
  | cipherVendor
  | cipherVersion
  | cipherStrength
  | cipherMissing
  | offsetTooLarge
  | localHeader
  | encrypted
  | compressed
  | endsEarly
  | wrongChecksum (name : String)
deriving Repr, DecidableEq

def Fault.sentences : Fault → List String
  | .tooShort => ["invalid Zip archive: Invalid zip header"]
  | .noDirectoryEnd => ["invalid Zip archive: Could not find central directory end"]
  | .noLargeDirectoryEnd =>
    ["invalid Zip archive: Could not find ZIP64 central directory end"]
  | .noRoomForLargeDirectoryEnd =>
    ["invalid Zip archive: File cannot contain ZIP64 central directory end"]
  | .severalDisks =>
    ["unsupported Zip archive: Support for multi-disk files is not implemented"]
  | .directoryBounds => ["invalid Zip archive: Invalid central directory size or offset"]
  | .directoryHeader => ["invalid Zip archive: Invalid Central Directory header"]
  | .cipherLength =>
    ["unsupported Zip archive: AES extra data field has an unsupported length"]
  | .cipherVendor => ["invalid Zip archive: Invalid AES vendor"]
  | .cipherVersion => ["invalid Zip archive: Invalid AES vendor version"]
  | .cipherStrength => ["invalid Zip archive: Invalid AES encryption strength"]
  | .cipherMissing => ["invalid Zip archive: AES encryption without AES extra data field"]
  | .offsetTooLarge => ["invalid Zip archive: Archive header is too large"]
  | .localHeader => ["invalid Zip archive: Invalid local file header"]
  | .encrypted => ["unsupported Zip archive: Password required to decrypt file"]
  | .compressed => ["unsupported Zip archive: Compression method not supported"]
  | .endsEarly => ["failed to fill whole buffer", "failed to fill whole buffer"]
  | .wrongChecksum name => [s!"failed to read entry {name}", "Invalid checksum"]

def number (width value : Nat) : Bytes := (Bytes.ofNat width value).reverse

def numberAt (record : Bytes) (offset width : Nat) : Nat :=
  Bytes.toNat ((record.drop offset).take width).reverse

def endSignature : Bytes := [0x50, 0x4B, 5, 6]
def largeEndSignature : Bytes := [0x50, 0x4B, 6, 6]
def locatorSignature : Bytes := [0x50, 0x4B, 6, 7]
def directorySignature : Bytes := [0x50, 0x4B, 1, 2]
def localSignature : Bytes := [0x50, 0x4B, 3, 4]

def endSize : Nat := 22
def largeEndSize : Nat := 56
def locatorSize : Nat := 20
def directorySize : Nat := 46
def localSize : Nat := 30

-- A number field with all bits set has its value in a larger field elsewhere.
def limit16 : Nat := 0xFFFF
def limit32 : Nat := 0xFFFFFFFF

def largeField : Nat := 0x0001
def cipherField : Nat := 0x9901

def storedMethod : Nat := 0
def cipherMethod : Nat := 99

def sortingMethod : Nat := 12
def copiedMethods : List Nat := [8, sortingMethod, 93]

end ClassRename.Zip
