import ClassRename.Body.OffsetMap
import ClassRename.Cursor

namespace ClassRename.DebugTable

def lineNumber (map : OffsetMap) : Scan Bytes := do
  let start ← Scan.u16
  let line ← Scan.u16
  return Bytes.u16 (← Scan.lift (map.translate start)) ++ Bytes.u16 line

-- The two ends of the range are translated, and the length follows from them. The name, the
-- descriptor and the slot of the variable stay.
def localVariable (map : OffsetMap) : Scan Bytes := do
  let start ← Scan.u16
  let length ← Scan.u16
  let stop := start.toNat + length.toNat
  if 65535 < stop then Scan.fail (.rangeOverflow start)
  let newStart ← Scan.lift (map.translate start)
  let newStop ← Scan.lift (map.translate (UInt16.ofNat stop))
  return Bytes.u16 newStart ++ Bytes.u16 (newStop - newStart) ++ (← Scan.bytes 6)

def remap (entry : OffsetMap → Scan Bytes) (map : OffsetMap) : Scan Bytes := do
  let count ← Scan.u16
  let entries ← Scan.times count.toNat (entry map)
  return Bytes.u16 count ++ entries.flatten

end ClassRename.DebugTable
