import ClassRename.Body.Encode
import ClassRename.Body.OffsetMap
import ClassRename.ClassFile.Attribute
import ClassRename.ClassFile.DebugTable
import ClassRename.ClassFile.StackMap
import ClassRename.Log

namespace ClassRename

structure Handler where
  start : UInt16
  stop : UInt16
  entry : UInt16
  catchType : UInt16
deriving Repr, DecidableEq

-- `offsets` are those of the code as it was read; a body built in memory has none, and its
-- handlers and attributes are written as they are.
structure Code where
  name : Option UInt16
  maxStack : UInt16
  maxLocals : UInt16
  instructions : List Instruction
  handlers : List Handler
  attributes : List Attribute
  offsets : Option Offsets
deriving DecidableEq

structure Workspace where
  pool : Pool
  log : Log

abbrev Writing := EStateM Error Workspace

namespace Writing

def intern (action : Interning α) : Writing α := fun ⟨pool, log⟩ =>
  match action pool with
  | .ok value pool => .ok value ⟨pool, log⟩
  | .error error pool => .error error ⟨pool, log⟩

def logging (action : Logging α) : Writing α := fun ⟨pool, log⟩ =>
  match action log with
  | .ok value log => .ok value ⟨pool, log⟩
  | .error error log => .error error ⟨pool, log⟩

end Writing

namespace Handler

def read : Scan Handler := do
  return ⟨← Scan.u16, ← Scan.u16, ← Scan.u16, ← Scan.u16⟩

def toBytes (handler : Handler) : Bytes :=
  Bytes.u16 handler.start ++ Bytes.u16 handler.stop ++ Bytes.u16 handler.entry ++
    Bytes.u16 handler.catchType

def remap (map : OffsetMap) (handler : Handler) : Except Error Handler := do
  let start ← map.translate handler.start
  let stop ← map.translate handler.stop
  return ⟨start, stop, ← map.translate handler.entry, handler.catchType⟩

end Handler

def Attribute.remap (map : OffsetMap) (name : String) (entry : Attribute) : Logging Attribute :=
  let remapped (reader : Scan Bytes) : Logging Attribute := do
    return ⟨entry.name, ← Logging.lift (reader.run entry.data)⟩
  match name with
  | "LineNumberTable" => remapped (DebugTable.remap DebugTable.lineNumber map)
  | "LocalVariableTable" | "LocalVariableTypeTable" =>
    remapped (DebugTable.remap DebugTable.localVariable map)
  | "StackMapTable" => remapped (StackMap.remap map)
  | "RuntimeVisibleTypeAnnotations" | "RuntimeInvisibleTypeAnnotations" =>
    throw (.relayout (.notCarried name))
  | _ => do
    Logging.record (.keptAttribute name)
    return entry

namespace Code

def make (maxStack maxLocals : UInt16) (instructions : List Instruction) : Code :=
  ⟨none, maxStack, maxLocals, instructions, [], [], none⟩

def read (name : UInt16) (pool : Pool) : Scan Code := do
  let maxStack ← Scan.u16
  let maxLocals ← Scan.u16
  let length := (← Scan.u32).toNat
  if length = 0 ∨ Body.maxLength < length then Scan.fail (.invalidCodeLength length)
  let body ← Scan.lift (Body.decode pool (← Scan.bytes length))
  let handlers ← Scan.counted Handler.read
  let attributes ← Attribute.readList
  Scan.finished .trailingAfterCode
  return ⟨some name, maxStack, maxLocals, body.instructions, handlers, attributes,
    some body.offsets⟩

def attributeName : String := "Code"

def nameIndex (code : Code) : Interning UInt16 := fun pool =>
  match code.name.filter fun index => (pool.text index).toOption == some attributeName with
  | some index => .ok index pool
  | none => Pool.internText attributeName pool

-- Moves handlers and nested attributes along with the instructions. Attribute names come
-- from the pool; a name that cannot be read names no known attribute.
def relocate (code : Code) (pool : Pool) (old : Offsets) (body : EncodedBody) :
    Logging (List Handler × List Attribute) := do
  let map ← Logging.lift (OffsetMap.pair old body.offsets)
  Logging.record (.movedBody (old.back?.getD 0) body.code.length)
  let handlers ← Logging.lift (code.handlers.mapM (Handler.remap map))
  let attributes ← code.attributes.mapM fun entry => do
    let name ← Logging.lift (pool.encodedText entry.name)
    entry.remap map (name.text?.getD "")
  return (handlers, attributes)

def payload (code : Code) (body : EncodedBody) (handlers : List Handler)
    (attributes : List Attribute) : Bytes :=
  Bytes.u16 code.maxStack ++ Bytes.u16 code.maxLocals ++ Bytes.ofNat 4 body.code.length ++
    body.code ++ Bytes.count handlers ++ handlers.flatMap Handler.toBytes ++
    Attribute.listToBytes attributes

def toBytes (code : Code) : Writing Bytes := do
  let name ← Writing.intern code.nameIndex
  let body ← Writing.intern (Body.encode code.instructions)
  let moved := code.offsets.filter (· ≠ body.offsets)
  let (handlers, attributes) ←
    match moved with
    | none => pure (code.handlers, code.attributes)
    | some old => do
      let pool := (← get).pool
      Writing.logging (code.relocate pool old body)
  return Attribute.toBytes ⟨name, code.payload body handlers attributes⟩

end Code
end ClassRename
