import ClassRename.Cursor
import Std.Data.HashMap

namespace ClassRename

structure Pool where
  slots : Array Constant
  first : Std.HashMap Constant UInt16

namespace Pool

def empty : Pool := ⟨#[.unusable], ∅⟩

def slotless : Pool := ⟨#[], ∅⟩

def size (pool : Pool) : Nat := pool.slots.size

def isEmpty (pool : Pool) : Bool := pool.size ≤ 1

def capacity : Nat := 65535

-- Adds a constant behind the last slot; an equal constant that came earlier stays the first.
def append (pool : Pool) (constant : Constant) : Pool :=
  let index := UInt16.ofNat pool.size
  let ⟨slots, first⟩ := pool
  ⟨slots ++ constant.slots, first.insertIfNew constant index⟩

def entries (pool : Pool) : List (Nat × Constant) :=
  (pool.slots.toList.mapIdx fun index constant => (index, constant)).filter
    fun entry => entry.2 ≠ .unusable

theorem slots_append (pool : Pool) (constant : Constant) :
    (pool.append constant).slots = pool.slots ++ constant.slots := rfl

theorem size_lt_append (pool : Pool) (constant : Constant) :
    pool.size < (pool.append constant).size := by
  simp only [size, slots_append, Constant.slots]
  split <;> simp only [Array.appendList_cons, Array.appendList_nil, Array.size_push] <;> omega

def toBytes (pool : Pool) : Bytes :=
  Bytes.ofNat 2 pool.size ++ pool.slots.toList.flatMap Constant.toBytes

end Pool

namespace Scan

def textAsStored : Scan EncodedText := EncodedText.mk <$> prefixedBytes

def payload : Constant.Tag → Scan Constant
  | .utf8 => .utf8 <$> textAsStored
  | .integer => .integer <$> i32
  | .float => .float <$> u32
  | .long => .long <$> i64
  | .double => .double <$> u64
  | .classRef => .classRef <$> u16
  | .string => .string <$> u16
  | .member kind => do return .member kind (← u16) (← u16)
  | .nameAndType => do return .nameAndType (← u16) (← u16)
  | .methodHandle => do return .methodHandle (← u8) (← u16)
  | .methodType => .methodType <$> u16
  | .dynamic => do return .dynamic (← u16) (← u16)
  | .invokeDynamic => do return .invokeDynamic (← u16) (← u16)
  | .moduleRef => .moduleRef <$> u16
  | .packageRef => .packageRef <$> u16

def constant : Scan Constant := do
  let offset ← position
  let code ← u8
  match Constant.Tag.ofCode? code with
  | some tag => payload tag
  | none => fail (.unknownTag code offset)

def poolEntries (count : Nat) (pool : Pool) : Scan Pool :=
  if pool.size < count then do
    let constant ← constant
    if constant.isWide ∧ count ≤ pool.size + 1 then fail (.wideOverrun pool.size count)
    else poolEntries count (pool.append constant)
  else pure pool
termination_by count - pool.size
decreasing_by
  have := Pool.size_lt_append pool constant
  omega

def pool : Scan Pool := do
  let count := (← u16).toNat
  if count = 0 then fail .emptyPoolCount
  poolEntries count .empty

end Scan
end ClassRename
