import ClassRename.ClassFile.Method

namespace ClassRename

structure ClassFile where
  minorVersion : UInt16
  majorVersion : UInt16
  pool : Pool
  flags : UInt16
  thisClass : UInt16
  superClass : UInt16
  interfaces : List UInt16
  fields : List Field
  methods : List Method
  attributes : List Attribute

namespace ClassFile

def magic : UInt32 := 0xCAFEBABE

def defaultFlags : UInt16 := 0x21
def defaultVersion : UInt16 := 52

def readMagic : Scan Unit := do
  let found ← Scan.u32
  if found ≠ magic then Scan.fail (.invalidMagic found)

def readAll : Scan ClassFile := do
  readMagic
  let minorVersion ← Scan.u16
  let majorVersion ← Scan.u16
  let pool ← Scan.pool
  let flags ← Scan.u16
  let thisClass ← Scan.u16
  let superClass ← Scan.u16
  let _ ← Scan.lift (pool.encodedClassName thisClass)
  let interfaces ← Scan.counted Scan.u16
  let fields ← Scan.counted Field.read
  let methods ← Scan.counted (Method.read pool)
  let attributes ← Attribute.readList
  Scan.finished .trailingAfterClass
  return ⟨minorVersion, majorVersion, pool, flags, thisClass, superClass, interfaces, fields,
    methods, attributes⟩

def parse (data : Bytes) : Except Error ClassFile := readAll.run data

def readName : Scan (Option String) := do
  readMagic
  Scan.advance 4
  let pool ← Scan.pool
  Scan.advance 2
  let name ← Scan.lift (pool.encodedClassName (← Scan.u16))
  return name.text?

def peekName (data : Bytes) : Except Error (Option String) := readName.run data

-- The methods come first: the constants they need are part of the pool that is written.
def toBytes (file : ClassFile) : Logging Bytes := fun log =>
  match file.methods.mapM Method.toBytes ⟨file.pool, log⟩ with
  | .error error ⟨_, log⟩ => .error error log
  | .ok methods ⟨pool, log⟩ =>
    let bytes := Bytes.u32 magic ++ Bytes.u16 file.minorVersion ++ Bytes.u16 file.majorVersion ++
      pool.toBytes ++ Bytes.u16 file.flags ++ Bytes.u16 file.thisClass ++
      Bytes.u16 file.superClass ++ Bytes.count file.interfaces ++
      file.interfaces.flatMap Bytes.u16 ++ Bytes.count file.fields ++
      file.fields.flatMap Field.toBytes ++ Bytes.count methods ++ methods.flatten ++
      Attribute.listToBytes file.attributes
    .ok bytes log

def make (name : String) (superName : Option String) : Except Error ClassFile :=
  let indices : Interning (UInt16 × UInt16) := do
    let thisClass ← Pool.internClass name
    match superName with
    | some superName => return (thisClass, ← Pool.internClass superName)
    | none => return (thisClass, 0)
  match indices.run .empty with
  | .ok (thisClass, superClass) pool =>
    .ok ⟨0, defaultVersion, pool, defaultFlags, thisClass, superClass, [], [], [], []⟩
  | .error error _ => .error error

def addMethod (file : ClassFile) (flags : UInt16) (name descriptor : String)
    (code : Option Code) : ClassFile :=
  { file with methods := file.methods ++ [.make flags name descriptor code] }

def name (file : ClassFile) : Except Error String := file.pool.className file.thisClass

def superName (file : ClassFile) : Except Error (Option String) := do
  if file.superClass = 0 then return none
  return some (← file.pool.className file.superClass)

def bodies (file : ClassFile) : List (Method × Code) :=
  file.methods.filterMap fun method => method.code?.map fun code => (method, code)

-- Every body of every method, also the second of a method that states two.
def allBodies (file : ClassFile) : List Code :=
  file.methods.flatMap fun method => method.attributes.filterMap MethodAttribute.code?

end ClassFile
end ClassRename
