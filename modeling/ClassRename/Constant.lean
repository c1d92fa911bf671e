import ClassRename.Text.ModifiedUtf8
import ClassRename.Text.Quoted

namespace ClassRename

-- Text as the class file stores it. Two texts are the same constant when their bytes agree,
-- even if different bytes would read as the same string.
structure EncodedText where
  bytes : Bytes
deriving Repr, DecidableEq, Hashable, Inhabited

namespace EncodedText

def ofString (text : String) : EncodedText := ⟨ModifiedUtf8.encode text⟩

def text? (text : EncodedText) : Option String := (ModifiedUtf8.decode text.bytes).toOption

def lossy (text : EncodedText) : String := text.text?.getD (ModifiedUtf8.decodeLossy text.bytes)

end EncodedText

inductive MemberKind where
  | field
  | method
  | interfaceMethod
deriving Repr, DecidableEq, Hashable, Inhabited

namespace Constant

inductive Tag where
  | utf8 | integer | float | long | double | classRef | string
  | member (kind : MemberKind)
  | nameAndType | methodHandle | methodType | dynamic | invokeDynamic | moduleRef | packageRef
deriving Repr, DecidableEq

def Tag.code : Tag → UInt8
  | .utf8 => 1
  | .integer => 3
  | .float => 4
  | .long => 5
  | .double => 6
  | .classRef => 7
  | .string => 8
  | .member .field => 9
  | .member .method => 10
  | .member .interfaceMethod => 11
  | .nameAndType => 12
  | .methodHandle => 15
  | .methodType => 16
  | .dynamic => 17
  | .invokeDynamic => 18
  | .moduleRef => 19
  | .packageRef => 20

def Tag.all : List Tag :=
  [.utf8, .integer, .float, .long, .double, .classRef, .string, .member .field, .member .method,
    .member .interfaceMethod, .nameAndType, .methodHandle, .methodType, .dynamic, .invokeDynamic,
    .moduleRef, .packageRef]

def Tag.ofCode? (code : UInt8) : Option Tag := Tag.all.find? (·.code == code)

def Tag.name : Tag → String
  | .utf8 => "Utf8"
  | .integer => "Integer"
  | .float => "Float"
  | .long => "Long"
  | .double => "Double"
  | .classRef => "Class"
  | .string => "String"
  | .member .field => "FieldRef"
  | .member .method => "MethodRef"
  | .member .interfaceMethod => "InterfaceMethodRef"
  | .nameAndType => "NameAndType"
  | .methodHandle => "MethodHandle"
  | .methodType => "MethodType"
  | .dynamic => "Dynamic"
  | .invokeDynamic => "InvokeDynamic"
  | .moduleRef => "Module"
  | .packageRef => "Package"

end Constant

-- One pool slot. Floating-point constants are kept as raw bits, so that every bit pattern is
-- written back as it was read. The numbers of the reference constants are pool indices.
inductive Constant where
  | unusable
  | utf8 (text : EncodedText)
  | integer (value : Int32)
  | float (bits : UInt32)
  | long (value : Int64)
  | double (bits : UInt64)
  | classRef (name : UInt16)
  | string (text : UInt16)
  | member (kind : MemberKind) (owner nameAndType : UInt16)
  | nameAndType (name descriptor : UInt16)
  | methodHandle (kind : UInt8) (reference : UInt16)
  | methodType (descriptor : UInt16)
  | dynamic (bootstrap nameAndType : UInt16)
  | invokeDynamic (bootstrap nameAndType : UInt16)
  | moduleRef (name : UInt16)
  | packageRef (name : UInt16)
deriving Repr, DecidableEq, Hashable, Inhabited

namespace Constant

def isWide : Constant → Bool
  | .long _ | .double _ => true
  | _ => false

def slots (constant : Constant) : List Constant :=
  if constant.isWide then [constant, .unusable] else [constant]

def tag? : Constant → Option Tag
  | .unusable => none
  | .utf8 _ => some .utf8
  | .integer _ => some .integer
  | .float _ => some .float
  | .long _ => some .long
  | .double _ => some .double
  | .classRef _ => some .classRef
  | .string _ => some .string
  | .member kind _ _ => some (.member kind)
  | .nameAndType _ _ => some .nameAndType
  | .methodHandle _ _ => some .methodHandle
  | .methodType _ => some .methodType
  | .dynamic _ _ => some .dynamic
  | .invokeDynamic _ _ => some .invokeDynamic
  | .moduleRef _ => some .moduleRef
  | .packageRef _ => some .packageRef

def payload : Constant → Bytes
  | .unusable => []
  | .utf8 text => Bytes.count text.bytes ++ text.bytes
  | .integer value => Bytes.i32 value
  | .float bits => Bytes.u32 bits
  | .long value => Bytes.i64 value
  | .double bits => Bytes.u64 bits
  | .classRef index | .string index | .methodType index | .moduleRef index | .packageRef index =>
    Bytes.u16 index
  | .member _ first second | .nameAndType first second | .dynamic first second
  | .invokeDynamic first second => Bytes.u16 first ++ Bytes.u16 second
  | .methodHandle kind reference => kind :: Bytes.u16 reference

def toBytes (constant : Constant) : Bytes :=
  match constant.tag? with
  | none => []
  | some tag => tag.code :: constant.payload

private def braced (name : String) (fields : List (String × Nat)) : String :=
  let shown := fields.map fun (field, value) => field ++ ": " ++ toString value
  name ++ " \x7b " ++ String.intercalate ", " shown ++ " \x7d"

def shown : Constant → String
  | .unusable => "Unusable"
  | .utf8 text =>
    let bytes := String.intercalate ", " (text.bytes.map fun byte => toString byte.toNat)
    let decoded :=
      match text.text? with
      | some text => "Some(" ++ Text.quoted text ++ ")"
      | none => "None"
    "Utf8(Utf8Entry \x7b bytes: [" ++ bytes ++ "], text: " ++ decoded ++ " \x7d)"
  | .integer value => "Integer(" ++ toString value.toInt ++ ")"
  | .float bits => "Float(" ++ toString bits.toNat ++ ")"
  | .long value => "Long(" ++ toString value.toInt ++ ")"
  | .double bits => "Double(" ++ toString bits.toNat ++ ")"
  | .classRef name => braced "Class" [("name_index", name.toNat)]
  | .string text => braced "String" [("string_index", text.toNat)]
  | .member kind owner signature =>
    braced (Tag.member kind).name
      [("class_index", owner.toNat), ("name_and_type_index", signature.toNat)]
  | .nameAndType name descriptor =>
    braced "NameAndType" [("name_index", name.toNat), ("descriptor_index", descriptor.toNat)]
  | .methodHandle kind reference =>
    braced "MethodHandle"
      [("reference_kind", kind.toNat), ("reference_index", reference.toNat)]
  | .methodType descriptor => braced "MethodType" [("descriptor_index", descriptor.toNat)]
  | .dynamic bootstrap signature =>
    braced "Dynamic" [("bootstrap_method_attr_index", bootstrap.toNat),
      ("name_and_type_index", signature.toNat)]
  | .invokeDynamic bootstrap signature =>
    braced "InvokeDynamic" [("bootstrap_method_attr_index", bootstrap.toNat),
      ("name_and_type_index", signature.toNat)]
  | .moduleRef name => braced "Module" [("name_index", name.toNat)]
  | .packageRef name => braced "Package" [("name_index", name.toNat)]

end Constant
end ClassRename
