import ClassRename.ClassFile.Basic

namespace ClassRename

def Code.modifyInstructions (code : Code) (edit : List Instruction → List Instruction) : Code :=
  { code with instructions := edit code.instructions }

def MethodAttribute.modifyCode (edit : Code → Code) : MethodAttribute → MethodAttribute
  | .code body => .code (edit body)
  | .other entry => .other entry

namespace Method

def modifyCode (method : Method) (edit : Code → Code) : Method :=
  let position := method.attributes.findIdx (·.code?.isSome)
  { method with
    attributes := method.attributes.modify position (MethodAttribute.modifyCode edit) }

def addAttribute (method : Method) (entry : Attribute) : Method :=
  { method with attributes := method.attributes ++ [.other entry] }

end Method

namespace ClassFile

-- Looks constants up or adds them. A failure leaves no trace in the class.
def interning (file : ClassFile) (action : Interning α) : Except Error (α × ClassFile) :=
  match action file.pool with
  | .ok value pool => .ok (value, { file with pool := pool })
  | .error error _ => .error error

def modifyMethod (file : ClassFile) (position : Nat) (edit : Method → Method) : ClassFile :=
  { file with methods := file.methods.modify position edit }

def modifyCode (file : ClassFile) (position : Nat) (edit : Code → Code) : ClassFile :=
  file.modifyMethod position (·.modifyCode edit)

def addField (file : ClassFile) (field : Field) : ClassFile :=
  { file with fields := file.fields ++ [field] }

end ClassFile
end ClassRename
