import Mathlib.Algebra.Ring.Nat
import ClassRename.Body.Encode

namespace ClassRename.Descriptor

inductive Primitive where
  | byte | char | double | float | int | long | short | boolean
deriving Repr, DecidableEq

def Primitive.letter : Primitive → Char
  | .byte => 'B'
  | .char => 'C'
  | .double => 'D'
  | .float => 'F'
  | .int => 'I'
  | .long => 'J'
  | .short => 'S'
  | .boolean => 'Z'

-- A class name goes on to the first semicolon, so it may hold every other character.
inductive FieldType where
  | primitive (kind : Primitive)
  | object (name : String) (named : name ≠ "") (unended : ';' ∉ name.toList)
  | array (element : FieldType)

def FieldType.spelled : FieldType → List Char
  | .primitive kind => [kind.letter]
  | .object name _ _ => 'L' :: (name.toList ++ [';'])
  | .array element => '[' :: element.spelled

theorem FieldType.spelled_object (named : name ≠ "") (unended : ';' ∉ name.toList)
    (rest : List Char) :
    (object name named unended).spelled ++ rest = 'L' :: (name.toList ++ ';' :: rest) := by
  rw [spelled, List.cons_append, List.append_assoc]
  rfl

def FieldType.slots : FieldType → Nat
  | .primitive .long | .primitive .double => 2
  | .primitive _ | .object .. | .array _ => 1

def spelled (parameters : List FieldType) (result : String) : String :=
  .ofList ('(' :: (parameters.flatMap FieldType.spelled ++ ')' :: result.toList))

section Reading
variable {slots : UInt32} {rest : List Char}

theorem slotsFrom_className {name : List Char} (unended : ';' ∉ name) :
    slotsFrom slots .className (name ++ ';' :: rest) = slotsFrom slots .argument rest := by
  induction name with
  | nil => rfl
  | cons c name ih =>
    obtain ⟨other, behind⟩ := List.ne_and_not_mem_of_not_mem_cons unended
    rw [List.cons_append, slotsFrom, if_neg other.symm, ih behind]

-- Behind the brackets of an array the slot of the argument is already counted.
theorem slotsFrom_element (type : FieldType) :
    slotsFrom slots .element (type.spelled ++ rest) = slotsFrom slots .argument rest := by
  induction type with
  | primitive kind => cases kind <;> rfl
  | object name named unended =>
    rw [FieldType.spelled_object]
    exact slotsFrom_className unended
  | array element ih => exact ih

theorem slotsFrom_argument (type : FieldType) :
    slotsFrom slots .argument (type.spelled ++ rest) =
      slotsFrom (slots + .ofNat type.slots) .argument rest := by
  cases type with
  | primitive kind => cases kind <;> rfl
  | object name named unended =>
    rw [FieldType.spelled_object]
    exact slotsFrom_className unended
  | array element => exact slotsFrom_element element

theorem slotsFrom_parameters (parameters : List FieldType) :
    slotsFrom slots .argument (parameters.flatMap FieldType.spelled ++ ')' :: rest) =
      slots + .ofNat (parameters.map FieldType.slots).sum := by
  induction parameters generalizing slots with
  | nil => simp [slotsFrom]
  | cons type others ih =>
    rw [List.flatMap_cons, List.append_assoc, slotsFrom_argument, ih, List.map_cons, List.sum_cons,
      UInt32.ofNat_add, UInt32.add_assoc]

end Reading

theorem FieldType.slots_le (type : FieldType) : type.slots ≤ 2 * type.spelled.length := by
  cases type with
  | primitive kind => cases kind <;> decide
  | object name | array element =>
    change 1 ≤ 2 * _
    rw [spelled, List.length_cons]
    omega

theorem slots_sum_le (parameters : List FieldType) :
    (parameters.map FieldType.slots).sum ≤ 2 * (parameters.flatMap FieldType.spelled).length := by
  induction parameters with
  | nil => simp
  | cons type others ih =>
    have first := type.slots_le
    rw [List.map_cons, List.sum_cons, List.flatMap_cons, List.length_append]
    omega

-- Every sum that the reading forms stays below this one, so none loses its high bits.
theorem slots_lt (short : (spelled parameters result).length < 2 ^ 31) :
    1 + (parameters.map FieldType.slots).sum < 2 ^ 32 := by
  have sum := slots_sum_le parameters
  rw [spelled, String.length_ofList, List.length_cons, List.length_append] at short
  omega

theorem slots_spelled (parameters : List FieldType) (result : String) :
    slotsFrom 1 .argument ((spelled parameters result).toList.drop 1) =
      .ofNat (1 + (parameters.map FieldType.slots).sum) := by
  rw [spelled, String.toList_ofList, List.drop_one, List.tail_cons, slotsFrom_parameters,
    UInt32.ofNat_add]
  rfl

theorem interfaceArgumentCount_eq (short : (spelled parameters result).length < 2 ^ 31) :
    interfaceArgumentCount (spelled parameters result) =
      .ofNat (min 255 (1 + (parameters.map FieldType.slots).sum)) := by
  have fits := slots_lt short
  rw [interfaceArgumentCount, slots_spelled]
  generalize 1 + (parameters.map FieldType.slots).sum = slots at fits
  have small : UInt32.ofNat slots ≤ 255 ↔ slots ≤ 255 := by
    rw [UInt32.le_iff_toNat_le, UInt32.toNat_ofNat_of_lt' fits]
    rfl
  by_cases shown : slots ≤ 255
  · simp only [small.mpr shown, if_true, Nat.min_eq_right shown]
    simp
  · simp only [mt small.mp shown, if_false, Nat.min_eq_left (Nat.le_of_not_le shown)]
    rfl

theorem interfaceArgumentCount_spelled (parameters : List FieldType) (result : String)
    (short : (spelled parameters result).length < 2 ^ 31) :
    (interfaceArgumentCount (spelled parameters result)).toNat =
        min 255 (1 + (parameters.map FieldType.slots).sum) ∧
      ∀ call : Invocation, call.opcode = Opcode.invokeInterface → call.count = none →
        call.descriptor = spelled parameters result →
        Body.callSuffix call = [.ofNat (min 255 (1 + (parameters.map FieldType.slots).sum)), 0] := by
  have count := interfaceArgumentCount_eq short
  constructor
  · rw [count]
    exact UInt8.toNat_ofNat_of_lt' (Nat.lt_of_le_of_lt (Nat.min_le_left _ _) (by decide))
  · intro call interface underived named
    rw [Body.callSuffix, if_pos interface, underived, Option.getD_none, named, count]

def mixedParameters : List FieldType :=
  [.array (.array (.primitive .long)), .object "a)[JDL" (by decide) (by decide), .primitive .double]

theorem mixedParameters_counted :
    spelled mixedParameters "La/J;" = "([[JLa)[JDL;D)La/J;" ∧
      (spelled mixedParameters "La/J;").length < 2 ^ 31 ∧
      (interfaceArgumentCount "([[JLa)[JDL;D)La/J;").toNat = 5 ∧
      Body.callSuffix (.make Opcode.invokeInterface "a/I" "m" "([[JLa)[JDL;D)La/J;" true) = [5, 0] := by
  have text : spelled mixedParameters "La/J;" = "([[JLa)[JDL;D)La/J;" := by decide
  have short : (spelled mixedParameters "La/J;").length < 2 ^ 31 := by decide
  obtain ⟨count, written⟩ := interfaceArgumentCount_spelled mixedParameters "La/J;" short
  rw [text] at count written
  exact ⟨text, short, count, written _ rfl rfl rfl⟩

example : interfaceArgumentCount (spelled (.replicate 128 (.primitive .long)) "V") = 255 := by
  decide +kernel

end ClassRename.Descriptor
