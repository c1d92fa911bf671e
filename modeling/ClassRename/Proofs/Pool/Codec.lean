import ClassRename.Proofs.Pool.Interning
import ClassRename.Proofs.Scan

namespace ClassRename
open Effects Cursor

theorem Constant.Tag.ofCode?_code (tag : Tag) : Tag.ofCode? tag.code = some tag := by
  cases tag with
  | member kind => cases kind <;> rfl
  | _ => rfl

theorem Constant.Tag.code_of_ofCode? {tag : Tag} {byte : UInt8}
    (found : Tag.ofCode? byte = some tag) : tag.code = byte := by
  have matched := List.find?_some found
  simpa using matched

namespace Scan

theorem payload_complete (data : Bytes) (position : Nat) (rest : Bytes) (constant : Constant)
    (tag : Constant.Tag) (storable : constant.Storable) (tagged : constant.tag? = some tag) :
    payload tag ⟨data, position, constant.payload ++ rest⟩ =
      .ok constant ⟨data, position + constant.payload.length, rest⟩ := by
  cases constant with
  | unusable => cases tagged
  | utf8 stored =>
    cases tagged
    have taken := prefixedBytes_codec.complete stored.bytes data position rest storable
    simp only [Constant.payload, payload, textAsStored, map_apply, taken]
  | integer | float | long | double | classRef | string | methodType | moduleRef | packageRef =>
    cases tagged
    simp [Constant.payload, payload]
  | member | nameAndType | dynamic | invokeDynamic | methodHandle =>
    cases tagged
    simp [Constant.payload, payload, Nat.add_assoc]

theorem payload_sound (tag : Constant.Tag) (before after : Cursor) (constant : Constant)
    (read : payload tag before = .ok constant after) :
    constant.Storable ∧ constant.tag? = some tag ∧ Passed constant.payload before after := by
  cases tag with
  | utf8 =>
    simp only [payload, textAsStored, run_map_iff] at read
    obtain ⟨_, ⟨bytes, taken, rfl⟩, rfl⟩ := read
    obtain ⟨short, passed⟩ := prefixedBytes_codec.sound _ _ _ taken
    exact ⟨short, rfl, passed⟩
  | integer =>
    obtain ⟨value, taken, rfl⟩ := run_map_iff.mp read
    exact ⟨trivial, rfl, (i32_codec.sound _ _ _ taken).2⟩
  | float =>
    obtain ⟨value, taken, rfl⟩ := run_map_iff.mp read
    exact ⟨trivial, rfl, (u32_codec.sound _ _ _ taken).2⟩
  | long =>
    obtain ⟨value, taken, rfl⟩ := run_map_iff.mp read
    exact ⟨trivial, rfl, (i64_codec.sound _ _ _ taken).2⟩
  | double =>
    obtain ⟨value, taken, rfl⟩ := run_map_iff.mp read
    exact ⟨trivial, rfl, (u64_codec.sound _ _ _ taken).2⟩
  | classRef | string | methodType | moduleRef | packageRef =>
    obtain ⟨value, taken, rfl⟩ := run_map_iff.mp read
    exact ⟨trivial, rfl, (u16_codec.sound _ _ _ taken).2⟩
  | member | nameAndType | dynamic | invokeDynamic =>
    simp only [payload, run_bind_iff, run_pure_iff] at read
    obtain ⟨first, middle, firstTaken, second, _, secondTaken, rfl, rfl⟩ := read
    exact ⟨trivial, rfl, (u16_codec.sound _ _ _ firstTaken).2.trans
      (u16_codec.sound _ _ _ secondTaken).2⟩
  | methodHandle =>
    simp only [payload, run_bind_iff, run_pure_iff] at read
    obtain ⟨kind, middle, kindTaken, index, _, indexTaken, rfl, rfl⟩ := read
    exact ⟨trivial, rfl, (u8_codec.sound _ _ _ kindTaken).2.trans
      (u16_codec.sound _ _ _ indexTaken).2⟩

theorem constant_codec : Codec constant Constant.toBytes Constant.Storable := by
  constructor
  · intro value data position rest storable
    cases tagged : value.tag? with
    | none =>
      cases value <;> first | exact absurd rfl storable.usable | cases tagged
    | some tag =>
      have taken := payload_complete data (position + 1) rest value tag storable tagged
      simp [constant, Scan.position, Constant.toBytes, tagged, Constant.Tag.ofCode?_code, taken,
        Nat.add_assoc, Nat.add_comm 1]
  · intro before value after read
    simp only [constant, run_bind_iff] at read
    obtain ⟨offset, here, looked, code, middle, taken, shown⟩ := read
    obtain ⟨_, rfl⟩ := position_ok_iff.mp looked
    cases known : Constant.Tag.ofCode? code with
    | none =>
      rw [known] at shown
      cases shown
    | some tag =>
      rw [known] at shown
      obtain ⟨storable, tagged, passed⟩ := payload_sound tag _ _ _ shown
      refine ⟨storable, ((u8_codec.sound _ _ _ taken).2.trans passed).congr ?_⟩
      simp [Constant.toBytes, tagged, Constant.Tag.code_of_ofCode? known]

end Scan

namespace Pool

def extended (pool : Pool) (constants : List Constant) : Pool := constants.foldl append pool

theorem extended_cons (pool : Pool) (constant : Constant) (rest : List Constant) :
    pool.extended (constant :: rest) = (pool.append constant).extended rest := rfl

theorem size_le_extended (pool : Pool) (constants : List Constant) :
    pool.size ≤ (pool.extended constants).size := by
  induction constants generalizing pool with
  | nil => exact Nat.le_refl _
  | cons constant rest ih =>
    exact Nat.le_trans (Nat.le_of_lt (size_lt_append pool constant)) (ih _)

theorem Grown.constants (grown : Grown pool later) :
    ∃ constants, (∀ constant ∈ constants, constant.Storable) ∧ later = pool.extended constants ∧
      (constants = [] ∨ later.size ≤ capacity) := by
  induction grown with
  | refl => exact ⟨[], by simp, rfl, .inl rfl⟩
  | @add middle constant _ storable room ih =>
    obtain ⟨constants, all, rfl, _⟩ := ih
    refine ⟨constants ++ [constant], ?_, by simp [extended], .inr ?_⟩
    · intro other member
      rcases List.mem_append.mp member with old | new
      · exact all other old
      · rw [List.mem_singleton.mp new]
        exact storable
    · rw [size_append]
      exact room

theorem grown_extended (constants : List Constant) (pool : Pool)
    (storable : ∀ constant ∈ constants, constant.Storable)
    (room : (pool.extended constants).size ≤ capacity) : Grown pool (pool.extended constants) := by
  induction constants generalizing pool with
  | nil => exact .refl
  | cons constant rest ih =>
    have first : (pool.append constant).size ≤ capacity :=
      Nat.le_trans (size_le_extended _ rest) room
    have one : Grown pool (pool.append constant) :=
      .add .refl (storable constant List.mem_cons_self) (by rwa [size_append] at first)
    exact one.trans (ih _ (fun other member => storable other (List.mem_cons_of_mem _ member)) room)

theorem slots_toBytes (constant : Constant) :
    constant.slots.flatMap Constant.toBytes = constant.toBytes := by
  unfold Constant.slots
  split <;> simp [Constant.toBytes, Constant.tag?]

theorem extended_toBytes (pool : Pool) (constants : List Constant) :
    (pool.extended constants).slots.toList.flatMap Constant.toBytes =
      pool.slots.toList.flatMap Constant.toBytes ++ constants.flatMap Constant.toBytes := by
  induction constants generalizing pool with
  | nil => simp [extended]
  | cons constant rest ih =>
    rw [extended_cons, ih, slots_append, Array.toList_appendList, List.flatMap_append, slots_toBytes,
      List.append_assoc, List.flatMap_cons]

end Pool

namespace Scan
open Pool

-- A wide constant needs both its slots, so the entries never overrun the stated count.
theorem poolEntries_complete (constants : List Constant) (pool : Pool) (count : Nat)
    (data : Bytes) (position : Nat) (rest : Bytes)
    (storable : ∀ constant ∈ constants, constant.Storable)
    (filled : (pool.extended constants).size = count) :
    poolEntries count pool ⟨data, position, constants.flatMap Constant.toBytes ++ rest⟩ =
      .ok (pool.extended constants)
        ⟨data, position + (constants.flatMap Constant.toBytes).length, rest⟩ := by
  induction constants generalizing pool position with
  | nil =>
    have full : ¬ pool.size < count := by rw [← filled]; exact Nat.lt_irrefl _
    rw [poolEntries, if_neg full]
    rfl
  | cons constant others ih =>
    have next : (pool.append constant).size ≤ count := by
      rw [← filled, extended_cons]
      exact size_le_extended _ _
    have more : pool.size < count := Nat.lt_of_lt_of_le (size_lt_append pool constant) next
    have fitting : ¬ (constant.isWide = true ∧ count ≤ pool.size + 1) := by
      intro stated
      rcases stated with ⟨wide, tight⟩
      rw [size_append, Constant.slots_length, if_pos wide] at next
      omega
    have first := constant_codec.complete constant data position
      (others.flatMap Constant.toBytes ++ rest) (storable constant List.mem_cons_self)
    have tail := ih (pool.append constant) (position + constant.toBytes.length)
      (fun other member => storable other (List.mem_cons_of_mem _ member)) filled
    rw [poolEntries, if_pos more, List.flatMap_cons, List.append_assoc, bind_apply, first]
    dsimp only
    rw [if_neg fitting, tail, extended_cons, List.length_append, Nat.add_assoc]

theorem poolEntries_sound (count : Nat) (pool : Pool) (before after : Cursor) (later : Pool)
    (bounded : pool.size ≤ count)
    (read : poolEntries count pool before = .ok later after) :
    ∃ constants, (∀ constant ∈ constants, constant.Storable) ∧ later = pool.extended constants ∧
      later.size = count ∧ Passed (constants.flatMap Constant.toBytes) before after := by
  induction measured : count - pool.size using Nat.strongRecOn generalizing pool before with
  | ind left ih =>
    rw [poolEntries] at read
    split at read
    · rename_i more
      simp only [run_bind_iff] at read
      obtain ⟨constant, middle, taken, next⟩ := read
      obtain ⟨storable, passed⟩ := constant_codec.sound _ _ _ taken
      split at next
      · cases next
      · rename_i fitting
        have grown := size_lt_append pool constant
        have within : (pool.append constant).size ≤ count := by
          rw [size_append, Constant.slots_length]
          split
          · rename_i wide
            have loose : ¬ count ≤ pool.size + 1 := fun tight => fitting ⟨wide, tight⟩
            omega
          · omega
        obtain ⟨constants, all, rfl, full, further⟩ :=
          ih (count - (pool.append constant).size) (by omega) _ _ within next rfl
        exact ⟨constant :: constants, List.forall_mem_cons.mpr ⟨storable, all⟩, rfl, full,
          passed.trans further⟩
    · rename_i full
      obtain ⟨rfl, rfl⟩ := run_pure_iff.mp read
      exact ⟨[], by simp, rfl, by omega, .refl _⟩

theorem pool_codec : Codec Scan.pool Pool.toBytes Built := by
  constructor
  · intro value data position rest built
    obtain ⟨constants, storable, same, _⟩ := Grown.constants built
    have sized : value.size < 2 ^ 16 := Nat.lt_of_le_of_lt (Built.sound built).bounded (by decide)
    have entries := poolEntries_complete constants .empty value.size data (position + 2) rest storable
      (same ▸ rfl)
    have filled : value.size ≠ 0 := by
      have grown := size_le_extended .empty constants
      rw [← same] at grown
      exact Nat.ne_of_gt (Nat.lt_of_lt_of_le (by decide) grown)
    have count : Bytes.ofNat 2 value.size = Bytes.u16 (UInt16.ofNat value.size) := by
      rw [Bytes.u16, UInt16.toNat_ofNat_of_lt' sized]
    have written : value.toBytes =
        Bytes.u16 (UInt16.ofNat value.size) ++ constants.flatMap Constant.toBytes := by
      rw [Pool.toBytes, count, same, extended_toBytes]
      rfl
    rw [← same] at entries
    rw [written, List.append_assoc]
    simp only [Scan.pool, bind_apply, u16_apply, UInt16.toNat_ofNat_of_lt' sized, filled, if_false,
      entries, List.length_append, Bytes.length_u16, Nat.add_assoc]
  · intro before value after read
    simp only [Scan.pool, run_bind_iff, guard_ok_iff] at read
    obtain ⟨count, middle, taken, nonempty, entries⟩ := read
    have positive : 0 < count.toNat := Nat.pos_of_ne_zero nonempty
    obtain ⟨constants, storable, rfl, full, passed⟩ :=
      poolEntries_sound count.toNat .empty _ _ _ positive entries
    have short : count.toNat < 65536 := count.toNat_lt
    have room : ((Pool.empty).extended constants).size ≤ capacity := by
      rw [full]
      exact Nat.le_of_lt_succ short
    refine ⟨grown_extended constants .empty storable room,
      ((u16_codec.sound _ _ _ taken).2.trans passed).congr ?_⟩
    rw [Pool.toBytes, full, extended_toBytes]
    rfl

end Scan
end ClassRename
