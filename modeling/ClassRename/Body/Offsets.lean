namespace ClassRename

abbrev Offsets := Array Nat

namespace Offsets

def search (offsets : Offsets) (target base size : Nat) : Nat :=
  if 1 < size then
    let half := size / 2
    match offsets[base + half]? with
    | some entry =>
      search offsets target (if target < entry then base else base + half) (size - half)
    | none => base
  else base
termination_by size

def position? (offsets : Offsets) (target : Nat) : Option Nat :=
  let found := search offsets target 0 offsets.size
  if offsets[found]? = some target then some found else none

-- The last entry is the code length, so no instruction starts there.
def instructionAt? (offsets : Offsets) (target : Nat) : Option Nat :=
  (position? offsets target).filter (· + 1 < offsets.size)

def distance? (offsets : Offsets) (position target : Nat) : Option Int :=
  if target + 1 < offsets.size then
    match offsets[position]?, offsets[target]? with
    | some here, some there => some (there - here)
    | _, _ => none
  else none

end Offsets
end ClassRename
