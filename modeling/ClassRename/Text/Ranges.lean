namespace ClassRename.Text

def rangeAfter (ranges : Array (Nat × Nat)) (value low high : Nat) : Nat :=
  if low < high then
    let middle := (low + high) / 2
    match ranges[middle]? with
    | some (_, last) =>
      if last < value then rangeAfter ranges value (middle + 1) high
      else rangeAfter ranges value low middle
    | none => low
  else low
termination_by high - low

def isWithin (ranges : Array (Nat × Nat)) (scalar : Char) : Bool :=
  match ranges[rangeAfter ranges scalar.toNat 0 ranges.size]? with
  | some (first, last) => first ≤ scalar.toNat && scalar.toNat ≤ last
  | none => false

end ClassRename.Text
