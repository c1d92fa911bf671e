namespace ClassRename

structure Stats where
  methods : Nat
  fieldRefs : Nat
  methodRefs : Nat
  typeConstants : Nat
deriving Repr, DecidableEq, Inhabited

namespace Stats

def zero : Stats := ⟨0, 0, 0, 0⟩

def substitutions (stats : Stats) : Nat :=
  stats.fieldRefs + stats.methodRefs + stats.typeConstants

def isEmpty (stats : Stats) : Bool := stats.substitutions = 0

def add (left right : Stats) : Stats :=
  ⟨left.methods + right.methods, left.fieldRefs + right.fieldRefs,
    left.methodRefs + right.methodRefs, left.typeConstants + right.typeConstants⟩

instance : Add Stats := ⟨add⟩

end Stats
end ClassRename
