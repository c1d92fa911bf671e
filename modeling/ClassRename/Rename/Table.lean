import ClassRename.Json.Reader
import ClassRename.Log
import Std.Data.HashMap

namespace ClassRename

structure RenameTable where
  entries : Std.HashMap String String

namespace RenameTable

def empty : RenameTable := ⟨∅⟩

-- Of several entries for one name the last counts.
def ofList (pairs : List (String × String)) : RenameTable :=
  ⟨pairs.foldl (fun entries (old, new) => entries.insert old new) ∅⟩

def get? (table : RenameTable) (old : String) : Option String := table.entries[old]?

def contains (table : RenameTable) (old : String) : Bool := table.entries.contains old

def size (table : RenameTable) : Nat := table.entries.size

def isEmpty (table : RenameTable) : Bool := table.entries.isEmpty

-- A name mapped to itself is no renaming.
def renamed? (table : RenameTable) (old : String) : Option String :=
  (table.get? old).filter (· ≠ old)

def sorted (pairs : List (String × α)) : List (String × α) :=
  pairs.mergeSort fun left right => !(right.1 < left.1)

def pairs (table : RenameTable) : List (String × String) := sorted table.entries.toList

def members (found : List (String × Json)) : List (String × Json) :=
  let distinct : Std.HashMap String Json :=
    found.foldl (fun entries (key, value) => entries.insert key value) ∅
  sorted distinct.toList

def looksDotted (key : String) : Bool := key.contains '.' && !key.contains '/'

def checkMember (origin : String) : String × Json → Logging (String × String)
  | (key, .string new) => do
    if looksDotted key then Logging.record (.dottedKey origin key)
    return (key, new)
  | (key, value) => throw (.tableMalformed origin (.notAString key value.kind))

def ofJson (text origin : String) : Logging RenameTable := do
  match Json.parse? text with
  | none => throw (.tableMalformed origin .notJson)
  | some (.object found) => return ofList (← (members found).mapM (checkMember origin))
  | some value => throw (.tableMalformed origin (.notAnObject value.kind))

end RenameTable
end ClassRename
