import ClassRename.Text.Cluster
import ClassRename.Text.Columns

namespace ClassRename.Text

structure Wrapping where
  lines : List String
  line : String
deriving Repr, DecidableEq

def Wrapping.empty : Wrapping := ⟨[], ""⟩

def Wrapping.newLine (wrapping : Wrapping) : Wrapping := ⟨wrapping.line :: wrapping.lines, ""⟩

def Wrapping.append (wrapping : Wrapping) (word : String) : Wrapping :=
  ⟨wrapping.lines, if wrapping.line = "" then word else wrapping.line ++ " " ++ word⟩

def leastFree : Nat := 2

def Wrapping.newLineIfFull (limit : Nat) (wrapping : Wrapping) : Wrapping :=
  if limit - leastFree < columns wrapping.line then wrapping.newLine else wrapping

def fittingClusters (count free : Nat) : List String → Nat
  | [] => count
  | cluster :: rest =>
    if columns cluster ≤ free then fittingClusters (count + 1) (free - columns cluster) rest
    else count

-- A word, by its clusters, that goes on the line, on the next one or on several. Of a word that
-- is longer than a line, an empty line takes at least one cluster.
def Wrapping.place (limit : Nat) (word : List String) (wrapping : Wrapping) : Wrapping :=
  let gap := if wrapping.line = "" then 0 else 1
  let free := limit - columns wrapping.line - gap
  let length := columns (String.join word)
  if length + columns wrapping.line + gap ≤ limit then
    (wrapping.append (String.join word)).newLineIfFull limit
  else if word = [] then wrapping
  else if wrapping.line ≠ "" && (free ≤ leastFree || length ≤ limit) then
    Wrapping.place limit word wrapping.newLine
  else
    let fitting := fittingClusters 0 free word
    let count := if wrapping.line = "" then max 1 fitting else fitting
    Wrapping.place limit (word.drop count)
      (wrapping.append (String.join (word.take count))).newLine
termination_by (word.length, if wrapping.line = "" then 0 else 1)
decreasing_by
  all_goals simp_wf
  all_goals grind [Wrapping.newLine, List.length_drop]

def wrap (limit : Nat) (text : String) : List String :=
  let words := (text.splitOn " ").map clusters
  let wrapping := words.foldl (fun wrapping word => wrapping.place limit word) Wrapping.empty
  (if wrapping.line = "" then wrapping.lines else wrapping.newLine.lines).reverse

end ClassRename.Text
