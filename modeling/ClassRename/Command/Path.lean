namespace ClassRename.Path

-- A path is its names between slashes. Empty names and dots mean nothing, except for a slash
-- or a dot at the very start.
inductive Component where
  | root
  | current
  | parent
  | name (text : String)
deriving Repr, DecidableEq

def pieces (path : String) : List String := path.splitOn "/"

def isRedundant (piece : String) : Bool := piece = "" || piece = "."

def component (piece : String) : Component := if piece = ".." then .parent else .name piece

def components (path : String) : List Component :=
  match pieces path with
  | [] => []
  | first :: rest =>
    let start : List Component :=
      if path = "" then []
      else if first = "" then [.root]
      else if first = "." then [.current]
      else [component first]
    start ++ (rest.filter (!isRedundant ·)).map component

def same (left right : String) : Bool := components left = components right

def fileName? (path : String) : Option String :=
  match (components path).getLast? with
  | some (.name text) => some text
  | _ => none

def extension? (path : String) : Option String := do
  let reversed := (← fileName? path).toList.reverse
  match reversed.dropWhile (· ≠ '.') with
  | _ :: _ :: _ => some (String.ofList (reversed.takeWhile (· ≠ '.')).reverse)
  | _ => none

def withoutLast (pieces : List String) : List String :=
  (((pieces.reverse.dropWhile isRedundant).drop 1).dropWhile isRedundant).reverse

def parent? (path : String) : Option String :=
  match pieces path with
  | [] => none
  | first :: rest =>
    if rest.all isRedundant then if first = "" then none else some ""
    else
      match withoutLast rest with
      | [] => some (if first = "" then "/" else first)
      | rest => some (String.intercalate "/" (first :: rest))

def withoutClosedName (path : String) : String :=
  match (pieces path).reverse with
  | "" :: before =>
    match before.dropWhile (· = "") with
    | last :: rest =>
      let kept := if last = "." || last = ".." then last :: rest else "." :: rest
      String.intercalate "/" kept.reverse
    | [] => path
  | _ => path

def join (path name : String) : String :=
  if path = "" || name.startsWith "/" then name
  else if path.endsWith "/" then path ++ name
  else path ++ "/" ++ name

def shown (path : String) : String := (fileName? path).getD path

end ClassRename.Path
