import ClassRename.Rename.Filter

namespace ClassRename

structure RewriteRequest where
  input : String
  table : String
  output : Option String
  filter : ClassFilter
  dryRun : Bool
  sequential : Bool

structure RefsRequest where
  input : String
  table : Option String
  renamedOnly : Bool
deriving Repr, DecidableEq

inductive Request where
  | rewrite (request : RewriteRequest)
  | refs (request : RefsRequest)

structure Style where
  json : Bool
  verbose : Bool
deriving Repr, DecidableEq

namespace Arguments

inductive Stop where
  | help
  | version
  | misused
deriving Repr, DecidableEq

inductive Verb where
  | rewrite
  | refs
deriving Repr, DecidableEq

inductive Operand where
  | nothing
  | text
  | path
deriving Repr, DecidableEq

structure Switch where
  long : String
  short : Option Char
  operand : Operand
deriving Repr, DecidableEq

def commonSwitches : List Switch :=
  [⟨"json", none, .nothing⟩, ⟨"verbose", some 'v', .nothing⟩, ⟨"help", some 'h', .nothing⟩]

def switches : Option Verb → List Switch
  | none => ⟨"version", some 'V', .nothing⟩ :: commonSwitches
  | some .rewrite =>
    [⟨"table", some 't', .path⟩, ⟨"output", some 'o', .path⟩, ⟨"prefix", none, .text⟩,
      ⟨"suffix", none, .text⟩, ⟨"dry-run", none, .nothing⟩, ⟨"sequential", none, .nothing⟩] ++
      commonSwitches
  | some .refs =>
    [⟨"table", some 't', .path⟩, ⟨"renamed-only", none, .nothing⟩] ++ commonSwitches

-- `pending` is a switch whose operand is the next argument, `literal` says that no argument is
-- a switch any more, and `topics` are those that help is asked about.
structure Reading where
  verb : Option Verb
  before : List (String × String)
  given : List (String × String)
  input : Option String
  pending : Option Switch
  literal : Bool
  topics : Option (List String)
deriving Repr, DecidableEq

namespace Reading

def start : Reading := ⟨none, [], [], none, none, false, none⟩

def find? (reading : Reading) (matching : Switch → Bool) : Except Stop Switch :=
  match (switches reading.verb).find? matching with
  | some switch => .ok switch
  | none => .error .misused

def give (reading : Reading) (switch : Switch) (value : String) : Except Stop Reading :=
  if switch.long = "help" then .error .help
  else if switch.long = "version" then .error .version
  else if (reading.given.lookup switch.long).isSome then .error .misused
  else if switch.operand = .path ∧ value = "" then .error .misused
  else .ok { reading with given := (switch.long, value) :: reading.given, pending := none }

def isSwitch (argument : String) : Bool := argument.startsWith "-" && argument ≠ "-"

def word (reading : Reading) (argument : String) : Except Stop Reading :=
  match reading.verb, reading.input with
  | some _, none =>
    if argument = "" then .error .misused else .ok { reading with input := some argument }
  | some _, some _ => .error .misused
  | none, _ =>
    let behind (verb : Verb) : Reading :=
      { reading with verb := some verb, before := reading.given, given := [] }
    if reading.literal then .error .misused
    else if argument = "rewrite" then .ok (behind .rewrite)
    else if argument = "refs" then .ok (behind .refs)
    else if argument = "help" then .ok { reading with topics := some [] }
    else .error .misused

def long (reading : Reading) (argument : List Char) : Except Stop Reading := do
  let name := String.ofList (argument.takeWhile (· ≠ '='))
  let switch ← reading.find? (·.long = name)
  match switch.operand, argument.dropWhile (· ≠ '=') with
  | .nothing, [] => reading.give switch ""
  | .nothing, _ :: _ => .error .misused
  | _, [] => .ok { reading with pending := some switch }
  | _, _ :: value => reading.give switch (String.ofList value)

def short (reading : Reading) : List Char → Except Stop Reading
  | [] => .ok reading
  | letter :: rest => do
    let switch ← reading.find? (·.short = some letter)
    match switch.operand, rest with
    | .nothing, rest => do (← reading.give switch "").short rest
    | _, [] => .ok { reading with pending := some switch }
    | _, '=' :: value => reading.give switch (String.ofList value)
    | _, value => reading.give switch (String.ofList value)

def step (reading : Reading) (argument : String) : Except Stop Reading :=
  match reading.topics, reading.pending with
  | some topics, _ => .ok { reading with topics := some (topics ++ [argument]) }
  | none, some switch =>
    if isSwitch argument then .error .misused else reading.give switch argument
  | none, none =>
    if reading.literal ∨ !isSwitch argument then reading.word argument
    else
      match argument.toList with
      | ['-', '-'] => .ok { reading with literal := true }
      | '-' :: '-' :: rest => reading.long rest
      | _ :: rest => reading.short rest
      | [] => .error .misused

def has (reading : Reading) (name : String) : Bool := (reading.given.lookup name).isSome

def rewrite (reading : Reading) : Except Stop RewriteRequest :=
  match reading.input, reading.given.lookup "table", reading.given.lookup "prefix",
      reading.given.lookup "suffix" with
  | none, _, _, _ | _, none, _, _ | _, _, some _, some _ => .error .misused
  | some input, some table, start, stop =>
    let filter : ClassFilter :=
      match start, stop with
      | some text, _ => .startingWith text
      | none, some text => .endingWith text
      | none, none => .all
    .ok ⟨input, table, reading.given.lookup "output", filter, reading.has "dry-run",
      reading.has "sequential"⟩

def refs (reading : Reading) : Except Stop RefsRequest :=
  match reading.input, reading.given.lookup "table", reading.has "renamed-only" with
  | none, _, _ | _, none, true => .error .misused
  | some input, table, renamedOnly => .ok ⟨input, table, renamedOnly⟩

def style (reading : Reading) : Style :=
  let anywhere (name : String) : Bool :=
    reading.has name || (reading.before.lookup name).isSome
  ⟨anywhere "json", anywhere "verbose"⟩

def isTopic : List String → Bool
  | [] => true
  | [topic] => topic = "rewrite" || topic = "refs" || topic = "help"
  | _ => false

def finish (reading : Reading) : Except Stop (Style × Request) := do
  match reading.topics with
  | some topics => throw (if isTopic topics then .help else .misused)
  | none =>
    if reading.pending.isSome then throw .misused
    match reading.verb with
    | none => throw .misused
    | some .rewrite => return (reading.style, .rewrite (← reading.rewrite))
    | some .refs => return (reading.style, .refs (← reading.refs))

end Reading

-- The arguments are read from left to right, so of two reasons to stop the first counts; what
-- is missing or does not go together shows at the end.
def read (arguments : List String) : Except Stop (Style × Request) := do
  (← arguments.foldlM Reading.step .start).finish

end Arguments
end ClassRename
