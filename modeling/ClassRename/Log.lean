import ClassRename.Error
import ClassRename.Rename.Stats

namespace ClassRename

inductive Level where
  | error
  | warn
  | info
  | debug
deriving Repr, DecidableEq

def Level.rank : Level → Nat
  | .error => 1
  | .warn => 2
  | .info => 3
  | .debug => 4

def Level.name : Level → String
  | .error => "ERROR"
  | .warn => "WARN"
  | .info => "INFO"
  | .debug => "DEBUG"

inductive Event where
  | dottedKey (origin key : String)
  | loaded (count : Nat) (origin : String)
  | resolved (count : Nat) (source : String)
  | unresolvableName (error : Error)
  | undecodableName
  | rewrote (name : String) (stats : Stats)
  | movedBody (old new : Nat)
  | keptAttribute (name : String)
  | failedClass (name : String) (error : Error)
  | noClasses (input : String)
deriving Repr, DecidableEq

def Event.level : Event → Level
  | .failedClass .. => .error
  | .dottedKey .. | .unresolvableName _ | .undecodableName | .keptAttribute _ | .noClasses _ =>
    .warn
  | .loaded .. | .resolved .. => .info
  | .rewrote .. | .movedBody .. => .debug

def Event.message : Event → String
  | .dottedKey origin key =>
    s!"{origin}: key \"{key}\" looks like a dotted source name; " ++
      "rename tables use slash-separated internal names"
  | .loaded count origin => s!"Loaded {count} renames from {origin}"
  | .resolved count source => s!"Resolved {count} renames from {source}"
  | .unresolvableName error => s!"Skipping class with unresolvable name: {error.message}"
  | .undecodableName => "Skipping class with undecodable name"
  | .rewrote name stats =>
    s!"Rewrote {name}: {stats.fieldRefs} field, {stats.methodRefs} method, " ++
      s!"{stats.typeConstants} class constant references"
  | .movedBody old new => s!"Relaying out method body: {old} -> {new} bytes"
  | .keptAttribute name => s!"Keeping {name} unchanged although its method was relaid out"
  | .failedClass name error => s!"Failed to rewrite {name}: {error.message}"
  | .noClasses input => s!"No class files found in {input}"

abbrev Log := Array Event

-- What was recorded before a failure stays recorded.
abbrev Logging := EStateM Error Log

namespace Logging

def record (event : Event) : Logging Unit := fun log => .ok () (log.push event)

def lift (result : Except Error α) : Logging α :=
  match result with
  | .ok value => pure value
  | .error error => throw error

end Logging
end ClassRename
