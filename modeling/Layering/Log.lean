/-!
# Log events
-/

namespace Layering.Log

/-- How important an event is. -/
inductive Level where
  | debug
  | info
  | warn
deriving DecidableEq, Repr

def Level.name : Level → String
  | .debug => "DEBUG"
  | .info => "INFO"
  | .warn => "WARN"

/-- The order of levels, the least important first. -/
def Level.rank : Level → Nat
  | .debug => 0
  | .info => 1
  | .warn => 2

/-- Something worth noting that happened. -/
structure Event where
  level : Level
  message : String
deriving DecidableEq, Repr

def debug (message : String) : Event := ⟨.debug, message⟩

def info (message : String) : Event := ⟨.info, message⟩

def warn (message : String) : Event := ⟨.warn, message⟩

/-- Whether an event is at least as important as a level. -/
def Event.reaches (e : Event) (level : Level) : Bool := level.rank ≤ e.level.rank

/-- The event on one line. -/
def Event.text (e : Event) : String := e.level.name ++ " " ++ e.message

end Layering.Log
