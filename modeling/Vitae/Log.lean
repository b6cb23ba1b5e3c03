/-!
# Messages

What a run has to tell, in order, each message with its level.
-/

namespace Vitae

/-- How much a message matters. -/
inductive Level where
  /-- Details of the work. -/
  | debug
  /-- What is being done. -/
  | info
  /-- The work is done. -/
  | success
  /-- Something was passed over. -/
  | warning
  /-- The work has failed. -/
  | error
  deriving DecidableEq, Repr

/-- The name of a level. -/
def Level.name : Level → String
  | .debug => "DEBUG"
  | .info => "INFO"
  | .success => "SUCCESS"
  | .warning => "WARNING"
  | .error => "ERROR"

/-- Whether a level is above that of details. -/
def Level.isShown : Level → Bool
  | .debug => false
  | _ => true

/-- A message with its level. -/
structure Message where
  /-- How much it matters. -/
  level : Level
  /-- What it tells. -/
  text : String
  deriving DecidableEq, Repr

/-- Messages in the order in which they came up. -/
abbrev Log := List Message

/-- A message about templates and the documents made from them. -/
def Message.template (level : Level) (text : String) : Message := ⟨level, "[template] " ++ text⟩

/-- The end of an operation on a state: its answer, the state that it leaves, and its messages. -/
structure Outcome (σ α : Type) where
  /-- The answer. -/
  answer : α
  /-- The state afterwards. -/
  state : σ
  /-- The messages. -/
  log : Log := []

end Vitae
