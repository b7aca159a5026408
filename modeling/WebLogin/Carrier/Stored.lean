import WebLogin.Program

/-!
# Calls of a store

A call of the store with its fault as the cause of a failed step.
-/

namespace WebLogin.Stored

variable {δ : Type}

/-- A result of the store whose fault is a cause. -/
def cause {α : Type} : Except StoreFault α → Except Cause α := Except.mapError Cause.store

def add (a : Authenticator δ) : Program δ (Except Cause (Authenticator δ)) := do
  return cause (← Program.query (.add a))

def update (a : Authenticator δ) : Program δ (Except Cause Unit) := do
  return (cause (← Program.query (.update a))).map fun _ => ()

def remove (id : String) : Program δ (Except Cause Unit) := do
  return cause (← Program.query (.remove id))

/-- Makes a call of the store where there is one. -/
def when (stored : Bool) (call : Program δ (Except Cause Unit)) : Program δ (Except Cause Unit) :=
  if stored then call else return .ok ()

/-- Stores a new authenticator and leaves the stored record aside. -/
def keep (a : Authenticator δ) : Program δ (Except Cause Unit) := do
  return (← add a).map fun _ => ()

end WebLogin.Stored
