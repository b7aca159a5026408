import WebLogin.Bytes.Hex
import WebLogin.Program
import WebLogin.Store

/-!
# Scripted surroundings

Surroundings whose every answer is settled in advance: the clock stands where it is set, random
bytes count up, identifiers come from a script, and chosen calls of the store fail. The calls of the
store and the events are written down in order. What a failing call would have changed stays as it
was.
-/

namespace WebLogin

/-- The calls of a store. -/
inductive StoreCall where
  | find
  | add
  | update
  | remove
  deriving DecidableEq, Repr

def StoreCall.text : StoreCall → String
  | .find => "find"
  | .add => "add"
  | .update => "update"
  | .remove => "remove"

/-- A source of identifiers. -/
inductive Generator where
  /-- `id-` and a number that counts up. -/
  | numbered (next : Nat)
  /-- The given identifiers in turn, and then a fault. -/
  | listed (ids : List String)
  /-- Random bytes in hexadecimal, or a fault if their source is disabled. -/
  | random (size : Nat) (disabled : Bool)
  deriving Repr

/-- The number of bytes of an identifier if nothing else is asked for. -/
def Generator.defaultSize : Nat := 32

/-- Surroundings with a script. -/
structure Surroundings (δ : Type) where
  clock : Instant := .epoch
  /-- The next random byte. -/
  nextByte : UInt8 := 0
  generators : List Generator := []
  store : Store δ := {}
  /-- The calls of the store that fail. -/
  failing : List StoreCall := []
  /-- The calls of the store so far. -/
  calls : List (StoreCall × String) := []
  /-- The events so far. -/
  events : List Event := []

namespace Surroundings

variable {δ : Type}

/-- The next random bytes; each is one more than the one before, modulo 256. -/
def takeBytes (s : Surroundings δ) (count : Nat) : Vector UInt8 count × Surroundings δ :=
  (Vector.ofFn fun i => s.nextByte + UInt8.ofNat i.val,
   { s with nextByte := s.nextByte + UInt8.ofNat count })

/-- Puts a generator back after use. -/
def setGenerator (s : Surroundings δ) (index : Nat) (g : Generator) : Surroundings δ :=
  { s with generators := s.generators.set index g }

/-- The next identifier of a generator. -/
def takeId (s : Surroundings δ) (index : Nat) : Except GeneratorFault String × Surroundings δ :=
  match s.generators[index]? with
  | none => (.error .exhausted, s)
  | some (.numbered next) =>
    (.ok ("id-" ++ toString next), s.setGenerator index (.numbered (next + 1)))
  | some (.listed []) => (.error .exhausted, s)
  | some (.listed (id :: rest)) => (.ok id, s.setGenerator index (.listed rest))
  | some (.random _ true) => (.error .disabled, s)
  | some (.random size false) =>
    let (bytes, s) := s.takeBytes size
    (.ok (Hex.text bytes.toList), s)

/-- Writes a call down and makes it, unless it has to fail. -/
def call {α : Type} (s : Surroundings δ) (verb : StoreCall) (id : String)
    (act : Store δ → Except StoreFault (α × Store δ)) : Except StoreFault α × Surroundings δ :=
  let s := { s with calls := s.calls ++ [(verb, id)] }
  if s.failing.contains verb then (.error .unreachable, s)
  else
    match act s.store with
    | .ok (a, store) => (.ok a, { s with store })
    | .error fault => (.error fault, s)

def answer : (q : Query δ) → Surroundings δ → q.Answer × Surroundings δ
  | .now, s => (s.clock, s)
  | .freshId generator, s => s.takeId generator
  | .randomBytes count, s => s.takeBytes count
  | .emit event, s => ((), { s with events := s.events ++ [event] })
  | .find id, s => s.call .find id fun store => .ok (store.find? id, store)
  | .add record, s => s.call .add record.id fun store => .ok (record, store.add record)
  | .update record, s => s.call .update record.id fun store => do
      return (record, ← store.update record)
  | .remove id, s => s.call .remove id fun store => .ok ((), store.remove id)

/-- Runs a program. -/
def run {α : Type} (s : Surroundings δ) (p : Program δ α) : α × Surroundings δ := p.run answer s

end Surroundings

end WebLogin
