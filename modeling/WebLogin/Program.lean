import WebLogin.Authenticator.Basic
import WebLogin.Event

/-!
# Programs

A step of the lifecycle asks its surroundings for the time, for identifiers and random bytes, and
for what a store holds, and reports events. A program is the tree of these questions: each inner
node asks one and goes on with the answer. So one step can be run with a store in memory, with a
store that fails, or interleaved with other steps, question by question.
-/

namespace WebLogin

/-- A question to the surroundings, with records of details `δ` in the store. -/
inductive Query (δ : Type) where
  | now
  /-- A fresh identifier from one of the generators. -/
  | freshId (generator : Nat)
  | randomBytes (count : Nat)
  | emit (event : Event)
  | find (id : String)
  | add (record : Authenticator δ)
  | update (record : Authenticator δ)
  | remove (id : String)

/-- What a question is answered with. The store answers an addition or an update with the record as
it is stored. -/
abbrev Query.Answer {δ : Type} : Query δ → Type
  | now => Instant
  | freshId _ => Except GeneratorFault String
  | randomBytes count => Vector UInt8 count
  | emit _ => Unit
  | find _ => Except StoreFault (Option (Authenticator δ))
  | add _ => Except StoreFault (Authenticator δ)
  | update _ => Except StoreFault (Authenticator δ)
  | remove _ => Except StoreFault Unit

/-- A tree of questions with results at its leaves. -/
inductive Program (δ α : Type) where
  | done (result : α)
  | ask (query : Query δ) (resume : query.Answer → Program δ α)

namespace Program

variable {δ α β γ : Type}

/-- Goes on with the result. -/
def bind : Program δ α → (α → Program δ β) → Program δ β
  | done a, f => f a
  | ask q resume, f => ask q fun answer => (resume answer).bind f

instance : Monad (Program δ) where
  pure := done
  bind := bind

/-- Asks one question. -/
def query (q : Query δ) : Program δ q.Answer := ask q done

def emit (event : Event) : Program δ Unit := query (.emit event)

/-- Runs a program in surroundings that answer each question and may change by it. -/
def run {σ : Type} (answer : (q : Query δ) → σ → q.Answer × σ) : Program δ α → σ → α × σ
  | done a, s => (a, s)
  | ask q resume, s =>
    let (a, s) := answer q s
    (resume a).run answer s

/-! ## Lists -/

/-- The results for the elements of a list in turn, up to the first failure. -/
def collect {ε : Type} (f : α → Program δ (Except ε β)) : List α → Program δ (Except ε (List β))
  | [] => done (.ok [])
  | a :: rest => do
    match ← f a with
    | .error e => return .error e
    | .ok b => return (← collect f rest).map (b :: ·)

/-- The first element that passes a test. Later ones are not tested. -/
def first? (test : α → Program δ Bool) : List α → Program δ (Option α)
  | [] => done none
  | a :: rest => do if ← test a then return some a else first? test rest

/-! ## Laws -/

@[simp] theorem pure_eq (a : α) : (pure a : Program δ α) = done a := rfl

@[simp] theorem bind_eq (p : Program δ α) (f : α → Program δ β) : (p >>= f) = p.bind f := rfl

@[simp] theorem done_bind (a : α) (f : α → Program δ β) : (done a).bind f = f a := rfl

@[simp] theorem bind_done (p : Program δ α) : p.bind done = p := by
  induction p with
  | done a => rfl
  | ask q resume ih => simp [bind, ih]

theorem bind_assoc (p : Program δ α) (f : α → Program δ β) (g : β → Program δ γ) :
    (p.bind f).bind g = p.bind fun a => (f a).bind g := by
  induction p with
  | done a => rfl
  | ask q resume ih => simp [bind, ih]

@[simp] theorem run_done {σ : Type} (answer : (q : Query δ) → σ → q.Answer × σ) (a : α) (s : σ) :
    (done a).run answer s = (a, s) := rfl

theorem run_bind {σ : Type} (answer : (q : Query δ) → σ → q.Answer × σ) (p : Program δ α)
    (f : α → Program δ β) (s : σ) :
    (p.bind f).run answer s = (f (p.run answer s).1).run answer (p.run answer s).2 := by
  induction p generalizing s with
  | done a => rfl
  | ask q resume ih => simp [bind, run, ih]

end Program

end WebLogin
