import WebLogin.Time.Instant

/-!
# Authenticators

The record of a login: whose it is, when it was last used and when it ends. Each carrier adds
details of its own. An authenticator is valid until its expiry and, with an idle timeout, until it
has been unused for longer than that; a touch moves the time of last use and nothing else.
-/

namespace WebLogin

/-- Who logged in: the provider that vouches for the identity, and its key for it. -/
structure Login where
  provider : String
  key : String
  deriving DecidableEq, Repr

/-- The two parts with a colon between them. -/
def Login.text (l : Login) : String := l.provider ++ ":" ++ l.key

/-- The record of a login, with details `δ` of its carrier. -/
structure Authenticator (δ : Type) where
  id : String
  login : Login
  lastUsed : Instant
  expires : Instant
  idle : Option Duration
  details : δ
  deriving DecidableEq, Repr

/-- What a touch makes of an authenticator. -/
inductive Touched (α : Type) where
  | changed (a : α)
  | unchanged (a : α)
  deriving DecidableEq, Repr

def Touched.value {α : Type} : Touched α → α
  | .changed a => a
  | .unchanged a => a

/-- Whether there is something to write back. -/
def Touched.isChanged {α : Type} : Touched α → Bool
  | .changed _ => true
  | .unchanged _ => false

namespace Authenticator

variable {δ : Type}

/-- Whether the time since the last use is within the idle timeout, if there is one. -/
def isFresh (a : Authenticator δ) (now : Instant) : Bool :=
  match a.idle with
  | none => true
  | some timeout => now.since a.lastUsed ≤ timeout.nanoseconds

/-- Whether the authenticator may still be used. -/
def isValid (a : Authenticator δ) (now : Instant) : Bool := now < a.expires && a.isFresh now

/-- The authenticator used at an instant. Without an idle timeout nothing changes. -/
def touch (a : Authenticator δ) (now : Instant) : Touched (Authenticator δ) :=
  match a.idle with
  | some _ => .changed { a with lastUsed := now }
  | none => .unchanged a

end Authenticator

end WebLogin
