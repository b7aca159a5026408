import WebLogin.Authenticator.Basic
import WebLogin.Carrier.Error
import WebLogin.Dictionary

/-!
# The store in memory

Authenticators under their identifiers. To add one replaces a former one of its identifier; to
update one that is not stored fails; to remove one that is not stored does nothing.
-/

namespace WebLogin

/-- Authenticators under their identifiers. -/
structure Store (δ : Type) where
  records : Dictionary (Authenticator δ) := .empty

namespace Store

variable {δ : Type}

def find? (s : Store δ) (id : String) : Option (Authenticator δ) := s.records.find? id

def add (s : Store δ) (a : Authenticator δ) : Store δ := ⟨s.records.insert a.id a⟩

/-- Stores an authenticator in place of a former one. -/
def update (s : Store δ) (a : Authenticator δ) : Except StoreFault (Store δ) :=
  if s.records.contains a.id then .ok (s.add a) else .error (.notStored a.id)

def remove (s : Store δ) (id : String) : Store δ := ⟨s.records.erase id⟩

def size (s : Store δ) : Nat := s.records.entries.length

end Store

end WebLogin
