import WebLogin.Json.Tree

/-!
# Records in JSON

A record is an object with fields of given names, in any order, or an array of the fields in their
order. Members of other names are skipped unread, but a field must not be given twice. An array may
end early and not late; whether a field may be missing is for its reader to say.
-/

namespace WebLogin.Json.Tree

def text? : Tree → Option String
  | .string s => s
  | _ => none

def integer? : Tree → Option Int
  | .number (some (.integer n)) => some n
  | _ => none

/-- An integer of 64 bits with a sign. -/
def integer64? (t : Tree) : Option Int :=
  t.integer?.filter fun n => -0x8000000000000000 ≤ n ∧ n < 0x8000000000000000

/-- An integer of 32 bits without a sign. -/
def unsigned32? (t : Tree) : Option UInt32 :=
  t.integer?.bind fun n => if 0 ≤ n ∧ n < 0x100000000 then some (UInt32.ofNat n.toNat) else none

/-- The members with their keys, if every key can be read. -/
def keyed? (members : List (Option String × Tree)) : Option (List (String × Tree)) :=
  members.mapM fun (k, t) => k.map (·, t)

/-- The field of a name, which must not be given twice. -/
def field? (members : List (String × Tree)) (name : String) : Option (Option Tree) :=
  match members.filter (fun m => m.1 = name) with
  | [] => some none
  | [m] => some (some m.2)
  | _ => none

/-- The fields of a record in the order of the names. -/
def fields? (names : List String) : Tree → Option (List (Option Tree))
  | .object members => do
    let members ← keyed? members
    names.mapM (field? members)
  | .array elements =>
    if elements.length ≤ names.length then
      some (elements.map some ++ List.replicate (names.length - elements.length) none)
    else none
  | _ => none

end WebLogin.Json.Tree
