import WebLogin.Proofs.Dictionary
import WebLogin.Proofs.Json.Reading

/-!
# Values that are read back

A value is read back from its text if its numbers are integers that are kept exactly, the members of
its objects are in order, and it is not too deep.

* `value?_ofValue`: the tree of a value in order stands for that value.
* `canonical_of_value?`, `depth_of_value?`: what a tree stands for is in order, however the tree is
  written, and no deeper than the tree.
* `parse?_render`: the value that the text of a value spells.
-/

namespace WebLogin

/-! ## Values and their trees -/

namespace Json

mutual

/-- The members of every object in a value are in the order of their keys. -/
def Canonical : Json → Prop
  | .array elements => ElementsCanonical elements
  | .object members => members.Pairwise (fun a b => a.1 < b.1) ∧ MembersCanonical members
  | _ => True

/-- The elements are canonical. -/
def ElementsCanonical : List Json → Prop
  | [] => True
  | v :: vs => Canonical v ∧ ElementsCanonical vs

/-- The values of the members are canonical. -/
def MembersCanonical : List (String × Json) → Prop
  | [] => True
  | (_, v) :: ms => Canonical v ∧ MembersCanonical ms

end

mutual

theorem value?_ofValue : ∀ {v : Json}, v.Canonical → (Tree.ofValue v).value? = some v
  | .null, _ => rfl
  | .bool b, _ => rfl
  | .number n, _ => rfl
  | .string s, _ => rfl
  | .array elements, hCanonical => by
    rw [Tree.ofValue, Tree.value?, elementValues?_ofElements hCanonical]
    rfl
  | .object members, hCanonical => by
    obtain ⟨hSorted, hMembers⟩ := hCanonical
    rw [Tree.ofValue, Tree.value?, memberValues?_ofMemberValues hMembers, Option.map_some, ofMembers,
      Dictionary.sortEntries_of_sorted hSorted]

theorem elementValues?_ofElements : ∀ {vs : List Json}, ElementsCanonical vs →
    Tree.elementValues? (Tree.ofElements vs) = some vs
  | [], _ => rfl
  | v :: vs, ⟨hFirst, hRest⟩ => by
    rw [Tree.ofElements, Tree.elementValues?, value?_ofValue hFirst, elementValues?_ofElements hRest]
    rfl

theorem memberValues?_ofMemberValues : ∀ {ms : List (String × Json)}, MembersCanonical ms →
    Tree.memberValues? (Tree.ofMemberValues ms) = some ms
  | [], _ => rfl
  | (k, v) :: ms, ⟨hFirst, hRest⟩ => by
    rw [Tree.ofMemberValues, Tree.memberValues?, value?_ofValue hFirst,
      memberValues?_ofMemberValues hRest]
    rfl

end

theorem membersCanonical_iff {ms : List (String × Json)} :
    MembersCanonical ms ↔ ∀ m ∈ ms, m.2.Canonical := by
  induction ms with
  | nil => simp [MembersCanonical]
  | cons m ms ih => simp [MembersCanonical, ih]

/-- The members of an object lie no deeper than the deepest of their values. -/
theorem membersDepth_le_iff {ms : List (String × Json)} {n : Nat} :
    Tree.membersDepth (Tree.ofMemberValues ms) ≤ n ↔ ∀ m ∈ ms, (Tree.ofValue m.2).depth ≤ n := by
  induction ms with
  | nil => simp [Tree.ofMemberValues, Tree.membersDepth]
  | cons m ms ih =>
    rw [List.forall_mem_cons, ← ih]
    exact Nat.max_le

theorem canonical_ofMembers {ms : List (String × Json)} (hMembers : MembersCanonical ms) :
    (ofMembers ms).Canonical :=
  ⟨Dictionary.sorted_sortEntries ms, membersCanonical_iff.mpr fun m hm =>
    membersCanonical_iff.mp hMembers m (Dictionary.mem_sortEntries hm)⟩

theorem depth_ofMembers {ms : List (String × Json)} {n : Nat}
    (hMembers : Tree.membersDepth (Tree.ofMemberValues ms) ≤ n) :
    (Tree.ofValue (ofMembers ms)).depth ≤ n + 1 := by
  have hSorted : Tree.membersDepth (Tree.ofMemberValues (Dictionary.sortEntries ms)) ≤ n :=
    membersDepth_le_iff.mpr fun m hm =>
      membersDepth_le_iff.mp hMembers m (Dictionary.mem_sortEntries hm)
  simpa [ofMembers, Tree.ofValue, Tree.depth] using hSorted

mutual

/-- What a tree stands for is in order, also where the members are written in another order or with a
key twice. -/
theorem canonical_of_value? : ∀ {t : Tree} {v : Json}, t.value? = some v → v.Canonical
  | .null, _, h => by cases h; trivial
  | .bool b, _, h => by cases h; trivial
  | .number n, _, h => by
    obtain ⟨m, -, rfl⟩ := Option.map_eq_some_iff.mp h
    trivial
  | .string s, _, h => by
    obtain ⟨text, -, rfl⟩ := Option.map_eq_some_iff.mp h
    trivial
  | .array elements, _, h => by
    obtain ⟨vs, hValues, rfl⟩ := Option.map_eq_some_iff.mp h
    exact canonical_of_elementValues? hValues
  | .object members, _, h => by
    obtain ⟨ms, hValues, rfl⟩ := Option.map_eq_some_iff.mp h
    exact canonical_ofMembers (canonical_of_memberValues? hValues)

theorem canonical_of_elementValues? : ∀ {ts : List Tree} {vs : List Json},
    Tree.elementValues? ts = some vs → ElementsCanonical vs
  | [], _, h => by cases h; trivial
  | t :: ts, _, h => by
    obtain ⟨v, hFirst, h⟩ := Option.bind_eq_some_iff.mp h
    obtain ⟨vs, hRest, h⟩ := Option.bind_eq_some_iff.mp h
    cases h
    exact ⟨canonical_of_value? hFirst, canonical_of_elementValues? hRest⟩

theorem canonical_of_memberValues? : ∀ {ts : List (Option String × Tree)}
    {ms : List (String × Json)}, Tree.memberValues? ts = some ms → MembersCanonical ms
  | [], _, h => by cases h; trivial
  | (key, t) :: ts, _, h => by
    obtain ⟨k, -, h⟩ := Option.bind_eq_some_iff.mp h
    obtain ⟨v, hFirst, h⟩ := Option.bind_eq_some_iff.mp h
    obtain ⟨ms, hRest, h⟩ := Option.bind_eq_some_iff.mp h
    cases h
    exact ⟨canonical_of_value? hFirst, canonical_of_memberValues? hRest⟩

end

mutual

theorem depth_of_value? : ∀ {t : Tree} {v : Json}, t.value? = some v →
    (Tree.ofValue v).depth ≤ t.depth
  | .null, _, h => by cases h; exact Nat.le_refl 0
  | .bool b, _, h => by cases h; exact Nat.le_refl 0
  | .number n, _, h => by
    obtain ⟨m, -, rfl⟩ := Option.map_eq_some_iff.mp h
    exact Nat.le_refl 0
  | .string s, _, h => by
    obtain ⟨text, -, rfl⟩ := Option.map_eq_some_iff.mp h
    exact Nat.le_refl 0
  | .array elements, _, h => by
    obtain ⟨vs, hValues, rfl⟩ := Option.map_eq_some_iff.mp h
    exact Nat.succ_le_succ (elementsDepth_of_elementValues? hValues)
  | .object members, _, h => by
    obtain ⟨ms, hValues, rfl⟩ := Option.map_eq_some_iff.mp h
    exact depth_ofMembers (membersDepth_of_memberValues? hValues)

theorem elementsDepth_of_elementValues? : ∀ {ts : List Tree} {vs : List Json},
    Tree.elementValues? ts = some vs → Tree.elementsDepth (Tree.ofElements vs) ≤ Tree.elementsDepth ts
  | [], _, h => by cases h; exact Nat.le_refl 0
  | t :: ts, _, h => by
    obtain ⟨v, hFirst, h⟩ := Option.bind_eq_some_iff.mp h
    obtain ⟨vs, hRest, h⟩ := Option.bind_eq_some_iff.mp h
    cases h
    have hFirst := depth_of_value? hFirst
    have hRest := elementsDepth_of_elementValues? hRest
    simp only [Tree.ofElements, Tree.elementsDepth]
    omega

theorem membersDepth_of_memberValues? : ∀ {ts : List (Option String × Tree)}
    {ms : List (String × Json)}, Tree.memberValues? ts = some ms →
      Tree.membersDepth (Tree.ofMemberValues ms) ≤ Tree.membersDepth ts
  | [], _, h => by cases h; exact Nat.le_refl 0
  | (key, t) :: ts, _, h => by
    obtain ⟨k, -, h⟩ := Option.bind_eq_some_iff.mp h
    obtain ⟨v, hFirst, h⟩ := Option.bind_eq_some_iff.mp h
    obtain ⟨ms, hRest, h⟩ := Option.bind_eq_some_iff.mp h
    cases h
    have hFirst := depth_of_value? hFirst
    have hRest := membersDepth_of_memberValues? hRest
    simp only [Tree.ofMemberValues, Tree.membersDepth]
    omega

end

/-- The values of members one by one. -/
theorem mapM_value? {ms : List (String × Json)} (hCanonical : MembersCanonical ms) :
    (ms.map fun m => (m.1, Tree.ofValue m.2)).mapM (fun m => m.2.value?.map (m.1, ·)) = some ms := by
  induction ms with
  | nil => rfl
  | cons m ms ih =>
    obtain ⟨hFirst, hRest⟩ := hCanonical
    rw [List.map_cons, List.mapM_cons, value?_ofValue hFirst, ih hRest]
    rfl

/-- What a value must be so that its text spells it. -/
structure Spelled (v : Json) : Prop where
  exact : v.Exact
  canonical : v.Canonical
  shallow : (Tree.ofValue v).depth ≤ greatestDepth

/-- A value with exact numbers and members in order is read back from its text unless it is too
deep. -/
theorem parse?_render_eq {v : Json} (hExact : v.Exact) (hCanonical : v.Canonical) :
    parse? v.render = if (Tree.ofValue v).depth ≤ greatestDepth then some v else none := by
  rw [parse?, tree?_render hExact, Option.bind_some, Tree.shallowValue?, value?_ofValue hCanonical]

theorem parse?_render {v : Json} (hv : v.Spelled) : parse? v.render = some v := by
  rw [parse?_render_eq hv.exact hv.canonical, if_pos hv.shallow]

end Json

end WebLogin
