import WebLogin.Json.Form
import WebLogin.Proofs.Json.Reading

/-!
# Forms that read what they write

The fields of a record are found under their names, and what a form writes for a value it reads back.

* `fields?_ofValue`: the fields of an object with distinct keys.
* `eq_of_field?`: a field that is read is the only member of its name.
* `Form.Reads`: what a form writes for `a`, it reads back as `b`. The two differ where the form
  rounds. `Reads.parse?_render` goes from the tree to the text.
* `optional_ofOption`: a field that is written as null where there is no value.
-/

namespace WebLogin.Json

/-! ## Fields -/

theorem keyed?_ofMemberValues (ms : List (String × Json)) :
    Tree.keyed? (Tree.ofMemberValues ms) = some (ms.map fun m => (m.1, Tree.ofValue m.2)) := by
  induction ms with
  | nil => rfl
  | cons m ms ih =>
    unfold Tree.keyed? at ih ⊢
    rw [Tree.ofMemberValues, List.mapM_cons, ih]
    rfl

theorem filter_of_notMem {members : List (String × Tree)} {name : String}
    (hNot : name ∉ members.map (·.1)) : members.filter (fun m => m.1 = name) = [] := by
  apply List.filter_eq_nil_iff.mpr
  intro m hm hName
  exact hNot (List.mem_map.mpr ⟨m, hm, of_decide_eq_true hName⟩)

theorem field?_of_notMem {members : List (String × Tree)} {name : String}
    (hNot : name ∉ members.map (·.1)) : Tree.field? members name = some none := by
  rw [Tree.field?, filter_of_notMem hNot]

theorem field?_of_mem {members : List (String × Tree)} (hDistinct : (members.map (·.1)).Nodup)
    {name : String} {t : Tree} (hMem : (name, t) ∈ members) :
    Tree.field? members name = some (some t) := by
  have hFilter : members.filter (fun m => m.1 = name) = [(name, t)] := by
    induction members with
    | nil => cases hMem
    | cons m members ih =>
      obtain ⟨hFirst, hRest⟩ := List.nodup_cons.mp hDistinct
      rcases List.mem_cons.mp hMem with rfl | hMem
      · rw [List.filter_cons_of_pos (by simp), filter_of_notMem hFirst]
      · have hOther : m.1 ≠ name := by
          rintro rfl
          exact hFirst (List.mem_map.mpr ⟨_, hMem, rfl⟩)
        rw [List.filter_cons_of_neg (by simpa using hOther), ih hRest hMem]
  rw [Tree.field?, hFilter]

/-- In an object with distinct keys no field is given twice. -/
theorem exists_field? {members : List (String × Tree)} (hDistinct : (members.map (·.1)).Nodup)
    (name : String) : ∃ field, Tree.field? members name = some field := by
  by_cases hMem : name ∈ members.map (·.1)
  · obtain ⟨⟨_, t⟩, hm, rfl⟩ := List.mem_map.mp hMem
    exact ⟨some t, field?_of_mem hDistinct hm⟩
  · exact ⟨none, field?_of_notMem hMem⟩

/-- Some of the fields of an object with distinct keys, under their keys. -/
theorem mapM_field? {members part : List (String × Tree)}
    (hDistinct : (members.map (·.1)).Nodup) (hSome : ∀ m ∈ part, m ∈ members) :
    (part.map (·.1)).mapM (Tree.field? members) = some (part.map fun m => some m.2) := by
  induction part with
  | nil => rfl
  | cons m rest ih =>
    have hFirst : Tree.field? members m.1 = some (some m.2) :=
      field?_of_mem hDistinct (hSome m List.mem_cons_self)
    have hRest := ih fun n hn => hSome n (List.mem_cons_of_mem _ hn)
    rw [List.map_cons, List.mapM_cons, hFirst, hRest]
    rfl

/-- A field that is read is the only member of its name. -/
theorem eq_of_field? {members : List (String × Tree)} {name : String} {t : Tree}
    {field : Option Tree} (hField : Tree.field? members name = some field)
    (hMem : (name, t) ∈ members) : field = some t := by
  have hIn : (name, t) ∈ members.filter (fun m => m.1 = name) :=
    List.mem_filter.mpr ⟨hMem, decide_eq_true rfl⟩
  unfold Tree.field? at hField
  split at hField
  · next hNone =>
    rw [hNone] at hIn
    cases hIn
  · next m hOne =>
    rw [hOne] at hIn
    obtain rfl := List.mem_singleton.mp hIn
    exact (Option.some.inj hField).symm
  · cases hField

/-- Each result of a list of readings is that of an element. -/
theorem exists_of_mapM_eq_some {α β : Type} {f : α → Option β} {l : List α} {results : List β}
    (h : l.mapM f = some results) {b : β} (hMem : b ∈ results) : ∃ a ∈ l, f a = some b := by
  induction l generalizing results with
  | nil =>
    obtain rfl : [] = results := Option.some.inj h
    cases hMem
  | cons a rest ih =>
    rw [List.mapM_cons] at h
    obtain ⟨first, hFirst, h⟩ := Option.bind_eq_some_iff.mp h
    obtain ⟨others, hOthers, h⟩ := Option.bind_eq_some_iff.mp h
    obtain rfl : first :: others = results := Option.some.inj h
    rcases List.mem_cons.mp hMem with rfl | hMem
    · exact ⟨a, List.mem_cons_self, hFirst⟩
    · obtain ⟨other, hOther, hResult⟩ := ih hOthers hMem
      exact ⟨other, List.mem_cons_of_mem a hOther, hResult⟩

theorem fields?_ofValue {ms : List (String × Json)} {names : List String}
    (hNames : ms.map (·.1) = names) (hDistinct : names.Nodup) :
    (Tree.ofValue (.object ms)).fields? names = some (ms.map fun m => some (.ofValue m.2)) := by
  have hKeys : (ms.map fun m => (m.1, Tree.ofValue m.2)).map (·.1) = names := by
    rw [List.map_map]
    exact hNames
  have hLook := mapM_field? (hKeys ▸ hDistinct) fun m hm => hm
  rw [hKeys, List.map_map] at hLook
  simp only [Tree.ofValue, Tree.fields?, keyed?_ofMemberValues]
  exact hLook

/-! ## Forms -/

namespace Form

/-- What a form writes for `a`, it reads back as `b`. -/
structure Reads {α : Type} (f : Form α) (a b : α) : Prop where
  exact : (f.write a).Exact
  read : f.read? (.ofValue (f.write a)) = some b

variable {α : Type} {f : Form α} {a b : α}

theorem Reads.parse?_render (h : f.Reads a b) : f.parse? (f.render a) = some b := by
  rw [parse?, render, tree?_render h.exact]
  exact h.read

theorem Reads.required (h : f.Reads a b) :
    f.required (some (.ofValue (f.write a))) = some b := h.read

/-- A field that may be null. What is written for a value must not be null itself. -/
theorem optional_ofOption {read : α → α} (hReads : ∀ a, f.Reads a (read a))
    (hNull : ∀ a, f.write a ≠ .null) (o : Option α) :
    f.optional (some (.ofValue (.ofOption f.write o))) = some (o.map read) := by
  cases o with
  | none => rfl
  | some a =>
    have hTree : Tree.ofValue (f.write a) ≠ .null := by
      intro h
      have hWrite := hNull a
      cases hValue : f.write a <;> simp_all [Tree.ofValue]
    change f.optional (some (Tree.ofValue (f.write a))) = some (some (read a))
    unfold optional
    split
    · next h => cases h
    · next h => exact absurd (Option.some.inj h) hTree
    · next h =>
      obtain rfl := Option.some.inj h
      rw [(hReads a).read]
      rfl

theorem exact_ofOption {write : α → Json} (h : ∀ a, (write a).Exact) (o : Option α) :
    (Json.ofOption write o).Exact := by
  cases o with
  | none => trivial
  | some a => exact h a

/-! ## Scalars -/

theorem reads_text (s : String) : text.Reads s s := ⟨trivial, rfl⟩

theorem exact_ofInt {n : Int} (hLower : -0x8000000000000000 ≤ n) (hUpper : n < 0x8000000000000000) :
    (Json.ofInt n).Exact := by
  change leastInteger ≤ n ∧ n ≤ greatestInteger
  simp only [leastInteger, greatestInteger]
  omega

theorem integer64?_ofInt {n : Int} (hLower : -0x8000000000000000 ≤ n)
    (hUpper : n < 0x8000000000000000) : (Tree.ofValue (.ofInt n)).integer64? = some n := by
  change (some n).filter _ = some n
  simp [Option.filter, hLower, hUpper]

theorem optional_text (o : Option String) :
    text.optional (some (.ofValue (.ofOption .string o))) = some o := by
  have hOption := optional_ofOption (fun s => reads_text s) (fun _ h => by cases h) o
  rwa [Option.map_id'] at hOption

end Form

end WebLogin.Json
