import Mathlib.Data.List.Induction
import Mathlib.Data.List.Nodup
import WebLogin.Dictionary

/-!
# Dictionaries by their keys

A dictionary is what is found under its keys.

* `find?_eq_some_iff`, `contains_iff`: the entries and the keys of a dictionary.
* `ext_find?`, `isEmpty_iff`: two dictionaries in which the same is found are equal, and one in which
  nothing is found is empty.
* `sortEntries_of_sorted`, `ofList_entries`: entries in order stay as they are.
* `find?_ofList`, `find?_ofList_eq_some_iff`: what is found of any list of entries.
* `find?_foldl_insert`, `find?_foldl_erase`: what many changes in turn do to a key.
-/

namespace WebLogin.Dictionary

variable {α : Type}

/-! ## Entries and keys -/

theorem lookup?_eq_some_iff_of_nodup {l : List (String × α)} (hNodup : (l.map (·.1)).Nodup)
    {key : String} {value : α} : lookup? key l = some value ↔ (key, value) ∈ l := by
  induction l with
  | nil => simp [lookup?]
  | cons e rest ih =>
    obtain ⟨k, v⟩ := e
    obtain ⟨hNew, hRest⟩ := List.nodup_cons.mp hNodup
    by_cases hKey : key = k
    · subst hKey
      have hNot : (key, value) ∉ rest := fun hIn => hNew (List.mem_map.mpr ⟨_, hIn, rfl⟩)
      simp [lookup?, hNot, eq_comm]
    · simp [lookup?, hKey, ih hRest]

theorem lookup?_eq_none_iff {l : List (String × α)} {key : String} :
    lookup? key l = none ↔ key ∉ l.map (·.1) := by
  induction l with
  | nil => simp [lookup?]
  | cons e rest ih =>
    by_cases hKey : key = e.1
    · simp [lookup?, hKey]
    · simpa [lookup?, hKey] using ih

theorem nodup_of_sorted {l : List (String × α)} (hSorted : l.Pairwise fun a b => a.1 < b.1) :
    (l.map (·.1)).Nodup := by
  apply List.pairwise_map.mpr
  apply hSorted.imp
  intro a b hLess hSame
  exact String.lt_irrefl a.1 (hSame ▸ hLess)

theorem lookup?_eq_some_iff {l : List (String × α)} (hSorted : l.Pairwise fun a b => a.1 < b.1)
    {key : String} {value : α} : lookup? key l = some value ↔ (key, value) ∈ l :=
  lookup?_eq_some_iff_of_nodup (nodup_of_sorted hSorted)

theorem find?_eq_some_iff {d : Dictionary α} {key : String} {value : α} :
    d.find? key = some value ↔ (key, value) ∈ d.entries := lookup?_eq_some_iff d.sorted

theorem contains_iff {d : Dictionary α} {key : String} : d.contains key = true ↔ key ∈ d.keys := by
  rw [contains, Option.isSome_iff_exists, keys, List.mem_map]
  constructor
  · rintro ⟨value, hFound⟩
    exact ⟨(key, value), find?_eq_some_iff.mp hFound, rfl⟩
  · rintro ⟨⟨k, value⟩, hEntry, rfl⟩
    exact ⟨value, find?_eq_some_iff.mpr hEntry⟩

theorem contains_insert (d : Dictionary α) (key : String) (value : α) (k : String) :
    (d.insert key value).contains k = if k = key then true else d.contains k := by
  rw [contains, find?_insert, apply_ite Option.isSome]
  rfl

theorem contains_erase (d : Dictionary α) (key k : String) :
    (d.erase key).contains k = if k = key then false else d.contains k := by
  rw [contains, find?_erase, apply_ite Option.isSome]
  rfl

theorem nodup_keys (d : Dictionary α) : d.keys.Nodup := nodup_of_sorted d.sorted

/-- What is found under each key makes a dictionary. -/
theorem ext_find? {d d' : Dictionary α} (h : ∀ key, d.find? key = d'.find? key) : d = d' := by
  have hEntry : ∀ e, e ∈ d.entries ↔ e ∈ d'.entries := by
    rintro ⟨key, value⟩
    rw [← find?_eq_some_iff, h, find?_eq_some_iff]
  have hPerm : d.entries.Perm d'.entries :=
    (List.perm_ext_iff_of_nodup (List.Nodup.of_map _ d.nodup_keys)
      (List.Nodup.of_map _ d'.nodup_keys)).mpr hEntry
  have hEntries : d.entries = d'.entries := by
    refine hPerm.eq_of_pairwise (fun a b _ _ hLess hGreater => ?_) d.sorted d'.sorted
    exact absurd (String.lt_trans hLess hGreater) (String.lt_irrefl a.1)
  cases d
  cases d'
  congr

theorem isEmpty_iff {d : Dictionary α} : d.isEmpty = true ↔ ∀ key, d.find? key = none := by
  rw [isEmpty, List.isEmpty_iff]
  constructor
  · intro hEntries key
    rw [find?, hEntries, lookup?]
  · intro hNone
    refine List.eq_nil_iff_forall_not_mem.mpr fun e hEntry => ?_
    have hFound : d.find? e.1 = some e.2 := find?_eq_some_iff.mpr hEntry
    rw [hNone] at hFound
    cases hFound

theorem insert_insert (d : Dictionary α) (key : String) (value other : α) :
    (d.insert key other).insert key value = d.insert key value := by
  apply ext_find?
  intro k
  simp only [find?_insert]
  split <;> rfl

theorem erase_erase (d : Dictionary α) (key : String) : (d.erase key).erase key = d.erase key := by
  apply ext_find?
  intro k
  simp only [find?_erase]
  split <;> rfl

/-! ## Entries in order -/

theorem insertEntry_of_above {key : String} {value : α} {l : List (String × α)}
    (hAbove : ∀ e ∈ l, e.1 < key) : insertEntry key value l = l ++ [(key, value)] := by
  induction l with
  | nil => rfl
  | cons a rest ih =>
    obtain ⟨k, v⟩ := a
    have hLess : k < key := hAbove (k, v) List.mem_cons_self
    have hNe : key ≠ k := fun h => String.lt_irrefl k (h ▸ hLess)
    have hNot : ¬key < k := fun h => String.lt_irrefl k (String.lt_trans hLess h)
    rw [insertEntry, if_neg hNe, if_neg hNot, ih fun e he => hAbove e (List.mem_cons_of_mem _ he)]
    rfl

theorem sortEntries_of_sorted {l : List (String × α)}
    (hSorted : l.Pairwise fun a b => a.1 < b.1) : sortEntries l = l := by
  -- the fold has sorted a part of the list, and every key that is left is above it
  have hFold : ∀ (rest done : List (String × α)), (done ++ rest).Pairwise (fun a b => a.1 < b.1) →
      rest.foldl (fun acc e => insertEntry e.1 e.2 acc) done = done ++ rest := by
    intro rest
    induction rest with
    | nil => exact fun done _ => (List.append_nil done).symm
    | cons e rest ih =>
      intro done hAll
      have hAbove : ∀ d ∈ done, d.1 < e.1 := fun d hd =>
        (List.pairwise_append.mp hAll).2.2 d hd e List.mem_cons_self
      have hSplit : done ++ e :: rest = (done ++ [e]) ++ rest := by simp
      rw [List.foldl_cons, insertEntry_of_above hAbove]
      rw [hSplit] at hAll ⊢
      exact ih (done ++ [e]) hAll
  exact hFold l [] hSorted

/-- A dictionary is made again of its own entries. -/
theorem ofList_entries (d : Dictionary α) : ofList d.entries = d := by
  obtain ⟨entries, hSorted⟩ := d
  simp only [ofList, sortEntries_of_sorted hSorted]

theorem mem_sortEntries {l : List (String × α)} {e : String × α} (hMem : e ∈ sortEntries l) :
    e ∈ l := by
  -- what the fold has sorted is from the list
  have hFold : ∀ (rest done : List (String × α)),
      e ∈ rest.foldl (fun acc e => insertEntry e.1 e.2 acc) done → e ∈ done ∨ e ∈ rest := by
    intro rest
    induction rest with
    | nil => exact fun done hDone => .inl hDone
    | cons d rest ih =>
      intro done hSorted
      rcases ih _ hSorted with hInserted | hRest
      · rcases mem_insertEntry hInserted with rfl | hDone
        · exact .inr List.mem_cons_self
        · exact .inl hDone
      · exact .inr (List.mem_cons_of_mem d hRest)
  rcases hFold l [] hMem with hNone | hIn
  · cases hNone
  · exact hIn

/-- Of several entries with one key the last is found. -/
theorem find?_ofList (l : List (String × α)) (key : String) :
    (ofList l).find? key = lookup? key l.reverse := by
  induction l using List.reverseRecOn with
  | nil => rfl
  | append_singleton l e ih =>
    have hConcat : ofList (l ++ [e]) = (ofList l).insert e.1 e.2 := by
      simp only [ofList, insert, sortEntries, List.foldl_concat]
    rw [hConcat, find?_insert, ih, List.reverse_concat, lookup?]

theorem find?_ofList_eq_some_iff {l : List (String × α)} (hNodup : (l.map (·.1)).Nodup)
    {key : String} {value : α} : (ofList l).find? key = some value ↔ (key, value) ∈ l := by
  have hReverse : (l.reverse.map (·.1)).Nodup := by
    rw [List.map_reverse]
    exact List.nodup_reverse.mpr hNodup
  rw [find?_ofList, lookup?_eq_some_iff_of_nodup hReverse, List.mem_reverse]

/-! ## Many changes in turn -/

theorem find?_foldl_insert {l : List (String × α)} (hNodup : (l.map (·.1)).Nodup)
    (d : Dictionary α) (key : String) :
    (l.foldl (fun d e => d.insert e.1 e.2) d).find? key = (lookup? key l).or (d.find? key) := by
  induction l generalizing d with
  | nil => rfl
  | cons e rest ih =>
    obtain ⟨hNew, hRest⟩ := List.nodup_cons.mp hNodup
    rw [List.foldl_cons, ih hRest, find?_insert, lookup?]
    by_cases hKey : key = e.1
    · -- no later entry has this key
      have hNone : lookup? key rest = none := lookup?_eq_none_iff.mpr (hKey ▸ hNew)
      rw [hNone, if_pos hKey, if_pos hKey]
      rfl
    · rw [if_neg hKey, if_neg hKey]

theorem find?_foldl_erase (keys : List String) (d : Dictionary α) (key : String) :
    (keys.foldl Dictionary.erase d).find? key = if key ∈ keys then none else d.find? key := by
  induction keys generalizing d with
  | nil => rfl
  | cons k rest ih =>
    rw [List.foldl_cons, ih, find?_erase]
    by_cases hKey : key = k
    · simp [hKey]
    · simp [hKey]

end WebLogin.Dictionary
