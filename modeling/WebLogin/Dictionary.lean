/-!
# Dictionaries

Values under distinct text keys, kept in the order of the keys, so that two dictionaries with the
same entries are equal. `find?_insert` and `find?_erase` say what a change does to each key.
-/

namespace WebLogin

/-- Entries under distinct keys in ascending order. -/
structure Dictionary (α : Type) where
  /-- The keys with their values. -/
  entries : List (String × α)
  /-- Each key is below all keys after it. -/
  sorted : entries.Pairwise (fun a b => a.1 < b.1)
  deriving DecidableEq

namespace Dictionary

variable {α : Type}

instance [Repr α] : Repr (Dictionary α) := ⟨fun d n => reprPrec d.entries n⟩

/-! ## Lists of entries -/

/-- Puts an entry where its key belongs, in place of an entry of the same key. -/
def insertEntry (key : String) (value : α) : List (String × α) → List (String × α)
  | [] => [(key, value)]
  | (k, v) :: rest =>
    if key = k then (key, value) :: rest
    else if key < k then (key, value) :: (k, v) :: rest
    else (k, v) :: insertEntry key value rest

/-- The value of the first entry with a key. -/
def lookup? (key : String) : List (String × α) → Option α
  | [] => none
  | (k, v) :: rest => if key = k then some v else lookup? key rest

/-- The entries of a list in order of their keys; of several with one key the last counts. -/
def sortEntries (l : List (String × α)) : List (String × α) :=
  l.foldl (fun acc e => insertEntry e.1 e.2 acc) []

theorem mem_insertEntry {key : String} {value : α} {l : List (String × α)} {e : String × α}
    (h : e ∈ insertEntry key value l) : e = (key, value) ∨ e ∈ l := by
  induction l with
  | nil => simpa [insertEntry] using h
  | cons a rest ih =>
    obtain ⟨k, v⟩ := a
    simp only [insertEntry] at h
    split at h
    · rcases List.mem_cons.mp h with h | h
      · exact .inl h
      · exact .inr (List.mem_cons_of_mem _ h)
    · split at h
      · rcases List.mem_cons.mp h with h | h
        · exact .inl h
        · exact .inr h
      · rcases List.mem_cons.mp h with h | h
        · exact .inr (h ▸ List.mem_cons_self)
        · exact (ih h).imp id (List.mem_cons_of_mem _)

theorem sorted_insertEntry (key : String) (value : α) {l : List (String × α)}
    (h : l.Pairwise (fun a b => a.1 < b.1)) :
    (insertEntry key value l).Pairwise (fun a b => a.1 < b.1) := by
  induction l with
  | nil => simp [insertEntry]
  | cons a rest ih =>
    obtain ⟨k, v⟩ := a
    obtain ⟨above, tail⟩ := List.pairwise_cons.mp h
    simp only [insertEntry]
    split
    · next eq => exact List.pairwise_cons.mpr ⟨fun e he => eq ▸ above e he, tail⟩
    · split
      · next lt =>
        refine List.pairwise_cons.mpr ⟨fun e he => ?_, h⟩
        rcases List.mem_cons.mp he with rfl | he
        · exact lt
        · exact String.lt_trans lt (above e he)
      · next ne nlt =>
        refine List.pairwise_cons.mpr ⟨fun e he => ?_, ih tail⟩
        rcases mem_insertEntry he with rfl | he
        · have le : k ≤ key := String.not_lt.mp nlt
          rcases Decidable.em (k < key) with lt | nlt'
          · exact lt
          · exact absurd (String.le_antisymm (String.not_lt.mp nlt') le) ne
        · exact above e he

theorem sorted_sortEntries (l : List (String × α)) :
    (sortEntries l).Pairwise (fun a b => a.1 < b.1) := by
  have step : ∀ (l acc : List (String × α)), acc.Pairwise (fun a b => a.1 < b.1) →
      (l.foldl (fun acc e => insertEntry e.1 e.2 acc) acc).Pairwise (fun a b => a.1 < b.1) := by
    intro l
    induction l with
    | nil => exact fun _ h => h
    | cons e l ih => exact fun acc h => ih _ (sorted_insertEntry e.1 e.2 h)
  exact step l [] List.Pairwise.nil

/-! ## Operations -/

def empty : Dictionary α := ⟨[], List.Pairwise.nil⟩

instance : Inhabited (Dictionary α) := ⟨empty⟩

/-- The dictionary of a list of entries, of which the last of a key counts. -/
def ofList (l : List (String × α)) : Dictionary α := ⟨sortEntries l, sorted_sortEntries l⟩

def find? (d : Dictionary α) (key : String) : Option α := lookup? key d.entries

/-- Whether a key has a value. -/
def contains (d : Dictionary α) (key : String) : Bool := (d.find? key).isSome

/-- Puts a value under a key, in place of the former one. -/
def insert (d : Dictionary α) (key : String) (value : α) : Dictionary α :=
  ⟨insertEntry key value d.entries, sorted_insertEntry key value d.sorted⟩

/-- Takes a key and its value out. -/
def erase (d : Dictionary α) (key : String) : Dictionary α :=
  ⟨d.entries.filter (fun e => e.1 != key), d.sorted.filter _⟩

def isEmpty (d : Dictionary α) : Bool := d.entries.isEmpty

/-- The keys in ascending order. -/
def keys (d : Dictionary α) : List String := d.entries.map (·.1)

/-! ## What a change does to each key -/

theorem lookup?_insertEntry (key : String) (value : α) (k : String) (l : List (String × α)) :
    lookup? k (insertEntry key value l) = if k = key then some value else lookup? k l := by
  induction l with
  | nil => rfl
  | cons a rest ih =>
    obtain ⟨k', v⟩ := a
    simp only [insertEntry]
    split
    · next eq => subst eq; by_cases h : k = key <;> simp [lookup?, h]
    · next ne =>
      split
      · rfl
      · simp only [lookup?, ih]
        by_cases h : k = k'
        · subst h; simp [Ne.symm ne]
        · simp [h]

theorem lookup?_filter_ne (key k : String) (l : List (String × α)) :
    lookup? k (l.filter (fun e => e.1 != key)) =
      if k = key then none else lookup? k l := by
  induction l with
  | nil => simp [lookup?]
  | cons a rest ih =>
    obtain ⟨k', v⟩ := a
    by_cases h : k' = key
    · subst h
      rw [List.filter_cons_of_neg (by simp), ih]
      by_cases hk : k = k' <;> simp [lookup?, hk]
    · rw [List.filter_cons_of_pos (by simpa using h)]
      simp only [lookup?, ih]
      by_cases hk : k = k'
      · subst hk; simp [h]
      · simp [hk]

@[simp] theorem find?_empty (k : String) : (empty : Dictionary α).find? k = none := rfl

theorem find?_insert (d : Dictionary α) (key : String) (value : α) (k : String) :
    (d.insert key value).find? k = if k = key then some value else d.find? k :=
  lookup?_insertEntry key value k d.entries

theorem find?_erase (d : Dictionary α) (key k : String) :
    (d.erase key).find? k = if k = key then none else d.find? k :=
  lookup?_filter_ne key k d.entries

@[simp] theorem find?_insert_self (d : Dictionary α) (key : String) (value : α) :
    (d.insert key value).find? key = some value := (d.find?_insert key value key).trans (if_pos rfl)

@[simp] theorem find?_erase_self (d : Dictionary α) (key : String) :
    (d.erase key).find? key = none := (d.find?_erase key key).trans (if_pos rfl)

end Dictionary

end WebLogin
