/-!
# Cutting text

A text is cut at a separator once, from the front or from the back, or at every place where the
separator stands. `intercalate_splitAll` puts the pieces together again.
-/

namespace WebLogin.Text

/-- The texts before and after the first separator. -/
def cutFirst? (separator : Char) : List Char → Option (List Char × List Char)
  | [] => none
  | c :: rest =>
    if c = separator then some ([], rest)
    else (cutFirst? separator rest).map fun (before, after) => (c :: before, after)

/-- The texts before and after the last separator. -/
def cutLast? (separator : Char) (text : List Char) : Option (List Char × List Char) :=
  (cutFirst? separator text.reverse).map fun (after, before) => (before.reverse, after.reverse)

/-- The pieces between separators. There is one piece more than there are separators. -/
def splitAll (separator : Char) : List Char → List (List Char)
  | [] => [[]]
  | c :: rest =>
    if c = separator then [] :: splitAll separator rest
    else
      match splitAll separator rest with
      | [] => [[c]]
      | piece :: pieces => (c :: piece) :: pieces

/-- At most `count + 1` pieces; the last one keeps the separators that are left. -/
def splitAtMost (separator : Char) : (count : Nat) → List Char → List (List Char)
  | 0, text => [text]
  | count + 1, text =>
    match cutFirst? separator text with
    | none => [text]
    | some (before, after) => before :: splitAtMost separator count after

theorem splitAll_ne_nil (separator : Char) (text : List Char) : splitAll separator text ≠ [] := by
  cases text with
  | nil => simp [splitAll]
  | cons c rest =>
    simp only [splitAll]
    split
    · simp
    · split <;> simp

theorem intercalate_splitAll (separator : Char) (text : List Char) :
    List.intercalate [separator] (splitAll separator text) = text := by
  induction text with
  | nil => rfl
  | cons c rest ih =>
    simp only [splitAll]
    split
    · next h =>
      cases hs : splitAll separator rest with
      | nil => exact absurd hs (splitAll_ne_nil _ _)
      | cons piece pieces =>
        rw [hs] at ih
        simp [List.intercalate, List.intersperse, ← ih, h]
    · split
      · next hs => exact absurd hs (splitAll_ne_nil _ _)
      · next piece pieces hs =>
        rw [hs] at ih
        cases pieces with
        | nil => simpa [List.intercalate] using ih
        | cons q qs => simpa [List.intercalate, List.intersperse] using ih

end WebLogin.Text
