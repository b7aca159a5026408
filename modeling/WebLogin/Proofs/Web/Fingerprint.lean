import Mathlib.Data.List.Basic
import WebLogin.Proofs.Text.Split
import WebLogin.Proofs.Web.Request

/-!
# What a fingerprint binds

A fingerprint is the digest of the values of three headers, each with a colon after it. A value may have
colons of its own, and then the same text comes from other values too: a colon that ends one value may as
well stand within the next.

* `Text.eq_of_ended_eq`, `Text.exists_ended_eq`: texts with a separator after each come apart in one way
  if none of them has a separator, and else in another way too.
* `Fingerprint.binds_headers_iff`: the values of a request are bound exactly if none has a colon.
* `Fingerprint.headers_confounded`: two clients with one fingerprint.
-/

namespace WebLogin

namespace Text

/-! ## Texts with a separator after each -/

/-- The texts in turn, each with a separator after it. -/
def ended (separator : Char) (pieces : List (List Char)) : List Char :=
  pieces.flatMap fun piece => piece ++ [separator]

variable {separator : Char}

theorem ended_cons (piece : List Char) (pieces : List (List Char)) :
    ended separator (piece :: pieces) = piece ++ separator :: ended separator pieces := by
  simp [ended]

theorem count_ended (pieces : List (List Char)) :
    (ended separator pieces).count separator = pieces.length + pieces.flatten.count separator := by
  induction pieces with
  | nil => rfl
  | cons piece pieces ih =>
    rw [ended_cons, List.count_append, List.count_cons_self, ih, List.flatten_cons,
      List.count_append, List.length_cons]
    omega

theorem count_flatten_eq_zero_iff {pieces : List (List Char)} :
    pieces.flatten.count separator = 0 ↔ ∀ piece ∈ pieces, separator ∉ piece := by
  rw [List.count_eq_zero, List.mem_flatten]
  exact ⟨fun h piece hPiece hIn => h ⟨piece, hPiece, hIn⟩, fun h ⟨piece, hPiece, hIn⟩ =>
    h piece hPiece hIn⟩

theorem splitAll_ended {pieces : List (List Char)} (hFree : ∀ piece ∈ pieces, separator ∉ piece) :
    splitAll separator (ended separator pieces) = pieces ++ [[]] := by
  induction pieces with
  | nil => rfl
  | cons piece pieces ih =>
    have hRest := ih fun other hOther => hFree other (List.mem_cons_of_mem _ hOther)
    rw [ended_cons, splitAll_append, splitAll_of_notMem (hFree piece List.mem_cons_self), hRest]
    rfl

theorem mem_ended {pieces : List (List Char)} {c : Char} :
    c ∈ ended separator pieces ↔
      (∃ piece ∈ pieces, c ∈ piece) ∨ c = separator ∧ pieces ≠ [] := by
  induction pieces with
  | nil => simp [ended]
  | cons piece pieces ih =>
    have hSome : piece :: pieces ≠ [] := List.cons_ne_nil piece pieces
    rw [ended_cons, List.mem_append, List.mem_cons, ih, List.exists_mem_cons_iff]
    grind

/-- Texts without separators are known by their number and by the whole. -/
theorem eq_of_ended_eq {pieces others : List (List Char)}
    (hFree : ∀ piece ∈ pieces, separator ∉ piece) (hLength : others.length = pieces.length)
    (hSame : ended separator others = ended separator pieces) : others = pieces := by
  -- the whole has no more separators than those after the texts, so that the others are free too
  have hCount := congrArg (List.count separator) hSame
  rw [count_ended, count_ended, count_flatten_eq_zero_iff.mpr hFree, hLength] at hCount
  have hOthers : ∀ piece ∈ others, separator ∉ piece :=
    count_flatten_eq_zero_iff.mp (Nat.add_left_cancel hCount)
  have hSplit := splitAll_ended hOthers
  rw [hSame, splitAll_ended hFree] at hSplit
  exact (List.append_cancel_right hSplit).symm

theorem exists_ended_eq_of_first {x : List Char} (hIn : separator ∈ x) (y : List Char)
    (rest : List (List Char)) :
    ∃ others, others.length = (x :: y :: rest).length ∧ others ≠ x :: y :: rest ∧
      ended separator others = ended separator (x :: y :: rest) := by
  obtain ⟨before, after, rfl⟩ := List.append_of_mem hIn
  refine ⟨before :: (after ++ separator :: y) :: rest, rfl, fun hEq => ?_, ?_⟩
  · have hLength := congrArg List.length (List.cons.inj hEq).1
    rw [List.length_append, List.length_cons] at hLength
    omega
  · simp only [ended_cons, List.append_assoc, List.cons_append]

theorem exists_ended_eq_of_second {y : List Char} (hIn : separator ∈ y) (x : List Char)
    (rest : List (List Char)) :
    ∃ others, others.length = (x :: y :: rest).length ∧ others ≠ x :: y :: rest ∧
      ended separator others = ended separator (x :: y :: rest) := by
  obtain ⟨before, after, rfl⟩ := List.append_of_mem hIn
  refine ⟨(x ++ separator :: before) :: after :: rest, rfl, fun hEq => ?_, ?_⟩
  · have hLength := congrArg List.length (List.cons.inj hEq).1
    rw [List.length_append, List.length_cons] at hLength
    omega
  · simp only [ended_cons, List.append_assoc, List.cons_append]

/-- If one of two or more texts has a separator, as many others make the same whole: the separator takes
the place of the one that ends the text, or of the one that ends the text before. -/
theorem exists_ended_eq {x y : List Char} {rest : List (List Char)}
    (hHas : ∃ piece ∈ x :: y :: rest, separator ∈ piece) :
    ∃ others, others.length = (x :: y :: rest).length ∧ others ≠ x :: y :: rest ∧
      ended separator others = ended separator (x :: y :: rest) := by
  induction rest generalizing x y with
  | nil =>
    obtain ⟨piece, hPiece, hIn⟩ := hHas
    simp only [List.mem_cons, List.not_mem_nil, or_false] at hPiece
    rcases hPiece with rfl | rfl
    · exact exists_ended_eq_of_first hIn y []
    · exact exists_ended_eq_of_second hIn x []
  | cons z rest ih =>
    obtain ⟨piece, hPiece, hIn⟩ := hHas
    rcases List.mem_cons.mp hPiece with rfl | hLater
    · exact exists_ended_eq_of_first hIn y (z :: rest)
    · obtain ⟨others, hLength, hOther, hSame⟩ := ih ⟨piece, hLater, hIn⟩
      refine ⟨x :: others, ?_, fun hEq => hOther (List.cons.inj hEq).2, ?_⟩
      · rw [List.length_cons, hLength]
        rfl
      · rw [ended_cons, ended_cons, hSame]

end Text

namespace Fingerprint

/-! ## The values that are covered -/

/-- The values of the covered headers: one that is missing or cannot be read counts as empty. -/
def readings (r : Request) : List String := coveredHeaders.map fun name => (r.header? name).getD ""

/-- The bytes that are digested where the address has no part in it. -/
def covered (r : Request) : List UInt8 := Utf8.bytes (coveredText false r)

theorem toList_coveredText (r : Request) :
    (coveredText false r).toList = Text.ended ':' ((readings r).map String.toList) := by
  simp [coveredText, readings, coveredHeaders, Text.ended, String.join_cons]

theorem covered_eq_iff {r r' : Request} :
    covered r' = covered r ↔
      Text.ended ':' ((readings r').map String.toList) =
        Text.ended ':' ((readings r).map String.toList) := by
  rw [← toList_coveredText, ← toList_coveredText]
  exact ⟨Utf8.encode_injective, fun h => congrArg Utf8.encode h⟩

/-- What is read of a header is readable, and so is the empty text. -/
theorem readable_of_mem_readings {r : Request} {text : String} (h : text ∈ readings r) :
    HeaderValue.Readable text := by
  obtain ⟨name, -, rfl⟩ := List.mem_map.mp h
  cases hRead : r.header? name with
  | none => exact fun c hc => absurd hc List.not_mem_nil
  | some text =>
    obtain ⟨value, -, hText⟩ := Option.bind_eq_some_iff.mp hRead
    exact (HeaderValue.readable_text? hText).1

/-- Three readable texts are those of some request. -/
theorem exists_readings {a b c : String} (h : ∀ text ∈ [a, b, c], HeaderValue.Readable text) :
    ∃ r, readings r = [a, b, c] := by
  have hValue (text : String) (hText : text ∈ [a, b, c]) :
      ∃ value : HeaderValue, value.text? = some text := by
    obtain ⟨value, hMade⟩ := HeaderValue.exists_ofString? (h text hText)
    exact ⟨value, HeaderValue.text?_ofString? (h text hText) hMade⟩
  obtain ⟨va, ha⟩ := hValue a (by simp)
  obtain ⟨vb, hb⟩ := hValue b (by simp)
  obtain ⟨vc, hc⟩ := hValue c (by simp)
  refine ⟨{ headers := coveredHeaders.zip [va, vb, vc] }, ?_⟩
  simp [readings, coveredHeaders, Request.header?, Headers.first?, ha, hb, hc]

/-- If a value has a colon, another request has other values and the same bytes. -/
theorem exists_covered_eq {r : Request} {text : String} (hText : text ∈ readings r)
    (hColon : ':' ∈ text.toList) : ∃ r', readings r' ≠ readings r ∧ covered r' = covered r := by
  obtain ⟨others, hLength, hOther, hSame⟩ : ∃ others : List (List Char), others.length = 3 ∧
      others ≠ (readings r).map String.toList ∧
        Text.ended ':' others = Text.ended ':' ((readings r).map String.toList) :=
    Text.exists_ended_eq ⟨text.toList, List.mem_map.mpr ⟨text, hText, rfl⟩, hColon⟩
  -- what the others are made of stands in the values of the request, or is a colon
  have hReadable : ∀ piece ∈ others, HeaderValue.Readable (String.ofList piece) := by
    intro piece hPiece c hc
    rw [String.toList_ofList] at hc
    have hIn : c ∈ Text.ended ':' others := Text.mem_ended.mpr (.inl ⟨piece, hPiece, hc⟩)
    rw [hSame] at hIn
    rcases Text.mem_ended.mp hIn with ⟨value, hValue, hc⟩ | ⟨rfl, -⟩
    · obtain ⟨text, hText, rfl⟩ := List.mem_map.mp hValue
      exact readable_of_mem_readings hText c hc
    · exact .inl ⟨by decide, by decide⟩
  obtain ⟨a, b, c, rfl⟩ := List.length_eq_three.mp hLength
  obtain ⟨r', hReadings⟩ :=
    exists_readings (List.forall_mem_map (l := [a, b, c]).mpr hReadable)
  have hPieces : (readings r').map String.toList = [a, b, c] := by
    rw [hReadings]
    simp only [List.map_cons, List.map_nil, String.toList_ofList]
  refine ⟨r', fun hEq => hOther ?_, covered_eq_iff.mpr ?_⟩
  · rw [← hPieces, hEq]
  · rw [hPieces, hSame]

/-- Requests whose values are free of colons have the same bytes only if they have the same values. -/
theorem readings_eq_of_covered_eq {r r' : Request} (hFree : ∀ text ∈ readings r, ':' ∉ text.toList)
    (h : covered r' = covered r) : readings r' = readings r := by
  have hPieces : (readings r').map String.toList = (readings r).map String.toList :=
    Text.eq_of_ended_eq (List.forall_mem_map.mpr hFree) rfl (covered_eq_iff.mp h)
  exact List.map_injective_iff.mpr (fun _ _ => String.toList_inj.mp) hPieces

/-- Equal fingerprints are those of equal digests. -/
theorem digest_eq_of_ofRequest_eq {r r' : Request} (h : ofRequest false r' = ofRequest false r) :
    Sha256.digest (covered r') = Sha256.digest (covered r) :=
  Hex.encode_injective (String.ofList_inj.mp h)

/-- Every request with other values has other bytes, so that its fingerprint is another one unless the
digests collide, exactly if the values of the request are free of colons. -/
theorem binds_headers_iff (r : Request) :
    (∀ r', readings r' ≠ readings r → covered r' ≠ covered r ∧
      (ofRequest false r' = ofRequest false r →
        Sha256.digest (covered r') = Sha256.digest (covered r))) ↔
      ∀ text ∈ readings r, ':' ∉ text.toList := by
  constructor
  · intro hBinds text hText hColon
    obtain ⟨r', hOther, hSame⟩ := exists_covered_eq hText hColon
    exact (hBinds r' hOther).1 hSame
  · intro hFree r' hOther
    exact ⟨fun hSame => hOther (readings_eq_of_covered_eq hFree hSame), digest_eq_of_ofRequest_eq⟩

/-- A colon in the one client's `User-Agent` stands in the other's `Accept-Language`: both have one
fingerprint, whatever the hash. -/
theorem headers_confounded :
    let client : Request := { headers := [
      (⟨"user-agent", by decide⟩, ⟨Utf8.bytes "Mozilla/5.0:en", by decide⟩),
      (⟨"accept-language", by decide⟩, ⟨Utf8.bytes "de", by decide⟩)] }
    let other : Request := { headers := [
      (⟨"user-agent", by decide⟩, ⟨Utf8.bytes "Mozilla/5.0", by decide⟩),
      (⟨"accept-language", by decide⟩, ⟨Utf8.bytes "en:de", by decide⟩)] }
    readings client = ["Mozilla/5.0:en", "de", ""] ∧ readings other = ["Mozilla/5.0", "en:de", ""] ∧
      covered other = covered client ∧ ofRequest false other = ofRequest false client := by
  intro client other
  have hClient : readings client = ["Mozilla/5.0:en", "de", ""] := by decide
  have hOther : readings other = ["Mozilla/5.0", "en:de", ""] := by decide
  have hSame : covered other = covered client := by
    rw [covered_eq_iff, hClient, hOther]
    decide
  exact ⟨hClient, hOther, hSame, congrArg (fun bytes => Hex.text (Sha256.digest bytes)) hSame⟩

end Fingerprint

end WebLogin
