import WebLogin.Hash.Hmac
import WebLogin.Proofs.Bytes.Utf8

/-!
# Altered texts

One byte of a text is replaced by another, and what comes out is a text again. If a text is made of a
body and of a frame of fixed length that is computed from the body, then the two texts cannot both be
framed in this way unless the bodies differ under one and the same frame. So it does not matter what
the new byte looks like or which byte it takes the place of.

* `Altered.of_frame_body`, `Altered.of_body_frame`: the frame before or behind the body.
* `altered_ofList`: to put one character of ASCII in the place of another is an alteration.
-/

namespace WebLogin

/-- Two inputs of a tag that differ and have the same tag. -/
structure Hmac.Collision (key input other : List UInt8) : Prop where
  differ : input ≠ other
  same : Hmac.tag key input = Hmac.tag key other

namespace Utf8

/-- The second text is the first with another byte at position `i`. -/
structure Altered (i : Nat) (text altered : String) : Prop where
  inside : i < (bytes text).length
  replaced : ∃ b, b ≠ (bytes text)[i] ∧ bytes altered = (bytes text).set i b

namespace Altered

variable {i : Nat} {text altered : String}

theorem length_eq (h : Altered i text altered) : (bytes altered).length = (bytes text).length := by
  obtain ⟨b, -, hBytes⟩ := h.replaced
  rw [hBytes, List.length_set]

theorem bytes_ne (h : Altered i text altered) : bytes altered ≠ bytes text := by
  intro hSame
  obtain ⟨b, hOther, hBytes⟩ := h.replaced
  have hInside : i < ((bytes text).set i b).length := by
    rw [List.length_set]
    exact h.inside
  have hGet : ((bytes text).set i b)[i] = b := List.getElem_set_self hInside
  apply hOther
  rw [← hGet]
  simp only [← hBytes, hSame]

/-! ## Texts in two parts -/

variable {front back front' back' : List UInt8}

/-- A byte of the first part leaves the second as it is. -/
theorem back_eq (h : Altered i text altered) (hText : bytes text = front ++ back)
    (hAltered : bytes altered = front' ++ back') (hLength : front'.length = front.length)
    (hFront : i < front.length) : back' = back := by
  obtain ⟨b, -, hBytes⟩ := h.replaced
  rw [hAltered, hText, List.set_append_left i b hFront] at hBytes
  exact (List.append_inj hBytes (by rw [hLength, List.length_set])).2

/-- A byte of the second part leaves the first as it is. -/
theorem front_eq (h : Altered i text altered) (hText : bytes text = front ++ back)
    (hAltered : bytes altered = front' ++ back') (hLength : front'.length = front.length)
    (hBack : front.length ≤ i) : front' = front := by
  obtain ⟨b, -, hBytes⟩ := h.replaced
  rw [hAltered, hText, List.set_append_right i b hBack] at hBytes
  exact (List.append_inj hBytes hLength).1

/-! ## Texts with a frame -/

variable {frame : List UInt8 → List UInt8} {n : Nat} {body body' : List UInt8}

/-- With the frame before the body: the altered byte is one of the body, the bodies differ, and the
frame is that of both. -/
theorem of_frame_body (h : Altered i text altered) (hFrame : ∀ bytes, (frame bytes).length = n)
    (hText : bytes text = frame body ++ body) (hAltered : bytes altered = frame body' ++ body') :
    n ≤ i ∧ body' ≠ body ∧ body'.length = body.length ∧ frame body' = frame body := by
  have hSame : (frame body').length = (frame body).length := by rw [hFrame, hFrame]
  have hDiffer : body' ≠ body := by
    rintro rfl
    exact h.bytes_ne (hAltered.trans hText.symm)
  have hBody : n ≤ i := by
    apply Nat.le_of_not_lt
    intro hInFrame
    exact hDiffer (h.back_eq hText hAltered hSame (by rwa [hFrame]))
  refine ⟨hBody, hDiffer, ?_, h.front_eq hText hAltered hSame (by rwa [hFrame])⟩
  have hLength := h.length_eq
  rw [hText, hAltered, List.length_append, List.length_append, hSame] at hLength
  omega

/-- With the frame behind the body. -/
theorem of_body_frame (h : Altered i text altered) (hFrame : ∀ bytes, (frame bytes).length = n)
    (hText : bytes text = body ++ frame body) (hAltered : bytes altered = body' ++ frame body') :
    i < body.length ∧ body' ≠ body ∧ frame body' = frame body := by
  have hSame : body'.length = body.length := by
    have hLength := h.length_eq
    rw [hText, hAltered, List.length_append, List.length_append, hFrame, hFrame] at hLength
    omega
  have hDiffer : body' ≠ body := by
    rintro rfl
    exact h.bytes_ne (hAltered.trans hText.symm)
  have hBody : i < body.length := by
    apply Nat.lt_of_not_le
    intro hInFrame
    exact hDiffer (h.front_eq hText hAltered hSame hInFrame)
  exact ⟨hBody, hDiffer, h.back_eq hText hAltered hSame hBody⟩

end Altered

/-! ## Characters of ASCII -/

theorem altered_ofList (front : List Char) {c d : Char} (back : List Char) (hc : c.toNat < 128)
    (hd : d.toNat < 128) (hOther : d ≠ c) :
    Altered (encode front).length (String.ofList (front ++ c :: back))
      (String.ofList (front ++ d :: back)) := by
  have hBytes {e : Char} (he : e.toNat < 128) : bytes (String.ofList (front ++ e :: back)) =
      encode front ++ UInt8.ofNat e.toNat :: encode back := by
    rw [bytes, String.toList_ofList, encode_append, encode_cons_ascii he]
  have hNumber {e : Char} (he : e.toNat < 128) : (UInt8.ofNat e.toNat).toNat = e.toNat :=
    UInt8.toNat_ofNat_of_lt' (Nat.lt_trans he (by decide))
  have hDiffer : UInt8.ofNat d.toNat ≠ UInt8.ofNat c.toNat := by
    intro hSame
    have hNumbers := congrArg UInt8.toNat hSame
    rw [hNumber hc, hNumber hd] at hNumbers
    exact hOther (Char.toNat_inj.mp hNumbers)
  constructor
  case inside =>
    rw [hBytes hc, List.length_append, List.length_cons]
    omega
  case replaced =>
    refine ⟨UInt8.ofNat d.toNat, ?_, ?_⟩
    · simpa only [hBytes hc, List.getElem_append_right (Nat.le_refl _), Nat.sub_self,
        List.getElem_cons_zero] using hDiffer
    · rw [hBytes hc, hBytes hd, List.set_append_right _ _ (Nat.le_refl _), Nat.sub_self,
        List.set_cons_zero]

end Utf8

end WebLogin
