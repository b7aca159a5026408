import WebLogin.Proofs.Bytes.Utf8
import WebLogin.Proofs.Text.Split
import WebLogin.Signed.Signer

/-!
# What a signer accepts

A signer gives data back for exactly the messages that it makes of them with some nonce in which no
dash stands. The pieces of a message cannot be shifted against each other, since neither the version
nor a tag in hexadecimal nor a nonce has a dash.

* `extract_eq_ok_iff`: the messages that are accepted.
* `covered_injective`: what a tag covers tells where the nonce ends and the data begin, although the
  pepper and the data may have dashes of their own.
* `accepts_exactly_signed`: the two together, with the one error that is left.
-/

namespace WebLogin.Signer

open Text

theorem dash_not_mem_hex (bytes : List UInt8) : '-' ∉ Hex.encode bytes := by
  intro h
  have := Hex.mem_digits_of_mem_encode h
  revert this
  decide

theorem splitAtMost_eq_four_iff {text a b c d : List Char} :
    splitAtMost '-' 3 text = [a, b, c, d] ↔
      text = a ++ '-' :: (b ++ '-' :: (c ++ '-' :: d)) ∧ '-' ∉ a ∧ '-' ∉ b ∧ '-' ∉ c := by
  constructor
  · intro h
    simp only [splitAtMost] at h
    split at h
    · simp at h
    · next a' r ha =>
      obtain ⟨rfl, hna⟩ := cutFirst?_eq_some_iff.mp ha
      split at h
      · simp at h
      · next b' r' hb =>
        obtain ⟨rfl, hnb⟩ := cutFirst?_eq_some_iff.mp hb
        split at h
        · simp at h
        · next c' r'' hc =>
          obtain ⟨rfl, hnc⟩ := cutFirst?_eq_some_iff.mp hc
          simp only [List.cons.injEq, and_true] at h
          obtain ⟨rfl, rfl, rfl, rfl⟩ := h
          exact ⟨rfl, hna, hnb, hnc⟩
  · rintro ⟨rfl, ha, hb, hc⟩
    simp only [splitAtMost, cutFirst?_eq_some_iff.mpr ⟨rfl, ha⟩,
      cutFirst?_eq_some_iff.mpr ⟨rfl, hb⟩, cutFirst?_eq_some_iff.mpr ⟨rfl, hc⟩]

theorem toList_message (s : Signer) (nonce data : String) :
    (s.message nonce data).toList =
      ['1'] ++ '-' :: ((s.tag nonce data).toList ++ '-' :: (nonce.toList ++ '-' :: data.toList)) := by
  have hv : version.toList = ['1'] := by decide
  have hd : ("-" : String).toList = ['-'] := by decide
  simp [message, hv, hd]

/-- The pieces of a message can be told from the text alone. -/
theorem splitAtMost_message (s : Signer) {nonce data : String} (hNonce : '-' ∉ nonce.toList) :
    splitAtMost '-' 3 (s.message nonce data).toList =
      [['1'], (s.tag nonce data).toList, nonce.toList, data.toList] := by
  have hTag : '-' ∉ (s.tag nonce data).toList := by
    simpa [tag, Hex.text] using dash_not_mem_hex _
  rw [toList_message]
  exact splitAtMost_eq_four_iff.mpr ⟨rfl, by decide, hTag, hNonce⟩

/-- A signer accepts exactly the messages that it makes of some nonce without a dash. -/
theorem extract_eq_ok_iff {s : Signer} {message data : String} :
    s.extract message = .ok data ↔
      ∃ nonce : String, '-' ∉ nonce.toList ∧ message = s.message nonce data := by
  constructor
  · intro h
    unfold extract at h
    split at h
    · next v tag nonce data' hsplit =>
      split at h
      · next hok =>
        obtain ⟨rfl, rfl⟩ := hok
        cases h
        obtain ⟨pieces, hp, hmap⟩ : ∃ pieces, splitAtMost '-' 3 message.toList = pieces ∧
          pieces.map String.ofList = [version, s.tag nonce data, nonce, data] := ⟨_, rfl, hsplit⟩
        match pieces with
        | [a, b, c, d] =>
          simp only [List.map_cons, List.map_nil, List.cons.injEq, and_true] at hmap
          obtain ⟨ha, hb, hc, hd⟩ := hmap
          obtain ⟨hm, -, -, hdash⟩ := splitAtMost_eq_four_iff.mp hp
          have hva : a = ['1'] := by rw [← String.toList_ofList (l := a), ha]; decide
          refine ⟨nonce, by rw [← hc, String.toList_ofList]; exact hdash, ?_⟩
          rw [← String.toList_inj, toList_message, hm, hva, ← hb, ← hc, ← hd]
          simp
        | [] | [_] | [_, _] | [_, _, _] | _ :: _ :: _ :: _ :: _ :: _ => simp at hmap
      · cases h
    · cases h
  · rintro ⟨nonce, hdash, rfl⟩
    unfold extract
    rw [s.splitAtMost_message hdash]
    simp [version]

theorem extract_sign (s : Signer) (nonce : Vector UInt8 16) (data : String) :
    s.extract (s.sign nonce data) = .ok data :=
  extract_eq_ok_iff.mpr ⟨_, by simpa [Hex.text] using dash_not_mem_hex _, rfl⟩

/-! ## No message passes for another -/

theorem extract_cases (s : Signer) (message : String) :
    (∃ data, s.extract message = .ok data) ∨ s.extract message = .error .invalidSignature := by
  unfold extract
  split
  · split
    · exact .inl ⟨_, rfl⟩
    · exact .inr rfl
  · exact .inr rfl

theorem toList_covered (s : Signer) (nonce data : String) :
    (s.covered nonce data).toList =
      s.pepper.toList ++ ((nonce.toList ++ '-' :: data.toList) ++ s.pepper.toList) := by
  have hDash : ("-" : String).toList = ['-'] := by decide
  simp [covered, hDash]

theorem covered_injective {s : Signer} {nonce nonce' data data' : String}
    (hNonce : '-' ∉ nonce.toList) (hNonce' : '-' ∉ nonce'.toList)
    (hSame : Utf8.bytes (s.covered nonce data) = Utf8.bytes (s.covered nonce' data')) :
    nonce = nonce' ∧ data = data' := by
  have hText := Utf8.encode_injective hSame
  rw [toList_covered, toList_covered] at hText
  -- the two peppers are peeled off, and what is left is cut at its first dash
  have hInner := List.append_cancel_right (List.append_cancel_left hText)
  have hCut : cutFirst? '-' (nonce.toList ++ '-' :: data.toList) =
      some (nonce.toList, data.toList) := cutFirst?_eq_some_iff.mpr ⟨rfl, hNonce⟩
  have hCut' : cutFirst? '-' (nonce.toList ++ '-' :: data.toList) =
      some (nonce'.toList, data'.toList) := cutFirst?_eq_some_iff.mpr ⟨hInner, hNonce'⟩
  obtain ⟨hN, hD⟩ := Prod.mk.inj (Option.some.inj (hCut.symm.trans hCut'))
  exact ⟨String.toList_inj.mp hN, String.toList_inj.mp hD⟩

/-- A signer accepts exactly the messages that carry the tag of their own nonce and data, whatever
stands in the data and in the pepper; it has one error for all others. What it signs it accepts, and
two messages that it accepts are never covered by the same tag input. -/
theorem accepts_exactly_signed (s : Signer) :
    (∀ message data : String, s.extract message = .ok data ↔
      ∃ nonce : String, '-' ∉ nonce.toList ∧ message =
        "1-" ++ Hex.text (Hmac.tag s.key
          (Utf8.bytes (s.pepper ++ nonce ++ "-" ++ data ++ s.pepper))) ++ "-" ++ nonce ++ "-" ++
          data) ∧
    (∀ message, (∀ data, s.extract message ≠ .ok data) →
      s.extract message = .error .invalidSignature) ∧
    (∀ (nonce : Vector UInt8 16) (data : String), s.extract (s.sign nonce data) = .ok data) ∧
    ∀ nonce nonce' data data' : String, '-' ∉ nonce.toList → '-' ∉ nonce'.toList →
      s.message nonce data ≠ s.message nonce' data' →
      Utf8.bytes (s.covered nonce data) ≠ Utf8.bytes (s.covered nonce' data') := by
  refine ⟨?_, ?_, s.extract_sign, ?_⟩
  · intro message data
    exact extract_eq_ok_iff
  · intro message hNone
    rcases s.extract_cases message with ⟨data, hData⟩ | hError
    · exact absurd hData (hNone data)
    · exact hError
  · intro nonce nonce' data data' hNonce hNonce' hMessages hSame
    obtain ⟨rfl, rfl⟩ := covered_injective hNonce hNonce' hSame
    exact hMessages rfl

end WebLogin.Signer
