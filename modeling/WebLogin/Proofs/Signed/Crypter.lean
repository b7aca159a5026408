import WebLogin.Proofs.Bytes.Base64
import WebLogin.Signed.Crypter

/-!
# What a crypter reads

* `Aead.unseal?_eq_some_iff`: a sealed text is opened exactly if it is the sealed form of the
  result under the same key and nonce.
* `decrypt_eq_ok_iff`: a text is decrypted exactly if some nonce makes it out of the result. Base64
  and UTF-8 have one spelling each, so there is no other text that reads the same.
* `encrypt_sealed_ne_plain`: no encrypted text is a coded one, so that text hidden in one way is never
  read in the other.
* `run_encryptFresh`: what is hidden in a run, whatever the random bytes are.
-/

namespace WebLogin.Aead

theorem unseal?_sealText (key nonce message : List UInt8) :
    unseal? key nonce (sealText key nonce message) = some message := by
  have hlen : (sealText key nonce message).length = message.length + 16 := by simp [sealText]
  unfold unseal?
  rw [if_neg (by omega), hlen, Nat.add_sub_cancel]
  have hc : (ChaCha20.apply key nonce message).length = message.length := by simp
  have htake : (sealText key nonce message).take message.length =
      ChaCha20.apply key nonce message := by
    rw [sealText, ← hc, List.take_left]
  have hdrop : (sealText key nonce message).drop message.length =
      tag key nonce (ChaCha20.apply key nonce message) := by
    rw [sealText, ← hc, List.drop_left]
  simp only [htake, hdrop, if_true, ChaCha20.apply_apply]

theorem sealText_of_unseal? {key nonce text message : List UInt8}
    (h : unseal? key nonce text = some message) : sealText key nonce message = text := by
  unfold unseal? at h
  split at h
  · cases h
  dsimp only at h
  split at h
  · next htag =>
    cases h
    rw [sealText, ChaCha20.apply_apply, ← htag, List.take_append_drop]
  · cases h

/-- A text is unsealed exactly if it is the sealed form of the result. -/
theorem unseal?_eq_some_iff {key nonce text message : List UInt8} :
    unseal? key nonce text = some message ↔ text = sealText key nonce message :=
  ⟨fun h => (sealText_of_unseal? h).symm, fun h => h ▸ unseal?_sealText key nonce message⟩

end WebLogin.Aead

namespace WebLogin.Crypter

theorem textOfBytes_eq_ok_iff {bytes : List UInt8} {text : String} :
    textOfBytes bytes = .ok text ↔ bytes = Utf8.bytes text := by
  unfold textOfBytes
  constructor
  · intro h
    split at h
    · next chars hd =>
      cases h
      rw [Utf8.bytes, String.toList_ofList]
      exact Utf8.decode_eq_ok_iff.mp hd
    · cases h
  · rintro rfl
    rw [Utf8.bytes, Utf8.decode_encode]
    simp

theorem bytesOfText_eq_ok_iff {text : List Char} {bytes : List UInt8} :
    bytesOfText text = .ok bytes ↔ text = Base64.encode .urlSafe bytes := by
  unfold bytesOfText
  constructor
  · intro h
    split at h
    · next bs hd =>
      cases h
      exact Utf8.encode_injective (Base64.decode_eq_ok_iff.mp hd)
    · cases h
  · rintro rfl
    rw [show Base64.decode .urlSafe (Utf8.encode (Base64.encode .urlSafe bytes)) = .ok bytes from
      Base64.decode_eq_ok_iff.mpr rfl]

theorem decodePlain_eq_ok_iff {text message : String} :
    decodePlain text = .ok message ↔ text = Base64.text .urlSafe (Utf8.bytes message) := by
  unfold decodePlain
  constructor
  · intro h
    cases hb : bytesOfText text.toList with
    | error fault => rw [hb] at h; cases h
    | ok bytes =>
      rw [hb] at h
      have hm := textOfBytes_eq_ok_iff.mp h
      rw [Base64.text, ← hm, ← bytesOfText_eq_ok_iff.mp hb, String.ofList_toList]
  · rintro rfl
    rw [Base64.text, String.toList_ofList, bytesOfText_eq_ok_iff.mpr rfl]
    exact textOfBytes_eq_ok_iff.mpr rfl

theorem toList_encrypt_sealed (key : List UInt8) (nonce : Vector UInt8 nonceSize)
    (message : String) :
    ((Crypter.sealed key).encrypt nonce message).toList =
      '1' :: '-' :: Base64.encode .urlSafe
        (nonce.toList ++ Aead.sealText key nonce.toList (Utf8.bytes message)) := by
  simp [encrypt, Base64.text, version]

theorem decodeSealed_encrypt (key : List UInt8) (nonce : Vector UInt8 nonceSize)
    (message : String) :
    decodeSealed key ((Crypter.sealed key).encrypt nonce message) = .ok message := by
  have hlen : nonce.toList.length = nonceSize := by simp
  have htake (l : List UInt8) : (nonce.toList ++ l).take nonceSize = nonce.toList :=
    List.take_left' hlen
  have hdrop (l : List UInt8) : (nonce.toList ++ l).drop nonceSize = l := List.drop_left' hlen
  unfold decodeSealed
  rw [toList_encrypt_sealed]
  simp only [bytesOfText_eq_ok_iff.mpr rfl, bind, Except.bind]
  rw [if_neg (by simp), htake, hdrop, Aead.unseal?_sealText]
  exact textOfBytes_eq_ok_iff.mpr rfl

theorem encrypt_of_decodeSealed {key : List UInt8} {text message : String}
    (h : decodeSealed key text = .ok message) :
    ∃ nonce, text = (Crypter.sealed key).encrypt nonce message := by
  unfold decodeSealed at h
  split at h
  · next coded htext =>
    cases hb : bytesOfText coded with
    | error fault => rw [hb] at h; cases h
    | ok bytes =>
      simp only [hb, bind, Except.bind, throw, throwThe, MonadExceptOf.throw] at h
      split at h
      · cases h
      next hlen =>
      split at h
      · cases h
      · next sealedBytes hu =>
        have hsize : (bytes.take nonceSize).toArray.size = nonceSize := by
          rw [List.size_toArray, List.length_take]
          omega
        refine ⟨⟨(bytes.take nonceSize).toArray, hsize⟩, ?_⟩
        rw [← String.toList_inj, toList_encrypt_sealed, htext, bytesOfText_eq_ok_iff.mp hb,
          ← textOfBytes_eq_ok_iff.mp h]
        change _ = '1' :: '-' :: Base64.encode .urlSafe
          (bytes.take nonceSize ++ Aead.sealText key (bytes.take nonceSize) sealedBytes)
        rw [← Aead.unseal?_eq_some_iff.mp hu, List.take_append_drop]
  · cases h

/-- A text is decrypted exactly if some nonce makes it out of the result. -/
theorem decrypt_eq_ok_iff {c : Crypter} {text message : String} :
    c.decrypt text = .ok message ↔ ∃ nonce, text = c.encrypt nonce message := by
  cases c with
  | plain =>
    have hplain : decrypt .plain text = .ok message ↔ decodePlain text = .ok message := by
      cases hd : decodePlain text <;> simp [decrypt, hd]
    rw [hplain, decodePlain_eq_ok_iff]
    exact ⟨fun h => ⟨Vector.replicate nonceSize 0, h⟩, fun ⟨_, h⟩ => h⟩
  | «sealed» key =>
    have hsealed : decrypt (.sealed key) text = .ok message ↔ decodeSealed key text = .ok message := by
      cases hd : decodeSealed key text <;> simp [decrypt, hd]
    rw [hsealed]
    exact ⟨encrypt_of_decodeSealed, fun ⟨nonce, h⟩ => h ▸ decodeSealed_encrypt key nonce message⟩

theorem decrypt_encrypt (c : Crypter) (nonce : Vector UInt8 nonceSize) (message : String) :
    c.decrypt (c.encrypt nonce message) = .ok message :=
  decrypt_eq_ok_iff.mpr ⟨nonce, rfl⟩

/-! ## Texts of the other kind -/

/-- A text that is no hidden form is refused as an invalid encoding, and for nothing else. -/
theorem decrypt_of_not_encrypted {c : Crypter} {text : String}
    (h : ∀ nonce message, text ≠ c.encrypt nonce message) :
    ∃ fault, c.decrypt text = .error (.invalidEncoding fault) := by
  cases hRead : c.decrypt text with
  | ok message =>
    obtain ⟨nonce, hText⟩ := decrypt_eq_ok_iff.mp hRead
    exact absurd hText (h nonce message)
  | error e =>
    unfold decrypt at hRead
    dsimp only at hRead
    split at hRead
    · cases hRead
    · next fault _ => exact ⟨fault, hRead.symm⟩

/-- The bytes that the version begins are no text. `1` and `-` are the symbols of 53 and 62, so the
first byte begins a sequence of two, and the four high bits of the second are those of no continuation. -/
theorem front_of_version {x y : UInt8} (rest : List UInt8)
    (hFirst : Base64.Alphabet.urlSafe.symbol (x.toNat / 4) = '1')
    (hSecond : Base64.Alphabet.urlSafe.symbol (x.toNat % 4 * 16 + y.toNat / 16) = '-') :
    Utf8.front x (y :: rest) = .invalid 1 := by
  have hx := x.toNat_lt
  have hy := y.toNat_lt
  have hHigh : x.toNat / 4 = 53 :=
    Base64.symbol_injective .urlSafe (by omega) (by decide) (hFirst.trans (by decide))
  have hLow : x.toNat % 4 * 16 + y.toNat / 16 = 62 :=
    Base64.symbol_injective .urlSafe (by omega) (by decide) (hSecond.trans (by decide))
  apply Utf8.front_two_invalid
  · omega
  · unfold Utf8.Continues
    omega

/-- No coded text begins with the version. -/
theorem encode_bytes_ne_version (message : String) (coded : List Char) :
    Base64.encode .urlSafe (Utf8.bytes message) ≠ version ++ coded := by
  intro h
  cases hBytes : Utf8.bytes message with
  | nil =>
    rw [hBytes] at h
    cases h
  | cons x rest =>
    cases rest with
    | nil =>
      -- the second symbol of a single byte has no bits of a byte in its lower half
      rw [hBytes] at h
      obtain ⟨-, hSecond⟩ := List.cons.inj h
      have hx := x.toNat_lt
      have hLow : x.toNat % 4 * 16 = 62 := Base64.symbol_injective .urlSafe (by omega) (by decide)
        ((List.cons.inj hSecond).1.trans (by decide))
      omega
    | cons y rest =>
      obtain ⟨symbols, hSymbols⟩ := Base64.exists_encode_cons_cons .urlSafe x y rest
      rw [hBytes, hSymbols] at h
      obtain ⟨hFirst, hTail⟩ := List.cons.inj h
      have hFront := front_of_version rest hFirst (List.cons.inj hTail).1
      exact Utf8.encode_ne_of_front_invalid hFront message.toList hBytes

/-- Whatever keys, nonces and texts are taken, an encrypted text is not a coded one. -/
theorem encrypt_sealed_ne_plain (key : List UInt8) (nonce nonce' : Vector UInt8 nonceSize)
    (message message' : String) :
    (Crypter.sealed key).encrypt nonce message ≠ Crypter.plain.encrypt nonce' message' := by
  intro h
  have hCoded : (Crypter.plain.encrypt nonce' message').toList =
      Base64.encode .urlSafe (Utf8.bytes message') := String.toList_ofList
  rw [← String.toList_inj, toList_encrypt_sealed, hCoded] at h
  exact encode_bytes_ne_version message' _ h.symm

/-! ## Runs -/

/-- Whatever a program is answered, it hides a text under some nonce. -/
theorem run_encryptFresh {δ σ : Type} (c : Crypter)
    (answer : (q : Query δ) → σ → q.Answer × σ) (text : String) (s : σ) :
    ∃ nonce, ((c.encryptFresh text).run answer s).1 = c.encrypt nonce text := by
  cases c with
  | plain => exact ⟨Vector.replicate nonceSize 0, rfl⟩
  | «sealed» key => exact ⟨(answer (.randomBytes nonceSize) s).1, rfl⟩

end WebLogin.Crypter
