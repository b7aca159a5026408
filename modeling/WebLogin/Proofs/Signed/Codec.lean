import WebLogin.Proofs.Json.Form
import WebLogin.Proofs.Signed.Crypter
import WebLogin.Proofs.Signed.Signer
import WebLogin.Signed.Codec

/-!
# Signed records

A wire value is read exactly if it is a signed message around an encryption of a text of the record.

* `decode_eq_ok_iff`: what is known of a wire value that is read.
* `decode_wire_eq`, `decode_wire`: a record that was written is read back as its form reads it.
* `run_encodeFresh`: what is written in a run, whatever the random bytes are.
-/

namespace WebLogin.SignedCodec

theorem unwire_eq_ok_iff {c : SignedCodec} {raw json : String} :
    c.unwire raw = .ok json ↔
      ∃ nonce sealing, '-' ∉ nonce.toList ∧
        raw = c.signer.message nonce (c.crypter.encrypt sealing json) := by
  unfold unwire
  constructor
  · intro h
    cases hExtract : c.signer.extract raw with
    | error e =>
      rw [hExtract] at h
      cases h
    | ok data =>
      rw [hExtract] at h
      obtain ⟨sealing, rfl⟩ := Crypter.decrypt_eq_ok_iff.mp h
      obtain ⟨nonce, hNonce, hRaw⟩ := Signer.extract_eq_ok_iff.mp hExtract
      exact ⟨nonce, sealing, hNonce, hRaw⟩
  · rintro ⟨nonce, sealing, hNonce, rfl⟩
    rw [Signer.extract_eq_ok_iff.mpr ⟨nonce, hNonce, rfl⟩]
    exact Crypter.decrypt_encrypt _ _ _

/-- A wire value gives a record only if it carries a correct tag over a nonce and an encryption of a
text of that record. -/
theorem decode_eq_ok_iff {α : Type} {c : SignedCodec} {form : Json.Form α} {raw : String} {a : α} :
    c.decode form raw = .ok a ↔
      ∃ nonce sealing json, '-' ∉ nonce.toList ∧
        raw = c.signer.message nonce (c.crypter.encrypt sealing json) ∧
        form.parse? json = some a := by
  unfold decode
  constructor
  · intro h
    cases hJson : c.unwire raw with
    | error e =>
      rw [hJson] at h
      cases h
    | ok json =>
      obtain ⟨nonce, sealing, hNonce, hRaw⟩ := unwire_eq_ok_iff.mp hJson
      cases hParse : form.parse? json with
      | none => simp [hJson, hParse, bind, Except.bind, throw, throwThe, MonadExceptOf.throw] at h
      | some b =>
        obtain rfl : b = a := by
          simpa [hJson, hParse, bind, Except.bind, pure, Except.pure] using h
        exact ⟨nonce, sealing, json, hNonce, hRaw, hParse⟩
  · rintro ⟨nonce, sealing, json, hNonce, hRaw, hParse⟩
    have hJson : c.unwire raw = .ok json := unwire_eq_ok_iff.mpr ⟨nonce, sealing, hNonce, hRaw⟩
    simp [hJson, hParse, bind, Except.bind, pure, Except.pure]

/-- What a form reads of a text that it wrote, it reads through encryption and signature. -/
theorem decode_wire_eq {α : Type} (c : SignedCodec) (form : Json.Form α) (a : α)
    (sealing : Vector UInt8 Crypter.nonceSize) (signing : Vector UInt8 16) :
    c.decode form (c.wire sealing signing (form.render a)) =
      match form.parse? (form.render a) with
      | some b => .ok b
      | none => .error (.invalidFormat .json) := by
  have hUnwire : c.unwire (c.wire sealing signing (form.render a)) = .ok (form.render a) := by
    rw [unwire, wire, Signer.extract_sign]
    exact Crypter.decrypt_encrypt _ _ _
  rw [decode, hUnwire]
  rfl

theorem decode_wire {α : Type} (c : SignedCodec) {form : Json.Form α} {a b : α}
    (h : form.Reads a b) (sealing : Vector UInt8 Crypter.nonceSize) (signing : Vector UInt8 16) :
    c.decode form (c.wire sealing signing (form.render a)) = .ok b := by
  rw [decode_wire_eq, h.parse?_render]

/-- Whatever a program is answered, it writes a record under some nonces. -/
theorem run_encodeFresh {α δ σ : Type} (c : SignedCodec)
    (answer : (q : Query δ) → σ → q.Answer × σ) (form : Json.Form α) (a : α) (s : σ) :
    ∃ sealing signing,
      ((c.encodeFresh form a).run answer s).1 = c.wire sealing signing (form.render a) := by
  obtain ⟨sealing, hSealing⟩ := c.crypter.run_encryptFresh answer (form.render a) s
  refine ⟨sealing, (answer (.randomBytes 16)
    ((c.crypter.encryptFresh (form.render a)).run answer s).2).1, ?_⟩
  rw [encodeFresh, Program.bind_eq, Program.run_bind, hSealing]
  rfl

end WebLogin.SignedCodec
