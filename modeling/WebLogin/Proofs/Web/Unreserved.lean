import WebLogin.Proofs.Jwt.Codec
import WebLogin.Proofs.Signed.Codec
import WebLogin.Proofs.Web.Cookie

/-!
# Issued texts

Tokens and records are written in letters, digits, dashes, underscores and dots, whoever they are for. So a
header takes each of them, and gives it back as it is.

* `Text.Unreserved`, `Text.Unreserved.readable`: such texts, and that they are readable in a header.
* `JwtCodec.unreserved_token`, `SignedCodec.unreserved_wire`: what codecs write.
-/

namespace WebLogin

/-! ## Characters -/

/-- The characters of issued texts: letters, digits, dashes, underscores and dots. -/
def Text.isUnreserved (c : Char) : Bool := c.isAlphanum || ['-', '_', '.'].contains c

/-- A text that stands for itself in a header, in a cookie and in a query string. -/
def Text.Unreserved (s : String) : Prop := ∀ c ∈ s.toList, isUnreserved c = true

open Text (isUnreserved Unreserved)

theorem isTokenChar_of_isUnreserved {c : Char} (hc : isUnreserved c = true) : isTokenChar c = true := by
  have hMarks : ['-', '_', '.'] ⊆ tokenMarks := by simp [tokenMarks]
  rw [isUnreserved, Bool.or_eq_true, List.contains_iff_mem] at hc
  rw [isTokenChar, Bool.or_eq_true, List.contains_iff_mem]
  exact hc.imp_right fun hMark => hMarks hMark

theorem Text.Unreserved.readable {s : String} (hText : Unreserved s) : HeaderValue.Readable s := by
  intro c hc
  obtain ⟨⟨hLeast, hGreatest⟩, -⟩ := isTokenChar_spec (isTokenChar_of_isUnreserved (hText c hc))
  exact .inl ⟨hLeast.le, hGreatest⟩

/-! ## Alphabets -/

theorem isUnreserved_symbol {v : Nat} (h : v < 64) :
    isUnreserved (Base64.Alphabet.urlSafe.symbol v) = true := by
  have hAll : ∀ v ∈ List.range 64, isUnreserved (Base64.Alphabet.urlSafe.symbol v) = true := by decide
  exact hAll v (List.mem_range.mpr h)

theorem isUnreserved_base64 {bytes : List UInt8} {c : Char} (hc : c ∈ Base64.encode .urlSafe bytes) :
    isUnreserved c = true := by
  obtain ⟨v, hv, rfl⟩ := Base64.symbol_of_mem_encode hc
  exact isUnreserved_symbol hv

theorem isUnreserved_hex {bytes : List UInt8} {c : Char} (hc : c ∈ Hex.encode bytes) :
    isUnreserved c = true := by
  have hAll : Hex.digits.all isUnreserved = true := by decide
  exact List.all_eq_true.mp hAll c (Hex.mem_digits_of_mem_encode hc)

/-! ## What codecs write -/

theorem JwtCodec.unreserved_token (c : JwtCodec) (claims : Jwt.Claims) : Unreserved (c.token claims) := by
  intro d hd
  simp only [token, String.toList_ofList, List.mem_append, List.mem_cons] at hd
  rcases hd with (hd | rfl | hd) | rfl | hd
  · exact isUnreserved_base64 hd
  · decide
  · exact isUnreserved_base64 hd
  · decide
  · exact isUnreserved_base64 hd

theorem Crypter.unreserved_encrypt (c : Crypter) (nonce : Vector UInt8 nonceSize) (text : String) :
    Unreserved (c.encrypt nonce text) := by
  intro d hd
  cases c with
  | plain =>
    simp only [encrypt, Base64.text, String.toList_ofList] at hd
    exact isUnreserved_base64 hd
  | sealed key =>
    rw [toList_encrypt_sealed] at hd
    rcases List.mem_cons.mp hd with rfl | hd
    · decide
    rcases List.mem_cons.mp hd with rfl | hd
    · decide
    · exact isUnreserved_base64 hd

theorem SignedCodec.unreserved_wire (c : SignedCodec) (sealing : Vector UInt8 Crypter.nonceSize)
    (signing : Vector UInt8 16) (json : String) : Unreserved (c.wire sealing signing json) := by
  intro d hd
  rw [wire, Signer.sign, Signer.toList_message] at hd
  simp only [Signer.tag, Hex.text, String.toList_ofList, List.mem_append, List.mem_cons,
    List.not_mem_nil, or_false] at hd
  rcases hd with rfl | rfl | hd | rfl | hd | rfl | hd
  · decide
  · decide
  · exact isUnreserved_hex hd
  · decide
  · exact isUnreserved_hex hd
  · decide
  · exact c.crypter.unreserved_encrypt sealing json d hd

end WebLogin
