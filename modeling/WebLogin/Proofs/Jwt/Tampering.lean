import WebLogin.Proofs.Jwt.RoundTrip
import WebLogin.Proofs.Signed.Alteration

/-!
# What an altered token would take

The tag of a token is checked before any of its parts is read. So an altered token is refused for its
tag, whatever the alteration made of its parts, unless the tag has a collision. No case is made of what
the new byte is: it may be a dot, so that the parts end elsewhere, and it may leave a part that is no
Base64.

* `decode_of_unsigned`: a token that does not end in the tag of its text.
* `tailOf`: the last dot and the tag, which are of one length in all tokens.
* `tampering_is_invalidSignature`: every alteration of every token.
-/

namespace WebLogin.JwtCodec

variable {δ σ : Type}

/-! ## Tokens and their tags -/

/-- A token that does not end in the tag of its text is refused, whatever it looks like. -/
theorem decode_of_unsigned {c : JwtCodec} {token : String}
    (hUnsigned : ∀ text, token.toList ≠ text ++ '.' :: c.signature text) (settings : JwtSettings) :
    c.decode settings token = .error .invalidSignature := by
  have hVerify : c.verify token settings.issuer = .error .invalidSignature := by
    unfold verify
    split
    · next text tag hCut =>
      obtain ⟨hToken, -⟩ := Text.cutLast?_eq_some_iff.mp hCut
      split
      · next hTag =>
        rw [hTag] at hToken
        exact absurd hToken (hUnsigned text)
      · rfl
    · rfl
  rw [decode, hVerify]
  rfl

/-- What is signed ends in the tag of its text. -/
theorem exists_text_of_encodeFresh {c : JwtCodec} {settings : JwtSettings} {a : JwtAuthenticator}
    {answer : (q : Query δ) → σ → q.Answer × σ} {s : σ} {token : String}
    (hToken : ((c.encodeFresh settings a).run answer s).1 = .ok token) :
    ∃ text, token.toList = text ++ '.' :: c.signature text := by
  cases hClash : clash? a with
  | some name =>
    rw [encodeFresh, hClash] at hToken
    cases hToken
  | none =>
    obtain ⟨nonce, hRun⟩ := c.run_encodeFresh settings answer s hClash
    obtain rfl := Except.ok.inj (hRun.symm.trans hToken)
    exact ⟨_, String.toList_ofList⟩

/-- The last dot of a token and the tag behind it, as bytes, for the bytes before them. -/
def tailOf (c : JwtCodec) (body : List UInt8) : List UInt8 :=
  Utf8.encode ('.' :: Base64.encode .urlSafe (Hmac.tag c.secret body))

theorem length_tailOf (c : JwtCodec) (body : List UInt8) : (c.tailOf body).length = 44 := by
  have hTag : (Base64.encode .urlSafe (Hmac.tag c.secret body)).length = 43 := by
    rw [Base64.length_encode, Hmac.length_tag]
  rw [tailOf, Utf8.encode_cons_ascii (by decide), Utf8.encode_ascii (Base64.encode_ascii _ _),
    List.length_cons, List.length_map, hTag]

theorem bytes_of_signed {c : JwtCodec} {token : String} {text : List Char}
    (hToken : token.toList = text ++ '.' :: c.signature text) :
    Utf8.bytes token = Utf8.encode text ++ c.tailOf (Utf8.encode text) := by
  rw [Utf8.bytes, hToken, Utf8.encode_append]
  rfl

theorem tag_eq_of_tailOf {c : JwtCodec} {body body' : List UInt8}
    (hSame : c.tailOf body = c.tailOf body') : Hmac.tag c.secret body = Hmac.tag c.secret body' :=
  Base64.encode_injective (List.cons.inj (Utf8.encode_injective hSame)).2

/-! ## Alterations -/

/-- Whatever byte of a token is altered, in whatever way that leaves it a text, the token is refused
for its tag, under any settings, or the tag has a collision: of the text before the last dot as it was
and as it is now. An alteration of the last dot or of the tag behind it is refused in any case. -/
theorem tampering_is_invalidSignature (c : JwtCodec) (settings : JwtSettings) (a : JwtAuthenticator)
    (answer : (q : Query δ) → σ → q.Answer × σ) (s : σ) {token altered : String} {i : Nat}
    (hToken : ((c.encodeFresh settings a).run answer s).1 = .ok token)
    (hAltered : Utf8.Altered i token altered) (expected : JwtSettings) :
    ∃ text signature, Text.cutLast? '.' token.toList = some (text, signature) ∧
      (c.decode expected altered = .error .invalidSignature ∨
        ∃ text' signature', Text.cutLast? '.' altered.toList = some (text', signature') ∧
          Hmac.Collision c.secret (Utf8.encode text') (Utf8.encode text)) ∧
      ((Utf8.encode text).length ≤ i → c.decode expected altered = .error .invalidSignature) := by
  obtain ⟨text, hText⟩ := exists_text_of_encodeFresh hToken
  refine ⟨text, c.signature text,
    Text.cutLast?_eq_some_iff.mpr ⟨hText, dot_not_mem_encode _⟩, ?_⟩
  by_cases hSigned : ∃ text', altered.toList = text' ++ '.' :: c.signature text'
  · obtain ⟨text', hText'⟩ := hSigned
    obtain ⟨hInText, hDiffer, hTail⟩ :=
      hAltered.of_body_frame c.length_tailOf (bytes_of_signed hText) (bytes_of_signed hText')
    refine ⟨.inr ⟨text', c.signature text',
      Text.cutLast?_eq_some_iff.mpr ⟨hText', dot_not_mem_encode _⟩, hDiffer,
      tag_eq_of_tailOf hTail⟩, fun hBehind => ?_⟩
    omega
  · have hRefused := decode_of_unsigned (fun text' h => hSigned ⟨text', h⟩) expected
    exact ⟨.inl hRefused, fun _ => hRefused⟩

/-! ## An instance -/

theorem altered_last_dot {token : String} {text signature : List Char}
    (hToken : token.toList = text ++ '.' :: signature) :
    Utf8.Altered (Utf8.encode text).length token (String.ofList (text ++ 'A' :: signature)) := by
  have hText : token = String.ofList (text ++ '.' :: signature) := by
    rw [← String.toList_inj, String.toList_ofList, hToken]
  rw [hText]
  exact Utf8.altered_ofList text signature (by decide) (by decide) (by decide)

/-- The first character of the header is altered. -/
theorem altered_header (c : JwtCodec) (claims : Jwt.Claims) :
    Utf8.Altered 0 (c.token claims) (String.ofList ('.' :: (c.token claims).toList.drop 1)) := by
  have hHeader : encodePart Jwt.header.render = 'e' :: (encodePart Jwt.header.render).drop 1 := by
    decide
  have hToken : c.token claims = String.ofList ([] ++ 'e' :: (c.token claims).toList.drop 1) := by
    rw [← String.toList_inj, String.toList_ofList, token, String.toList_ofList, hHeader]
    rfl
  have hAltered := Utf8.altered_ofList [] (c := 'e') (d := '.') ((c.token claims).toList.drop 1)
    (by decide) (by decide) (by decide)
  rwa [← hToken] at hAltered

/-- The last dot becomes a symbol, so that the tag moves into the part before it; and the header
begins with a dot, so that there is a part too many. -/
theorem tampering_is_invalidSignature_for_dots :
    let c : JwtCodec := ⟨List.replicate 32 0, .sealed [], by decide⟩
    let a : JwtAuthenticator :=
      { id := "id-1", login := ⟨"credentials", "1"⟩, lastUsed := .epoch, expires := .epoch
        idle := none, details := ⟨none⟩ }
    ∃ token text signature,
      ((c.encodeFresh {} a).run Surroundings.answer ({} : Surroundings Unit)).1 = .ok token ∧
      Text.cutLast? '.' token.toList = some (text, signature) ∧
      Utf8.Altered (Utf8.encode text).length token (String.ofList (text ++ 'A' :: signature)) ∧
      c.decode {} (String.ofList (text ++ 'A' :: signature)) = .error .invalidSignature ∧
      Utf8.Altered 0 token (String.ofList ('.' :: token.toList.drop 1)) ∧
      (c.decode {} (String.ofList ('.' :: token.toList.drop 1)) = .error .invalidSignature ∨
        ∃ text' signature', Text.cutLast? '.' (String.ofList ('.' :: token.toList.drop 1)).toList =
            some (text', signature') ∧
          Hmac.Collision c.secret (Utf8.encode text') (Utf8.encode text)) := by
  intro c a
  obtain ⟨nonce, hToken⟩ := c.run_encodeFresh {} (a := a) Surroundings.answer
    ({} : Surroundings Unit) (by decide)
  have hHeader := altered_header c (claimsOf {} a
    ((c.subjectCrypter true).encrypt nonce (Json.Form.login.render a.login)))
  obtain ⟨text, signature, hCut, hEither, -⟩ :=
    c.tampering_is_invalidSignature {} a Surroundings.answer {} hToken hHeader {}
  have hDot := altered_last_dot (Text.cutLast?_eq_some_iff.mp hCut).1
  obtain ⟨text', signature', hCut', -, hRefused⟩ :=
    c.tampering_is_invalidSignature {} a Surroundings.answer {} hToken hDot {}
  obtain ⟨rfl, rfl⟩ := Prod.mk.inj (Option.some.inj (hCut.symm.trans hCut'))
  exact ⟨_, text, signature, hToken, hCut, hDot, hRefused (Nat.le_refl _), hHeader, hEither⟩

end WebLogin.JwtCodec
