import WebLogin.Proofs.Signed.Crypter

/-!
# What a crypter refuses

Decryption is strict. A text is decrypted exactly if the crypter may have made it, and of all the texts
that a forgiving reader of Base64 would take for the same bytes it is the only one.

* `Base64.loosely`, `loosely_encode`: the forgiving reader, who looks at symbols only.
* `Aead.unseal?_eq_none_iff`: a sealed text is refused if it has no room for a tag, or a wrong one.
* `Flawed`, `decrypt_eq_error_iff`: why a text is refused, layer by layer, and that nothing else is.
* `decrypts_exactly_encrypted`: both crypters.
-/

namespace WebLogin

namespace Base64

/-! ## A forgiving reader -/

/-- The value of a symbol of either alphabet. -/
def looseValue? (c : Char) : Option Nat :=
  if c.toNat < 128 then
    (Alphabet.standard.value? (UInt8.ofNat c.toNat)).or
      (Alphabet.urlSafe.value? (UInt8.ofNat c.toNat))
  else none

/-- The bytes of values in groups of four. The bits that are left over at the end belong to none. -/
def bytesOfValues : List Nat → List UInt8
  | a :: b :: c :: d :: rest => group [a, b, c, d] ++ bytesOfValues rest
  | values => group values

/-- The bytes that a text stands for if symbols of both alphabets count, bits may be left over, and all
other characters, of padding too, are passed over. -/
def loosely (text : List Char) : List UInt8 := bytesOfValues (text.filterMap looseValue?)

theorem looseValue?_symbol (alphabet : Alphabet) {value : Nat} (h : value < 64) :
    looseValue? (alphabet.symbol value) = some value := by
  have hAll : ∀ v ∈ List.range 64, looseValue? (alphabet.symbol v) = some v := by
    cases alphabet <;> decide
  exact hAll value (List.mem_range.mpr h)

theorem filterMap_symbols (alphabet : Alphabet) {values : List Nat} (h : ∀ v ∈ values, v < 64) :
    (values.map alphabet.symbol).filterMap looseValue? = values := by
  induction values with
  | nil => rfl
  | cons v values ih =>
    have hRest := ih fun w hw => h w (List.mem_cons_of_mem _ hw)
    rw [List.map_cons, List.filterMap_cons, looseValue?_symbol alphabet (h v List.mem_cons_self),
      hRest]

theorem loosely_short (alphabet : Alphabet) {bytes : List UInt8} (h : bytes.length ≤ 2) :
    loosely (encode alphabet bytes) = bytes := by
  have hBelow := (grouped_sextets (Nat.le_succ_of_le h)).below
  have hGroup := group_sextets (Nat.le_succ_of_le h)
  rw [encode_short alphabet (Nat.le_succ_of_le h), loosely, filterMap_symbols alphabet hBelow]
  match bytes with
  | [] | [_] | [_, _] => exact hGroup

/-- A forgiving reader reads what is written in either alphabet. -/
theorem loosely_encode (alphabet : Alphabet) (bytes : List UInt8) :
    loosely (encode alphabet bytes) = bytes := by
  induction bytes using encode.induct with
  | case1 x y z rest ih =>
    have hThree : [x, y, z].length ≤ 3 := Nat.le_refl 3
    have hWritten : encode alphabet (x :: y :: z :: rest) =
        (sextets [x, y, z]).map alphabet.symbol ++ encode alphabet rest := by
      rw [← encode_short alphabet hThree, ← encode_append alphabet rfl]
      rfl
    have hGroup := group_sextets hThree
    rw [loosely] at ih ⊢
    rw [hWritten, List.filterMap_append, filterMap_symbols alphabet (grouped_sextets hThree).below]
    simp only [sextets, List.cons_append, List.nil_append, bytesOfValues, ih] at hGroup ⊢
    rw [hGroup]
    rfl
  | case2 x y => exact loosely_short alphabet (Nat.le_refl 2)
  | case3 x => exact loosely_short alphabet (Nat.le_succ 1)
  | case4 => exact loosely_short alphabet (Nat.zero_le 2)

end Base64

namespace Aead

/-! ## Sealed texts that are refused -/

/-- A sealed text is refused if it is shorter than a tag, or if its last bytes are not the tag of those
before them. -/
theorem unseal?_eq_none_iff {key nonce text : List UInt8} :
    unseal? key nonce text = none ↔
      text.length < 16 ∨ ∃ ciphertext last, text = ciphertext ++ last ∧ last.length = 16 ∧
        last ≠ tag key nonce ciphertext := by
  unfold unseal?
  dsimp only
  by_cases hShort : text.length < 16
  · simp [hShort]
  rw [if_neg hShort]
  by_cases hTag : text.drop (text.length - 16) = tag key nonce (text.take (text.length - 16))
  · rw [if_pos hTag]
    constructor
    · intro h
      cases h
    · rintro (h | ⟨ciphertext, last, rfl, hLast, hWrong⟩)
      · exact absurd h hShort
      · have hFront : (ciphertext ++ last).length - 16 = ciphertext.length := by
          rw [List.length_append, hLast, Nat.add_sub_cancel]
        rw [hFront, List.take_left, List.drop_left] at hTag
        exact absurd hTag hWrong
  · rw [if_neg hTag]
    refine ⟨fun _ => .inr ⟨_, _, (List.take_append_drop _ text).symm, ?_, hTag⟩, fun _ => rfl⟩
    rw [List.length_drop]
    omega

end Aead

namespace Crypter

/-! ## Layers -/

/-- What is in Base64 of a text that a crypter may be given. -/
def Coded : Crypter → String → List Char → Prop
  | .plain, text, coded => text.toList = coded
  | .sealed _, text, coded => text.toList = version ++ coded

/-- The message that a text hides, which need not be UTF-8. -/
def Hides : Crypter → String → List UInt8 → Prop
  | .plain, text, message => Crypter.plain.Coded text (Base64.encode .urlSafe message)
  | .sealed key, text, message => ∃ nonce, nonce.length = nonceSize ∧
      (Crypter.sealed key).Coded text
        (Base64.encode .urlSafe (nonce ++ Aead.sealText key nonce message))

/-- Why a text is no hidden form, with the fault that is reported. -/
inductive Flawed : Crypter → String → EncodingFault → Prop where
  | version {key : List UInt8} {text : String} (h : ∀ coded, ¬(Crypter.sealed key).Coded text coded) :
      Flawed (.sealed key) text .unknownVersion
  | coding {c : Crypter} {text : String} {coded : List Char} {fault : Base64.Fault}
      (hCoded : c.Coded text coded)
      (h : Base64.decode .urlSafe (Utf8.encode coded) = .error fault) :
      Flawed c text (.base64 fault)
  | noNonce {key : List UInt8} {text : String} {bytes : List UInt8}
      (hCoded : (Crypter.sealed key).Coded text (Base64.encode .urlSafe bytes))
      (h : bytes.length < nonceSize) : Flawed (.sealed key) text .tooShort
  | noTag {key : List UInt8} {text : String} {nonce rest : List UInt8}
      (hNonce : nonce.length = nonceSize)
      (hCoded : (Crypter.sealed key).Coded text (Base64.encode .urlSafe (nonce ++ rest)))
      (h : rest.length < 16) : Flawed (.sealed key) text .undecryptable
  | wrongTag {key : List UInt8} {text : String} {nonce ciphertext tag : List UInt8}
      (hNonce : nonce.length = nonceSize) (hTag : tag.length = 16)
      (hCoded : (Crypter.sealed key).Coded text
        (Base64.encode .urlSafe (nonce ++ (ciphertext ++ tag))))
      (h : tag ≠ Aead.tag key nonce ciphertext) : Flawed (.sealed key) text .undecryptable
  | noText {c : Crypter} {text : String} {message : List UInt8} {fault : Utf8.Fault}
      (hHides : c.Hides text message) (h : Utf8.decode message = .error fault) :
      Flawed c text (.utf8 fault)

/-- Another text that a forgiving reader of Base64 takes for the same bytes. -/
def Respells (c : Crypter) (text other : String) : Prop :=
  ∃ coded coded', c.Coded text coded ∧ c.Coded other coded' ∧
    Base64.loosely coded' = Base64.loosely coded

/-- What is read of the bytes of an encrypted text. -/
def openBytes (key bytes : List UInt8) : Except EncodingFault String :=
  if bytes.length < nonceSize then .error .tooShort
  else
    match Aead.unseal? key (bytes.take nonceSize) (bytes.drop nonceSize) with
    | none => .error .undecryptable
    | some message => textOfBytes message

theorem decodeSealed_of_coded {key : List UInt8} {text : String} {coded : List Char}
    (h : (Crypter.sealed key).Coded text coded) :
    decodeSealed key text = bytesOfText coded >>= openBytes key := by
  change text.toList = '1' :: '-' :: coded at h
  unfold decodeSealed
  rw [h]
  simp only [bind, Except.bind, throw, throwThe, MonadExceptOf.throw]
  cases bytesOfText coded with
  | error fault => rfl
  | ok bytes =>
    unfold openBytes
    by_cases hShort : bytes.length < nonceSize
    · exact (if_pos hShort).trans (if_pos hShort).symm
    · exact (if_neg hShort).trans (if_neg hShort).symm

theorem decodeSealed_of_not_coded {key : List UInt8} {text : String}
    (h : ∀ coded, ¬(Crypter.sealed key).Coded text coded) :
    decodeSealed key text = .error .unknownVersion := by
  unfold decodeSealed
  split
  · next coded hText => exact absurd hText (h coded)
  · rfl

theorem bytesOfText_eq_error_iff {coded : List Char} {fault : EncodingFault} :
    bytesOfText coded = .error fault ↔
      ∃ f, Base64.decode .urlSafe (Utf8.encode coded) = .error f ∧ fault = .base64 f := by
  unfold bytesOfText
  cases Base64.decode .urlSafe (Utf8.encode coded) with
  | ok bytes => simp
  | error f => simp [eq_comm]

theorem textOfBytes_eq_error_iff {message : List UInt8} {fault : EncodingFault} :
    textOfBytes message = .error fault ↔
      ∃ f, Utf8.decode message = .error f ∧ fault = .utf8 f := by
  unfold textOfBytes
  cases Utf8.decode message with
  | ok chars => simp
  | error f => simp [eq_comm]

theorem openBytes_append {key nonce : List UInt8} (hNonce : nonce.length = nonceSize)
    (rest : List UInt8) :
    openBytes key (nonce ++ rest) =
      match Aead.unseal? key nonce rest with
      | none => .error .undecryptable
      | some message => textOfBytes message := by
  unfold openBytes
  rw [if_neg (by rw [List.length_append]; omega), List.take_left' hNonce, List.drop_left' hNonce]

/-! ## Refusals -/

theorem flawed_of_decodePlain {text : String} {fault : EncodingFault}
    (h : decodePlain text = .error fault) : Flawed .plain text fault := by
  unfold decodePlain at h
  cases hBytes : bytesOfText text.toList with
  | error f =>
    rw [hBytes] at h
    obtain rfl : f = fault := Except.error.inj h
    obtain ⟨f, hFault, rfl⟩ := bytesOfText_eq_error_iff.mp hBytes
    exact .coding rfl hFault
  | ok bytes =>
    rw [hBytes] at h
    obtain ⟨f, hFault, rfl⟩ := textOfBytes_eq_error_iff.mp h
    exact .noText (c := .plain) (bytesOfText_eq_ok_iff.mp hBytes) hFault

theorem decodePlain_of_flawed {text : String} {fault : EncodingFault}
    (h : Flawed .plain text fault) : decodePlain text = .error fault := by
  unfold decodePlain
  cases h with
  | coding hCoded hFault =>
    obtain rfl := hCoded
    rw [bytesOfText_eq_error_iff.mpr ⟨_, hFault, rfl⟩]
    rfl
  | noText hHides hFault =>
    rw [bytesOfText_eq_ok_iff.mpr hHides]
    exact textOfBytes_eq_error_iff.mpr ⟨_, hFault, rfl⟩

theorem flawed_of_openBytes {key bytes : List UInt8} {text : String} {fault : EncodingFault}
    (hCoded : (Crypter.sealed key).Coded text (Base64.encode .urlSafe bytes))
    (h : openBytes key bytes = .error fault) : Flawed (.sealed key) text fault := by
  by_cases hShort : bytes.length < nonceSize
  · rw [openBytes, if_pos hShort] at h
    obtain rfl := Except.error.inj h
    exact .noNonce hCoded hShort
  obtain ⟨nonce, rest, hNonce, rfl⟩ :
      ∃ nonce rest, nonce.length = nonceSize ∧ bytes = nonce ++ rest :=
    ⟨bytes.take nonceSize, bytes.drop nonceSize, List.length_take_of_le (Nat.not_lt.mp hShort),
      (List.take_append_drop nonceSize bytes).symm⟩
  rw [openBytes_append hNonce] at h
  split at h
  · next hNone =>
    obtain rfl := Except.error.inj h
    rcases Aead.unseal?_eq_none_iff.mp hNone with hShort | ⟨ciphertext, last, rfl, hLast, hWrong⟩
    · exact .noTag hNonce hCoded hShort
    · exact .wrongTag hNonce hLast hCoded hWrong
  · next message hMessage =>
    obtain ⟨f, hFault, rfl⟩ := textOfBytes_eq_error_iff.mp h
    obtain rfl := Aead.unseal?_eq_some_iff.mp hMessage
    exact .noText ⟨nonce, hNonce, hCoded⟩ hFault

theorem flawed_of_decodeSealed {key : List UInt8} {text : String} {fault : EncodingFault}
    (h : decodeSealed key text = .error fault) : Flawed (.sealed key) text fault := by
  by_cases hVersion : ∃ coded, (Crypter.sealed key).Coded text coded
  · obtain ⟨coded, hCoded⟩ := hVersion
    rw [decodeSealed_of_coded hCoded] at h
    cases hBytes : bytesOfText coded with
    | error f =>
      rw [hBytes] at h
      obtain rfl : f = fault := Except.error.inj h
      obtain ⟨f, hFault, rfl⟩ := bytesOfText_eq_error_iff.mp hBytes
      exact .coding hCoded hFault
    | ok bytes =>
      rw [hBytes] at h
      exact flawed_of_openBytes (bytesOfText_eq_ok_iff.mp hBytes ▸ hCoded) h
  · have hNone : ∀ coded, ¬(Crypter.sealed key).Coded text coded := not_exists.mp hVersion
    obtain rfl := Except.error.inj ((decodeSealed_of_not_coded hNone).symm.trans h)
    exact .version hNone

theorem decodeSealed_of_bytes {key bytes : List UInt8} {text : String}
    (hCoded : (Crypter.sealed key).Coded text (Base64.encode .urlSafe bytes)) :
    decodeSealed key text = openBytes key bytes := by
  rw [decodeSealed_of_coded hCoded, bytesOfText_eq_ok_iff.mpr rfl]
  rfl

theorem decodeSealed_of_flawed {key : List UInt8} {text : String} {fault : EncodingFault}
    (h : Flawed (.sealed key) text fault) : decodeSealed key text = .error fault := by
  cases h with
  | version hNone => exact decodeSealed_of_not_coded hNone
  | coding hCoded hFault =>
    rw [decodeSealed_of_coded hCoded, bytesOfText_eq_error_iff.mpr ⟨_, hFault, rfl⟩]
    rfl
  | noNonce hCoded hShort =>
    rw [decodeSealed_of_bytes hCoded, openBytes, if_pos hShort]
  | noTag hNonce hCoded hShort =>
    rw [decodeSealed_of_bytes hCoded, openBytes_append hNonce,
      Aead.unseal?_eq_none_iff.mpr (.inl hShort)]
  | wrongTag hNonce hTag hCoded hWrong =>
    rw [decodeSealed_of_bytes hCoded, openBytes_append hNonce,
      Aead.unseal?_eq_none_iff.mpr (.inr ⟨_, _, rfl, hTag, hWrong⟩)]
  | noText hHides hFault =>
    obtain ⟨nonce, hNonce, hCoded⟩ := hHides
    rw [decodeSealed_of_bytes hCoded, openBytes_append hNonce, Aead.unseal?_sealText]
    exact textOfBytes_eq_error_iff.mpr ⟨_, hFault, rfl⟩

/-- The text of a hidden form, or what is wrong with it. -/
def read (c : Crypter) (text : String) : Except EncodingFault String :=
  match c with
  | .plain => decodePlain text
  | .sealed key => decodeSealed key text

theorem decrypt_eq_mapError (c : Crypter) (text : String) :
    c.decrypt text = (c.read text).mapError .invalidEncoding := by
  cases c with
  | plain =>
    simp only [decrypt, read]
    cases decodePlain text with
    | error fault => rfl
    | ok message => rfl
  | «sealed» key =>
    simp only [decrypt, read]
    cases decodeSealed key text with
    | error fault => rfl
    | ok message => rfl

theorem read_eq_error_iff {c : Crypter} {text : String} {fault : EncodingFault} :
    c.read text = .error fault ↔ c.Flawed text fault := by
  cases c with
  | plain => exact ⟨flawed_of_decodePlain, decodePlain_of_flawed⟩
  | «sealed» key => exact ⟨flawed_of_decodeSealed, decodeSealed_of_flawed⟩

/-- A text is refused as an invalid encoding or not at all, and for what is wrong with it. -/
theorem decrypt_eq_error_iff {c : Crypter} {text : String} {e : CodecError} :
    c.decrypt text = .error e ↔ ∃ fault, e = .invalidEncoding fault ∧ c.Flawed text fault := by
  rw [decrypt_eq_mapError]
  constructor
  · intro h
    cases hRead : c.read text with
    | ok message =>
      rw [hRead] at h
      cases h
    | error fault =>
      rw [hRead] at h
      exact ⟨fault, (Except.error.inj h).symm, read_eq_error_iff.mp hRead⟩
  · rintro ⟨fault, rfl, hFlawed⟩
    rw [read_eq_error_iff.mpr hFlawed]
    rfl

/-! ## One spelling -/

theorem coded_encrypt (c : Crypter) (nonce : Vector UInt8 nonceSize) (message : String) :
    ∃ bytes, c.Coded (c.encrypt nonce message) (Base64.encode .urlSafe bytes) := by
  cases c with
  | plain => exact ⟨_, String.toList_ofList⟩
  | «sealed» key => exact ⟨_, toList_encrypt_sealed key nonce message⟩

theorem coded_unique {c : Crypter} {text : String} {coded coded' : List Char}
    (h : c.Coded text coded) (h' : c.Coded text coded') : coded = coded' := by
  cases c with
  | plain => exact h.symm.trans h'
  | «sealed» key => exact List.append_cancel_left (h.symm.trans h')

theorem text_unique {c : Crypter} {text text' : String} {coded : List Char}
    (h : c.Coded text coded) (h' : c.Coded text' coded) : text = text' := by
  cases c with
  | plain => exact String.toList_inj.mp (h.trans h'.symm)
  | «sealed» key => exact String.toList_inj.mp (h.trans h'.symm)

/-- A text that is decrypted is the only spelling of its bytes that is: any other is no Base64. -/
theorem decrypt_of_respells {c : Crypter} {text other message : String}
    (hRead : c.decrypt text = .ok message) (hSpells : c.Respells text other) (hOther : other ≠ text) :
    ∃ fault, c.decrypt other = .error (.invalidEncoding (.base64 fault)) := by
  obtain ⟨coded, coded', hCoded, hCoded', hSame⟩ := hSpells
  obtain ⟨nonce, rfl⟩ := decrypt_eq_ok_iff.mp hRead
  obtain ⟨bytes, hBytes⟩ := c.coded_encrypt nonce message
  obtain rfl := coded_unique hCoded hBytes
  cases hDecode : Base64.decode .urlSafe (Utf8.encode coded') with
  | error fault =>
    exact ⟨fault, decrypt_eq_error_iff.mpr ⟨_, rfl, .coding hCoded' hDecode⟩⟩
  | ok bytes' =>
    -- what is Base64 is read alike by the forgiving reader, so that it spells the same bytes
    obtain rfl : coded' = Base64.encode .urlSafe bytes' :=
      Utf8.encode_injective (Base64.decode_eq_ok_iff.mp hDecode)
    rw [Base64.loosely_encode, Base64.loosely_encode] at hSame
    obtain rfl := hSame
    exact absurd (text_unique hCoded' hCoded) hOther

/-- The nonce is known by the text that it made. -/
theorem nonce_of_encrypt {key : List UInt8} {nonce nonce' : Vector UInt8 nonceSize}
    {message message' : String}
    (h : (Crypter.sealed key).encrypt nonce message = (Crypter.sealed key).encrypt nonce' message') :
    nonce = nonce' := by
  have hLists := String.toList_inj.mpr h
  rw [toList_encrypt_sealed, toList_encrypt_sealed] at hLists
  have hBytes := Base64.encode_injective (List.cons.inj (List.cons.inj hLists).2).2
  have hSize : nonce.toList.length = nonce'.toList.length := by simp
  exact Vector.toList_inj.mp (List.append_inj hBytes hSize).1

/-- Both crypters decrypt exactly what they can have encrypted. Under the key of a secret a text is
decrypted if some nonce makes it out of the result, and then one nonce only; a coded text is decrypted if
it is the coded form of the result. With either crypter, and with every key and nonce, what was encrypted
is decrypted. Of a text that is decrypted no other spelling is: neither one with padding, nor one with
bits left over, nor one in the other alphabet. What is refused is refused as an invalid encoding, and
exactly for a wrong version, for what is no Base64, for bytes without room for a nonce or for a tag, for
a wrong tag, and for a message that is not UTF-8. -/
theorem decrypts_exactly_encrypted (secret : List UInt8) (nonce : Vector UInt8 nonceSize)
    (text message : String) :
    ((ofSecret secret).decrypt text = .ok message ↔
      ∃! nonce, (ofSecret secret).encrypt nonce message = text) ∧
    (Crypter.plain.decrypt text = .ok message ↔ Crypter.plain.encrypt nonce message = text) ∧
    ∀ c : Crypter,
      c.decrypt (c.encrypt nonce message) = .ok message ∧
      (c.decrypt text = .ok message → ∀ other, c.Respells text other → other ≠ text →
        ∃ fault, c.decrypt other = .error (.invalidEncoding (.base64 fault))) ∧
      ∀ e, c.decrypt text = .error e ↔ ∃ fault, e = .invalidEncoding fault ∧ c.Flawed text fault := by
  refine ⟨?_, ?_, fun c => ⟨?_, ?_, fun e => decrypt_eq_error_iff⟩⟩
  · rw [decrypt_eq_ok_iff]
    constructor
    · rintro ⟨nonce, rfl⟩
      exact ⟨nonce, rfl, fun other hOther => nonce_of_encrypt hOther⟩
    · rintro ⟨nonce, hText, -⟩
      exact ⟨nonce, hText.symm⟩
  · rw [decrypt_eq_ok_iff]
    constructor
    · rintro ⟨_, rfl⟩
      rfl
    · rintro rfl
      exact ⟨nonce, rfl⟩
  · exact c.decrypt_encrypt nonce message
  · intro hRead other hSpells hOther
    exact decrypt_of_respells hRead hSpells hOther

/-- The text `~~~a` is coded as `fn5-YQ`. The same bytes in the other alphabet, with a bit left over and
with padding are refused. -/
theorem decrypts_exactly_encrypted_one_spelling :
    Crypter.plain.decrypt "fn5-YQ" = .ok "~~~a" ∧
      ∀ other ∈ ["fn5+YQ", "fn5-YR", "fn5-YQ=="], ∃ fault,
        Crypter.plain.decrypt other = .error (.invalidEncoding (.base64 fault)) := by
  obtain ⟨-, hPlain, hAll⟩ :=
    decrypts_exactly_encrypted [] (Vector.replicate nonceSize 0) "fn5-YQ" "~~~a"
  have hRead : Crypter.plain.decrypt "fn5-YQ" = .ok "~~~a" := hPlain.mpr (by decide)
  obtain ⟨-, hOnly, -⟩ := hAll .plain
  refine ⟨hRead, fun other hOther => ?_⟩
  have hSpells : other ≠ "fn5-YQ" ∧
      Base64.loosely other.toList = Base64.loosely "fn5-YQ".toList := by
    revert other
    decide
  exact hOnly hRead other ⟨_, _, rfl, rfl, hSpells.2⟩ hSpells.1

end Crypter

end WebLogin
