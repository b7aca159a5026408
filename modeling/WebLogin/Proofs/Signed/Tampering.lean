import WebLogin.Proofs.Signed.Alteration
import WebLogin.Proofs.Signed.Signer

/-!
# What an altered message would take

A message with an altered byte, or one checked under another pepper, is accepted only if the tag has
a collision, and the two colliding inputs can be told. No case is made of what the new byte is: it
may be a dash and so move the ends of the pieces, since `extract_eq_ok_iff` says what an accepted
message must be whatever its pieces are.

* `tagInput?_of_accepted`: the input that the tag of an accepted message covers.
* `accepted_alteration`: an altered message that is accepted still has its first dashes and its tag
  where they were.
* `tampering_needs_collision`: every alteration and every other pepper.
-/

namespace WebLogin.Signer

open Text

variable {s : Signer}

/-- The bytes that the tag of a message has to cover. -/
def tagInput? (s : Signer) (message : String) : Option (List UInt8) :=
  match (splitAtMost '-' 3 message.toList).map String.ofList with
  | [_, _, nonce, data] => some (Utf8.bytes (s.covered nonce data))
  | _ => none

/-- The part of a message before its nonce: the version, the tag and a dash behind each. -/
def head (s : Signer) (nonce data : String) : String := version ++ "-" ++ s.tag nonce data ++ "-"

/-! ## Messages in two parts -/

/-- The input of the tag that belongs to the bytes behind it in a message. -/
def inputOf (s : Signer) (body : List UInt8) : List UInt8 :=
  Utf8.bytes s.pepper ++ body ++ Utf8.bytes s.pepper

/-- The bytes of the part before the nonce that belong to the bytes behind it. -/
def headOf (s : Signer) (body : List UInt8) : List UInt8 :=
  Utf8.bytes "1-" ++ Utf8.encode (Hex.encode (Hmac.tag s.key (s.inputOf body))) ++ Utf8.bytes "-"

theorem bytes_covered (s : Signer) (nonce data : String) :
    Utf8.bytes (s.covered nonce data) = s.inputOf (Utf8.bytes (nonce ++ "-" ++ data)) := by
  simp only [covered, inputOf, Utf8.bytes_append, List.append_assoc]

theorem bytes_head (s : Signer) (nonce data : String) :
    Utf8.bytes (s.head nonce data) = s.headOf (Utf8.bytes (nonce ++ "-" ++ data)) := by
  have hVersion : Utf8.bytes version ++ Utf8.bytes "-" = Utf8.bytes "1-" := by decide
  have hTag : Utf8.bytes (s.tag nonce data) =
      Utf8.encode (Hex.encode (Hmac.tag s.key (Utf8.bytes (s.covered nonce data)))) := by
    rw [tag, Hex.text, Utf8.bytes, String.toList_ofList]
  simp only [head, headOf, Utf8.bytes_append, hVersion, hTag, bytes_covered]

theorem message_eq_head (s : Signer) (nonce data : String) :
    s.message nonce data = s.head nonce data ++ (nonce ++ "-" ++ data) := by
  simp only [message, head, String.append_assoc]

theorem bytes_message (s : Signer) (nonce data : String) :
    Utf8.bytes (s.message nonce data) =
      s.headOf (Utf8.bytes (nonce ++ "-" ++ data)) ++ Utf8.bytes (nonce ++ "-" ++ data) := by
  rw [message_eq_head, Utf8.bytes_append, bytes_head]

/-- The part before the nonce is always of one length: the tag has 64 digits. -/
theorem length_headOf (s : Signer) (body : List UInt8) : (s.headOf body).length = 67 := by
  have hDigits : ∀ c ∈ Hex.encode (Hmac.tag s.key (s.inputOf body)), c.toNat < 128 := by
    intro c hc
    have hAscii : Hex.digits.all (fun d => d.toNat < 128) = true := by decide
    exact of_decide_eq_true (List.all_eq_true.mp hAscii c (Hex.mem_digits_of_mem_encode hc))
  have hVersion : (Utf8.bytes "1-").length = 2 := by decide
  have hDash : (Utf8.bytes "-").length = 1 := by decide
  rw [headOf, Utf8.encode_ascii hDigits, List.length_append, List.length_append, List.length_map,
    Hex.length_encode, Hmac.length_tag, hVersion, hDash]

theorem tag_eq_of_headOf {s s' : Signer} {body body' : List UInt8}
    (hSame : s.headOf body = s'.headOf body') :
    Hmac.tag s.key (s.inputOf body) = Hmac.tag s'.key (s'.inputOf body') := by
  have hInner := List.append_cancel_left (List.append_cancel_right hSame)
  exact Hex.encode_injective (Utf8.encode_injective hInner)

theorem inputOf_injective (s : Signer) {body body' : List UInt8}
    (hSame : s.inputOf body = s.inputOf body') : body = body' :=
  List.append_cancel_left (List.append_cancel_right hSame)

/-- Under different peppers the inputs differ, since each begins with its pepper and the two have
one length only if the peppers have. -/
theorem inputOf_ne_of_pepper_ne {s s' : Signer} (hPepper : s'.pepper ≠ s.pepper)
    (body : List UInt8) : s.inputOf body ≠ s'.inputOf body := by
  intro hSame
  have hLength := congrArg List.length hSame
  simp only [inputOf, List.length_append] at hLength
  rw [inputOf, inputOf, List.append_assoc, List.append_assoc] at hSame
  have hBytes := (List.append_inj hSame (by omega)).1
  exact hPepper (String.toList_inj.mp (Utf8.encode_injective hBytes.symm))

/-! ## Accepted messages -/

theorem tagInput?_message (s s' : Signer) {nonce data : String} (hNonce : '-' ∉ nonce.toList) :
    s'.tagInput? (s.message nonce data) =
      some (s'.inputOf (Utf8.bytes (nonce ++ "-" ++ data))) := by
  rw [tagInput?, s.splitAtMost_message hNonce, ← bytes_covered]
  simp only [List.map_cons, List.map_nil, String.ofList_toList]

/-- An accepted message is cut into the part before its nonce and what that part covers. -/
theorem tagInput?_of_accepted {message data : String} (hAccepted : s.extract message = .ok data) :
    ∃ body, Utf8.bytes message = s.headOf body ++ body ∧
      ∀ s' : Signer, s'.tagInput? message = some (s'.inputOf body) := by
  obtain ⟨nonce, hNonce, rfl⟩ := extract_eq_ok_iff.mp hAccepted
  exact ⟨Utf8.bytes (nonce ++ "-" ++ data), s.bytes_message nonce data,
    fun s' => s.tagInput?_message s' hNonce⟩

/-- An altered message that is accepted: the altered byte is behind the tag, and the tag is one of
two inputs of the same length. -/
theorem accepted_alteration {message altered data data' : String} {i : Nat}
    (hMessage : s.extract message = .ok data) (hAltered : Utf8.Altered i message altered)
    (hAccepted : s.extract altered = .ok data') :
    67 ≤ i ∧ ∃ input input', s.tagInput? message = some input ∧ s.tagInput? altered = some input' ∧
      input'.length = input.length ∧ Hmac.Collision s.key input' input := by
  obtain ⟨body, hBytes, hInput⟩ := tagInput?_of_accepted hMessage
  obtain ⟨body', hBytes', hInput'⟩ := tagInput?_of_accepted hAccepted
  obtain ⟨hBehind, hDiffer, hLength, hHead⟩ :=
    hAltered.of_frame_body s.length_headOf hBytes hBytes'
  refine ⟨hBehind, _, _, hInput s, hInput' s, ?_, ?_, tag_eq_of_headOf hHead⟩
  · simp only [inputOf, List.length_append, hLength]
  · exact fun hSame => hDiffer (s.inputOf_injective hSame)

/-- One message that is accepted under two peppers. -/
theorem accepted_twice {other : Signer} {message data data' : String} (hKey : other.key = s.key)
    (hPepper : other.pepper ≠ s.pepper) (hAccepted : s.extract message = .ok data)
    (hOther : other.extract message = .ok data') :
    ∃ input input', s.tagInput? message = some input ∧ other.tagInput? message = some input' ∧
      Hmac.Collision s.key input input' := by
  obtain ⟨body, hBytes, hInput⟩ := tagInput?_of_accepted hAccepted
  obtain ⟨body', hBytes', hInput'⟩ := tagInput?_of_accepted hOther
  obtain ⟨hHead, rfl⟩ := List.append_inj (hBytes.symm.trans hBytes')
    (by rw [length_headOf, length_headOf])
  refine ⟨_, _, hInput s, hInput other, inputOf_ne_of_pepper_ne hPepper body, ?_⟩
  have hTag := tag_eq_of_headOf hHead
  rwa [hKey] at hTag

/-- Whatever byte of a signed message is altered, in whatever way that leaves it a text, the message
is refused, or the tag has a collision: of the input that the message had and of the one that it has
now, which is as long. An alteration of the version, of the tag or of one of the first two dashes is
refused in any case. And a message is refused under one of two peppers, or the inputs that it has
under the two collide. -/
theorem tampering_needs_collision (s : Signer) :
    (∀ (nonce : Vector UInt8 16) (data altered : String) (i : Nat),
      Utf8.Altered i (s.sign nonce data) altered →
      (s.extract altered = .error .invalidSignature ∨
        ∃ input input', s.tagInput? (s.sign nonce data) = some input ∧
          s.tagInput? altered = some input' ∧ input'.length = input.length ∧
          Hmac.Collision s.key input' input) ∧
      (i < (Utf8.bytes (version ++ "-" ++ s.tag (Hex.text nonce.toList) data ++ "-")).length →
        s.extract altered = .error .invalidSignature)) ∧
    ∀ other : Signer, other.key = s.key → other.pepper ≠ s.pepper → ∀ message,
      s.extract message = .error .invalidSignature ∨
      other.extract message = .error .invalidSignature ∨
      ∃ input input', s.tagInput? message = some input ∧ other.tagInput? message = some input' ∧
        Hmac.Collision s.key input input' := by
  constructor
  · intro nonce data altered i hAltered
    have hLength : (Utf8.bytes (s.head (Hex.text nonce.toList) data)).length = 67 := by
      rw [bytes_head, length_headOf]
    rcases s.extract_cases altered with ⟨data', hAccepted⟩ | hRefused
    · obtain ⟨hBehind, hCollision⟩ :=
        accepted_alteration (s.extract_sign nonce data) hAltered hAccepted
      refine ⟨.inr hCollision, ?_⟩
      intro hBefore
      exact absurd (hLength ▸ hBefore) (Nat.not_lt.mpr hBehind)
    · exact ⟨.inl hRefused, fun _ => hRefused⟩
  · intro other hKey hPepper message
    rcases s.extract_cases message with ⟨data, hAccepted⟩ | hRefused
    · rcases other.extract_cases message with ⟨data', hOther⟩ | hRefused
      · exact .inr (.inr (accepted_twice hKey hPepper hAccepted hOther))
      · exact .inr (.inl hRefused)
    · exact .inl hRefused

/-! ## An instance -/

theorem altered_version (s : Signer) (nonce data : String) :
    Utf8.Altered 0 (s.message nonce data)
      (String.ofList ('2' :: (s.message nonce data).toList.drop 1)) := by
  have hMessage : s.message nonce data =
      String.ofList ([] ++ '1' :: (s.message nonce data).toList.drop 1) := by
    rw [← String.toList_inj, String.toList_ofList, toList_message]
    rfl
  have hAltered := Utf8.altered_ofList [] (c := '1') (d := '2')
    ((s.message nonce data).toList.drop 1) (by decide) (by decide) (by decide)
  rwa [← hMessage] at hAltered

/-- The first character behind the head of a message is altered. -/
theorem altered_nonce (s : Signer) {nonce data : String} {c d : Char} {rest : List Char}
    (hBody : nonce ++ "-" ++ data = String.ofList (c :: rest)) (hc : c.toNat < 128)
    (hd : d.toNat < 128) (hOther : d ≠ c) :
    Utf8.Altered 67 (s.message nonce data) (s.head nonce data ++ String.ofList (d :: rest)) := by
  have hJoin (e : Char) : s.head nonce data ++ String.ofList (e :: rest) =
      String.ofList ((s.head nonce data).toList ++ e :: rest) := by
    rw [← String.toList_inj, String.toList_append, String.toList_ofList, String.toList_ofList]
  have hLength : (Utf8.encode (s.head nonce data).toList).length = 67 := by
    change (Utf8.bytes (s.head nonce data)).length = 67
    rw [bytes_head, length_headOf]
  rw [message_eq_head, hBody, hJoin, hJoin, ← hLength]
  exact Utf8.altered_ofList _ _ hc hd hOther

/-- The first digit of a nonce becomes a dash, which ends the nonce before it begins; the version of
the message becomes another; and the message is checked under another pepper. -/
theorem tampering_needs_collision_for_dash :
    let s : Signer := ⟨List.replicate 32 0, "", by decide⟩
    let other : Signer := ⟨List.replicate 32 0, "pepper", by decide⟩
    let nonce : Vector UInt8 16 := Vector.replicate 16 0
    let message := s.sign nonce "a-b"
    let dashed := s.head (Hex.text nonce.toList) "a-b" ++ "-0000000000000000000000000000000-a-b"
    let versioned := String.ofList ('2' :: message.toList.drop 1)
    Utf8.Altered 67 message dashed ∧
      (s.extract dashed = .error .invalidSignature ∨
        ∃ input input', s.tagInput? message = some input ∧ s.tagInput? dashed = some input' ∧
          input'.length = input.length ∧ Hmac.Collision s.key input' input) ∧
      Utf8.Altered 0 message versioned ∧ s.extract versioned = .error .invalidSignature ∧
      (s.extract message = .error .invalidSignature ∨
        other.extract message = .error .invalidSignature ∨
        ∃ input input', s.tagInput? message = some input ∧
          other.tagInput? message = some input' ∧ Hmac.Collision s.key input input') := by
  intro s other nonce message dashed versioned
  have hBody : Hex.text nonce.toList ++ "-" ++ "a-b" =
      String.ofList ('0' :: "0000000000000000000000000000000-a-b".toList) := by decide
  have hDashed : Utf8.Altered 67 message dashed :=
    altered_nonce s hBody (d := '-') (by decide) (by decide) (by decide)
  have hVersioned : Utf8.Altered 0 message versioned := altered_version s _ _
  have hInside : 0 < (Utf8.bytes (s.head (Hex.text nonce.toList) "a-b")).length := by
    rw [bytes_head, length_headOf]
    decide
  have hAll := s.tampering_needs_collision
  exact ⟨hDashed, (hAll.1 nonce "a-b" dashed 67 hDashed).1, hVersioned,
    (hAll.1 nonce "a-b" versioned 0 hVersioned).2 hInside, hAll.2 other rfl (by decide) message⟩

end WebLogin.Signer
