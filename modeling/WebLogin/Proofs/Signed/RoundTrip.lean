import WebLogin.Proofs.Authenticator.Records
import WebLogin.Proofs.Json.Value
import WebLogin.Proofs.Signed.Codec
import WebLogin.Surroundings

/-!
# Records through a wire value

What is written with a signed codec is read back with the same codec, whatever the surroundings
answer while it is written, and so whatever the random bytes are.

* `decode_encodeFresh`: the record that a form reads of its own text.
* `encodeFresh_round_trip`: the records of the cookie and of the session come back with their times in
  whole seconds, and a second time they come back unchanged; a JSON value comes back as it is exactly
  if it is not too deep.
-/

namespace WebLogin.SignedCodec

variable {δ σ : Type}

/-- In every run the wire value of a record is decoded as its form reads its own text. -/
theorem decode_encodeFresh {α : Type} (c : SignedCodec)
    (answer : (q : Query δ) → σ → q.Answer × σ) (s : σ) {form : Json.Form α} {a b : α}
    (hReads : form.parse? (form.render a) = some b) :
    c.decode form ((c.encodeFresh form a).run answer s).1 = .ok b := by
  obtain ⟨sealing, signing, hRaw⟩ := c.run_encodeFresh answer form a s
  rw [hRaw, decode_wire_eq, hReads]

/-- A value is read back from its wire value unless it is too deep. -/
theorem decode_value (c : SignedCodec) (answer : (q : Query δ) → σ → q.Answer × σ) (s : σ)
    {v : Json} (hExact : v.Exact) (hCanonical : v.Canonical) :
    c.decode Json.Form.value ((c.encodeFresh Json.Form.value v).run answer s).1 =
      if (Json.Tree.ofValue v).depth < 128 then .ok v else .error (.invalidFormat .json) := by
  have hParse : Json.Form.value.parse? (Json.Form.value.render v) =
      if (Json.Tree.ofValue v).depth ≤ Json.greatestDepth then some v else none :=
    Json.parse?_render_eq hExact hCanonical
  obtain ⟨sealing, signing, hRaw⟩ := c.run_encodeFresh answer Json.Form.value v s
  rw [hRaw, decode_wire_eq, hParse]
  rcases Nat.lt_or_ge (Json.Tree.ofValue v).depth 128 with hShallow | hDeep
  · have hDepth : (Json.Tree.ofValue v).depth ≤ Json.greatestDepth := Nat.le_of_lt_succ hShallow
    rw [if_pos hDepth, if_pos hShallow]
  · have hDepth : ¬(Json.Tree.ofValue v).depth ≤ Json.greatestDepth := Nat.not_le.mpr hDeep
    rw [if_neg hDepth, if_neg (Nat.not_lt.mpr hDeep)]

/-- What is written is read back, under every key, pepper and crypter and with all random bytes. A
record of a cookie or of a session loses the parts of a second of its times and nothing else, and
loses no more when it is written again. A value whose numbers are integers of 64 bits and whose
objects have their keys in order loses nothing, as long as fewer than 128 arrays and objects lie in
one another; a deeper one is not read. -/
theorem encodeFresh_round_trip (c : SignedCodec) (answer : (q : Query δ) → σ → q.Answer × σ)
    (s : σ) :
    (∀ a : CookieAuthenticator,
      c.decode Json.Form.cookieAuthenticator
        ((c.encodeFresh Json.Form.cookieAuthenticator a).run answer s).1 = .ok a.fromCookie ∧
      a.Truncates (fun d e => Option.Rel Duration.CutsTo d.maxAge e.maxAge ∧
        e.fingerprint = d.fingerprint) a.fromCookie ∧
      a.fromCookie.fromCookie = a.fromCookie) ∧
    (∀ a : SessionAuthenticator,
      c.decode Json.Form.sessionAuthenticator
        ((c.encodeFresh Json.Form.sessionAuthenticator a).run answer s).1 = .ok a.fromSession ∧
      a.Truncates (fun d e => e = d) a.fromSession ∧
      a.fromSession.fromSession = a.fromSession) ∧
    ∀ v : Json, v.Exact → v.Canonical →
      c.decode Json.Form.value ((c.encodeFresh Json.Form.value v).run answer s).1 =
        if (Json.Tree.ofValue v).depth < 128 then .ok v else .error (.invalidFormat .json) := by
  refine ⟨fun a => ⟨?_, a.truncates_fromCookie, a.fromCookie_fromCookie⟩,
    fun a => ⟨?_, a.truncates_fromSession, a.fromSession_fromSession⟩, fun v hExact hCanonical => ?_⟩
  · exact c.decode_encodeFresh answer s (Json.Form.reads_cookieAuthenticator a).parse?_render
  · exact c.decode_encodeFresh answer s (Json.Form.reads_sessionAuthenticator a).parse?_render
  · exact c.decode_value answer s hExact hCanonical

/-- A value with the least and the greatest integer, with a list in it, and with characters that are
escaped. -/
theorem encodeFresh_round_trip_of_nested :
    let c : SignedCodec := ⟨⟨List.replicate 32 0, "", by decide⟩, .sealed []⟩
    let v : Json := .object [("a\n", .array [.ofInt (-0x8000000000000000), .null]),
      ("b", .ofInt 0xffffffffffffffff), ("c", .string "\"é")]
    v.Exact ∧ v.Canonical ∧
      c.decode Json.Form.value ((c.encodeFresh Json.Form.value v).run Surroundings.answer
        ({} : Surroundings Unit)).1 = .ok v := by
  intro c v
  have hExact : v.Exact :=
    ⟨⟨⟨by decide, by decide⟩, trivial, trivial⟩, ⟨by decide, by decide⟩, trivial, trivial⟩
  have hCanonical : v.Canonical := ⟨by decide, ⟨trivial, trivial, trivial⟩, trivial, trivial, trivial⟩
  have hRead := (c.encodeFresh_round_trip Surroundings.answer ({} : Surroundings Unit)).2.2 v hExact
    hCanonical
  rw [if_pos (by decide)] at hRead
  exact ⟨hExact, hCanonical, hRead⟩

end WebLogin.SignedCodec
