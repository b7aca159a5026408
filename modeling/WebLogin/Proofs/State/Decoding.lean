import WebLogin.Proofs.Json.Grammar
import WebLogin.Proofs.State.Fragment

/-!
# Payloads are read in one way

A fragment has one dash and no dot. So a payload that is joined from fragments is cut and read back
as just these, and no other list of fragments is joined to it. What is read need not have been
written here, since JSON has many spellings; but both of its parts are Base64 as it is written.

* `count_dash_encode`, `separator_notMem_encode`: the separators of a written fragment.
* `mapM_decode_join`, `join_injOn`: payloads of fragments whose data are spelled by their text.
* `decode_eq_ok_iff`: the texts that are read as a fragment.
* `Malformed`: how the form of a text fails to be one. `Malformed.refused`: such texts are refused.
* `uniquely_decodable`: all of it.
-/

namespace WebLogin.StateFragment

/-! ## Written fragments -/

theorem count_dash_encode (f : StateFragment) : (encode f).count '-' = 1 := by
  have hPart (text : String) : (encodePart text).count '-' = 0 :=
    List.count_eq_zero.mpr (notMem_encodePart List.mem_cons_self text)
  rw [encode, List.count_append, List.count_cons_self, hPart, hPart]

/-- Every fragment of the list has data that its text spells. -/
def Spelled (fragments : List StateFragment) : Prop := ∀ f ∈ fragments, f.data.Spelled

theorem mapM_decode_join {fragments : List StateFragment} (hSome : fragments ≠ [])
    (hSpelled : Spelled fragments) : (split (join fragments)).mapM decode = .ok fragments := by
  have hEach : (fragments.map encode).mapM decode = .ok (fragments.map fun f => f) :=
    Except.mapM_map_eq_ok fun f hf => decode_encode (hSpelled f hf)
  rw [split_join hSome, hEach, List.map_id']

/-- Two lists that are joined to one payload are both what is read from it. -/
theorem join_injOn {fragments others : List StateFragment} (hSome : fragments ≠ [])
    (hOthers : others ≠ []) (hSpelled : Spelled fragments) (hOthersSpelled : Spelled others)
    (hJoin : join fragments = join others) : fragments = others := by
  have hRead := mapM_decode_join hSome hSpelled
  rw [hJoin, mapM_decode_join hOthers hOthersSpelled] at hRead
  exact (Except.ok.inj hRead).symm

/-! ## Texts that are read -/

/-- Only one text is read as a part: the Base64 that is written for it. -/
theorem decodePart_eq_ok_iff {part : List Char} {text : String} :
    decodePart part = .ok text ↔ part = encodePart text :=
  ⟨eq_encodePart, fun h => h ▸ decodePart_encodePart text⟩

/-- A text with a dash is a fragment exactly if both parts are and the second is JSON. -/
theorem decode_cut {id data : List Char} (hDash : '-' ∉ id) (f : StateFragment) :
    decode (id ++ '-' :: data) = .ok f ↔
      id = encodePart f.id ∧ ∃ json, data = encodePart json ∧ Json.parse? json = some f.data := by
  have hCut : Text.cutFirst? '-' (id ++ '-' :: data) = some (id, data) :=
    Text.cutFirst?_eq_some_iff.mpr ⟨rfl, hDash⟩
  simp only [decode, hCut, Except.bind_eq_ok_iff, decodePart_eq_ok_iff]
  constructor
  · rintro ⟨name, hId, json, hData, hRead⟩
    cases hJson : Json.parse? json with
    | none => rw [hJson] at hRead; cases hRead
    | some value =>
      rw [hJson] at hRead
      cases hRead
      exact ⟨hId, json, hData, hJson⟩
  · rintro ⟨hId, json, hData, hJson⟩
    refine ⟨f.id, hId, json, hData, ?_⟩
    rw [hJson]
    rfl

theorem decode_eq_ok_iff {text : List Char} {f : StateFragment} :
    decode text = .ok f ↔
      ∃ json, text = encodePart f.id ++ '-' :: encodePart json ∧ Json.parse? json = some f.data := by
  have hNoDash : '-' ∉ encodePart f.id := notMem_encodePart List.mem_cons_self f.id
  constructor
  · intro hRead
    obtain ⟨data, rfl⟩ := exists_of_decode hRead
    obtain ⟨-, json, rfl, hJson⟩ := (decode_cut hNoDash f).mp hRead
    exact ⟨json, rfl, hJson⟩
  · rintro ⟨json, rfl, hJson⟩
    exact (decode_cut hNoDash f).mpr ⟨rfl, json, rfl, hJson⟩

/-! ## Texts that are refused -/

/-- How the form of a text fails to be a fragment. Its parts stand before and after its first dash. -/
inductive Malformed : List Char → Prop where
  | noDash {text : List Char} (hDash : '-' ∉ text) : Malformed text
  | notBase64 {id data part : List Char} (hDash : '-' ∉ id) (hPart : part ∈ [id, data])
      (hNot : ∀ bytes, part ≠ Base64.encode .standard bytes) : Malformed (id ++ '-' :: data)
  | notUtf8 {id data : List Char} {bytes : List UInt8} (hDash : '-' ∉ id)
      (hPart : Base64.encode .standard bytes ∈ [id, data])
      (hNot : ∀ text : String, bytes ≠ Utf8.bytes text) : Malformed (id ++ '-' :: data)
  | notJson {id : List Char} {json : String} (hDash : '-' ∉ id)
      (hNot : ¬Json.IsText json.toList) : Malformed (id ++ '-' :: encodePart json)

theorem encodePart_injective {text other : String} (h : encodePart text = encodePart other) :
    text = other := by
  have hRead := decodePart_encodePart text
  rw [h, decodePart_encodePart] at hRead
  exact (Except.ok.inj hRead).symm

/-- Both parts of a text that is read are written for some text. -/
theorem exists_of_mem_parts {id data part : List Char} {f : StateFragment} (hDash : '-' ∉ id)
    (hRead : decode (id ++ '-' :: data) = .ok f) (hPart : part ∈ [id, data]) :
    ∃ text, part = encodePart text := by
  obtain ⟨hId, json, hData, -⟩ := (decode_cut hDash f).mp hRead
  rcases List.mem_pair.mp hPart with rfl | rfl
  · exact ⟨f.id, hId⟩
  · exact ⟨json, hData⟩

theorem Malformed.refused {text : List Char} (h : Malformed text) :
    ∃ fault, decode text = .error fault := by
  apply Except.exists_error
  intro f hRead
  cases h with
  | noDash hDash =>
    obtain ⟨data, rfl⟩ := exists_of_decode hRead
    exact hDash (by simp)
  | notBase64 hDash hPart hNot =>
    obtain ⟨text, hText⟩ := exists_of_mem_parts hDash hRead hPart
    exact hNot (Utf8.bytes text) hText
  | notUtf8 hDash hPart hNot =>
    obtain ⟨text, hText⟩ := exists_of_mem_parts hDash hRead hPart
    exact hNot text (Base64.encode_injective hText)
  | notJson hDash hNot =>
    obtain ⟨-, json, hData, hJson⟩ := (decode_cut hDash f).mp hRead
    rw [encodePart_injective hData] at hNot
    exact hNot (Json.isText_of_parse? hJson)

/-! ## The whole coding -/

/-- The payload of a state can be read in one way only. -/
theorem uniquely_decodable :
    (∀ f, (encode f).count '-' = 1 ∧ separator ∉ encode f) ∧
    (∀ f : StateFragment, f.data.Spelled → decode (encode f) = .ok f) ∧
    (∀ fragments, fragments ≠ [] → Spelled fragments →
      (split (join fragments)).mapM decode = .ok fragments) ∧
    (∀ fragments others, fragments ≠ [] → others ≠ [] → Spelled fragments → Spelled others →
      fragments ≠ others → join fragments ≠ join others) ∧
    (∀ text f, decode text = .ok f ↔
      ∃ json, text = encodePart f.id ++ '-' :: encodePart json ∧ Json.parse? json = some f.data) ∧
    ∀ text, Malformed text → ∃ fault, decode text = .error fault :=
  ⟨fun f => ⟨f.count_dash_encode, f.separator_notMem_encode⟩, fun _ => decode_encode,
    fun _ => mapM_decode_join,
    fun _ _ hSome hOthers hSpelled hOthersSpelled hNe hJoin =>
      hNe (join_injOn hSome hOthers hSpelled hOthersSpelled hJoin),
    fun _ _ => decode_eq_ok_iff, fun _ => Malformed.refused⟩

/-- A token and an item without an identifier, in either order; the same item with a blank in its
JSON, and with a text that is blank altogether. -/
theorem uniquely_decodable_of_token :
    let token : StateFragment := ⟨"csrf-state", .object [("token", .string "t")]⟩
    let unnamed : StateFragment := ⟨"", .ofInt (-1)⟩
    decode (encode token) = .ok token ∧
      (split (join [token, unnamed])).mapM decode = .ok [token, unnamed] ∧
      join [token, unnamed] ≠ join [unnamed, token] ∧
      decode (encodePart "" ++ '-' :: encodePart " -1") = .ok unnamed ∧
      ∃ fault, decode (encodePart "" ++ '-' :: encodePart " ") = .error fault := by
  intro token unnamed
  have hToken : token.data.Spelled :=
    ⟨⟨trivial, trivial⟩, ⟨List.pairwise_singleton _ _, trivial, trivial⟩, by decide⟩
  have hUnnamed : unnamed.data.Spelled := ⟨⟨by decide, by decide⟩, trivial, by decide⟩
  have hBoth : Spelled [token, unnamed] := by simp [Spelled, hToken, hUnnamed]
  have hTurned : Spelled [unnamed, token] := by simp [Spelled, hToken, hUnnamed]
  have hDiffer : [token, unnamed] ≠ [unnamed, token] := by simp [token, unnamed]
  have hBlank : ¬Json.IsText " ".toList :=
    Json.not_isText_of_isBlanks fun c hc => List.mem_singleton.mp hc ▸ rfl
  obtain ⟨-, hOne, hAll, hApart, hExact, hRefused⟩ := uniquely_decodable
  exact ⟨hOne token hToken, hAll _ (by simp) hBoth,
    hApart _ _ (by simp) (by simp) hBoth hTurned hDiffer, (hExact _ unnamed).mpr ⟨" -1", rfl, rfl⟩,
    hRefused _ (.notJson (by decide) hBlank)⟩

end WebLogin.StateFragment
