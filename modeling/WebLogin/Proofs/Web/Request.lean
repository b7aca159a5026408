import WebLogin.Proofs.Bytes.Utf8
import WebLogin.Web.Fingerprint
import WebLogin.Web.Request

/-!
# Values that a request brings

What is put into a request, and what is found there then.

* `text?_ofString?`, `readable_of_text?`: the text of a header value, if it is readable, and only then.
* `Slot`, `read_withHeader`, `read_withCookie`, `read_withSessionValue`: what is put into a request
  changes what is read in one place.
* `findValue?_eq_some_iff`: what is found in several places, of which one may come before another.
* `findValue?_withHeaderText?`, `cookie?_withCookie`, `sessionValue?_withSessionValue`: looking up
  what was put in.
* `ReadsMetadata`: a way to take fingerprints that looks at headers, target and peer only, as
  `Fingerprint.ofRequest` does.
-/

namespace WebLogin

/-! ## Header values -/

namespace HeaderValue

/-- A text of visible ASCII, space and tab. -/
def Readable (s : String) : Prop := ∀ c ∈ s.toList, 32 ≤ c.toNat ∧ c.toNat < 127 ∨ c.toNat = 9

theorem isReadable_ofNat {c : Char} (h : 32 ≤ c.toNat ∧ c.toNat < 127 ∨ c.toNat = 9) :
    isReadable (UInt8.ofNat c.toNat) = true := by
  have hByte : (UInt8.ofNat c.toNat).toNat = c.toNat :=
    UInt8.toNat_ofNat_of_lt' (show c.toNat < 256 by omega)
  simp only [isReadable, Bool.or_eq_true, Bool.and_eq_true, decide_eq_true_eq, beq_iff_eq]
  rcases h with ⟨hLeast, hLess⟩ | hTab
  · refine .inl ⟨UInt8.le_iff_toNat_le.mpr ?_, UInt8.lt_iff_toNat_lt.mpr ?_⟩
    · rw [hByte]
      exact hLeast
    · rw [hByte]
      exact hLess
  · refine .inr (UInt8.toNat_inj.mp ?_)
    rw [hByte, hTab]
    rfl

theorem isHeaderByte_of_isReadable {b : UInt8} (h : isReadable b = true) :
    isHeaderByte b = true := by
  simp only [isReadable, isHeaderByte, Bool.or_eq_true, Bool.and_eq_true, decide_eq_true_eq,
    bne_iff_ne, beq_iff_eq] at h ⊢
  rcases h with ⟨hLeast, hLess⟩ | hTab
  · refine .inl ⟨hLeast, fun hDelete => ?_⟩
    rw [hDelete] at hLess
    exact absurd hLess (by decide)
  · exact .inr hTab

/-- A readable text makes a header value. -/
theorem exists_ofString? {s : String} (hReadable : Readable s) : ∃ v, ofString? s = some v := by
  have hAscii : Utf8.bytes s = s.toList.map fun c => UInt8.ofNat c.toNat := by
    refine Utf8.encode_ascii fun c hc => ?_
    have hc := hReadable c hc
    omega
  have hBytes : (Utf8.bytes s).all isHeaderByte = true := by
    rw [hAscii, List.all_map, List.all_eq_true]
    exact fun c hc => isHeaderByte_of_isReadable (isReadable_ofNat (hReadable c hc))
  exact ⟨⟨_, hBytes⟩, dif_pos hBytes⟩

theorem bytes_of_ofString? {s : String} {v : HeaderValue} (h : ofString? s = some v) :
    v.bytes = Utf8.bytes s := by
  unfold ofString? ofBytes? at h
  split at h
  · cases h
    rfl
  · cases h

/-- A readable text is read back from the header value that it makes. -/
theorem text?_ofString? {s : String} {v : HeaderValue} (hReadable : Readable s)
    (h : ofString? s = some v) : v.text? = some s := by
  have hv : v.bytes = s.toList.map fun c => UInt8.ofNat c.toNat := by
    refine (bytes_of_ofString? h).trans (Utf8.encode_ascii fun c hc => ?_)
    have hc := hReadable c hc
    omega
  have hAll : v.bytes.all isReadable = true := by
    rw [hv, List.all_map, List.all_eq_true]
    exact fun c hc => isReadable_ofNat (hReadable c hc)
  have hChars : v.bytes.map (fun b => Char.ofNat b.toNat) = s.toList := by
    rw [hv, List.map_map]
    refine (List.map_congr_left fun c hc => ?_).trans (List.map_id _)
    have hc := hReadable c hc
    change Char.ofNat (UInt8.ofNat c.toNat).toNat = c
    rw [UInt8.toNat_ofNat_of_lt' (show c.toNat < 256 by omega), Char.ofNat_toNat]
  rw [text?, if_pos hAll, hChars, String.ofList_toList]

theorem toNat_of_isReadable {b : UInt8} (h : isReadable b = true) :
    32 ≤ b.toNat ∧ b.toNat < 127 ∨ b.toNat = 9 := by
  simp only [isReadable, Bool.or_eq_true, Bool.and_eq_true, decide_eq_true_eq, beq_iff_eq,
    UInt8.le_iff_toNat_le, UInt8.lt_iff_toNat_lt, ← UInt8.toNat_inj] at h
  exact h

/-- What is read of a header value is readable, and it is the text of its bytes. -/
theorem readable_text? {v : HeaderValue} {t : String} (h : v.text? = some t) :
    Readable t ∧ Utf8.bytes t = v.bytes := by
  unfold text? at h
  split at h
  · next hAll =>
    obtain rfl := Option.some.inj h
    have hByte : ∀ b ∈ v.bytes, 32 ≤ b.toNat ∧ b.toNat < 127 ∨ b.toNat = 9 := fun b hb =>
      toNat_of_isReadable (List.all_eq_true.mp hAll b hb)
    have hChar : ∀ b ∈ v.bytes, (Char.ofNat b.toNat).toNat = b.toNat := by
      intro b hb
      have hRange := hByte b hb
      exact Utf8.toNat_ofNat (by omega)
    constructor
    · intro c hc
      rw [String.toList_ofList] at hc
      obtain ⟨b, hb, rfl⟩ := List.mem_map.mp hc
      rw [hChar b hb]
      exact hByte b hb
    · rw [Utf8.bytes, String.toList_ofList, Utf8.encode_ascii fun c hc => ?_, List.map_map]
      · refine (List.map_congr_left fun b hb => ?_).trans (List.map_id _)
        change UInt8.ofNat (Char.ofNat b.toNat).toNat = b
        rw [hChar b hb]
        exact Utf8.eq_ofNat rfl
      · obtain ⟨b, hb, rfl⟩ := List.mem_map.mp hc
        have hRange := hByte b hb
        rw [hChar b hb]
        omega
  · cases h

/-- Only a readable text is read back from the header value that it makes. -/
theorem readable_of_text? {s t : String} {v : HeaderValue} (hv : ofString? s = some v)
    (ht : v.text? = some t) : Readable s ∧ t = s := by
  have hBytes : v.bytes = Utf8.bytes s := bytes_of_ofString? hv
  obtain ⟨hReadable, hText⟩ := readable_text? ht
  -- a text is known by its bytes
  have hSame : t = s := String.toList_inj.mp (Utf8.encode_injective (hText.trans hBytes))
  exact ⟨hSame ▸ hReadable, hSame⟩

end HeaderValue

/-! ## Looking up -/

namespace Request

theorem first?_set (h : Headers) (name : HeaderName) (value : HeaderValue) :
    (h.set name value).first? name = some value := by
  have hErased : (h.erase name).find? (fun e => e.1 = name) = none := by
    rw [List.find?_eq_none]
    intro e he
    have hOther := (List.mem_filter.mp he).2
    simpa using hOther
  simp [Headers.set, Headers.first?, List.find?_append, hErased]

/-- A token that is put into its header is found there, if that is where it is looked for first. -/
theorem findValue?_withHeaderText? {r r' : Request} {name : HeaderName} {text : String}
    {parts : List RequestPart} (hReadable : HeaderValue.Readable text)
    (hParts : parts.head? = some .headers) (h : r.withHeaderText? name text = some r') :
    r'.findValue? name parts = some text := by
  unfold withHeaderText? at h
  obtain ⟨value, hValue, rfl⟩ := Option.map_eq_some_iff.mp h
  have hHeader : (r.withHeader name value).header? name = some text := by
    simp only [header?, withHeader, first?_set, Option.bind_some]
    exact HeaderValue.text?_ofString? hReadable hValue
  cases parts with
  | nil => cases hParts
  | cons part rest =>
    obtain rfl : part = .headers := Option.some.inj hParts
    simp [findValue?, hHeader]

theorem cookie?_withCookie (r : Request) (name value : String) :
    (r.withCookie name value).cookie? name = some value :=
  r.cookies.find?_insert_self name value

/-- The request with what a client holds in place of any other cookie of the name. -/
def bringing (r : Request) (name : String) : Option String → Request
  | some value => r.withCookie name value
  | none => { r with cookies := r.cookies.erase name }

theorem cookie?_bringing (r : Request) (name : String) (held : Option String) :
    (r.bringing name held).cookie? name = held := by
  cases held with
  | none => exact r.cookies.find?_erase_self name
  | some value => exact r.cookie?_withCookie name value

theorem sessionValue?_withSessionValue (r : Request) (key value : String) :
    (r.withSessionValue key value).sessionValue? key = some value :=
  r.session.find?_insert_self key value

/-! ## Places -/

/-- A place of a request where a value stands under a name. -/
inductive Slot where
  | cookie (name : String)
  | session (key : String)
  | header (name : HeaderName)
  | query (name : String)

/-- What is read in a place. -/
def read (r : Request) : Slot → Option String
  | .cookie name => r.cookie? name
  | .session key => r.sessionValue? key
  | .header name => r.header? name
  | .query name => r.query? name

theorem first?_set_of_ne {name other : HeaderName} (hOther : other ≠ name) (h : Headers)
    (value : HeaderValue) : (h.set name value).first? other = h.first? other := by
  have hLast : ¬name = other := fun hName => hOther hName.symm
  have hErased : (h.erase name).find? (fun e => e.1 = other) = h.find? fun e => e.1 = other := by
    rw [Headers.erase, List.find?_filter]
    refine congrArg (h.find? ·) (funext fun e => ?_)
    by_cases hName : e.1 = other
    · simp [hName, hOther]
    · simp [hName]
  rw [Headers.set, Headers.first?, Headers.first?, List.find?_append, hErased]
  simp [hLast]

@[simp] theorem query?_withHeader (r : Request) (name : HeaderName) (value : HeaderValue)
    (parameter : String) : (r.withHeader name value).query? parameter = r.query? parameter := rfl

theorem read_withHeader {name : HeaderName} {slot : Slot} (hSlot : slot ≠ .header name)
    (r : Request) (value : HeaderValue) : (r.withHeader name value).read slot = r.read slot := by
  cases slot with
  | header other =>
    have hOther : other ≠ name := fun hName => hSlot (hName ▸ rfl)
    simp only [read, header?, withHeader, first?_set_of_ne hOther]
  | cookie other => rfl
  | session key => rfl
  | query other => rfl

theorem read_withCookie {name : String} {slot : Slot} (hSlot : slot ≠ .cookie name) (r : Request)
    (value : String) : (r.withCookie name value).read slot = r.read slot := by
  cases slot with
  | cookie other =>
    have hOther : ¬other = name := fun hName => hSlot (hName ▸ rfl)
    simp only [read, cookie?, withCookie, Dictionary.find?_insert, if_neg hOther]
  | session key => rfl
  | header other => rfl
  | query other => rfl

theorem read_withSessionValue {key : String} {slot : Slot} (hSlot : slot ≠ .session key)
    (r : Request) (value : String) : (r.withSessionValue key value).read slot = r.read slot := by
  cases slot with
  | session other =>
    have hOther : ¬other = key := fun hKey => hSlot (hKey ▸ rfl)
    simp only [read, sessionValue?, withSessionValue, Dictionary.find?_insert, if_neg hOther]
  | cookie name => rfl
  | header other => rfl
  | query other => rfl

/-- A text that is the only one a header may give is found in it, unless the query is asked first and has
a value; or it is found in the query. -/
theorem findValue?_eq_some_iff {r : Request} {name : HeaderName} {text : String}
    (hHeader : ∀ other, r.header? name = some other → other = text) (parts : List RequestPart) :
    r.findValue? name parts = some text ↔
      r.header? name = some text ∧ .headers ∈ parts ∧
          (parts.head? = some .headers ∨ r.query? name.text = none) ∨
        .query ∈ parts ∧ r.query? name.text = some text := by
  unfold findValue?
  induction parts with
  | nil => simp
  | cons part rest ih =>
    rw [List.findSome?_cons]
    cases part with
    | headers =>
      cases hFound : r.header? name with
      | some other =>
        obtain rfl := hHeader other hFound
        simp
      | none =>
        simp only [hFound] at ih
        simpa using ih
    | query =>
      cases hQuery : r.query? name.text with
      | some other => simp
      | none =>
        simp only [hQuery] at ih
        simpa using ih

end Request

/-! ## Fingerprints -/

/-- A way to take fingerprints that looks at headers, target and peer only. Cookies and the session,
in which a login itself travels, have no part in it. -/
def ReadsMetadata (fingerprint : Request → String) : Prop :=
  ∀ r r' : Request, r.headers = r'.headers → r.target = r'.target → r.peer = r'.peer →
    fingerprint r = fingerprint r'

theorem readsMetadata_ofRequest (withAddress : Bool) :
    ReadsMetadata (Fingerprint.ofRequest withAddress) := by
  intro r r' hHeaders _ hPeer
  have hHeader : r.header? = r'.header? := by
    funext name
    unfold Request.header?
    rw [hHeaders]
  have hAddress : r.clientAddress? = r'.clientAddress? := by
    unfold Request.clientAddress?
    rw [hHeader, hPeer]
  unfold Fingerprint.ofRequest Fingerprint.coveredText
  rw [hHeader, hAddress]

end WebLogin
