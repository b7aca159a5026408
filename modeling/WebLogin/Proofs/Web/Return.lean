import Mathlib.Data.List.Perm.Basic
import WebLogin.Proofs.Web.Rendering

/-!
# Cookies that come back

A browser keeps the written name and value of each cookie that is set, and sends them all in one header
with `"; "` between them, in an order of its own.

* `Cookie.exists_header`, `Cookie.readPairs_join_pairs`: the header of some cookies, and what is read of it.
* `cookie?_arriving`: in a request with the cookies of a response there is what the response has.
* `cookies_return`: cookies that are set come back with their values, and no others do.
-/

namespace WebLogin

/-! ## One header for all cookies -/

namespace Cookie

theorem mem_join {pieces : List (List Char)} {d : Char} (hd : d ∈ join pieces) :
    d = ';' ∨ d = ' ' ∨ ∃ piece ∈ pieces, d ∈ piece := by
  induction pieces with
  | nil => cases hd
  | cons piece pieces ih =>
    cases pieces with
    | nil =>
      rw [join, List.intercalate_singleton] at hd
      exact .inr (.inr ⟨piece, List.mem_cons_self, hd⟩)
    | cons next pieces =>
      rw [join_cons_cons] at hd
      simp only [List.mem_append, List.mem_cons] at hd
      rcases hd with hPiece | rfl | rfl | hRest
      · exact .inr (.inr ⟨piece, List.mem_cons_self, hPiece⟩)
      · exact .inl rfl
      · exact .inr (.inl rfl)
      · rcases ih hRest with hMark | hBlank | ⟨other, hOther, hIn⟩
        · exact .inl hMark
        · exact .inr (.inl hBlank)
        · exact .inr (.inr ⟨other, List.mem_cons_of_mem piece hOther, hIn⟩)

theorem encode_join (pieces : List (List Char)) :
    Utf8.encode (join pieces) = List.intercalate (Utf8.bytes "; ") (pieces.map Utf8.encode) := by
  induction pieces with
  | nil => rfl
  | cons piece pieces ih =>
    cases pieces with
    | nil => simp [join]
    | cons next pieces =>
      have hSeparator : Utf8.encode [';', ' '] = Utf8.bytes "; " := by rfl
      have hPieces : join (piece :: next :: pieces) = piece ++ [';', ' '] ++ join (next :: pieces) := by
        simp [join_cons_cons]
      rw [hPieces, Utf8.encode_append, Utf8.encode_append, ih, hSeparator, List.map_cons, List.map_cons,
        List.map_cons, List.intercalate_cons_cons]

/-- The written names and values of cookies make a header, which is read as their text. -/
theorem exists_header (cookies : List Cookie) :
    ∃ line : HeaderValue,
      line.bytes = List.intercalate (Utf8.bytes "; ") (cookies.map fun c => Utf8.encode c.pair) ∧
        line.text? = some (String.ofList (join (cookies.map pair))) := by
  have hReadable : HeaderValue.Readable (String.ofList (join (cookies.map pair))) := by
    intro d hd
    rw [String.toList_ofList] at hd
    rcases mem_join hd with rfl | rfl | ⟨piece, hPiece, hIn⟩
    · decide
    · decide
    · obtain ⟨c, _, rfl⟩ := List.mem_map.mp hPiece
      have hVisible := visible_of_mem_pair hIn
      omega
  obtain ⟨line, hLine⟩ := HeaderValue.exists_ofString? hReadable
  refine ⟨line, ?_, HeaderValue.text?_ofString? hReadable hLine⟩
  rw [HeaderValue.bytes_of_ofString? hLine, Utf8.bytes, String.toList_ofList, encode_join, List.map_map]
  rfl

theorem readPairs_join_pairs {cookies : List Cookie} (hNames : ∀ c ∈ cookies, c.name ≠ "") :
    readPairs (join (cookies.map pair)) = cookies.map fun c => (c.name, c.value) := by
  rw [readPairs_join, List.flatMap_map, List.map_eq_flatMap]
  exact List.flatMap_congr fun c hc => readPairs_pair (hNames c hc)

/-- The pairs in the headers that set cookies, if all of them can be written. -/
theorem map_cookiePair {cookies : List Cookie} (hWritten : ∀ c ∈ cookies, c.header?.isSome = true) :
    (cookies.filterMap header?).map HeaderValue.cookiePair = cookies.map fun c => Utf8.encode c.pair := by
  induction cookies with
  | nil => rfl
  | cons c rest ih =>
    obtain ⟨hFirst, hRest⟩ := List.forall_mem_cons.mp hWritten
    obtain ⟨v, hv⟩ := Option.isSome_iff_exists.mp hFirst
    rw [List.filterMap_cons_some hv, List.map_cons, List.map_cons, cookiePair_header? hv, ih hRest]

end Cookie

namespace Response

open Message

variable {r : Response}

/-- The cookies of a response in the order of their names. -/
def cookieList (r : Response) : List Cookie := r.cookies.entries.map (·.2)

theorem cookieValues_eq (r : Response) : r.cookieValues = r.cookieList.filterMap Cookie.header? := by
  simp only [cookieValues, cookieList, List.filterMap_map, Function.comp_def]

theorem mem_cookieList (hNamed : r.Named) {c : Cookie} :
    c ∈ r.cookieList ↔ r.cookie? c.name = some c := by
  rw [cookie?, Dictionary.find?_eq_some_iff, cookieList, List.mem_map]
  constructor
  · rintro ⟨⟨name, c⟩, hEntry, rfl⟩
    have hName : c.name = name := hNamed name c (Dictionary.find?_eq_some_iff.mpr hEntry)
    exact hName ▸ hEntry
  · exact fun hEntry => ⟨_, hEntry, rfl⟩

theorem nodup_cookieList (hNamed : r.Named) : (r.cookieList.map Cookie.name).Nodup := by
  have hNames : r.cookieList.map Cookie.name = r.cookies.keys := by
    rw [cookieList, List.map_map]
    exact List.map_congr_left fun e he => hNamed e.1 e.2 (Dictionary.find?_eq_some_iff.mpr he)
  rw [hNames]
  exact r.cookies.nodup_keys

/-- In a request with one header of the pairs of a response's cookies, in whatever order, there is of each
name what the response has. -/
theorem cookie?_arriving (hNamed : r.Named)
    (hCookies : ∀ c ∈ r.cookieList, c.name ≠ "" ∧ c.header?.isSome = true) {pairs : List (List UInt8)}
    (hPairs : pairs.Perm (r.cookieValues.map HeaderValue.cookiePair)) :
    ∃ line : HeaderValue, line.bytes = List.intercalate (Utf8.bytes "; ") pairs ∧
      ∀ (headers : Headers) target session peer, headers.all Request.cookieHeader = [line] →
        ∀ name, (Request.arriving headers target session peer).cookie? name =
          (r.cookie? name).map Cookie.value := by
  rw [cookieValues_eq, Cookie.map_cookiePair fun c hc => (hCookies c hc).2] at hPairs
  -- the order of the pairs is an order of the cookies
  obtain ⟨cookies, rfl, hPerm⟩ : Relation.Comp (· = List.map (fun c => Utf8.encode c.pair) ·) List.Perm
      pairs r.cookieList := by
    rw [List.eq_map_comp_perm]
    exact hPairs
  obtain ⟨line, hBytes, hText⟩ := Cookie.exists_header cookies
  refine ⟨line, hBytes, fun headers target session peer hLine name => ?_⟩
  have hNames : ∀ c ∈ cookies, c.name ≠ "" := fun c hc => (hCookies c (hPerm.mem_iff.mp hc)).1
  have hRead : Request.readCookies headers = .ofList (cookies.map fun c => (c.name, c.value)) := by
    rw [Request.readCookies, hLine, List.flatMap_singleton, hText]
    simp only [String.toList_ofList, Cookie.readPairs_join_pairs hNames]
  have hNodup : ((cookies.map fun c => (c.name, c.value)).map (·.1)).Nodup := by
    rw [List.map_map]
    exact ((hPerm.map Cookie.name).nodup_iff).mpr (nodup_cookieList hNamed)
  refine Option.ext fun value => ?_
  rw [Request.cookie?, Request.arriving, hRead, Dictionary.find?_ofList_eq_some_iff hNodup,
    Option.map_eq_some_iff, List.mem_map]
  constructor
  · rintro ⟨c, hc, hPair⟩
    obtain ⟨rfl, rfl⟩ := Prod.mk.inj hPair
    exact ⟨c, (mem_cookieList hNamed).mp (hPerm.mem_iff.mp hc), rfl⟩
  · rintro ⟨c, hFound, rfl⟩
    obtain rfl := hNamed name c hFound
    exact ⟨c, hPerm.mem_iff.mpr ((mem_cookieList hNamed).mpr hFound), rfl⟩

/-! ## Cookies that are set -/

theorem foldl_setCookie_eq (cookies : List Cookie) (r : Response) :
    cookies.foldl setCookie r = { r with
      cookies := (cookies.map fun c => (c.name, c)).foldl (fun d e => d.insert e.1 e.2) r.cookies } := by
  induction cookies generalizing r with
  | nil => rfl
  | cons c rest ih => exact ih (r.setCookie c)

theorem cookie?_foldl_setCookie {cookies : List Cookie} (hNodup : (cookies.map Cookie.name).Nodup)
    (hNone : r.cookies = .empty) {name : String} {c : Cookie} :
    (cookies.foldl setCookie r).cookie? name = some c ↔ c ∈ cookies ∧ c.name = name := by
  have hKeys : ((cookies.map fun c => (c.name, c)).map (·.1)).Nodup := by
    rw [List.map_map]
    exact hNodup
  rw [foldl_setCookie_eq, cookie?, Dictionary.find?_foldl_insert hKeys, hNone, Dictionary.find?_empty,
    Option.or_none, Dictionary.lookup?_eq_some_iff_of_nodup hKeys, List.mem_map]
  constructor
  · rintro ⟨d, hd, hPair⟩
    obtain ⟨hName, rfl⟩ := Prod.mk.inj hPair
    exact ⟨hd, hName⟩
  · rintro ⟨hc, rfl⟩
    exact ⟨c, hc, rfl⟩

/-- Cookies of distinct names are set on a response without any. The pairs in its headers that set cookies,
in one header and in whatever order, give a request in which each cookie has its value, and in which there
is nothing of any other name. -/
theorem cookies_return {cookies : List Cookie} (hNodup : (cookies.map Cookie.name).Nodup)
    (hCookies : ∀ c ∈ cookies, c.name ≠ "" ∧ c.header?.isSome = true) {r : Response}
    (hNone : r.cookies = .empty) (hHeader : r.headers.find? setCookieHeader = none)
    {pairs : List (List UInt8)}
    (hPairs : pairs.Perm
      (((cookies.foldl setCookie r).render.values setCookieHeader).map HeaderValue.cookiePair)) :
    ∃ line : HeaderValue, line.bytes = List.intercalate (Utf8.bytes "; ") pairs ∧
      ∀ (headers : Headers) target session peer, headers.all Request.cookieHeader = [line] →
        let request := Request.arriving headers target session peer
        (∀ c ∈ cookies, request.cookie? c.name = some c.value) ∧
          ∀ name, name ∉ cookies.map Cookie.name → request.cookie? name = none := by
  have hFound {name : String} {c : Cookie} :
      (cookies.foldl setCookie r).cookie? name = some c ↔ c ∈ cookies ∧ c.name = name :=
    cookie?_foldl_setCookie hNodup hNone
  have hNamed : (cookies.foldl setCookie r).Named := fun name c h => (hFound.mp h).2
  have hAll : ∀ c ∈ (cookies.foldl setCookie r).cookieList, c.name ≠ "" ∧ c.header?.isSome = true :=
    fun c hc => hCookies c (hFound.mp ((mem_cookieList hNamed).mp hc)).1
  have hKept : (cookies.foldl setCookie r).headers.find? setCookieHeader = none := by
    rw [foldl_setCookie_eq]
    exact hHeader
  rw [values_render_setCookie hKept] at hPairs
  obtain ⟨line, hBytes, hArriving⟩ := cookie?_arriving hNamed hAll hPairs
  refine ⟨line, hBytes, fun headers target session peer hLine => ⟨fun c hc => ?_, fun name hName => ?_⟩⟩
  · rw [hArriving headers target session peer hLine, hFound.mpr ⟨hc, rfl⟩]
    rfl
  · rw [hArriving headers target session peer hLine]
    have hNothing : (cookies.foldl setCookie r).cookie? name = none := by
      refine Option.eq_none_iff_forall_ne_some.mpr fun c hSome => hName ?_
      obtain ⟨hc, rfl⟩ := hFound.mp hSome
      exact List.mem_map_of_mem hc
    rw [hNothing]
    rfl

/-- Separators, blanks and a percent sign in names and values, sent back in the other order. -/
theorem cookies_return_reversed :
    let cookies : List Cookie :=
      [{ name := "a;b", value := " 100%; c=d " }, { name := "crème", value := "=", path := some "/" }]
    let sent := ((cookies.foldl setCookie {}).render.values setCookieHeader).map HeaderValue.cookiePair
    ∃ line : HeaderValue, line.bytes = List.intercalate (Utf8.bytes "; ") sent.reverse ∧
      ∀ (headers : Headers) target session peer, headers.all Request.cookieHeader = [line] →
        let request := Request.arriving headers target session peer
        request.cookie? "a;b" = some " 100%; c=d " ∧ request.cookie? "crème" = some "=" ∧
          request.cookie? "c" = none := by
  intro cookies sent
  have hNodup : (cookies.map Cookie.name).Nodup := by decide
  have hWritten : ∀ c ∈ cookies, c.name ≠ "" ∧ c.header?.isSome = true := by decide
  obtain ⟨line, hBytes, hArriving⟩ := cookies_return hNodup hWritten rfl rfl (List.reverse_perm sent)
  refine ⟨line, hBytes, fun headers target session peer hLine => ?_⟩
  obtain ⟨hFound, hOthers⟩ := hArriving headers target session peer hLine
  exact ⟨hFound _ List.mem_cons_self, hFound _ (List.mem_cons_of_mem _ List.mem_cons_self),
    hOthers "c" (by decide)⟩

end Response

end WebLogin
