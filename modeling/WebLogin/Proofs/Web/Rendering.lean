import WebLogin.Proofs.Web.Cookie
import WebLogin.Proofs.Web.Edits

/-!
# Rendered responses

The message that a response is rendered to, name by name.

* `Message.values`, `Message.values_foldl_setHeader`: the values of a header, when headers are set.
* `values_overlay`, `filter_cookieValues`: what a response lays over a message, and which of its headers
  set the cookie of a name.
* `lastRedirect`, `LastWrites`: the message of the last redirect, and a message with what the last edit of
  each place says.
* `render_edited`: a response renders the last writes, and edits of two places render the same in either
  order.
-/

namespace WebLogin

/-! ## Values of a header -/

namespace Message

/-- All values of a header in order. -/
def values (m : Message) (name : String) : List HeaderValue :=
  (m.headers.filter fun h => h.1 = name).map (·.2)

theorem values_setHeader (m : Message) (name : String) (value : HeaderValue) (other : String) :
    (m.setHeader name value).values other = if other = name then [value] else m.values other := by
  rw [values, setHeader, List.filter_append, List.filter_filter]
  by_cases hName : other = name
  · subst hName
    simp
  · have hKept : ∀ h ∈ m.headers, (decide (h.1 = other) && decide (h.1 ≠ name)) = decide (h.1 = other) := by
      intro h _
      by_cases hOther : h.1 = other
      · simp [hOther, hName]
      · simp [hOther]
    have hLast : ¬name = other := fun h => hName h.symm
    rw [List.filter_congr hKept, List.filter_cons_of_neg (by simpa using hLast), if_neg hName]
    simp [values]

theorem values_foldl_setHeader {l : List (String × HeaderValue)} (hNodup : (l.map (·.1)).Nodup)
    (m : Message) (name : String) :
    (l.foldl (fun m e => m.setHeader e.1 e.2) m).values name =
      (Dictionary.lookup? name l).elim (m.values name) ([·]) := by
  induction l generalizing m with
  | nil => rfl
  | cons e rest ih =>
    obtain ⟨hNew, hRest⟩ := List.nodup_cons.mp hNodup
    rw [List.foldl_cons, ih hRest, values_setHeader, Dictionary.lookup?]
    by_cases hName : name = e.1
    · have hNone : Dictionary.lookup? name rest = none :=
        Dictionary.lookup?_eq_none_iff.mpr (hName ▸ hNew)
      rw [hNone, if_pos hName, if_pos hName]
      rfl
    · rw [if_neg hName, if_neg hName]

/-- Setting headers keeps the rest of a message. -/
theorem foldl_setHeader_eq (l : List (String × HeaderValue)) (m : Message) :
    ∃ headers, l.foldl (fun m e => m.setHeader e.1 e.2) m = { m with headers } := by
  induction l generalizing m with
  | nil => exact ⟨m.headers, rfl⟩
  | cons e rest ih =>
    obtain ⟨headers, hRest⟩ := ih (m.setHeader e.1 e.2)
    exact ⟨headers, hRest⟩

end Message

namespace Response

open Message

/-! ## A response over a message -/

/-- The values of the headers that set the cookies of a response. -/
def cookieValues (r : Response) : List HeaderValue := r.cookies.entries.filterMap (·.2.header?)

/-- The headers that set the cookies of a response. -/
theorem values_cookies (r : Response) (name : String) :
    (((r.cookies.entries.filterMap fun e => e.2.header?.map fun value =>
        (setCookieHeader, value)).filter fun h => h.1 = name).map (·.2)) =
      if name = setCookieHeader then r.cookieValues else [] := by
  rw [List.filter_filterMap, List.map_filterMap]
  split
  · next hName =>
    refine List.filterMap_congr fun e _ => ?_
    cases e.2.header? <;> simp [hName]
  · next hName =>
    refine List.filterMap_eq_nil_iff.mpr fun e _ => ?_
    have hOther : ¬setCookieHeader = name := fun h => hName h.symm
    cases e.2.header? <;> simp [hOther]

theorem values_overlay (r : Response) (m : Message) (name : String) :
    (r.overlay m).values name =
      (r.headers.find? name).elim
        (m.values name ++ if name = setCookieHeader then r.cookieValues else []) ([·]) := by
  have hSession (m' : Message) : (if r.session.isEmpty then m'
      else { m' with session := some r.session }).values name = m'.values name := by
    split <;> rfl
  rw [overlay, hSession, values_foldl_setHeader r.headers.nodup_keys, Dictionary.find?]
  refine congrArg (Option.elim _ · _) ?_
  rw [values, List.filter_append, List.map_append, values_cookies, values]

theorem overlay_eq (r : Response) (m : Message) :
    ∃ headers, r.overlay m =
      ⟨m.status, headers, if r.session.isEmpty then m.session else some r.session, m.body⟩ := by
  obtain ⟨headers, hHeaders⟩ := foldl_setHeader_eq r.headers.entries
    { m with headers := m.headers ++ r.cookies.entries.filterMap fun e =>
      e.2.header?.map fun value => (setCookieHeader, value) }
  refine ⟨headers, ?_⟩
  rw [overlay, hHeaders]
  split <;> rfl

theorem filter_header_toList (c : Cookie) (name : String) :
    (c.header?.toList.filter fun v => v.cookieName? = some name) =
      if name = c.name then c.header?.toList else [] := by
  cases hWritten : c.header? with
  | none => simp
  | some v =>
    have hOwn : v.cookieName? = some c.name := Cookie.cookieName?_header? hWritten
    by_cases hName : name = c.name
    · simp [hOwn, hName]
    · have hOther : ¬c.name = name := fun h => hName h.symm
      simp [hOwn, hName, hOther]

theorem filter_headers_of_named {entries : List (String × Cookie)}
    (hNames : ∀ e ∈ entries, e.2.name = e.1) (hNodup : (entries.map (·.1)).Nodup) (name : String) :
    ((entries.filterMap (·.2.header?)).filter fun v => v.cookieName? = some name) =
      ((Dictionary.lookup? name entries).bind Cookie.header?).toList := by
  induction entries with
  | nil => rfl
  | cons e rest ih =>
    obtain ⟨hName, hNames⟩ := List.forall_mem_cons.mp hNames
    obtain ⟨hNew, hRest⟩ := List.nodup_cons.mp hNodup
    have hCons : (e :: rest).filterMap (·.2.header?) =
        e.2.header?.toList ++ rest.filterMap (·.2.header?) := by
      rw [List.filterMap_cons]
      cases e.2.header? <;> rfl
    rw [hCons, List.filter_append, filter_header_toList, hName, ih hNames hRest, Dictionary.lookup?]
    by_cases hSame : name = e.1
    · -- this entry is the only one of the name
      have hNone : Dictionary.lookup? name rest = none :=
        Dictionary.lookup?_eq_none_iff.mpr (hSame ▸ hNew)
      rw [hNone, if_pos hSame, if_pos hSame, Option.bind_none, Option.toList_none, List.append_nil,
        Option.bind_some]
    · rw [if_neg hSame, if_neg hSame, List.nil_append]

/-- Of the headers that set cookies, those of a name are what is written of the cookie of that name. -/
theorem filter_cookieValues {r : Response} (hNamed : r.Named) (name : String) :
    (r.cookieValues.filter fun v => v.cookieName? = some name) =
      ((r.cookie? name).bind Cookie.header?).toList :=
  filter_headers_of_named (fun e he => hNamed e.1 e.2 (Dictionary.find?_eq_some_iff.mpr he))
    r.cookies.nodup_keys name

theorem exists_cookieName?_of_mem {r : Response} {v : HeaderValue} (h : v ∈ r.cookieValues) :
    ∃ name, v.cookieName? = some name := by
  obtain ⟨e, _, hWritten⟩ := List.mem_filterMap.mp h
  exact ⟨e.2.name, Cookie.cookieName?_header? hWritten⟩

/-! ## The last writes -/

/-- The message that a response is laid over. -/
def base (r : Response) : Message := r.redirect.elim .blank .redirect

theorem render_eq (r : Response) : r.render = r.overlay r.base := by
  unfold render base
  cases r.redirect <;> rfl

/-- A redirect sets no cookies and has no session changes. -/
theorem base_bare (r : Response) : r.base.values setCookieHeader = [] ∧ r.base.session = none := by
  unfold base
  cases r.redirect with
  | none => exact ⟨rfl, rfl⟩
  | some target =>
    simp only [Option.elim_some, Message.redirect]
    split <;> exact ⟨rfl, rfl⟩

/-- Unless a header is set that sets a cookie, only the cookies of a response do. -/
theorem values_render_setCookie {r : Response} (h : r.headers.find? setCookieHeader = none) :
    r.render.values setCookieHeader = r.cookieValues := by
  rw [render_eq, values_overlay, h, r.base_bare.1, if_pos rfl]
  rfl

/-- The message of the last redirect among edits, if there is one. -/
def lastRedirect (edits : List Edit) : Message :=
  ((last? .redirect (changesOf edits)).bind Change.target?).elim .blank .redirect

variable {edits : List Edit}

theorem base_edited : (edited edits).base = lastRedirect edits := by
  rw [base, lastRedirect, edited_eq, redirect_made]

/-- A message with what the last edit of each place says, in which the other edits have no part. -/
structure LastWrites (edits : List Edit) (m : Message) : Prop where
  /-- A cookie is set once, as it was set or removed last, if that can be written. -/
  cookies (name : String) : ((m.values setCookieHeader).filter fun v => v.cookieName? = some name) =
    (((last? (.cookie name) (changesOf edits)).bind Change.cookie?).bind Cookie.header?).toList
  /-- Every header that sets a cookie is one of these. -/
  named : ∀ v ∈ m.values setCookieHeader, ∃ name, v.cookieName? = some name
  /-- A header has the value that it was set to last, unless it was removed since; without one it has what
  the redirect sets. -/
  headers (name : String) : Text.lowercase name ≠ setCookieHeader →
    m.values (Text.lowercase name) =
      ((last? (.header (Text.lowercase name)) (changesOf edits)).bind Change.value?).elim
        ((lastRedirect edits).values (Text.lowercase name)) ([·])
  /-- Session changes go along if an edit is one of the session. -/
  session : m.session = if edits.any Edit.isSession then some (edited edits).session else none
  status : m.status = (lastRedirect edits).status
  body : m.body = (lastRedirect edits).body

theorem find?_headers_setCookie
    (hNames : ∀ name text, .setHeader name text ∈ edits → Text.lowercase name ≠ setCookieHeader) :
    (edited edits).headers.find? setCookieHeader = none := by
  rw [edited_eq, find?_headers_made]
  cases hLast : last? (.header setCookieHeader) (changesOf edits) with
  | none => rfl
  | some c =>
    obtain ⟨e, hEdit, hChange⟩ := List.mem_filterMap.mp (mem_of_last? hLast)
    have hSlot : e.slot = .header setCookieHeader :=
      (slot_of_change? hChange).symm.trans (slot_of_last? hLast)
    cases e with
    | setHeader name text => exact absurd (Slot.header.inj hSlot) (hNames name text hEdit)
    | removeHeader name =>
      obtain ⟨header, _, rfl⟩ := Option.map_eq_some_iff.mp hChange
      rfl
    | _ => cases hSlot

theorem lastWrites_render
    (hNames : ∀ name text, .setHeader name text ∈ edits → Text.lowercase name ≠ setCookieHeader) :
    LastWrites edits (edited edits).render := by
  have hCookies : (edited edits).render.values setCookieHeader = (edited edits).cookieValues :=
    values_render_setCookie (find?_headers_setCookie hNames)
  obtain ⟨headers, hRender⟩ := (edited edits).overlay_eq (edited edits).base
  rw [← render_eq, base_edited] at hRender
  constructor
  case cookies =>
    intro name
    rw [hCookies, edited_eq, filter_cookieValues (named_made _), cookie?_made]
  case named =>
    intro v hv
    rw [hCookies] at hv
    exact exists_cookieName?_of_mem hv
  case headers =>
    intro name hName
    rw [render_eq, values_overlay, if_neg hName, List.append_nil, base_edited, edited_eq,
      find?_headers_made]
  case session =>
    have hNone : (lastRedirect edits).session = none := base_edited ▸ (edited edits).base_bare.2
    simp only [hRender, hNone, isEmpty_session_edited]
    cases edits.any Edit.isSession <;> rfl
  case status => rw [hRender]
  case body => rw [hRender]

/-- A response renders what the last edit of each place says, and two edits of different places that
follow each other may be made in either order. -/
theorem render_edited
    (hNames : ∀ name text, .setHeader name text ∈ edits → Text.lowercase name ≠ setCookieHeader) :
    LastWrites edits (edited edits).render ∧
      ∀ before a b after, edits = before ++ a :: b :: after → a.slot ≠ b.slot →
        (edited (before ++ b :: a :: after)).render = (edited edits).render := by
  refine ⟨lastWrites_render hNames, fun before a b after hEdits hSlots => ?_⟩
  have hSwap : edited (before ++ b :: a :: after) = edited (before ++ a :: b :: after) := by
    simp only [edited, List.foldl_append, List.foldl_cons, edit_comm hSlots]
  rw [hEdits, hSwap]

/-- A header that is set anew in letters of the other case, with a cookie in between. -/
theorem render_edited_token :
    let first : Edit := .setHeader "X-Auth-Token" "first"
    let cookie : Edit := .setCookie { name := "authenticator", value := "v1" }
    let second : Edit := .setHeader "x-auth-token" "second"
    let m := (edited [first, cookie, second]).render
    m.values "x-auth-token" = (HeaderValue.ofString? "second").toList ∧
      (edited [first, second, cookie]).render = m := by
  intro first cookie second m
  have hNames : ∀ name text, Edit.setHeader name text ∈ [first, cookie, second] →
      Text.lowercase name ≠ setCookieHeader := by
    intro name text hEdit
    have hHeader : name = "X-Auth-Token" ∧ text = "first" ∨ name = "x-auth-token" ∧ text = "second" := by
      simpa [first, cookie, second] using hEdit
    rcases hHeader with ⟨rfl, -⟩ | ⟨rfl, -⟩ <;> decide
  obtain ⟨hWrites, hSwap⟩ := render_edited hNames
  refine ⟨?_, hSwap [first] cookie second [] rfl (by decide)⟩
  exact (hWrites.headers "X-Auth-Token" (by decide)).trans (by rfl)

end Response

end WebLogin
