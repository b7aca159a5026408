import WebLogin.Proofs.Web.Response

/-!
# Edits of a response

What a host asks of a response, one edit after the other. An edit whose header is refused leaves the
response as it was; every other edit is a change.

* `edited_eq`: edits make what the changes among them make.
* `Edit.slot`, `slot_of_change?`, `edit_comm`: the place of an edit, and edits of two places in either order.
* `Edit.onChanges`, `Edit.onSession`, `Edit.applyTo_onChanges`: an edit in the session changes, and the same
  edit in a session itself.
* `session_changes_refine_edits`: the session changes do at once what the edits do in turn.
-/

namespace WebLogin.Response

/-- What can be asked of a response. The name of a header may be in letters of either case. -/
inductive Edit where
  | setCookie (cookie : Cookie)
  | removeCookie (cookie : Cookie)
  | setHeader (name text : String)
  | removeHeader (name : String)
  | setSessionValue (key value : String)
  | removeSessionValue (key : String)
  | redirectTo (target : String)

/-- The response after an edit. A header that is refused is passed over. -/
def edit (r : Response) : Edit → Response
  | .setCookie cookie => r.setCookie cookie
  | .removeCookie cookie => r.removeCookie cookie
  | .setHeader name text => ((HeaderName.ofString? name).bind (r.setHeaderText? · text)).getD r
  | .removeHeader name => ((HeaderName.ofString? name).map r.removeHeader).getD r
  | .setSessionValue key value => r.setSessionValue key value
  | .removeSessionValue key => r.removeSessionValue key
  | .redirectTo target => r.redirectTo target

/-- The response that edits in turn make of an empty one. -/
def edited (edits : List Edit) : Response := edits.foldl edit {}

theorem edited_concat (edits : List Edit) (last : Edit) :
    edited (edits ++ [last]) = (edited edits).edit last := by
  rw [edited, List.foldl_concat, edited]

/-! ## Edits as changes -/

/-- The change that an edit asks for; none if its header is refused. -/
def Edit.change? : Edit → Option Change
  | .setCookie cookie => some (.setCookie cookie)
  | .removeCookie cookie => some (.removeCookie cookie)
  | .setHeader name text => do
    return .setHeader (← HeaderName.ofString? name) (← HeaderValue.ofString? text)
  | .removeHeader name => (HeaderName.ofString? name).map .removeHeader
  | .setSessionValue key value => some (.setSessionValue key value)
  | .removeSessionValue key => some (.removeSessionValue key)
  | .redirectTo target => some (.redirectTo target)

/-- The changes that edits ask for in turn. -/
def changesOf (edits : List Edit) : List Change := edits.filterMap Edit.change?

theorem edit_eq (r : Response) (e : Edit) : r.edit e = e.change?.elim r r.change := by
  cases e with
  | setHeader name text =>
    cases hName : HeaderName.ofString? name <;> cases hValue : HeaderValue.ofString? text <;>
      simp [edit, Edit.change?, setHeaderText?, hName, hValue, change]
  | removeHeader name =>
    cases hName : HeaderName.ofString? name <;> simp [edit, Edit.change?, hName, change]
  | _ => rfl

/-- Edits make of an empty response what the changes among them make of it. -/
theorem edited_eq (edits : List Edit) : edited edits = made (changesOf edits) := by
  induction edits using List.reverseRecOn with
  | nil => rfl
  | append_singleton edits last ih =>
    rw [edited_concat, edit_eq, ih, changesOf, changesOf, List.filterMap_append]
    cases hChange : last.change? with
    | none => simp [hChange]
    | some c =>
      rw [List.filterMap_cons_some hChange, List.filterMap_nil, made_concat]
      rfl

/-! ## Places of edits -/

/-- The place that an edit is about. -/
def Edit.slot : Edit → Slot
  | .setCookie cookie => .cookie cookie.name
  | .removeCookie cookie => .cookie cookie.name
  | .setHeader name _ => .header (Text.lowercase name)
  | .removeHeader name => .header (Text.lowercase name)
  | .setSessionValue key _ => .session key
  | .removeSessionValue key => .session key
  | .redirectTo _ => .redirect

theorem text_of_ofString? {s : String} {name : HeaderName} (h : HeaderName.ofString? s = some name) :
    name.text = Text.lowercase s := by
  simp only [HeaderName.ofString?] at h
  split at h
  · cases h
    rfl
  · cases h

theorem slot_of_change? {e : Edit} {c : Change} (h : e.change? = some c) : c.slot = e.slot := by
  cases e with
  | setHeader name text =>
    simp only [Edit.change?, Option.bind_eq_bind, Option.bind_eq_some_iff, Option.pure_def,
      Option.some.injEq] at h
    obtain ⟨header, hName, value, _, rfl⟩ := h
    exact congrArg Slot.header (text_of_ofString? hName)
  | removeHeader name =>
    obtain ⟨header, hName, rfl⟩ := Option.map_eq_some_iff.mp h
    exact congrArg Slot.header (text_of_ofString? hName)
  | _ =>
    cases h
    rfl

/-- Edits of two places may be made in either order. -/
theorem edit_comm {a b : Edit} (h : a.slot ≠ b.slot) (r : Response) :
    (r.edit a).edit b = (r.edit b).edit a := by
  simp only [edit_eq]
  cases hFirst : a.change? with
  | none => rfl
  | some first =>
    cases hSecond : b.change? with
    | none => rfl
    | some second =>
      refine change_comm (fun hSame => h ?_) r
      rw [← slot_of_change? hFirst, hSame, slot_of_change? hSecond]

/-! ## The session -/

def Edit.isSession : Edit → Bool
  | .setSessionValue _ _ => true
  | .removeSessionValue _ => true
  | _ => false

/-- The session after an edit that is made at once. -/
def Edit.onSession (session : Dictionary String) : Edit → Dictionary String
  | .setSessionValue key value => session.insert key value
  | .removeSessionValue key => session.erase key
  | _ => session

/-- The session changes after an edit. -/
def Edit.onChanges (changes : SessionChanges) : Edit → SessionChanges
  | .setSessionValue key value => changes.insert key value
  | .removeSessionValue key => changes.erase key
  | _ => changes

theorem Edit.onChanges_eq_self {e : Edit} (h : e.isSession = false) (changes : SessionChanges) :
    e.onChanges changes = changes := by
  cases e with
  | setSessionValue key value => cases h
  | removeSessionValue key => cases h
  | _ => rfl

/-- Edits of cookies, headers and the redirect keep the session changes. -/
theorem session_edit (r : Response) (e : Edit) : (r.edit e).session = e.onChanges r.session := by
  cases e with
  | setHeader name text =>
    simp only [edit]
    cases HeaderName.ofString? name with
    | none => rfl
    | some header =>
      simp only [Option.bind_some, setHeaderText?]
      cases HeaderValue.ofString? text <;> rfl
  | removeHeader name =>
    simp only [edit]
    cases HeaderName.ofString? name <;> rfl
  | _ => rfl

theorem Edit.apart_onChanges {changes : SessionChanges} (h : changes.Apart) (e : Edit) :
    (e.onChanges changes).Apart := by
  cases e with
  | setSessionValue key value => exact h.insert key value
  | removeSessionValue key => exact h.erase key
  | _ => exact h

theorem Edit.applyTo_onChanges (changes : SessionChanges) (e : Edit) (session : Dictionary String) :
    (e.onChanges changes).applyTo session = e.onSession (changes.applyTo session) := by
  cases e with
  | setSessionValue key value => exact changes.applyTo_insert key value session
  | removeSessionValue key => exact changes.applyTo_erase key session
  | _ => rfl

theorem Edit.isEmpty_onChanges {e : Edit} (h : e.isSession = true) (changes : SessionChanges) :
    (e.onChanges changes).isEmpty = false := by
  cases e with
  | setSessionValue key value => exact changes.isEmpty_insert key value
  | removeSessionValue key => exact changes.isEmpty_erase key
  | _ => cases h

theorem apart_edited (edits : List Edit) : (edited edits).session.Apart := by
  induction edits using List.reverseRecOn with
  | nil => exact fun key hRemoved => nomatch hRemoved
  | append_singleton edits last ih =>
    rw [edited_concat, session_edit]
    exact last.apart_onChanges ih

theorem applyTo_edited (edits : List Edit) (session : Dictionary String) :
    (edited edits).session.applyTo session = edits.foldl Edit.onSession session := by
  induction edits using List.reverseRecOn with
  | nil => rfl
  | append_singleton edits last ih =>
    rw [edited_concat, session_edit, Edit.applyTo_onChanges, ih, List.foldl_concat]

theorem isEmpty_session_edited (edits : List Edit) :
    (edited edits).session.isEmpty = !edits.any Edit.isSession := by
  induction edits using List.reverseRecOn with
  | nil => rfl
  | append_singleton edits last ih =>
    rw [edited_concat, session_edit, List.any_append]
    cases hLast : last.isSession with
    | false => simp [Edit.onChanges_eq_self hLast, ih, hLast]
    | true => simp [Edit.isEmpty_onChanges hLast, hLast]

theorem session_edited_filter (edits : List Edit) :
    (edited (edits.filter Edit.isSession)).session = (edited edits).session := by
  induction edits using List.reverseRecOn with
  | nil => rfl
  | append_singleton edits last ih =>
    rw [edited_concat, session_edit, List.filter_append]
    cases hLast : last.isSession with
    | false =>
      rw [List.filter_cons_of_neg (by simp [hLast]), List.filter_nil, List.append_nil, ih,
        Edit.onChanges_eq_self hLast]
    | true => rw [List.filter_cons_of_pos hLast, List.filter_nil, edited_concat, session_edit, ih]

/-- The session changes of edits do at once what the edits do in turn: they keep apart what is set and
what is removed, they do the same a second time, there are none only if no edit is of the session, and
edits of cookies, headers and the redirect have no part in them. -/
theorem session_changes_refine_edits (edits : List Edit) :
    let changes := (edited edits).session
    (∀ key, ¬((changes.set.find? key).isSome = true ∧ changes.removed.contains key = true)) ∧
      (∀ session, changes.applyTo session = edits.foldl Edit.onSession session) ∧
      (changes.isEmpty = true ↔ edits.filter Edit.isSession = []) ∧
      (∀ session, changes.applyTo (changes.applyTo session) = changes.applyTo session) ∧
      changes = (edited (edits.filter Edit.isSession)).session := by
  refine ⟨fun key => ?_, applyTo_edited edits, ?_, (edited edits).session.applyTo_applyTo,
    (session_edited_filter edits).symm⟩
  · rintro ⟨hSet, hRemoved⟩
    rw [apart_edited edits key hRemoved] at hSet
    cases hSet
  · simp [isEmpty_session_edited, List.filter_eq_nil_iff]

end WebLogin.Response
