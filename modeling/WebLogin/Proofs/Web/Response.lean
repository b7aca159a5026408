import Mathlib.Data.List.Induction
import WebLogin.Proofs.Dictionary
import WebLogin.Web.Response

/-!
# Responses as they are made

A response is made by changes, one after the other. Each of them is about one place in it.

* `find?_applyTo`: what session changes make of each key of a session.
* `SessionChanges.Apart`: no key is both set and removed.
* `SessionChanges.applyTo_insert`, `SessionChanges.applyTo_erase`: what is done last to the changes is done
  last to a session.
* `Response.Slot`, `Response.Same`: the places of a response, and when nothing differs in one.
* `Response.named_made`: a cookie stands under its own name.
* `Response.same_change`, `Response.same_own`: a change leaves the other places alone, and what it makes of
  its own does not depend on what was there.
* `Response.change_comm`: changes of two places may be made in either order.
* `Response.same_made`: in each place there is what the last change of that place makes of nothing.
  `cookie?_made`, `find?_headers_made` and `redirect_made` read it off.
-/

namespace WebLogin

/-! ## Session changes -/

/-- A key has the value that is set; without one it is gone if it is removed, and else as it was. -/
theorem SessionChanges.find?_applyTo (c : SessionChanges) (session : Dictionary String)
    (key : String) :
    (c.applyTo session).find? key =
      (c.set.find? key).or (if c.removed.contains key then none else session.find? key) := by
  rw [applyTo, Dictionary.find?_foldl_insert c.set.nodup_keys, Dictionary.find?_foldl_erase]
  simp only [← Dictionary.contains_iff]
  rfl

theorem SessionChanges.find?_erase (c : SessionChanges) (key : String) :
    (c.erase key).set.find? key = none ∧ (c.erase key).removed.contains key = true := by
  have hRemoved : (c.erase key).removed.find? key = some () := c.removed.find?_insert_self key ()
  refine ⟨c.set.find?_erase_self key, ?_⟩
  rw [Dictionary.contains, hRemoved]
  rfl

namespace SessionChanges

variable {c : SessionChanges} {key : String}

/-- No key is both set and removed. -/
def Apart (c : SessionChanges) : Prop :=
  ∀ key, c.removed.contains key = true → c.set.find? key = none

theorem Apart.insert (h : c.Apart) (key value : String) : (c.insert key value).Apart := by
  intro other hRemoved
  rw [SessionChanges.insert, Dictionary.contains_erase] at hRemoved
  by_cases hKey : other = key
  · rw [if_pos hKey] at hRemoved
    cases hRemoved
  · rw [if_neg hKey] at hRemoved
    rw [SessionChanges.insert, Dictionary.find?_insert, if_neg hKey]
    exact h other hRemoved

theorem Apart.erase (h : c.Apart) (key : String) : (c.erase key).Apart := by
  intro other hRemoved
  by_cases hKey : other = key
  · subst hKey
    exact (c.find?_erase other).1
  · rw [SessionChanges.erase, Dictionary.contains_insert, if_neg hKey] at hRemoved
    rw [SessionChanges.erase, Dictionary.find?_erase, if_neg hKey]
    exact h other hRemoved

/-- A value that is set last is set last in the session. -/
theorem applyTo_insert (c : SessionChanges) (key value : String) (session : Dictionary String) :
    (c.insert key value).applyTo session = (c.applyTo session).insert key value := by
  apply Dictionary.ext_find?
  intro other
  rw [Dictionary.find?_insert, find?_applyTo, find?_applyTo, insert, Dictionary.find?_insert,
    Dictionary.contains_erase]
  by_cases hKey : other = key
  · rw [if_pos hKey, if_pos hKey, if_pos hKey, Option.some_or]
  · rw [if_neg hKey, if_neg hKey, if_neg hKey]

/-- A value that is removed last is removed last from the session. -/
theorem applyTo_erase (c : SessionChanges) (key : String) (session : Dictionary String) :
    (c.erase key).applyTo session = (c.applyTo session).erase key := by
  apply Dictionary.ext_find?
  intro other
  rw [Dictionary.find?_erase, find?_applyTo, find?_applyTo, erase, Dictionary.find?_erase,
    Dictionary.contains_insert]
  by_cases hKey : other = key
  · rw [if_pos hKey, if_pos hKey, if_pos hKey, if_pos rfl, Option.none_or]
  · rw [if_neg hKey, if_neg hKey, if_neg hKey]

/-- The same changes a second time change nothing. -/
theorem applyTo_applyTo (c : SessionChanges) (session : Dictionary String) :
    c.applyTo (c.applyTo session) = c.applyTo session := by
  apply Dictionary.ext_find?
  intro key
  simp only [find?_applyTo]
  cases c.set.find? key with
  | some value => rfl
  | none =>
    simp only [Option.none_or]
    split <;> rfl

theorem isEmpty_insert (c : SessionChanges) (key value : String) :
    (c.insert key value).isEmpty = false := by
  refine Bool.eq_false_iff.mpr fun hEmpty => ?_
  have hNone := Dictionary.isEmpty_iff.mp (Bool.and_eq_true_iff.mp hEmpty).1 key
  rw [insert, Dictionary.find?_insert_self] at hNone
  cases hNone

theorem isEmpty_erase (c : SessionChanges) (key : String) : (c.erase key).isEmpty = false := by
  refine Bool.eq_false_iff.mpr fun hEmpty => ?_
  have hNone := Dictionary.isEmpty_iff.mp (Bool.and_eq_true_iff.mp hEmpty).2 key
  rw [erase, Dictionary.find?_insert_self] at hNone
  cases hNone

end SessionChanges

namespace Response

/-! ## Changes -/

/-- The changes that can be made to a response. -/
inductive Change where
  | setCookie (cookie : Cookie)
  | removeCookie (cookie : Cookie)
  | setHeader (name : HeaderName) (value : HeaderValue)
  | removeHeader (name : HeaderName)
  | setSessionValue (key value : String)
  | removeSessionValue (key : String)
  | redirectTo (target : String)

def change (r : Response) : Change → Response
  | .setCookie cookie => r.setCookie cookie
  | .removeCookie cookie => r.removeCookie cookie
  | .setHeader name value => r.setHeader name value
  | .removeHeader name => r.removeHeader name
  | .setSessionValue key value => r.setSessionValue key value
  | .removeSessionValue key => r.removeSessionValue key
  | .redirectTo target => r.redirectTo target

/-- The response that changes in turn make of an empty one. -/
def made (changes : List Change) : Response := changes.foldl change {}

theorem made_concat (changes : List Change) (last : Change) :
    made (changes ++ [last]) = (made changes).change last := by
  rw [made, List.foldl_concat, made]

/-- Every cookie stands under its own name. -/
def Named (r : Response) : Prop := ∀ name c, r.cookie? name = some c → c.name = name

theorem Named.setCookie {r : Response} (h : r.Named) (cookie : Cookie) :
    (r.setCookie cookie).Named := by
  intro name c hFound
  rw [cookie?, Response.setCookie, Dictionary.find?_insert] at hFound
  split at hFound
  · next hName =>
    obtain rfl := Option.some.inj hFound
    exact hName.symm
  · exact h name c hFound

theorem Named.change {r : Response} (h : r.Named) (c : Change) : (r.change c).Named := by
  cases c with
  | setCookie cookie => exact h.setCookie cookie
  | removeCookie cookie => exact h.setCookie cookie.removal
  | setHeader name value => exact h
  | removeHeader name => exact h
  | setSessionValue key value => exact h
  | removeSessionValue key => exact h
  | redirectTo target => exact h

theorem named_made (changes : List Change) : (made changes).Named := by
  induction changes using List.reverseRecOn with
  | nil => exact fun name c hFound => nomatch hFound
  | append_singleton changes last ih =>
    rw [made_concat]
    exact ih.change last

/-! ## Places -/

/-- A place of a response. -/
inductive Slot where
  | cookie (name : String)
  | header (name : String)
  | session (key : String)
  | redirect
deriving DecidableEq

/-- The place that a change is about. -/
def Change.slot : Change → Slot
  | .setCookie cookie => .cookie cookie.name
  | .removeCookie cookie => .cookie cookie.name
  | .setHeader name _ => .header name.text
  | .removeHeader name => .header name.text
  | .setSessionValue key _ => .session key
  | .removeSessionValue key => .session key
  | .redirectTo _ => .redirect

/-- Whether two responses have the same in a place. -/
def Same (r r' : Response) : Slot → Prop
  | .cookie name => r.cookie? name = r'.cookie? name
  | .header name => r.headers.find? name = r'.headers.find? name
  | .session key => r.session.set.find? key = r'.session.set.find? key ∧
      r.session.removed.find? key = r'.session.removed.find? key
  | .redirect => r.redirect = r'.redirect

variable {slot : Slot}

theorem same_setCookie {c : Cookie} (h : slot ≠ .cookie c.name) (r : Response) :
    (r.setCookie c).Same r slot := by
  cases slot with
  | cookie name =>
    have hName : name ≠ c.name := fun hSame => h (hSame ▸ rfl)
    exact (Dictionary.find?_insert r.cookies c.name c name).trans (if_neg hName)
  | header name => rfl
  | session key => exact ⟨rfl, rfl⟩
  | redirect => rfl

theorem same_removeHeader {name : HeaderName} (h : slot ≠ .header name.text) (r : Response) :
    (r.removeHeader name).Same r slot := by
  cases slot with
  | cookie name => rfl
  | header other =>
    have hName : other ≠ name.text := fun hSame => h (hSame ▸ rfl)
    exact (Dictionary.find?_erase r.headers name.text other).trans (if_neg hName)
  | session key => exact ⟨rfl, rfl⟩
  | redirect => rfl

theorem same_removeSessionValue {key : String} (h : slot ≠ .session key) (r : Response) :
    (r.removeSessionValue key).Same r slot := by
  cases slot with
  | cookie name => rfl
  | header name => rfl
  | session other =>
    have hKey : other ≠ key := fun hSame => h (hSame ▸ rfl)
    exact ⟨(Dictionary.find?_erase r.session.set key other).trans (if_neg hKey),
      (Dictionary.find?_insert r.session.removed key () other).trans (if_neg hKey)⟩
  | redirect => rfl

theorem Same.refl (r : Response) (slot : Slot) : r.Same r slot := by
  cases slot with
  | session key => exact ⟨rfl, rfl⟩
  | _ => rfl

theorem Same.symm {r r' : Response} (h : r.Same r' slot) : r'.Same r slot := by
  cases slot with
  | session key => exact ⟨h.1.symm, h.2.symm⟩
  | _ => exact Eq.symm h

theorem Same.trans {r r' r'' : Response} (h : r.Same r' slot) (h' : r'.Same r'' slot) :
    r.Same r'' slot := by
  cases slot with
  | session key => exact ⟨h.1.trans h'.1, h.2.trans h'.2⟩
  | _ => exact Eq.trans h h'

/-- Responses with the same in every place are the same. -/
theorem ext_same {r r' : Response} (h : ∀ slot, r.Same r' slot) : r = r' := by
  have hCookies : r.cookies = r'.cookies := Dictionary.ext_find? fun name => h (.cookie name)
  have hHeaders : r.headers = r'.headers := Dictionary.ext_find? fun name => h (.header name)
  have hSet : r.session.set = r'.session.set := Dictionary.ext_find? fun key => (h (.session key)).1
  have hRemoved : r.session.removed = r'.session.removed :=
    Dictionary.ext_find? fun key => (h (.session key)).2
  have hRedirect : r.redirect = r'.redirect := h .redirect
  obtain ⟨cookies, headers, ⟨set, removed⟩, redirect⟩ := r
  obtain ⟨cookies', headers', ⟨set', removed'⟩, redirect'⟩ := r'
  simp only at hCookies hHeaders hSet hRemoved hRedirect
  rw [hCookies, hHeaders, hSet, hRemoved, hRedirect]

theorem same_setHeader {name : HeaderName} (h : slot ≠ .header name.text) (r : Response)
    (value : HeaderValue) : (r.setHeader name value).Same r slot := by
  cases slot with
  | cookie other => rfl
  | header other =>
    have hName : other ≠ name.text := fun hSame => h (hSame ▸ rfl)
    exact (Dictionary.find?_insert r.headers name.text value other).trans (if_neg hName)
  | session key => exact ⟨rfl, rfl⟩
  | redirect => rfl

theorem same_setSessionValue {key : String} (h : slot ≠ .session key) (r : Response)
    (value : String) : (r.setSessionValue key value).Same r slot := by
  cases slot with
  | cookie name => rfl
  | header name => rfl
  | session other =>
    have hKey : other ≠ key := fun hSame => h (hSame ▸ rfl)
    exact ⟨(Dictionary.find?_insert r.session.set key value other).trans (if_neg hKey),
      (Dictionary.find?_erase r.session.removed key other).trans (if_neg hKey)⟩
  | redirect => rfl

theorem same_redirectTo (h : slot ≠ .redirect) (r : Response) (target : String) :
    (r.redirectTo target).Same r slot := by
  cases slot with
  | cookie name => rfl
  | header name => rfl
  | session key => exact ⟨rfl, rfl⟩
  | redirect => exact absurd rfl h

/-- A change leaves every place but its own as it was. -/
theorem same_change {c : Change} (h : slot ≠ c.slot) (r : Response) : (r.change c).Same r slot := by
  cases c with
  | setCookie cookie => exact same_setCookie h r
  | removeCookie cookie =>
    have hName : slot ≠ .cookie cookie.removal.name := h
    exact same_setCookie hName r
  | setHeader name value => exact same_setHeader h r value
  | removeHeader name => exact same_removeHeader h r
  | setSessionValue key value => exact same_setSessionValue h r value
  | removeSessionValue key => exact same_removeSessionValue h r
  | redirectTo target => exact same_redirectTo h r target

/-- What a change makes of its own place does not depend on the response. -/
theorem same_own (c : Change) (r r' : Response) : (r.change c).Same (r'.change c) c.slot := by
  cases c with
  | setCookie cookie => exact (r.cookie?_setCookie cookie).trans (r'.cookie?_setCookie cookie).symm
  | removeCookie cookie =>
    exact (r.cookie?_setCookie cookie.removal).trans (r'.cookie?_setCookie cookie.removal).symm
  | setHeader name value =>
    exact (r.headers.find?_insert_self name.text value).trans
      (r'.headers.find?_insert_self name.text value).symm
  | removeHeader name =>
    exact (r.headers.find?_erase_self name.text).trans (r'.headers.find?_erase_self name.text).symm
  | setSessionValue key value =>
    exact ⟨(r.session.set.find?_insert_self key value).trans
        (r'.session.set.find?_insert_self key value).symm,
      (r.session.removed.find?_erase_self key).trans (r'.session.removed.find?_erase_self key).symm⟩
  | removeSessionValue key =>
    exact ⟨(r.session.set.find?_erase_self key).trans (r'.session.set.find?_erase_self key).symm,
      (r.session.removed.find?_insert_self key ()).trans
        (r'.session.removed.find?_insert_self key ()).symm⟩
  | redirectTo target => rfl

/-- Changes of two places may be made in either order. -/
theorem change_comm {a b : Change} (h : a.slot ≠ b.slot) (r : Response) :
    (r.change a).change b = (r.change b).change a := by
  refine ext_same fun slot => ?_
  by_cases hFirst : slot = a.slot
  · subst hFirst
    exact (same_change h (r.change a)).trans (same_own a r (r.change b))
  · have hLater : ((r.change b).change a).Same (r.change b) slot := same_change hFirst (r.change b)
    by_cases hSecond : slot = b.slot
    · subst hSecond
      exact (same_own b (r.change a) r).trans hLater.symm
    · have hEarlier : ((r.change a).change b).Same (r.change a) slot :=
        same_change hSecond (r.change a)
      exact (hEarlier.trans (same_change hFirst r)).trans
        (hLater.trans (same_change hSecond r)).symm

/-! ## The last change of a place -/

/-- The last change of a place. -/
def last? (slot : Slot) (changes : List Change) : Option Change :=
  changes.reverse.find? fun c => c.slot = slot

theorem last?_concat (slot : Slot) (changes : List Change) (c : Change) :
    last? slot (changes ++ [c]) = if c.slot = slot then some c else last? slot changes := by
  rw [last?, List.reverse_concat, List.find?_cons]
  by_cases hSlot : c.slot = slot <;> simp [hSlot, last?]

theorem slot_of_last? {changes : List Change} {c : Change} (h : last? slot changes = some c) :
    c.slot = slot := by
  simpa using List.find?_some h

theorem mem_of_last? {changes : List Change} {c : Change} (h : last? slot changes = some c) :
    c ∈ changes :=
  List.mem_reverse.mp (List.mem_of_find?_eq_some h)

/-- In each place there is what the last change of that place makes of an empty response. -/
theorem same_made (changes : List Change) (slot : Slot) :
    (made changes).Same (((last? slot changes).map (({} : Response).change)).getD {}) slot := by
  induction changes using List.reverseRecOn with
  | nil => exact Same.refl {} slot
  | append_singleton changes c ih =>
    rw [made_concat, last?_concat]
    by_cases hSlot : c.slot = slot
    · rw [if_pos hSlot]
      subst hSlot
      exact same_own c (made changes) {}
    · rw [if_neg hSlot]
      exact (same_change (Ne.symm hSlot) (made changes)).trans ih

/-- The cookie that a change sets. -/
def Change.cookie? : Change → Option Cookie
  | .setCookie cookie => some cookie
  | .removeCookie cookie => some cookie.removal
  | _ => none

/-- The value that a change sets a header to. -/
def Change.value? : Change → Option HeaderValue
  | .setHeader _ value => some value
  | _ => none

/-- The target that a change redirects to. -/
def Change.target? : Change → Option String
  | .redirectTo target => some target
  | _ => none

theorem cookie?_made (changes : List Change) (name : String) :
    (made changes).cookie? name = (last? (.cookie name) changes).bind Change.cookie? := by
  have hSame : (made changes).cookie? name = _ := same_made changes (.cookie name)
  rw [hSame]
  cases hLast : last? (.cookie name) changes with
  | none => rfl
  | some c =>
    have hSlot : c.slot = .cookie name := slot_of_last? hLast
    cases c with
    | setCookie cookie =>
      obtain rfl := Slot.cookie.inj hSlot
      exact cookie?_setCookie {} cookie
    | removeCookie cookie =>
      obtain rfl := Slot.cookie.inj hSlot
      exact cookie?_setCookie {} cookie.removal
    | _ => cases hSlot

theorem find?_headers_made (changes : List Change) (name : String) :
    (made changes).headers.find? name = (last? (.header name) changes).bind Change.value? := by
  have hSame : (made changes).headers.find? name = _ := same_made changes (.header name)
  rw [hSame]
  cases hLast : last? (.header name) changes with
  | none => rfl
  | some c =>
    have hSlot : c.slot = .header name := slot_of_last? hLast
    cases c with
    | setHeader other value =>
      obtain rfl := Slot.header.inj hSlot
      exact Dictionary.find?_insert_self .empty other.text value
    | removeHeader other => rfl
    | _ => cases hSlot

theorem redirect_made (changes : List Change) :
    (made changes).redirect = (last? .redirect changes).bind Change.target? := by
  have hSame : (made changes).redirect = _ := same_made changes .redirect
  rw [hSame]
  cases hLast : last? .redirect changes with
  | none => rfl
  | some c =>
    have hSlot : c.slot = .redirect := slot_of_last? hLast
    cases c with
    | redirectTo target => rfl
    | _ => cases hSlot

/-! ## Once and again -/

theorem removeCookie_removeCookie (r : Response) (c : Cookie) :
    (r.removeCookie c).removeCookie c = r.removeCookie c := by
  simp only [removeCookie, setCookie, Dictionary.insert_insert]

theorem removeHeader_removeHeader (r : Response) (name : HeaderName) :
    (r.removeHeader name).removeHeader name = r.removeHeader name := by
  simp only [removeHeader, Dictionary.erase_erase]

theorem removeSessionValue_removeSessionValue (r : Response) (key : String) :
    (r.removeSessionValue key).removeSessionValue key = r.removeSessionValue key := by
  simp only [removeSessionValue, SessionChanges.erase, Dictionary.erase_erase,
    Dictionary.insert_insert]

end Response

end WebLogin
