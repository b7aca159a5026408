import WebLogin.Proofs.Bytes.Utf8
import WebLogin.Proofs.Web.Response

/-!
# Browsers and sessions between requests

A browser keeps the cookies that reach it, one for each name, domain and path, and drops those that are
over. A cookie reaches it in a header, so that one whose text no header can have does not.

* `isSome_header?_iff`: which cookies can be written. The removal of a cookie can be, if any cookie of
  its identity can (`isSome_header?_removal`).
* `Browser.lacks_take`: after a response with the removal of a cookie, a browser has no cookie of that
  identity, whatever else it keeps.
* `Held.take`: what a response makes of the cookies of a browser and of the session at the host.
-/

namespace WebLogin

/-! ## What can be written -/

/-- A text all of whose bytes may stand in the value of a header. -/
def HeaderValue.Sendable (text : List Char) : Prop := ∀ b ∈ Utf8.encode text, isHeaderByte b = true

namespace HeaderValue

theorem isSome_ofString?_iff {s : String} : (ofString? s).isSome = true ↔ Sendable s.toList := by
  unfold ofString? ofBytes?
  split
  · next h => exact iff_of_true rfl (List.all_eq_true.mp h)
  · next h => exact iff_of_false Bool.false_ne_true fun hAll => h (List.all_eq_true.mpr hAll)

theorem sendable_append {front back : List Char} :
    Sendable (front ++ back) ↔ Sendable front ∧ Sendable back := by
  simp only [Sendable, Utf8.encode_append, List.forall_mem_append]

/-- Texts behind each other can be sent exactly if each can. -/
theorem sendable_join {texts : List String} :
    Sendable (String.join texts).toList ↔ ∀ text ∈ texts, Sendable text.toList := by
  induction texts with
  | nil => exact iff_of_true (fun b hb => absurd hb List.not_mem_nil) fun _ h => nomatch h
  | cons text texts ih =>
    rw [String.join_cons, String.toList_append, sendable_append, ih, List.forall_mem_cons]

instance (text : List Char) : Decidable (Sendable text) :=
  decidable_of_iff ((Utf8.encode text).all isHeaderByte = true) List.all_eq_true

end HeaderValue

namespace Cookie

open HeaderValue

/-- A cookie can be written exactly if its name and value and each of its attributes can. -/
theorem isSome_header?_iff {c : Cookie} :
    c.header?.isSome = true ↔ Sendable c.pair ∧ ∀ a ∈ c.attributes, Sendable a.toList := by
  have hMark : Sendable "; ".toList := by decide
  rw [header?, isSome_ofString?_iff, text, String.toList_append, String.toList_ofList,
    sendable_append, sendable_join, List.forall_mem_map]
  simp only [String.toList_append, sendable_append, hMark, true_and]

theorem mem_attributes {c : Cookie} {a : String} :
    a ∈ c.attributes ↔
      (c.httpOnly = some true ∧ a = "HttpOnly") ∨
      (∃ rule, c.sameSite = some rule ∧ a = "SameSite=" ++ rule.text) ∨
      (c.isSecure = true ∧ a = "Secure") ∨
      (∃ path, c.path = some path ∧ a = "Path=" ++ path) ∨
      (∃ domain, c.bareDomain = some domain ∧ a = "Domain=" ++ domain) ∨
      (∃ age, c.maxAge = some age ∧ a = "Max-Age=" ++ toString age.wholeSeconds) ∨
      (∃ expiry, c.expires = some expiry ∧ a = "Expires=" ++ Expiry.text expiry) := by
  simp only [attributes, List.mem_filterMap, List.mem_cons, List.not_mem_nil, or_false, id_eq]
  simp only [exists_eq_right, eq_comm (a := some a), Option.map_eq_some_iff,
    Option.ite_none_right_eq_some, Option.some.injEq, eq_comm (b := a)]

/-- What a browser knows a cookie by. -/
structure Identity where
  name : String
  domain : Option String
  path : Option String
  deriving DecidableEq

def identity (c : Cookie) : Identity := ⟨c.name, c.bareDomain, c.path⟩

/-- What is written of a removal is the name, the path and the domain, and besides these only fixed
words. -/
theorem isSome_header?_removal {c d : Cookie} (hSame : d.identity = c.identity)
    (hWritten : d.header?.isSome = true) : c.removal.header?.isSome = true := by
  obtain ⟨hName, hDomain, hPath⟩ : d.name = c.name ∧ d.bareDomain = c.bareDomain ∧ d.path = c.path := by
    simpa only [identity, Identity.mk.injEq] using hSame
  obtain ⟨hPair, hAttributes⟩ := isSome_header?_iff.mp hWritten
  refine isSome_header?_iff.mpr ⟨?_, fun a ha => ?_⟩
  · rw [pair, sendable_append, hName] at hPair
    have hEnd : Sendable ('=' :: encode "") := by decide
    exact sendable_append.mpr ⟨hPair.1, hEnd⟩
  · rcases mem_attributes.mp ha with ⟨-, rfl⟩ | ⟨rule, -, rfl⟩ | ⟨-, rfl⟩ | ⟨path, hFound, rfl⟩ |
      ⟨domain, hFound, rfl⟩ | ⟨age, hFound, rfl⟩ | ⟨expiry, hFound, rfl⟩
    · decide
    · cases rule <;> decide
    · decide
    · apply hAttributes
      exact mem_attributes.mpr (.inr (.inr (.inr (.inl ⟨path, hPath.trans hFound, rfl⟩))))
    · apply hAttributes
      exact mem_attributes.mpr (.inr (.inr (.inr (.inr (.inl ⟨domain, hDomain.trans hFound, rfl⟩)))))
    · obtain rfl : Duration.zero = age := Option.some.inj hFound
      decide
    · obtain rfl : Expiry.past = expiry := Option.some.inj hFound
      decide

/-- Whether a cookie is over at an instant. Its age counts before its expiry, and without either it
lasts as long as the browser's session. -/
def isOver (c : Cookie) (now : Instant) : Bool :=
  match c.maxAge, c.expires with
  | some age, _ => age.wholeSeconds ≤ 0
  | none, some (.at time) => time ≤ now
  | none, some .past => true
  | none, none => false

end Cookie

/-! ## Browsers -/

/-- The cookies that a browser keeps, each of which came in a header. -/
structure Browser where
  cookies : List Cookie
  written : ∀ c ∈ cookies, c.header?.isSome = true

namespace Browser

/-- Nothing is kept under an identity. -/
def Lacks (b : Browser) (identity : Cookie.Identity) : Prop :=
  ∀ c ∈ b.cookies, c.identity ≠ identity

/-- The browser without the cookie of an identity. -/
def drop (b : Browser) (identity : Cookie.Identity) : Browser where
  cookies := b.cookies.filter fun c => c.identity ≠ identity
  written c hc := b.written c (List.mem_filter.mp hc).1

/-- Keeps a cookie that can be written in place of one of its identity, or drops that one if the cookie
is over. -/
def receive (b : Browser) (now : Instant) (c : Cookie) : Browser :=
  if h : c.header?.isSome = true then
    if c.isOver now then b.drop c.identity
    else ⟨c :: (b.drop c.identity).cookies, List.forall_mem_cons.mpr ⟨h, (b.drop c.identity).written⟩⟩
  else b

/-- Receives the cookies of a response. -/
def take (b : Browser) (now : Instant) (r : Response) : Browser :=
  r.cookies.entries.foldl (fun b e => b.receive now e.2) b

variable {b : Browser} {identity : Cookie.Identity} {now : Instant}

theorem lacks_drop (b : Browser) (identity : Cookie.Identity) :
    (b.drop identity).Lacks identity :=
  fun _ hc => of_decide_eq_true (List.mem_filter.mp hc).2

theorem Lacks.drop (h : b.Lacks identity) (other : Cookie.Identity) :
    (b.drop other).Lacks identity := fun c hc => h c (List.mem_filter.mp hc).1

/-- A cookie of another identity changes nothing about this one. -/
theorem Lacks.receive (h : b.Lacks identity) {c : Cookie} (hOther : c.identity ≠ identity) :
    (b.receive now c).Lacks identity := by
  unfold Browser.receive
  split
  · split
    · exact h.drop c.identity
    · exact List.forall_mem_cons.mpr ⟨hOther, h.drop c.identity⟩
  · exact h

/-- The removal of a cookie leaves none of its identity, and if it cannot be written there was none. -/
theorem lacks_receive_removal (b : Browser) (now : Instant) (c : Cookie) :
    (b.receive now c.removal).Lacks c.identity := by
  unfold receive
  split
  · have hOver : c.removal.isOver now = true := by rfl
    rw [if_pos hOver]
    exact b.lacks_drop c.identity
  · next hUnwritten =>
    intro d hd hSame
    exact hUnwritten (Cookie.isSome_header?_removal hSame (b.written d hd))

theorem Lacks.foldl_receive {entries : List (String × Cookie)}
    (hOthers : ∀ e ∈ entries, e.2.identity ≠ identity) {b : Browser} (h : b.Lacks identity) :
    (entries.foldl (fun b e => b.receive now e.2) b).Lacks identity := by
  induction entries generalizing b with
  | nil => exact h
  | cons e rest ih =>
    obtain ⟨hOther, hRest⟩ := List.forall_mem_cons.mp hOthers
    rw [List.foldl_cons]
    exact ih hRest (h.receive hOther)

/-- After a response with the removal of a cookie nothing is kept under its identity. -/
theorem lacks_take {r : Response} (hNamed : r.Named) {c : Cookie}
    (hRemoval : r.cookie? c.name = some c.removal) (b : Browser) (now : Instant) :
    (b.take now r).Lacks c.identity := by
  obtain ⟨before, after, hEntries⟩ :=
    List.append_of_mem (Dictionary.find?_eq_some_iff.mp hRemoval)
  -- what follows the removal has other names
  have hAfter : ∀ e ∈ after, e.2.identity ≠ c.identity := by
    intro e he hSame
    have hSorted := r.cookies.sorted
    rw [hEntries, List.pairwise_append, List.pairwise_cons] at hSorted
    have hLess : c.name < e.1 := hSorted.2.1.1 e he
    have hEntry : (e.1, e.2) ∈ r.cookies.entries := by
      rw [hEntries]
      exact List.mem_append_right _ (List.mem_cons_of_mem _ he)
    have hOwn : e.2.name = e.1 := hNamed e.1 e.2 (Dictionary.find?_eq_some_iff.mpr hEntry)
    have hName : e.2.name = c.name := congrArg Cookie.Identity.name hSame
    rw [← hOwn, hName] at hLess
    exact String.lt_irrefl _ hLess
  rw [take, hEntries, List.foldl_append, List.foldl_cons]
  exact Lacks.foldl_receive hAfter (lacks_receive_removal _ now c)

end Browser

/-! ## What is held for a client -/

/-- What is held for a client from one request to the next: the cookies of its browser, and its session
at the host. -/
structure Held where
  browser : Browser
  session : Dictionary String

/-- Takes in a response at an instant. -/
def Held.take (held : Held) (now : Instant) (r : Response) : Held :=
  ⟨held.browser.take now r, r.session.applyTo held.session⟩

end WebLogin
