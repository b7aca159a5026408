import WebLogin.Authenticator.Kinds

/-!
# How the text of a record begins

An authenticator is read from an array or from an object that is not empty. So its text begins,
perhaps after blanks, with a bracket, or with a brace and a quote.

* `exists_first_token`: what is open becomes the first token.
* `recordFront_of_ofChars?`: the beginnings of a text whose tree has fields.
* `Form.OfRecord`: what is read begins so, and what is written.
-/

namespace WebLogin.Json

/-! ## The first token -/

/-- What can become of an open part of a text. -/
def Mode.Becomes : Mode → Token → Prop
  | .between, _ => False
  | .word _, token => ∃ chars, wordToken? chars = some token
  | .string _, token => ∃ s, token = .string s
  | .escape _, token => ∃ s, token = .string s
  | .unit .., token => ∃ s, token = .string s

theorem Mode.step_cases {c : Char} {mode next : Mode} {tokens : List Token}
    (hOpen : mode ≠ .between) (hStep : mode.step c = some (tokens, next)) :
    (∃ token rest, tokens = token :: rest ∧ mode.Becomes token) ∨
      tokens = [] ∧ next ≠ .between ∧ next.Becomes = mode.Becomes := by
  cases mode with
  | between => exact absurd rfl hOpen
  | word chars =>
    simp only [step] at hStep
    split at hStep
    · obtain ⟨token, hWord, hNext⟩ := Option.bind_eq_some_iff.mp hStep
      cases hNext
      exact .inl ⟨token, _, rfl, chars, hWord⟩
    · cases hStep
      exact .inr ⟨rfl, by simp, rfl⟩
  | string pieces =>
    simp only [step] at hStep
    split at hStep
    · cases hStep
      exact .inl ⟨_, [], rfl, _, rfl⟩
    · split at hStep
      · cases hStep
        exact .inr ⟨rfl, by simp, rfl⟩
      · split at hStep
        · cases hStep
        · cases hStep
          exact .inr ⟨rfl, by simp, rfl⟩
  | escape pieces =>
    simp only [step] at hStep
    split at hStep
    · cases hStep
      exact .inr ⟨rfl, by simp, rfl⟩
    · obtain ⟨e, -, hNext⟩ := Option.map_eq_some_iff.mp hStep
      cases hNext
      exact .inr ⟨rfl, by simp, rfl⟩
  | unit pieces count value =>
    obtain ⟨digit, -, hNext⟩ := Option.bind_eq_some_iff.mp hStep
    dsimp only at hNext
    split at hNext
    · cases hNext
      exact .inr ⟨rfl, by simp, rfl⟩
    · cases hNext
      exact .inr ⟨rfl, by simp, rfl⟩

theorem exists_first_token {mode : Mode} {text : List Char} {tokens : List Token}
    (hOpen : mode ≠ .between) (hTokens : tokensFrom? Mode.step mode text = some tokens) :
    ∃ token rest, tokens = token :: rest ∧ mode.Becomes token := by
  induction text generalizing mode tokens with
  | nil =>
    cases mode with
    | between => exact absurd rfl hOpen
    | word chars =>
      obtain ⟨token, hWord, rfl⟩ := Option.map_eq_some_iff.mp hTokens
      exact ⟨token, [], rfl, chars, hWord⟩
    | string pieces => cases hTokens
    | escape pieces => cases hTokens
    | unit pieces count value => cases hTokens
  | cons c text ih =>
    simp only [tokensFrom?, Option.bind_eq_bind, Option.bind_eq_some_iff] at hTokens
    obtain ⟨⟨now, next⟩, hStep, later, hLater, hAll⟩ := hTokens
    cases hAll
    rcases Mode.step_cases hOpen hStep with ⟨token, rest, rfl, hToken⟩ | ⟨rfl, hNext, hSame⟩
    · exact ⟨token, rest ++ later, rfl, hToken⟩
    · rw [← hSame]
      exact ih hNext hLater

theorem exists_word_token {chars : List Char} {token : Token}
    (hWord : wordToken? chars = some token) :
    token = .null ∨ (∃ b, token = .bool b) ∨ ∃ n, token = .number n := by
  unfold wordToken? at hWord
  dsimp only at hWord
  split at hWord
  · cases hWord
    exact .inl rfl
  · split at hWord
    · cases hWord
      exact .inr (.inl ⟨true, rfl⟩)
    · split at hWord
      · cases hWord
        exact .inr (.inl ⟨false, rfl⟩)
      · obtain ⟨numeral, -, rfl⟩ := Option.map_eq_some_iff.mp hWord
        exact .inr (.inr ⟨_, rfl⟩)

theorem start_cases {c : Char} (hBlank : isBlank c = false) :
    c = '\x7b' ∧ start c = (some .openObject, .between) ∨
      c = '[' ∧ start c = (some .openArray, .between) ∨
      (∃ token ∈ [.closeObject, .closeArray, .colon, .comma], start c = (some token, .between)) ∨
      c = '"' ∧ start c = (none, .string []) ∨ start c = (none, .word [c]) := by
  fun_cases start c with
  | case1 hBrace => exact .inl ⟨hBrace, rfl⟩
  | case2 => exact .inr (.inr (.inl ⟨.closeObject, by simp, rfl⟩))
  | case3 _ _ hBracket => exact .inr (.inl ⟨hBracket, rfl⟩)
  | case4 => exact .inr (.inr (.inl ⟨.closeArray, by simp, rfl⟩))
  | case5 => exact .inr (.inr (.inl ⟨.colon, by simp, rfl⟩))
  | case6 => exact .inr (.inr (.inl ⟨.comma, by simp, rfl⟩))
  | case7 _ _ _ _ _ _ hQuote => exact .inr (.inr (.inr (.inl ⟨hQuote, rfl⟩)))
  | case8 _ _ _ _ _ _ _ hIs => exact absurd hIs (by simp [hBlank])
  | case9 => exact .inr (.inr (.inr (.inr rfl)))

/-- Only a bracket, a brace or a quote begins what is no word. -/
theorem first_token_cases {c : Char} {rest : List Char} {tokens : List Token}
    (hBlank : isBlank c = false)
    (hTokens : tokensFrom? Mode.step .between (c :: rest) = some tokens) :
    ∃ token later, tokens = token :: later ∧ (token = .openArray → c = '[') ∧
      (token = .openObject → c = '\x7b' ∧ tokensFrom? Mode.step .between rest = some later) ∧
      ∀ s, token = .string s → c = '"' := by
  simp only [tokensFrom?, Mode.step, Option.bind_eq_bind, Option.bind_some,
    Option.bind_eq_some_iff] at hTokens
  obtain ⟨later, hLater, hAll⟩ := hTokens
  cases hAll
  rcases start_cases hBlank with ⟨rfl, hStart⟩ | ⟨rfl, hStart⟩ | ⟨token, hToken, hStart⟩ |
    ⟨rfl, hStart⟩ | hStart
  · rw [hStart] at hLater ⊢
    exact ⟨.openObject, later, rfl, by simp, fun _ => ⟨rfl, hLater⟩, by simp⟩
  · rw [hStart]
    exact ⟨.openArray, later, rfl, fun _ => rfl, by simp, by simp⟩
  · rw [hStart]
    refine ⟨token, later, rfl, ?_, ?_, ?_⟩
    · rintro rfl
      simp at hToken
    · rintro rfl
      simp at hToken
    · rintro s rfl
      simp at hToken
  · rw [hStart] at hLater ⊢
    obtain ⟨token, rest, rfl, s, rfl⟩ := exists_first_token (by simp) hLater
    exact ⟨.string s, rest, rfl, by simp, by simp, fun _ _ => rfl⟩
  · rw [hStart] at hLater ⊢
    obtain ⟨token, rest, rfl, chars, hWord⟩ := exists_first_token (by simp) hLater
    refine ⟨token, rest, rfl, ?_⟩
    rcases exists_word_token hWord with rfl | ⟨b, rfl⟩ | ⟨n, rfl⟩
    · simp
    · simp
    · simp

/-! ## The tree of a record -/

/-- An array, or an object that has members. -/
def Tree.Filled : Tree → Prop
  | .array _ => True
  | .object members => members ≠ []
  | _ => False

namespace Builder

theorem tree?_run_finished {tree found : Tree} {stack : List Frame} {tokens : List Token}
    (hTree : ((Builder.mk stack (.finished tree)).run tokens).bind tree? = some found) :
    found = tree := by
  cases tokens with
  | nil => exact (Option.some.inj hTree).symm
  | cons token rest => cases hTree

/-- Only a bracket or a brace begins an array or an object. -/
theorem opens_of_filled {tokens : List Token} {tree : Tree} (hTree : build? tokens = some tree)
    (hFilled : tree.Filled) :
    (∃ rest, tokens = .openArray :: rest) ∨ ∃ rest, tokens = .openObject :: rest ∧
      ((Builder.mk [.object []] .member).run rest).bind tree? = some tree := by
  cases tokens with
  | nil => cases hTree
  | cons token rest =>
    have hScalar (scalar : Tree) (hNot : ¬scalar.Filled)
        (hFinished : ((Builder.mk [] (.finished scalar)).run rest).bind tree? = some tree) :
        False := by
      rw [tree?_run_finished hFinished] at hFilled
      exact hNot hFilled
    cases token with
    | openArray => exact .inl ⟨rest, rfl⟩
    | openObject => exact .inr ⟨rest, rfl, hTree⟩
    | null => exact (hScalar .null id hTree).elim
    | bool b => exact (hScalar (.bool b) id hTree).elim
    | number n => exact (hScalar (.number n) id hTree).elim
    | string s => exact (hScalar (.string s) id hTree).elim
    | closeObject => cases hTree
    | closeArray => cases hTree
    | colon => cases hTree
    | comma => cases hTree

/-- An object that has members begins with a key. -/
theorem key_of_filled {tokens : List Token} {tree : Tree}
    (hTree : ((Builder.mk [.object []] .member).run tokens).bind tree? = some tree)
    (hFilled : tree.Filled) : ∃ s rest, tokens = .string s :: rest := by
  cases tokens with
  | nil => cases hTree
  | cons token rest =>
    cases token with
    | string s => exact ⟨s, rest, rfl⟩
    | closeObject =>
      have hEmpty : tree = .object [] := tree?_run_finished hTree
      exact absurd rfl (hEmpty ▸ hFilled : Tree.Filled (.object []))
    | _ => cases hTree

end Builder

/-- How the text of an array or of an object with members may begin. -/
inductive RecordFront : List Char → Prop where
  | blank {c : Char} (rest : List Char) (hBlank : isBlank c = true) : RecordFront (c :: rest)
  | array (rest : List Char) : RecordFront ('[' :: rest)
  | spaced {c : Char} (rest : List Char) (hBlank : isBlank c = true) :
    RecordFront ('\x7b' :: c :: rest)
  | object (rest : List Char) : RecordFront ('\x7b' :: '"' :: rest)

theorem recordFront_of_ofChars? {text : List Char} {tree : Tree}
    (hTree : Tree.ofChars? text = some tree) (hFilled : tree.Filled) : RecordFront text := by
  obtain ⟨tokens, hTokens, hBuild⟩ := Option.bind_eq_some_iff.mp hTree
  cases text with
  | nil =>
    cases hTokens
    cases hBuild
  | cons c rest =>
    by_cases hBlank : isBlank c = true
    · exact .blank rest hBlank
    · obtain ⟨token, later, rfl, hArray, hObject, -⟩ :=
        first_token_cases (Bool.eq_false_iff.mpr hBlank) hTokens
      rcases Builder.opens_of_filled hBuild hFilled with ⟨_, hOpens⟩ | ⟨members, hOpens, hMembers⟩
      · rw [hArray (List.cons.inj hOpens).1]
        exact .array rest
      · obtain ⟨hToken, rfl⟩ := List.cons.inj hOpens
        obtain ⟨rfl, hLater⟩ := hObject hToken
        obtain ⟨s, others, rfl⟩ := Builder.key_of_filled hMembers hFilled
        cases rest with
        | nil => cases hLater
        | cons d rest =>
          by_cases hBlank : isBlank d = true
          · exact .spaced rest hBlank
          · obtain ⟨key, after, hKey, -, -, hString⟩ :=
              first_token_cases (Bool.eq_false_iff.mpr hBlank) hLater
            rw [hString s (List.cons.inj hKey).1.symm]
            exact .object rest

theorem blank_cases {c : Char} (hBlank : isBlank c = true) :
    c = ' ' ∨ c = '\n' ∨ c = '\t' ∨ c = '\r' := by
  simpa [isBlank, or_assoc] using hBlank

theorem RecordFront.bytes {text : List Char} (hFront : RecordFront text) :
    ∃ first rest, Utf8.encode text = first :: rest ∧ (first.toNat ∈ [9, 10, 13, 32, 91] ∨
      first = 123 ∧ ∃ second others, rest = second :: others ∧
        second.toNat ∈ [9, 10, 13, 32, 34]) := by
  cases hFront with
  | blank rest hBlank =>
    rcases blank_cases hBlank with rfl | rfl | rfl | rfl
    · exact ⟨32, _, rfl, .inl (by decide)⟩
    · exact ⟨10, _, rfl, .inl (by decide)⟩
    · exact ⟨9, _, rfl, .inl (by decide)⟩
    · exact ⟨13, _, rfl, .inl (by decide)⟩
  | array rest => exact ⟨91, _, rfl, .inl (by decide)⟩
  | spaced rest hBlank =>
    rcases blank_cases hBlank with rfl | rfl | rfl | rfl
    · exact ⟨123, _, rfl, .inr ⟨rfl, 32, _, rfl, by decide⟩⟩
    · exact ⟨123, _, rfl, .inr ⟨rfl, 10, _, rfl, by decide⟩⟩
    · exact ⟨123, _, rfl, .inr ⟨rfl, 9, _, rfl, by decide⟩⟩
    · exact ⟨123, _, rfl, .inr ⟨rfl, 13, _, rfl, by decide⟩⟩
  | object rest => exact ⟨123, _, rfl, .inr ⟨rfl, 34, _, rfl, by decide⟩⟩

/-! ## Authenticators -/

namespace Form

/-- Only what has fields is read, and what is written begins as what has fields. -/
structure OfRecord {α : Type} (form : Form α) : Prop where
  filled : ∀ {tree : Tree} {a : α}, form.read? tree = some a → tree.Filled
  front : ∀ a, RecordFront (form.render a).toList

theorem OfRecord.recordFront {α : Type} {form : Form α} {json : String} {a : α}
    (hForm : form.OfRecord) (hParse : form.parse? json = some a) : RecordFront json.toList := by
  obtain ⟨tree, hTree, hRead⟩ := Option.bind_eq_some_iff.mp hParse
  exact recordFront_of_ofChars? hTree (hForm.filled hRead)

theorem ofRecord_cookieAuthenticator : cookieAuthenticator.OfRecord := by
  constructor
  · intro tree a hRead
    cases tree with
    | array elements => trivial
    | object members =>
      rintro rfl
      cases hRead
    | _ => cases hRead
  · intro a
    rw [render, Json.render, String.toList_ofList]
    exact .object _

theorem ofRecord_sessionAuthenticator : sessionAuthenticator.OfRecord := by
  constructor
  · intro tree a hRead
    cases tree with
    | array elements => trivial
    | object members =>
      rintro rfl
      cases hRead
    | _ => cases hRead
  · intro a
    rw [render, Json.render, String.toList_ofList]
    exact .object _

end Form

end WebLogin.Json
