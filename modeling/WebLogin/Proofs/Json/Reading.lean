import WebLogin.Json.Form
import WebLogin.Proofs.Bytes.Utf8
import WebLogin.Proofs.Json.Scalar

/-!
# Reading what was written

The text of a value is read as the tree of that value, as long as its numbers are integers that are
kept exactly. Strings and keys may hold anything.

* `tokensFrom?_write`: the text of a value is cut into the tokens of the value.
* `run_tokens`: the tokens of a value build its tree and put it where it belongs.
* `tree?_render`, `ofBytes?_write`: the two together, for a string and for its bytes.
-/

namespace WebLogin.Json

/-! ## The tokens of a value -/

mutual

/-- Every number of a value is kept exactly. -/
def Exact : Json → Prop
  | .number n => n.Exact
  | .array elements => ElementsExact elements
  | .object members => MembersExact members
  | _ => True

/-- Every number of the elements is kept exactly. -/
def ElementsExact : List Json → Prop
  | [] => True
  | v :: vs => Exact v ∧ ElementsExact vs

/-- Every number of the members is kept exactly. -/
def MembersExact : List (String × Json) → Prop
  | [] => True
  | (_, v) :: ms => Exact v ∧ MembersExact ms

end

mutual

/-- The tokens of a value. -/
def tokens : Json → List Token
  | .null => [.null]
  | .bool b => [.bool b]
  | .number n => [.number (some n)]
  | .string s => [.string (some s)]
  | .array [] => [.openArray, .closeArray]
  | .array (v :: vs) => .openArray :: (tokens v ++ elementTokens vs)
  | .object [] => [.openObject, .closeObject]
  | .object ((k, v) :: ms) =>
    .openObject :: .string (some k) :: .colon :: (tokens v ++ memberTokens ms)

/-- The tokens of the elements after the first, each after a comma. -/
def elementTokens : List Json → List Token
  | [] => [.closeArray]
  | v :: vs => .comma :: (tokens v ++ elementTokens vs)

/-- The tokens of the members after the first, each after a comma. -/
def memberTokens : List (String × Json) → List Token
  | [] => [.closeObject]
  | (k, v) :: ms => .comma :: .string (some k) :: .colon :: (tokens v ++ memberTokens ms)

end

/-! ## Cutting the text -/

theorem endsWord_writeElements (vs : List Json) (rest : List Char) :
    EndsWord (writeElements vs ++ rest) := by
  cases vs with
  | nil =>
    intro c hc
    obtain rfl : ']' = c := by simpa [writeElements] using hc
    decide
  | cons v vs =>
    intro c hc
    obtain rfl : ',' = c := by simpa [writeElements] using hc
    decide

theorem endsWord_writeMembers (ms : List (String × Json)) (rest : List Char) :
    EndsWord (writeMembers ms ++ rest) := by
  cases ms with
  | nil =>
    intro c hc
    obtain rfl : '\x7d' = c := by simpa [writeMembers] using hc
    decide
  | cons m ms =>
    intro c hc
    obtain rfl : ',' = c := by simpa [writeMembers] using hc
    decide

/-- A character that is a token of its own. -/
theorem tokensFrom?_single {c : Char} {token : Token} (h : start c = (some token, .between))
    (rest : List Char) :
    tokensFrom? Mode.step .between (c :: rest) =
      (tokensFrom? Mode.step .between rest).map (token :: ·) := by
  have hstep : Mode.step c .between = some ([token], .between) := by
    simp [Mode.step, h]
  rw [tokensFrom?_cons hstep]
  rfl

theorem tokensFrom?_literal {word rest : List Char} {token : Token} (hne : word ≠ [])
    (hword : word ∈ [['n', 'u', 'l', 'l'], ['t', 'r', 'u', 'e'], ['f', 'a', 'l', 's', 'e']])
    (htoken : wordToken? word.reverse = some token) (hrest : EndsWord rest) :
    tokensFrom? Mode.step .between (word ++ rest) =
      (tokensFrom? Mode.step .between rest).map (token :: ·) := by
  have hchars : ∀ c ∈ word, IsWordChar c := by
    intro c hc
    simp only [List.mem_cons, List.not_mem_nil, or_false] at hword
    rcases hword with rfl | rfl | rfl <;>
      simp only [List.mem_cons, List.not_mem_nil, or_false] at hc <;>
      rcases hc with rfl | rfl | rfl | rfl | rfl <;> rfl
  exact tokensFrom?_word hne hchars htoken hrest

/-- A key and its colon before a value. -/
theorem tokensFrom?_key (k : String) (rest : List Char) :
    tokensFrom? Mode.step .between (writeString k ++ ':' :: rest) =
      (tokensFrom? Mode.step .between rest).map (.string (some k) :: .colon :: ·) := by
  rw [tokensFrom?_string, tokensFrom?_single rfl, Option.map_map]
  rfl

mutual

/-- The text of a value is cut into its tokens, before any rest that ends a word. -/
theorem tokensFrom?_write : ∀ {v : Json}, v.Exact → ∀ {rest : List Char}, EndsWord rest →
    tokensFrom? Mode.step .between (write v ++ rest) =
      (tokensFrom? Mode.step .between rest).map (tokens v ++ ·)
  | .null, _, _, hrest => tokensFrom?_literal (by decide) (by decide) rfl hrest
  | .bool true, _, _, hrest => tokensFrom?_literal (by decide) (by decide) rfl hrest
  | .bool false, _, _, hrest => tokensFrom?_literal (by decide) (by decide) rfl hrest
  | .number n, hv, rest, hrest => by
    have hne : n.write ≠ [] := by
      intro h
      have hnil := wordToken?_number hv
      rw [h] at hnil
      cases hnil
    exact tokensFrom?_word hne (fun _ => isWordChar_of_mem_write hv) (wordToken?_number hv) hrest
  | .string s, _, rest, _ => tokensFrom?_string s rest
  | .array [], _, rest, _ => by
    simp only [write, tokens, List.cons_append, List.nil_append]
    rw [tokensFrom?_single rfl, tokensFrom?_single rfl, Option.map_map]
    rfl
  | .array (v :: vs), hv, rest, hrest => by
    obtain ⟨hv, hvs⟩ := hv
    simp only [write, tokens, List.cons_append, List.append_assoc]
    rw [tokensFrom?_single rfl, tokensFrom?_write hv (endsWord_writeElements vs rest),
      tokensFrom?_writeElements hvs, Option.map_map, Option.map_map]
    simp [Function.comp_def]
  | .object [], _, rest, _ => by
    simp only [write, tokens, List.cons_append, List.nil_append]
    rw [tokensFrom?_single rfl, tokensFrom?_single rfl, Option.map_map]
    rfl
  | .object ((k, v) :: ms), hv, rest, hrest => by
    obtain ⟨hv, hms⟩ := hv
    simp only [write, tokens, List.cons_append, List.append_assoc]
    rw [tokensFrom?_single rfl, tokensFrom?_key, tokensFrom?_write hv (endsWord_writeMembers ms rest),
      tokensFrom?_writeMembers hms, Option.map_map, Option.map_map, Option.map_map]
    simp [Function.comp_def]

theorem tokensFrom?_writeElements : ∀ {vs : List Json}, ElementsExact vs → ∀ {rest : List Char},
    tokensFrom? Mode.step .between (writeElements vs ++ rest) =
      (tokensFrom? Mode.step .between rest).map (elementTokens vs ++ ·)
  | [], _, rest => tokensFrom?_single rfl rest
  | v :: vs, hvs, rest => by
    obtain ⟨hv, hvs⟩ := hvs
    simp only [writeElements, elementTokens, List.cons_append, List.append_assoc]
    rw [tokensFrom?_single rfl, tokensFrom?_write hv (endsWord_writeElements vs rest),
      tokensFrom?_writeElements hvs, Option.map_map, Option.map_map]
    simp [Function.comp_def]

theorem tokensFrom?_writeMembers : ∀ {ms : List (String × Json)}, MembersExact ms →
    ∀ {rest : List Char},
    tokensFrom? Mode.step .between (writeMembers ms ++ rest) =
      (tokensFrom? Mode.step .between rest).map (memberTokens ms ++ ·)
  | [], _, rest => tokensFrom?_single rfl rest
  | (k, v) :: ms, hms, rest => by
    obtain ⟨hv, hms⟩ := hms
    simp only [writeMembers, memberTokens, List.cons_append, List.append_assoc]
    rw [tokensFrom?_single rfl, tokensFrom?_key, tokensFrom?_write hv (endsWord_writeMembers ms rest),
      tokensFrom?_writeMembers hms, Option.map_map, Option.map_map, Option.map_map]
    simp [Function.comp_def]

end

/-! ## Building the tree -/

namespace Builder

@[simp] theorem run_nil (b : Builder) : b.run [] = some b := rfl

@[simp] theorem run_cons (b : Builder) (token : Token) (rest : List Token) :
    b.run (token :: rest) = (b.step token).bind (·.run rest) := rfl

/-- A value may come next. It may also be the first element of an array. -/
def AwaitsValue (expect : Expect) : Prop := expect = .value ∨ expect = .element

theorem step_value {expect : Expect} (h : AwaitsValue expect) (stack : List Frame) {token : Token}
    (hopen : token ≠ .closeArray) : step ⟨stack, expect⟩ token = startValue stack token := by
  rcases h with rfl | rfl
  · rfl
  · simp [step, hopen]

theorem openArray_ne : Token.openArray ≠ .closeArray := by decide

theorem openObject_ne : Token.openObject ≠ .closeArray := by decide

theorem deliver_array (tree : Tree) (done : List Tree) (stack : List Frame) :
    deliver tree (.array done :: stack) = some ⟨.array (tree :: done) :: stack, .more⟩ := rfl

theorem deliver_member (tree : Tree) (done : List (Option String × Tree)) (key : Option String)
    (stack : List Frame) :
    deliver tree (.member done key :: stack) =
      some ⟨.object ((key, tree) :: done) :: stack, .more⟩ := rfl

mutual

/-- The tokens of a value build its tree and put it where it belongs. -/
theorem run_tokens : ∀ (v : Json) {expect : Expect}, AwaitsValue expect →
    ∀ (stack : List Frame) (rest : List Token),
    run ⟨stack, expect⟩ (tokens v ++ rest) = (deliver (.ofValue v) stack).bind (·.run rest)
  | .null, _, h, stack, rest => by
    simp [tokens, Tree.ofValue, step_value h, startValue]
  | .bool b, _, h, stack, rest => by
    simp [tokens, Tree.ofValue, step_value h, startValue]
  | .number n, _, h, stack, rest => by
    simp [tokens, Tree.ofValue, step_value h, startValue]
  | .string s, _, h, stack, rest => by
    simp [tokens, Tree.ofValue, step_value h, startValue]
  | .array [], _, h, stack, rest => by
    simp only [tokens, Tree.ofValue, Tree.ofElements, List.cons_append, List.nil_append, run_cons,
      step_value h stack openArray_ne, startValue, Option.bind_some]
    rfl
  | .array (v :: vs), _, h, stack, rest => by
    have hfirst := run_tokens v (.inr rfl) (.array [] :: stack) (elementTokens vs ++ rest)
    simp only [tokens, Tree.ofValue, Tree.ofElements, List.cons_append, List.append_assoc,
      run_cons, step_value h stack openArray_ne, startValue,
      Option.bind_some]
    rw [hfirst, deliver_array, Option.bind_some, run_elementTokens vs]
    rfl
  | .object [], _, h, stack, rest => by
    simp only [tokens, Tree.ofValue, Tree.ofMemberValues, List.cons_append, List.nil_append,
      run_cons, step_value h stack openObject_ne, startValue,
      Option.bind_some]
    rfl
  | .object ((k, v) :: ms), _, h, stack, rest => by
    have hfirst := run_tokens v (.inl rfl) (.member [] (some k) :: stack) (memberTokens ms ++ rest)
    simp only [tokens, Tree.ofValue, Tree.ofMemberValues, List.cons_append, List.append_assoc,
      run_cons, step_value h stack openObject_ne, startValue,
      Option.bind_some]
    have hkey : step ⟨.object [] :: stack, .member⟩ (.string (some k)) =
        some ⟨.member [] (some k) :: stack, .colon⟩ := rfl
    have hcolon : step ⟨.member [] (some k) :: stack, .colon⟩ .colon =
        some ⟨.member [] (some k) :: stack, .value⟩ := rfl
    rw [hkey, Option.bind_some, hcolon, Option.bind_some, hfirst, deliver_member,
      Option.bind_some, run_memberTokens ms]
    rfl

/-- The tokens after an element complete the array. -/
theorem run_elementTokens : ∀ (vs : List Json) (done : List Tree) (stack : List Frame)
    (rest : List Token),
    run ⟨.array done :: stack, .more⟩ (elementTokens vs ++ rest) =
      (deliver (.array (done.reverse ++ Tree.ofElements vs)) stack).bind (·.run rest)
  | [], done, stack, rest => by
    simp [elementTokens, Tree.ofElements, step, closeArray]
  | v :: vs, done, stack, rest => by
    have hcomma : step ⟨.array done :: stack, .more⟩ .comma = some ⟨.array done :: stack, .value⟩ :=
      rfl
    have hfirst := run_tokens v (.inl rfl) (.array done :: stack) (elementTokens vs ++ rest)
    simp only [elementTokens, Tree.ofElements, List.cons_append, List.append_assoc, run_cons]
    rw [hcomma, Option.bind_some, hfirst, deliver_array, Option.bind_some, run_elementTokens vs,
      List.reverse_cons, List.append_assoc]
    rfl

/-- The tokens after a member complete the object. -/
theorem run_memberTokens : ∀ (ms : List (String × Json)) (done : List (Option String × Tree))
    (stack : List Frame) (rest : List Token),
    run ⟨.object done :: stack, .more⟩ (memberTokens ms ++ rest) =
      (deliver (.object (done.reverse ++ Tree.ofMemberValues ms)) stack).bind (·.run rest)
  | [], done, stack, rest => by
    simp [memberTokens, Tree.ofMemberValues, step, closeObject]
  | (k, v) :: ms, done, stack, rest => by
    have hcomma : step ⟨.object done :: stack, .more⟩ .comma = some ⟨.object done :: stack, .key⟩ :=
      rfl
    have hkey : step ⟨.object done :: stack, .key⟩ (.string (some k)) =
        some ⟨.member done (some k) :: stack, .colon⟩ := rfl
    have hcolon : step ⟨.member done (some k) :: stack, .colon⟩ .colon =
        some ⟨.member done (some k) :: stack, .value⟩ := rfl
    have hfirst := run_tokens v (.inl rfl) (.member done (some k) :: stack) (memberTokens ms ++ rest)
    simp only [memberTokens, Tree.ofMemberValues, List.cons_append, List.append_assoc, run_cons]
    rw [hcomma, Option.bind_some, hkey, Option.bind_some, hcolon, Option.bind_some, hfirst,
      deliver_member, Option.bind_some, run_memberTokens ms, List.reverse_cons, List.append_assoc]
    rfl

end

end Builder

theorem build?_tokens (v : Json) : build? (tokens v) = some (.ofValue v) := by
  have hrun := Builder.run_tokens v (.inl rfl) [] []
  rw [List.append_nil] at hrun
  rw [build?, hrun]
  rfl
/-! ## Strings and bytes -/

theorem ofChars?_write {v : Json} (hv : v.Exact) : Tree.ofChars? v.write = some (.ofValue v) := by
  have hend : EndsWord [] := fun c hc => by cases hc
  have hcut := tokensFrom?_write hv hend
  have htokens : tokens? v.write = some (tokens v) := by
    rw [List.append_nil] at hcut
    rw [tokens?, hcut]
    simp [tokensFrom?, Mode.finish]
  rw [Tree.ofChars?, htokens]
  exact build?_tokens v

/-- A value is read back from its text. -/
theorem tree?_render {v : Json} (hv : v.Exact) : tree? v.render = some (.ofValue v) := by
  rw [tree?, render, String.toList_ofList]
  exact ofChars?_write hv

theorem tokensFrom?_stepBytes (mode : Mode) (text : List Char) :
    tokensFrom? Mode.stepBytes mode (text.map some) = tokensFrom? Mode.step mode text := by
  induction text generalizing mode with
  | nil => rfl
  | cons c text ih =>
    rw [List.map_cons, tokensFrom?, tokensFrom?]
    simp only [Mode.stepBytes, ih]

/-- Bytes that are text are read as that text. -/
theorem ofBytes?_encode (text : List Char) :
    Tree.ofBytes? (Utf8.encode text) = Tree.ofChars? text := by
  rw [Tree.ofBytes?, tokensOfBytes?, Utf8.decodeEach_encode, tokensFrom?_stepBytes]
  rfl

/-- A value is read back from the bytes of its text. -/
theorem ofBytes?_write {v : Json} (hv : v.Exact) :
    Tree.ofBytes? (Utf8.encode v.write) = some (.ofValue v) := by
  rw [ofBytes?_encode]
  exact ofChars?_write hv

end WebLogin.Json
