import WebLogin.Proofs.Text.Percent
import WebLogin.Proofs.Text.Split
import WebLogin.Proofs.Web.Request

/-!
# Written cookies

The name and the value of a cookie are written in characters of tokens only, so that nothing in them is
taken for a separator or cut off as a blank, whatever the texts are.

* `isTokenChar_of_mem_encode`, `decode?_encode`: the characters that are written, and that they are read
  back.
* `readPairs_pair`: a written name and value are read as that name and that value.
* `readPairs_join`: what is read of pieces with `"; "` between them is what is read of each.
* `cookiePair_header?`, `cookieName?_header?`: the pair and the name in the header that sets a cookie.
-/

namespace WebLogin

/-! ## Characters of tokens -/

theorem isTokenChar_spec {c : Char} (hc : isTokenChar c = true) :
    (32 < c.toNat ∧ c.toNat < 127) ∧ c ≠ ';' ∧ c ≠ '=' ∧ Text.isBlank c = false := by
  have hAll : ∀ n ∈ List.range 128, isTokenChar (Char.ofNat n) = true →
      (32 < n ∧ n < 127) ∧ Char.ofNat n ≠ ';' ∧ Char.ofNat n ≠ '=' ∧
        Text.isBlank (Char.ofNat n) = false := by
    decide +kernel
  have hLess : c.toNat < 128 := by
    rw [isTokenChar, Bool.or_eq_true, List.contains_iff_mem] at hc
    have hBelow {bound : UInt32} (hMost : c.val ≤ bound) (hBound : bound.toNat < 128) :
        c.toNat < 128 := Nat.lt_of_le_of_lt (UInt32.le_iff_toNat_le.mp hMost) hBound
    rcases hc with hAlphanum | hMark
    · rcases Bool.or_eq_true_iff.mp hAlphanum with hAlpha | hDigit
      · rcases Bool.or_eq_true_iff.mp hAlpha with hUpper | hLower
        · exact hBelow (of_decide_eq_true hUpper).2 (by decide)
        · exact hBelow (of_decide_eq_true (Bool.and_eq_true_iff.mp hLower).2) (by decide)
      · exact hBelow (of_decide_eq_true (Bool.and_eq_true_iff.mp hDigit).2) (by decide)
    · have hMarks : ∀ d ∈ tokenMarks, d.toNat < 128 := by simp [tokenMarks]
      exact hMarks c hMark
  have hChar := hAll c.toNat (List.mem_range.mpr hLess)
  rw [Char.ofNat_toNat] at hChar
  exact hChar hc

namespace Text

theorem trimChars_space_cons (text : List Char) : trimChars (' ' :: text) = trimChars text := by
  rw [trimChars, List.dropWhile_cons_of_pos (by decide)]
  rfl

theorem trimChars_of_notBlank {text : List Char} (hText : ∀ c ∈ text, isBlank c = false) :
    trimChars text = text := by
  have hKept {l : List Char} (hl : ∀ c ∈ l, isBlank c = false) : l.dropWhile isBlank = l := by
    cases l with
    | nil => rfl
    | cons c rest => exact List.dropWhile_cons_of_neg (by simp [hl c List.mem_cons_self])
  rw [trimChars, hKept hText, hKept fun c hc => hText c (List.mem_reverse.mp hc),
    List.reverse_reverse]

end Text

namespace Cookie

/-! ## Names and values -/

theorem keepable_isPlain : Percent.Keepable isPlain := by
  have hAll : ∀ n ∈ List.range 256, isPlain (UInt8.ofNat n) = true →
      n < 128 ∧ n ≠ Percent.sign.toNat := by
    decide +kernel
  intro b hPlain
  have hb := hAll b.toNat (List.mem_range.mpr b.toNat_lt)
  rw [UInt8.ofNat_toNat] at hb
  exact ⟨(hb hPlain).1, fun hSign => (hb hPlain).2 (congrArg UInt8.toNat hSign)⟩

/-- What is written for a name or a value could be a token. -/
theorem isTokenChar_of_mem_encode {s : String} {c : Char} (hc : c ∈ encode s) :
    isTokenChar c = true := by
  have hAll : ∀ n ∈ List.range 256, isPlain (UInt8.ofNat n) = true →
      isTokenChar (Char.ofNat n) = true := by
    decide +kernel
  rcases Percent.mem_encode hc with ⟨b, hPlain, rfl⟩ | rfl | ⟨n, hn, rfl⟩
  · have hb := hAll b.toNat (List.mem_range.mpr b.toNat_lt)
    rw [UInt8.ofNat_toNat] at hb
    exact hb hPlain
  · decide
  · rw [isTokenChar, (Percent.digitByte_spec hn).2.2, Bool.true_or]

theorem decode?_encode (s : String) : decode? (encode s) = some s := by
  rw [decode?, encode, Percent.decode_encode keepable_isPlain, Utf8.decode_encode]
  exact congrArg some String.ofList_toList

theorem encode_ne_nil {s : String} (hs : s ≠ "") : encode s ≠ [] := by
  intro hNil
  have hEmpty : decode? [] = some "" := decode?_encode ""
  have hBack := decode?_encode s
  rw [hNil, hEmpty] at hBack
  exact hs (Option.some.inj hBack).symm

theorem trimChars_encode (s : String) : Text.trimChars (encode s) = encode s :=
  Text.trimChars_of_notBlank fun _ hc => (isTokenChar_spec (isTokenChar_of_mem_encode hc)).2.2.2

/-! ## Pairs -/

variable {c : Cookie}

theorem mem_pair {d : Char} (hd : d ∈ c.pair) : isTokenChar d = true ∨ d = '=' := by
  rcases List.mem_append.mp hd with hName | hRest
  · exact .inl (isTokenChar_of_mem_encode hName)
  · rcases List.mem_cons.mp hRest with hMark | hValue
    · exact .inr hMark
    · exact .inl (isTokenChar_of_mem_encode hValue)

theorem visible_of_mem_pair {d : Char} (hd : d ∈ c.pair) : 32 < d.toNat ∧ d.toNat < 127 := by
  rcases mem_pair hd with hToken | rfl
  · exact (isTokenChar_spec hToken).1
  · decide

theorem semicolon_notMem_pair : ';' ∉ c.pair := by
  intro hMem
  rcases mem_pair hMem with hToken | hMark
  · exact (isTokenChar_spec hToken).2.1 rfl
  · exact absurd hMark (by decide)

theorem equals_notMem_encode (s : String) : '=' ∉ encode s :=
  fun hMem => (isTokenChar_spec (isTokenChar_of_mem_encode hMem)).2.2.1 rfl

theorem readPair?_pair (hName : c.name ≠ "") : readPair? c.pair = some (c.name, c.value) := by
  have hCut : Text.cutFirst? '=' c.pair = some (encode c.name, encode c.value) :=
    Text.cutFirst?_eq_some_iff.mpr ⟨rfl, equals_notMem_encode c.name⟩
  simp only [readPair?, hCut, Option.bind_eq_bind, Option.bind_some, trimChars_encode,
    if_neg (encode_ne_nil hName), decode?_encode, Option.pure_def]

/-- A written name and value are read as that name and that value. -/
theorem readPairs_pair (hName : c.name ≠ "") : readPairs c.pair = [(c.name, c.value)] := by
  rw [readPairs, Text.splitAll_of_notMem semicolon_notMem_pair]
  exact List.filterMap_cons_some (readPair?_pair hName)

/-! ## Pieces of a header -/

theorem readPair?_space_cons (piece : List Char) : readPair? (' ' :: piece) = readPair? piece := by
  have hOther : ' ' ≠ '=' := by decide
  cases hCut : Text.cutFirst? '=' piece with
  | none => simp [readPair?, Text.cutFirst?, hOther, hCut]
  | some parts => simp [readPair?, Text.cutFirst?, hOther, hCut, Text.trimChars_space_cons]

theorem readPairs_space_cons (header : List Char) : readPairs (' ' :: header) = readPairs header := by
  have hOther : ' ' ≠ ';' := by decide
  rw [readPairs, readPairs, Text.splitAll, if_neg hOther]
  cases hPieces : Text.splitAll ';' header with
  | nil => exact absurd hPieces (Text.splitAll_ne_nil ';' header)
  | cons piece pieces => simp only [List.filterMap_cons, readPair?_space_cons]

theorem readPairs_append (front back : List Char) :
    readPairs (front ++ ';' :: back) = readPairs front ++ readPairs back := by
  simp only [readPairs, Text.splitAll_append, List.filterMap_append]

/-- The pieces with a semicolon and a space between them. -/
def join (pieces : List (List Char)) : List Char := List.intercalate [';', ' '] pieces

theorem join_cons_cons (piece next : List Char) (pieces : List (List Char)) :
    join (piece :: next :: pieces) = piece ++ ';' :: ' ' :: join (next :: pieces) := by
  simp [join, List.intercalate, List.intersperse]

/-- Each piece of a header is read on its own. -/
theorem readPairs_join (pieces : List (List Char)) :
    readPairs (join pieces) = pieces.flatMap readPairs := by
  induction pieces with
  | nil => rfl
  | cons piece pieces ih =>
    cases pieces with
    | nil => simp [join, List.intercalate]
    | cons next pieces =>
      rw [join_cons_cons, readPairs_append, readPairs_space_cons, ih]
      rfl

end Cookie

/-! ## The header that sets a cookie -/

namespace HeaderValue

/-- What a header value that sets a cookie says before the attributes: the written name and value. -/
def cookiePair (v : HeaderValue) : List UInt8 := v.bytes.takeWhile (· ≠ Percent.byteOf ';')

/-- The name of the cookie that a header value sets. -/
def cookieName? (v : HeaderValue) : Option String :=
  (Utf8.decode (Percent.decode (v.bytes.takeWhile (· ≠ Percent.byteOf '=')))).toOption.map
    String.ofList

end HeaderValue

namespace Utf8

variable {front : List Char} {separator : Char}

/-- A separator of ASCII that is not in a text of ASCII is not among its bytes. -/
theorem ne_of_mem_encode (hFront : ∀ c ∈ front, c.toNat < 128 ∧ c ≠ separator)
    (hSeparator : separator.toNat < 128) {b : UInt8} (hb : b ∈ encode front) :
    b ≠ Percent.byteOf separator := by
  rw [encode_ascii fun c hc => (hFront c hc).1] at hb
  obtain ⟨c, hc, rfl⟩ := List.mem_map.mp hb
  obtain ⟨hLess, hNe⟩ := hFront c hc
  intro hSame
  have hNat := congrArg UInt8.toNat hSame
  simp only [Percent.byteOf, UInt8.toNat_ofNat_of_lt' (show c.toNat < 256 by omega),
    UInt8.toNat_ofNat_of_lt' (show separator.toNat < 256 by omega)] at hNat
  exact hNe (Char.toNat_inj.mp hNat)

/-- The bytes of a text up to the separator that follows it, if anything follows. -/
theorem takeWhile_encode (hFront : ∀ c ∈ front, c.toNat < 128 ∧ c ≠ separator)
    (hSeparator : separator.toNat < 128) {back : List Char}
    (hBack : ∀ c, back.head? = some c → c = separator) :
    (encode (front ++ back)).takeWhile (· ≠ Percent.byteOf separator) = encode front := by
  rw [encode_append,
    List.takeWhile_append_of_pos fun b hb => decide_eq_true (ne_of_mem_encode hFront hSeparator hb)]
  cases back with
  | nil => exact List.append_nil (encode front)
  | cons c rest =>
    obtain rfl := hBack c rfl
    rw [encode_cons_ascii hSeparator, List.takeWhile_cons_of_neg (by simp [Percent.byteOf]),
      List.append_nil]

end Utf8

namespace Cookie

open HeaderValue

variable {c : Cookie} {v : HeaderValue}

theorem bytes_of_header? (h : c.header? = some v) :
    v.bytes = Utf8.encode (c.pair ++ (String.join (c.attributes.map ("; " ++ ·))).toList) := by
  rw [bytes_of_ofString? h, Utf8.bytes, text, String.toList_append, String.toList_ofList]

/-- The attributes of a cookie are cut off at the first semicolon. -/
theorem cookiePair_header? (h : c.header? = some v) : v.cookiePair = Utf8.encode c.pair := by
  have hPair : ∀ d ∈ c.pair, d.toNat < 128 ∧ d ≠ ';' := fun d hd =>
    ⟨by have := visible_of_mem_pair hd; omega, fun hMark => semicolon_notMem_pair (hMark ▸ hd)⟩
  rw [cookiePair, bytes_of_header? h]
  refine Utf8.takeWhile_encode hPair (by decide) fun d hd => ?_
  cases hAttributes : c.attributes with
  | nil =>
    rw [hAttributes] at hd
    cases hd
  | cons first rest =>
    rw [hAttributes, List.map_cons, String.join_cons, String.toList_append, String.toList_append] at hd
    exact (Option.some.inj hd).symm

theorem cookieName?_header? (h : c.header? = some v) : v.cookieName? = some c.name := by
  have hName : ∀ d ∈ encode c.name, d.toNat < 128 ∧ d ≠ '=' := fun d hd =>
    ⟨Percent.lt_of_mem_encode keepable_isPlain hd, fun hMark => equals_notMem_encode c.name (hMark ▸ hd)⟩
  have hFront (back : List Char) :
      (Utf8.encode (encode c.name ++ '=' :: back)).takeWhile (· ≠ Percent.byteOf '=') =
        Utf8.encode (encode c.name) :=
    Utf8.takeWhile_encode hName (by decide) fun d hd => (Option.some.inj hd).symm
  rw [cookieName?, bytes_of_header? h, pair, List.append_assoc, List.cons_append, hFront]
  exact decode?_encode c.name

end Cookie

end WebLogin
