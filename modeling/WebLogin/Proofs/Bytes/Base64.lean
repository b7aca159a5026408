import Mathlib.Data.List.TakeWhile
import WebLogin.Bytes.Base64
import WebLogin.Proofs.Bytes.Utf8

/-!
# Base64 and its bytes

Reading Base64 without padding is the exact inverse of writing it.

* `values_codes`, `codes_of_values`, `symbol_injective`: symbols and their values.
* `group_sextets`, `sextets_group`: up to three bytes and the two, three or four values that spell
  them; `Grouped` says which values spell bytes, with no bits left over.
* `decode_eq_ok_iff`: a list of bytes is read exactly if it is the written form of the result. So
  there is no second spelling through padding, left-over bits or the other alphabet.
-/

namespace WebLogin.Base64

/-! ## Symbols as bytes -/

/-- The symbol of a value, as a byte. -/
def Alphabet.code (alphabet : Alphabet) (value : Nat) : UInt8 :=
  UInt8.ofNat (alphabet.symbol value).toNat

theorem symbol_ascii (alphabet : Alphabet) (value : Nat) :
    (alphabet.symbol value).toNat < 128 := by
  unfold Alphabet.symbol
  split
  · rw [Utf8.toNat_ofNat] <;> simp <;> omega
  split
  · rw [Utf8.toNat_ofNat] <;> simp <;> omega
  split
  · rw [Utf8.toNat_ofNat] <;> simp <;> omega
  split <;> cases alphabet <;> decide

theorem value?_code (alphabet : Alphabet) {value : Nat} (h : value < 64) :
    alphabet.value? (alphabet.code value) = some value := by
  have all : ∀ v ∈ List.range 64, alphabet.value? (alphabet.code v) = some v := by
    cases alphabet <;> decide
  exact all value (List.mem_range.mpr h)

theorem code_of_value? {alphabet : Alphabet} {b : UInt8} {value : Nat}
    (h : alphabet.value? b = some value) : value < 64 ∧ alphabet.code value = b := by
  have hA : 'A'.toNat = 65 := rfl
  have hZ : 'Z'.toNat = 90 := rfl
  have ha : 'a'.toNat = 97 := rfl
  have hz : 'z'.toNat = 122 := rfl
  have h0 : '0'.toNat = 48 := rfl
  have h9 : '9'.toNat = 57 := rfl
  simp only [Alphabet.value?, hA, hZ, ha, hz, h0, h9] at h
  unfold Alphabet.code Alphabet.symbol
  split at h
  · obtain rfl := Option.some.inj h
    rw [if_pos (by omega), hA, Utf8.toNat_ofNat (by omega)]
    exact ⟨by omega, Utf8.eq_ofNat (by omega)⟩
  split at h
  · obtain rfl := Option.some.inj h
    rw [if_neg (by omega), if_pos (by omega), ha, Utf8.toNat_ofNat (by omega)]
    exact ⟨by omega, Utf8.eq_ofNat (by omega)⟩
  split at h
  · obtain rfl := Option.some.inj h
    rw [if_neg (by omega), if_neg (by omega), if_pos (by omega), h0, Utf8.toNat_ofNat (by omega)]
    exact ⟨by omega, Utf8.eq_ofNat (by omega)⟩
  split at h
  · next hn =>
    obtain rfl := Option.some.inj h
    exact ⟨by decide, by simpa using Utf8.eq_ofNat hn⟩
  split at h
  · next hn =>
    obtain rfl := Option.some.inj h
    exact ⟨by decide, by simpa using Utf8.eq_ofNat hn⟩
  · cases h

theorem symbol_injective (alphabet : Alphabet) {v w : Nat} (hv : v < 64) (hw : w < 64)
    (h : alphabet.symbol v = alphabet.symbol w) : v = w := by
  have hCode : alphabet.code v = alphabet.code w := by rw [Alphabet.code, Alphabet.code, h]
  have hValue := value?_code alphabet hv
  rw [hCode, value?_code alphabet hw] at hValue
  exact (Option.some.inj hValue).symm

theorem value?_pad (alphabet : Alphabet) : alphabet.value? pad = none := by
  cases alphabet <;> decide

theorem code_ne_pad (alphabet : Alphabet) {value : Nat} (h : value < 64) :
    alphabet.code value ≠ pad := by
  intro he
  have := value?_code alphabet h
  rw [he, value?_pad] at this
  cases this


/-! ## Values -/

theorem values_codes (alphabet : Alphabet) (offset : Nat) {vs : List Nat}
    (h : ∀ v ∈ vs, v < 64) : values alphabet offset (vs.map alphabet.code) = .ok vs := by
  induction vs generalizing offset with
  | nil => rfl
  | cons v vs ih =>
    simp only [List.map_cons, values, value?_code alphabet (h v List.mem_cons_self),
      ih (offset + 1) fun w hw => h w (List.mem_cons_of_mem _ hw)]
    rfl

theorem codes_of_values {alphabet : Alphabet} {offset : Nat} {bs : List UInt8} {vs : List Nat}
    (h : values alphabet offset bs = .ok vs) :
    bs = vs.map alphabet.code ∧ ∀ v ∈ vs, v < 64 := by
  induction bs generalizing offset vs with
  | nil => cases h; simp
  | cons b bs ih =>
    simp only [values] at h
    split at h
    · cases h
    · next v hv =>
      cases hr : values alphabet (offset + 1) bs with
      | error fault => rw [hr] at h; cases h
      | ok ws =>
        rw [hr] at h
        cases h
        obtain ⟨hv64, hcode⟩ := code_of_value? hv
        obtain ⟨rfl, hws⟩ := ih hr
        simp [hcode, hv64]
        exact hws

theorem takeWhile_codes (alphabet : Alphabet) {vs : List Nat} (h : ∀ v ∈ vs, v < 64) :
    (vs.map alphabet.code).takeWhile (· != pad) = vs.map alphabet.code := by
  rw [List.takeWhile_eq_self_iff]
  intro b hb
  obtain ⟨v, hv, rfl⟩ := List.mem_map.mp hb
  simpa using code_ne_pad alphabet (h v hv)

theorem dropWhile_codes (alphabet : Alphabet) {vs : List Nat} (h : ∀ v ∈ vs, v < 64) :
    (vs.map alphabet.code).dropWhile (· != pad) = [] := by
  rw [List.dropWhile_eq_nil_iff]
  intro b hb
  obtain ⟨v, hv, rfl⟩ := List.mem_map.mp hb
  simpa using code_ne_pad alphabet (h v hv)


/-! ## Groups -/

/-- The bits of the last of two or three values that belong to no byte. -/
def leftOver : List Nat → Nat
  | [_, b] => b % 16
  | [_, _, c] => c % 4
  | _ => 0

theorem decodeLast_eq (alphabet : Alphabet) (offset : Nat) (bs : List UInt8) :
    decodeLast alphabet offset bs =
      match values alphabet offset (bs.takeWhile (· != pad)) with
      | .error fault => .error fault
      | .ok vs =>
        if !(bs.dropWhile (· != pad)).isEmpty then
          .error (if (bs.takeWhile (· != pad)).length < 2 || (bs.dropWhile (· != pad)).any (· != pad)
            then .invalidSymbol pad (offset + (bs.takeWhile (· != pad)).length) else .padding)
        else if vs.length = 1 then .error (.invalidLength (offset + 1))
        else if leftOver vs ≠ 0 then
          .error (.invalidLastSymbol ((bs.takeWhile (· != pad)).getLastD pad)
            (offset + (bs.takeWhile (· != pad)).length - 1))
        else .ok (group vs) := by
  unfold decodeLast
  dsimp only
  cases values alphabet offset (bs.takeWhile (· != pad)) with
  | error fault => rfl
  | ok vs =>
    simp only [bind, Except.bind, pure, Except.pure, throw, throwThe, MonadExceptOf.throw]
    split
    · split <;> rfl
    · rfl

theorem decodeLast_eq_ok_iff {alphabet : Alphabet} {offset : Nat} {bs out : List UInt8} :
    decodeLast alphabet offset bs = .ok out ↔
      ∃ vs : List Nat, bs = vs.map alphabet.code ∧ (∀ v ∈ vs, v < 64) ∧ vs.length ≠ 1 ∧
        leftOver vs = 0 ∧ out = group vs := by
  constructor
  · intro h
    rw [decodeLast_eq] at h
    split at h
    · cases h
    · next vs hv =>
      split at h
      · cases h
      split at h
      · cases h
      split at h
      · cases h
      · next hp h1 hl =>
        obtain ⟨hsymbols, h64⟩ := codes_of_values hv
        have hnil : bs.dropWhile (· != pad) = [] := by
          rw [← List.isEmpty_iff]
          simpa only [Bool.not_eq_true', Bool.not_eq_false] using hp
        have hbs : bs = vs.map alphabet.code := by
          rw [← hsymbols, ← List.takeWhile_append_dropWhile (p := (· != pad)) (l := bs), hnil,
            List.append_nil, List.takeWhile_idem]
        exact ⟨vs, hbs, h64, h1, not_not.mp hl, (Except.ok.inj h).symm⟩
  · rintro ⟨vs, rfl, h64, h1, hl, rfl⟩
    rw [decodeLast_eq, takeWhile_codes alphabet h64, dropWhile_codes alphabet h64,
      values_codes alphabet offset h64]
    simp [h1, hl]


/-- The values of up to three bytes. -/
def sextets : List UInt8 → List Nat
  | [x, y, z] => [x.toNat / 4, x.toNat % 4 * 16 + y.toNat / 16, y.toNat % 16 * 4 + z.toNat / 64,
      z.toNat % 64]
  | [x, y] => [x.toNat / 4, x.toNat % 4 * 16 + y.toNat / 16, y.toNat % 16 * 4]
  | [x] => [x.toNat / 4, x.toNat % 4 * 16]
  | _ => []

/-- What the values of a group of up to four symbols are like. -/
structure Grouped (vs : List Nat) : Prop where
  below : ∀ v ∈ vs, v < 64
  short : vs.length ≤ 4
  notOne : vs.length ≠ 1
  nothingLeft : leftOver vs = 0

theorem grouped_sextets {bytes : List UInt8} (h : bytes.length ≤ 3) : Grouped (sextets bytes) := by
  match bytes with
  | [] => exact ⟨by simp [sextets], by simp [sextets], by simp [sextets], rfl⟩
  | [x] =>
    have := x.toNat_lt
    refine ⟨?_, by simp [sextets], by simp [sextets], ?_⟩
    · simp [sextets]; omega
    · simp [sextets, leftOver]
  | [x, y] =>
    have := x.toNat_lt
    have := y.toNat_lt
    refine ⟨?_, by simp [sextets], by simp [sextets], ?_⟩
    · simp [sextets]; omega
    · simp [sextets, leftOver]
  | [x, y, z] =>
    have := x.toNat_lt
    have := y.toNat_lt
    have := z.toNat_lt
    refine ⟨?_, by simp [sextets], by simp [sextets], rfl⟩
    simp [sextets]; omega

theorem group_sextets {bytes : List UInt8} (h : bytes.length ≤ 3) :
    group (sextets bytes) = bytes := by
  match bytes with
  | [] => rfl
  | [x] =>
    have := x.toNat_lt
    simp only [sextets, group]
    rw [@Utf8.eq_ofNat x _ (by omega)]
  | [x, y] =>
    have := x.toNat_lt
    have := y.toNat_lt
    simp only [sextets, group]
    rw [@Utf8.eq_ofNat x _ (by omega), @Utf8.eq_ofNat y _ (by omega)]
  | [x, y, z] =>
    have := x.toNat_lt
    have := y.toNat_lt
    have := z.toNat_lt
    simp only [sextets, group]
    rw [@Utf8.eq_ofNat x _ (by omega), @Utf8.eq_ofNat y _ (by omega),
      @Utf8.eq_ofNat z _ (by omega)]

theorem sextets_group {vs : List Nat} (h : Grouped vs) : sextets (group vs) = vs := by
  have small {n : Nat} (h : n < 256) : (UInt8.ofNat n).toNat = n := UInt8.toNat_ofNat_of_lt' h
  obtain ⟨below, short, notOne, nothingLeft⟩ := h
  match vs with
  | [] => rfl
  | [a] => simp at notOne
  | [a, b] =>
    simp only [List.mem_cons, List.not_mem_nil, or_false, forall_eq_or_imp, forall_eq] at below
    simp only [leftOver] at nothingLeft
    simp only [group, sextets, List.cons.injEq, and_true]
    rw [small (by omega)]
    omega
  | [a, b, c] =>
    simp only [List.mem_cons, List.not_mem_nil, or_false, forall_eq_or_imp, forall_eq] at below
    simp only [leftOver] at nothingLeft
    simp only [group, sextets, List.cons.injEq, and_true]
    rw [small (by omega), small (by omega)]
    omega
  | [a, b, c, d] =>
    simp only [List.mem_cons, List.not_mem_nil, or_false, forall_eq_or_imp, forall_eq] at below
    simp only [group, sextets, List.cons.injEq, and_true]
    rw [small (by omega), small (by omega), small (by omega)]
    omega
  | a :: b :: c :: d :: e :: rest =>
    simp only [List.length_cons] at short
    omega

theorem encode_short (alphabet : Alphabet) {bytes : List UInt8} (h : bytes.length ≤ 3) :
    encode alphabet bytes = (sextets bytes).map alphabet.symbol := by
  match bytes with
  | [] => rfl
  | [x] => rfl
  | [x, y] => rfl
  | [x, y, z] => rfl

theorem encode_append (alphabet : Alphabet) {bytes : List UInt8} (h : bytes.length = 3)
    (rest : List UInt8) :
    encode alphabet (bytes ++ rest) = encode alphabet bytes ++ encode alphabet rest := by
  match bytes with
  | [x, y, z] => rfl

theorem exists_encode_cons (alphabet : Alphabet) (x : UInt8) (rest : List UInt8) :
    ∃ symbols, encode alphabet (x :: rest) = alphabet.symbol (x.toNat / 4) :: symbols := by
  match rest with
  | [] | [_] | _ :: _ :: _ => exact ⟨_, rfl⟩

theorem exists_encode_cons_cons (alphabet : Alphabet) (x y : UInt8) (rest : List UInt8) :
    ∃ symbols, encode alphabet (x :: y :: rest) = alphabet.symbol (x.toNat / 4) ::
      alphabet.symbol (x.toNat % 4 * 16 + y.toNat / 16) :: symbols := by
  match rest with
  | [] | _ :: _ => exact ⟨_, rfl⟩

/-! ## Whole texts -/

/-- Only symbols are written. -/
theorem symbol_of_mem_encode {alphabet : Alphabet} {bytes : List UInt8} {c : Char}
    (h : c ∈ encode alphabet bytes) : ∃ v < 64, c = alphabet.symbol v := by
  induction bytes using encode.induct with
  | case1 x y z rest ih =>
    have := x.toNat_lt
    have := y.toNat_lt
    have := z.toNat_lt
    simp only [encode, List.mem_cons] at h
    rcases h with h | h | h | h | h
    · exact ⟨_, by omega, h⟩
    · exact ⟨_, by omega, h⟩
    · exact ⟨_, by omega, h⟩
    · exact ⟨_, by omega, h⟩
    · exact ih h
  | case2 x y =>
    have := x.toNat_lt
    have := y.toNat_lt
    simp only [encode, List.mem_cons, List.not_mem_nil, or_false] at h
    rcases h with h | h | h
    · exact ⟨_, by omega, h⟩
    · exact ⟨_, by omega, h⟩
    · exact ⟨_, by omega, h⟩
  | case3 x =>
    have := x.toNat_lt
    simp only [encode, List.mem_cons, List.not_mem_nil, or_false] at h
    rcases h with h | h
    · exact ⟨_, by omega, h⟩
    · exact ⟨_, by omega, h⟩
  | case4 => cases h

/-- Three bytes take four symbols, and the last group takes one more than it has bytes. -/
theorem length_encode (alphabet : Alphabet) (bytes : List UInt8) :
    (encode alphabet bytes).length = (4 * bytes.length + 2) / 3 := by
  induction bytes using encode.induct with
  | case1 x y z rest ih =>
    simp only [encode, List.length_cons, ih]
    omega
  | case2 x y => simp only [encode, List.length_cons, List.length_nil]
  | case3 x => simp only [encode, List.length_cons, List.length_nil]
  | case4 => rfl

theorem encode_ascii (alphabet : Alphabet) (bytes : List UInt8) :
    ∀ c ∈ encode alphabet bytes, c.toNat < 128 := by
  intro c hc
  obtain ⟨v, -, rfl⟩ := symbol_of_mem_encode hc
  exact symbol_ascii alphabet v

/-- The written form of some bytes, itself as bytes. -/
def codes (alphabet : Alphabet) (bytes : List UInt8) : List UInt8 :=
  Utf8.encode (encode alphabet bytes)

theorem codes_short (alphabet : Alphabet) {bytes : List UInt8} (h : bytes.length ≤ 3) :
    codes alphabet bytes = (sextets bytes).map alphabet.code := by
  rw [codes, Utf8.encode_ascii (encode_ascii alphabet bytes), encode_short alphabet h, List.map_map]
  rfl

theorem codes_append (alphabet : Alphabet) {bytes : List UInt8} (h : bytes.length = 3)
    (rest : List UInt8) :
    codes alphabet (bytes ++ rest) = codes alphabet bytes ++ codes alphabet rest := by
  simp [codes, encode_append alphabet h, Utf8.encode]

theorem codes_eq_nil {alphabet : Alphabet} {bytes : List UInt8} (h : codes alphabet bytes = []) :
    bytes = [] := by
  rw [codes, Utf8.encode_ascii (encode_ascii alphabet bytes), List.map_eq_nil_iff] at h
  cases bytes using encode.induct with
  | case1 x y z rest ih => cases h
  | case2 x y => cases h
  | case3 x => cases h
  | case4 => rfl

theorem decodeLast_eq_ok_codes {alphabet : Alphabet} {offset : Nat} {bs out : List UInt8}
    (hshort : bs.length ≤ 4) :
    decodeLast alphabet offset bs = .ok out ↔ out.length ≤ 3 ∧ bs = codes alphabet out := by
  rw [decodeLast_eq_ok_iff]
  constructor
  · rintro ⟨vs, rfl, h64, h1, hleft, rfl⟩
    have hg : Grouped vs := ⟨h64, by simpa using hshort, h1, hleft⟩
    have hlen : (group vs).length ≤ 3 := by
      unfold group
      split <;> simp
    exact ⟨hlen, by rw [codes_short alphabet hlen, sextets_group hg]⟩
  · rintro ⟨hlen, rfl⟩
    obtain ⟨below, short, notOne, nothingLeft⟩ := grouped_sextets hlen
    exact ⟨sextets out, codes_short alphabet hlen, below, notOne, nothingLeft,
      (group_sextets hlen).symm⟩

theorem length_group {vs : List Nat} (h : vs.length = 4) : (group vs).length = 3 := by
  match vs with
  | [a, b, c, d] => rfl

theorem codes_group (alphabet : Alphabet) {vs : List Nat} (h : ∀ v ∈ vs, v < 64)
    (hlen : vs.length = 4) : codes alphabet (group vs) = vs.map alphabet.code := by
  match vs with
  | [a, b, c, d] =>
    have hg : Grouped [a, b, c, d] := ⟨h, by simp, by simp, rfl⟩
    rw [codes_short alphabet (by simp [group]), sextets_group hg]

theorem decodeGroups_short (alphabet : Alphabet) (offset : Nat) {bs : List UInt8}
    (h : bs.length ≤ 4) : decodeGroups alphabet offset bs = decodeLast alphabet offset bs := by
  match bs with
  | [] | [_] | [_, _] | [_, _, _] | [_, _, _, _] => rfl
  | a :: b :: c :: d :: e :: rest =>
    simp only [List.length_cons] at h
    omega

theorem codes_of_decodeGroups {alphabet : Alphabet} {offset : Nat} {bs out : List UInt8}
    (h : decodeGroups alphabet offset bs = .ok out) : bs = codes alphabet out := by
  fun_induction decodeGroups alphabet offset bs generalizing out with
  | case1 offset a b c d e rest ih =>
    cases hv : values alphabet offset [a, b, c, d] with
    | error fault => rw [hv] at h; cases h
    | ok vs =>
      cases hr : decodeGroups alphabet (offset + 4) (e :: rest) with
      | error fault => rw [hv, hr] at h; cases h
      | ok more =>
        rw [hv, hr] at h
        cases h
        obtain ⟨hcodes, h64⟩ := codes_of_values hv
        have hlen : vs.length = 4 := by simpa using (congrArg List.length hcodes).symm
        rw [codes_append alphabet (length_group hlen), codes_group alphabet h64 hlen, ← hcodes,
          ← ih hr]
        rfl
  | case2 offset bs hshort =>
    have hlen : bs.length ≤ 4 := by
      by_contra hlong
      match bs with
      | a :: b :: c :: d :: e :: rest => exact hshort a b c d e rest rfl
      | [] | [_] | [_, _] | [_, _, _] | [_, _, _, _] => simp at hlong
    exact ((decodeLast_eq_ok_codes hlen).mp h).2

theorem decodeGroups_codes_short (alphabet : Alphabet) (offset : Nat) {bytes : List UInt8}
    (h : bytes.length ≤ 3) : decodeGroups alphabet offset (codes alphabet bytes) = .ok bytes := by
  have hlen : (codes alphabet bytes).length ≤ 4 := by
    rw [codes_short alphabet h, List.length_map]
    exact (grouped_sextets h).short
  rw [decodeGroups_short alphabet offset hlen]
  exact (decodeLast_eq_ok_codes hlen).mpr ⟨h, rfl⟩

theorem decodeGroups_codes (alphabet : Alphabet) (offset : Nat) (bytes : List UInt8) :
    decodeGroups alphabet offset (codes alphabet bytes) = .ok bytes := by
  induction bytes using encode.induct generalizing offset with
  | case1 x y z rest ih =>
    have hsplit : codes alphabet (x :: y :: z :: rest) =
        (sextets [x, y, z]).map alphabet.code ++ codes alphabet rest := by
      rw [← codes_short alphabet (by simp), ← codes_append alphabet rfl]
      rfl
    have hthree : [x, y, z].length ≤ 3 := by simp
    cases hrest : codes alphabet rest with
    | nil =>
      obtain rfl := codes_eq_nil hrest
      exact decodeGroups_codes_short alphabet offset (by simp)
    | cons e more =>
      obtain ⟨below, -, -, -⟩ := grouped_sextets hthree
      have hv := values_codes alphabet offset below
      have hg := group_sextets hthree
      rw [hsplit, hrest]
      simp only [sextets, List.map_cons, List.map_nil, List.cons_append, List.nil_append] at hv hg ⊢
      rw [decodeGroups, hv, ← hrest, ih]
      simp [bind, Except.bind, pure, Except.pure, hg]
  | case2 x y => exact decodeGroups_codes_short alphabet offset (by simp)
  | case3 x => exact decodeGroups_codes_short alphabet offset (by simp)
  | case4 => exact decodeGroups_codes_short alphabet offset (by simp)

theorem strayLast?_codes (alphabet : Alphabet) (bytes : List UInt8) :
    strayLast? alphabet (codes alphabet bytes) = none := by
  unfold strayLast?
  split
  · next b hb =>
    have hmem := List.mem_of_getLast? hb
    rw [codes, Utf8.encode_ascii (encode_ascii alphabet bytes)] at hmem
    obtain ⟨c, hc, rfl⟩ := List.mem_map.mp hmem
    obtain ⟨v, hv, rfl⟩ := symbol_of_mem_encode hc
    have hvalue : alphabet.value? (UInt8.ofNat (alphabet.symbol v).toNat) = some v :=
      value?_code alphabet hv
    simp [hvalue]
  · rfl

/-- Reading is the exact inverse of writing: each list of bytes has one written form, and nothing
else is read. -/
theorem decode_eq_ok_iff {alphabet : Alphabet} {bs bytes : List UInt8} :
    decode alphabet bs = .ok bytes ↔ bs = codes alphabet bytes := by
  constructor
  · intro h
    unfold decode at h
    split at h
    · cases h
    · exact codes_of_decodeGroups h
  · rintro rfl
    rw [decode, strayLast?_codes]
    exact decodeGroups_codes alphabet 0 bytes

theorem encode_injective {alphabet : Alphabet} {a b : List UInt8}
    (h : encode alphabet a = encode alphabet b) : a = b := by
  have hRead (bytes : List UInt8) : decode alphabet (Utf8.encode (encode alphabet bytes)) = .ok bytes :=
    decode_eq_ok_iff.mpr rfl
  have hSame := hRead a
  rw [h, hRead b] at hSame
  exact (Except.ok.inj hSame).symm

end WebLogin.Base64
