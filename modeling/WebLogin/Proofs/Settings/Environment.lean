import WebLogin.Proofs.Except
import WebLogin.Proofs.Number.Integer
import WebLogin.Settings.Carriers

/-!
# What variables give

* `Environment.read?_eq_ok_iff`, `Environment.readOr_eq_ok_iff`: a variable that is set has a text that its
  reader takes.
* `Variable.seconds_eq_ok_iff`: the texts that are numbers of seconds. No other span is read, and every
  other text is refused (`Variable.exists_fault`).
* `Duration.Settable`: the spans that a variable can give. With their defaults, the expiry and the idle
  timeout of any settings are among them (`Environment.settable_spans`).
-/

namespace WebLogin

namespace Environment

variable {α : Type} {env : Environment} {reader : String → Except VariableFault α} {name : String}

theorem read?_eq_ok_iff {result : Option α} :
    env.read? reader name = .ok result ↔
      env.text? name = none ∧ result = none ∨
        ∃ text a, env.text? name = some text ∧ reader text = .ok a ∧ result = some a := by
  unfold read?
  cases env.text? name with
  | none => simp [eq_comm]
  | some text =>
    cases hRead : reader text with
    | error fault => simp [hRead]
    | ok a => simp [hRead, eq_comm]

theorem readOr_eq_ok_iff {current a : α} :
    env.readOr reader name current = .ok a ↔
      env.text? name = none ∧ a = current ∨
        ∃ text, env.text? name = some text ∧ reader text = .ok a := by
  simp only [readOr, Except.bind_eq_ok_iff, Except.pure_eq_ok_iff, read?_eq_ok_iff]
  constructor
  · rintro ⟨result, ⟨hText, rfl⟩ | ⟨text, b, hText, hRead, rfl⟩, rfl⟩
    · exact .inl ⟨hText, rfl⟩
    · exact .inr ⟨text, hText, hRead⟩
  · rintro (⟨hText, rfl⟩ | ⟨text, hText, hRead⟩)
    · exact ⟨none, .inl ⟨hText, rfl⟩, rfl⟩
    · exact ⟨some a, .inr ⟨text, a, hText, hRead, rfl⟩, rfl⟩

theorem read?_of_error {text : String} {fault : VariableFault} (hText : env.text? name = some text)
    (hRead : reader text = .error fault) : env.read? reader name = .error (.refused name fault) := by
  simp only [read?, hText, hRead]

end Environment

/-! ## Seconds -/

/-- So many seconds within 64 bits are a span of so many seconds. -/
theorem Duration.ofSeconds?_eq_some_iff {n : Int} {d : Duration}
    (hRange : -0x8000000000000000 ≤ n ∧ n < 0x8000000000000000) :
    ofSeconds? n = some d ↔ d.nanoseconds = n * 1000000000 := by
  rw [ofSeconds?, dif_pos hRange, Option.some.injEq]
  constructor
  · rintro rfl
    rfl
  · intro hSame
    cases d
    subst hSame
    rfl

theorem greatestSeconds_eq : greatestSeconds = 3153600000 := rfl

namespace Variable

theorem seconds_of_read {text : String} {n : Nat} (hLeast : 1 ≤ n) {d : Duration}
    (hRead : Integer.read (Text.trimChars text.toList) = .ok (n : Int)) :
    seconds text = .ok d ↔ n ≤ greatestSeconds ∧ d.nanoseconds = n * 1000000000 := by
  have hPositive : ¬(n : Int) ≤ 0 := by omega
  simp only [seconds, hRead, if_neg hPositive, Int.ofNat_le]
  by_cases hMost : n ≤ greatestSeconds
  · have hRange : -0x8000000000000000 ≤ (n : Int) ∧ (n : Int) < 0x8000000000000000 := by
      rw [greatestSeconds_eq] at hMost
      omega
    rw [if_pos hMost, ← Duration.ofSeconds?_eq_some_iff hRange]
    cases Duration.ofSeconds? n <;> simp [hMost]
  · rw [if_neg hMost]
    simp [hMost]

/-- A span is read from a text that, without the blanks at its ends, is a number from one to the greatest
in decimal digits, and is so many seconds. -/
theorem seconds_eq_ok_iff {text : String} {d : Duration} :
    seconds text = .ok d ↔
      ∃ n, Integer.Denotes (Text.trimChars text.toList) n ∧ 1 ≤ n ∧ n ≤ greatestSeconds ∧
        d.nanoseconds = n * 1000000000 := by
  constructor
  · intro hSeconds
    cases hRead : Integer.read (Text.trimChars text.toList) with
    | error fault =>
      rw [seconds, hRead] at hSeconds
      cases hSeconds
    | ok m =>
      have hPositive : 0 < m := by
        by_contra hNot
        rw [seconds, hRead] at hSeconds
        simp only [if_pos (Int.not_lt.mp hNot)] at hSeconds
        cases hSeconds
      obtain ⟨n, rfl⟩ := Int.eq_ofNat_of_zero_le (Int.le_of_lt hPositive)
      have hLeast : 1 ≤ n := by omega
      obtain ⟨hMost, hSpan⟩ := (seconds_of_read hLeast hRead).mp hSeconds
      exact ⟨n, ((Integer.read_eq_ok_iff hLeast).mp hRead).1, hLeast, hMost, hSpan⟩
  · rintro ⟨n, hDenotes, hLeast, hMost, hSpan⟩
    have hFits : n ≤ 0x7fffffffffffffff := by
      rw [greatestSeconds_eq] at hMost
      omega
    have hRead := (Integer.read_eq_ok_iff hLeast).mpr ⟨hDenotes, hFits⟩
    exact (seconds_of_read hLeast hRead).mpr ⟨hMost, hSpan⟩

/-- Every other text is refused. -/
theorem exists_fault {text : String}
    (hOther : ∀ n, Integer.Denotes (Text.trimChars text.toList) n → n < 1 ∨ greatestSeconds < n) :
    ∃ fault, seconds text = .error fault := by
  refine Except.exists_error fun d hSeconds => ?_
  obtain ⟨n, hDenotes, hLeast, hMost, -⟩ := seconds_eq_ok_iff.mp hSeconds
  have hNot := hOther n hDenotes
  omega

end Variable

/-! ## Spans that can be set -/

/-- A span of a second or more, and of no more than the greatest number of seconds. -/
def Duration.Settable (d : Duration) : Prop :=
  1000000000 ≤ d.nanoseconds ∧ d.nanoseconds ≤ greatestSeconds * 1000000000

theorem Variable.settable_of_seconds {text : String} {d : Duration} (h : seconds text = .ok d) :
    d.Settable := by
  obtain ⟨n, -, hLeast, hMost, hSpan⟩ := seconds_eq_ok_iff.mp h
  unfold Duration.Settable
  omega

theorem settable_defaultExpiry : defaultExpiry.Settable := ⟨by decide, by decide⟩

namespace Environment

variable {env : Environment} {name : String}

theorem settable_of_readOr {current d : Duration} (hCurrent : current.Settable)
    (h : env.readOr Variable.seconds name current = .ok d) : d.Settable := by
  rcases readOr_eq_ok_iff.mp h with ⟨-, rfl⟩ | ⟨text, -, hRead⟩
  · exact hCurrent
  · exact Variable.settable_of_seconds hRead

theorem settable_of_seconds? {result : Option Duration} (h : env.seconds? name none = .ok result)
    {d : Duration} (hSet : result = some d) : d.Settable := by
  subst hSet
  simp only [seconds?, Except.bind_eq_ok_iff, Except.pure_eq_ok_iff, read?_eq_ok_iff] at h
  obtain ⟨_, ⟨-, rfl⟩ | ⟨text, a, -, hRead, rfl⟩, hResult⟩ := h
  · cases hResult
  · obtain rfl := Option.some.inj hResult
    exact Variable.settable_of_seconds hRead

/-- An idle timeout and an expiry that are read from variables. -/
theorem settable_spans {idleName expiryName : String} {idle : Option Duration} {expiry : Duration}
    (hIdle : env.seconds? idleName none = .ok idle)
    (hExpiry : env.readOr Variable.seconds expiryName defaultExpiry = .ok expiry) :
    expiry.Settable ∧ ∀ timeout, idle = some timeout → timeout.Settable :=
  ⟨settable_of_readOr settable_defaultExpiry hExpiry, fun _ hSet => settable_of_seconds? hIdle hSet⟩

end Environment

end WebLogin
