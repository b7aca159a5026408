import WebLogin.Authenticator.Basic

/-!
# Times in whole seconds

What a wire value keeps of a time: instants are rounded down and durations are cut towards zero.

* `ofSeconds?_seconds`, `ofSeconds?_wholeSeconds`: the seconds that are written are read back as the
  rounded time, whatever the time is.
* `roundsTo_floor`, `cutsTo_cut`: what rounding and cutting mean.
* `isValid_iff`: what validity means.
* `isValid_rounded`: a record that was made just now and lasts a second or more is still valid after
  its times are rounded, also when the clock stands between two seconds.
-/

namespace WebLogin

/-! ## Instants -/

namespace Instant

theorem ext {t u : Instant} (h : t.nanoseconds = u.nanoseconds) : t = u := by
  obtain ⟨n, lower, upper⟩ := t
  obtain ⟨m, lower', upper'⟩ := u
  obtain rfl : n = m := h
  rfl

/-- The instant at the start of the second. -/
def floor (t : Instant) : Instant where
  nanoseconds := t.seconds * 1000000000
  lower := by
    have hLower := t.lower
    unfold seconds
    omega
  upper := by
    have hUpper := t.upper
    unfold seconds
    omega

theorem floor_le (t : Instant) : t.floor.nanoseconds ≤ t.nanoseconds := by
  simp only [floor, seconds]
  omega

theorem lt_floor_add_second (t : Instant) : t.nanoseconds < t.floor.nanoseconds + 1000000000 := by
  simp only [floor, seconds]
  omega

/-- The second instant is the latest whole second that is not after the first. -/
structure RoundsTo (t u : Instant) : Prop where
  whole : 1000000000 ∣ u.nanoseconds
  below : u ≤ t
  close : t.nanoseconds < u.nanoseconds + 1000000000

theorem roundsTo_floor (t : Instant) : t.RoundsTo t.floor where
  whole := Int.dvd_mul_left t.seconds 1000000000
  below := t.floor_le
  close := t.lt_floor_add_second

/-- Whole seconds are rounded to themselves. -/
theorem floor_of_dvd {t : Instant} (hWhole : 1000000000 ∣ t.nanoseconds) : t.floor = t := by
  refine ext ?_
  simp only [floor, seconds]
  omega

theorem floor_floor (t : Instant) : t.floor.floor = t.floor :=
  floor_of_dvd (Int.dvd_mul_left t.seconds 1000000000)

theorem ofSeconds?_seconds (t : Instant) : ofSeconds? t.seconds = some t.floor := by
  have hLower := t.floor.lower
  have hUpper := t.floor.upper
  unfold ofSeconds? ofNanoseconds?
  exact dif_pos ⟨hLower, hUpper⟩

/-- The seconds of an instant fit into 64 bits. -/
theorem seconds_bounds (t : Instant) :
    -0x8000000000000000 ≤ t.seconds ∧ t.seconds < 0x8000000000000000 := by
  have hLower := t.lower
  have hUpper := t.upper
  unfold seconds
  omega

theorem nanoseconds_of_add? {t u : Instant} {d : Duration} (h : t.add? d = some u) :
    u.nanoseconds = t.nanoseconds + d.nanoseconds := by
  unfold add? ofNanoseconds? at h
  split at h
  · cases h
    rfl
  · cases h

end Instant

/-! ## Durations -/

namespace Duration

/-- Cut towards zero: what is cut off is less than a second and has the sign of the duration. -/
theorem wholeSeconds_spec (d : Duration) :
    ∃ rest, d.nanoseconds = 1000000000 * d.wholeSeconds + rest ∧ rest < 1000000000 ∧
      -1000000000 < rest ∧ (0 ≤ d.nanoseconds → 0 ≤ rest) ∧ (d.nanoseconds ≤ 0 → rest ≤ 0) := by
  have hPos : (0 : Int) < 1000000000 := by decide
  refine ⟨d.nanoseconds.tmod 1000000000, (Int.mul_tdiv_add_tmod _ _).symm,
    Int.tmod_lt_of_pos _ hPos, Int.lt_tmod_of_pos _ hPos, Int.tmod_nonneg _, ?_⟩
  intro hNeg
  have hRest := Int.tmod_nonneg 1000000000 (Int.neg_nonneg_of_nonpos hNeg)
  rw [Int.neg_tmod] at hRest
  omega

/-- The whole seconds of a duration fit into 64 bits. -/
theorem wholeSeconds_bounds (d : Duration) :
    -0x8000000000000000 ≤ d.wholeSeconds ∧ d.wholeSeconds < 0x8000000000000000 := by
  have hLower := d.lower
  have hUpper := d.upper
  obtain ⟨rest, hSum, hBelow, hAbove, hPos, hNeg⟩ := d.wholeSeconds_spec
  omega

/-- The duration without a part of a second. -/
def cut (d : Duration) : Duration where
  nanoseconds := d.wholeSeconds * 1000000000
  lower := by
    have hBounds := d.wholeSeconds_bounds
    omega
  upper := by
    have hBounds := d.wholeSeconds_bounds
    omega

/-- The second duration is the longest in whole seconds within the first, in its direction. -/
structure CutsTo (d e : Duration) : Prop where
  whole : 1000000000 ∣ e.nanoseconds
  forward : 0 ≤ d.nanoseconds → 0 ≤ e.nanoseconds ∧ e.nanoseconds ≤ d.nanoseconds
  backward : d.nanoseconds ≤ 0 → d.nanoseconds ≤ e.nanoseconds ∧ e.nanoseconds ≤ 0
  close : (d.nanoseconds - e.nanoseconds).natAbs < 1000000000

theorem cutsTo_cut (d : Duration) : d.CutsTo d.cut := by
  obtain ⟨rest, hSum, hBelow, hAbove, hPos, hNeg⟩ := d.wholeSeconds_spec
  constructor
  case whole => exact Int.dvd_mul_left d.wholeSeconds 1000000000
  case forward =>
    intro hForward
    have hRest := hPos hForward
    simp only [cut]
    omega
  case backward =>
    intro hBackward
    have hRest := hNeg hBackward
    simp only [cut]
    omega
  case close =>
    simp only [cut]
    omega

theorem rel_cutsTo_map (o : Option Duration) : Option.Rel CutsTo o (o.map cut) := by
  cases o with
  | none => exact .none
  | some d => exact .some d.cutsTo_cut

/-- Whole seconds are not cut. -/
theorem cut_of_dvd {d : Duration} (hWhole : 1000000000 ∣ d.nanoseconds) : d.cut = d := by
  obtain ⟨n, lower, upper⟩ := d
  obtain ⟨k, rfl⟩ : ∃ k, n = 1000000000 * k := hWhole
  simp only [cut, wholeSeconds, mk.injEq]
  rw [Int.mul_tdiv_cancel_left k (by decide), Int.mul_comm]

theorem cut_cut (d : Duration) : d.cut.cut = d.cut :=
  cut_of_dvd (Int.dvd_mul_left d.wholeSeconds 1000000000)

theorem map_cut_cut (o : Option Duration) : (o.map cut).map cut = o.map cut := by
  rw [Option.map_map]
  exact congrArg (fun f => o.map f) (funext cut_cut)

theorem map_cut_of_dvd {o : Option Duration}
    (hWhole : ∀ d, o = some d → 1000000000 ∣ d.nanoseconds) : o.map cut = o := by
  cases o with
  | none => rfl
  | some d => exact congrArg some (cut_of_dvd (hWhole d rfl))

theorem ofSeconds?_wholeSeconds (d : Duration) : ofSeconds? d.wholeSeconds = some d.cut :=
  dif_pos d.wholeSeconds_bounds

/-- A duration of a second or more keeps a second. -/
theorem second_le_cut {d : Duration} (h : 1000000000 ≤ d.nanoseconds) :
    1000000000 ≤ d.cut.nanoseconds := by
  obtain ⟨rest, hSum, hBelow, hAbove, hPos, hNeg⟩ := d.wholeSeconds_spec
  simp only [cut]
  omega

end Duration

/-! ## Validity -/

namespace Authenticator

variable {δ : Type}

/-- How a record comes back out of a wire value: its times rounded down, with a timeout of its own
and details of its own. -/
def rounded (a : Authenticator δ) (idle : Option Duration) (details : δ) : Authenticator δ :=
  { a with lastUsed := a.lastUsed.floor, expires := a.expires.floor, idle, details }

@[simp] theorem rounded_rounded (a : Authenticator δ) (idle idle' : Option Duration)
    (details details' : δ) :
    (a.rounded idle details).rounded idle' details' = a.rounded idle' details' := by
  simp only [rounded, Instant.floor_floor]

/-- The authenticator with another time of last use. -/
def usedAt (a : Authenticator δ) (t : Instant) : Authenticator δ := { a with lastUsed := t }

@[simp] theorem id_usedAt (a : Authenticator δ) (t : Instant) : (a.usedAt t).id = a.id := rfl

@[simp] theorem expires_usedAt (a : Authenticator δ) (t : Instant) :
    (a.usedAt t).expires = a.expires := rfl

@[simp] theorem idle_usedAt (a : Authenticator δ) (t : Instant) : (a.usedAt t).idle = a.idle := rfl

@[simp] theorem usedAt_usedAt (a : Authenticator δ) (t u : Instant) :
    (a.usedAt t).usedAt u = a.usedAt u := rfl

theorem touch_of_idle {a : Authenticator δ} {timeout : Duration} (hIdle : a.idle = some timeout)
    (now : Instant) : a.touch now = .changed (a.usedAt now) := by
  unfold touch
  split
  · rfl
  · next hNone => cases hIdle.symm.trans hNone

/-- A touch changes the time of last use, or nothing. -/
theorem touch_value (a : Authenticator δ) (now : Instant) :
    (a.touch now).value = a.usedAt (if a.idle.isSome then now else a.lastUsed) := by
  obtain ⟨id, login, lastUsed, expires, idle, details⟩ := a
  cases idle with
  | none => rfl
  | some timeout => rfl

/-- A timeout of a second or more, if there is one. -/
def Patient (idle : Option Duration) : Prop :=
  ∀ timeout, idle = some timeout → 1000000000 ≤ timeout.nanoseconds

theorem patient_cut {idle : Option Duration} (h : Patient idle) :
    Patient (idle.map Duration.cut) := by
  intro timeout hTimeout
  obtain ⟨d, hd, rfl⟩ := Option.map_eq_some_iff.mp hTimeout
  exact Duration.second_le_cut (h d hd)

theorem isFresh_iff {a : Authenticator δ} {now : Instant} :
    a.isFresh now = true ↔
      ∀ timeout, a.idle = some timeout → now.since a.lastUsed ≤ timeout.nanoseconds := by
  unfold isFresh
  cases a.idle with
  | none => simp
  | some timeout => simp

/-- What validity means: the expiry is ahead, and the last use is not longer ago than the idle
timeout, if there is one. -/
theorem isValid_iff {a : Authenticator δ} {now : Instant} :
    a.isValid now = true ↔
      now < a.expires ∧
        ∀ timeout, a.idle = some timeout → now.since a.lastUsed ≤ timeout.nanoseconds := by
  rw [isValid, Bool.and_eq_true, decide_eq_true_iff, isFresh_iff]

/-- Rounding does not end a record that lasts a second or more: at the instant it was made, it is
still valid. -/
theorem isValid_rounded {a : Authenticator δ} {expiry : Duration} {idle : Option Duration}
    (hExpires : a.lastUsed.add? expiry = some a.expires) (hExpiry : 1000000000 ≤ expiry.nanoseconds)
    (hIdle : Patient idle) (details : δ) :
    (a.rounded idle details).isValid a.lastUsed = true := by
  have hSum := Instant.nanoseconds_of_add? hExpires
  have hEnd := a.expires.lt_floor_add_second
  have hUse := a.lastUsed.lt_floor_add_second
  refine isValid_iff.mpr ⟨?_, fun timeout hTimeout => ?_⟩
  · change a.lastUsed.nanoseconds < a.expires.floor.nanoseconds
    omega
  · have hLeast := hIdle timeout hTimeout
    change a.lastUsed.nanoseconds - a.lastUsed.floor.nanoseconds ≤ timeout.nanoseconds
    omega

/-- So is a record that is kept as it is. -/
theorem isValid_new {a : Authenticator δ} {expiry : Duration}
    (hExpires : a.lastUsed.add? expiry = some a.expires) (hExpiry : 1000000000 ≤ expiry.nanoseconds)
    (hIdle : Patient a.idle) : a.isValid a.lastUsed = true := by
  have hSum := Instant.nanoseconds_of_add? hExpires
  refine isValid_iff.mpr ⟨?_, fun timeout hTimeout => ?_⟩
  · change a.lastUsed.nanoseconds < a.expires.nanoseconds
    omega
  · have hLeast := hIdle timeout hTimeout
    change a.lastUsed.nanoseconds - a.lastUsed.nanoseconds ≤ timeout.nanoseconds
    omega

end Authenticator

end WebLogin
