import Mathlib.Data.List.TakeWhile
import WebLogin.Proofs.Settings.Environment

/-!
# Settings are what their variables say

The settings of each carrier are listed with their variables in the order of reading. A variable says
something if it is set and not all blank. Then its reader decides: the first text that a reader does
not take is the error, and if there is none, each setting is what its text was read as.

* `Setting`, `Setting.Given`, `Setting.Refused`: a variable, and what it gives.
* `ExactReading`: a reading of settings that does what the list of its variables says, and no more.
* `CheckedReading`: what is left to prove of one reading; `CheckedReading.exact` has the rest.
* `settings_exact`: the readings of the five kinds of settings.
-/

namespace WebLogin

namespace Text

theorem trimChars_eq_nil_iff {text : List Char} :
    trimChars text = [] ↔ ∀ c ∈ text, isBlank c = true := by
  rw [trimChars, List.reverse_eq_nil_iff, List.dropWhile_eq_nil_iff]
  constructor
  · intro hRest c hc
    rw [← List.takeWhile_append_dropWhile (p := isBlank) (l := text)] at hc
    rcases List.mem_append.mp hc with hFront | hBack
    · exact List.mem_takeWhile_imp hFront
    · exact hRest c (List.mem_reverse.mpr hBack)
  · intro hAll c hc
    exact hAll c ((List.dropWhile_sublist _).subset (List.mem_reverse.mp hc))

end Text

/-! ## Variables -/

namespace Environment

/-- A variable is set to a text that is not all blank. -/
def Says (env : Environment) (name text : String) : Prop :=
  env.find? name = some text ∧ ∃ c ∈ text.toList, Text.isBlank c = false

theorem text?_eq_some_iff {env : Environment} {name text : String} :
    env.text? name = some text ↔ env.Says name text := by
  have hTrim : (!(Text.trimChars text.toList).isEmpty) = true ↔
      ∃ c ∈ text.toList, Text.isBlank c = false := by
    rw [Bool.not_eq_true', ← Bool.not_eq_true, List.isEmpty_iff, Text.trimChars_eq_nil_iff]
    simp
  rw [text?, Option.filter_eq_some_iff, hTrim, Says]

theorem text?_eq_none_iff {env : Environment} {name : String} :
    env.text? name = none ↔ ∀ text, ¬env.Says name text := by
  simp only [Option.eq_none_iff_forall_ne_some, ne_eq, text?_eq_some_iff]

end Environment

/-- A variable of some settings: the reader of its text, and the setting that takes what is read. -/
structure Setting (S : Type) where
  name : String
  Field : Type
  read : String → Except VariableFault Field
  field : S → Field

namespace Setting

variable {S : Type}

/-- A setting that may be left unset. -/
def optional {α : Type} (name : String) (read : String → Except VariableFault α)
    (field : S → Option α) : Setting S :=
  ⟨name, Option α, fun text => some <$> read text, field⟩

/-- The text of the variable is not taken. -/
def Refused (s : Setting S) (env : Environment) (fault : VariableFault) : Prop :=
  ∃ text, env.Says s.name text ∧ s.read text = .error fault

/-- The setting is what the variable says, or as it was if the variable says nothing. -/
structure Given (s : Setting S) (env : Environment) (current result : S) : Prop where
  said : ∀ text, env.Says s.name text → s.read text = .ok (s.field result)
  unsaid : (∀ text, ¬env.Says s.name text) → s.field result = s.field current

/-- Reads the variable for nothing but a fault. -/
def check (s : Setting S) (env : Environment) : Except ConfigError Unit :=
  (fun _ => ()) <$> env.read? s.read s.name

variable {s : Setting S} {env : Environment}

theorem check_eq_error_iff {error : ConfigError} :
    s.check env = .error error ↔ ∃ fault, s.Refused env fault ∧ error = .refused s.name fault := by
  unfold check Environment.read? Refused
  simp only [← Environment.text?_eq_some_iff]
  cases env.text? s.name with
  | none => simp [Functor.map, Except.map]
  | some text =>
    cases hRead : s.read text with
    | error fault => simp [Functor.map, Except.map, hRead, eq_comm]
    | ok a => simp [Functor.map, Except.map, hRead]

theorem check_eq_ok_iff : s.check env = .ok () ↔ ∀ fault, ¬s.Refused env fault := by
  constructor
  · intro hOk fault hRefused
    rw [check_eq_error_iff.mpr ⟨fault, hRefused, rfl⟩] at hOk
    cases hOk
  · intro hNone
    cases hCheck : s.check env with
    | ok => rfl
    | error e =>
      obtain ⟨fault, hRefused, -⟩ := check_eq_error_iff.mp hCheck
      exact absurd hRefused (hNone fault)

theorem Given.not_refused {current result : S} (h : s.Given env current result)
    (fault : VariableFault) : ¬s.Refused env fault := by
  rintro ⟨text, hSays, hRead⟩
  rw [h.said text hSays] at hRead
  cases hRead

/-- What a variable gives is settled by what it says. -/
theorem Given.unique {current a b : S} (ha : s.Given env current a) (hb : s.Given env current b) :
    s.field a = s.field b := by
  by_cases hSays : ∃ text, env.Says s.name text
  · obtain ⟨text, hText⟩ := hSays
    exact Except.ok.inj ((ha.said text hText).symm.trans (hb.said text hText))
  · rw [ha.unsaid (not_exists.mp hSays), hb.unsaid (not_exists.mp hSays)]

section Agreement

variable {other : Environment} (hSame : env.find? s.name = other.find? s.name)

include hSame

theorem says_iff_of_find? (text : String) : env.Says s.name text ↔ other.Says s.name text := by
  rw [Environment.Says, Environment.Says, hSame]

theorem given_iff_of_find? {current result : S} :
    s.Given env current result ↔ s.Given other current result := by
  have hSays := says_iff_of_find? hSame
  exact ⟨fun h => ⟨fun text hText => h.said text ((hSays text).mpr hText),
      fun hNone => h.unsaid fun text hText => hNone text ((hSays text).mp hText)⟩,
    fun h => ⟨fun text hText => h.said text ((hSays text).mp hText),
      fun hNone => h.unsaid fun text hText => hNone text ((hSays text).mpr hText)⟩⟩

theorem check_eq_of_find? : s.check env = s.check other := by
  rw [check, check, Environment.read?, Environment.text?, hSame]
  rfl

end Agreement

end Setting

/-! ## Readings -/

variable {S : Type}

/-- A reading of settings does what the list of their variables says. -/
structure ExactReading (read : Environment → Except ConfigError S) (current : S)
    (settings : List (Setting S)) : Prop where
  distinct : (settings.map Setting.name).Nodup
  /-- No part of the settings is left out of the list. -/
  complete : ∀ a b, (∀ s ∈ settings, s.field a = s.field b) → a = b
  read_eq_ok_iff : ∀ env result,
    read env = .ok result ↔ ∀ s ∈ settings, s.Given env current result
  /-- The first text that is not taken is the error. -/
  read_eq_error_iff : ∀ env error,
    read env = .error error ↔ ∃ before s after fault, settings = before ++ s :: after ∧
      (∀ t ∈ before, ∀ other, ¬t.Refused env other) ∧ s.Refused env fault ∧
      error = .refused s.name fault ∧
      error.message = "Configuration error: " ++ (s.name ++ ": " ++ fault.message)
  fails_iff : ∀ env, (∃ error, read env = .error error) ↔ ∃ s ∈ settings, ∃ fault, s.Refused env fault
  /-- Other variables do not matter. -/
  locality : ∀ env other, (∀ s ∈ settings, env.find? s.name = other.find? s.name) →
    read env = read other

section Checks

variable {read : Environment → Except ConfigError S} {current : S} {settings : List (Setting S)}

/-- A reading fails as its checks do, and gives what its variables say. -/
structure CheckedReading (read : Environment → Except ConfigError S) (current : S)
    (settings : List (Setting S)) : Prop where
  complete : ∀ a b, (∀ s ∈ settings, s.field a = s.field b) → a = b
  checks : ∀ env, (fun _ => ()) <$> read env = settings.forM (·.check env)
  given : ∀ env result, read env = .ok result → ∀ s ∈ settings, s.Given env current result

namespace CheckedReading

theorem read_eq_error_iff (h : CheckedReading read current settings) (env : Environment)
    (error : ConfigError) :
    read env = .error error ↔ ∃ before s after fault, settings = before ++ s :: after ∧
      (∀ t ∈ before, ∀ other, ¬t.Refused env other) ∧ s.Refused env fault ∧
      error = .refused s.name fault ∧
      error.message = "Configuration error: " ++ (s.name ++ ": " ++ fault.message) := by
  rw [← Except.map_eq_error_iff (f := fun _ => ()), h.checks, Except.forM_eq_error_iff]
  simp only [Setting.check_eq_ok_iff, Setting.check_eq_error_iff]
  constructor
  · rintro ⟨before, s, after, hSettings, hBefore, fault, hRefused, rfl⟩
    exact ⟨before, s, after, fault, hSettings, hBefore, hRefused, rfl, rfl⟩
  · rintro ⟨before, s, after, fault, hSettings, hBefore, hRefused, hError, -⟩
    exact ⟨before, s, after, hSettings, hBefore, fault, hRefused, hError⟩

theorem fails_iff (h : CheckedReading read current settings) (env : Environment) :
    (∃ error, read env = .error error) ↔ ∃ s ∈ settings, ∃ fault, s.Refused env fault := by
  constructor
  · rintro ⟨error, hError⟩
    obtain ⟨before, s, after, fault, rfl, -, hRefused, -, -⟩ := (h.read_eq_error_iff env error).mp hError
    exact ⟨s, by simp, fault, hRefused⟩
  · rintro ⟨s, hs, fault, hRefused⟩
    apply Except.exists_error
    intro result hRead
    exact (h.given env result hRead s hs).not_refused fault hRefused

theorem read_eq_ok_iff (h : CheckedReading read current settings) (env : Environment) (result : S) :
    read env = .ok result ↔ ∀ s ∈ settings, s.Given env current result := by
  constructor
  · exact h.given env result
  · intro hGiven
    cases hRead : read env with
    | error e =>
      obtain ⟨s, hs, fault, hRefused⟩ := (h.fails_iff env).mp ⟨e, hRead⟩
      exact absurd hRefused ((hGiven s hs).not_refused fault)
    | ok found =>
      have hFound := h.given env found hRead
      rw [h.complete found result fun s hs => (hFound s hs).unique (hGiven s hs)]

theorem locality (h : CheckedReading read current settings) {env other : Environment}
    (hSame : ∀ s ∈ settings, env.find? s.name = other.find? s.name) : read env = read other := by
  cases hRead : read env with
  | ok result =>
    have hGiven := (h.read_eq_ok_iff env result).mp hRead
    exact ((h.read_eq_ok_iff other result).mpr fun s hs =>
      (Setting.given_iff_of_find? (hSame s hs)).mp (hGiven s hs)).symm
  | error error =>
    have hFails := Except.map_eq_error_iff (f := fun _ => ()).mpr hRead
    rw [h.checks, Except.forM_congr fun s hs => Setting.check_eq_of_find? (hSame s hs),
      ← h.checks, Except.map_eq_error_iff] at hFails
    exact hFails.symm

theorem exact (h : CheckedReading read current settings) (hDistinct : (settings.map Setting.name).Nodup) :
    ExactReading read current settings where
  distinct := hDistinct
  complete := h.complete
  read_eq_ok_iff := h.read_eq_ok_iff
  read_eq_error_iff := h.read_eq_error_iff
  fails_iff := h.fails_iff
  locality _ _ := h.locality

end CheckedReading

end Checks

/-! ## Steps of a reading -/

namespace Setting

section Steps

variable {α : Type} {env : Environment} {name : String} {reader : String → Except VariableFault α}
  {current result : S}

theorem given_of_readOr {field : S → α}
    (h : env.readOr reader name (field current) = .ok (field result)) :
    Given ⟨name, α, reader, field⟩ env current result := by
  constructor
  · intro text hSays
    rw [← Environment.text?_eq_some_iff] at hSays
    rcases Environment.readOr_eq_ok_iff.mp h with ⟨hNone, -⟩ | ⟨found, hFound, hRead⟩
    · rw [hNone] at hSays
      cases hSays
    · rw [hSays] at hFound
      cases hFound
      exact hRead
  · intro hNone
    rw [← Environment.text?_eq_none_iff] at hNone
    rcases Environment.readOr_eq_ok_iff.mp h with ⟨-, hSame⟩ | ⟨found, hFound, -⟩
    · exact hSame
    · rw [hNone] at hFound
      cases hFound

theorem given_text {field : S → String}
    (h : field result = (env.text? name).getD (field current)) :
    Given ⟨name, String, .ok, field⟩ env current result := by
  apply given_of_readOr
  rw [h]
  cases hText : env.text? name with
  | none => simp [Environment.readOr, Environment.read?, hText]
  | some text => simp [Environment.readOr, Environment.read?, hText]

theorem given_optional {field : S → Option α} {found : Option α}
    (hRead : env.read? reader name = .ok found) (h : field result = (found <|> field current)) :
    (optional name reader field).Given env current result := by
  constructor
  · intro text hSays
    have hText : env.text? name = some text := Environment.text?_eq_some_iff.mpr hSays
    rcases Environment.read?_eq_ok_iff.mp hRead with ⟨hNone, -⟩ | ⟨other, a, hOther, ha, rfl⟩
    · rw [hNone] at hText
      cases hText
    · rw [hText] at hOther
      cases hOther
      simp [optional, ha, h]
  · intro hSilent
    have hNone : env.text? name = none := Environment.text?_eq_none_iff.mpr hSilent
    rcases Environment.read?_eq_ok_iff.mp hRead with ⟨-, rfl⟩ | ⟨other, a, hOther, -, -⟩
    · simp [optional, h]
    · rw [hNone] at hOther
      cases hOther

theorem given_optionalText {field : S → Option String}
    (h : field result = (env.text? name <|> field current)) :
    (optional name .ok field).Given env current result := by
  have hRead : env.read? .ok name = .ok (env.text? name) := by
    cases hText : env.text? name with
    | none => simp [Environment.read?, hText]
    | some text => simp [Environment.read?, hText]
  exact given_optional hRead h

theorem check_text {field : S → String} : check ⟨name, String, .ok, field⟩ env = .ok () := by
  rw [check_eq_ok_iff]
  rintro fault ⟨text, -, hRead⟩
  cases hRead

theorem check_optionalText {field : S → Option String} :
    (optional name .ok field).check env = .ok () := by
  rw [check_eq_ok_iff]
  rintro fault ⟨text, -, hRead⟩
  cases hRead

theorem check_readOr {field : S → α} {a : α} :
    (fun _ => ()) <$> env.readOr reader name a = check ⟨name, α, reader, field⟩ env := by
  rw [check, Environment.readOr]
  cases env.read? reader name <;> rfl

theorem check_optional {field : S → Option α} :
    (fun _ => ()) <$> env.read? reader name = (optional name reader field).check env := by
  simp only [check, optional, Environment.read?]
  cases env.text? name with
  | none => rfl
  | some text => cases hRead : reader text <;> simp [hRead, Functor.map, Except.map]

theorem check_seconds? {field : S → Option Duration} {a : Option Duration} :
    (fun _ => ()) <$> env.seconds? name a = (optional name Variable.seconds field).check env := by
  rw [← check_optional, Environment.seconds?]
  cases env.read? Variable.seconds name <;> rfl

end Steps

section Chains

variable {α : Type} {env : Environment} {s : Setting S} {rest : List (Setting S)}

/-- A reading that begins with the variable of the first setting. -/
theorem checks_step {x : Except ConfigError α} {f : α → Except ConfigError S}
    (hFirst : (fun _ => ()) <$> x = s.check env)
    (hRest : ∀ a, (fun _ => ()) <$> f a = rest.forM (·.check env)) :
    (fun _ => ()) <$> (x >>= f) = (s :: rest).forM (·.check env) := by
  rw [Except.map_bind_const hRest, hFirst]
  rfl

/-- The variable of the first setting is never refused. -/
theorem checks_skip {x : Except ConfigError S} (hFirst : s.check env = .ok ())
    (hRest : (fun _ => ()) <$> x = rest.forM (·.check env)) :
    (fun _ => ()) <$> x = (s :: rest).forM (·.check env) := by
  change _ = s.check env >>= fun _ => rest.forM (·.check env)
  rw [hFirst, hRest]
  rfl

end Chains

end Setting

/-! ## The settings of each carrier -/

namespace CookieSettings

/-- The variables of the cookie carrier. -/
def table : List (Setting CookieSettings) :=
  [⟨"AUTH_COOKIE_NAME", String, .ok, (·.cookie.name)⟩,
   ⟨"AUTH_COOKIE_PATH", String, .ok, (·.cookie.path)⟩,
   .optional "AUTH_COOKIE_DOMAIN" .ok (·.cookie.domain),
   ⟨"AUTH_COOKIE_SECURE", Bool, Variable.boolean, (·.cookie.secure)⟩,
   ⟨"AUTH_COOKIE_HTTP_ONLY", Bool, Variable.boolean, (·.cookie.httpOnly)⟩,
   .optional "AUTH_COOKIE_SAME_SITE" Variable.sameSite (·.cookie.sameSite),
   ⟨"AUTH_COOKIE_FINGERPRINTING", Bool, Variable.boolean, (·.fingerprinting)⟩,
   .optional "AUTH_COOKIE_MAX_AGE_SECS" Variable.seconds (·.maxAge),
   .optional "AUTH_COOKIE_IDLE_TIMEOUT_SECS" Variable.seconds (·.idle),
   ⟨"AUTH_COOKIE_EXPIRY_SECS", Duration, Variable.seconds, (·.expiry)⟩]

theorem checked : CheckedReading ofEnvironment {} table where
  complete := by
    rintro ⟨⟨⟩⟩ ⟨⟨⟩⟩ hFields
    simpa [table, Setting.optional, and_assoc] using hFields
  checks env := by
    simp only [ofEnvironment, CookieTemplate.readFrom, String.reduceAppend, bind_assoc, pure_bind]
    exact Setting.checks_skip Setting.check_text <|
      Setting.checks_skip Setting.check_text <|
      Setting.checks_skip Setting.check_optionalText <|
      Setting.checks_step Setting.check_readOr fun _ =>
      Setting.checks_step Setting.check_readOr fun _ =>
      Setting.checks_step Setting.check_optional fun _ =>
      Setting.checks_step Setting.check_readOr fun _ =>
      Setting.checks_step Setting.check_seconds? fun _ =>
      Setting.checks_step Setting.check_seconds? fun _ =>
      Setting.checks_step Setting.check_readOr fun _ => rfl
  given env result hRead := by
    simp only [ofEnvironment, CookieTemplate.readFrom, String.reduceAppend, Environment.seconds?,
      Except.bind_eq_ok_iff, Except.pure_eq_ok_iff] at hRead
    obtain ⟨_, ⟨secure, hSecure, httpOnly, hHttpOnly, sameSite, hSameSite, rfl⟩, fingerprinting,
      hFingerprinting, maxAge, ⟨_, hMaxAge, rfl⟩, idle, ⟨_, hIdle, rfl⟩, expiry, hExpiry, rfl⟩ := hRead
    simp only [table, List.forall_mem_cons]
    exact ⟨Setting.given_text rfl, Setting.given_text rfl, Setting.given_optionalText rfl,
      Setting.given_of_readOr hSecure, Setting.given_of_readOr hHttpOnly,
      Setting.given_optional hSameSite rfl, Setting.given_of_readOr hFingerprinting,
      Setting.given_optional hMaxAge rfl, Setting.given_optional hIdle rfl,
      Setting.given_of_readOr hExpiry, by simp⟩

end CookieSettings

namespace SessionSettings

/-- The variables of the session carrier. -/
def table : List (Setting SessionSettings) :=
  [⟨"AUTH_SESSION_KEY", String, .ok, (·.key)⟩,
   ⟨"AUTH_SESSION_FINGERPRINTING", Bool, Variable.boolean, (·.fingerprinting)⟩,
   .optional "AUTH_SESSION_IDLE_TIMEOUT_SECS" Variable.seconds (·.idle),
   ⟨"AUTH_SESSION_EXPIRY_SECS", Duration, Variable.seconds, (·.expiry)⟩]

theorem checked : CheckedReading ofEnvironment {} table where
  complete := by
    rintro ⟨⟩ ⟨⟩ hFields
    simpa [table, Setting.optional] using hFields
  checks env :=
    Setting.checks_skip Setting.check_text <|
      Setting.checks_step Setting.check_readOr fun _ =>
      Setting.checks_step Setting.check_seconds? fun _ =>
      Setting.checks_step Setting.check_readOr fun _ => rfl
  given env result hRead := by
    simp only [ofEnvironment, Environment.seconds?, Except.bind_eq_ok_iff, Except.pure_eq_ok_iff] at hRead
    obtain ⟨fingerprinting, hFingerprinting, idle, ⟨_, hIdle, rfl⟩, expiry, hExpiry, rfl⟩ := hRead
    simp only [table, List.forall_mem_cons]
    exact ⟨Setting.given_text rfl, Setting.given_of_readOr hFingerprinting,
      Setting.given_optional hIdle rfl, Setting.given_of_readOr hExpiry, by simp⟩

end SessionSettings

namespace BearerSettings

/-- The variables of the carrier of bearer tokens. -/
def table : List (Setting BearerSettings) :=
  [⟨"AUTH_BEARER_HEADER_NAME", HeaderName, Variable.headerName, (·.header)⟩,
   ⟨"AUTH_BEARER_REQUEST_PARTS", List RequestPart, Variable.requestParts, (·.parts)⟩,
   .optional "AUTH_BEARER_IDLE_TIMEOUT_SECS" Variable.seconds (·.idle),
   ⟨"AUTH_BEARER_EXPIRY_SECS", Duration, Variable.seconds, (·.expiry)⟩]

theorem checked : CheckedReading ofEnvironment {} table where
  complete := by
    rintro ⟨⟩ ⟨⟩ hFields
    simpa [table, Setting.optional] using hFields
  checks env :=
    Setting.checks_step Setting.check_readOr fun _ =>
      Setting.checks_step Setting.check_readOr fun _ =>
      Setting.checks_step Setting.check_seconds? fun _ =>
      Setting.checks_step Setting.check_readOr fun _ => rfl
  given env result hRead := by
    simp only [ofEnvironment, Environment.seconds?, Except.bind_eq_ok_iff, Except.pure_eq_ok_iff] at hRead
    obtain ⟨header, hHeader, parts, hParts, idle, ⟨_, hIdle, rfl⟩, expiry, hExpiry, rfl⟩ := hRead
    simp only [table, List.forall_mem_cons]
    exact ⟨Setting.given_of_readOr hHeader, Setting.given_of_readOr hParts,
      Setting.given_optional hIdle rfl, Setting.given_of_readOr hExpiry, by simp⟩

end BearerSettings

namespace JwtSettings

/-- The variables of the carrier of signed tokens. -/
def table : List (Setting JwtSettings) :=
  [⟨"AUTH_JWT_HEADER_NAME", HeaderName, Variable.headerName, (·.header)⟩,
   ⟨"AUTH_JWT_REQUEST_PARTS", List RequestPart, Variable.requestParts, (·.parts)⟩,
   ⟨"AUTH_JWT_ISSUER", String, .ok, (·.issuer)⟩,
   ⟨"AUTH_JWT_ENCRYPT_SUBJECT", Bool, Variable.boolean, (·.encryptSubject)⟩,
   .optional "AUTH_JWT_IDLE_TIMEOUT_SECS" Variable.seconds (·.idle),
   ⟨"AUTH_JWT_EXPIRY_SECS", Duration, Variable.seconds, (·.expiry)⟩]

theorem checked : CheckedReading ofEnvironment {} table where
  complete := by
    rintro ⟨⟩ ⟨⟩ hFields
    simpa [table, Setting.optional] using hFields
  checks env :=
    Setting.checks_step Setting.check_readOr fun _ =>
      Setting.checks_step Setting.check_readOr fun _ =>
      Setting.checks_skip Setting.check_text <|
      Setting.checks_step Setting.check_readOr fun _ =>
      Setting.checks_step Setting.check_seconds? fun _ =>
      Setting.checks_step Setting.check_readOr fun _ => rfl
  given env result hRead := by
    simp only [ofEnvironment, Environment.seconds?, Except.bind_eq_ok_iff, Except.pure_eq_ok_iff] at hRead
    obtain ⟨header, hHeader, parts, hParts, encryptSubject, hEncryptSubject, idle, ⟨_, hIdle, rfl⟩,
      expiry, hExpiry, rfl⟩ := hRead
    simp only [table, List.forall_mem_cons]
    exact ⟨Setting.given_of_readOr hHeader, Setting.given_of_readOr hParts, Setting.given_text rfl,
      Setting.given_of_readOr hEncryptSubject, Setting.given_optional hIdle rfl,
      Setting.given_of_readOr hExpiry, by simp⟩

end JwtSettings

namespace CsrfSettings

/-- The variables of the cookie of a redirected login. -/
def table : List (Setting CsrfSettings) :=
  [⟨"AUTH_CSRF_COOKIE_NAME", String, .ok, (·.cookie.name)⟩,
   ⟨"AUTH_CSRF_COOKIE_PATH", String, .ok, (·.cookie.path)⟩,
   .optional "AUTH_CSRF_COOKIE_DOMAIN" .ok (·.cookie.domain),
   ⟨"AUTH_CSRF_COOKIE_SECURE", Bool, Variable.boolean, (·.cookie.secure)⟩,
   ⟨"AUTH_CSRF_COOKIE_HTTP_ONLY", Bool, Variable.boolean, (·.cookie.httpOnly)⟩,
   .optional "AUTH_CSRF_COOKIE_SAME_SITE" Variable.sameSite (·.cookie.sameSite),
   ⟨"AUTH_CSRF_EXPIRY_SECS", Duration, Variable.seconds, (·.expiry)⟩]

theorem checked : CheckedReading ofEnvironment {} table where
  complete := by
    rintro ⟨⟨⟩⟩ ⟨⟨⟩⟩ hFields
    simpa [table, Setting.optional, and_assoc] using hFields
  checks env := by
    simp only [ofEnvironment, CookieTemplate.readFrom, String.reduceAppend, bind_assoc, pure_bind]
    exact Setting.checks_skip Setting.check_text <|
      Setting.checks_skip Setting.check_text <|
      Setting.checks_skip Setting.check_optionalText <|
      Setting.checks_step Setting.check_readOr fun _ =>
      Setting.checks_step Setting.check_readOr fun _ =>
      Setting.checks_step Setting.check_optional fun _ =>
      Setting.checks_step Setting.check_readOr fun _ => rfl
  given env result hRead := by
    simp only [ofEnvironment, CookieTemplate.readFrom, String.reduceAppend, Except.bind_eq_ok_iff,
      Except.pure_eq_ok_iff] at hRead
    obtain ⟨_, ⟨secure, hSecure, httpOnly, hHttpOnly, sameSite, hSameSite, rfl⟩, expiry, hExpiry,
      rfl⟩ := hRead
    simp only [table, List.forall_mem_cons]
    exact ⟨Setting.given_text rfl, Setting.given_text rfl, Setting.given_optionalText rfl,
      Setting.given_of_readOr hSecure, Setting.given_of_readOr hHttpOnly,
      Setting.given_optional hSameSite rfl, Setting.given_of_readOr hExpiry, by simp⟩

end CsrfSettings

/-- The settings of every carrier and of a redirected login are what their own variables say. -/
theorem settings_exact :
    ExactReading CookieSettings.ofEnvironment {} CookieSettings.table ∧
      ExactReading SessionSettings.ofEnvironment {} SessionSettings.table ∧
      ExactReading BearerSettings.ofEnvironment {} BearerSettings.table ∧
      ExactReading JwtSettings.ofEnvironment {} JwtSettings.table ∧
      ExactReading CsrfSettings.ofEnvironment {} CsrfSettings.table :=
  ⟨CookieSettings.checked.exact (by decide), SessionSettings.checked.exact (by decide),
    BearerSettings.checked.exact (by decide), JwtSettings.checked.exact (by decide),
    CsrfSettings.checked.exact (by decide)⟩

example : (CookieSettings.ofEnvironment (.ofList [("AUTH_COOKIE_EXPIRY_SECS", "soon"),
      ("AUTH_COOKIE_PATH", "  "), ("AUTH_COOKIE_SECURE", "maybe")])).mapError ConfigError.message =
    .error "Configuration error: AUTH_COOKIE_SECURE: expected a boolean, got 'maybe'" := by rfl

end WebLogin
