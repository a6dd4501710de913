import StoryDirector.Proofs.Json.Ordered
import StoryDirector.Proofs.Settings.Requirements
/-!
# StoryDirector.Proofs.Settings.Overriding

**The environment can mend settings and never spoils them** (`Settings.overrides_safe`). What may
stand in the environment is a list of variables, each for one value (`Environment.Variable`); a text
that is not acceptable in its variable counts as none (`Settings.overriddenBy_without`).

A number that is taken from a variable meets the requirement of its value. So settings that are
overridden meet exactly those requirements that they met before or whose value was replaced
(`Requirement.met_overriddenBy_iff`), and if one is not met even so then it was broken by the file.
-/

namespace StoryDirector

/-! ### The variables -/

namespace Environment

/-- A text writes no whole number in a range. -/
def Misses (text : String) (low high : Nat) : Prop :=
  ∀ n, whole? text = some n → n < low ∨ high < n

/-- A variable that stands for a setting. -/
inductive Variable where
  /-- Seconds that a response stays in the cache. -/
  | ttl
  /-- How many responses the cache holds. -/
  | cacheSize
  /-- Seconds that a task waits for the tasks it depends on. -/
  | dependencyTimeout
  /-- Seconds that one task may take. -/
  | taskDeadline
  /-- How many rounds of follow-up events are processed. -/
  | chainDepth
  /-- How it is decided whether an anomaly is planned. -/
  | mode
  /-- The level of the log. -/
  | logLevel
  /-- Whether log lines are JSON. -/
  | logJson

namespace Variable

/-- The name of a variable. -/
def name : Variable → String
  | ttl => "CORTEX_CACHE_TTL_SECS"
  | cacheSize => "CORTEX_CACHE_MAX_ENTRIES"
  | dependencyTimeout => "CORTEX_DEPENDENCY_TIMEOUT_SECS"
  | taskDeadline => "CORTEX_TASK_DEADLINE_SECS"
  | chainDepth => "CORTEX_MAX_CHAIN_DEPTH"
  | mode => "CORTEX_EXTRA_TASK_MODE"
  | logLevel => "CORTEX_LOG_LEVEL"
  | logJson => "CORTEX_LOG_JSON"

/-- A text is not acceptable: it does not write what the variable stands for, or its number is out
of range. -/
def Refuses : Variable → String → Prop
  | ttl, text => Misses text 0 86400
  | cacheSize, text => Misses text 1 1000000
  | dependencyTimeout, text => Misses text 1 3600
  | taskDeadline, text => Misses text 1 3600
  | chainDepth, text => Misses text 1 32
  | mode, text => InjectionMode.ofLabel? text = none
  | logLevel, text => text = ""
  | logJson, text => truth? text = none

/-- What a variable stands for. -/
abbrev Value : Variable → Type
  | ttl | cacheSize | dependencyTimeout | taskDeadline | chainDepth => Nat
  | mode => InjectionMode
  | logLevel => String
  | logJson => Bool

/-- What a text in a variable means, if it is acceptable. -/
def read? : (v : Variable) → String → Option v.Value
  | ttl, text => wholeWithin? text 0 86400
  | cacheSize, text => wholeWithin? text 1 1000000
  | dependencyTimeout, text => wholeWithin? text 1 3600
  | taskDeadline, text => wholeWithin? text 1 3600
  | chainDepth, text => wholeWithin? text 1 32
  | mode, text => if text.isEmpty then none else InjectionMode.ofLabel? text
  | logLevel, text => if text.isEmpty then none else some text
  | logJson, text => truth? text

theorem read?_mode (text : String) :
    read? mode text = if text.isEmpty then none else InjectionMode.ofLabel? text :=
  rfl

theorem name_injective : Function.Injective name := by
  intro first second h
  cases first <;> cases second <;> simp_all [name]

end Variable

theorem wholeWithin?_eq_some_iff {text : String} {low high n : Nat} :
    wholeWithin? text low high = some n ↔
      whole? text = some n ∧ n ≤ largestUnsigned ∧ low ≤ n ∧ n ≤ high := by
  rw [wholeWithin?, Option.bind_eq_some_iff]
  constructor
  · rintro ⟨m, hm, hwithin⟩
    split at hwithin
    case isTrue hrange =>
        obtain rfl := Option.some.inj hwithin
        exact ⟨hm, hrange⟩
    case isFalse => cases hwithin
  · rintro ⟨hn, hrange⟩
    exact ⟨n, hn, if_pos hrange⟩

theorem wholeWithin?_eq_none_iff {text : String} {low high : Nat} (h : high ≤ largestUnsigned) :
    wholeWithin? text low high = none ↔ Misses text low high := by
  simp only [Option.eq_none_iff_forall_ne_some, ne_eq, wholeWithin?_eq_some_iff, Misses]
  refine forall_congr' fun n => ⟨fun hnone hn => ?_, fun hmisses ⟨hn, hrange⟩ => ?_⟩
  · by_contra hwithin
    exact hnone ⟨hn, by omega, by omega, by omega⟩
  · have := hmisses hn
    omega

/-- Nothing is read from a text exactly if it is not acceptable. -/
theorem Variable.read?_eq_none_iff (v : Variable) (text : String) :
    v.read? text = none ↔ v.Refuses text := by
  have hempty : InjectionMode.ofLabel? "" = none := by decide +kernel
  cases v with
  | ttl | cacheSize | dependencyTimeout | taskDeadline | chainDepth =>
      exact wholeWithin?_eq_none_iff (by decide)
  | mode =>
      rw [read?_mode]
      split
      case isTrue h =>
          obtain rfl := String.isEmpty_iff.mp h
          simpa [Refuses] using hempty
      case isFalse => rfl
  | logLevel =>
      show (if text.isEmpty then none else some text) = none ↔ text = ""
      simp
  | logJson => rfl

variable {env : Environment}

/-- What stands in a variable, if it is acceptable. -/
def setting? (env : Environment) (v : Variable) : Option v.Value :=
  (Dict.value? env v.name).bind v.read?

/-- Something acceptable stands in a variable. -/
def Sets (env : Environment) (v : Variable) : Prop :=
  ∃ text, Dict.value? env v.name = some text ∧ ¬ v.Refuses text

theorem range_of_wholeOf? {name : String} {low high n : Nat}
    (h : env.wholeOf? name low high = some n) : low ≤ n ∧ n ≤ high := by
  obtain ⟨text, -, hread⟩ := Option.bind_eq_some_iff.mp h
  exact (wholeWithin?_eq_some_iff.mp hread).2.2

theorem textOf?_eq (name : String) :
    env.textOf? name =
      (Dict.value? env name).bind fun text => if text.isEmpty then none else some text := by
  rw [textOf?]
  cases Dict.value? env name with
  | none => rfl
  | some text =>
      rw [Option.filter_some, Option.bind_some]
      split <;> simp_all

theorem isSome_setting?_iff (v : Variable) : (env.setting? v).isSome = true ↔ env.Sets v := by
  simp only [setting?, Option.isSome_bind, Option.any_eq_true, Option.isSome_iff_ne_none, ne_eq,
    Variable.read?_eq_none_iff, Sets]

/-- Taking a text away that is not acceptable takes nothing away. -/
theorem setting?_without {v : Variable} {text : String} (h : Dict.value? env v.name = some text)
    (hrefused : v.Refuses text) (other : Variable) :
    setting? (Dict.without env [v.name]) other = env.setting? other := by
  rw [setting?, setting?, Dict.value?_without]
  split
  case isTrue hname =>
      obtain rfl := Variable.name_injective (List.mem_singleton.mp hname)
      rw [h, Option.bind_none, Option.bind_some, (Variable.read?_eq_none_iff _ _).mpr hrefused]
  case isFalse => rfl

end Environment

namespace Settings

variable {settings : Settings} {env : Environment} {file : SettingsFile}

/-- Every value that a variable stands for is replaced by what is acceptable there, and no other. -/
theorem overriddenBy_eq (settings : Settings) (env : Environment) :
    settings.overriddenBy env =
      { cache :=
          { ttlSeconds := (env.setting? .ttl).getD settings.cache.ttlSeconds
            maxEntries := (env.setting? .cacheSize).getD settings.cache.maxEntries }
        run :=
          { settings.run with
            dependencyTimeoutSeconds :=
              (env.setting? .dependencyTimeout).getD settings.run.dependencyTimeoutSeconds
            taskDeadlineSeconds :=
              (env.setting? .taskDeadline).getD settings.run.taskDeadlineSeconds }
        planner :=
          { settings.planner with mode := (env.setting? .mode).getD settings.planner.mode }
        cascade :=
          { settings.cascade with
            maxChainDepth := (env.setting? .chainDepth).getD settings.cascade.maxChainDepth }
        merge := settings.merge
        session := settings.session
        log :=
          { settings.log with
            level := (env.setting? .logLevel).getD settings.log.level
            json := (env.setting? .logJson).getD settings.log.json } } := by
  have hmode : env.modeOf? "CORTEX_EXTRA_TASK_MODE" = env.setting? .mode := by
    rw [Environment.modeOf?, Environment.textOf?_eq, Option.bind_assoc]
    refine Option.bind_congr fun text _ => ?_
    rw [Environment.Variable.read?_mode]
    split
    · exact Option.bind_none _
    · exact Option.bind_some _ _
  have hlevel : env.textOf? "CORTEX_LOG_LEVEL" = env.setting? .logLevel :=
    Environment.textOf?_eq _
  have hjson : env.truthOf? "CORTEX_LOG_JSON" = env.setting? .logJson := rfl
  rw [overriddenBy, hmode, hlevel, hjson]
  rfl

/-- A text that is not acceptable counts as none. -/
theorem overriddenBy_without {v : Environment.Variable} {text : String}
    (h : Dict.value? env v.name = some text) (hrefused : v.Refuses text) (settings : Settings) :
    settings.overriddenBy (Dict.without env [v.name]) = settings.overriddenBy env := by
  simp only [overriddenBy_eq, Environment.setting?_without h hrefused]

/-- What was replaced is replaced by the same once more. -/
theorem overriddenBy_overriddenBy (settings : Settings) (env : Environment) :
    (settings.overriddenBy env).overriddenBy env = settings.overriddenBy env := by
  have htwice : ∀ {α : Type} (found : Option α) (own : α),
      found.getD (found.getD own) = found.getD own := by
    intro α found own
    cases found <;> rfl
  simp only [overriddenBy_eq, htwice]

/-! ### Requirements -/

/-- Something holds of a value that may be replaced, by what it holds of, exactly if it held of the
value or the value is replaced. -/
theorem getD_iff {α : Type} {P : α → Prop} {found : Option α}
    (h : ∀ value, found = some value → P value) (own : α) :
    P (found.getD own) ↔ P own ∨ found.isSome = true := by
  cases found with
  | none => simp
  | some value => simpa using h value rfl

namespace Requirement

/-- The variable for the value that a requirement is about, if there is one. -/
def override? : Requirement → Option Environment.Variable
  | cacheSize => some .cacheSize
  | dependencyTimeout => some .dependencyTimeout
  | taskDeadline => some .taskDeadline
  | chainDepth => some .chainDepth
  | statsWindow | choices | placeholder | baseChance | threshold | surgeThreshold => none

/-- The environment replaces the value that a requirement is about. -/
def Replaced (env : Environment) (r : Requirement) : Prop :=
  ∃ v, r.override? = some v ∧ env.Sets v

/-- A number that is taken from a variable meets the requirement of its value. -/
theorem met_overriddenBy_iff (r : Requirement) :
    r.met (settings.overriddenBy env) = true ↔ r.met settings = true ∨ r.Replaced env := by
  have hnone (h : r.override? = none) : ¬ r.Replaced env := fun ⟨v, hv, _⟩ => by
    rw [h] at hv
    cases hv
  have hsome {v : Environment.Variable} (h : r.override? = some v) :
      r.Replaced env ↔ (env.setting? v).isSome = true := by
    simp [Replaced, h, Environment.isSome_setting?_iff]
  cases r with
  | cacheSize | dependencyTimeout | taskDeadline | chainDepth =>
      rw [hsome rfl, overriddenBy_eq]
      simp only [met, decide_eq_true_eq]
      refine getD_iff (P := (· ≠ 0)) (fun n hn => ?_) _
      have hone : 1 ≤ n := (Environment.range_of_wholeOf? hn).1
      exact Nat.one_le_iff_ne_zero.mp hone
  | statsWindow | choices | placeholder | baseChance | threshold | surgeThreshold =>
      simp only [hnone rfl, or_false, overriddenBy_eq, met]

example :
    let settings : Settings := { cache := { maxEntries := 0 } }
    settings.isValid = false ∧
      (settings.overriddenBy [("CORTEX_CACHE_MAX_ENTRIES", " +7 ")]).isValid = true ∧
      (settings.overriddenBy [("CORTEX_CACHE_MAX_ENTRIES", "7.0")]).isValid = false := by
  decide +kernel

/-- Nothing that is reported is about a value that a variable stands for. -/
theorem fault_overriddenBy (r : Requirement) (settings : Settings) (env : Environment) :
    r.fault (settings.overriddenBy env) = r.fault settings := by
  cases r <;> rfl

end Requirement

/-! ### Loading -/

theorem checked_eq_invalid_iff {fault : SettingsFault} :
    settings.checked = .error (.invalid fault) ↔ settings.fault? = some fault := by
  rw [checked]
  cases settings.fault? <;> simp

/-- A file that cannot be read or understood is not what is reported as not acceptable. -/
theorem loadFrom_eq_invalid_iff {fault : SettingsFault} :
    loadFrom file env = .error (.invalid fault) ↔
      ∃ written, ofFile file = .ok written ∧ (written.overriddenBy env).fault? = some fault := by
  have hother : ofFile file ≠ .error (.invalid fault) := by
    rw [ofFile.eq_def]
    split
    case h_3 =>
        split
        case h_1 => simp
        case h_2 => split <;> simp
    all_goals simp
  rw [loadFrom]
  cases hfile : ofFile file with
  | error error =>
      rw [hfile] at hother
      simpa [bind, Except.bind] using hother
  | ok written => simp [bind, Except.bind, checked_eq_invalid_iff]

theorem isValid_overriddenBy (h : settings.isValid = true) :
    (settings.overriddenBy env).isValid = true :=
  isValid_iff.mpr fun r => r.met_overriddenBy_iff.mpr (.inl (isValid_iff.mp h r))

/-- What is reported of loaded settings is about a value that the file writes and nothing
replaces. -/
theorem breaks_of_loadFrom {fault : SettingsFault}
    (h : loadFrom file env = .error (.invalid fault)) :
    ∃ written r, file.Breaks written r ∧ ¬ r.Replaced env ∧ fault = r.fault written := by
  obtain ⟨written, hfile, hfault⟩ := loadFrom_eq_invalid_iff.mp h
  obtain ⟨r, hunmet, rfl⟩ := exists_unmet_of_fault? hfault
  have hneither : ¬ (r.met written = true ∨ r.Replaced env) := by
    rw [← r.met_overriddenBy_iff, hunmet]
    exact Bool.false_ne_true
  obtain ⟨hwritten, hreplaced⟩ := not_or.mp hneither
  exact ⟨written, r, breaks_iff.mpr ⟨hfile, Bool.eq_false_iff.mpr hwritten⟩, hreplaced,
    r.fault_overriddenBy written env⟩

theorem loadFrom_of_breaks {written : Settings} {r : Requirement} (h : file.Breaks written r)
    (hreplaced : ¬ r.Replaced env) : ∃ fault, loadFrom file env = .error (.invalid fault) := by
  obtain ⟨hfile, hunmet⟩ := breaks_iff.mp h
  cases hfault : (written.overriddenBy env).fault? with
  | some fault => exact ⟨fault, loadFrom_eq_invalid_iff.mpr ⟨written, hfile, hfault⟩⟩
  | none =>
      have hvalid : (written.overriddenBy env).isValid = true := by rw [isValid, hfault]; rfl
      obtain hmet | hmet := r.met_overriddenBy_iff.mp (isValid_iff.mp hvalid r)
      · rw [hunmet] at hmet
        cases hmet
      · exact absurd hmet hreplaced

theorem loadFrom_missing (env : Environment) :
    loadFrom .missing env = .ok (({} : Settings).overriddenBy env) :=
  checked_eq_ok_iff.mpr ⟨isValid_overriddenBy isValid_default, rfl⟩

theorem textOf?_pathVariable_without (env : Environment) (v : Environment.Variable) :
    Environment.textOf? (Dict.without env [v.name]) pathVariable = env.textOf? pathVariable := by
  have hother : pathVariable ∉ [v.name] := by
    cases v <;> simp [pathVariable, Environment.Variable.name]
  rw [Environment.textOf?, Environment.textOf?, Dict.value?_without, if_neg hother]

/-- **The environment is safe.** Acceptable settings stay acceptable under every environment. A text
that is not acceptable in its variable counts as none, for settings as for what is loaded. What was
replaced is replaced by the same once more. Loaded settings are refused exactly if the file writes a
value that does not meet its requirement and that is not replaced, and what is reported is about
such a value; without a file nothing is refused. -/
theorem overrides_safe (settings : Settings) (env : Environment) :
    (settings.isValid = true → (settings.overriddenBy env).isValid = true) ∧
      (∀ v text, Dict.value? env (Environment.Variable.name v) = some text → v.Refuses text →
        settings.overriddenBy (Dict.without env [v.name]) = settings.overriddenBy env ∧
          (∀ file, loadFrom file (Dict.without env [v.name]) = loadFrom file env) ∧
          ∀ fileAt, load fileAt (Dict.without env [v.name]) = load fileAt env) ∧
      (settings.overriddenBy env).overriddenBy env = settings.overriddenBy env ∧
      (∀ file,
        (∀ fault, loadFrom file env = .error (.invalid fault) →
          ∃ written r, file.Breaks written r ∧ ¬ r.Replaced env ∧ fault = r.fault written) ∧
        ∀ written r, file.Breaks written r → ¬ r.Replaced env →
          ∃ fault, loadFrom file env = .error (.invalid fault)) ∧
      loadFrom .missing env = .ok (({} : Settings).overriddenBy env) ∧
      ∀ fileAt, env.textOf? pathVariable = none →
        load fileAt env = .ok (({} : Settings).overriddenBy env) := by
  refine ⟨isValid_overriddenBy, fun v text htext hrefused => ?_,
    overriddenBy_overriddenBy settings env,
    fun file => ⟨fun fault => breaks_of_loadFrom, fun written r => loadFrom_of_breaks⟩,
    loadFrom_missing env, fun fileAt hpath => ?_⟩
  · have hloadFrom : ∀ file, loadFrom file (Dict.without env [v.name]) = loadFrom file env := by
      intro file
      simp only [loadFrom, overriddenBy_without htext hrefused]
    refine ⟨overriddenBy_without htext hrefused settings, hloadFrom, fun fileAt => ?_⟩
    simp only [load, textOf?_pathVariable_without, hloadFrom]
  · rw [load, hpath]
    exact loadFrom_missing env

end Settings

end StoryDirector
