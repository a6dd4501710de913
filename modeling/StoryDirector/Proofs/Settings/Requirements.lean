import StoryDirector.Settings.Loading
/-!
# StoryDirector.Proofs.Settings.Requirements

**What has to hold of settings is a list of requirements, each of one value**
(`Settings.isValid_iff`), and what is reported is the first that is not met (`Settings.fault?_eq`).
What a file leaves out has its default, and the defaults meet all requirements; so of settings that
a file holds, a requirement is broken only by a value that the file writes (`Settings.breaks_iff`).
-/

namespace StoryDirector

namespace Settings

variable {settings : Settings}

/-! ### The requirements -/

/-- One thing that has to hold of settings. -/
inductive Requirement where
  /-- The cache has room. -/
  | cacheSize
  /-- A task may wait for others. -/
  | dependencyTimeout
  /-- A task may take time. -/
  | taskDeadline
  /-- Call durations are kept. -/
  | statsWindow
  /-- The cascade has rounds. -/
  | chainDepth
  /-- The player is given a choice. -/
  | choices
  /-- The placeholder is not blank. -/
  | placeholder
  /-- The chance in a calm world lies between zero and one. -/
  | baseChance
  /-- The threshold of an anomaly lies between zero and one. -/
  | threshold
  /-- The threshold of a surge lies between zero and one. -/
  | surgeThreshold

/-- Where a value stands in a document: the place and name of its group, and its own in a group of
so many. -/
structure ValuePath where
  /-- The place of the group. -/
  groupPlace : Nat
  /-- The name of the group. -/
  group : String
  /-- How many values the group has. -/
  count : Nat
  /-- The place of the value. -/
  place : Nat
  /-- The name of the value. -/
  name : String

/-- What a document writes somewhere. -/
def ValuePath.find? (path : ValuePath) (tree : Json) : Option Json := do
  let groups ← Fields.of? .toml 7 tree
  let group ← groups.find? path.groupPlace path.group
  let values ← Fields.of? .toml path.count group
  values.find? path.place path.name

namespace Requirement

/-- Every requirement, in the order of the checks. -/
def all : List Requirement :=
  [cacheSize, dependencyTimeout, taskDeadline, statsWindow, chainDepth, choices, placeholder,
   baseChance, threshold, surgeThreshold]

/-- Whether settings meet a requirement. -/
def met (settings : Settings) : Requirement → Bool
  | cacheSize => decide (settings.cache.maxEntries ≠ 0)
  | dependencyTimeout => decide (settings.run.dependencyTimeoutSeconds ≠ 0)
  | taskDeadline => decide (settings.run.taskDeadlineSeconds ≠ 0)
  | statsWindow => decide (settings.run.statsWindow ≠ 0)
  | chainDepth => decide (settings.cascade.maxChainDepth ≠ 0)
  | choices => decide (settings.merge.maxChoices ≠ 0)
  | placeholder => !Text.isBlankText settings.merge.placeholder
  | baseChance => withinUnit settings.planner.baseChance
  | threshold => withinUnit settings.planner.threshold
  | surgeThreshold => withinUnit settings.cascade.surgeThreshold

/-- What is reported of settings that do not meet a requirement. -/
def fault (settings : Settings) : Requirement → SettingsFault
  | cacheSize => .cacheSize
  | dependencyTimeout | taskDeadline => .timeLimits
  | statsWindow => .statsWindow
  | chainDepth => .chainDepth
  | choices => .choices
  | placeholder => .placeholder
  | baseChance => .outsideUnit "planner.base_chance" settings.planner.baseChance
  | threshold => .outsideUnit "planner.threshold" settings.planner.threshold
  | surgeThreshold => .outsideUnit "cascade.chaos_surge_threshold" settings.cascade.surgeThreshold

/-- Where the value that a requirement is about stands. -/
def path : Requirement → ValuePath
  | cacheSize => ⟨0, "cache", 2, 1, "max_entries"⟩
  | dependencyTimeout => ⟨1, "scheduler", 3, 0, "dependency_timeout_secs"⟩
  | taskDeadline => ⟨1, "scheduler", 3, 1, "task_deadline_secs"⟩
  | statsWindow => ⟨1, "scheduler", 3, 2, "stats_window"⟩
  | chainDepth => ⟨3, "cascade", 3, 0, "max_chain_depth"⟩
  | choices => ⟨4, "merger", 2, 0, "max_choices"⟩
  | placeholder => ⟨4, "merger", 2, 1, "placeholder_narrative"⟩
  | baseChance => ⟨2, "planner", 6, 1, "base_chance"⟩
  | threshold => ⟨2, "planner", 6, 5, "threshold"⟩
  | surgeThreshold => ⟨3, "cascade", 3, 2, "chaos_surge_threshold"⟩

theorem mem_all (r : Requirement) : r ∈ all := by
  cases r <;> simp [all]

end Requirement

/-- A check of two conditions is as good as two checks. -/
theorem findSome?_when_or (earlier : Option SettingsFault) (first second : Bool)
    (fault : SettingsFault) (later : List (Option SettingsFault)) :
    (earlier :: SettingsFault.when (first || second) fault :: later).findSome? id =
      (earlier :: SettingsFault.when first fault :: SettingsFault.when second fault ::
        later).findSome? id := by
  cases first <;> cases second <;> rfl

theorem findSome?_map_when (settings : Settings) (requirements : List Requirement) :
    (requirements.map
        fun r => SettingsFault.when (!r.met settings) (r.fault settings)).findSome? id =
      (requirements.find? fun r => !r.met settings).map fun r => r.fault settings := by
  induction requirements with
  | nil => rfl
  | cons r rest ih =>
      rw [List.map_cons, List.findSome?_cons, List.find?_cons, ih]
      cases r.met settings <;> rfl

/-- The first requirement that is not met is reported. -/
theorem fault?_eq (settings : Settings) :
    settings.fault? =
      (Requirement.all.find? fun r => !r.met settings).map fun r => r.fault settings := by
  rw [← findSome?_map_when, fault?, checks, List.cons_append, List.cons_append, findSome?_when_or]
  simp only [unitNumbers, Requirement.all, List.map_cons, List.map_nil, List.cons_append,
    List.nil_append, Requirement.met, Requirement.fault, ne_eq, decide_not, Bool.not_not]

theorem isValid_iff : settings.isValid = true ↔ ∀ r : Requirement, r.met settings = true := by
  simp only [isValid, Option.isNone_iff_eq_none, fault?_eq, Option.map_eq_none_iff,
    List.find?_eq_none, Bool.not_eq_true', Bool.not_eq_false]
  exact ⟨fun h r => h r r.mem_all, fun h r _ => h r⟩

/-- What is reported is about a requirement that is not met. -/
theorem exists_unmet_of_fault? {fault : SettingsFault} (h : settings.fault? = some fault) :
    ∃ r : Requirement, r.met settings = false ∧ fault = r.fault settings := by
  rw [fault?_eq, Option.map_eq_some_iff] at h
  obtain ⟨r, hr, rfl⟩ := h
  exact ⟨r, by simpa using List.find?_some hr, rfl⟩

/-- The defaults meet all requirements. -/
theorem isValid_default : ({} : Settings).isValid = true := by
  decide +kernel

end Settings

/-! ### What a file leaves out -/

/-- A field that is missing has the value for that case. -/
theorem Fields.eq_of_orElse {α : Type} {fields : Fields} {place : Nat} {name : String}
    {read : Json → Option α} {fallback value : α}
    (h : fields.orElse place name read fallback = some value)
    (hmissing : fields.find? place name = none) : value = fallback := by
  rw [Fields.orElse, hmissing] at h
  exact (Option.some.inj h).symm

section Reading

/-! A group that was read holds, for each value that a requirement is about, what its field says. -/

variable {style : RecordStyle} {j : Json}

theorem CacheSettings.fields_of_ofRecord? {cache : CacheSettings}
    (h : CacheSettings.ofRecord? style j = some cache) :
    ∃ fields, Fields.of? style 2 j = some fields ∧
      fields.orElse 1 "max_entries" (Json.natural? 64) ({} : CacheSettings).maxEntries =
        some cache.maxEntries := by
  simp only [CacheSettings.ofRecord?, Option.bind_eq_bind, Option.bind_eq_some_iff,
    Option.some.injEq] at h
  obtain ⟨fields, hfields, _, -, _, hmaxEntries, rfl⟩ := h
  exact ⟨fields, hfields, hmaxEntries⟩

theorem RunSettings.fields_of_ofRecord? {run : RunSettings}
    (h : RunSettings.ofRecord? style j = some run) :
    ∃ fields, Fields.of? style 3 j = some fields ∧
      fields.orElse 0 "dependency_timeout_secs" (Json.natural? 64)
        ({} : RunSettings).dependencyTimeoutSeconds = some run.dependencyTimeoutSeconds ∧
      fields.orElse 1 "task_deadline_secs" (Json.natural? 64)
        ({} : RunSettings).taskDeadlineSeconds = some run.taskDeadlineSeconds ∧
      fields.orElse 2 "stats_window" (Json.natural? 64) ({} : RunSettings).statsWindow =
        some run.statsWindow := by
  simp only [RunSettings.ofRecord?, Option.bind_eq_bind, Option.bind_eq_some_iff,
    Option.some.injEq] at h
  obtain ⟨fields, hfields, _, htimeout, _, hdeadline, _, hwindow, rfl⟩ := h
  exact ⟨fields, hfields, htimeout, hdeadline, hwindow⟩

theorem PlannerSettings.fields_of_ofRecord? {planner : PlannerSettings}
    (h : PlannerSettings.ofRecord? style j = some planner) :
    ∃ fields, Fields.of? style 6 j = some fields ∧
      fields.orElse 1 "base_chance" Json.single? ({} : PlannerSettings).baseChance =
        some planner.baseChance ∧
      fields.orElse 5 "threshold" Json.single? ({} : PlannerSettings).threshold =
        some planner.threshold := by
  simp only [PlannerSettings.ofRecord?, Option.bind_eq_bind, Option.bind_eq_some_iff,
    Option.some.injEq] at h
  obtain ⟨fields, hfields, _, -, _, hchance, _, -, _, -, _, -, _, hthreshold, rfl⟩ := h
  exact ⟨fields, hfields, hchance, hthreshold⟩

theorem CascadeSettings.fields_of_ofRecord? {cascade : CascadeSettings}
    (h : CascadeSettings.ofRecord? style j = some cascade) :
    ∃ fields, Fields.of? style 3 j = some fields ∧
      fields.orElse 0 "max_chain_depth" (Json.natural? 64) ({} : CascadeSettings).maxChainDepth =
        some cascade.maxChainDepth ∧
      fields.orElse 2 "chaos_surge_threshold" Json.single? ({} : CascadeSettings).surgeThreshold =
        some cascade.surgeThreshold := by
  simp only [CascadeSettings.ofRecord?, Option.bind_eq_bind, Option.bind_eq_some_iff,
    Option.some.injEq] at h
  obtain ⟨fields, hfields, _, hdepth, _, -, _, hsurge, rfl⟩ := h
  exact ⟨fields, hfields, hdepth, hsurge⟩

theorem MergeSettings.fields_of_ofRecord? {merge : MergeSettings}
    (h : MergeSettings.ofRecord? style j = some merge) :
    ∃ fields, Fields.of? style 2 j = some fields ∧
      fields.orElse 0 "max_choices" (Json.natural? 64) ({} : MergeSettings).maxChoices =
        some merge.maxChoices ∧
      fields.orElse 1 "placeholder_narrative" Json.text? ({} : MergeSettings).placeholder =
        some merge.placeholder := by
  simp only [MergeSettings.ofRecord?, Option.bind_eq_bind, Option.bind_eq_some_iff,
    Option.some.injEq] at h
  obtain ⟨fields, hfields, _, hchoices, _, hplaceholder, rfl⟩ := h
  exact ⟨fields, hfields, hchoices, hplaceholder⟩

/-- The groups that requirements are about. -/
theorem Settings.fields_of_ofRecord? {settings : Settings}
    (h : Settings.ofRecord? style j = some settings) :
    ∃ groups, Fields.of? style 7 j = some groups ∧
      groups.orElse 0 "cache" (CacheSettings.ofRecord? style) {} = some settings.cache ∧
      groups.orElse 1 "scheduler" (RunSettings.ofRecord? style) {} = some settings.run ∧
      groups.orElse 2 "planner" (PlannerSettings.ofRecord? style) {} = some settings.planner ∧
      groups.orElse 3 "cascade" (CascadeSettings.ofRecord? style) {} = some settings.cascade ∧
      groups.orElse 4 "merger" (MergeSettings.ofRecord? style) {} = some settings.merge := by
  simp only [Settings.ofRecord?, Option.bind_eq_bind, Option.bind_eq_some_iff,
    Option.some.injEq] at h
  obtain ⟨groups, hgroups, _, hcache, _, hrun, _, hplanner, _, hcascade, _, hmerge, _, -, _, -,
    rfl⟩ := h
  exact ⟨groups, hgroups, hcache, hrun, hplanner, hcascade, hmerge⟩

end Reading

namespace Settings

/-- A value that is not written at its path is that of the fallback, be it that its group is missing
or that the group is there without it. -/
theorem ValuePath.eq_of_unwritten {path : ValuePath} {tree : Json} {groups : Fields} {α β : Type}
    {readGroup : Json → Option α} {read : Json → Option β} {fallback group : α} (value : α → β)
    (h : path.find? tree = none) (hgroups : Fields.of? .toml 7 tree = some groups)
    (hgroup : groups.orElse path.groupPlace path.group readGroup fallback = some group)
    (hvalue : ∀ j, readGroup j = some group →
      ∃ fields, Fields.of? .toml path.count j = some fields ∧
        fields.orElse path.place path.name read (value fallback) = some (value group)) :
    value group = value fallback := by
  cases hfound : groups.find? path.groupPlace path.group with
  | none => rw [Fields.eq_of_orElse hgroup hfound]
  | some j =>
      rw [Fields.orElse, hfound] at hgroup
      obtain ⟨fields, hfields, hread⟩ := hvalue j hgroup
      exact Fields.eq_of_orElse hread (by simpa [ValuePath.find?, hgroups, hfound, hfields] using h)

/-- What a file leaves out has its default, and that meets the requirement. -/
theorem Requirement.met_of_unwritten {tree : Json} {settings : Settings} {r : Requirement}
    (h : Settings.ofRecord? .toml tree = some settings) (hunwritten : r.path.find? tree = none) :
    r.met settings = true := by
  have hdefault : r.met {} = true := isValid_iff.mp isValid_default r
  obtain ⟨groups, hgroups, hcache, hrun, hplanner, hcascade, hmerge⟩ := fields_of_ofRecord? h
  cases r with
  | cacheSize =>
      rwa [met, ValuePath.eq_of_unwritten (·.maxEntries) hunwritten hgroups hcache
        fun j => CacheSettings.fields_of_ofRecord?]
  | dependencyTimeout =>
      rwa [met, ValuePath.eq_of_unwritten (·.dependencyTimeoutSeconds) hunwritten hgroups hrun
        fun j hj => by
          obtain ⟨fields, hfields, htimeout, -, -⟩ := RunSettings.fields_of_ofRecord? hj
          exact ⟨fields, hfields, htimeout⟩]
  | taskDeadline =>
      rwa [met, ValuePath.eq_of_unwritten (·.taskDeadlineSeconds) hunwritten hgroups hrun
        fun j hj => by
          obtain ⟨fields, hfields, -, hdeadline, -⟩ := RunSettings.fields_of_ofRecord? hj
          exact ⟨fields, hfields, hdeadline⟩]
  | statsWindow =>
      rwa [met, ValuePath.eq_of_unwritten (·.statsWindow) hunwritten hgroups hrun
        fun j hj => by
          obtain ⟨fields, hfields, -, -, hwindow⟩ := RunSettings.fields_of_ofRecord? hj
          exact ⟨fields, hfields, hwindow⟩]
  | chainDepth =>
      rwa [met, ValuePath.eq_of_unwritten (·.maxChainDepth) hunwritten hgroups hcascade
        fun j hj => by
          obtain ⟨fields, hfields, hdepth, -⟩ := CascadeSettings.fields_of_ofRecord? hj
          exact ⟨fields, hfields, hdepth⟩]
  | choices =>
      rwa [met, ValuePath.eq_of_unwritten (·.maxChoices) hunwritten hgroups hmerge
        fun j hj => by
          obtain ⟨fields, hfields, hchoices, -⟩ := MergeSettings.fields_of_ofRecord? hj
          exact ⟨fields, hfields, hchoices⟩]
  | placeholder =>
      rwa [met, ValuePath.eq_of_unwritten (·.placeholder) hunwritten hgroups hmerge
        fun j hj => by
          obtain ⟨fields, hfields, -, hplaceholder⟩ := MergeSettings.fields_of_ofRecord? hj
          exact ⟨fields, hfields, hplaceholder⟩]
  | baseChance =>
      rwa [met, ValuePath.eq_of_unwritten (·.baseChance) hunwritten hgroups hplanner
        fun j hj => by
          obtain ⟨fields, hfields, hchance, -⟩ := PlannerSettings.fields_of_ofRecord? hj
          exact ⟨fields, hfields, hchance⟩]
  | threshold =>
      rwa [met, ValuePath.eq_of_unwritten (·.threshold) hunwritten hgroups hplanner
        fun j hj => by
          obtain ⟨fields, hfields, -, hthreshold⟩ := PlannerSettings.fields_of_ofRecord? hj
          exact ⟨fields, hfields, hthreshold⟩]
  | surgeThreshold =>
      rwa [met, ValuePath.eq_of_unwritten (·.surgeThreshold) hunwritten hgroups hcascade
        fun j hj => by
          obtain ⟨fields, hfields, -, hsurge⟩ := CascadeSettings.fields_of_ofRecord? hj
          exact ⟨fields, hfields, hsurge⟩]

end Settings

/-- A file that can be read writes a value that does not meet its requirement. -/
def SettingsFile.Breaks (file : SettingsFile) (written : Settings) (r : Settings.Requirement) :
    Prop :=
  ∃ content document tree value,
    file = .bytes content ∧ String.fromUTF8? content = some document ∧
      Toml.parse? document = some tree ∧ Settings.ofRecord? .toml tree = some written ∧
      r.path.find? tree = some value ∧ r.met written = false

namespace Settings

/-- What a file holds breaks a requirement exactly if it writes the value that does. -/
theorem breaks_iff {file : SettingsFile} {written : Settings} {r : Requirement} :
    file.Breaks written r ↔ ofFile file = .ok written ∧ r.met written = false := by
  constructor
  · rintro ⟨content, document, tree, value, rfl, hdocument, htree, hwritten, -, hunmet⟩
    exact ⟨by simp [ofFile, hdocument, ofToml?, htree, hwritten], hunmet⟩
  · rintro ⟨hfile, hunmet⟩
    cases file with
    | missing =>
        obtain rfl := Except.ok.inj hfile
        exact absurd (isValid_iff.mp isValid_default r) (Bool.eq_false_iff.mp hunmet)
    | directory => cases hfile
    | bytes content =>
        rw [ofFile] at hfile
        split at hfile
        case h_1 => cases hfile
        case h_2 document hdocument =>
            split at hfile
            case h_2 => cases hfile
            case h_1 hread =>
                obtain rfl := Except.ok.inj hfile
                obtain ⟨tree, htree, hwritten⟩ := Option.bind_eq_some_iff.mp hread
                cases hvalue : r.path.find? tree with
                | none =>
                    exact absurd (Requirement.met_of_unwritten hwritten hvalue)
                      (Bool.eq_false_iff.mp hunmet)
                | some value =>
                    exact ⟨content, document, tree, value, rfl, hdocument, htree, hwritten, hvalue,
                      hunmet⟩

end Settings

end StoryDirector
