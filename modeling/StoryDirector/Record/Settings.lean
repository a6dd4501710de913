import StoryDirector.Record
import StoryDirector.Settings
/-!
# StoryDirector.Record.Settings

The written form of settings. **Every field of every group may be missing and then has its
default.** Reading does not judge the values; that is the matter of `Settings.fault?`.
-/

namespace StoryDirector

/-- The cache settings that a record holds. -/
def CacheSettings.ofRecord? (style : RecordStyle) (j : Json) : Option CacheSettings := do
  let fallback : CacheSettings := {}
  let fields ← Fields.of? style 2 j
  let ttlSeconds ← fields.orElse 0 "ttl_secs" (Json.natural? 64) fallback.ttlSeconds
  let maxEntries ← fields.orElse 1 "max_entries" (Json.natural? 64) fallback.maxEntries
  some { ttlSeconds, maxEntries }

/-- The running settings that a record holds. -/
def RunSettings.ofRecord? (style : RecordStyle) (j : Json) : Option RunSettings := do
  let fallback : RunSettings := {}
  let fields ← Fields.of? style 3 j
  let dependencyTimeoutSeconds ←
    fields.orElse 0 "dependency_timeout_secs" (Json.natural? 64) fallback.dependencyTimeoutSeconds
  let taskDeadlineSeconds ←
    fields.orElse 1 "task_deadline_secs" (Json.natural? 64) fallback.taskDeadlineSeconds
  let statsWindow ← fields.orElse 2 "stats_window" (Json.natural? 64) fallback.statsWindow
  some { dependencyTimeoutSeconds, taskDeadlineSeconds, statsWindow }

/-- The planning settings that a record holds. -/
def PlannerSettings.ofRecord? (style : RecordStyle) (j : Json) : Option PlannerSettings := do
  let fallback : PlannerSettings := {}
  let fields ← Fields.of? style 6 j
  let mode ←
    fields.orElse 0 "extra_task_mode" (Json.named? style InjectionMode.ofName?) fallback.mode
  let baseChance ← fields.orElse 1 "base_chance" Json.single? fallback.baseChance
  let chaosWeight ← fields.orElse 2 "chaos_weight" Json.single? fallback.chaosWeight
  let milestoneInterval ←
    fields.orElse 3 "milestone_interval" (Json.natural? 32) fallback.milestoneInterval
  let milestoneBonus ← fields.orElse 4 "milestone_bonus" Json.single? fallback.milestoneBonus
  let threshold ← fields.orElse 5 "threshold" Json.single? fallback.threshold
  some { mode, baseChance, chaosWeight, milestoneInterval, milestoneBonus, threshold }

/-- The cascade settings that a record holds. -/
def CascadeSettings.ofRecord? (style : RecordStyle) (j : Json) : Option CascadeSettings := do
  let fallback : CascadeSettings := {}
  let fields ← Fields.of? style 3 j
  let maxChainDepth ← fields.orElse 0 "max_chain_depth" (Json.natural? 64) fallback.maxChainDepth
  let significantPriority ←
    fields.orElse 1 "significant_priority" (Json.integer? 32) fallback.significantPriority
  let surgeThreshold ← fields.orElse 2 "chaos_surge_threshold" Json.single? fallback.surgeThreshold
  some { maxChainDepth, significantPriority, surgeThreshold }

/-- The merging settings that a record holds. -/
def MergeSettings.ofRecord? (style : RecordStyle) (j : Json) : Option MergeSettings := do
  let fallback : MergeSettings := {}
  let fields ← Fields.of? style 2 j
  let maxChoices ← fields.orElse 0 "max_choices" (Json.natural? 64) fallback.maxChoices
  let placeholder ← fields.orElse 1 "placeholder_narrative" Json.text? fallback.placeholder
  some { maxChoices, placeholder }

/-- The session settings that a record holds. -/
def SessionSettings.ofRecord? (style : RecordStyle) (j : Json) : Option SessionSettings := do
  let fallback : SessionSettings := {}
  let fields ← Fields.of? style 2 j
  let recentActions ←
    fields.orElse 0 "recent_actions_limit" (Json.natural? 64) fallback.recentActions
  let recentEvents ← fields.orElse 1 "recent_events_limit" (Json.natural? 64) fallback.recentEvents
  some { recentActions, recentEvents }

/-- The log settings that a record holds. -/
def LogSettings.ofRecord? (style : RecordStyle) (j : Json) : Option LogSettings := do
  let fallback : LogSettings := {}
  let fields ← Fields.of? style 3 j
  let level ← fields.orElse 0 "level" Json.text? fallback.level
  let json ← fields.orElse 1 "json" Json.truth? fallback.json
  let moduleLevels ← fields.orElse 2 "module_levels" (Json.dict? Json.text?) fallback.moduleLevels
  some { level, json, moduleLevels }

/-- The settings that a record holds. -/
def Settings.ofRecord? (style : RecordStyle) (j : Json) : Option Settings := do
  let fields ← Fields.of? style 7 j
  let cache ← fields.orElse 0 "cache" (CacheSettings.ofRecord? style) {}
  let run ← fields.orElse 1 "scheduler" (RunSettings.ofRecord? style) {}
  let planner ← fields.orElse 2 "planner" (PlannerSettings.ofRecord? style) {}
  let cascade ← fields.orElse 3 "cascade" (CascadeSettings.ofRecord? style) {}
  let merge ← fields.orElse 4 "merger" (MergeSettings.ofRecord? style) {}
  let session ← fields.orElse 5 "session" (SessionSettings.ofRecord? style) {}
  let log ← fields.orElse 6 "logging" (LogSettings.ofRecord? style) {}
  some { cache, run, planner, cascade, merge, session, log }

/-- All settings, with a way to write numbers that may be infinite or none at all. -/
def Settings.record (settings : Settings) (number : Float32 → Json := Json.ofSingle) : Json :=
  Json.ofEntries
    [("cache", .ofEntries
       [("ttl_secs", .ofNat settings.cache.ttlSeconds),
        ("max_entries", .ofNat settings.cache.maxEntries)]),
     ("scheduler", .ofEntries
       [("dependency_timeout_secs", .ofNat settings.run.dependencyTimeoutSeconds),
        ("task_deadline_secs", .ofNat settings.run.taskDeadlineSeconds),
        ("stats_window", .ofNat settings.run.statsWindow)]),
     ("planner", .ofEntries
       [("extra_task_mode", .text settings.planner.mode.name),
        ("base_chance", number settings.planner.baseChance),
        ("chaos_weight", number settings.planner.chaosWeight),
        ("milestone_interval", .ofNat settings.planner.milestoneInterval),
        ("milestone_bonus", number settings.planner.milestoneBonus),
        ("threshold", number settings.planner.threshold)]),
     ("cascade", .ofEntries
       [("max_chain_depth", .ofNat settings.cascade.maxChainDepth),
        ("significant_priority", .int settings.cascade.significantPriority),
        ("chaos_surge_threshold", number settings.cascade.surgeThreshold)]),
     ("merger", .ofEntries
       [("max_choices", .ofNat settings.merge.maxChoices),
        ("placeholder_narrative", .text settings.merge.placeholder)]),
     ("session", .ofEntries
       [("recent_actions_limit", .ofNat settings.session.recentActions),
        ("recent_events_limit", .ofNat settings.session.recentEvents)]),
     ("logging", .ofEntries
       [("level", .text settings.log.level),
        ("json", .bool settings.log.json),
        ("module_levels", .object (settings.log.moduleLevels.map fun (name, level) =>
          (name, .text level)))])]

end StoryDirector
