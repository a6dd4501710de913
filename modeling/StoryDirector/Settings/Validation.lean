import StoryDirector.Decimal.Layout
import StoryDirector.Settings
import StoryDirector.Text.Blank
/-!
# StoryDirector.Settings.Validation

Which settings are acceptable. **The checks are made in one order and the first that fails is
reported.** A chance or threshold has to lie between zero and one; what is not a number does not.
-/

namespace StoryDirector

/-- What is wrong with some settings. -/
inductive SettingsFault where
  /-- The cache has no room. -/
  | cacheSize
  /-- A limit of time is zero. -/
  | timeLimits
  /-- No call durations are kept. -/
  | statsWindow
  /-- The cascade has no rounds. -/
  | chainDepth
  /-- The player is given no choice. -/
  | choices
  /-- The placeholder is blank. -/
  | placeholder
  /-- A number is not between zero and one. -/
  | outsideUnit (name : String) (value : Float32)

/-- The wording of a fault. -/
def SettingsFault.message : SettingsFault → String
  | .cacheSize => "cache.max_entries must be at least 1"
  | .timeLimits => "scheduler timeouts must be at least 1 second"
  | .statsWindow => "scheduler.stats_window must be at least 1"
  | .chainDepth => "cascade.max_chain_depth must be at least 1"
  | .choices => "merger.max_choices must be at least 1"
  | .placeholder => "merger.placeholder_narrative must not be empty"
  | .outsideUnit name value =>
    name ++ " must be within 0.0..=1.0, got " ++ Float32.messageText value

/-- A fault, if a condition holds. -/
def SettingsFault.when (condition : Bool) (fault : SettingsFault) : Option SettingsFault :=
  if condition then some fault else none

namespace Settings

/-- Whether a number lies between zero and one. -/
def withinUnit (x : Float32) : Bool :=
  decide (0 ≤ x) && decide (x ≤ 1)

/-- The numbers that have to lie between zero and one. -/
def unitNumbers (settings : Settings) : List (String × Float32) :=
  [("planner.base_chance", settings.planner.baseChance),
   ("planner.threshold", settings.planner.threshold),
   ("cascade.chaos_surge_threshold", settings.cascade.surgeThreshold)]

/-- The faults of single checks, in their order. -/
def checks (settings : Settings) : List (Option SettingsFault) :=
  [SettingsFault.when (settings.cache.maxEntries = 0) .cacheSize,
   SettingsFault.when
     (settings.run.dependencyTimeoutSeconds = 0 || settings.run.taskDeadlineSeconds = 0)
     .timeLimits,
   SettingsFault.when (settings.run.statsWindow = 0) .statsWindow,
   SettingsFault.when (settings.cascade.maxChainDepth = 0) .chainDepth,
   SettingsFault.when (settings.merge.maxChoices = 0) .choices,
   SettingsFault.when (Text.isBlankText settings.merge.placeholder) .placeholder] ++
  settings.unitNumbers.map fun (name, value) =>
    SettingsFault.when (!withinUnit value) (.outsideUnit name value)

/-- The first fault, if there is any. -/
def fault? (settings : Settings) : Option SettingsFault :=
  settings.checks.findSome? id

/-- Whether the settings are acceptable. -/
def isValid (settings : Settings) : Bool :=
  settings.fault?.isNone

end Settings

end StoryDirector
