import StoryDirector.Decimal.Binary
import StoryDirector.Settings
import StoryDirector.Text.Blank
import StoryDirector.Text.Lowercase
/-!
# StoryDirector.Settings.Environment

Settings from the environment. **A variable that is set to something acceptable wins over everything
else; one that is not acceptable is ignored.**
-/

namespace StoryDirector

/-- The variables of an environment. -/
abbrev Environment := Dict String

/-- The mode that a label means. -/
def InjectionMode.ofLabel? (label : String) : Option InjectionMode :=
  let plain := Text.lowercase (Text.trim label)
  if plain = "threshold" then some .threshold
  else if plain = "sampled" ∨ plain = "random" then some .sampled
  else none

namespace Environment

/-- Words for yes. -/
def yesWords : List String := ["true", "1", "yes", "on"]

/-- Words for no. -/
def noWords : List String := ["false", "0", "no", "off"]

/-- The truth value that a text means. -/
def truth? (text : String) : Option Bool :=
  let plain := Text.lowercase (Text.trim text)
  if plain ∈ yesWords then some true
  else if plain ∈ noWords then some false
  else none

/-- The number that some decimal digits write, at least one. -/
def digitsNumber? (s : List Char) : Option Nat :=
  if s.isEmpty then none
  else if s.all Char.isDigit then some (s.foldl (fun n c => n * 10 + (c.toNat - 0x30)) 0)
  else none

/-- The number without a minus sign that a text writes. -/
def whole? (text : String) : Option Nat :=
  match (Text.trim text).toList with
  | '+' :: rest => digitsNumber? rest
  | s => digitsNumber? s

/-- The number that a text writes, if it lies in a range and has at most 64 bits. -/
def wholeWithin? (text : String) (low high : Nat) : Option Nat :=
  (whole? text).bind fun n => if n ≤ largestUnsigned ∧ low ≤ n ∧ n ≤ high then some n else none

variable (env : Environment)

/-- The number in a variable. -/
def wholeOf? (name : String) (low high : Nat) : Option Nat :=
  (Dict.value? env name).bind fun text => wholeWithin? text low high

/-- The text in a variable, if it is not empty. -/
def textOf? (name : String) : Option String :=
  (Dict.value? env name).filter (!·.isEmpty)

/-- The truth value in a variable. -/
def truthOf? (name : String) : Option Bool :=
  (Dict.value? env name).bind truth?

/-- The mode in a variable. -/
def modeOf? (name : String) : Option InjectionMode :=
  (textOf? env name).bind InjectionMode.ofLabel?

end Environment

/-- The settings with those in the environment in place of their own. -/
def Settings.overriddenBy (settings : Settings) (env : Environment) : Settings where
  cache :=
    { ttlSeconds :=
        (env.wholeOf? "CORTEX_CACHE_TTL_SECS" 0 86400).getD settings.cache.ttlSeconds
      maxEntries :=
        (env.wholeOf? "CORTEX_CACHE_MAX_ENTRIES" 1 1000000).getD settings.cache.maxEntries }
  run :=
    { settings.run with
      dependencyTimeoutSeconds :=
        (env.wholeOf? "CORTEX_DEPENDENCY_TIMEOUT_SECS" 1 3600).getD
          settings.run.dependencyTimeoutSeconds
      taskDeadlineSeconds :=
        (env.wholeOf? "CORTEX_TASK_DEADLINE_SECS" 1 3600).getD settings.run.taskDeadlineSeconds }
  planner :=
    { settings.planner with
      mode := (env.modeOf? "CORTEX_EXTRA_TASK_MODE").getD settings.planner.mode }
  cascade :=
    { settings.cascade with
      maxChainDepth :=
        (env.wholeOf? "CORTEX_MAX_CHAIN_DEPTH" 1 32).getD settings.cascade.maxChainDepth }
  merge := settings.merge
  session := settings.session
  log :=
    { settings.log with
      level := (env.textOf? "CORTEX_LOG_LEVEL").getD settings.log.level
      json := (env.truthOf? "CORTEX_LOG_JSON").getD settings.log.json }

end StoryDirector
