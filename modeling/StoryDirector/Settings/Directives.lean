import StoryDirector.Settings
import StoryDirector.Text.Lowercase
/-!
# StoryDirector.Settings.Directives

The log settings as one line of filter directives: **the general level, then every module with its
level in rising order of the modules**, all levels in lower case.
-/

namespace StoryDirector.LogSettings

/-- The directive of one module. -/
def directive (entry : String × String) : String :=
  "," ++ entry.1 ++ "=" ++ Text.lowercase entry.2

/-- The filter directives. -/
def directives (settings : LogSettings) : String :=
  Text.lowercase settings.level ++ String.join (settings.moduleLevels.map directive)

end StoryDirector.LogSettings
