import StoryDirector.Briefing
import StoryDirector.Digest.Sha256
import StoryDirector.Json.Text
/-!
# StoryDirector.Briefing.Fingerprint

When two briefings are the same question. **The key of a briefing holds what a worker's answer may
depend on** — the task, the action with its lasting extras, and the situation — and leaves out who
plays, what was said before and what changes from request to request. Its canonical text is hashed
into the fingerprint under which responses are cached.
-/

namespace StoryDirector

/-- The name under which a response is cached. -/
structure Fingerprint where
  /-- Sixty-four hexadecimal digits. -/
  hex : String
  deriving DecidableEq

/-- The digits that are enough to tell fingerprints apart in a report. -/
def Fingerprint.short (fingerprint : Fingerprint) : String :=
  String.ofList (fingerprint.hex.toList.take 12)

namespace Briefing

/-- Extras that differ between otherwise equal requests. -/
def passingExtras : List String := ["timestamp", "request_id", "client_time"]

/-- Chaos in hundredths, so that noise in the last digits makes no difference. -/
def chaosHundredths (chaos : Float32) : Int :=
  Float32.nearestWhole (chaos * 100)

/-- What an answer to the briefing may depend on. -/
def key (briefing : Briefing) : Json :=
  let view := briefing.view
  Json.ofEntries
    [("task", .text briefing.task),
     ("kind", .text briefing.kind.name),
     ("action", .text briefing.action.text),
     ("metadata", .object (Dict.without briefing.action.metadata passingExtras)),
     ("turn", .int view.turn),
     ("location", .text view.location),
     ("chaos", .int (chaosHundredths view.chaos)),
     ("npcs", .array ((view.npcs.mergeSort fun a b => decide (a ≤ b)).map .text))]

/-- The text that is hashed. -/
def canonicalText (briefing : Briefing) : String :=
  briefing.key.render

/-- The name under which responses to the briefing are cached. -/
def fingerprint (briefing : Briefing) : Fingerprint :=
  ⟨Sha256.hexDigest briefing.canonicalText⟩

end Briefing

end StoryDirector
