import StoryDirector.Proofs.Director.Quiet
import StoryDirector.Proofs.Director.SameEvents
/-!
# StoryDirector.Proofs.Director.Isolation

Sessions do not notice each other, although all share the cache and the call durations. When workers
answer at once and from the question alone and planning draws no lots, **each session is a machine
of its own** (`Demand.effect`): what a demand is answered and what it makes of the session depend on
that session alone. Between two demands the director is quiet (`Director.Quiet.met`), so the demands
on one session come to the same whether or not there are others in between (`isolation`).

The one trace of the others is the share of cache look-ups that were hits, which every answer
reports; findings are compared without it (`Finding.unrated`).
-/

namespace StoryDirector

/-! ### What is compared -/

/-- What is put under a name that is left out makes no difference. -/
theorem Dict.without_put {α : Type} {dropped : List String} {key : String} (hkey : key ∈ dropped)
    (d : Dict α) (value : α) : without (put d key value) dropped = without d dropped := by
  induction d with
  | nil => simp [put, without, hkey]
  | cons entry rest ih =>
      obtain ⟨name, old⟩ := entry
      rw [put]
      split
      · simp [without, hkey]
      · split
        case isTrue hname => simp [without, hname, hkey]
        case isFalse =>
            simp only [without, List.filter_cons] at ih ⊢
            rw [ih]

/-- The answer without the share of cache look-ups that were hits. -/
def Answer.unrated (given : Answer) : Answer :=
  { given with metadata := Dict.without given.metadata ["cache_hit_rate"] }

/-- The finding without the share of cache look-ups that were hits. -/
def Finding.unrated : Finding → Finding
  | .acted result => .acted (result.map Answer.unrated)
  | finding => finding

/-- Without that share, an answer is made of the results alone. -/
theorem Merge.unrated_answer (settings : MergeSettings) (results : List TaskResult)
    (cascade : List Event) (facts : RunFacts) (hitRate : Float) :
    (answer settings results cascade { facts with hitRate }).unrated =
      (answer settings results cascade facts).unrated := by
  -- The share is what is put under its name last.
  have hlast : ∀ rest : Dict Json, ∀ one other : Json,
      Dict.without (Dict.put rest "cache_hit_rate" one) ["cache_hit_rate"] =
        Dict.without (Dict.put rest "cache_hit_rate" other) ["cache_hit_rate"] := by
    intro rest one other
    rw [Dict.without_put List.mem_cons_self, Dict.without_put List.mem_cons_self]
  exact congrArg (fun metadata => { answer settings results cascade facts with metadata })
    (hlast _ _ _)

/-! ### A session by itself -/

/-- What can be asked of a director about a session. -/
inductive Demand where
  /-- To start it at a turn. -/
  | openSession (session : Uuid) (turn : Nat)
  /-- To end it. -/
  | endSession (session : Uuid)
  /-- To answer an action. -/
  | act (session : Uuid) (action : PlayerAction) (snapshot : Snapshot)

namespace Demand

/-- The session that the demand is about. -/
def session : Demand → Uuid
  | .openSession session _ | .endSession session | .act session _ _ => session

/-- The session afterwards, if there is one then, and what is found, when workers answer at once and
no lots are drawn. -/
def effect (setup : DirectorSetup) (answer : AnswerRule) :
    Demand → Option Session → Option Session × Finding
  | .openSession session _, some found =>
    (some found, .opened (.error (.sessionExists session)))
  | .openSession session turn, none =>
    let fresh : Session := { id := session, turn }
    (some (fresh.withLimits setup.memory.recentActions setup.memory.recentEvents),
     .opened (.ok ()))
  | .endSession _, known => (none, .ended known.isSome)
  | .act session _ _, none => (none, .acted (.error (.unknownSession session)))
  | .act _ action snapshot, some found =>
    let (left, given) := found.answered setup answer action snapshot 0 0
    (some left, .acted (.ok given))

/-- The session after some demands in order, and what is found. -/
def effects (setup : DirectorSetup) (answer : AnswerRule) :
    List Demand → Option Session → Option Session × List Finding
  | [], known => (known, [])
  | demand :: rest, known =>
    let (after, finding) := demand.effect setup answer known
    let (last, findings) := effects setup answer rest after
    (last, finding :: findings)

end Demand

/-! ### Demands on a director, one at a time -/

/-- What an item came to, once it was answered. -/
def Item.finding? (item : Item) : Option Finding :=
  match item.stage with
  | .done finding _ => some finding
  | .ahead | .acting _ _ _ | .reading _ _ | .pausing _ => none

/-- A demand that comes some time after the one before it was met. -/
structure Occasion where
  /-- The demand. -/
  demand : Demand
  /-- How much later it comes. -/
  later : Duration := 0
  /-- The draw that planning may need. -/
  draw : Float32 := 0

/-- The demand as a request; no one cancels it. -/
def Occasion.request (occasion : Occasion) : Request :=
  match occasion.demand with
  | .openSession session turn => .openSession session turn
  | .endSession session => .endSession session
  | .act session action snapshot => .act { session, action, snapshot, draw := occasion.draw } none

/-- The demands on one session. -/
def Occasion.demandsOn (session : Uuid) (occasions : List Occasion) : List Demand :=
  (occasions.map (·.demand)).filter (·.session = session)

/-- What was found about one session, without the reports on the cache. -/
def Finding.foundOn (session : Uuid) (findings : List (Uuid × Option Finding)) :
    List (Option Finding) :=
  (findings.filter (·.1 = session)).map (·.2.map Finding.unrated)

theorem Occasion.demandsOn_cons (session : Uuid) (occasion : Occasion) (rest : List Occasion) :
    demandsOn session (occasion :: rest) =
      if occasion.demand.session = session then occasion.demand :: demandsOn session rest
      else demandsOn session rest := by
  simp only [demandsOn, List.map_cons, List.filter_cons, decide_eq_true_eq]

theorem Finding.foundOn_cons (session about : Uuid) (finding : Option Finding)
    (rest : List (Uuid × Option Finding)) :
    foundOn session ((about, finding) :: rest) =
      if about = session then finding.map unrated :: foundOn session rest
      else foundOn session rest := by
  simp only [foundOn, List.filter_cons, decide_eq_true_eq]
  split <;> rfl

/-- No lots are drawn where the chance only has to pass a threshold. -/
theorem Planner.plan_threshold {planner : Planner} (h : planner.settings.mode = .threshold)
    (action : PlayerAction) (session : Session) (draw other : Float32) :
    planner.plan action session draw = planner.plan action session other := by
  rw [plan, plan, anomaly?_threshold h other]

/-- An action comes to the same whatever is drawn and however the cache did, but for the report on
the cache. -/
theorem Session.answered_threshold {setup : DirectorSetup}
    (h : setup.planner.settings.mode = .threshold) (found : Session) (answer : AnswerRule)
    (action : PlayerAction) (snapshot : Snapshot) (draw : Float32) (hitRate : Float) :
    let one := found.answered setup answer action snapshot draw hitRate
    let other := found.answered setup answer action snapshot 0 0
    one.1 = other.1 ∧ one.2.unrated = other.2.unrated := by
  intro one other
  have hdraw : one = found.answered setup answer action snapshot 0 hitRate := by
    simp only [one, answered, Planner.plan_threshold h action (found.apply snapshot) draw 0]
  rw [hdraw]
  exact ⟨rfl, Merge.unrated_answer _ _ _ ⟨_, _, 0⟩ hitRate⟩

namespace Director

variable {setup : DirectorSetup} {answer : AnswerRule} {director : Director}

/-- The director after a demand was met, and what was found. -/
def meet (setup : DirectorSetup) (director : Director) (occasion : Occasion) :
    Director × Option Finding :=
  let served := Timeline.serve setup director [(occasion.later, occasion.request)]
  (served.director, served.items.head?.bind Item.finding?)

/-- The director after some demands were met in order, and what was found about which session. -/
def meetAll (setup : DirectorSetup) :
    Director → List Occasion → Director × List (Uuid × Option Finding)
  | director, [] => (director, [])
  | director, occasion :: rest =>
    let (met, finding) := director.meet setup occasion
    let (last, findings) := met.meetAll setup rest
    (last, (occasion.demand.session, finding) :: findings)

/-- A demand was met: its session is as the demand leaves it and all others are as before. -/
structure Met (setup : DirectorSetup) (answer : AnswerRule) (director : Director) (demand : Demand)
    (after : Director) (finding : Finding) : Prop where
  /-- The director is quiet. -/
  quiet : after.Quiet answer
  /-- The demand is answered as if there were no other sessions. -/
  finding : finding.unrated =
    (demand.effect setup answer (director.sessionOf? demand.session)).2.unrated
  /-- No other session has changed. -/
  sessions : ∀ other, after.sessionOf? other =
    if other = demand.session then
      (demand.effect setup answer (director.sessionOf? demand.session)).1
    else director.sessionOf? other

/-- A demand was refused: no session has changed. -/
theorem Quiet.met_refused (h : director.Quiet answer) {demand : Demand} {finding : Finding}
    (heffect : demand.effect setup answer (director.sessionOf? demand.session) =
      (director.sessionOf? demand.session, finding)) :
    Met setup answer director demand director finding where
  quiet := h
  finding := by rw [heffect]
  sessions := by
    intro other
    rw [heffect]
    split
    case isTrue hsame => rw [hsame]
    case isFalse => rfl

/-- A session is started, or refused because it was. -/
theorem Quiet.met_openSession (h : director.Quiet answer) (setup : DirectorSetup)
    (session : Uuid) (turn : Nat) (startAt : Instant) :
    ∃ after finding,
      Item.begin ⟨startAt, .openSession session turn, .ahead⟩ setup director =
        (after, ⟨startAt, .openSession session turn, .done finding after.engine.now⟩) ∧
      Met setup answer director (.openSession session turn) after finding := by
  have hknown := h.hasSession_eq session
  cases hroom : director.room? session with
  | none =>
      have hnone := sessionOf?_of_not_room session hroom
      rw [hnone] at hknown
      let fresh := Session.withLimits { id := session, turn } setup.memory.recentActions
        setup.memory.recentEvents
      have hopen : director.openSession setup session turn =
          .ok (director.withSession session fresh) := if_neg (by simp [hknown])
      have heffect : Demand.effect setup answer (.openSession session turn)
          (director.sessionOf? session) = (some fresh, .opened (.ok ())) := by
        rw [hnone]
        rfl
      refine ⟨director.withSession session fresh, .opened (.ok ()), ?_,
        h.withSession hroom fresh, by rw [Demand.session, heffect], fun other => ?_⟩
      · simp only [Item.begin, hopen]
        rfl
      · rw [h.sessionOf?_withSession hroom, Demand.session, heffect]
  | some room =>
      obtain ⟨found, -, hfound⟩ := h.exists_sessionIn hroom
      rw [hfound] at hknown
      have hopen : director.openSession setup session turn = .error (.sessionExists session) :=
        if_pos hknown
      refine ⟨director, .opened (.error (.sessionExists session)), ?_, h.met_refused ?_⟩
      · simp only [Item.begin, hopen]
        rfl
      · rw [Demand.session, hfound]
        rfl

/-- A session is ended, if there is one. -/
theorem Quiet.met_endSession (h : director.Quiet answer) (setup : DirectorSetup) (session : Uuid)
    (startAt : Instant) :
    ∃ after finding,
      Item.begin ⟨startAt, .endSession session, .ahead⟩ setup director =
        (after, ⟨startAt, .endSession session, .done finding after.engine.now⟩) ∧
      Met setup answer director (.endSession session) after finding := by
  refine ⟨_, _, rfl, h.endSession session, ?_, sessionOf?_endSession director session⟩
  rw [h.hasSession_eq session]
  rfl

/-- An action is answered, or refused because there is no session. -/
theorem Quiet.met_act (h : director.Quiet answer) (hprompt : setup.run.registry.Prompt answer)
    (hmode : setup.planner.settings.mode = .threshold) (session : Uuid) (action : PlayerAction)
    (snapshot : Snapshot) (draw : Float32) (startAt : Instant) :
    let request := Request.act { session, action, snapshot, draw } none
    ∃ after finding,
      Item.begin ⟨startAt, request, .ahead⟩ setup director =
        (after, ⟨startAt, request, .done finding after.engine.now⟩) ∧
      Met setup answer director (.act session action snapshot) after finding := by
  intro request
  let visit : Visit := { session, action, snapshot, draw }
  cases hroom : director.room? session with
  | none =>
      have hnone := sessionOf?_of_not_room session hroom
      have hlook : visit.look setup false director =
          (director, { visit with stage := .over (.error (.unknownSession session)) }) := by
        rw [Visit.look, Visit.arrive, hroom]
      refine ⟨director, .acted (.error (.unknownSession session)), ?_, h.met_refused ?_⟩
      · show Item.act _ setup visit none false director = _
        rw [Item.act, hlook]
        rfl
      · rw [Demand.session, hnone]
        rfl
  | some room =>
      obtain ⟨found, hin, hfound⟩ := h.exists_sessionIn hroom
      obtain ⟨engine, hitRate, hfair, hlook⟩ := h.look_visit hprompt visit rfl hroom hin
      obtain ⟨hleft, hgiven⟩ := found.answered_threshold hmode answer action snapshot draw hitRate
      let answered := found.answered setup answer action snapshot draw hitRate
      refine ⟨director.visited room answered.1 engine, .acted (.ok answered.2), ?_,
        h.visited room answered.1 hfair, ?_, fun other => ?_⟩
      · show Item.act _ setup visit none false director = _
        rw [Item.act, hlook]
        rfl
      · rw [Demand.session, hfound]
        exact congrArg (fun given => Finding.acted (.ok given)) hgiven
      · rw [h.sessionOf?_visited hroom, Demand.session, hfound, hleft]
        rfl

/-- **A demand on a quiet director is met as if there were no other sessions.** -/
theorem Quiet.met (h : director.Quiet answer) (hprompt : setup.run.registry.Prompt answer)
    (hmode : setup.planner.settings.mode = .threshold) (occasion : Occasion) :
    ∃ after finding, director.meet setup occasion = (after, some finding) ∧
      Met setup answer director occasion.demand after finding := by
  obtain ⟨demand, later, draw⟩ := occasion
  -- Until the demand comes, nothing happens but that time passes.
  let come : Director := { director with engine.now := director.engine.now + later }
  have hcome : come.Quiet answer := h.later _
  have hserved : ∃ after finding,
      Item.begin ⟨come.engine.now, Occasion.request ⟨demand, later, draw⟩, .ahead⟩ setup come =
        (after, ⟨come.engine.now, Occasion.request ⟨demand, later, draw⟩,
          .done finding after.engine.now⟩) ∧
      Met setup answer come demand after finding := by
    cases demand with
    | openSession session turn => exact hcome.met_openSession setup session turn _
    | endSession session => exact hcome.met_endSession setup session _
    | act session action snapshot =>
        exact hcome.met_act hprompt hmode session action snapshot draw _
  obtain ⟨after, finding, hbegin, hmet⟩ := hserved
  refine ⟨after, finding, ?_, hmet.quiet, hmet.finding, hmet.sessions⟩
  rw [meet, Timeline.serve_of_begin hbegin]
  rfl

/-- **Demands on a quiet director come to what those on each session come to by themselves.** -/
theorem Quiet.metAll (h : director.Quiet answer) (hprompt : setup.run.registry.Prompt answer)
    (hmode : setup.planner.settings.mode = .threshold) (occasions : List Occasion)
    (session : Uuid) :
    let met := director.meetAll setup occasions
    let alone := Demand.effects setup answer (Occasion.demandsOn session occasions)
      (director.sessionOf? session)
    Finding.foundOn session met.2 = alone.2.map (fun finding => some finding.unrated) ∧
      met.1.sessionOf? session = alone.1 := by
  induction occasions generalizing director with
  | nil => exact ⟨rfl, rfl⟩
  | cons occasion rest ih =>
      obtain ⟨after, finding, hmeet, hmet⟩ := h.met hprompt hmode occasion
      obtain ⟨hfindings, hsession⟩ := ih hmet.quiet
      have hof := hmet.sessions session
      have hmetAll : director.meetAll setup (occasion :: rest) =
          ((after.meetAll setup rest).1,
            (occasion.demand.session, some finding) :: (after.meetAll setup rest).2) := by
        rw [meetAll, hmeet]
      rw [hmetAll]
      dsimp only
      rw [Finding.foundOn_cons, Occasion.demandsOn_cons]
      by_cases hown : occasion.demand.session = session
      · -- The demand is one of those on the session, which is then as it leaves it.
        subst hown
        rw [if_pos rfl] at hof
        rw [hof] at hfindings hsession
        rw [if_pos rfl, if_pos rfl]
        exact ⟨congrArg₂ List.cons (congrArg some hmet.finding) hfindings, hsession⟩
      · -- The demand is on another session and leaves this one as it was.
        rw [if_neg (Ne.symm hown)] at hof
        rw [hof] at hfindings hsession
        rw [if_neg hown, if_neg hown]
        exact ⟨hfindings, hsession⟩

/-- Every demand on a quiet director is met. -/
theorem Quiet.answers (h : director.Quiet answer) (hprompt : setup.run.registry.Prompt answer)
    (hmode : setup.planner.settings.mode = .threshold) (occasions : List Occasion) :
    (director.meetAll setup occasions).2.map (·.1) = occasions.map (·.demand.session) ∧
      ∀ entry ∈ (director.meetAll setup occasions).2, entry.2.isSome = true := by
  induction occasions generalizing director with
  | nil => exact ⟨rfl, fun _ hentry => absurd hentry List.not_mem_nil⟩
  | cons occasion rest ih =>
      obtain ⟨after, finding, hmeet, hmet⟩ := h.met hprompt hmode occasion
      obtain ⟨hsessions, hanswered⟩ := ih hmet.quiet
      rw [meetAll, hmeet]
      exact ⟨congrArg (occasion.demand.session :: ·) hsessions,
        List.forall_mem_cons.mpr ⟨rfl, hanswered⟩⟩

/-- Demands come one after another to a director that begins without sessions. Each is answered.
What those on one session are answered, the reports on the cache apart, and what becomes of the
session is the same if there are no others, however long it takes between any two and whatever is
drawn. -/
theorem isolation (hprompt : setup.run.registry.Prompt answer)
    (hmode : setup.planner.settings.mode = .threshold) (settings : Settings) (session : Uuid)
    {all own : List Occasion} (hown : own.map (·.demand) = Occasion.demandsOn session all) :
    let among := (create settings).meetAll setup all
    let alone := (create settings).meetAll setup own
    (∀ entry ∈ among.2, entry.2.isSome = true) ∧
      Finding.foundOn session among.2 = alone.2.map (·.2.map Finding.unrated) ∧
      among.1.sessionOf? session = alone.1.sessionOf? session := by
  intro among alone
  have hquiet := quiet_create answer settings
  obtain ⟨hfound, hsession⟩ := hquiet.metAll hprompt hmode all session
  obtain ⟨hfoundAlone, hsessionAlone⟩ := hquiet.metAll hprompt hmode own session
  have hsame : Occasion.demandsOn session own = Occasion.demandsOn session all := by
    rw [Occasion.demandsOn, hown, Occasion.demandsOn, List.filter_filter]
    simp only [Bool.and_self]
  -- By themselves, all demands are on the session.
  have hall : ∀ entry ∈ alone.2, decide (entry.1 = session) = true := by
    intro entry hentry
    have hmem : entry.1 ∈ own.map (·.demand.session) := by
      rw [← (hquiet.answers hprompt hmode own).1]
      exact List.mem_map_of_mem hentry
    obtain ⟨occasion, hoccasion, hid⟩ := List.mem_map.mp hmem
    have hdemand : occasion.demand ∈ Occasion.demandsOn session all := by
      rw [← hown]
      exact List.mem_map_of_mem hoccasion
    rw [← hid]
    exact (List.mem_filter.mp hdemand).2
  refine ⟨(hquiet.answers hprompt hmode all).2, ?_, ?_⟩
  · rw [hfound, ← hsame, ← hfoundAlone, Finding.foundOn, List.filter_eq_self.mpr hall]
  · rw [hsession, ← hsame, ← hsessionAlone]

/-- Whoever asks for help is told the same whether or not someone else does so before. -/
theorem isolation_plea :
    let setup := DirectorSetup.of {} Registry.heralds
    let plea (session : Uuid) (later : Duration) : Occasion :=
      { demand := .act session Visit.plea.action Visit.plea.snapshot, later }
    let all : List Occasion := [{ demand := .openSession ⟨7⟩ 1 }, { demand := .openSession ⟨8⟩ 1 },
      plea ⟨8⟩ 5, plea ⟨7⟩ 3, { demand := .endSession ⟨8⟩ }]
    let own : List Occasion := [{ demand := .openSession ⟨7⟩ 1 }, plea ⟨7⟩ 0]
    let among := (create {}).meetAll setup all
    let alone := (create {}).meetAll setup own
    own.map (·.demand) = Occasion.demandsOn ⟨7⟩ all ∧
      (∀ entry ∈ among.2, entry.2.isSome = true) ∧
      Finding.foundOn ⟨7⟩ among.2 = alone.2.map (·.2.map Finding.unrated) ∧
      among.1.sessionOf? ⟨7⟩ = alone.1.sessionOf? ⟨7⟩ := by
  intro setup plea all own among alone
  have hown : own.map (·.demand) = Occasion.demandsOn ⟨7⟩ all := rfl
  exact ⟨hown, isolation (Registry.prompt_uniform _) rfl {} ⟨7⟩ hown⟩

end Director

end StoryDirector
