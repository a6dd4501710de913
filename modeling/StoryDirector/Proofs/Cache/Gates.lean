import StoryDirector.Cache.Flight
import StoryDirector.Proofs.Cache.Contents
/-!
# StoryDirector.Proofs.Cache.Gates

**What `Flights` looks like while every caller behaves**: a list of *bays*, one for each key at
which someone is, each with the number of its gate and the tickets of those who hold on to it, first
in line first. A bay is the whole of one flight, its gate and everyone who shares it. The lock of a
gate is the line of its holders, so a bay says all that there is to say (`Flights.ofBays`).

Joining appends a ticket to the bay of the key, or opens a bay; leaving takes the ticket out, and a
bay without tickets is gone. These two equations (`join_ofBays_of_mem`/`join_ofBays_of_new` and
`leave_ofBays`) are all that later proofs use of `Flights.join` and `Flights.leave`.
-/

namespace StoryDirector

namespace Lock

/-- The lock of a line: its first owns the lock, the others wait. -/
def ofLine (line : List Nat) : Lock := ⟨line.head?, line.tail⟩

theorem ask_ofLine (line : List Nat) (who : Nat) :
    (ofLine line).ask who = ofLine (line ++ [who]) := by
  cases line <;> rfl

/-- Whoever leaves a line is missing from it, be it the owner or not. -/
theorem leave_ofLine {line : List Nat} (h : line.Nodup) (who : Nat) :
    (ofLine line).leave who = ofLine (line.filter (· ≠ who)) := by
  cases line with
  | nil => rfl
  | cons first rest =>
      obtain ⟨hfirst, -⟩ := List.nodup_cons.mp h
      by_cases hwho : first = who
      · subst hwho
        have hrest : rest.filter (· ≠ first) = rest := by
          rw [List.filter_eq_self]
          intro other hother
          simpa using fun heq : other = first => hfirst (heq ▸ hother)
        rw [List.filter_cons_of_neg (by simp), hrest]
        simp [leave, ofLine]
      · rw [List.filter_cons_of_pos (by simpa using hwho)]
        simp [leave, ofLine, hwho]

theorem ownedBy_ofLine {line : List Nat} {who : Nat} :
    (ofLine line).ownedBy who = true ↔ line.head? = some who :=
  decide_eq_true_iff

end Lock

namespace Gate

/-- The gate whose lock someone has left. -/
def handOver (ticket : Nat) (gate : Gate) : Gate := { gate with lock := gate.lock.leave ticket }

/-- The gate that someone no longer holds on to. -/
def letGo (ticket : Nat) (gate : Gate) : Gate :=
  { gate with holders := gate.holders.filter (· ≠ ticket) }

end Gate

/-- A key at which someone is. -/
structure Bay where
  /-- The key. -/
  key : CacheKey
  /-- The number of the gate to which the key leads. -/
  number : Nat
  /-- The tickets of those who hold on to the gate, first in line first. -/
  holders : List Nat

namespace Bay

/-- The gate of a bay. -/
def gate (bay : Bay) : Gate := ⟨bay.number, Lock.ofLine bay.holders, bay.holders⟩

/-- The entry under which the gate of a bay is found. -/
def sign (bay : Bay) : CacheKey × Nat := (bay.key, bay.number)

/-- The bay with one more in line. -/
def push (ticket : Nat) (bay : Bay) : Bay :=
  { bay with holders := bay.holders ++ [ticket] }

/-- The bay with one fewer in line. -/
def pull (ticket : Nat) (bay : Bay) : Bay :=
  { bay with holders := bay.holders.filter (· ≠ ticket) }

/-- Whether someone is at the bay. -/
def isManned (bay : Bay) : Bool := !bay.holders.isEmpty

@[simp] theorem number_gate (bay : Bay) : bay.gate.number = bay.number := rfl
@[simp] theorem sign_push (ticket : Nat) (bay : Bay) : (bay.push ticket).sign = bay.sign := rfl
@[simp] theorem sign_pull (ticket : Nat) (bay : Bay) : (bay.pull ticket).sign = bay.sign := rfl

end Bay

/-- The bays with the one of a number changed. -/
def Bay.amend (number : Nat) (change : Bay → Bay) (bays : List Bay) : List Bay :=
  bays.map fun bay => if bay.number = number then change bay else bay

/-- What holds of bays between any two steps of their callers. -/
structure Bay.Proper (bays : List Bay) (nextGate nextTicket : Nat) : Prop where
  /-- No key has two bays. -/
  keys : (bays.map (·.key)).Nodup
  /-- No gate belongs to two bays. -/
  numbers : (bays.map (·.number)).Nodup
  /-- The next gate is a new one. -/
  gates : ∀ bay ∈ bays, bay.number < nextGate
  /-- The next ticket is a new one. -/
  tickets : ∀ bay ∈ bays, ∀ ticket ∈ bay.holders, ticket < nextTicket
  /-- Someone is at every bay, -/
  manned : ∀ bay ∈ bays, bay.holders ≠ []
  /-- and no one twice. -/
  lines : ∀ bay ∈ bays, bay.holders.Nodup

namespace Bay

variable {bays : List Bay} {nextGate nextTicket : Nat}

theorem eq_of_key (h : Proper bays nextGate nextTicket) {a b : Bay} (ha : a ∈ bays) (hb : b ∈ bays)
    (heq : a.key = b.key) : a = b :=
  List.inj_on_of_nodup_map h.keys ha hb heq

theorem eq_of_number (h : Proper bays nextGate nextTicket) {a b : Bay} (ha : a ∈ bays)
    (hb : b ∈ bays) (heq : a.number = b.number) : a = b :=
  List.inj_on_of_nodup_map h.numbers ha hb heq

/-- A change that keeps key and number keeps all keys and numbers. -/
theorem map_sign_amend {change : Bay → Bay} (h : ∀ bay, (change bay).sign = bay.sign)
    (number : Nat) (bays : List Bay) : (amend number change bays).map sign = bays.map sign := by
  rw [amend, List.map_map]
  refine List.map_congr_left fun bay _ => ?_
  by_cases hnumber : bay.number = number
  · simp [hnumber, h]
  · simp [hnumber]

theorem map_key_amend {change : Bay → Bay} (h : ∀ bay, (change bay).sign = bay.sign)
    (number : Nat) (bays : List Bay) :
    (amend number change bays).map (·.key) = bays.map (·.key) := by
  simpa [sign, Function.comp_def] using congrArg (List.map Prod.fst) (map_sign_amend h number bays)

theorem map_number_amend {change : Bay → Bay} (h : ∀ bay, (change bay).sign = bay.sign)
    (number : Nat) (bays : List Bay) :
    (amend number change bays).map (·.number) = bays.map (·.number) := by
  simpa [sign, Function.comp_def] using congrArg (List.map Prod.snd) (map_sign_amend h number bays)

/-- Of a list that ends in a bay of a new number, a change at that number reaches the end only. -/
theorem amend_append_new {number : Nat} (change : Bay → Bay) {bay : Bay}
    (h : ∀ other ∈ bays, other.number < number) (hbay : bay.number = number) :
    amend number change (bays ++ [bay]) = bays ++ [change bay] := by
  have hkept : bays.map (fun other => if other.number = number then change other else other) =
      bays := by
    refine (List.map_congr_left fun other hother => ?_).trans (List.map_id' bays)
    exact if_neg (Nat.ne_of_lt (h other hother))
  rw [amend, List.map_append, hkept]
  simp [hbay]

theorem mem_amend {number : Nat} {change : Bay → Bay} {bay : Bay} :
    bay ∈ amend number change bays ↔
      ∃ old ∈ bays, (if old.number = number then change old else old) = bay := by
  rw [amend, List.mem_map]

end Bay

namespace Flights

/-- The flights of some bays. -/
def ofBays (bays : List Bay) (nextGate nextTicket : Nat) : Flights where
  current := bays.map Bay.sign
  gates := bays.map Bay.gate
  nextGate := nextGate
  nextTicket := nextTicket

variable {bays : List Bay} {nextGate nextTicket : Nat}

/-! ### Finding a bay -/

theorem gateOf?_ofBays (key : CacheKey) :
    (ofBays bays nextGate nextTicket).gateOf? key = (bays.find? (·.key = key)).map (·.number) := by
  rw [gateOf?, ofBays, List.find?_map, Option.map_map]
  rfl

theorem gateOf?_of_mem (h : Bay.Proper bays nextGate nextTicket) {bay : Bay} (hbay : bay ∈ bays) :
    (ofBays bays nextGate nextTicket).gateOf? bay.key = some bay.number := by
  rw [gateOf?_ofBays, find?_key_of_mem h.keys hbay]
  rfl

theorem gateOf?_of_new {key : CacheKey} (h : ∀ bay ∈ bays, bay.key ≠ key) :
    (ofBays bays nextGate nextTicket).gateOf? key = none := by
  rw [gateOf?_ofBays, List.find?_eq_none.mpr (by simpa using h)]
  rfl

theorem gate?_of_mem (h : Bay.Proper bays nextGate nextTicket) {bay : Bay} (hbay : bay ∈ bays) :
    (ofBays bays nextGate nextTicket).gate? bay.number = some bay.gate := by
  have hfound : bays.find? (·.number = bay.number) = some bay :=
    find?_key_of_mem h.numbers hbay
  rw [gate?, ofBays, List.find?_map]
  exact congrArg (Option.map Bay.gate) hfound

theorem mayWork_of_mem (h : Bay.Proper bays nextGate nextTicket) {bay : Bay} (hbay : bay ∈ bays)
    (ticket : Nat) :
    (ofBays bays nextGate nextTicket).mayWork ⟨bay.key, bay.number, ticket⟩ = true ↔
      bay.holders.head? = some ticket := by
  rw [mayWork, gate?_of_mem h hbay]
  exact Lock.ownedBy_ofLine

/-! ### Joining -/

theorem atGate_ofBays {number : Nat} {change : Gate → Gate} {amendment : Bay → Bay}
    (hsign : ∀ bay, (amendment bay).sign = bay.sign)
    (h : ∀ bay ∈ bays, bay.number = number → change bay.gate = (amendment bay).gate) :
    (ofBays bays nextGate nextTicket).atGate number change =
      ofBays (Bay.amend number amendment bays) nextGate nextTicket := by
  have hgates : (bays.map Bay.gate).map
      (fun gate => if gate.number = number then change gate else gate)
      = (Bay.amend number amendment bays).map Bay.gate := by
    rw [Bay.amend, List.map_map, List.map_map]
    refine List.map_congr_left fun bay hbay => ?_
    by_cases hnumber : bay.number = number
    · simp [hnumber, h bay hbay hnumber]
    · simp [hnumber]
  simp only [atGate, ofBays, hgates, Bay.map_sign_amend hsign]

/-- Once a key leads to a gate, joining puts a ticket into its bay. -/
theorem join_of_opened {flights : Flights} {key : CacheKey} {number : Nat}
    (hopened : flights.opened key = (ofBays bays nextGate nextTicket, number)) :
    flights.join key =
      (ofBays (Bay.amend number (Bay.push nextTicket) bays) nextGate (nextTicket + 1),
       ⟨key, number, nextTicket⟩) := by
  have hpushed : (ofBays bays nextGate nextTicket).atGate number
        (fun gate => { gate with
          lock := gate.lock.ask nextTicket, holders := gate.holders ++ [nextTicket] }) =
      ofBays (Bay.amend number (Bay.push nextTicket) bays) nextGate nextTicket :=
    atGate_ofBays (Bay.sign_push nextTicket) fun other _ _ => by
      simp [Bay.gate, Bay.push, Lock.ask_ofLine]
  simp only [join, hopened]
  rw [show (ofBays bays nextGate nextTicket).nextTicket = nextTicket from rfl, hpushed]
  rfl

/-- Who comes to a key at which someone is stands in line behind the others. -/
theorem join_ofBays_of_mem (h : Bay.Proper bays nextGate nextTicket) {bay : Bay}
    (hbay : bay ∈ bays) :
    (ofBays bays nextGate nextTicket).join bay.key =
      (ofBays (Bay.amend bay.number (Bay.push nextTicket) bays) nextGate (nextTicket + 1),
       ⟨bay.key, bay.number, nextTicket⟩) :=
  join_of_opened (by rw [opened, gateOf?_of_mem h hbay])

/-- Who comes to a key at which no one is opens a bay. -/
theorem join_ofBays_of_new {key : CacheKey} (hnew : ∀ bay ∈ bays, bay.key ≠ key)
    (hgates : ∀ bay ∈ bays, bay.number < nextGate) :
    (ofBays bays nextGate nextTicket).join key =
      (ofBays (bays ++ [⟨key, nextGate, [nextTicket]⟩]) (nextGate + 1) (nextTicket + 1),
       ⟨key, nextGate, nextTicket⟩) := by
  have hopened : (ofBays bays nextGate nextTicket).opened key =
      (ofBays (bays ++ [⟨key, nextGate, []⟩]) (nextGate + 1) nextTicket, nextGate) := by
    rw [opened, gateOf?_of_new hnew]
    simp [ofBays, Bay.sign, Bay.gate, Lock.ofLine]
  have hpushed : Bay.amend nextGate (Bay.push nextTicket) (bays ++ [⟨key, nextGate, []⟩]) =
      bays ++ [⟨key, nextGate, [nextTicket]⟩] :=
    Bay.amend_append_new (Bay.push nextTicket) hgates rfl
  rw [join_of_opened hopened, hpushed]

/-! ### Leaving -/

theorem leave_eq (flights : Flights) (pass : Pass) :
    flights.leave pass =
      let handed := flights.atGate pass.gate (Gate.handOver pass.ticket)
      let kept := if handed.holdersOf pass.key ≤ 1 then handed.closed pass.key else handed
      (kept.atGate pass.gate (Gate.letGo pass.ticket)).swept := rfl

/-- Handing over the lock of a gate and letting go of it takes the ticket out of its bay. -/
theorem letGo_handOver_ofBays (h : Bay.Proper bays nextGate nextTicket) (number ticket : Nat) :
    ((ofBays bays nextGate nextTicket).atGate number (Gate.handOver ticket)).atGate number
        (Gate.letGo ticket) =
      ofBays (Bay.amend number (Bay.pull ticket) bays) nextGate nextTicket := by
  have hboth :
      ((ofBays bays nextGate nextTicket).atGate number (Gate.handOver ticket)).atGate number
        (Gate.letGo ticket) = (ofBays bays nextGate nextTicket).atGate number
          (Gate.letGo ticket ∘ Gate.handOver ticket) := by
    simp only [atGate, List.map_map]
    congr 1
    refine List.map_congr_left fun gate _ => ?_
    by_cases hnumber : gate.number = number
    · simp [hnumber, Gate.handOver]
    · simp [hnumber]
  rw [hboth]
  refine atGate_ofBays (Bay.sign_pull ticket) fun bay hbay _ => ?_
  simp only [Bay.gate, Bay.pull, Gate.handOver, Gate.letGo, Function.comp,
    Lock.leave_ofLine (h.lines bay hbay)]

/-- Handing over a lock changes nothing about who holds on to a gate. -/
theorem holdersOf_handOver (h : Bay.Proper bays nextGate nextTicket) {bay : Bay} (hbay : bay ∈ bays)
    (ticket : Nat) :
    ((ofBays bays nextGate nextTicket).atGate bay.number (Gate.handOver ticket)).holdersOf bay.key =
      bay.holders.length := by
  have hgate : ((ofBays bays nextGate nextTicket).atGate bay.number
      (Gate.handOver ticket)).gateOf? bay.key = some bay.number := gateOf?_of_mem h hbay
  have hfound : ((ofBays bays nextGate nextTicket).atGate bay.number
      (Gate.handOver ticket)).gate? bay.number = some (Gate.handOver ticket bay.gate) := by
    have hsame : ∀ gate : Gate, (if gate.number = bay.number then Gate.handOver ticket gate
        else gate).number = gate.number := by
      intro gate
      split <;> rfl
    have hbefore : (ofBays bays nextGate nextTicket).gates.find? (·.number = bay.number) =
        some bay.gate := gate?_of_mem h hbay
    simp only [gate?, atGate, List.find?_map, Function.comp_def, hsame, hbefore]
    simp
  rw [holdersOf, hgate, Option.bind_some, hfound]
  rfl

/-- What remains after a ticket was taken out is swept down to the bays where someone is left,
provided that the keys of all others were taken down. -/
theorem swept_of_manned {flights : Flights} (hnumbers : (bays.map (·.number)).Nodup)
    (hcurrent : flights.current = (bays.filter Bay.isManned).map Bay.sign)
    (hgates : flights.gates = bays.map Bay.gate) :
    flights.swept = ofBays (bays.filter Bay.isManned) flights.nextGate flights.nextTicket := by
  have hkept : ∀ bay ∈ bays, (!bay.gate.holders.isEmpty ||
      flights.current.any (·.2 = bay.gate.number)) = bay.isManned := by
    intro bay hbay
    cases hmanned : bay.isManned with
    | true =>
        have hholders : (!bay.gate.holders.isEmpty) = true := hmanned
        rw [hholders, Bool.true_or]
    | false =>
        have hholders : (!bay.gate.holders.isEmpty) = false := hmanned
        rw [hholders, Bool.false_or, List.any_eq_false, hcurrent]
        intro sign hsign
        obtain ⟨other, hother, rfl⟩ := List.mem_map.mp hsign
        obtain ⟨hmem, hother⟩ := List.mem_filter.mp hother
        rw [decide_eq_true_iff]
        intro hnumber
        have heq : other = bay := List.inj_on_of_nodup_map hnumbers hmem hbay hnumber
        rw [heq, hmanned] at hother
        cases hother
  have hfiltered : flights.gates.filter (fun gate =>
      !gate.holders.isEmpty || flights.current.any (·.2 = gate.number)) =
      (bays.filter Bay.isManned).map Bay.gate := by
    rw [hgates, List.filter_map]
    exact congrArg (List.map Bay.gate) (List.filter_congr hkept)
  simp only [swept, hfiltered]
  rw [hcurrent]
  rfl

/-- Who leaves is missing from its bay, and a bay that no one is left in is gone. -/
theorem leave_ofBays (h : Bay.Proper bays nextGate nextTicket) {bay : Bay} (hbay : bay ∈ bays)
    {ticket : Nat} (hticket : ticket ∈ bay.holders) :
    (ofBays bays nextGate nextTicket).leave ⟨bay.key, bay.number, ticket⟩ =
      ofBays ((Bay.amend bay.number (Bay.pull ticket) bays).filter Bay.isManned)
        nextGate nextTicket := by
  have hpulled := letGo_handOver_ofBays h bay.number ticket
  have hnumbers := (Bay.map_number_amend (Bay.sign_pull ticket) bay.number bays) ▸ h.numbers
  have hothers : ∀ other ∈ bays, other.isManned = true := by
    intro other hother
    simpa [Bay.isManned] using h.manned other hother
  simp only [leave_eq, holdersOf_handOver h hbay]
  split
  case isTrue hlast =>
      -- The caller was alone: its bay is empty, and the key leads nowhere any more.
      have halone : bay.holders = [ticket] := by
        obtain ⟨only, hholders⟩ : ∃ only, bay.holders = [only] :=
          List.length_eq_one_iff.mp (Nat.le_antisymm hlast (List.length_pos_of_mem hticket))
        rw [hholders] at hticket ⊢
        rw [List.mem_singleton.mp hticket]
      have hkeys : ((Bay.amend bay.number (Bay.pull ticket) bays).map Bay.sign).filter
            (·.1 ≠ bay.key) =
          ((Bay.amend bay.number (Bay.pull ticket) bays).filter Bay.isManned).map Bay.sign := by
        rw [List.filter_map]
        refine congrArg (List.map Bay.sign) (List.filter_congr fun left hleft => ?_)
        obtain ⟨old, hold, rfl⟩ := Bay.mem_amend.mp hleft
        by_cases hnumber : old.number = bay.number
        · obtain rfl := Bay.eq_of_number h hold hbay hnumber
          simp [Bay.sign, Bay.pull, Bay.isManned, halone]
        · have hkey : old.key ≠ bay.key :=
            fun hkey => hnumber (Bay.eq_of_key h hold hbay hkey ▸ rfl)
          simp [hnumber, Bay.sign, hkey, hothers old hold]
      have hclosed : (((ofBays bays nextGate nextTicket).atGate bay.number
            (Gate.handOver ticket)).closed bay.key).atGate bay.number (Gate.letGo ticket) =
          (ofBays (Bay.amend bay.number (Bay.pull ticket) bays) nextGate nextTicket).closed
            bay.key :=
        congrArg (closed · bay.key) hpulled
      rw [hclosed]
      exact swept_of_manned hnumbers hkeys rfl
  case isFalse hmore =>
      -- Someone else holds on to the gate, so every bay is still manned.
      have hleft : ∀ left ∈ Bay.amend bay.number (Bay.pull ticket) bays, left.isManned = true := by
        intro left hleft
        obtain ⟨old, hold, rfl⟩ := Bay.mem_amend.mp hleft
        by_cases hnumber : old.number = bay.number
        · obtain rfl := Bay.eq_of_number h hold hbay hnumber
          have hrest : 0 < (old.holders.erase ticket).length := by
            rw [List.length_erase_of_mem hticket]
            omega
          rw [(h.lines old hold).erase_eq_filter] at hrest
          simp only [if_true, Bay.pull, Bay.isManned]
          simpa [List.length_pos_iff] using hrest
        · simpa [hnumber] using hothers old hold
      rw [hpulled]
      refine swept_of_manned hnumbers ?_ rfl
      rw [List.filter_eq_self.mpr hleft]
      rfl

end Flights

/-! ### Who holds what -/

namespace Bay

variable {bays : List Bay} {nextGate nextTicket : Nat}

/-- A pass is held: its ticket is in line at the bay of its key. -/
def Holds (bays : List Bay) (pass : Pass) : Prop :=
  ∃ bay ∈ bays, bay.key = pass.key ∧ bay.number = pass.gate ∧ pass.ticket ∈ bay.holders

/-- A pass is at the front: its ticket is the first in line. -/
def Fronts (bays : List Bay) (pass : Pass) : Prop :=
  ∃ bay ∈ bays, bay.key = pass.key ∧ bay.number = pass.gate ∧ bay.holders.head? = some pass.ticket

theorem Fronts.holds {pass : Pass} (h : Fronts bays pass) : Holds bays pass := by
  obtain ⟨bay, hbay, hkey, hgate, hfirst⟩ := h
  exact ⟨bay, hbay, hkey, hgate, List.mem_of_head? hfirst⟩

/-- At one gate a ticket makes the pass. -/
theorem eq_of_ticket (h : Proper bays nextGate nextTicket) {a b : Pass} (ha : Holds bays a)
    (hb : Holds bays b) (hgate : a.gate = b.gate) (hticket : a.ticket = b.ticket) : a = b := by
  obtain ⟨bay, hbay, hkeya, hgatea, -⟩ := ha
  obtain ⟨other, hother, hkeyb, hgateb, -⟩ := hb
  obtain rfl := eq_of_number h hbay hother (hgatea.trans (hgate.trans hgateb.symm))
  cases a
  cases b
  simp_all

/-- No two are at the front for one key. -/
theorem eq_of_fronts (h : Proper bays nextGate nextTicket) {a b : Pass} (ha : Fronts bays a)
    (hb : Fronts bays b) (hkey : a.key = b.key) : a = b := by
  have hholdsa := ha.holds
  have hholdsb := hb.holds
  obtain ⟨bay, hbay, hkeya, hgatea, hfirsta⟩ := ha
  obtain ⟨other, hother, hkeyb, hgateb, hfirstb⟩ := hb
  obtain rfl := eq_of_key h hbay hother (hkeya.trans (hkey.trans hkeyb.symm))
  exact eq_of_ticket h hholdsa hholdsb (hgatea.symm.trans hgateb)
    (Option.some.inj (hfirsta.symm.trans hfirstb))

theorem holds_nil (pass : Pass) : ¬ Holds [] pass := fun ⟨_, hbay, _⟩ => List.not_mem_nil hbay

theorem proper_nil : Proper [] nextGate nextTicket where
  keys := List.nodup_nil
  numbers := List.nodup_nil
  gates := nofun
  tickets := nofun
  manned := nofun
  lines := nofun

/-- A ticket may be put into the bay of any key at which someone is. -/
theorem proper_push (h : Proper bays nextGate nextTicket) (number : Nat) :
    Proper (amend number (push nextTicket) bays) nextGate (nextTicket + 1) where
  keys := by rw [map_key_amend (sign_push nextTicket)]; exact h.keys
  numbers := by rw [map_number_amend (sign_push nextTicket)]; exact h.numbers
  gates := by
    intro bay hbay
    obtain ⟨old, hold, rfl⟩ := mem_amend.mp hbay
    have hnumber :
        (if old.number = number then push nextTicket old else old).number = old.number := by
      split <;> rfl
    rw [hnumber]
    exact h.gates old hold
  tickets := by
    intro bay hbay ticket hticket
    obtain ⟨old, hold, rfl⟩ := mem_amend.mp hbay
    split at hticket
    · rcases List.mem_append.mp hticket with hticket | hticket
      · exact Nat.lt_succ_of_lt (h.tickets old hold ticket hticket)
      · rw [List.mem_singleton.mp hticket]
        exact Nat.lt_succ_self _
    · exact Nat.lt_succ_of_lt (h.tickets old hold ticket hticket)
  manned := by
    intro bay hbay
    obtain ⟨old, hold, rfl⟩ := mem_amend.mp hbay
    split
    · simp [push]
    · exact h.manned old hold
  lines := by
    intro bay hbay
    obtain ⟨old, hold, rfl⟩ := mem_amend.mp hbay
    split
    · -- The new ticket is larger than all that were given out.
      rw [push, List.nodup_append]
      refine ⟨h.lines old hold, List.nodup_singleton _, fun ticket hticket other hother => ?_⟩
      rw [List.mem_singleton.mp hother]
      exact Nat.ne_of_lt (h.tickets old hold ticket hticket)
    · exact h.lines old hold

/-- A bay may be opened for a key at which no one is. -/
theorem proper_open (h : Proper bays nextGate nextTicket) {key : CacheKey}
    (hnew : ∀ bay ∈ bays, bay.key ≠ key) :
    Proper (bays ++ [⟨key, nextGate, [nextTicket]⟩]) (nextGate + 1) (nextTicket + 1) where
  keys := by
    rw [List.map_append, List.nodup_append]
    refine ⟨h.keys, List.nodup_singleton _, fun old hold other hother => ?_⟩
    obtain ⟨bay, hbay, rfl⟩ := List.mem_map.mp hold
    rw [List.mem_singleton.mp hother]
    exact hnew bay hbay
  numbers := by
    rw [List.map_append, List.nodup_append]
    refine ⟨h.numbers, List.nodup_singleton _, fun old hold other hother => ?_⟩
    obtain ⟨bay, hbay, rfl⟩ := List.mem_map.mp hold
    rw [List.mem_singleton.mp hother]
    exact Nat.ne_of_lt (h.gates bay hbay)
  gates := by
    intro bay hbay
    rcases List.mem_append.mp hbay with hbay | hbay
    · exact Nat.lt_succ_of_lt (h.gates bay hbay)
    · rw [List.mem_singleton.mp hbay]
      exact Nat.lt_succ_self _
  tickets := by
    intro bay hbay ticket hticket
    rcases List.mem_append.mp hbay with hbay | hbay
    · exact Nat.lt_succ_of_lt (h.tickets bay hbay ticket hticket)
    · rw [List.mem_singleton.mp hbay] at hticket
      rw [List.mem_singleton.mp hticket]
      exact Nat.lt_succ_self _
  manned := by
    intro bay hbay
    rcases List.mem_append.mp hbay with hbay | hbay
    · exact h.manned bay hbay
    · rw [List.mem_singleton.mp hbay]
      exact List.cons_ne_nil _ _
  lines := by
    intro bay hbay
    rcases List.mem_append.mp hbay with hbay | hbay
    · exact h.lines bay hbay
    · rw [List.mem_singleton.mp hbay]
      exact List.nodup_singleton _

/-- A ticket may be taken out of its bay, which is closed if no one is left in it. -/
theorem proper_pull (h : Proper bays nextGate nextTicket) (number ticket : Nat) :
    Proper ((amend number (pull ticket) bays).filter isManned) nextGate nextTicket where
  keys := by
    refine List.Nodup.sublist (List.filter_sublist.map _) ?_
    rw [map_key_amend (sign_pull ticket)]
    exact h.keys
  numbers := by
    refine List.Nodup.sublist (List.filter_sublist.map _) ?_
    rw [map_number_amend (sign_pull ticket)]
    exact h.numbers
  gates := by
    intro bay hbay
    obtain ⟨old, hold, rfl⟩ := mem_amend.mp (List.mem_filter.mp hbay).1
    have hnumber : (if old.number = number then pull ticket old else old).number = old.number := by
      split <;> rfl
    rw [hnumber]
    exact h.gates old hold
  tickets := by
    intro bay hbay other hother
    obtain ⟨old, hold, rfl⟩ := mem_amend.mp (List.mem_filter.mp hbay).1
    refine h.tickets old hold other ?_
    split at hother
    · exact (List.mem_filter.mp hother).1
    · exact hother
  manned := by
    intro bay hbay
    simpa [isManned] using (List.mem_filter.mp hbay).2
  lines := by
    intro bay hbay
    obtain ⟨old, hold, rfl⟩ := mem_amend.mp (List.mem_filter.mp hbay).1
    split
    · exact (h.lines old hold).filter _
    · exact h.lines old hold

/-- Putting a ticket into a bay adds one pass, and whoever was at a front still is. -/
theorem holds_push (h : Proper bays nextGate nextTicket) {bay : Bay} (hbay : bay ∈ bays)
    (pass : Pass) :
    Holds (amend bay.number (push nextTicket) bays) pass ↔
      Holds bays pass ∨ pass = ⟨bay.key, bay.number, nextTicket⟩ := by
  constructor
  · rintro ⟨changed, hchanged, hkey, hgate, hticket⟩
    obtain ⟨old, hold, rfl⟩ := mem_amend.mp hchanged
    split at hticket
    case isTrue hnumber =>
        obtain rfl := eq_of_number h hold hbay hnumber
        rw [if_pos rfl] at hkey hgate
        rcases List.mem_append.mp hticket with hticket | hticket
        · exact Or.inl ⟨old, hold, hkey, hgate, hticket⟩
        · obtain ⟨key, gate, ticket⟩ := pass
          obtain rfl : ticket = nextTicket := List.mem_singleton.mp hticket
          obtain rfl : old.key = key := hkey
          obtain rfl : old.number = gate := hgate
          exact Or.inr rfl
    case isFalse hnumber =>
        rw [if_neg hnumber] at hkey hgate
        exact Or.inl ⟨old, hold, hkey, hgate, hticket⟩
  · rintro (⟨old, hold, hkey, hgate, hticket⟩ | rfl)
    · refine ⟨_, mem_amend.mpr ⟨old, hold, rfl⟩, ?_⟩
      split
      · exact ⟨hkey, hgate, List.mem_append_left _ hticket⟩
      · exact ⟨hkey, hgate, hticket⟩
    · refine ⟨_, mem_amend.mpr ⟨bay, hbay, rfl⟩, ?_⟩
      rw [if_pos rfl]
      exact ⟨rfl, rfl, List.mem_append_right _ (List.mem_singleton_self _)⟩

theorem fronts_push {pass : Pass} (hpass : Fronts bays pass) (number ticket : Nat) :
    Fronts (amend number (push ticket) bays) pass := by
  obtain ⟨old, hold, hkey, hgate, hfirst⟩ := hpass
  refine ⟨_, mem_amend.mpr ⟨old, hold, rfl⟩, ?_⟩
  split
  · refine ⟨hkey, hgate, ?_⟩
    obtain ⟨rest, hholders⟩ := List.head?_eq_some_iff.mp hfirst
    simp [push, hholders]
  · exact ⟨hkey, hgate, hfirst⟩

/-- Taking a ticket out of its bay takes away one pass; another pass at a front stays there. -/
theorem holds_pull (h : Proper bays nextGate nextTicket) {gone : Pass} (hgone : Holds bays gone)
    (pass : Pass) :
    Holds ((amend gone.gate (pull gone.ticket) bays).filter isManned) pass ↔
      Holds bays pass ∧ pass ≠ gone := by
  constructor
  · rintro ⟨changed, hchanged, hkey, hgate, hticket⟩
    obtain ⟨old, hold, rfl⟩ := mem_amend.mp (List.mem_filter.mp hchanged).1
    split at hticket
    case isTrue hnumber =>
        rw [if_pos hnumber] at hkey hgate
        obtain ⟨hmem, hne⟩ := List.mem_filter.mp hticket
        refine ⟨⟨old, hold, hkey, hgate, hmem⟩, fun heq => ?_⟩
        simp [heq] at hne
    case isFalse hnumber =>
        rw [if_neg hnumber] at hkey hgate
        refine ⟨⟨old, hold, hkey, hgate, hticket⟩, fun heq => ?_⟩
        exact hnumber (hgate.trans (congrArg Pass.gate heq))
  · rintro ⟨⟨old, hold, hkey, hgate, hticket⟩, hne⟩
    by_cases hnumber : old.number = gone.gate
    · have hother : pass.ticket ≠ gone.ticket := fun heq =>
        hne (eq_of_ticket h ⟨old, hold, hkey, hgate, hticket⟩ hgone (hgate.symm.trans hnumber) heq)
      have hleft : pass.ticket ∈ old.holders.filter (· ≠ gone.ticket) :=
        List.mem_filter.mpr ⟨hticket, by simpa using hother⟩
      refine ⟨pull gone.ticket old, List.mem_filter.mpr ⟨?_, ?_⟩, hkey, hgate, hleft⟩
      · exact mem_amend.mpr ⟨old, hold, if_pos hnumber⟩
      · simpa [isManned, pull] using ⟨_, hticket, hother⟩
    · refine ⟨old, List.mem_filter.mpr ⟨?_, ?_⟩, hkey, hgate, hticket⟩
      · exact mem_amend.mpr ⟨old, hold, if_neg hnumber⟩
      · simpa [isManned] using h.manned old hold

theorem fronts_pull (h : Proper bays nextGate nextTicket) {gone pass : Pass}
    (hgone : Holds bays gone) (hpass : Fronts bays pass) (hne : pass ≠ gone) :
    Fronts ((amend gone.gate (pull gone.ticket) bays).filter isManned) pass := by
  have hholds := hpass.holds
  obtain ⟨old, hold, hkey, hgate, hfirst⟩ := hpass
  obtain ⟨rest, hholders⟩ := List.head?_eq_some_iff.mp hfirst
  by_cases hnumber : old.number = gone.gate
  · have hother : pass.ticket ≠ gone.ticket := fun heq =>
      hne (eq_of_ticket h hholds hgone (hgate.symm.trans hnumber) heq)
    have hleft : (pull gone.ticket old).holders = pass.ticket :: rest.filter (· ≠ gone.ticket) := by
      simp [pull, hholders, hother]
    refine ⟨pull gone.ticket old, List.mem_filter.mpr ⟨?_, ?_⟩, hkey, hgate, ?_⟩
    · exact mem_amend.mpr ⟨old, hold, if_pos hnumber⟩
    · rw [isManned, hleft]
      rfl
    · rw [hleft]
      rfl
  · refine ⟨old, List.mem_filter.mpr ⟨?_, ?_⟩, hkey, hgate, hfirst⟩
    · exact mem_amend.mpr ⟨old, hold, if_neg hnumber⟩
    · simpa [isManned] using h.manned old hold

end Bay

/-! ### What joining and leaving do -/

namespace Flights

variable {bays : List Bay} {nextGate nextTicket : Nat}

/-- A held pass leads back to its gate, which knows its ticket. -/
theorem gate_of_holds (h : Bay.Proper bays nextGate nextTicket) {pass : Pass}
    (hpass : Bay.Holds bays pass) :
    (ofBays bays nextGate nextTicket).gateOf? pass.key = some pass.gate ∧
      ∃ gate, (ofBays bays nextGate nextTicket).gate? pass.gate = some gate ∧
        pass.ticket ∈ gate.holders := by
  obtain ⟨bay, hbay, hkey, hgate, hticket⟩ := hpass
  rw [← hkey, ← hgate]
  exact ⟨gateOf?_of_mem h hbay, bay.gate, gate?_of_mem h hbay, hticket⟩

/-- A key without passes leads nowhere. -/
theorem gateOf?_of_not_holds (h : Bay.Proper bays nextGate nextTicket) {key : CacheKey}
    (hkey : ∀ pass, Bay.Holds bays pass → pass.key ≠ key) :
    (ofBays bays nextGate nextTicket).gateOf? key = none := by
  refine gateOf?_of_new fun bay hbay => ?_
  obtain ⟨ticket, hticket⟩ := List.exists_mem_of_ne_nil _ (h.manned bay hbay)
  exact hkey ⟨bay.key, bay.number, ticket⟩ ⟨bay, hbay, rfl, rfl, hticket⟩

/-- Of those who hold a pass, the one at the front may work. -/
theorem mayWork_iff_fronts (h : Bay.Proper bays nextGate nextTicket) {pass : Pass}
    (hpass : Bay.Holds bays pass) :
    (ofBays bays nextGate nextTicket).mayWork pass = true ↔ Bay.Fronts bays pass := by
  obtain ⟨key, gate, ticket⟩ := pass
  obtain ⟨bay, hbay, rfl, rfl, hticket⟩ := hpass
  rw [mayWork_of_mem h hbay]
  constructor
  · intro hfirst
    exact ⟨bay, hbay, rfl, rfl, hfirst⟩
  · rintro ⟨other, hother, hkey, -, hfirst⟩
    rwa [← Bay.eq_of_key h hother hbay hkey]

/-- Joining hands out one new pass for the key and moves no one from the front. -/
theorem join_spec (h : Bay.Proper bays nextGate nextTicket) (key : CacheKey) :
    ∃ joined after gate,
      (ofBays bays nextGate nextTicket).join key =
        (ofBays joined after (nextTicket + 1), ⟨key, gate, nextTicket⟩) ∧
      Bay.Proper joined after (nextTicket + 1) ∧
      (∀ pass, Bay.Holds joined pass ↔ Bay.Holds bays pass ∨ pass = ⟨key, gate, nextTicket⟩) ∧
      ∀ pass, Bay.Fronts bays pass → Bay.Fronts joined pass := by
  by_cases hkey : ∃ bay ∈ bays, bay.key = key
  · obtain ⟨bay, hbay, rfl⟩ := hkey
    exact ⟨_, _, _, join_ofBays_of_mem h hbay, Bay.proper_push h _, Bay.holds_push h hbay,
      fun pass hpass => Bay.fronts_push hpass _ _⟩
  · have hnew : ∀ bay ∈ bays, bay.key ≠ key := fun bay hbay heq => hkey ⟨bay, hbay, heq⟩
    refine ⟨_, _, _, join_ofBays_of_new hnew h.gates, Bay.proper_open h hnew, fun pass => ?_, ?_⟩
    · constructor
      · rintro ⟨bay, hbay, hpass⟩
        rcases List.mem_append.mp hbay with hbay | hbay
        · exact Or.inl ⟨bay, hbay, hpass⟩
        · obtain rfl := List.mem_singleton.mp hbay
          obtain ⟨_, _, ticket⟩ := pass
          obtain ⟨rfl, rfl, hticket⟩ := hpass
          obtain rfl : ticket = nextTicket := List.mem_singleton.mp hticket
          exact Or.inr rfl
      · rintro (⟨bay, hbay, hpass⟩ | rfl)
        · exact ⟨bay, List.mem_append_left _ hbay, hpass⟩
        · exact ⟨_, List.mem_append_right _ (List.mem_singleton_self _), rfl, rfl,
            List.mem_singleton_self _⟩
    · rintro pass ⟨bay, hbay, hpass⟩
      exact ⟨bay, List.mem_append_left _ hbay, hpass⟩

/-- Leaving takes one pass back and moves no one else from the front. -/
theorem leave_spec (h : Bay.Proper bays nextGate nextTicket) {gone : Pass}
    (hgone : Bay.Holds bays gone) :
    ∃ left,
      (ofBays bays nextGate nextTicket).leave gone = ofBays left nextGate nextTicket ∧
      Bay.Proper left nextGate nextTicket ∧
      (∀ pass, Bay.Holds left pass ↔ Bay.Holds bays pass ∧ pass ≠ gone) ∧
      ∀ pass, Bay.Fronts bays pass → pass ≠ gone → Bay.Fronts left pass := by
  refine ⟨(Bay.amend gone.gate (Bay.pull gone.ticket) bays).filter Bay.isManned, ?_,
    Bay.proper_pull h _ _, Bay.holds_pull h hgone, fun pass => Bay.fronts_pull h hgone⟩
  obtain ⟨key, gate, ticket⟩ := gone
  obtain ⟨bay, hbay, rfl, rfl, hticket⟩ := hgone
  exact leave_ofBays h hbay hticket

end Flights

end StoryDirector
