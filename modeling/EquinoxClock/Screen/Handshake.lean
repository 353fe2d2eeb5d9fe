/-
Acknowledgements of the frames sent to the display.

The interrupt counts acknowledgements in `recieve_521_count`, and the wait behind a frame ends when
the counter is one; a message that has come in completely sets it to minus one. `Handshake` runs the
wait in single steps against interrupts at any time, next to a note of what has arrived since the
counter was last set. A second acknowledgement makes the counter miss its value, and so does a
message that comes in between: `answered_iff` says that nothing else goes wrong.
-/

import EquinoxClock.Screen.Send

namespace EquinoxClock.Screen

open EquinoxClock.Lib

/-- Where the main program is: it sends no frame, it is at a test of `WaitFor521` with so much of the
timeout left, or it has found the counter to be one and is to clear it. -/
inductive Waiter where
  | idle
  | polling (timeout : Nat)
  | matched
  deriving DecidableEq, Repr

/-- The wait and the interrupt. `acked` says that the acknowledgement of the frame just sent has
arrived; `acks` counts all those that have arrived since the counter was last set, and `restarted`
says that a complete message set it; `results` lists the results of the waits, the latest first. -/
structure Handshake where
  screen : Receiver
  waiter : Waiter
  acked : Bool
  acks : Nat
  restarted : Bool
  results : List Status

/-- Before the first frame. -/
def Handshake.initial : Handshake := ⟨Receiver.cleared, .idle, false, 0, false, []⟩

/-- The counter. -/
abbrev Handshake.count (handshake : Handshake) : Int := handshake.screen.recieve521Count

/-- What happens: the main program goes on, which sends a frame or does a step of the wait; between
two frames, it clears `RecieveComplete`; or a message comes in, which may be the acknowledgement of
the frame just sent. -/
inductive HandshakeEvent where
  | main
  | taken
  | interrupt (msg : CanMsg) (own : Bool)

/-- The main program goes on. -/
def goOn (handshake : Handshake) : Handshake :=
  match handshake.waiter with
  | .idle => { handshake with waiter := .polling 100, acked := false }
  | .polling timeout =>
      if handshake.screen.recieve521Count = 1 then { handshake with waiter := .matched }
      else
        match timeout with
        | 0 => { handshake with waiter := .idle, results := .error :: handshake.results }
        | timeout + 1 => { handshake with waiter := .polling timeout }
  | .matched =>
      { handshake with
        screen := { handshake.screen with recieve521Count := 0 }
        waiter := .idle
        acks := 0
        restarted := false
        results := .cr :: handshake.results }

/-- A message comes in. -/
def arrive (msg : CanMsg) (own : Bool) (handshake : Handshake) : Handshake :=
  let screen := screenInterrupt msg handshake.screen
  if msg.id = 0x521 then
    { handshake with screen, acked := handshake.acked || own, acks := handshake.acks + 1 }
  else if screen.recieveComplete ∧ ¬ handshake.screen.recieveComplete then
    { handshake with screen, acks := 0, restarted := true }
  else { handshake with screen }

/-- A step of the handshake. -/
def handshakeStep (handshake : Handshake) : HandshakeEvent → Handshake
  | .main => goOn handshake
  | .taken =>
      if handshake.waiter = .idle then
        { handshake with screen := { handshake.screen with recieveComplete := false } }
      else handshake
  | .interrupt msg own => arrive msg own handshake

/-- Nothing of a message for the screen comes in. -/
def Quiet : HandshakeEvent → Prop
  | .main | .taken => True
  | .interrupt msg _ => msg.id ≠ 0x121

/-- However acknowledgements come in from now on, all later waits fail. -/
def Stuck (handshake : Handshake) : Prop :=
  ∀ events, (∀ event ∈ events, Quiet event) →
    ∃ later, (run handshakeStep handshake events).results = later ++ handshake.results ∧
      .cr ∉ later

/-- If the step ends a wait with an error, the acknowledgement has not arrived; and later waits may
still succeed. -/
def Answered (handshake : Handshake) (event : HandshakeEvent) : Prop :=
  let after := handshakeStep handshake event
  (after.results = .error :: handshake.results → handshake.acked = false) ∧ ¬ Stuck after

/-- The acknowledgements it takes to bring the counter to one. -/
def Handshake.due (handshake : Handshake) : Nat := if handshake.restarted then 2 else 1

/-- No acknowledgement arrives on top of those that are due, except in the moment before the counter
is cleared; and when a wait tests the counter for the last time, with the acknowledgement there, no
message has kept the counter from coming to one. -/
def Countable (handshake : Handshake) : HandshakeEvent → Prop
  | .main => handshake.waiter = .polling 0 → handshake.acked = true →
      handshake.acks = handshake.due
  | .taken => True
  | .interrupt msg _ => msg.id = 0x521 → handshake.waiter ≠ .matched →
      handshake.acks < handshake.due

/-! ### The main program, step by step -/

section GoOn

variable {handshake : Handshake}

theorem goOn_idle (waiter : handshake.waiter = .idle) :
    goOn handshake = { handshake with waiter := .polling 100, acked := false } := by
  rw [goOn, waiter]

theorem goOn_found {timeout : Nat} (waiter : handshake.waiter = .polling timeout)
    (found : handshake.count = 1) : goOn handshake = { handshake with waiter := .matched } := by
  rw [goOn, waiter]
  exact if_pos found

theorem goOn_missed {timeout : Nat} (waiter : handshake.waiter = .polling (timeout + 1))
    (missed : handshake.count ≠ 1) :
    goOn handshake = { handshake with waiter := .polling timeout } := by
  rw [goOn, waiter]
  exact if_neg missed

theorem goOn_failed (waiter : handshake.waiter = .polling 0) (missed : handshake.count ≠ 1) :
    goOn handshake = { handshake with waiter := .idle, results := .error :: handshake.results } := by
  rw [goOn, waiter]
  exact if_neg missed

theorem goOn_matched (waiter : handshake.waiter = .matched) :
    goOn handshake = { handshake with
      screen := { handshake.screen with recieve521Count := 0 }
      waiter := .idle
      acks := 0
      restarted := false
      results := .cr :: handshake.results } := by
  rw [goOn, waiter]

end GoOn

/-! ### The counter -/

theorem screenInterrupt_ack {msg : CanMsg} (ack : msg.id = 0x521) (screen : Receiver) :
    screenInterrupt msg screen =
      { screen with recieve521Count := screen.recieve521Count + 1 } := by
  unfold screenInterrupt
  rw [ack]
  rfl

/-- A screen frame changes the counter only if it completes the message. -/
theorem receiveScreenData_count (msg : CanMsg) (screen : Receiver) :
    (receiveScreenData msg screen).recieve521Count =
      if (receiveScreenData msg screen).recieveComplete ∧ ¬ screen.recieveComplete then -1
      else screen.recieve521Count := by
  rw [receiveScreenData]
  by_cases complete : screen.recieveComplete = true
  · rw [if_pos complete, if_neg fun both => both.2 complete]
  · rw [if_neg complete]
    dsimp only
    split
    · split
      · exact (if_pos ⟨rfl, complete⟩).symm
      · exact (if_neg fun both => both.2 both.1).symm
    · exact (if_neg fun both => both.2 both.1).symm

/-- Of the messages that are no acknowledgements, only one that completes a text changes the
counter. -/
theorem screenInterrupt_count {msg : CanMsg} (other : msg.id ≠ 0x521) (screen : Receiver) :
    (screenInterrupt msg screen).recieve521Count =
      if (screenInterrupt msg screen).recieveComplete ∧ ¬ screen.recieveComplete then -1
      else screen.recieve521Count := by
  by_cases data : msg.id = 0x121
  · rw [screenInterrupt_of_eq data]
    exact receiveScreenData_count msg screen
  · rw [(screenInterrupt_of_ne data screen).2.1, if_neg fun both => both.2 both.1]
    unfold screenInterrupt
    split
    case h_2 known => exact absurd known data
    case h_5 known => exact absurd known other
    all_goals rfl

/-- **The tally**: the counter is what has arrived since it was set; and unless it is about to be
cleared, it is at most one. -/
structure Tallied (handshake : Handshake) : Prop where
  tally : handshake.count = handshake.acks - if handshake.restarted then 1 else 0
  claimed : handshake.waiter = .matched ∨ handshake.count ≤ 1

theorem tallied_initial : Tallied Handshake.initial := ⟨rfl, .inr (by decide)⟩

/-- The counter is one exactly if what is due has arrived. -/
theorem Tallied.count_eq_one {handshake : Handshake} (tallied : Tallied handshake) :
    handshake.count = 1 ↔ handshake.acks = handshake.due := by
  rw [tallied.tally, Handshake.due]
  split <;> omega

/-- An acknowledgement keeps the tally if it is one of those due. -/
theorem Tallied.count_lt_one {handshake : Handshake} (tallied : Tallied handshake) :
    handshake.count < 1 ↔ handshake.acks < handshake.due := by
  rw [tallied.tally, Handshake.due]
  split <;> omega

/-! ### Being stuck -/

/-- The acknowledgement with no data. -/
def ackMsg : CanMsg := ⟨0x521, fun _ => 0, fun _ => 0⟩

section Stuck

variable {handshake : Handshake}

/-- Once past its value, the counter of a wait only rises. -/
theorem past_step (waits : handshake.waiter ≠ .matched) (past : 2 ≤ handshake.count)
    {event : HandshakeEvent} (quiet : Quiet event) :
    (handshakeStep handshake event).waiter ≠ .matched ∧
      2 ≤ (handshakeStep handshake event).count ∧
      ((handshakeStep handshake event).results = handshake.results ∨
        (handshakeStep handshake event).results = .error :: handshake.results) := by
  cases event with
  | main =>
      rw [handshakeStep]
      have missed : handshake.count ≠ 1 := by omega
      cases waiter : handshake.waiter with
      | idle =>
          rw [goOn_idle waiter]
          exact ⟨Waiter.noConfusion, past, .inl rfl⟩
      | matched => exact absurd waiter waits
      | polling timeout =>
          cases timeout with
          | zero =>
              rw [goOn_failed waiter missed]
              exact ⟨Waiter.noConfusion, past, .inr rfl⟩
          | succ timeout =>
              rw [goOn_missed waiter missed]
              exact ⟨Waiter.noConfusion, past, .inl rfl⟩
  | taken =>
      rw [handshakeStep]
      split
      · exact ⟨waits, past, .inl rfl⟩
      · exact ⟨waits, past, .inl rfl⟩
  | interrupt msg own =>
      rw [handshakeStep, arrive]
      by_cases ack : msg.id = 0x521
      · rw [if_pos ack, screenInterrupt_ack ack]
        exact ⟨waits, Int.le_trans past (Int.le_add_one (Int.le_refl _)), .inl rfl⟩
      · have same := (screenInterrupt_of_ne quiet handshake.screen).2.1
        have count := screenInterrupt_count ack handshake.screen
        rw [same, if_neg fun both => both.2 both.1] at count
        rw [if_neg ack, if_neg fun both => both.2 (same ▸ both.1)]
        refine ⟨waits, ?_, .inl rfl⟩
        show 2 ≤ (screenInterrupt msg handshake.screen).recieve521Count
        rw [count]
        exact past

theorem stuck_of_past (waits : handshake.waiter ≠ .matched) (past : 2 ≤ handshake.count) :
    Stuck handshake := by
  intro events
  induction events generalizing handshake with
  | nil => exact fun _ => ⟨[], rfl, List.not_mem_nil⟩
  | cons event rest ih =>
      intro quiet
      obtain ⟨waits', past', results⟩ := past_step waits past (quiet event List.mem_cons_self)
      obtain ⟨later, all, noneReturns⟩ :=
        ih waits' past' fun event member => quiet event (List.mem_cons_of_mem _ member)
      rw [run_cons, all]
      obtain same | failed := results
      · exact ⟨later, by rw [same], noneReturns⟩
      · refine ⟨later ++ [.error], by rw [failed, List.append_assoc]; rfl, fun returns => ?_⟩
        obtain inLater | last := List.mem_append.mp returns
        · exact noneReturns inLater
        · cases List.mem_singleton.mp last

/-- Acknowledgements are counted. -/
theorem run_acks (count : Nat) : ∀ handshake : Handshake,
    let after := run handshakeStep handshake (List.replicate count (.interrupt ackMsg false))
    after.count = handshake.count + count ∧ after.waiter = handshake.waiter ∧
      after.results = handshake.results := by
  induction count with
  | zero => exact fun handshake => ⟨(Int.add_zero _).symm, rfl, rfl⟩
  | succ count ih =>
      intro handshake
      obtain ⟨counted, waiter, results⟩ := ih (arrive ackMsg false handshake)
      refine ⟨counted.trans ?_, waiter, results⟩
      show handshake.count + 1 + count = handshake.count + (count + 1 : Nat)
      omega

/-- When the counter has come to one, the next wait returns at once. -/
theorem returns_of_one (one : handshake.count = 1) :
    ∃ count, (run handshakeStep handshake (List.replicate count .main)).results =
      .cr :: handshake.results := by
  have matched : ∀ next : Handshake, next.waiter = .matched →
      (goOn next).results = .cr :: next.results := fun next waiter => by rw [goOn_matched waiter]
  have polled : ∀ (next : Handshake) (timeout : Nat), next.waiter = .polling timeout →
      next.count = 1 → (goOn (goOn next)).results = .cr :: next.results := by
    intro next timeout waiter found
    rw [goOn_found waiter found]
    exact matched _ rfl
  cases waiter : handshake.waiter with
  | matched => exact ⟨1, matched handshake waiter⟩
  | polling timeout => exact ⟨2, polled handshake timeout waiter one⟩
  | idle =>
      refine ⟨3, ?_⟩
      show (goOn (goOn (goOn handshake))).results = _
      rw [goOn_idle waiter]
      exact polled { handshake with waiter := .polling 100, acked := false } 100 rfl one

/-- A counter that is not past its value can still come to it. -/
theorem not_stuck (claimed : handshake.waiter = .matched ∨ handshake.count ≤ 1) :
    ¬ Stuck handshake := by
  intro stuck
  -- the acknowledgements that are missing, and then steps of the main program
  obtain ⟨events, quiet, returns⟩ : ∃ events, (∀ event ∈ events, Quiet event) ∧
      (run handshakeStep handshake events).results = .cr :: handshake.results := by
    obtain waiter | below := claimed
    · refine ⟨[.main], fun event member => List.mem_singleton.mp member ▸ trivial, ?_⟩
      show (goOn handshake).results = _
      rw [goOn_matched waiter]
    · let missing := (1 - handshake.count).toNat
      obtain ⟨counted, -, results⟩ := run_acks missing handshake
      obtain ⟨count, returns⟩ := returns_of_one
        (counted.trans (show handshake.count + missing = 1 by omega))
      refine ⟨List.replicate missing (.interrupt ackMsg false) ++ List.replicate count .main,
        fun event member => ?_, ?_⟩
      · obtain inAcks | inMain := List.mem_append.mp member
        · rw [List.eq_of_mem_replicate inAcks]
          exact show 0x521 ≠ 0x121 by decide
        · rw [List.eq_of_mem_replicate inMain]
          trivial
      · rw [run_append, returns, results]
  obtain ⟨later, all, noneReturns⟩ := stuck events quiet
  have last : later = [.cr] := List.append_left_injective handshake.results (all.symm.trans returns)
  exact noneReturns (last ▸ List.mem_singleton.mpr rfl)

/-- A handshake is stuck exactly if the counter is past its value and is not about to be cleared. -/
theorem not_stuck_iff : ¬ Stuck handshake ↔ handshake.waiter = .matched ∨ handshake.count ≤ 1 := by
  refine ⟨fun free => ?_, not_stuck⟩
  by_contra past
  obtain ⟨waits, above⟩ := not_or.mp past
  exact free (stuck_of_past waits (by omega))

end Stuck

/-! ### Runs -/

section Runs

variable {handshake : Handshake}

/-- A step that ends no wait with an error is answered exactly if it leaves the counter where it can
still come to one. -/
theorem answered_of_results {event : HandshakeEvent}
    (results : (handshakeStep handshake event).results ≠ .error :: handshake.results) :
    Answered handshake event ↔ (handshakeStep handshake event).waiter = .matched ∨
      (handshakeStep handshake event).count ≤ 1 := by
  refine (and_iff_right fun failed => absurd failed results).trans not_stuck_iff

/-- A step that keeps the tally and fails no wait, and that is countable. -/
theorem answered_of_next {event : HandshakeEvent} (countable : Countable handshake event)
    (results : (handshakeStep handshake event).results ≠ .error :: handshake.results)
    (next : Tallied (handshakeStep handshake event)) :
    (Answered handshake event ↔ Countable handshake event) ∧
      (Countable handshake event → Tallied (handshakeStep handshake event)) :=
  ⟨iff_of_true ((answered_of_results results).mpr next.claimed) countable, fun _ => next⟩

/-- The main program goes on. -/
theorem Tallied.main (tallied : Tallied handshake) :
    (Answered handshake .main ↔ Countable handshake .main) ∧
      (Countable handshake .main → Tallied (handshakeStep handshake .main)) := by
  have step : handshakeStep handshake .main = goOn handshake := rfl
  have unchanged : handshake.results ≠ .error :: handshake.results :=
    (List.cons_ne_self _ _).symm
  cases waiter : handshake.waiter with
  | idle =>
      refine answered_of_next (fun last => ?_) ?_ ?_
      · cases waiter.symm.trans last
      · rw [step, goOn_idle waiter]
        exact unchanged
      · rw [step, goOn_idle waiter]
        refine ⟨tallied.tally, .inr (tallied.claimed.resolve_left ?_)⟩
        rw [waiter]
        exact Waiter.noConfusion
  | matched =>
      refine answered_of_next (fun last => ?_) ?_ ?_
      · cases waiter.symm.trans last
      · rw [step, goOn_matched waiter]
        exact fun same => Status.noConfusion (List.cons.inj same).1
      · rw [step, goOn_matched waiter]
        exact ⟨rfl, .inr (show (0 : Int) ≤ 1 by decide)⟩
  | polling timeout =>
      have claimed : handshake.count ≤ 1 := tallied.claimed.resolve_left (by
        rw [waiter]
        exact Waiter.noConfusion)
      by_cases found : handshake.count = 1
      · refine answered_of_next (fun _ _ => tallied.count_eq_one.mp found) ?_ ?_
        · rw [step, goOn_found waiter found]
          exact unchanged
        · rw [step, goOn_found waiter found]
          exact ⟨tallied.tally, .inl rfl⟩
      cases timeout with
      | succ timeout =>
          refine answered_of_next (fun last => ?_) ?_ ?_
          · cases waiter.symm.trans last
          · rw [step, goOn_missed waiter found]
            exact unchanged
          · rw [step, goOn_missed waiter found]
            exact ⟨tallied.tally, .inr claimed⟩
      | zero =>
          -- the wait fails: nothing has arrived, or the counter has been kept from its value
          have next : Tallied (handshakeStep handshake .main) := by
            rw [step, goOn_failed waiter found]
            exact ⟨tallied.tally, .inr claimed⟩
          have failed : (handshakeStep handshake .main).results = .error :: handshake.results := by
            rw [step, goOn_failed waiter found]
          refine ⟨⟨fun answered _ acked => ?_, fun countable => ⟨fun _ => ?_, ?_⟩⟩, fun _ => next⟩
          · exact absurd (acked.symm.trans (answered.1 failed)) Bool.noConfusion
          · refine Bool.eq_false_iff.mpr fun acked => ?_
            exact found (tallied.count_eq_one.mpr (countable waiter acked))
          · exact not_stuck next.claimed

/-- A message comes in. -/
theorem Tallied.interrupt (tallied : Tallied handshake) (msg : CanMsg) (own : Bool) :
    (Answered handshake (.interrupt msg own) ↔ Countable handshake (.interrupt msg own)) ∧
      (Countable handshake (.interrupt msg own) →
        Tallied (handshakeStep handshake (.interrupt msg own))) := by
  have step : handshakeStep handshake (.interrupt msg own) = arrive msg own handshake := rfl
  have unchanged : handshake.results ≠ .error :: handshake.results :=
    (List.cons_ne_self _ _).symm
  by_cases ack : msg.id = 0x521
  · have counted : arrive msg own handshake =
        { handshake with
          screen := { handshake.screen with recieve521Count := handshake.count + 1 }
          acked := handshake.acked || own
          acks := handshake.acks + 1 } := by
      rw [arrive, if_pos ack, screenInterrupt_ack ack]
    have room : Countable handshake (.interrupt msg own) ↔
        handshake.waiter = .matched ∨ handshake.count < 1 := by
      rw [tallied.count_lt_one, Countable]
      tauto
    have free : Answered handshake (.interrupt msg own) ↔
        handshake.waiter = .matched ∨ handshake.count + 1 ≤ 1 := by
      rw [answered_of_results, step, counted]
      rw [step, counted]
      exact unchanged
    rw [free, room, step, counted]
    refine ⟨or_congr_right (by omega), fun countable => ⟨?_, ?_⟩⟩
    · show handshake.count + 1 = (handshake.acks + 1 : Nat) - _
      rw [tallied.tally]
      dsimp only
      omega
    · exact countable.imp_right fun below => show handshake.count + 1 ≤ 1 by omega
  · have count := screenInterrupt_count ack handshake.screen
    by_cases completes : (screenInterrupt msg handshake.screen).recieveComplete ∧
      ¬ handshake.screen.recieveComplete
    · have restarts : arrive msg own handshake =
          { handshake with
            screen := screenInterrupt msg handshake.screen, acks := 0, restarted := true } := by
        rw [arrive, if_neg ack, if_pos completes]
      rw [if_pos completes] at count
      refine answered_of_next (fun isAck => absurd isAck ack) ?_ ?_
      · rw [step, restarts]
        exact unchanged
      · rw [step, restarts]
        refine ⟨count, .inr ?_⟩
        show (screenInterrupt msg handshake.screen).recieve521Count ≤ 1
        rw [count]
        decide
    · have passes : arrive msg own handshake =
          { handshake with screen := screenInterrupt msg handshake.screen } := by
        rw [arrive, if_neg ack, if_neg completes]
      rw [if_neg completes] at count
      refine answered_of_next (fun isAck => absurd isAck ack) ?_ ?_
      · rw [step, passes]
        exact unchanged
      · rw [step, passes]
        exact ⟨count.trans tallied.tally, tallied.claimed.imp_right (Eq.trans_le count)⟩

/-- One event. -/
theorem Tallied.step (tallied : Tallied handshake) (event : HandshakeEvent) :
    (Answered handshake event ↔ Countable handshake event) ∧
      (Countable handshake event → Tallied (handshakeStep handshake event)) := by
  cases event with
  | main => exact tallied.main
  | interrupt msg own => exact tallied.interrupt msg own
  | taken =>
      have cleared : (handshakeStep handshake .taken).results = handshake.results ∧
          Tallied (handshakeStep handshake .taken) := by
        rw [handshakeStep]
        split
        · exact ⟨rfl, tallied.tally, tallied.claimed⟩
        · exact ⟨rfl, tallied⟩
      refine answered_of_next trivial ?_ cleared.2
      rw [cleared.1]
      exact (List.cons_ne_self _ _).symm

/-- **The acknowledgements.** In every run, however frames, acknowledgements and messages follow each
other: no wait fails whose acknowledgement has arrived and none leaves all later ones to fail,
exactly if no acknowledgement comes on top of those due, and no complete message keeps a wait from
the one that has arrived. -/
theorem answered_iff (events : List HandshakeEvent) :
    Along handshakeStep Answered Handshake.initial events ↔
      Along handshakeStep Countable Handshake.initial events :=
  along_iff (fun _ event tallied => (tallied.step event).1)
    (fun _ event tallied => (tallied.step event).2) events _ tallied_initial

/-- Where every step is answered, later waits may still succeed. -/
theorem not_stuck_of_answered {events : List HandshakeEvent}
    (answered : Along handshakeStep Answered Handshake.initial events) :
    ¬ Stuck (run handshakeStep Handshake.initial events) := by
  have kept : ∀ handshake event, ¬ Stuck handshake → Answered handshake event →
      ¬ Stuck (handshakeStep handshake event) := fun _ _ _ answered => answered.2
  exact run_invariant kept events _ (not_stuck tallied_initial.claimed) answered

end Runs

/-- The first frame is acknowledged when its wait has failed, the second before it is tested for. -/
def lateAck : List HandshakeEvent :=
  List.replicate 102 .main ++ [.interrupt ackMsg true, .main, .interrupt ackMsg true]

/-- **A late acknowledgement and the next one** bring the counter to two: the second wait fails
although its acknowledgement is there, and so do all later ones. -/
theorem late_ack_sticks : ¬ Along handshakeStep Answered Handshake.initial lateAck ∧
    (run handshakeStep Handshake.initial lateAck).acked = true ∧
    (run handshakeStep Handshake.initial (lateAck ++ List.replicate 101 .main)).results =
      [.error, .error] := by
  refine ⟨fun answered => ?_, by decide +kernel, by decide +kernel⟩
  have waits : (run handshakeStep Handshake.initial lateAck).waiter ≠ .matched := by
    decide +kernel
  have past : 2 ≤ (run handshakeStep Handshake.initial lateAck).count := by decide +kernel
  exact not_stuck_of_answered answered (stuck_of_past waits past)

/-! ### The wait of the sending side -/

section Wait

theorem arrive_screen (msg : CanMsg) (own : Bool) (handshake : Handshake) :
    (arrive msg own handshake).screen = screenInterrupt msg handshake.screen ∧
      (arrive msg own handshake).waiter = handshake.waiter ∧
      (arrive msg own handshake).results = handshake.results := by
  rw [arrive]
  split_ifs <;> exact ⟨rfl, rfl, rfl⟩

/-- The interrupts of the display are those of the handshake, but for the system timer's. -/
theorem interrupts_handshake (causes : List Interrupt) : ∀ (radio : Radio) (handshake : Handshake),
    handshake.screen = radio.screen → ∃ events,
      let after := run handshakeStep handshake events
      after.screen = (run interrupt radio causes).screen ∧ after.waiter = handshake.waiter ∧
        after.results = handshake.results := by
  induction causes with
  | nil => exact fun radio handshake same => ⟨[], same, rfl, rfl⟩
  | cons cause rest ih =>
      intro radio handshake same
      cases cause with
      | can msg =>
          obtain ⟨screen, waiter, results⟩ := arrive_screen msg false handshake
          obtain ⟨events, after, waiter', results'⟩ := ih (interrupt radio (.can msg))
            (arrive msg false handshake) (by rw [screen, same]; rfl)
          exact ⟨.interrupt msg false :: events, after, waiter'.trans waiter, results'.trans results⟩
      | sysTick =>
          refine ih (interrupt radio .sysTick) handshake (same.trans ?_)
          rw [interrupt]
          split <;> rfl

/-- **`WaitFor521` is the wait of the handshake**: for the same interrupts, it comes to the same
result and leaves the same counter. -/
theorem waitFor521_handshake (timeout : Nat) : ∀ (delays : List (List Interrupt)) (radio : Radio)
    (handshake : Handshake), handshake.screen = radio.screen →
    handshake.waiter = .polling timeout → ∃ events,
      let after := run handshakeStep handshake events
      after.waiter = .idle ∧ after.screen = (waitFor521 timeout delays radio).2.screen ∧
        after.results = (waitFor521 timeout delays radio).1 :: handshake.results := by
  have returns : ∀ (timeout : Nat) (delays : List (List Interrupt)) (radio : Radio)
      (handshake : Handshake), handshake.screen = radio.screen →
      handshake.waiter = .polling timeout → handshake.count = 1 →
      let after := goOn (goOn handshake)
      after.waiter = .idle ∧ after.screen = (waitFor521 timeout delays radio).2.screen ∧
        after.results = (waitFor521 timeout delays radio).1 :: handshake.results := by
    intro timeout delays radio handshake same waiter found
    have one : radio.screen.recieve521Count = 1 := same ▸ found
    rw [goOn_found waiter found, goOn_matched rfl, waitFor521_found timeout delays one, ← same]
    exact ⟨rfl, rfl, rfl⟩
  induction timeout with
  | zero =>
      intro delays radio handshake same waiter
      by_cases found : handshake.count = 1
      · exact ⟨[.main, .main], returns 0 delays radio handshake same waiter found⟩
      · have missed : radio.screen.recieve521Count ≠ 1 := same ▸ found
        refine ⟨[.main], ?_⟩
        have last : handshakeStep handshake .main =
            { handshake with waiter := .idle, results := .error :: handshake.results } :=
          goOn_failed waiter found
        rw [run_cons, run_nil, last, waitFor521_failed delays missed]
        exact ⟨rfl, same, rfl⟩
  | succ timeout ih =>
      intro delays radio handshake same waiter
      by_cases found : handshake.count = 1
      · exact ⟨[.main, .main], returns _ delays radio handshake same waiter found⟩
      · have missed : radio.screen.recieve521Count ≠ 1 := same ▸ found
        obtain ⟨events, screen, waiter', results⟩ := interrupts_handshake (delays.headD []) radio
          { handshake with waiter := .polling timeout } same
        obtain ⟨events', idle, screen', results'⟩ := ih delays.tail _ _ screen waiter'
        refine ⟨.main :: (events ++ events'), ?_⟩
        have first : handshakeStep handshake .main =
            { handshake with waiter := .polling timeout } := goOn_missed waiter found
        rw [run_cons, run_append, first, waitFor521_missed timeout delays missed]
        exact ⟨idle, screen', results'.trans (congrArg _ results)⟩

end Wait

end EquinoxClock.Screen
