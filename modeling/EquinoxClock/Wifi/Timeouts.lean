/-
Connections whose client is gone.

The timer is all that frees a place of the table when no segment comes any more. It counts up in
`UIP_TIME_WAIT` and `UIP_FIN_WAIT_2`, to `UIP_TIME_WAIT_TIMEOUT`; with something under way it counts
down, and doubles the time after each of the first four attempts. `ticksLeft` adds that up, and
`closed_iff_ticksLeft` says that a connection is freed then and not before. With nothing under way an
established connection is only polled: it is never freed.

Both need of a connection what every run keeps (`Kept`): no more attempts than are allowed, and
something under way wherever an acknowledgement is waited for.
-/

import EquinoxClock.Wifi.Delivery

namespace EquinoxClock.Wifi

open EquinoxClock.Lib

variable {World : Type*}

/-- How often something is sent again. -/
def TcpState.attempts : TcpState → UInt8
  | .synRcvd => uipMaxsynrtx
  | _ => uipMaxrtx

/-- The states in which an acknowledgement is waited for. -/
def TcpState.awaits : TcpState → Bool
  | .synRcvd | .finWait1 | .closing | .lastAck => true
  | .closed | .established | .finWait2 | .timeWait => false

/-- What every run keeps of a connection. -/
structure Kept (conn : UipConn) : Prop where
  nrtx : conn.nrtx.toNat ≤ conn.tcpstateflags.attempts.toNat
  waiting : conn.tcpstateflags.awaits = true → conn.len ≠ 0

/-- An established connection with nothing under way. -/
def Idle (conn : UipConn) : Prop := conn.tcpstateflags = .established ∧ conn.len = 0

instance (conn : UipConn) : Decidable (Idle conn) := inferInstanceAs (Decidable (_ ∧ _))

/-- The ticks from one attempt to the next. -/
def backoff (nrtx : Nat) : Nat := 3 * 2 ^ min nrtx 4 + 1

/-- The ticks that some more attempts take. -/
def backoffs : (attempts nrtx : Nat) → Nat
  | 0, _ => 0
  | attempts + 1, nrtx => backoff nrtx + backoffs attempts (nrtx + 1)

/-- The ticks until a connection is freed, if nothing arrives. -/
def UipConn.ticksLeft (conn : UipConn) : Nat :=
  match conn.tcpstateflags with
  | .closed => 0
  | .timeWait | .finWait2 => (uipTimeWaitTimeout - 1 - conn.timer).toNat + 1
  | .synRcvd | .established | .finWait1 | .closing | .lastAck =>
      conn.timer.toNat + 1 + 
        backoffs (conn.tcpstateflags.attempts.toNat - conn.nrtx.toNat) conn.nrtx.toNat

section Kept

variable {conn next : UipConn}

theorem TcpState.attempts_le (state : TcpState) : state.attempts.toNat ≤ 8 := by
  cases state <;> decide

theorem TcpState.attempts_free {state : TcpState} (free : state.awaits = false) :
    state.attempts.toNat = 8 := by
  cases state <;> first | rfl | exact absurd free (by decide)

theorem Kept.small (kept : Kept conn) : conn.nrtx.toNat ≤ 8 :=
  kept.nrtx.trans (TcpState.attempts_le _)

/-- It is kept of a connection that waits for nothing. -/
theorem kept_free (small : next.nrtx.toNat ≤ 8) (free : next.tcpstateflags.awaits = false) :
    Kept next where
  nrtx := by
    rw [TcpState.attempts_free free]
    exact small
  waiting awaits := absurd (free.symm.trans awaits) Bool.false_ne_true

/-- It is kept of one that waits for as much as before. -/
theorem Kept.still (kept : Kept conn) (nrtx : next.nrtx = conn.nrtx) (len : next.len = conn.len)
    (state : next.tcpstateflags = conn.tcpstateflags) : Kept next where
  nrtx := by
    rw [nrtx, state]
    exact kept.nrtx
  waiting awaits := by
    rw [len]
    exact kept.waiting (state ▸ awaits)

/-- It is kept of one that starts anew with its attempts. -/
theorem kept_anew (nrtx : next.nrtx = 0)
    (waiting : next.tcpstateflags.awaits = true → next.len ≠ 0) : Kept next where
  nrtx := by
    rw [nrtx]
    exact Nat.zero_le _
  waiting := waiting

theorem one_ne_zero_16 : (1 : UInt16) ≠ 0 := by decide

theorem kept_foundListen (slot : UipConn) (iss seqno : SeqNo) (mssOption : Option UInt16) :
    Kept (foundListen slot iss seqno mssOption) := by
  cases mssOption <;> exact kept_anew rfl fun _ => one_ne_zero_16

/-- `appsend` leaves the connection, closes it or starts anew with the attempts. -/
theorem appsend_kept (app : App World) (established : conn.tcpstateflags = .established)
    (kept : Kept conn) : Kept (appsend conn app).1 := by
  obtain ⟨len, frame⟩ := takeSlen_frame app (conn.called app)
  unfold appsend
  dsimp only
  split
  · exact kept_free kept.small rfl
  · split
    · exact kept_anew rfl fun _ => one_ne_zero_16
    · rw [frame]
      have free : conn.tcpstateflags.awaits = true → len ≠ 0 := by
        rw [established]
        exact fun awaits => absurd awaits Bool.false_ne_true
      unfold apprexmit
      split
      · exact kept_anew rfl free
      · split <;> exact kept_anew rfl free

section States

variable (callbackFunc : PageServingFunction World) {seg : Segment} {memory : Int → UInt8}
  {shared : Shared World} {ackdata : Bool}

theorem kept_inSynRcvd (small : conn.nrtx.toNat ≤ 8) (kept : ackdata = false → Kept conn) :
    Kept (inSynRcvd (serverTaskImpl callbackFunc) seg memory ackdata conn shared).1 := by
  cases ackdata with
  | false => exact kept rfl
  | true =>
      unfold inSynRcvd
      rw [if_pos rfl]
      dsimp only
      split
      · exact appsend_kept _ rfl (kept_free small rfl)
      · exact appsend_kept _ rfl (kept_free small rfl)

theorem kept_inEstablished (small : conn.nrtx.toNat ≤ 8)
    (established : conn.tcpstateflags = .established) :
    Kept (inEstablished (serverTaskImpl callbackFunc) seg memory ackdata conn shared).1 := by
  have free : conn.tcpstateflags.awaits = false := by
    rw [established]
    rfl
  unfold inEstablished
  dsimp only
  split
  · split
    · exact kept_free small free
    · exact kept_anew rfl fun _ => one_ne_zero_16
  · obtain ⟨rcvNxt, frame⟩ := windowMss_frame seg (decide (seg.len > 0)) conn
    rw [frame]
    split
    · exact appsend_kept _ established (kept_free small free)
    · exact kept_free small free

theorem kept_inFinWait1 (small : conn.nrtx.toNat ≤ 8) (kept : ackdata = false → Kept conn)
    (state : conn.tcpstateflags = .finWait1) :
    Kept (inFinWait1 (serverTaskImpl callbackFunc) seg memory ackdata conn shared).1 := by
  obtain ⟨rcvNxt, frame⟩ : ∃ rcvNxt, (if seg.len > 0 then uipAddRcvNxt seg.len conn else conn) =
      { conn with rcvNxt } := by
    split <;> exact ⟨_, rfl⟩
  unfold inFinWait1
  dsimp only
  rw [frame]
  cases ackdata with
  | false =>
      have len : conn.len ≠ 0 := (kept rfl).waiting (by rw [state]; rfl)
      split
      · exact ⟨small, fun _ => len⟩
      · exact (kept rfl).still rfl rfl rfl
  | true =>
      split
      · exact kept_free small rfl
      · exact kept_free small rfl

theorem kept_inFinWait2 (small : conn.nrtx.toNat ≤ 8) (state : conn.tcpstateflags = .finWait2) :
    Kept (inFinWait2 (serverTaskImpl callbackFunc) seg memory conn shared).1 := by
  obtain ⟨rcvNxt, frame⟩ : ∃ rcvNxt, (if seg.len > 0 then uipAddRcvNxt seg.len conn else conn) =
      { conn with rcvNxt } := by
    split <;> exact ⟨_, rfl⟩
  unfold inFinWait2
  dsimp only
  rw [frame]
  split
  · exact kept_free small rfl
  · refine kept_free small ?_
    dsimp only
    rw [state]
    rfl

theorem kept_inLastAck (small : conn.nrtx.toNat ≤ 8) (kept : ackdata = false → Kept conn) :
    Kept (inLastAck (serverTaskImpl callbackFunc) memory ackdata conn shared).1 := by
  cases ackdata with
  | false => exact kept rfl
  | true => exact kept_free small rfl

theorem kept_inClosing (small : conn.nrtx.toNat ≤ 8) (kept : ackdata = false → Kept conn) :
    Kept (inClosing ackdata conn) := by
  cases ackdata with
  | false => exact kept rfl
  | true => exact kept_free small rfl

end States

variable (callbackFunc : PageServingFunction World) (seg : Segment) (memory : Int → UInt8)
  (shared : Shared World)

/-- **A segment keeps it**, by cases on the state of the connection. -/
theorem kept_uipInput (kept : Kept conn) :
    Kept (uipInput (serverTaskImpl callbackFunc) seg memory conn shared).1 := by
  have acknowledged := acknowledge_tcpstateflags (acknowledges seg conn) conn
  have small : (if acknowledges seg conn then acknowledge conn else conn).nrtx.toNat ≤ 8 := by
    obtain ⟨sa, sv, rto, timer, frame⟩ := acknowledge_frame conn
    rw [frame]
    split <;> exact kept.small
  have waits : acknowledges seg conn = false →
      Kept (if acknowledges seg conn then acknowledge conn else conn) := by
    intro unknown
    rw [unknown]
    exact kept
  unfold uipInput
  split
  · exact kept
  split
  · exact kept_free kept.small rfl
  split
  · exact kept
  dsimp only
  generalize (if acknowledges seg conn = true then acknowledge conn else conn) = conn'
    at acknowledged small waits ⊢
  split
  · exact kept_free small (by rw [‹conn'.tcpstateflags = _›]; rfl)
  · exact kept_inSynRcvd callbackFunc small waits
  · exact kept_inEstablished callbackFunc small ‹_›
  · exact kept_inLastAck callbackFunc small waits
  · exact kept_inFinWait1 callbackFunc small waits ‹_›
  · exact kept_inFinWait2 callbackFunc small ‹_›
  · exact kept_free small (by rw [‹conn'.tcpstateflags = _›]; rfl)
  · exact kept_inClosing small waits

/-- Sending again leaves the state, the length and the timer alone. -/
theorem retransmit_frame :
    (retransmit (serverTaskImpl callbackFunc) memory conn shared).1.tcpstateflags = conn.tcpstateflags ∧
      (retransmit (serverTaskImpl callbackFunc) memory conn shared).1.len = conn.len ∧
      (retransmit (serverTaskImpl callbackFunc) memory conn shared).1.timer = conn.timer ∧
      (retransmit (serverTaskImpl callbackFunc) memory conn shared).1.nrtx = conn.nrtx := by
  unfold retransmit
  split
  · exact ⟨rfl, rfl, rfl, rfl⟩
  · unfold apprexmit
    dsimp only
    split
    · exact ⟨rfl, rfl, rfl, rfl⟩
    · split <;> exact ⟨rfl, rfl, rfl, rfl⟩
  all_goals exact ⟨rfl, rfl, rfl, rfl⟩

/-- The time until the next attempt, as the timer is set. -/
theorem toNat_timer {nrtx : UInt8} (few : nrtx.toNat < 8) :
    (uipRto <<< (if nrtx > 4 then (4 : UInt8) else nrtx)).toNat + 1 = backoff nrtx.toNat := by
  have all : ∀ few : Fin 8,
      (uipRto <<< (if UInt8.ofNat few > 4 then (4 : UInt8) else UInt8.ofNat few)).toNat + 1 =
        backoff few := by decide
  have this := all ⟨nrtx.toNat, few⟩
  rwa [UInt8.ofNat_toNat] at this

/-- Something is under way, and the timer counts down. -/
structure Counting (conn : UipConn) : Prop where
  state : conn.tcpstateflags = .established ∨ conn.tcpstateflags.awaits = true
  len : conn.len ≠ 0

theorem Counting.ticksLeft (counting : Counting conn) : conn.ticksLeft =
    conn.timer.toNat + 1 +
      backoffs (conn.tcpstateflags.attempts.toNat - conn.nrtx.toNat) conn.nrtx.toNat := by
  rw [UipConn.ticksLeft]
  have state := counting.state
  cases is : conn.tcpstateflags
  case closed | finWait2 | timeWait => simp [is, TcpState.awaits] at state
  all_goals rfl

/-- A connection that is given up has used up its attempts. -/
theorem attempts_used (givenUp : conn.nrtx = uipMaxrtx ∨
    conn.tcpstateflags = .synRcvd ∧ conn.nrtx = uipMaxsynrtx) :
    conn.tcpstateflags.attempts.toNat - conn.nrtx.toNat = 0 := by
  rcases givenUp with all | ⟨made, all⟩
  · rw [all]
    exact Nat.sub_eq_zero_of_le (TcpState.attempts_le conn.tcpstateflags)
  · rw [made, all]
    rfl

/-- Any other one has some left. -/
theorem attempts_left (kept : Kept conn) (goesOn : ¬ (conn.nrtx = uipMaxrtx ∨
    conn.tcpstateflags = .synRcvd ∧ conn.nrtx = uipMaxsynrtx)) :
    conn.nrtx.toNat < conn.tcpstateflags.attempts.toNat := by
  refine Nat.lt_of_le_of_ne kept.nrtx fun all => goesOn ?_
  by_cases made : conn.tcpstateflags = .synRcvd
  · rw [made] at all
    exact Or.inr ⟨made, UInt8.toNat_inj.mp all⟩
  · refine Or.inl (UInt8.toNat_inj.mp (all.trans ?_))
    cases is : conn.tcpstateflags
    case synRcvd => exact absurd is made
    all_goals rfl

/-- **One attempt more**, with the time until the next one. -/
theorem attempt_counting (counting : Counting conn) (expired : conn.timer = 0)
    (more : conn.nrtx.toNat < conn.tcpstateflags.attempts.toNat) {timer : UInt8}
    (longer : timer.toNat + 1 = backoff conn.nrtx.toNat) :
    let next := (retransmit (serverTaskImpl callbackFunc) memory
      { conn with timer, nrtx := conn.nrtx + 1 } shared).1
    Kept next ∧ Counting next ∧ next.ticksLeft = conn.ticksLeft - 1 := by
  have most := TcpState.attempts_le conn.tcpstateflags
  have nrtx : (conn.nrtx + 1).toNat = conn.nrtx.toNat + 1 := by
    have one : (1 : UInt8).toNat = 1 := rfl
    rw [UInt8.toNat_add, one]
    omega
  have frame := @retransmit_frame _ { conn with timer, nrtx := conn.nrtx + 1 } callbackFunc memory
    shared
  dsimp only
  generalize (retransmit (serverTaskImpl callbackFunc) memory
    { conn with timer, nrtx := conn.nrtx + 1 } shared).1 = next at frame ⊢
  obtain ⟨state', len', timer', nrtx'⟩ := frame
  have again : Counting next := ⟨state' ▸ counting.state, len' ▸ counting.len⟩
  refine ⟨⟨?_, fun _ => again.len⟩, again, ?_⟩
  · rw [nrtx', state', nrtx]
    exact more
  · rw [again.ticksLeft, counting.ticksLeft, state', timer', nrtx', nrtx, expired]
    obtain ⟨left, left_eq⟩ := Nat.exists_eq_add_of_lt more
    have next_left : conn.tcpstateflags.attempts.toNat - (conn.nrtx.toNat + 1) = left := by omega
    have this_left : conn.tcpstateflags.attempts.toNat - conn.nrtx.toNat = left + 1 := by omega
    rw [next_left, this_left, backoffs, ← longer, UInt8.toNat_zero]
    dsimp only
    omega

/-- **A tick of the timer that counts down.** It counts, or sends again with a longer time, or gives
up. -/
theorem tick_counting (kept : Kept conn) (counting : Counting conn) :
    let next := (uipTimer (serverTaskImpl callbackFunc) memory conn shared).1
    Kept next ∧ (next.tcpstateflags = .closed ∨ Counting next) ∧
      next.ticksLeft = conn.ticksLeft - 1 := by
  have state := counting.state
  have open_ : ¬ (conn.tcpstateflags = .timeWait ∨ conn.tcpstateflags = .finWait2) ∧
      conn.tcpstateflags ≠ .closed := by
    cases is : conn.tcpstateflags <;> rw [is] at state <;> simp_all [TcpState.awaits]
  unfold uipTimer
  rw [if_neg open_.1, if_pos open_.2, if_pos counting.len]
  dsimp only
  by_cases expired : conn.timer = 0
  · rw [if_pos expired]
    by_cases givenUp : conn.nrtx = uipMaxrtx ∨
        conn.tcpstateflags = .synRcvd ∧ conn.nrtx = uipMaxsynrtx
    · rw [if_pos givenUp, counting.ticksLeft, attempts_used givenUp, expired]
      exact ⟨kept_free kept.small rfl, Or.inl rfl, rfl⟩
    · have more := attempts_left kept givenUp
      have few := Nat.lt_of_lt_of_le more (TcpState.attempts_le conn.tcpstateflags)
      rw [if_neg givenUp]
      obtain ⟨kept', again, ticksLeft⟩ := @attempt_counting _ _ callbackFunc memory shared counting
        expired more _ (toNat_timer few)
      exact ⟨kept', Or.inr again, ticksLeft⟩
  · rw [if_neg expired]
    have counted : (conn.timer - 1).toNat + 1 = conn.timer.toNat := by
      have positive : conn.timer.toNat ≠ 0 := fun zero => expired (UInt8.toNat_inj.mp zero)
      have one : (1 : UInt8).toNat = 1 := rfl
      rw [UInt8.toNat_sub_of_le _ _ (UInt8.le_iff_toNat_le.mpr (by omega)), one]
      omega
    have next : Counting { conn with timer := conn.timer - 1 } := ⟨counting.state, counting.len⟩
    refine ⟨kept.still rfl rfl rfl, Or.inr next, next.ticksLeft.trans ?_⟩
    rw [counting.ticksLeft]
    dsimp only
    omega

/-- A tick where the connection only waits for its end. -/
theorem tick_waiting (kept : Kept conn)
    (waiting : conn.tcpstateflags = .timeWait ∨ conn.tcpstateflags = .finWait2) :
    let next := (uipTimer (serverTaskImpl callbackFunc) memory conn shared).1
    Kept next ∧ (next.tcpstateflags = .closed ∨ next.tcpstateflags = .timeWait ∨
      next.tcpstateflags = .finWait2) ∧ next.ticksLeft = conn.ticksLeft - 1 := by
  have left : conn.ticksLeft = (uipTimeWaitTimeout - 1 - conn.timer).toNat + 1 := by
    rw [UipConn.ticksLeft]
    rcases waiting with is | is <;> rw [is]
  have free : conn.tcpstateflags.awaits = false := by
    rcases waiting with is | is <;> rw [is] <;> rfl
  unfold uipTimer
  rw [if_pos waiting, left]
  dsimp only
  split
  · next last =>
      have spent : uipTimeWaitTimeout - 1 - conn.timer = 0 := by
        rw [← last]
        simp only [UInt8.add_sub_cancel, UInt8.sub_self]
      rw [spent]
      exact ⟨kept_free kept.small rfl, Or.inl rfl, rfl⟩
  · next more =>
      refine ⟨kept_free kept.small free, Or.inr waiting, ?_⟩
      have left' : UipConn.ticksLeft { conn with timer := conn.timer + 1 } =
          (uipTimeWaitTimeout - 1 - (conn.timer + 1)).toNat + 1 := by
        rw [UipConn.ticksLeft]
        rcases waiting with is | is <;> simp only [is]
      have differs : conn.timer.toNat ≠ 119 := fun last => more (UInt8.toNat_inj.mp (by
        rw [UInt8.toNat_add, last]
        rfl))
      have wait (timer : UInt8) :
          (uipTimeWaitTimeout - 1 - timer).toNat = (2 ^ 8 - timer.toNat + 119) % 2 ^ 8 :=
        UInt8.toNat_sub _ _
      have timer := conn.timer.toNat_lt
      have one : (1 : UInt8).toNat = 1 := rfl
      rw [left', wait, wait, UInt8.toNat_add, one]
      omega

/-- **A tick leaves one tick less**, and a connection that is not idle does not become it. -/
theorem tick (kept : Kept conn) (busy : ¬ Idle conn) :
    let next := (uipTimer (serverTaskImpl callbackFunc) memory conn shared).1
    (Kept next ∧ ¬ Idle next) ∧ next.ticksLeft = conn.ticksLeft - 1 := by
  by_cases waiting : conn.tcpstateflags = .timeWait ∨ conn.tcpstateflags = .finWait2
  · obtain ⟨kept', state, left⟩ := tick_waiting callbackFunc memory shared kept waiting
    refine ⟨⟨kept', fun idle => ?_⟩, left⟩
    rcases state with is | is | is <;> exact absurd (is.symm.trans idle.1) TcpState.noConfusion
  by_cases closed : conn.tcpstateflags = .closed
  · have same : (uipTimer (serverTaskImpl callbackFunc) memory conn shared).1 = conn := by
      unfold uipTimer
      rw [if_neg waiting, if_neg (not_not_intro closed)]
    have none : conn.ticksLeft = 0 := by rw [UipConn.ticksLeft, closed]
    dsimp only
    rw [same, none]
    exact ⟨⟨kept, busy⟩, rfl⟩
  · have counting : Counting conn := by
      by_cases established : conn.tcpstateflags = .established
      · exact ⟨Or.inl established, fun none => busy ⟨established, none⟩⟩
      · have awaits : conn.tcpstateflags.awaits = true := by
          cases is : conn.tcpstateflags <;> simp_all [TcpState.awaits]
        exact ⟨Or.inr awaits, kept.waiting awaits⟩
    obtain ⟨kept', state, left⟩ := tick_counting callbackFunc memory shared kept counting
    refine ⟨⟨kept', fun idle => ?_⟩, left⟩
    rcases state with is | again
    · exact absurd (is.symm.trans idle.1) TcpState.noConfusion
    · exact again.len idle.2

/-- An idle connection is polled, and that is all where nothing is done for a poll. -/
theorem uipTimer_idle {task : Nat → App World → App World}
    (poll : ∀ app : App World, app.flags = { poll := true } → task 0 app = app)
    (idle : Idle conn) :
    uipTimer task memory conn shared = ({ conn with nrtx := 0 }, shared, none) := by
  have polled : appcall task { poll := true } 0 memory conn shared =
      conn.app { poll := true } memory shared := poll _ rfl
  have sent : uipTimer task memory conn shared =
      appsend conn (conn.app { poll := true } memory shared) := by
    unfold uipTimer
    rw [idle.1, if_neg (by decide), if_pos (by decide), if_neg (not_not_intro idle.2), if_pos rfl,
      polled]
  rw [sent, @appsend_quiet _ conn (conn.app { poll := true } memory shared) ⟨rfl, rfl⟩ rfl]
  rfl

theorem serverTaskImpl_poll (datalen : Nat) (app : App World) (flags : app.flags = { poll := true }) :
    serverTaskImpl callbackFunc datalen app = app := by
  unfold serverTaskImpl onConnected onNewdata onAcked onRexmit onEnded
  simp only [flags, Bool.false_eq_true, if_false, Bool.or_self]

theorem tick_idle (idle : Idle conn) :
    Kept (uipTimer (serverTaskImpl callbackFunc) memory conn shared).1 ∧
      Idle (uipTimer (serverTaskImpl callbackFunc) memory conn shared).1 := by
  rw [uipTimer_idle memory shared (serverTaskImpl_poll callbackFunc 0) idle]
  refine ⟨kept_anew rfl fun awaits => ?_, idle⟩
  have free : TcpState.established.awaits = true := idle.1 ▸ awaits
  exact absurd free Bool.false_ne_true

theorem kept_uipTimer (kept : Kept conn) :
    Kept (uipTimer (serverTaskImpl callbackFunc) memory conn shared).1 := by
  by_cases idle : Idle conn
  · exact (tick_idle callbackFunc memory shared idle).1
  · exact (tick callbackFunc memory shared kept idle).1.1

/-- Nothing is left of a closed connection only. -/
theorem ticksLeft_zero : conn.ticksLeft = 0 ↔ conn.tcpstateflags = .closed := by
  rw [UipConn.ticksLeft]
  cases conn.tcpstateflags <;> simp

/-- All attempts together take no more than 245 ticks. -/
theorem backoffs_le {state : TcpState} {nrtx : Nat} (few : nrtx ≤ state.attempts.toNat) :
    backoffs (state.attempts.toNat - nrtx) nrtx ≤ 245 := by
  have made : ∀ few : Fin 9, backoffs (8 - few) few ≤ 245 := by decide
  have asked : ∀ few : Fin 6, backoffs (5 - few) few ≤ 245 := by decide
  cases state
  case synRcvd => exact asked ⟨nrtx, Nat.lt_succ_of_le few⟩
  all_goals exact made ⟨nrtx, Nat.lt_succ_of_le few⟩

/-- No connection is kept for more than 501 ticks. -/
theorem ticksLeft_le (kept : Kept conn) : conn.ticksLeft ≤ 501 := by
  have timer := conn.timer.toNat_lt
  have attempts := backoffs_le kept.nrtx
  have wait := (uipTimeWaitTimeout - 1 - conn.timer).toNat_lt
  rw [UipConn.ticksLeft]
  split <;> omega

end Kept

section Runs

variable (callbackFunc : PageServingFunction World) {iss : SeqNo}

/-- **Every run keeps it**, whatever arrives. -/
theorem kept_run (events : List (NetEvent World)) (start : Net World) (kept : Kept start.conn) :
    Kept (run (netStep callbackFunc iss) start events).conn := by
  have step (net : Net World) (event : NetEvent World) (kept : Kept net.conn) :
      Kept (netStep callbackFunc iss net event).conn := by
    cases event with
    | segment seg memory => exact kept_uipInput callbackFunc seg memory net.shared kept
    | timer memory => exact kept_uipTimer callbackFunc memory net.shared kept
    | elsewhere getStringGlobal world => exact kept
    | deliver index limit =>
        rw [netStep, (net_deliver_keeps index limit net).2]
        exact kept
    | acknowledge => exact kept
  exact @run_invariant _ _ (netStep callbackFunc iss) (fun _ _ => True) (fun net => Kept net.conn)
    (fun net event kept _ => step net event kept) events start kept (along_trivial events start)

/-- A tick of the timer, and nothing else. -/
def ticked (iss : SeqNo) (net : Net World) (memory : Int → UInt8) : Net World :=
  netStep callbackFunc iss net (.timer memory)

/-- **When a connection whose client is gone is freed.** After any run, and then ticks of the timer
only: an idle connection stays, and any other is closed once `ticksLeft` of them have passed, and not
before; that is 501 at most. -/
theorem closed_iff_ticksLeft (slot : UipConn) (iss seqno : SeqNo) (mssOption : Option UInt16)
    (getStringGlobal : List UInt8) (world : World) (events : List (NetEvent World))
    (memories : List (Int → UInt8)) :
    let net := run (netStep callbackFunc iss)
      (netStart slot iss seqno mssOption getStringGlobal world) events
    let left := run (ticked callbackFunc iss) net memories
    (Idle net.conn → Idle left.conn) ∧
      (¬ Idle net.conn → net.conn.ticksLeft ≤ 501 ∧
        (left.conn.tcpstateflags = .closed ↔ net.conn.ticksLeft ≤ memories.length)) := by
  intro net left
  have kept : Kept net.conn :=
    kept_run callbackFunc events _ (kept_foundListen slot iss seqno mssOption)
  refine ⟨fun idle => ?_, fun busy => ⟨ticksLeft_le kept, ?_⟩⟩
  · exact @run_invariant _ _ (ticked callbackFunc iss) (fun _ _ => True) (fun net => Idle net.conn)
      (fun net memory idle _ => (tick_idle callbackFunc memory net.shared idle).2) memories net idle
      (along_trivial memories net)
  · exact @run_countdown _ _ (ticked callbackFunc iss)
      (fun net => Kept net.conn ∧ ¬ Idle net.conn) (fun net => net.conn.tcpstateflags = .closed)
      (fun net => net.conn.ticksLeft) (fun net _ => ticksLeft_zero.symm)
      (fun net memory holds => tick callbackFunc memory net.shared holds.1 holds.2)
      memories net ⟨kept, busy⟩

end Runs

end EquinoxClock.Wifi
