import Kessh.Lib.Heartbeat
import Kessh.Pages.SftpPage
import Mathlib.Algebra.Order.Ring.Cast
import Mathlib.Algebra.Order.Ring.Rat
import Mathlib.Order.WithBot

set_option autoImplicit false

-- When the keepalive timers of the ArkTS pages close a session.
namespace Kessh.KeepaliveTimers

open Ecma Ledger Labelled Heartbeat
open Terminal (Keepalive)

abbrev Value := WithBot (WithTop ℚ)

def integer (n : Int) : Value := ((n : ℚ) : WithTop ℚ)

-- What the texts of the other numbers stand for is the host's: NaN for nothing.
variable (other : JsString → Option Value)

def value : JsNumber → Option Value
  | .int n => some (integer n)
  | .other text => other text

def compared (holds : Value → Value → Bool) (a b : JsNumber) : Bool :=
  match value other a, value other b with
  | some a, some b => holds a b
  | _, _ => false

def lessEq : JsNumber → JsNumber → Bool := compared other fun a b => decide (a ≤ b)

def less : JsNumber → JsNumber → Bool := compared other fun a b => decide (a < b)

-- max(attempts, 1), and one for NaN.
def threshold (attempts : JsNumber) : Value := max ((value other attempts).getD (integer 1)) (integer 1)

def reached (attempts : JsNumber) (failures : Nat) : Bool := decide (threshold other attempts ≤ integer failures)

theorem integer_le (a b : Int) : integer a ≤ integer b ↔ a ≤ b := by
  rw [integer, integer, WithBot.coe_le_coe, WithTop.coe_le_coe, Int.cast_le]

theorem lessEq_int (attempts : JsNumber) (limit : Value) (given : value other attempts = some limit) (n : Int) :
    lessEq other attempts (.int n) = decide (limit ≤ integer n) := by
  rw [lessEq, compared, given, value]

theorem zero_less (attempts : JsNumber) (limit : Value) (given : value other attempts = some limit) :
    less other (.int 0) attempts = decide (integer 0 < limit) := by
  rw [less, compared, given, value]

/-- The test that both pages make: a failure has been counted when it is made. -/
theorem attempts_reached (attempts : JsNumber) (failures : Nat) (counted : 0 < failures) :
    lessEq other (if less other (.int 0) attempts then attempts else .int 1) (.int failures) =
      reached other attempts failures := by
  have one : integer 1 ≤ integer failures := (integer_le _ _).mpr (by omega)
  unfold reached threshold
  cases given : value other attempts with
  | none =>
      have refused : less other (.int 0) attempts = false := by rw [less, compared, given, value]
      rw [refused, if_neg Bool.false_ne_true, lessEq_int other _ _ rfl]
      simp
  | some limit =>
      rw [zero_less other attempts limit given, Option.getD_some]
      by_cases positive : integer 0 < limit
      · rw [if_pos (decide_eq_true positive), lessEq_int other attempts limit given]
        simp [one]
      · rw [if_neg (by simpa using positive), lessEq_int other _ _ rfl]
        have low : limit ≤ integer 1 := (not_lt.mp positive).trans ((integer_le 0 1).mpr (by decide))
        simp [low]

structure Timer where
  sessionId : Int
  keepaliveFailures : Nat
  intervals : List Int
  ledger : List (Entry Int)

def heart (t : Timer) : Heart Int where
  beating := if t.intervals = [] then none else some t.sessionId
  failures := t.keepaliveFailures
  gone := released t.ledger

def opening (intervalId : Int) (before after : Timer) : List (Beat Int JsNumber) :=
  if intervalId ∈ after.intervals ∧ intervalId ∉ before.intervals then [.started after.sessionId] else []

-- The keepalive that a tick sends, and whether it closes the session.
def ticking (ok : Bool) (attempts : JsNumber) (before after : Timer) : List (Beat Int JsNumber) :=
  [.sent before.sessionId ok attempts
    (decide (before.sessionId ∈ released after.ledger ∧ before.sessionId ∉ released before.ledger))]

structure Steady (t next : Timer) : Prop where
  session : next.sessionId = t.sessionId
  failures : next.keepaliveFailures = t.keepaliveFailures
  intervals : next.intervals = t.intervals
  gone : released t.ledger ⊆ released next.ledger

theorem closing_gone (t next : Timer) (gone : released t.ledger ⊆ released next.ledger)
    (alive : next.intervals ≠ [] → next.sessionId ∉ released next.ledger) : Closing (heart t) (heart next) := by
  refine ⟨gone, fun session beating => ?_⟩
  obtain ⟨pending, same⟩ := Option.ite_none_left_eq_some.mp beating
  exact Option.some.inj same ▸ alive pending

theorem steady_refl (t : Timer) : Steady t t := ⟨rfl, rfl, rfl, List.Subset.refl _⟩

theorem steady_quiet (t next : Timer) (steady : Steady t next) : Heartbeat.Step (reached other) (heart t) (heart next) [] := by
  refine .quiet (.inr ⟨?_, steady.failures⟩)
  rw [heart, heart, steady.intervals, steady.session]

theorem stopped_quiet (t next : Timer) (stopped : next.intervals = []) :
    Heartbeat.Step (reached other) (heart t) (heart next) [] := .quiet (.inl (if_pos stopped))

theorem steady_opening (intervalId : Int) (t next : Timer) (steady : Steady t next) :
    Heartbeat.Step (reached other) (heart t) (heart next) (opening intervalId t next) := by
  have none : opening intervalId t next = [] := if_neg fun set => set.2 (steady.intervals ▸ set.1)
  exact none ▸ steady_quiet other t next steady

theorem opening_started (intervalId : Int) (t next : Timer) (idle : t.intervals = [])
    (set : next.intervals = [] ∨ next.intervals = [intervalId] ∧ next.keepaliveFailures = 0) :
    Heartbeat.Step (reached other) (heart t) (heart next) (opening intervalId t next) := by
  rcases set with stopped | ⟨pending, zero⟩
  · have none : opening intervalId t next = [] := by simp [opening, stopped]
    exact none ▸ stopped_quiet other t next stopped
  · have started : opening intervalId t next = [.started next.sessionId] := by simp [opening, pending, idle]
    rw [started]
    exact .started _ (if_neg (by simp [pending])) zero

def tickLedger (dropped : Bool) (t : Timer) : List (Entry Int) :=
  (if dropped then [.release t.sessionId] else []) ++ .use t.sessionId :: t.ledger

-- What a tick of the pending interval can do.
inductive Ticked (t next : Timer) (ok : Bool) (attempts : JsNumber) : Prop where
  | answered (kept : ok = true) (same : next = { t with keepaliveFailures := 0, ledger := tickLedger false t })
  | missed (lost : ok = false) (spared : reached other attempts (t.keepaliveFailures + 1) = false)
      (same : next = { t with keepaliveFailures := t.keepaliveFailures + 1, ledger := tickLedger false t })
  | dropped (lost : ok = false) (enough : reached other attempts (t.keepaliveFailures + 1) = true)
      (stopped : next.intervals = []) (closed : next.ledger = tickLedger true t)

theorem ticking_sent (ok dropped : Bool) (attempts : JsNumber) (t next : Timer) (unclosed : t.sessionId ∉ released t.ledger)
    (ledger : next.ledger = tickLedger dropped t) :
    ticking ok attempts t next = [.sent t.sessionId ok attempts dropped] := by
  cases dropped <;> simp [ticking, ledger, tickLedger, released, unclosed]

theorem tickLedger_gone (dropped : Bool) (t : Timer) : released t.ledger ⊆ released (tickLedger dropped t) := by
  cases dropped with
  | false => exact List.Subset.refl _
  | true => exact List.subset_cons_self _ _

-- A tick sends one keepalive, on the session of the page, and closes no other session.
def OneBeat (beats : List (Beat Int JsNumber)) (ok : Bool) (attempts : JsNumber) (before after : Timer) : Prop :=
  ∃ dropped, beats = [.sent before.sessionId ok attempts dropped] ∧ after.ledger = tickLedger dropped before

theorem oneBeat_gone (beats : List (Beat Int JsNumber)) (ok : Bool) (attempts : JsNumber) (t next : Timer)
    (beat : OneBeat beats ok attempts t next) : released t.ledger ⊆ released next.ledger := by
  obtain ⟨dropped, _, ledger⟩ := beat
  exact ledger ▸ tickLedger_gone dropped t

theorem ticked_simulates (ok : Bool) (attempts : JsNumber) (t next : Timer) (pending : t.intervals ≠ [])
    (unclosed : t.sessionId ∉ released t.ledger) (ticked : Ticked other t next ok attempts) :
    Heartbeat.Step (reached other) (heart t) (heart next) (ticking ok attempts t next) ∧
      OneBeat (ticking ok attempts t next) ok attempts t next := by
  have held : (heart t).beating = some t.sessionId := if_neg pending
  cases ticked with
  | answered kept same =>
      have ledger : next.ledger = tickLedger false t := by rw [same]
      have sent := ticking_sent ok false attempts t next unclosed ledger
      refine ⟨?_, false, sent, ledger⟩
      rw [sent, kept, same]
      exact .answered _ _ held held rfl
  | missed lost spared same =>
      have ledger : next.ledger = tickLedger false t := by rw [same]
      have sent := ticking_sent ok false attempts t next unclosed ledger
      refine ⟨?_, false, sent, ledger⟩
      rw [sent, lost, same]
      exact .missed _ _ held held rfl spared
  | dropped lost enough stopped closed =>
      have sent := ticking_sent ok true attempts t next unclosed closed
      have gone : t.sessionId ∈ released next.ledger := closed ▸ List.mem_cons_self
      refine ⟨?_, true, sent, closed⟩
      rw [sent, lost]
      exact .dropped _ _ held (if_pos stopped) gone enough

end Kessh.KeepaliveTimers

namespace Kessh.Terminal

open Ecma Ledger Labelled Heartbeat KeepaliveTimers

def timer (w : World) : Timer where
  sessionId := w.page.sessionId
  keepaliveFailures := w.page.keepaliveFailures
  intervals := w.intervals
  ledger := w.ledger

def beats (before : World) (event : Event) (after : World) : List (Beat Int JsNumber) :=
  match event with
  | .openDone _ _ _ _ intervalId => opening intervalId (timer before) (timer after)
  | .keepaliveTick _ ok settings => ticking ok settings.attempts (timer before) (timer after)
  | _ => []

theorem schedulePoll_steady (token : Nat) (timeoutId : Int) (w next : World)
    (move : schedulePoll token timeoutId w = some next) : Steady (timer w) (timer next) := by
  unfold schedulePoll at move
  split at move
  · obtain rfl := Option.some.inj move
    exact steady_refl _
  · dsimp only at move
    split at move
    · obtain ⟨_, same⟩ := Option.ite_none_right_eq_some.mp move
      obtain rfl := Option.some.inj same
      exact steady_refl _
    · obtain ⟨_, same⟩ := Option.ite_none_right_eq_some.mp move
      obtain rfl := Option.some.inj same
      exact steady_refl _

theorem startPolling_steady (timeoutId : Int) (w next : World) (move : startPolling timeoutId w = some next) :
    Steady (timer w) (timer next) := by
  unfold startPolling at move
  split at move
  · obtain rfl := Option.some.inj move
    exact steady_refl _
  · obtain ⟨session, failures, intervals, gone⟩ := schedulePoll_steady _ _ _ _ move
    exact ⟨session, failures, intervals, gone⟩

theorem pollTick_steady (token : Nat) (chunk : JsString) (timeoutId : Int) (w next : World)
    (move : pollTick token chunk timeoutId w = some next) : Steady (timer w) (timer next) := by
  unfold pollTick at move
  split at move
  · obtain rfl := Option.some.inj move
    exact steady_refl _
  · dsimp only at move
    split at move
    · obtain ⟨session, failures, intervals, gone⟩ := schedulePoll_steady _ _ _ _ move
      exact ⟨session, failures, intervals, gone⟩
    · obtain ⟨session, failures, intervals, gone⟩ := schedulePoll_steady _ _ _ _ move
      exact ⟨session, failures, intervals, gone⟩

theorem run_steady (w : World) : Steady (timer w) (timer (run w)) := by
  unfold run
  split
  · exact steady_refl _
  · split <;> exact ⟨rfl, rfl, rfl, List.Subset.refl _⟩

theorem closeCurrentSession_ledger (w : World) : (closeCurrentSession w).ledger =
    if w.page.sessionId > 0 then .release w.page.sessionId :: w.ledger else w.ledger := by
  have polled : (stopPolling w).ledger = w.ledger ∧ (stopPolling w).page.sessionId = w.page.sessionId := by
    unfold stopPolling
    dsimp only
    split <;> exact ⟨rfl, rfl⟩
  have stopped : ∀ w : World, (stopKeepalive w).ledger = w.ledger ∧ (stopKeepalive w).page.sessionId = w.page.sessionId := by
    intro w
    unfold stopKeepalive
    dsimp only
    split <;> exact ⟨rfl, rfl⟩
  obtain ⟨ledger, session⟩ := stopped (stopPolling w)
  unfold closeCurrentSession
  dsimp only
  rw [session, polled.2]
  split
  · rw [termClose, ledger, polled.1]
  · rw [ledger, polled.1]

theorem closeCurrentSession_gone (w : World) : released w.ledger ⊆ released (closeCurrentSession w).ledger := by
  rw [closeCurrentSession_ledger]
  split
  · exact List.subset_cons_self _ _
  · exact List.Subset.refl _

theorem openDraft_stops (currentDraft : Option ConnectionDraft) (w : World) (phase : Idle w ∨ Connected w) :
    (openDraft currentDraft w).intervals = [] ∧ released w.ledger ⊆ released (openDraft currentDraft w).ledger := by
  have begun := phase_frame w { w with page := { w.page with openToken := w.page.openToken + 1 } }
    ⟨rfl, rfl, rfl, rfl, rfl, rfl, rfl⟩ phase fun _ balanced => balanced
  have stopped := (closeCurrentSession_idle _ begun).1.intervals
  have gone := closeCurrentSession_gone { w with page := { w.page with openToken := w.page.openToken + 1 } }
  unfold openDraft
  dsimp only at gone ⊢
  generalize closeCurrentSession { w with page := { w.page with openToken := w.page.openToken + 1 } } = closed at *
  cases currentDraft with
  | none => exact ⟨stopped, gone⟩
  | some draft =>
      dsimp only
      cases prepared draft with
      | error problem => exact ⟨stopped, gone⟩
      | ok outcome =>
          obtain ⟨lines, opening⟩ := outcome
          cases opening with
          | false => exact ⟨stopped, gone⟩
          | true => exact ⟨stopped, gone⟩

theorem connected_unclosed (w : World) (good : Good w) (pending : w.intervals ≠ []) :
    Connected w ∧ w.page.sessionId ∉ released w.ledger := by
  have connected := good.phase.resolve_left fun idle => pending idle.intervals
  exact ⟨connected, balanced_owned_not_released _ _ connected.balanced _ List.mem_cons_self⟩

variable (other : JsString → Option Value)

theorem startKeepalive_timer (settings : Keepalive) (intervalId : Int) (w next : World) (connected : Connected w)
    (move : startKeepalive (lessEq other) settings intervalId w = some next) :
    next.ledger = w.ledger ∧ next.page.keepaliveFailures = 0 ∧
      next.intervals = if lessEq other settings.interval (.int 0) then [] else [intervalId] := by
  obtain ⟨keepaliveTimerId, off, kept⟩ := stopKeepalive_matches w connected.keepalive
  unfold startKeepalive at move
  rw [kept] at move
  dsimp only at move
  rw [decide_eq_false (Int.not_le.mpr connected.session), Bool.or_false] at move
  by_cases off : lessEq other settings.interval (.int 0) = true
  · rw [if_pos off] at move ⊢
    obtain rfl := Option.some.inj move
    exact ⟨rfl, rfl, rfl⟩
  · rw [if_neg off] at move ⊢
    obtain ⟨_, same⟩ := Option.ite_none_right_eq_some.mp move
    obtain rfl := Option.some.inj same
    exact ⟨rfl, rfl, rfl⟩

theorem openDone_live (sid : Int) (settings : Keepalive) (timeoutId intervalId : Int) (w next : World) (good : Good w)
    (shown : w.page.disposed = false) (awaited : w.page.openToken ∈ w.opens) (positive : 0 < sid)
    (fresh : sid ∉ acquired w.ledger)
    (move : openDone (lessEq other) w.page.openToken sid settings timeoutId intervalId { w with
      opens := w.opens.erase w.page.openToken
      ledger := if sid > 0 then .acquire sid :: w.ledger else w.ledger } = some next) :
    w.intervals = [] ∧ released w.ledger ⊆ released next.ledger ∧ next.page.keepaliveFailures = 0 ∧
      next.intervals = if lessEq other settings.interval (.int 0) then [] else [intervalId] := by
  have idle : Idle w := good.phase.resolve_right fun connected => (good.present connected.session).2 awaited
  unfold openDone at move
  rw [if_neg (by simp [shown])] at move
  simp only [gt_iff_lt, if_pos positive] at move
  obtain ⟨polled, polls, keeps⟩ := Option.bind_eq_some_iff.mp move
  have opened := balanced_acquire w.ledger [] sid idle.balanced fresh
  have starts := fun obtained => startPolling_some timeoutId _ polled obtained polls
  obtain ⟨connected, _⟩ := starts
    ⟨positive, idle.polling, shown, idle.timeouts, .inl ⟨idle.keepaliveTimer, idle.intervals⟩, opened⟩
  obtain ⟨ledger, zero, set⟩ := startKeepalive_timer other settings intervalId polled next connected keeps
  exact ⟨idle.intervals, ledger ▸ (startPolling_steady timeoutId _ polled polls).gone, zero, set⟩

theorem openDone_simulates (token : Nat) (sid : Int) (settings : Keepalive) (timeoutId intervalId : Int) (w next : World)
    (good : Good w) (awaited : token ∈ w.opens) (fresh : 0 < sid → sid ∉ acquired w.ledger)
    (move : openDone (lessEq other) token sid settings timeoutId intervalId { w with
      opens := w.opens.erase token
      ledger := if sid > 0 then .acquire sid :: w.ledger else w.ledger } = some next) :
    Heartbeat.Step (reached other) (heart (timer w)) (heart (timer next)) (opening intervalId (timer w) (timer next)) ∧
      released w.ledger ⊆ released next.ledger := by
  have still := fun steady : Steady (timer w) (timer next) => And.intro (steady_opening other intervalId _ _ steady) steady.gone
  by_cases late : (w.page.disposed || token != w.page.openToken) = true
  · unfold openDone at move
    rw [if_pos late] at move
    obtain rfl := Option.some.inj move
    refine still ?_
    by_cases positive : sid > 0
    · rw [if_pos positive, if_pos positive]
      exact ⟨rfl, rfl, rfl, List.subset_cons_self _ _⟩
    · rw [if_neg positive, if_neg positive]
      exact steady_refl _
  · have stays := late
    simp only [Bool.or_eq_true, bne_iff_ne, ne_eq, not_or, Bool.not_eq_true, Classical.not_not] at stays
    obtain ⟨shown, rfl⟩ := stays
    by_cases positive : sid > 0
    · obtain ⟨idle, gone, zero, set⟩ :=
        openDone_live other sid settings timeoutId intervalId w next good shown awaited positive (fresh positive) move
      refine ⟨opening_started other intervalId (timer w) (timer next) idle ?_, gone⟩
      split at set
      · exact .inl set
      · exact .inr ⟨set, zero⟩
    · unfold openDone at move
      rw [if_neg late] at move
      simp only [if_neg positive] at move
      obtain rfl := Option.some.inj move
      exact still (steady_refl _)

theorem keepaliveTick_ticked (ok : Bool) (settings : Keepalive) (w : World) (good : Good w) (pending : w.intervals ≠ []) :
    Ticked other (timer w) (timer (keepaliveTick (lessEq other) (less other) ok settings w)) ok settings.attempts := by
  obtain ⟨connected, _⟩ := connected_unclosed w good pending
  have present := (good.present connected.session).1
  unfold keepaliveTick
  rw [if_neg (by simp [present, connected.session])]
  dsimp only
  rw [attempts_reached other settings.attempts (w.page.keepaliveFailures + 1) (Nat.succ_pos _)]
  cases ok with
  | true => exact .answered rfl rfl
  | false =>
      rw [if_neg Bool.false_ne_true]
      by_cases enough : reached other settings.attempts (w.page.keepaliveFailures + 1) = true
      · rw [if_pos enough]
        have lost := connected_shown _ (w.page.lines ++ [js "SSH 保活失败，连接已断开"]) w.page.cmd
          (w.page.keepaliveFailures + 1) (connected_use w connected)
        refine .dropped rfl enough (closeCurrentSession_idle _ (.inr lost)).1.intervals ?_
        exact (closeCurrentSession_ledger _).trans (if_pos connected.session)
      · rw [if_neg enough]
        exact .missed rfl (Bool.not_eq_true _ |>.mp enough) rfl

theorem keepaliveTick_simulates (ok : Bool) (settings : Keepalive) (w : World) (good : Good w) (pending : w.intervals ≠ []) :
    let next := keepaliveTick (lessEq other) (less other) ok settings w
    Heartbeat.Step (reached other) (heart (timer w)) (heart (timer next))
        (ticking ok settings.attempts (timer w) (timer next)) ∧
      OneBeat (ticking ok settings.attempts (timer w) (timer next)) ok settings.attempts (timer w) (timer next) :=
  ticked_simulates other ok settings.attempts (timer w) _ pending (connected_unclosed w good pending).2
    (keepaliveTick_ticked other ok settings w good pending)

theorem step_simulates (w : World) (event : Event) (next : World) (good : Good w) (after : Good next)
    (move : step (lessEq other) (less other) w event = some next) :
    Heartbeat.Step (reached other) (heart (timer w)) (heart (timer next)) (beats w event next) ∧
      Closing (heart (timer w)) (heart (timer next)) := by
  suffices kept : Heartbeat.Step (reached other) (heart (timer w)) (heart (timer next)) (beats w event next) ∧
      released w.ledger ⊆ released next.ledger from
    ⟨kept.1, closing_gone _ _ kept.2 fun pending => (connected_unclosed next after pending).2⟩
  have still := fun steady : Steady (timer w) (timer next) => And.intro (steady_quiet other _ _ steady) steady.gone
  cases event with
  | aboutToAppear currentDraft =>
      obtain rfl := Option.some.inj move
      have begun := phase_frame w { w with page := { w.page with disposed := false } }
        ⟨rfl, rfl, rfl, rfl, rfl, rfl, rfl⟩ good.phase fun _ balanced => balanced
      obtain ⟨stopped, gone⟩ := openDraft_stops currentDraft _ begun
      exact ⟨stopped_quiet other (timer w) _ stopped, gone⟩
  | openDraft currentDraft =>
      obtain rfl := Option.some.inj move
      obtain ⟨stopped, gone⟩ := openDraft_stops currentDraft w good.phase
      exact ⟨stopped_quiet other (timer w) _ stopped, gone⟩
  | openDone token sid settings timeoutId intervalId =>
      obtain ⟨enabled, opened⟩ := Option.ite_none_right_eq_some.mp move
      simp only [Bool.and_eq_true, Bool.or_eq_true, decide_eq_true_eq, Bool.not_eq_true', List.contains_eq_mem,
        decide_eq_false_iff_not] at enabled
      refine openDone_simulates other token sid settings timeoutId intervalId w next good enabled.1 ?_ opened
      exact fun positive => enabled.2.resolve_left (Int.not_le.mpr positive)
  | pollTick id chunk timeoutId =>
      obtain ⟨fired, _, ticked⟩ := Option.bind_eq_some_iff.mp move
      obtain ⟨session, failures, intervals, gone⟩ := pollTick_steady fired.2 chunk timeoutId _ next ticked
      exact still ⟨session, failures, intervals, gone⟩
  | keepaliveTick id ok settings =>
      obtain ⟨pending, same⟩ := Option.ite_none_right_eq_some.mp move
      obtain rfl := Option.some.inj same
      obtain ⟨stepped, beat⟩ := keepaliveTick_simulates other ok settings w good fun none => by simp [none] at pending
      exact ⟨stepped, oneBeat_gone _ ok settings.attempts (timer w) _ beat⟩
  | input text =>
      obtain rfl := Option.some.inj move
      exact still (steady_refl _)
  | run =>
      obtain rfl := Option.some.inj move
      exact still (run_steady w)
  | aboutToDisappear =>
      obtain rfl := Option.some.inj move
      have left := phase_frame w { w with page := { w.page with disposed := true, openToken := w.page.openToken + 1 } }
        ⟨rfl, rfl, rfl, rfl, rfl, rfl, rfl⟩ good.phase fun _ balanced => balanced
      have gone := closeCurrentSession_gone
        { w with page := { w.page with disposed := true, openToken := w.page.openToken + 1 } }
      exact ⟨stopped_quiet other (timer w) _ (closeCurrentSession_idle _ left).1.intervals, gone⟩

end Kessh.Terminal

namespace Kessh.ArkTS.SFTPPage

open Ecma Ledger Labelled Heartbeat KeepaliveTimers

def timer (w : World) : Timer where
  sessionId := w.page.sessionId
  keepaliveFailures := w.page.keepaliveFailures
  intervals := w.intervals
  ledger := w.ledger

def beats (before : World) (event : Event) (after : World) : List (Beat Int JsNumber) :=
  match event with
  | .openDone _ _ _ intervalId _ => opening intervalId (timer before) (timer after)
  | .keepaliveTick _ ok settings => ticking ok settings.attempts (timer before) (timer after)
  | _ => []

theorem closeCurrentSession_ledger (w : World) : (closeCurrentSession w).ledger =
    if w.page.sessionId > 0 then .release w.page.sessionId :: w.ledger else w.ledger := by
  have stopped : (stopKeepalive w).ledger = w.ledger ∧ (stopKeepalive w).page.sessionId = w.page.sessionId := by
    unfold stopKeepalive
    dsimp only
    split <;> exact ⟨rfl, rfl⟩
  unfold closeCurrentSession
  dsimp only
  rw [stopped.2]
  split
  · rw [closeSession, stopped.1]
  · exact stopped.1

theorem closeCurrentSession_stops (w : World) (ticking : Ticking w) (balanced : Balanced w.ledger (owners w.page.sessionId)) :
    (closeCurrentSession w).intervals = [] ∧ released w.ledger ⊆ released (closeCurrentSession w).ledger := by
  obtain ⟨_, _, _, _, _, _, same⟩ := closeCurrentSession_fields w ticking balanced
  refine ⟨congrArg World.intervals same, ?_⟩
  rw [closeCurrentSession_ledger]
  split
  · exact List.subset_cons_self _ _
  · exact List.Subset.refl _

theorem ticking_unclosed (w : World) (good : Good w) (pending : w.intervals ≠ []) :
    0 < w.page.sessionId ∧ w.page.sessionId ∉ released w.ledger := by
  obtain ⟨_, _, session⟩ := good.ticking.resolve_left fun idle => pending idle.2
  refine ⟨session, balanced_owned_not_released _ _ good.balanced _ ?_⟩
  rw [owners_some _ session]
  exact List.mem_cons_self

variable (localeCompare : JsString → JsString → Int) (other : JsString → Option Value)

theorem listFiles_steady (path output : JsString) (w : World) :
    Steady (timer w) (timer (listFiles localeCompare path output w)) := by
  unfold listFiles
  split
  · exact steady_refl _
  · dsimp only
    split
    · exact steady_refl _
    · exact ⟨rfl, rfl, rfl, List.Subset.refl _⟩

theorem navigate_steady (file : SFTPFile) (output : JsString) (w : World) :
    Steady (timer w) (timer (navigate localeCompare file output w)) := by
  unfold navigate
  split
  · exact steady_refl _
  · exact listFiles_steady localeCompare _ output w

theorem startKeepalive_timer (settings : Terminal.Keepalive) (intervalId : Int) (w next : World) (ticking : Ticking w)
    (move : startKeepalive (lessEq other) settings intervalId w = some next) :
    next.ledger = w.ledger ∧ (next.intervals = [] ∨ next.intervals = [intervalId] ∧ next.page.keepaliveFailures = 0) := by
  obtain ⟨keepaliveTimerId, off, stopped⟩ := stopKeepalive_fields w ticking
  unfold startKeepalive at move
  rw [stopped] at move
  dsimp only at move
  split at move
  · obtain rfl := Option.some.inj move
    exact ⟨rfl, .inl rfl⟩
  · obtain ⟨_, same⟩ := Option.ite_none_right_eq_some.mp move
    obtain rfl := Option.some.inj same
    exact ⟨rfl, .inr ⟨rfl, rfl⟩⟩

theorem openDone_simulates (token : Nat) (sid : Int) (settings : Terminal.Keepalive) (intervalId : Int) (output : JsString)
    (w next : World) (good : Good w) (awaited : token ∈ w.opens)
    (move : openDone localeCompare (lessEq other) token sid settings intervalId output { w with
      opens := w.opens.erase token
      ledger := if sid > 0 then .acquire sid :: w.ledger else w.ledger } = some next) :
    Heartbeat.Step (reached other) (heart (timer w)) (heart (timer next)) (opening intervalId (timer w) (timer next)) ∧
      released w.ledger ⊆ released next.ledger := by
  have still := fun steady : Steady (timer w) (timer next) => And.intro (steady_opening other intervalId _ _ steady) steady.gone
  unfold openDone at move
  by_cases late : (w.page.disposed || token != w.page.connectToken) = true
  · rw [if_pos late] at move
    obtain rfl := Option.some.inj move
    refine still ?_
    by_cases positive : sid > 0
    · rw [if_pos positive, if_pos positive]
      exact ⟨rfl, rfl, rfl, List.subset_cons_self _ _⟩
    · rw [if_neg positive, if_neg positive]
      exact steady_refl _
  · rw [if_neg late] at move
    simp only [Bool.or_eq_true, bne_iff_ne, ne_eq, not_or, Bool.not_eq_true, Classical.not_not] at late
    obtain ⟨there, rfl⟩ := late
    have unset := good.ticking.resolve_right fun tick => (good.present tick.2.2).2 awaited
    dsimp only at move
    by_cases positive : sid > 0
    · rw [if_pos positive, if_pos positive] at move
      obtain ⟨kept, keeps, rfl⟩ := Option.map_eq_some_iff.mp move
      obtain ⟨_, failures, intervals, gone⟩ := listFiles_steady localeCompare (js "/") output kept
      have starts := fun ticking => startKeepalive_timer other settings intervalId _ kept ticking keeps
      obtain ⟨ledger, set⟩ := starts (.inl unset)
      have opened : released w.ledger ⊆ released kept.ledger := ledger ▸ List.Subset.refl _
      refine ⟨opening_started other intervalId (timer w) _ unset.2 ?_, fun _ member => gone (opened member)⟩
      rw [intervals, failures]
      exact set
    · rw [if_neg positive, if_neg positive] at move
      obtain rfl := Option.some.inj move
      exact still (steady_refl _)

theorem keepaliveTick_ticked (ok : Bool) (settings : Terminal.Keepalive) (w : World) (good : Good w)
    (pending : w.intervals ≠ []) :
    Ticked other (timer w) (timer (keepaliveTick (lessEq other) (less other) ok settings w)) ok settings.attempts := by
  obtain ⟨session, _⟩ := ticking_unclosed w good pending
  have used := good_use w good session
  unfold keepaliveTick
  rw [if_neg (by simp [(good.present session).1, session])]
  dsimp only
  rw [attempts_reached other settings.attempts (w.page.keepaliveFailures + 1) (Nat.succ_pos _)]
  cases ok with
  | true => exact .answered rfl rfl
  | false =>
      rw [if_neg Bool.false_ne_true]
      by_cases enough : reached other settings.attempts (w.page.keepaliveFailures + 1) = true
      · rw [if_pos enough]
        have stops := closeCurrentSession_stops { w with
          page := { w.page with
            keepaliveFailures := w.page.keepaliveFailures + 1, status := js "SSH 保活失败，连接已断开" }
          ledger := .use w.page.sessionId :: w.ledger } used.ticking used.balanced
        exact .dropped rfl enough stops.1 ((closeCurrentSession_ledger _).trans (if_pos session))
      · rw [if_neg enough]
        exact .missed rfl (Bool.not_eq_true _ |>.mp enough) rfl

theorem keepaliveTick_simulates (ok : Bool) (settings : Terminal.Keepalive) (w : World) (good : Good w)
    (pending : w.intervals ≠ []) :
    let next := keepaliveTick (lessEq other) (less other) ok settings w
    Heartbeat.Step (reached other) (heart (timer w)) (heart (timer next))
        (ticking ok settings.attempts (timer w) (timer next)) ∧
      OneBeat (ticking ok settings.attempts (timer w) (timer next)) ok settings.attempts (timer w) (timer next) :=
  ticked_simulates other ok settings.attempts (timer w) _ pending (ticking_unclosed w good pending).2
    (keepaliveTick_ticked other ok settings w good pending)

theorem connect_stops (item : ConnectionRecord) (password : Option JsString) (w : World) (good : Good w) :
    Steady (timer w) (timer (connect item password w)) ∨
      (connect item password w).intervals = [] ∧ released w.ledger ⊆ released (connect item password w).ledger := by
  unfold connect
  split
  · exact .inl (steady_refl _)
  split
  · exact .inl (steady_refl _)
  split
  · exact .inl (steady_refl _)
  · exact .inr (closeCurrentSession_stops { w with page := { w.page with connectToken := w.page.connectToken + 1 } }
      good.ticking good.balanced)

theorem step_simulates (w : World) (event : Event) (next : World) (good : Good w) (after : Good next)
    (move : step localeCompare (lessEq other) (less other) w event = some next) :
    Heartbeat.Step (reached other) (heart (timer w)) (heart (timer next)) (beats w event next) ∧
      Closing (heart (timer w)) (heart (timer next)) := by
  suffices kept : Heartbeat.Step (reached other) (heart (timer w)) (heart (timer next)) (beats w event next) ∧
      released w.ledger ⊆ released next.ledger from
    ⟨kept.1, closing_gone _ _ kept.2 fun pending => (ticking_unclosed next after pending).2⟩
  have still := fun steady : Steady (timer w) (timer next) => And.intro (steady_quiet other _ _ steady) steady.gone
  cases event with
  | connect item password =>
      obtain ⟨_, same⟩ := Option.ite_none_left_eq_some.mp move
      obtain rfl := Option.some.inj same
      rcases connect_stops item password w good with steady | ⟨stopped, gone⟩
      · exact still steady
      · exact ⟨stopped_quiet other (timer w) _ stopped, gone⟩
  | openDone token sid settings intervalId output =>
      obtain ⟨enabled, opened⟩ := Option.ite_none_right_eq_some.mp move
      simp only [Bool.and_eq_true, List.contains_eq_mem, decide_eq_true_eq] at enabled
      exact openDone_simulates localeCompare other token sid settings intervalId output w next good enabled.1 opened
  | keepaliveTick id ok settings =>
      obtain ⟨pending, same⟩ := Option.ite_none_right_eq_some.mp move
      obtain rfl := Option.some.inj same
      obtain ⟨stepped, beat⟩ := keepaliveTick_simulates other ok settings w good fun none => by simp [none] at pending
      exact ⟨stepped, oneBeat_gone _ ok settings.attempts (timer w) _ beat⟩
  | navigate file output =>
      obtain ⟨_, same⟩ := Option.ite_none_left_eq_some.mp move
      obtain rfl := Option.some.inj same
      exact still (navigate_steady localeCompare file output w)
  | aboutToDisappear =>
      obtain ⟨_, same⟩ := Option.ite_none_left_eq_some.mp move
      obtain rfl := Option.some.inj same
      obtain ⟨stopped, gone⟩ := closeCurrentSession_stops
        { w with page := { w.page with disposed := true, connectToken := w.page.connectToken + 1 } } good.ticking good.balanced
      exact ⟨stopped_quiet other (timer w) _ stopped, gone⟩

end Kessh.ArkTS.SFTPPage

namespace Kessh.KeepaliveTimers

open Ecma Labelled Heartbeat

/-- On both pages a session is closed by its timer at exactly those failed ticks at which the failures in a row
reach max(attempts, 1), and no keepalive is sent on it afterwards. Each tick sends one keepalive and closes
no session but the one it was sent on. -/
theorem keepalive_disconnects (other : JsString → Option Value) (localeCompare : JsString → JsString → Int) :
    (∀ events w, Run (Moves (Terminal.step (lessEq other) (less other))) {} events w →
      Law (reached other) (emitted (Terminal.step (lessEq other) (less other)) Terminal.beats {} events) ∧
      ∀ id ok settings next, Terminal.step (lessEq other) (less other) w (.keepaliveTick id ok settings) = some next →
        OneBeat (Terminal.beats w (.keepaliveTick id ok settings) next) ok settings.attempts (Terminal.timer w)
          (Terminal.timer next)) ∧
    ∀ events w, Run (Moves (ArkTS.SFTPPage.step localeCompare (lessEq other) (less other))) {} events w →
      Law (reached other)
        (emitted (ArkTS.SFTPPage.step localeCompare (lessEq other) (less other)) ArkTS.SFTPPage.beats {} events) ∧
      ∀ id ok settings next,
        ArkTS.SFTPPage.step localeCompare (lessEq other) (less other) w (.keepaliveTick id ok settings) = some next →
        OneBeat (ArkTS.SFTPPage.beats w (.keepaliveTick id ok settings) next) ok settings.attempts
          (ArkTS.SFTPPage.timer w) (ArkTS.SFTPPage.timer next) := by
  constructor
  · intro events w run
    have preserved := fun before event after good move =>
      Terminal.step_good (lessEq other) (less other) before event after good move
    refine ⟨law_run (reached other) _ Terminal.beats (fun w => heart (Terminal.timer w)) Terminal.Good {}
      Terminal.initial_good rfl preserved (Terminal.step_simulates other) events w run, fun id ok settings next move => ?_⟩
    have good := run_invariant _ Terminal.Good preserved {} events w Terminal.initial_good run
    obtain ⟨pending, same⟩ := Option.ite_none_right_eq_some.mp move
    obtain rfl := Option.some.inj same
    exact (Terminal.keepaliveTick_simulates other ok settings w good fun none => by simp [none] at pending).2
  · intro events w run
    have preserved := fun before event after good move =>
      ArkTS.SFTPPage.step_good localeCompare (lessEq other) (less other) before event after good move
    refine ⟨law_run (reached other) _ ArkTS.SFTPPage.beats (fun w => heart (ArkTS.SFTPPage.timer w)) ArkTS.SFTPPage.Good {}
      ArkTS.SFTPPage.initial_good rfl preserved (ArkTS.SFTPPage.step_simulates localeCompare other) events w run,
      fun id ok settings next move => ?_⟩
    have good := run_invariant _ ArkTS.SFTPPage.Good preserved {} events w ArkTS.SFTPPage.initial_good run
    obtain ⟨pending, same⟩ := Option.ite_none_right_eq_some.mp move
    obtain rfl := Option.some.inj same
    exact (ArkTS.SFTPPage.keepaliveTick_simulates other ok settings w good fun none => by simp [none] at pending).2

-- The first keepalive fails, and one attempt is all there is.
def failing : List Terminal.Event :=
  let settings : Terminal.Keepalive := { interval := .int 60, attempts := .int 1 }
  let draft : ConnectionDraft := { host := js "a", port := .text (js "22"), username := js "u", password := some (js "p") }
  [.aboutToAppear (some draft), .openDone 1 7 settings 1 2, .keepaliveTick 2 false settings]

theorem keepalive_disconnects_failing :
    ∃ w, Run (Moves (Terminal.step (lessEq fun _ => none) (less fun _ => none))) {} failing w ∧
      w.ledger = [.release 7, .use 7, .acquire 7] ∧
      Law (reached fun _ => none)
        (emitted (Terminal.step (lessEq fun _ => none) (less fun _ => none)) Terminal.beats {} failing) := by
  have run := moves_run (Terminal.step (lessEq fun _ => none) (less fun _ => none)) {} _ failing rfl
  exact ⟨_, run, rfl, ((keepalive_disconnects (fun _ => none) fun _ _ => 0).1 failing _ run).1⟩

end Kessh.KeepaliveTimers
