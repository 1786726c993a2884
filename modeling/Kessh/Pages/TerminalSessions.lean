import Kessh.Pages.Terminal

set_option autoImplicit false

namespace Kessh.Terminal

open Ecma Ledger Labelled

structure Idle (w : World) : Prop where
  session : w.page.sessionId ≤ 0
  polling : w.page.polling = false
  timer : w.page.timerId ≤ 0
  timeouts : w.timeouts = []
  keepaliveTimer : w.page.keepaliveTimerId ≤ 0
  intervals : w.intervals = []
  balanced : Balanced w.ledger []

def KeepaliveMatches (w : World) : Prop :=
  w.page.keepaliveTimerId ≤ 0 ∧ w.intervals = [] ∨
    0 < w.page.keepaliveTimerId ∧ w.intervals = [w.page.keepaliveTimerId]

-- One session, polled by the one pending timeout.
structure Connected (w : World) : Prop where
  session : 0 < w.page.sessionId
  polling : w.page.polling = true
  timer : 0 < w.page.timerId
  timeouts : w.timeouts = [(w.page.timerId, w.page.pollToken)]
  keepalive : KeepaliveMatches w
  balanced : Balanced w.ledger [w.page.sessionId]

-- The page that shows a session is there, and it awaits no open that could bring another.
structure Good (w : World) : Prop where
  phase : Idle w ∨ Connected w
  present : 0 < w.page.sessionId → w.page.disposed = false ∧ w.page.openToken ∉ w.opens
  issued : ∀ token ∈ w.opens, token ≤ w.page.openToken
  distinct : w.opens.Nodup

structure SamePhase (w next : World) : Prop where
  session : next.page.sessionId = w.page.sessionId
  polling : next.page.polling = w.page.polling
  timer : next.page.timerId = w.page.timerId
  keepaliveTimer : next.page.keepaliveTimerId = w.page.keepaliveTimerId
  token : next.page.pollToken = w.page.pollToken
  timeouts : next.timeouts = w.timeouts
  intervals : next.intervals = w.intervals

theorem idle_frame (w next : World) (same : SamePhase w next) (idle : Idle w)
    (balanced : Balanced w.ledger [] → Balanced next.ledger []) : Idle next :=
  ⟨same.session ▸ idle.session, same.polling ▸ idle.polling, same.timer ▸ idle.timer, same.timeouts ▸ idle.timeouts,
    same.keepaliveTimer ▸ idle.keepaliveTimer, same.intervals ▸ idle.intervals, balanced idle.balanced⟩

theorem connected_frame (w next : World) (same : SamePhase w next) (connected : Connected w)
    (balanced : Balanced w.ledger [w.page.sessionId] → Balanced next.ledger [w.page.sessionId]) : Connected next where
  session := same.session ▸ connected.session
  polling := same.polling ▸ connected.polling
  timer := same.timer ▸ connected.timer
  timeouts := by rw [same.timeouts, same.timer, same.token, connected.timeouts]
  keepalive := by
    unfold KeepaliveMatches
    rw [same.keepaliveTimer, same.intervals]
    exact connected.keepalive
  balanced := by
    rw [same.session]
    exact balanced connected.balanced

theorem phase_frame (w next : World) (same : SamePhase w next) (phase : Idle w ∨ Connected w)
    (balanced : ∀ owners, Balanced w.ledger owners → Balanced next.ledger owners) : Idle next ∨ Connected next := by
  rcases phase with idle | connected
  · exact .inl (idle_frame w next same idle (balanced []))
  · exact .inr (connected_frame w next same connected (balanced _))

theorem initial_good : Good {} :=
  ⟨.inl ⟨by decide, rfl, by decide, rfl, by decide, rfl, balanced_nil⟩, fun session => absurd session (by decide),
    fun _ member => absurd member (by simp), .nil⟩

theorem stopKeepalive_matches (w : World) (keepalive : KeepaliveMatches w) :
    ∃ keepaliveTimerId ≤ 0, stopKeepalive w =
      { w with page := { w.page with keepaliveTimerId, keepaliveFailures := 0 }, intervals := [] } := by
  rcases keepalive with ⟨none, empty⟩ | ⟨some, pending⟩
  · refine ⟨w.page.keepaliveTimerId, none, ?_⟩
    simp [stopKeepalive, Int.not_lt.mpr none, empty]
  · refine ⟨-1, by decide, ?_⟩
    simp [stopKeepalive, some, clearInterval, pending]

theorem stopPolling_phase (w : World) (phase : Idle w ∨ Connected w) :
    ∃ timerId ≤ 0, stopPolling w = { w with
      page := { w.page with polling := false, pollToken := w.page.pollToken + 1, timerId }, timeouts := [] } := by
  rcases phase with idle | connected
  · refine ⟨w.page.timerId, idle.timer, ?_⟩
    simp [stopPolling, Int.not_lt.mpr idle.timer, idle.timeouts]
  · refine ⟨-1, by decide, ?_⟩
    simp [stopPolling, connected.timer, clearTimeout, connected.timeouts]

theorem phase_keepalive (w : World) (phase : Idle w ∨ Connected w) : KeepaliveMatches w := by
  rcases phase with idle | connected
  · exact .inl ⟨idle.keepaliveTimer, idle.intervals⟩
  · exact connected.keepalive

theorem closeCurrentSession_idle (w : World) (phase : Idle w ∨ Connected w) :
    Idle (closeCurrentSession w) ∧ (closeCurrentSession w).opens = w.opens ∧
      (closeCurrentSession w).page.openToken = w.page.openToken ∧
      (closeCurrentSession w).page.disposed = w.page.disposed := by
  obtain ⟨timerId, timerOff, polled⟩ := stopPolling_phase w phase
  obtain ⟨keepaliveTimerId, keepaliveOff, kept⟩ :=
    stopKeepalive_matches (stopPolling w) (by rw [polled]; exact phase_keepalive w phase)
  rw [polled] at kept
  rcases phase with idle | connected
  · simp only [closeCurrentSession, polled, kept, gt_iff_lt, Int.not_lt.mpr idle.session, if_false]
    refine ⟨⟨idle.session, rfl, timerOff, rfl, keepaliveOff, rfl, idle.balanced⟩, ?_, ?_, ?_⟩ <;> trivial
  · have released := balanced_release w.ledger [w.page.sessionId] w.page.sessionId connected.balanced (by simp)
    rw [List.erase_cons_head] at released
    simp only [closeCurrentSession, polled, kept, gt_iff_lt, connected.session, if_true]
    refine ⟨⟨(by simp), rfl, timerOff, rfl, keepaliveOff, rfl, released⟩, ?_, ?_, ?_⟩ <;> trivial

theorem closeCurrentSession_good (w : World) (phase : Idle w ∨ Connected w)
    (issued : ∀ token ∈ w.opens, token ≤ w.page.openToken) (distinct : w.opens.Nodup) :
    Good (closeCurrentSession w) := by
  obtain ⟨idle, opens, token, _⟩ := closeCurrentSession_idle w phase
  refine ⟨.inl idle, fun session => absurd session (Int.not_lt.mpr idle.session), ?_, ?_⟩
  · rw [opens, token]
    exact issued
  · rw [opens]
    exact distinct

theorem openDraft_good (currentDraft : Option ConnectionDraft) (w : World) (good : Good w) :
    Good (openDraft currentDraft w) := by
  have phase := phase_frame w { w with page := { w.page with openToken := w.page.openToken + 1 } }
    ⟨rfl, rfl, rfl, rfl, rfl, rfl, rfl⟩ good.phase fun _ balanced => balanced
  obtain ⟨idle, opens, token, _⟩ := closeCurrentSession_idle _ phase
  unfold openDraft
  dsimp only
  generalize closeCurrentSession { w with page := { w.page with openToken := w.page.openToken + 1 } } = closed at *
  have known : ∀ held ∈ closed.opens, held ≤ w.page.openToken := opens ▸ good.issued
  have issued : ∀ held ∈ closed.opens, held ≤ closed.page.openToken := fun held member =>
    token ▸ Nat.le_succ_of_le (known held member)
  have distinct : closed.opens.Nodup := opens ▸ good.distinct
  have gone : ¬ 0 < closed.page.sessionId := Int.not_lt.mpr idle.session
  have shown : ∀ lines opens, Idle { closed with page := { closed.page with lines }, opens } := fun _ _ =>
    idle_frame closed _ ⟨rfl, rfl, rfl, rfl, rfl, rfl, rfl⟩ idle id
  cases currentDraft with
  | none => exact ⟨.inl (shown _ _), fun session => absurd session gone, issued, distinct⟩
  | some draft =>
      dsimp only
      cases prepared draft with
      | error problem => exact ⟨.inl idle, fun session => absurd session gone, issued, distinct⟩
      | ok outcome =>
          obtain ⟨lines, opening⟩ := outcome
          cases opening with
          | false => exact ⟨.inl (shown lines _), fun session => absurd session gone, issued, distinct⟩
          | true =>
              refine ⟨.inl (shown lines _), fun session => absurd session gone, ?_, ?_⟩
              · intro held member
                rcases List.mem_cons.mp member with rfl | old
                · exact Nat.le_of_eq token.symm
                · exact issued held old
              · refine List.nodup_cons.mpr ⟨fun member => ?_, distinct⟩
                have bound := known _ member
                omega

theorem aboutToDisappear_good (w : World) (good : Good w) : Good (aboutToDisappear w) := by
  have phase := phase_frame w { w with page := { w.page with disposed := true, openToken := w.page.openToken + 1 } }
    ⟨rfl, rfl, rfl, rfl, rfl, rfl, rfl⟩ good.phase fun _ balanced => balanced
  exact closeCurrentSession_good _ phase (fun token member => Nat.le_succ_of_le (good.issued token member)) good.distinct

theorem connected_use (w : World) (connected : Connected w) :
    Connected { w with ledger := .use w.page.sessionId :: w.ledger } :=
  connected_frame w _ ⟨rfl, rfl, rfl, rfl, rfl, rfl, rfl⟩ connected fun balanced =>
    balanced_use w.ledger _ _ balanced (by simp)

theorem connected_of_session (w : World) (phase : Idle w ∨ Connected w) (session : 0 < w.page.sessionId) :
    Connected w := phase.resolve_left fun idle => absurd session (Int.not_lt.mpr idle.session)

theorem connected_shown (w : World) (lines : List JsString) (cmd : JsString) (keepaliveFailures : Nat)
    (connected : Connected w) : Connected { w with page := { w.page with lines, cmd, keepaliveFailures } } :=
  connected_frame w _ ⟨rfl, rfl, rfl, rfl, rfl, rfl, rfl⟩ connected id

theorem run_good (w : World) (good : Good w) : Good (run w) := by
  unfold run
  split
  · exact good
  · split
    · exact good
    · rename_i _ session
      have connected := connected_of_session w good.phase (by omega)
      have typed := connected_shown w (w.page.lines ++ [js "$ " ++ w.page.cmd]) [] w.page.keepaliveFailures connected
      exact ⟨.inr (connected_use _ typed), good.present, good.issued, good.distinct⟩

variable (lessEq less : JsNumber → JsNumber → Bool)

theorem keepaliveTick_good (ok : Bool) (settings : Keepalive) (w : World) (good : Good w)
    (pending : w.intervals ≠ []) : Good (keepaliveTick lessEq less ok settings w) := by
  have connected : Connected w := good.phase.resolve_left fun idle => pending idle.intervals
  have present := (good.present connected.session).1
  have used := connected_use w connected
  unfold keepaliveTick
  rw [if_neg (by simp [present, connected.session])]
  cases ok with
  | true => exact ⟨.inr (connected_shown _ w.page.lines w.page.cmd 0 used), good.present, good.issued, good.distinct⟩
  | false =>
      dsimp only
      rw [if_neg Bool.false_ne_true]
      generalize (if less (.int 0) settings.attempts then settings.attempts else .int 1) = maxAttempts
      split
      · have lost := connected_shown _ (w.page.lines ++ [js "SSH 保活失败，连接已断开"]) w.page.cmd
          (w.page.keepaliveFailures + 1) used
        exact closeCurrentSession_good _ (.inr lost) good.issued good.distinct
      · exact ⟨.inr (connected_shown _ w.page.lines w.page.cmd (w.page.keepaliveFailures + 1) used), good.present,
          good.issued, good.distinct⟩

theorem schedulePoll_some (timeoutId : Int) (w next : World) (polling : w.page.polling = true)
    (present : w.page.disposed = false) (none : w.timeouts = [])
    (move : schedulePoll w.page.pollToken timeoutId w = some next) :
    0 < timeoutId ∧ next = { w with
      page := { w.page with timerId := timeoutId }, timeouts := [(timeoutId, w.page.pollToken)] } := by
  unfold schedulePoll at move
  rw [if_neg (by simp [polling, present])] at move
  by_cases stale : w.page.timerId > 0
  · simp only [if_pos stale, clearTimeout, none, List.filter_nil] at move
    split at move
    · rename_i fresh
      obtain rfl := Option.some.inj move
      simp only [freshTimer, Bool.and_eq_true, decide_eq_true_eq] at fresh
      exact ⟨fresh.1.1, rfl⟩
    · exact absurd move (by simp)
  · simp only [if_neg stale] at move
    split at move
    · rename_i fresh
      obtain rfl := Option.some.inj move
      simp only [freshTimer, Bool.and_eq_true, decide_eq_true_eq] at fresh
      exact ⟨fresh.1.1, by rw [none]⟩
    · exact absurd move (by simp)

theorem pollTick_good (w next : World) (fired : Int × Nat) (chunk : JsString) (timeoutId : Int) (good : Good w)
    (pending : fired ∈ w.timeouts)
    (move : pollTick fired.2 chunk timeoutId { w with timeouts := w.timeouts.erase fired } = some next) :
    Good next := by
  have connected : Connected w := good.phase.resolve_left fun idle => by simp [idle.timeouts] at pending
  have present := (good.present connected.session).1
  rw [connected.timeouts, List.mem_singleton] at pending
  subst pending
  rw [connected.timeouts, List.erase_cons_head] at move
  have used := balanced_use w.ledger _ w.page.sessionId connected.balanced (by simp)
  have scheduled : ∀ lines, schedulePoll w.page.pollToken timeoutId
      { w with page := { w.page with lines }, timeouts := [], ledger := .use w.page.sessionId :: w.ledger } =
        some next → Good next := by
    intro lines moved
    obtain ⟨positive, rfl⟩ := schedulePoll_some timeoutId
      { w with page := { w.page with lines }, timeouts := [], ledger := .use w.page.sessionId :: w.ledger } next
      connected.polling present rfl moved
    exact ⟨.inr ⟨connected.session, connected.polling, positive, rfl, connected.keepalive, used⟩, good.present,
      good.issued, good.distinct⟩
  unfold pollTick at move
  rw [if_neg (by simp [connected.polling, present, connected.session])] at move
  dsimp only at move
  split at move
  · exact scheduled _ move
  · exact scheduled w.page.lines move

structure Obtained (w : World) : Prop where
  session : 0 < w.page.sessionId
  polling : w.page.polling = false
  present : w.page.disposed = false
  timeouts : w.timeouts = []
  keepalive : KeepaliveMatches w
  balanced : Balanced w.ledger [w.page.sessionId]

def SameOpens (w next : World) : Prop :=
  next.opens = w.opens ∧ next.page.openToken = w.page.openToken ∧ next.page.disposed = w.page.disposed

theorem startPolling_some (timeoutId : Int) (w next : World) (obtained : Obtained w)
    (move : startPolling timeoutId w = some next) : Connected next ∧ SameOpens w next := by
  unfold startPolling at move
  rw [if_neg (by simp [obtained.polling, obtained.present, obtained.session])] at move
  obtain ⟨fresh, rfl⟩ := schedulePoll_some timeoutId
    { w with page := { w.page with polling := true, pollToken := w.page.pollToken + 1 } } next rfl obtained.present
    obtained.timeouts move
  exact ⟨⟨obtained.session, rfl, fresh, rfl, obtained.keepalive, obtained.balanced⟩, rfl, rfl, rfl⟩

theorem startKeepalive_some (settings : Keepalive) (intervalId : Int) (w next : World) (connected : Connected w)
    (move : startKeepalive lessEq settings intervalId w = some next) : Connected next ∧ SameOpens w next := by
  obtain ⟨keepaliveTimerId, off, kept⟩ := stopKeepalive_matches w connected.keepalive
  unfold startKeepalive at move
  rw [kept] at move
  dsimp only at move
  split at move
  · obtain rfl := Option.some.inj move
    exact ⟨⟨connected.session, connected.polling, connected.timer, connected.timeouts, .inl ⟨off, rfl⟩,
      connected.balanced⟩, rfl, rfl, rfl⟩
  · split at move
    · rename_i fresh
      obtain rfl := Option.some.inj move
      simp only [freshTimer, Bool.and_eq_true, decide_eq_true_eq] at fresh
      exact ⟨⟨connected.session, connected.polling, connected.timer, connected.timeouts, .inr ⟨fresh.1.1, rfl⟩,
        connected.balanced⟩, rfl, rfl, rfl⟩
    · exact absurd move (by simp)

theorem balanced_returned (ledger : List (Entry Int)) (owners : List Int) (sid : Int) (balanced : Balanced ledger owners)
    (fresh : sid ∉ acquired ledger) : Balanced (.release sid :: .acquire sid :: ledger) owners := by
  have opened := balanced_acquire ledger owners sid balanced fresh
  have closed := balanced_release _ _ sid opened (by simp)
  rwa [List.erase_cons_head] at closed

theorem openDone_good (token : Nat) (sid : Int) (settings : Keepalive) (timeoutId intervalId : Int) (w next : World)
    (good : Good w) (awaited : token ∈ w.opens) (fresh : 0 < sid → sid ∉ acquired w.ledger)
    (move : openDone lessEq token sid settings timeoutId intervalId { w with
      opens := w.opens.erase token
      ledger := if sid > 0 then .acquire sid :: w.ledger else w.ledger } = some next) : Good next := by
  have issued : ∀ held ∈ w.opens.erase token, held ≤ w.page.openToken := fun held member =>
    good.issued held (List.mem_of_mem_erase member)
  have distinct := good.distinct.erase token
  have present : 0 < w.page.sessionId → w.page.disposed = false ∧ w.page.openToken ∉ w.opens.erase token :=
    fun session => ⟨(good.present session).1, fun member => (good.present session).2 (List.mem_of_mem_erase member)⟩
  unfold openDone at move
  by_cases late : (w.page.disposed || token != w.page.openToken) = true
  · rw [if_pos late] at move
    obtain rfl := Option.some.inj move
    by_cases positive : sid > 0
    · simp only [if_pos positive, termClose]
      exact ⟨phase_frame w _ ⟨rfl, rfl, rfl, rfl, rfl, rfl, rfl⟩ good.phase fun owners balanced =>
        balanced_returned w.ledger owners sid balanced (fresh positive), present, issued, distinct⟩
    · simp only [if_neg positive]
      exact ⟨phase_frame w _ ⟨rfl, rfl, rfl, rfl, rfl, rfl, rfl⟩ good.phase fun _ balanced => balanced, present, issued,
        distinct⟩
  · rw [if_neg late] at move
    simp only [Bool.or_eq_true, bne_iff_ne, ne_eq, not_or, Bool.not_eq_true, Classical.not_not] at late
    obtain ⟨shown, rfl⟩ := late
    have idle : Idle w := good.phase.resolve_right fun connected => (good.present connected.session).2 awaited
    by_cases positive : sid > 0
    · simp only [if_pos positive] at move
      obtain ⟨polled, polls, keeps⟩ := Option.bind_eq_some_iff.mp move
      have opened := balanced_acquire w.ledger [] sid idle.balanced (fresh positive)
      have starts := fun obtained => startPolling_some timeoutId _ polled obtained polls
      obtain ⟨connected, opens, current, there⟩ := starts
        ⟨positive, idle.polling, shown, idle.timeouts, .inl ⟨idle.keepaliveTimer, idle.intervals⟩, opened⟩
      obtain ⟨kept, sameOpens, sameToken, sameThere⟩ :=
        startKeepalive_some lessEq settings intervalId polled next connected keeps
      have opensNow : next.opens = w.opens.erase w.page.openToken := sameOpens.trans opens
      have tokenNow : next.page.openToken = w.page.openToken := sameToken.trans current
      refine ⟨.inr kept, fun _ => ⟨sameThere.trans (there.trans shown), ?_⟩, ?_, ?_⟩
      · rw [opensNow, tokenNow]
        exact good.distinct.not_mem_erase
      · rw [opensNow, tokenNow]
        exact issued
      · rw [opensNow]
        exact distinct
    · simp only [if_neg positive] at move
      obtain rfl := Option.some.inj move
      exact ⟨.inl (idle_frame w _ ⟨rfl, rfl, rfl, rfl, rfl, rfl, rfl⟩ idle id), present, issued, distinct⟩

theorem step_good (w : World) (event : Event) (next : World) (good : Good w)
    (move : Moves (step lessEq less) w event next) : Good next := by
  unfold Moves at move
  cases event with
  | aboutToAppear currentDraft =>
      obtain rfl := Option.some.inj move
      refine openDraft_good currentDraft _ ⟨?_, fun session => ⟨rfl, (good.present session).2⟩, good.issued, good.distinct⟩
      exact phase_frame w _ ⟨rfl, rfl, rfl, rfl, rfl, rfl, rfl⟩ good.phase fun _ balanced => balanced
  | openDraft currentDraft =>
      obtain rfl := Option.some.inj move
      exact openDraft_good currentDraft w good
  | openDone token sid settings timeoutId intervalId =>
      simp only [step] at move
      split at move
      · rename_i enabled
        simp only [Bool.and_eq_true, Bool.or_eq_true, decide_eq_true_eq, Bool.not_eq_true',
          List.contains_eq_mem, decide_eq_false_iff_not] at enabled
        refine openDone_good lessEq token sid settings timeoutId intervalId w next good enabled.1 (fun positive => ?_) move
        exact enabled.2.resolve_left (by omega)
      · exact absurd move (by simp)
  | pollTick id chunk timeoutId =>
      obtain ⟨fired, found, ticked⟩ := Option.bind_eq_some_iff.mp move
      exact pollTick_good w next fired chunk timeoutId good (List.mem_of_find?_eq_some found) ticked
  | keepaliveTick id ok settings =>
      simp only [step] at move
      split at move
      · rename_i pending
        obtain rfl := Option.some.inj move
        refine keepaliveTick_good lessEq less ok settings w good fun none => ?_
        simp [none] at pending
      · exact absurd move (by simp)
  | input text =>
      obtain rfl := Option.some.inj move
      exact ⟨phase_frame w _ ⟨rfl, rfl, rfl, rfl, rfl, rfl, rfl⟩ good.phase fun _ balanced => balanced, good.present,
        good.issued, good.distinct⟩
  | run =>
      obtain rfl := Option.some.inj move
      exact run_good w good
  | aboutToDisappear =>
      obtain rfl := Option.some.inj move
      exact aboutToDisappear_good w good

theorem run_reaches_good (events : List Event) (w : World) (run : Run (Moves (step lessEq less)) {} events w) : Good w :=
  run_invariant _ Good (step_good lessEq less) {} events w initial_good run

theorem phase_balanced (w : World) (phase : Idle w ∨ Connected w) :
    Balanced w.ledger (if w.page.sessionId > 0 then [w.page.sessionId] else []) := by
  rcases phase with idle | connected
  · rw [if_neg (Int.not_lt.mpr idle.session)]
    exact idle.balanced
  · rw [if_pos connected.session]
    exact connected.balanced

/-- In every run of the page each session it obtained is the present one or was closed exactly once, only open
sessions are used, none outlives the page, and the timers are at most one timeout and one interval of a session. -/
theorem sessions_owned (events : List Event) (w : World) (run : Run (Moves (step lessEq less)) {} events w) :
    (∀ sid ∈ acquired w.ledger,
      (0 < sid ∧ sid = w.page.sessionId ∧ (released w.ledger).count sid = 0) ∨ (released w.ledger).count sid = 1) ∧
    (∀ later earlier sid, w.ledger = later ++ .use sid :: earlier → sid ∈ live earlier) ∧
    (w.page.disposed = true → w.opens = [] → live w.ledger = []) ∧
    w.timeouts.length ≤ 1 ∧ w.intervals.length ≤ 1 ∧
    (w.page.sessionId ≤ 0 → w.timeouts = [] ∧ w.intervals = []) := by
  have good := run_reaches_good lessEq less events w run
  have balanced := phase_balanced w good.phase
  refine ⟨fun sid known => ?_, fun later earlier sid same => ?_, fun gone _ => ?_, ?_, ?_, fun session => ?_⟩
  · rcases balanced_exclusive w.ledger _ balanced sid known with ⟨owned, open'⟩ | ⟨_, closed⟩
    · left
      have member := List.count_pos_iff.mp (Nat.lt_of_lt_of_eq Nat.zero_lt_one owned.symm)
      split at member
      · rename_i positive
        rw [List.mem_singleton] at member
        exact ⟨member ▸ positive, member, open'⟩
      · exact absurd member (by simp)
    · exact .inr closed
  · exact sound_used later earlier sid (same ▸ balanced.1)
  · have idle : ¬ w.page.sessionId > 0 := fun session => by simp [(good.present session).1] at gone
    rw [if_neg idle] at balanced
    exact balanced.2.eq_nil
  · rcases good.phase with idle | connected
    · simp [idle.timeouts]
    · simp [connected.timeouts]
  · rcases phase_keepalive w good.phase with ⟨_, none⟩ | ⟨_, one⟩
    · simp [none]
    · simp [one]
  · have idle : Idle w := good.phase.resolve_right fun connected => absurd connected.session (Int.not_lt.mpr session)
    exact ⟨idle.timeouts, idle.intervals⟩

-- A visit: the page opens, reads once, is reopened while the session lives, and is left before that open is done.
def visit : List Event :=
  let draft : ConnectionDraft :=
    { host := js "a", port := .text (js "22"), username := js "u", password := some (js "p") }
  let settings : Keepalive := { interval := .int 60, attempts := .int 3 }
  [.aboutToAppear (some draft), .openDone 1 7 settings 1 2, .pollTick 1 (js "$ ") 3, .keepaliveTick 2 true settings,
   .openDraft (some draft), .aboutToDisappear, .openDone 2 8 settings 4 5]

def integersLessEq : JsNumber → JsNumber → Bool
  | .int a, .int b => decide (a ≤ b)
  | _, _ => false

theorem sessions_owned_visit :
    let w := (visit.foldlM (step integersLessEq fun a b => !integersLessEq b a) {}).get (by decide)
    live w.ledger = [] ∧ w.timeouts = [] ∧ w.intervals = [] := by
  intro w
  have computed := moves_run (step integersLessEq fun a b => !integersLessEq b a) {} w visit (Option.some_get _).symm
  obtain ⟨_, _, left, _, _, idle⟩ := sessions_owned integersLessEq (fun a b => !integersLessEq b a) visit w computed
  exact ⟨left (by decide) (by decide), idle (by decide)⟩

end Kessh.Terminal
