import Kessh.Lynx.HostSessions

set_option autoImplicit false

-- The Lynx page of the monitor: the sessions and the refresh intervals of its calls of pickHost.
namespace Kessh.LynxMonitorPage

open Ledger Labelled
open HostSessions

-- The refs of the page, the intervals that are active, and what its calls wait for: hasPassword,
-- closeSession of the session before, openSession with the token of the call, fetchMetrics in front
-- of the interval, and fetchMetrics of a tick or of the refresh button.
structure Page where
  mounted : Bool := true
  selected : Bool := false
  shownSelected : Bool := false
  sessionRef : Int := -1
  timerRef : Option Nat := none
  tokenRef : Nat := 0
  disposedRef : Bool := false
  intervals : List Nat := []
  checks : List ConnectionRecord := []
  closings : List ConnectionRecord := []
  opens : List PendingOpen := []
  firstTicks : List Int := []
  fetches : List Int := []
  ledger : List (Entry Int) := []

-- An open that is rejected returns none. The host picks the id of an interval.
inductive Event where
  | render
  | pickHost (record : ConnectionRecord)
  | passwordChecked (record : ConnectionRecord) (hasPwd : Bool)
  | previousClosed (record : ConnectionRecord)
  | opened (pending : PendingOpen) (sid : Option Int)
  | firstTicked (sid : Int) (intervalId : Nat)
  | tick
  | intervalTick (intervalId : Nat)
  | fetched (sid : Int)
  | unmount

def clearTimer (page : Page) : Page :=
  match page.timerRef with
  | some id => { page with intervals := page.intervals.filter (· != id) }
  | none => page

-- pickHost up to its first await.
def pickHost (record : ConnectionRecord) (page : Page) : Page :=
  if record.authType = .key then page else { page with checks := record :: page.checks }

def startOpen (record : ConnectionRecord) (page : Page) : Page :=
  let token := page.tokenRef + 1
  { page with selected := true, tokenRef := token, opens := ⟨token, draft record⟩ :: page.opens }

def passwordChecked (record : ConnectionRecord) (hasPwd : Bool) (page : Page) : Page :=
  if !hasPwd then page
  else
    let page := clearTimer page
    if page.sessionRef > 0 then
      { page with ledger := closeSession page.sessionRef page.ledger, closings := record :: page.closings }
    else startOpen record page

def tickSession (page : Page) : Option Int := if page.sessionRef ≤ 0 then none else some page.sessionRef

-- The first tick asks for the session that has just been set.
def opened (token : Nat) (sid : Int) (page : Page) : Page :=
  if page.disposedRef || token != page.tokenRef then { page with ledger := closeSession sid page.ledger }
  else if sid ≤ 0 then page
  else { page with sessionRef := sid, firstTicks := sid :: page.firstTicks }

def firstTicked (intervalId : Nat) (page : Page) : Page :=
  { page with timerRef := some intervalId, intervals := intervalId :: page.intervals }

def tick (page : Page) : Page :=
  match tickSession page with
  | some sid => { page with fetches := sid :: page.fetches }
  | none => page

def unmount (page : Page) : Page :=
  let page := clearTimer { page with mounted := false, disposedRef := true, tokenRef := page.tokenRef + 1 }
  { page with ledger := closeSession page.sessionRef page.ledger }

-- The hosts are listed as long as the last render has seen none selected.
def step (page : Page) : Event → Option Page
  | .render => if page.mounted then some { page with shownSelected := page.selected } else none
  | .pickHost record => if page.mounted && !page.shownSelected then some (pickHost record page) else none
  | .passwordChecked record hasPwd =>
      if record ∈ page.checks then some (passwordChecked record hasPwd { page with checks := page.checks.erase record })
      else none
  | .previousClosed record =>
      if record ∈ page.closings then some (startOpen record { page with closings := page.closings.erase record }) else none
  | .opened pending sid =>
      if pending ∈ page.opens then
        let page := { page with opens := page.opens.erase pending }
        sid.elim (some page) fun sid =>
          if fresh sid page.ledger then some (opened pending.number sid { page with ledger := returned sid page.ledger })
          else none
      else none
  | .firstTicked sid intervalId =>
      if sid ∈ page.firstTicks ∧ intervalId ∉ page.intervals then
        some (firstTicked intervalId { page with firstTicks := page.firstTicks.erase sid })
      else none
  | .tick => if page.mounted then some (tick page) else none
  | .intervalTick intervalId => if intervalId ∈ page.intervals then some (tick page) else none
  | .fetched sid => if sid ∈ page.fetches then some { page with fetches := page.fetches.erase sid } else none
  | .unmount => if page.mounted then some (unmount page) else none

structure Done (page : Page) : Prop where
  mounted : page.mounted = false
  calls : page.checks = [] ∧ page.closings = [] ∧ page.opens = [] ∧ page.firstTicks = []
  fetches : page.fetches = []

-- Only the current session is open, none is closed twice, there is one interval at most, and
-- nothing is left when the page is gone and everything is done.
structure Kept (page : Page) : Prop where
  current : ∀ sid ∈ acquired page.ledger, (released page.ledger).count sid = 0 → sid = page.sessionRef
  once : ∀ sid, (released page.ledger).count sid ≤ 1
  interval : page.intervals.length ≤ 1
  left : Done page → Closed page.ledger ∧ page.intervals = []

def isClosed (page : Page) : Prop := (released page.ledger).count page.sessionRef ≠ 0

-- The session of sessionRef is closed only while it is open, and replaced only when it is closed; the
-- interval is set while the page is there and has none.
def Fits (page : Page) : Event → Prop
  | .passwordChecked _ true => page.sessionRef > 0 → ¬ isClosed page
  | .unmount => page.sessionRef > 0 → ¬ isClosed page
  | .opened pending (some sid) =>
      sid > 0 → page.disposedRef = false → pending.number = page.tokenRef → page.sessionRef > 0 → isClosed page
  | .firstTicked _ _ => page.mounted = true ∧ page.intervals = []
  | _ => True

structure Sound (page : Page) : Prop where
  disposed : page.disposedRef = !page.mounted
  balanced : Balanced page.ledger [] ∨ page.mounted = true ∧ Balanced page.ledger (held page.sessionRef)
  known : page.sessionRef > 0 → page.sessionRef ∈ acquired page.ledger
  interval : page.intervals = [] ∨ page.mounted = true ∧ ∃ id, page.timerRef = some id ∧ page.intervals = [id]
  ticking : page.firstTicks ≠ [] → page.sessionRef > 0

theorem sound_kept (page : Page) (sound : Sound page) : Kept page := by
  have owned : Owned page.sessionRef page.ledger := by
    rcases sound.balanced with none | ⟨_, some⟩
    · exact closed_owned page.sessionRef page.ledger (balanced_closed page.ledger none)
    · exact balanced_owned page.sessionRef page.ledger some
  have orderly : Ledger.Sound page.ledger := sound.balanced.elim (fun none => none.1) fun some => some.2.1
  refine ⟨fun sid known none => ?_, fun sid => ?_, ?_, fun done => ?_⟩
  · rcases owned sid known with ⟨same, _⟩ | closed
    · exact same
    · omega
  · have counts := sound_count page.ledger orderly sid
    omega
  · rcases sound.interval with none | ⟨_, _, _, one⟩
    · simp [none]
    · simp [one]
  · have gone := done.mounted
    constructor
    · rcases sound.balanced with none | ⟨there, _⟩
      · exact balanced_closed page.ledger none
      · rw [gone] at there
        cases there
    · rcases sound.interval with none | ⟨there, _⟩
      · exact none
      · rw [gone] at there
        cases there

structure SameSession (page next : Page) : Prop where
  mounted : next.mounted = page.mounted
  disposed : next.disposedRef = page.disposedRef
  session : next.sessionRef = page.sessionRef
  timer : next.timerRef = page.timerRef
  intervals : next.intervals = page.intervals
  ticks : next.firstTicks = page.firstTicks
  ledger : next.ledger = page.ledger

theorem sound_frame (page next : Page) (same : SameSession page next) (sound : Sound page) : Sound next where
  disposed := by rw [same.disposed, same.mounted, sound.disposed]
  balanced := by
    rw [same.ledger, same.mounted, same.session]
    exact sound.balanced
  known := by
    rw [same.session, same.ledger]
    exact sound.known
  interval := by
    rw [same.intervals, same.mounted, same.timer]
    exact sound.interval
  ticking := by
    rw [same.ticks, same.session]
    exact sound.ticking

theorem pickHost_same (record : ConnectionRecord) (page : Page) : SameSession page (pickHost record page) := by
  unfold pickHost
  split <;> exact ⟨rfl, rfl, rfl, rfl, rfl, rfl, rfl⟩

theorem tick_same (page : Page) : SameSession page (tick page) := by
  unfold tick
  split <;> exact ⟨rfl, rfl, rfl, rfl, rfl, rfl, rfl⟩

inductive Moved (before : Page) : Event → Page → Prop where
  | same (event : Event) (after : Page) (fits : Fits before event) (same : SameSession before after) :
      Moved before event after
  | checked (record : ConnectionRecord) : Moved before (.passwordChecked record true)
      (passwordChecked record true { before with checks := before.checks.erase record })
  | opened (pending : PendingOpen) (sid : Int) (new : fresh sid before.ledger = true) :
      Moved before (.opened pending (some sid)) (opened pending.number sid { before with
        opens := before.opens.erase pending
        ledger := returned sid before.ledger })
  | firstTicked (sid : Int) (intervalId : Nat) (ticked : sid ∈ before.firstTicks) :
      Moved before (.firstTicked sid intervalId)
        (firstTicked intervalId { before with firstTicks := before.firstTicks.erase sid })
  | unmount (mounted : before.mounted = true) : Moved before .unmount (unmount before)

theorem step_moved (before : Page) (event : Event) (after : Page) (move : step before event = some after) :
    Moved before event after := by
  cases event with
  | opened pending sid =>
      simp only [step, Option.ite_none_right_eq_some] at move
      obtain ⟨_, done⟩ := move
      cases sid with
      | none =>
          obtain rfl := Option.some.inj done
          exact .same _ _ trivial ⟨rfl, rfl, rfl, rfl, rfl, rfl, rfl⟩
      | some sid =>
          simp only [Option.elim_some, Option.ite_none_right_eq_some, Option.some.injEq] at done
          obtain ⟨new, rfl⟩ := done
          exact .opened pending sid new
  | passwordChecked record hasPwd =>
      simp only [step, Option.ite_none_right_eq_some, Option.some.injEq] at move
      obtain ⟨_, rfl⟩ := move
      cases hasPwd with
      | false => exact .same _ _ trivial ⟨rfl, rfl, rfl, rfl, rfl, rfl, rfl⟩
      | true => exact .checked record
  | firstTicked sid intervalId =>
      simp only [step, Option.ite_none_right_eq_some, Option.some.injEq] at move
      obtain ⟨⟨ticked, _⟩, rfl⟩ := move
      exact .firstTicked sid intervalId ticked
  | unmount =>
      simp only [step, Option.ite_none_right_eq_some, Option.some.injEq] at move
      obtain ⟨mounted, rfl⟩ := move
      exact .unmount mounted
  | pickHost record =>
      simp only [step, Option.ite_none_right_eq_some, Option.some.injEq] at move
      obtain ⟨_, rfl⟩ := move
      exact .same _ _ trivial (pickHost_same record before)
  | tick =>
      simp only [step, Option.ite_none_right_eq_some, Option.some.injEq] at move
      obtain ⟨_, rfl⟩ := move
      exact .same _ _ trivial (tick_same before)
  | intervalTick intervalId =>
      simp only [step, Option.ite_none_right_eq_some, Option.some.injEq] at move
      obtain ⟨_, rfl⟩ := move
      exact .same _ _ trivial (tick_same before)
  | _ =>
      simp only [step, Option.ite_none_right_eq_some, Option.some.injEq] at move
      obtain ⟨_, rfl⟩ := move
      exact .same _ _ trivial ⟨rfl, rfl, rfl, rfl, rfl, rfl, rfl⟩

theorem clearTimer_fields (page : Page) :
    (clearTimer page).mounted = page.mounted ∧ (clearTimer page).disposedRef = page.disposedRef ∧
      (clearTimer page).sessionRef = page.sessionRef ∧ (clearTimer page).firstTicks = page.firstTicks ∧
      (clearTimer page).ledger = page.ledger := by
  unfold clearTimer
  split <;> exact ⟨rfl, rfl, rfl, rfl, rfl⟩

theorem clearTimer_intervals (page : Page)
    (interval : page.intervals = [] ∨ ∃ id, page.timerRef = some id ∧ page.intervals = [id]) :
    (clearTimer page).intervals = [] := by
  unfold clearTimer
  rcases interval with none | ⟨id, timer, one⟩
  · split
    · simp [none]
    · exact none
  · simp [timer, one]

theorem closeSession_sound (page : Page) (sound : Sound page) (open' : page.sessionRef > 0 → ¬ isClosed page) :
    Balanced (closeSession page.sessionRef page.ledger) [] := by
  rcases sound.balanced with none | ⟨_, some⟩
  · by_cases session : page.sessionRef > 0
    · have closed := balanced_closed page.ledger none page.sessionRef (sound.known session)
      refine absurd ?_ (open' session)
      rw [isClosed, closed]
      exact Nat.one_ne_zero
    · rw [closeSession_none page.sessionRef page.ledger (by omega)]
      exact none
  · exact balanced_let_go page.ledger page.sessionRef some

theorem passwordChecked_sound (record : ConnectionRecord) (hasPwd : Bool) (page : Page) (sound : Sound page)
    (open' : hasPwd = true → page.sessionRef > 0 → ¬ isClosed page) : Sound (passwordChecked record hasPwd page) := by
  cases hasPwd with
  | false => exact sound
  | true =>
      obtain ⟨mounted, disposed, session, ticks, ledger⟩ := clearTimer_fields page
      have none := clearTimer_intervals page (sound.interval.imp_right And.right)
      have cleared : Sound (clearTimer page) :=
        ⟨by rw [disposed, mounted]; exact sound.disposed, by rw [mounted, session, ledger]; exact sound.balanced,
          by rw [session, ledger]; exact sound.known, .inl none, by rw [ticks, session]; exact sound.ticking⟩
      unfold passwordChecked
      dsimp only
      rw [if_neg (by simp)]
      by_cases positive : (clearTimer page).sessionRef > 0
      · rw [if_pos positive]
        have closed := closeSession_sound page sound (open' rfl)
        rw [← session, ← ledger] at closed
        exact ⟨cleared.disposed, .inl closed, fun held => by simpa using cleared.known held, cleared.interval, cleared.ticking⟩
      · rw [if_neg positive]
        exact sound_frame (clearTimer page) _ ⟨rfl, rfl, rfl, rfl, rfl, rfl, rfl⟩ cleared

theorem unmount_sound (page : Page) (sound : Sound page) (open' : page.sessionRef > 0 → ¬ isClosed page) :
    Sound (unmount page) := by
  have closed := closeSession_sound page sound open'
  obtain ⟨mounted, disposed, session, ticks, ledger⟩ :=
    clearTimer_fields { page with mounted := false, disposedRef := true, tokenRef := page.tokenRef + 1 }
  have none := clearTimer_intervals { page with mounted := false, disposedRef := true, tokenRef := page.tokenRef + 1 }
    (sound.interval.imp_right And.right)
  unfold unmount
  dsimp only
  refine ⟨by rw [disposed, mounted]; rfl, .inl ?_, fun positive => ?_, .inl none, fun ticking => ?_⟩
  · rw [session, ledger]
    exact closed
  · rw [session, ledger, acquired_closeSession]
    rw [session] at positive
    exact sound.known positive
  · rw [session]
    rw [ticks] at ticking
    exact sound.ticking ticking

theorem late_sound (page : Page) (sound : Sound page) (sid : Int) (new : fresh sid page.ledger = true) :
    Sound { page with ledger := closeSession sid (returned sid page.ledger) } := by
  refine ⟨sound.disposed, ?_, fun positive => ?_, sound.interval, sound.ticking⟩
  · rcases sound.balanced with none | ⟨there, some⟩
    · exact .inl (balanced_dropped page.ledger [] sid none new)
    · exact .inr ⟨there, balanced_dropped page.ledger _ sid some new⟩
  · rw [acquired_closeSession]
    exact acquired_returned sid page.sessionRef page.ledger (sound.known positive)

theorem opened_sound (page : Page) (sound : Sound page) (pending : PendingOpen) (sid : Int)
    (new : fresh sid page.ledger = true) (fits : Fits page (.opened pending (some sid))) :
    Sound (opened pending.number sid { page with ledger := returned sid page.ledger }) := by
  unfold opened
  by_cases late : (page.disposedRef || pending.number != page.tokenRef) = true
  · rw [if_pos late]
    exact late_sound page sound sid new
  · rw [if_neg late]
    simp only [Bool.or_eq_true, bne_iff_ne, not_or, Bool.not_eq_true, not_not] at late
    by_cases failed : sid ≤ 0
    · rw [if_pos failed, returned_none sid page.ledger failed]
      exact sound
    · rw [if_neg failed]
      have mounted : page.mounted = true := by simpa [late.1] using sound.disposed
      have idle : Balanced page.ledger [] := by
        rcases sound.balanced with none | ⟨_, some⟩
        · exact none
        · by_cases session : page.sessionRef > 0
          · exact absurd (balanced_known page.ledger page.sessionRef some session).2
              (fits (by omega) late.1 late.2 session)
          · rwa [held_none page.sessionRef (by omega)] at some
      have opened := balanced_returned page.ledger sid idle new
      exact ⟨sound.disposed, .inr ⟨mounted, opened⟩, fun positive => (balanced_known _ sid opened positive).1,
        sound.interval, fun _ => Int.not_le.mp failed⟩

theorem step_sound (before : Page) (event : Event) (after : Page) (sound : Sound before) (fits : Fits before event)
    (move : step before event = some after) : Sound after := by
  cases step_moved before event after move with
  | same _ _ _ same => exact sound_frame before after same sound
  | checked record =>
      exact passwordChecked_sound record true _ (sound_frame before { before with checks := before.checks.erase record }
        ⟨rfl, rfl, rfl, rfl, rfl, rfl, rfl⟩ sound) fun _ => fits
  | opened pending sid new =>
      exact opened_sound { before with opens := before.opens.erase pending } (sound_frame before _
        ⟨rfl, rfl, rfl, rfl, rfl, rfl, rfl⟩ sound) pending sid new fits
  | firstTicked sid intervalId ticked =>
      obtain ⟨mounted, none⟩ := fits
      refine ⟨sound.disposed, sound.balanced, sound.known, .inr ⟨mounted, intervalId, rfl, ?_⟩, fun _ => ?_⟩
      · exact congrArg (intervalId :: ·) none
      · exact sound.ticking (List.ne_nil_of_mem ticked)
  | unmount mounted => exact unmount_sound before sound fits

-- An interval was set after the page was gone, or the session was closed twice.
structure Spoiled (page : Page) : Prop where
  mounted : page.mounted = false
  disposed : page.disposedRef = true
  session : page.sessionRef > 0
  closed : ClosedTimes 1 page.sessionRef page.ledger
  left : page.intervals ≠ [] ∨ ClosedTimes 2 page.sessionRef page.ledger

theorem spoiled_frame (page next : Page) (same : SameSession page next) (spoiled : Spoiled page) : Spoiled next := by
  refine ⟨same.mounted.trans spoiled.mounted, same.disposed.trans spoiled.disposed, same.session ▸ spoiled.session, ?_, ?_⟩
  · rw [same.session, same.ledger]
    exact spoiled.closed
  · rw [same.intervals, same.session, same.ledger]
    exact spoiled.left

theorem passwordChecked_spoiled (record : ConnectionRecord) (hasPwd : Bool) (page : Page) (spoiled : Spoiled page) :
    Spoiled (passwordChecked record hasPwd page) := by
  cases hasPwd with
  | false => exact spoiled
  | true =>
      obtain ⟨mounted, disposed, session, _, ledger⟩ := clearTimer_fields page
      have twice := closedTimes_again 1 page.sessionRef page.ledger spoiled.session spoiled.closed
      have positive : (clearTimer page).sessionRef > 0 := session.symm ▸ spoiled.session
      unfold passwordChecked
      dsimp only
      rw [if_neg (by simp), if_pos positive]
      refine ⟨mounted.trans spoiled.mounted, disposed.trans spoiled.disposed, positive, ?_, .inr ?_⟩
      · rw [session, ledger]
        exact closedTimes_close 1 page.sessionRef page.sessionRef page.ledger spoiled.closed
      · rw [session, ledger]
        exact twice

theorem opened_spoiled (token : Nat) (sid : Int) (page : Page) (spoiled : Spoiled page) :
    Spoiled (opened token sid { page with ledger := returned sid page.ledger }) := by
  have kept : ∀ times, ClosedTimes times page.sessionRef page.ledger →
      ClosedTimes times page.sessionRef (closeSession sid (returned sid page.ledger)) := fun times closed =>
    closedTimes_close times _ sid _ (closedTimes_returned times _ sid page.ledger closed)
  unfold opened
  rw [if_pos (by simp [spoiled.disposed])]
  exact ⟨spoiled.mounted, spoiled.disposed, spoiled.session, kept 1 spoiled.closed, spoiled.left.imp_right (kept 2)⟩

theorem step_spoiled (before : Page) (event : Event) (after : Page) (spoiled : Spoiled before)
    (move : step before event = some after) : Spoiled after := by
  cases step_moved before event after move with
  | same _ _ _ same => exact spoiled_frame before after same spoiled
  | checked record =>
      exact passwordChecked_spoiled record true _ (spoiled_frame before { before with checks := before.checks.erase record }
        ⟨rfl, rfl, rfl, rfl, rfl, rfl, rfl⟩ spoiled)
  | opened pending sid new =>
      exact opened_spoiled pending.number sid { before with opens := before.opens.erase pending } (spoiled_frame before _
        ⟨rfl, rfl, rfl, rfl, rfl, rfl, rfl⟩ spoiled)
  | firstTicked sid intervalId _ =>
      exact ⟨spoiled.mounted, spoiled.disposed, spoiled.session, spoiled.closed, .inl (List.cons_ne_nil _ _)⟩
  | unmount mounted =>
      rw [spoiled.mounted] at mounted
      cases mounted

theorem spoiled_lost (page : Page) (spoiled : Spoiled page) (done : Done page) : ¬ Kept page := by
  intro kept
  rcases spoiled.left with interval | twice
  · exact interval (kept.left done).2
  · have once := kept.once page.sessionRef
    have closed := twice.2
    omega

theorem closed_again (page next : Page) (session : page.sessionRef > 0) (closed : isClosed page)
    (ledger : next.ledger = closeSession page.sessionRef page.ledger) : ¬ Kept next := by
  intro kept
  have once := kept.once page.sessionRef
  rw [ledger, released_closeSession _ _ session, List.count_cons_self] at once
  unfold isClosed at closed
  omega

theorem unfit_breaks (before : Page) (event : Event) (after : Page) (sound : Sound before) (unfit : ¬ Fits before event)
    (move : step before event = some after) : ¬ Kept after ∨ Spoiled after := by
  cases step_moved before event after move with
  | same _ _ fits _ => exact absurd fits unfit
  | checked record =>
      simp only [Fits, Classical.not_imp, not_not] at unfit
      obtain ⟨session, closed⟩ := unfit
      refine .inl (closed_again before _ session closed ?_)
      obtain ⟨_, _, same, _, ledger⟩ := clearTimer_fields { before with checks := before.checks.erase record }
      unfold passwordChecked
      dsimp only
      rw [if_neg (by simp), if_pos (same.symm ▸ session), same, ledger]
  | opened pending sid new =>
      simp only [Fits, Classical.not_imp, isClosed, not_not] at unfit
      obtain ⟨positive, there, current, session, open'⟩ := unfit
      refine .inl fun kept => ?_
      unfold opened at kept
      dsimp only at kept
      rw [if_neg (by simp [there, current]), if_neg (Int.not_le.mpr positive)] at kept
      have known := sound.known session
      have same : before.sessionRef = sid := kept.current before.sessionRef
        (acquired_returned sid _ before.ledger known) (by rw [released_returned]; exact open')
      exact fresh_absent sid before.ledger new positive (same ▸ known)
  | firstTicked sid intervalId ticked =>
      by_cases mounted : before.mounted = true
      · refine .inl fun kept => unfit ⟨mounted, ?_⟩
        have interval := kept.interval
        simp only [firstTicked, List.length_cons] at interval
        exact List.length_eq_zero_iff.mp (by omega)
      · have gone : before.mounted = false := by simpa using mounted
        have disposed : before.disposedRef = true := by simpa [gone] using sound.disposed
        have session := sound.ticking (List.ne_nil_of_mem ticked)
        have known := sound.known session
        have balanced := sound.balanced.resolve_right fun there => mounted there.1
        have once := Nat.le_of_eq (balanced_closed before.ledger balanced before.sessionRef known).symm
        exact .inr ⟨gone, disposed, session, ⟨known, once⟩, .inl (List.cons_ne_nil _ _)⟩
  | unmount mounted =>
      simp only [Fits, Classical.not_imp, not_not] at unfit
      obtain ⟨session, closed⟩ := unfit
      refine .inl (closed_again before _ session closed ?_)
      obtain ⟨_, _, same, _, ledger⟩ :=
        clearTimer_fields { before with mounted := false, disposedRef := true, tokenRef := before.tokenRef + 1 }
      unfold unmount
      dsimp only
      rw [same, ledger]

/-- The sessions and the interval are kept in every run whose steps all fit; and a run that ends
when the page is gone and everything is done keeps them only if its steps do. -/
theorem monitor_resources_kept (events : List Event) :
    ((Steps step {} events fun before event _ => Fits before event) → Always step {} events Kept) ∧
      ∀ last, Run (Moves step) {} events last → Done last → Always step {} events Kept →
        Steps step {} events fun before event _ => Fits before event := by
  have initial : Sound {} := ⟨rfl, .inl balanced_nil, fun session => absurd session (by decide), .inl rfl, fun ticking =>
    absurd rfl ticking⟩
  have preserved : ∀ before event after, Sound before → Fits before event → step before event = some after →
      Sound after := fun before event after sound fits move => step_sound before event after sound fits move
  constructor
  · exact fits_always step {} events Sound Kept initial Fits preserved sound_kept
  · intro last run done
    exact ended_fits step {} last events Sound Kept Spoiled initial Fits preserved unfit_breaks step_spoiled run fun spoiled =>
      spoiled_lost last spoiled done

-- The page is left while it waits for the first metrics: the interval is set when they come.
def leftEarly : List Event :=
  [.pickHost (savedHost 1), .passwordChecked (savedHost 1) true, .opened ⟨1, draft (savedHost 1)⟩ (some 7), .unmount,
    .firstTicked 7 3]

theorem interval_left : ¬ Always step {} leftEarly Kept := by
  intro always
  have run : Run (Moves step) {} leftEarly _ := moves_run step _ _ _ rfl
  have kept := always leftEarly [] _ (List.append_nil _).symm run
  exact absurd (kept.left ⟨rfl, ⟨rfl, rfl, rfl, rfl⟩, rfl⟩).2 (by decide)

end Kessh.LynxMonitorPage
