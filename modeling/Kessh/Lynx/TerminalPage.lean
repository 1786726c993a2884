import Kessh.Host.LynxPages
import Kessh.Lib.Labelled
import Mathlib.Logic.Function.Basic

set_option autoImplicit false

-- The Lynx terminal page: the runs of its effect, which share the two refs of the page.
namespace Kessh.TerminalPage

open Ecma Labelled

structure TerminalParams where
  recordId : Option JsNumber
  password : Option JsString
deriving DecidableEq

-- What a run of the effect keeps for itself, beside its token.
structure EffectRun where
  activeSession : Int := -1
  pollHandle : Option Nat := none
  keepaliveHandle : Option Nat := none

-- A call of getSettings that a run waits for.
structure PendingSettings where
  token : Nat
  recordId : JsNumber
  password : JsString
deriving DecidableEq

-- A call of openSession, with the interval of the settings: none where there are no settings.
structure PendingOpen where
  token : Nat
  draft : ConnectionDraft
  keepaliveInterval : Option JsNumber
deriving DecidableEq

structure Interval where
  handle : Nat
  token : Nat
  sid : Int

-- What the runs did, each entry with the token of its run.
inductive Entry where
  | opened (token : Nat) (sid : Int)
  | closed (token : Nat) (sid : Int)
  | termRead (token : Nat) (sid : Int)
  | sendKeepalive (token : Nat) (sid : Int)
  | cleaned (token : Nat)
deriving DecidableEq

def Entry.token : Entry → Nat
  | .opened token _ => token
  | .closed token _ => token
  | .termRead token _ => token
  | .sendKeepalive token _ => token
  | .cleaned token => token

-- The log is newest first. The mounted run is the one that React will clean up, with its params.
structure Page where
  lines : List JsString := [js "正在连接..."]
  disposedRef : Bool := false
  openTokenRef : Nat := 0
  mounted : Option (Nat × TerminalParams) := none
  runs : Nat → EffectRun := fun _ => {}
  settings : List PendingSettings := []
  opens : List PendingOpen := []
  reads : List Nat := []
  keepalives : List Int := []
  timeouts : List (Nat × Nat) := []
  intervals : List Interval := []
  log : List Entry := []

-- A timeout is a handle with the token of the run whose poll it calls. The host picks the handles.
inductive Event where
  | mount (params : TerminalParams)
  | render (params : TerminalParams)
  | unmount
  | gotSettings (pending : PendingSettings) (keepaliveInterval : Option JsNumber)
  | opened (pending : PendingOpen) (id : Except JsString Int) (intervalId : Nat)
  | read (token : Nat) (chunk : Option JsString) (timeoutId : Nat)
  | timeout (timeoutId token : Nat)
  | intervalTick (intervalId : Nat)
  | keptAlive (sid : Int)

def appendLine (line : JsString) (page : Page) : Page := { page with lines := page.lines ++ [line] }

def closeSession (token : Nat) (sid : Int) (page : Page) : Page :=
  if sid > 0 then { page with log := .closed token sid :: page.log } else page

-- The effect, with open up to its first await.
def effect (params : TerminalParams) (page : Page) : Page :=
  let token := page.openTokenRef + 1
  let page := { page with disposedRef := false, openTokenRef := token, mounted := some (token, params) }
  match params.recordId with
  | none => appendLine (js "未找到连接信息") page
  | some recordId => { page with settings := ⟨token, recordId, params.password.getD []⟩ :: page.settings }

def clearTimeout (handle : Option Nat) (page : Page) : Page :=
  match handle with
  | some id => { page with timeouts := page.timeouts.filter (·.1 != id) }
  | none => page

def clearInterval (handle : Option Nat) (page : Page) : Page :=
  match handle with
  | some id => { page with intervals := page.intervals.filter (·.handle != id) }
  | none => page

def cleanup (token : Nat) (page : Page) : Page :=
  let run := page.runs token
  let page := { page with disposedRef := true, mounted := none, log := .cleaned token :: page.log }
  closeSession token run.activeSession (clearInterval run.keepaliveHandle (clearTimeout run.pollHandle page))

-- getSettings that fails counts as no settings.
def gotSettings (pending : PendingSettings) (keepaliveInterval : Option JsNumber) (page : Page) : Page :=
  { page with opens := ⟨pending.token, draft pending.recordId pending.password, keepaliveInterval⟩ :: page.opens }

-- poll up to its await.
def poll (token : Nat) (page : Page) : Page :=
  let sid := (page.runs token).activeSession
  if page.disposedRef || token != page.openTokenRef || sid ≤ 0 then page
  else { page with reads := token :: page.reads, log := .termRead token sid :: page.log }

variable (less : JsNumber → JsNumber → Bool)

def startKeepalive (token : Nat) (sid : Int) (interval : JsNumber) (intervalId : Nat) (page : Page) : Page :=
  if less (.int 0) interval then
    { page with
      runs := Function.update page.runs token { page.runs token with keepaliveHandle := some intervalId }
      intervals := ⟨intervalId, token, sid⟩ :: page.intervals }
  else page

def opened (pending : PendingOpen) (id : Except JsString Int) (intervalId : Nat) (page : Page) : Page :=
  match id with
  | .error message => appendLine (js "连接失败: " ++ message) page
  | .ok id =>
      if page.disposedRef || pending.token != page.openTokenRef then closeSession pending.token id page
      else if id ≤ 0 then appendLine (js "打开终端会话失败") page
      else
        let run := { page.runs pending.token with activeSession := id }
        let page := appendLine (js "连接成功") { page with runs := Function.update page.runs pending.token run }
        poll pending.token
          (startKeepalive less pending.token id (pending.keepaliveInterval.getD (.int 60)) intervalId page)

-- poll after its await: a read that fails is ignored, and in either case the next poll is set.
def read (token : Nat) (chunk : Option JsString) (timeoutId : Nat) (page : Page) : Page :=
  let page := match chunk with
    | some chunk => if chunk.isEmpty then page else appendLine chunk page
    | none => page
  { page with
    runs := Function.update page.runs token { page.runs token with pollHandle := some timeoutId }
    timeouts := (timeoutId, token) :: page.timeouts }

-- The effect runs again when recordId is not what it was.
def step (page : Page) : Event → Option Page
  | .mount params => if page.mounted.isNone then some (effect params page) else none
  | .render params =>
      page.mounted.map fun mounted =>
        if mounted.2.recordId = params.recordId then page else effect params (cleanup mounted.1 page)
  | .unmount => page.mounted.map fun mounted => cleanup mounted.1 page
  | .gotSettings pending keepaliveInterval =>
      if pending ∈ page.settings then
        some (gotSettings pending keepaliveInterval { page with settings := page.settings.erase pending })
      else none
  | .opened pending id intervalId =>
      if pending ∈ page.opens ∧ ∀ interval ∈ page.intervals, interval.handle ≠ intervalId then
        some (opened less pending id intervalId { page with
          opens := page.opens.erase pending
          log := (id.toOption.map (Entry.opened pending.token)).toList ++ page.log })
      else none
  | .read token chunk timeoutId =>
      if token ∈ page.reads ∧ ∀ timeout ∈ page.timeouts, timeout.1 ≠ timeoutId then
        some (read token chunk timeoutId { page with reads := page.reads.erase token })
      else none
  | .timeout timeoutId token =>
      if (timeoutId, token) ∈ page.timeouts then
        some (poll token { page with timeouts := page.timeouts.erase (timeoutId, token) })
      else none
  | .intervalTick intervalId =>
      (page.intervals.find? (·.handle == intervalId)).map fun interval => { page with
        keepalives := interval.sid :: page.keepalives
        log := .sendKeepalive interval.token interval.sid :: page.log }
  | .keptAlive sid =>
      if sid ∈ page.keepalives then some { page with keepalives := page.keepalives.erase sid } else none

def Live (page : Page) (token : Nat) : Prop := page.disposedRef = false ∧ token = page.openTokenRef

def Started (page : Page) (token : Nat) : Prop := 0 < token ∧ token ≤ page.openTokenRef

def waits (page : Page) : List Nat := page.settings.map (·.token) ++ page.opens.map (·.token)

-- A session is closed by the run that it was opened for, after the clean-up of that run; a run
-- that has been cleaned up neither reads nor sends keepalives.
def Orderly : List Entry → Prop
  | [] => True
  | .closed token sid :: earlier => (.opened token sid ∈ earlier ∧ .cleaned token ∈ earlier) ∧ Orderly earlier
  | .termRead token _ :: earlier => .cleaned token ∉ earlier ∧ Orderly earlier
  | .sendKeepalive token _ :: earlier => .cleaned token ∉ earlier ∧ Orderly earlier
  | _ :: earlier => Orderly earlier

-- The session of a run is closed once when the run is cleaned up, and until then the run keeps it.
def Settled (page : Page) (token : Nat) (sid : Int) : Prop :=
  (.cleaned token ∈ page.log ∧ page.log.count (.closed token sid) = 1) ∨
    (.cleaned token ∉ page.log ∧ page.log.count (.closed token sid) = 0 ∧ (page.runs token).activeSession = sid)

structure Control (page : Page) : Prop where
  mounted : ∀ token params, page.mounted = some (token, params) → 0 < token ∧ Live page token
  unmounted : page.mounted = none → ∀ token, 0 < token → ¬ Live page token
  started : ∀ entry ∈ page.log, Started page entry.token
  cleaned : ∀ token, Started page token → (.cleaned token ∈ page.log ↔ ¬ Live page token)
  waiting : ∀ token ∈ waits page, Started page token ∧ ∀ sid, .opened token sid ∉ page.log
  distinct : (waits page).Nodup
  polls : ∀ token, token ∈ page.reads ∨ token ∈ page.timeouts.map Prod.snd → Started page token
  active : ∀ token, 0 < (page.runs token).activeSession → .opened token (page.runs token).activeSession ∈ page.log
  intervals : ∀ interval ∈ page.intervals, Started page interval.token ∧ Live page interval.token ∧
    (page.runs interval.token).keepaliveHandle = some interval.handle ∧ .opened interval.token interval.sid ∈ page.log
  orderly : Orderly page.log

structure Sound (page : Page) : Prop extends Control page where
  settled : ∀ token sid, 0 < sid → .opened token sid ∈ page.log → Settled page token sid

theorem initial_sound : Sound {} where
  mounted := fun _ _ none => by cases none
  unmounted := fun _ token positive live => absurd live.2 (Nat.ne_of_gt positive)
  started := fun _ member => by cases member
  cleaned := fun _ started => absurd (Nat.lt_of_lt_of_le started.1 started.2) (Nat.lt_irrefl 0)
  waiting := fun _ member => by cases member
  distinct := .nil
  polls := fun _ member => by simp at member
  active := fun _ positive => absurd positive (Int.not_lt.mpr (by decide : (-1 : Int) ≤ 0))
  settled := fun _ _ _ member => by cases member
  intervals := fun _ member => by cases member
  orderly := trivial

structure Same (page next : Page) : Prop where
  mounted : next.mounted = page.mounted
  disposed : next.disposedRef = page.disposedRef
  token : next.openTokenRef = page.openTokenRef
  log : next.log = page.log
  session : ∀ token, (next.runs token).activeSession = (page.runs token).activeSession
  keepalive : ∀ token, (next.runs token).keepaliveHandle = (page.runs token).keepaliveHandle
  waits : (waits next).Perm (waits page)
  polls : ∀ token, token ∈ next.reads ∨ token ∈ next.timeouts.map Prod.snd →
    token ∈ page.reads ∨ token ∈ page.timeouts.map Prod.snd
  intervals : next.intervals = page.intervals

theorem sound_same (page next : Page) (same : Same page next) (sound : Sound page) : Sound next := by
  have live : ∀ token, Live next token ↔ Live page token := fun token => by rw [Live, Live, same.disposed, same.token]
  have started : ∀ token, Started next token ↔ Started page token := fun token => by rw [Started, Started, same.token]
  exact
    { mounted := fun token params here =>
        (sound.mounted token params (same.mounted ▸ here)).imp_right (live token).mpr
      unmounted := fun none token positive alive =>
        sound.unmounted (same.mounted ▸ none) token positive ((live token).mp alive)
      started := fun entry member => (started _).mpr (sound.started entry (same.log ▸ member))
      cleaned := fun token begun => by
        rw [same.log, live]
        exact sound.cleaned token ((started token).mp begun)
      waiting := fun token member => by
        rw [same.log, started]
        exact sound.waiting token (same.waits.mem_iff.mp member)
      distinct := same.waits.nodup_iff.mpr sound.distinct
      polls := fun token member => (started token).mpr (sound.polls token (same.polls token member))
      active := fun token positive => by
        rw [same.session] at positive ⊢
        rw [same.log]
        exact sound.active token positive
      settled := fun token sid positive member => by
        rw [Settled, same.log, same.session]
        exact sound.settled token sid positive (same.log ▸ member)
      intervals := fun interval member => by
        rw [started, live, same.keepalive, same.log]
        exact sound.intervals interval (same.intervals ▸ member)
      orderly := same.log ▸ sound.orderly }

theorem appendLine_same (line : JsString) (page : Page) : Same page (appendLine line page) :=
  ⟨rfl, rfl, rfl, rfl, fun _ => rfl, fun _ => rfl, .refl _, fun _ => id, rfl⟩

theorem orderly_earlier (later earlier : List Entry) (orderly : Orderly (later ++ earlier)) : Orderly earlier := by
  induction later with
  | nil => exact orderly
  | cons entry later ih =>
      apply ih
      cases entry with
      | opened => exact orderly
      | cleaned => exact orderly
      | closed => exact orderly.2
      | termRead => exact orderly.2
      | sendKeepalive => exact orderly.2

theorem orderly_closed (log : List Entry) (orderly : Orderly log) (token : Nat) (sid : Int)
    (member : .closed token sid ∈ log) : .opened token sid ∈ log ∧ .cleaned token ∈ log := by
  obtain ⟨later, earlier, rfl⟩ := List.append_of_mem member
  have before := (orderly_earlier later _ orderly).1
  exact ⟨List.mem_append_right _ (List.mem_cons_of_mem _ before.1), List.mem_append_right _ (List.mem_cons_of_mem _ before.2)⟩

theorem effect_sound (params : TerminalParams) (page : Page) (sound : Sound page) (gone : page.mounted = none) :
    Sound (effect params page) := by
  have begin' : Sound { page with
      disposedRef := false
      openTokenRef := page.openTokenRef + 1
      mounted := some (page.openTokenRef + 1, params) } := by
    have later : ∀ token, Started page token → Started { page with openTokenRef := page.openTokenRef + 1 } token :=
      fun token started => ⟨started.1, Nat.le_succ_of_le started.2⟩
    exact
      { mounted := fun token other here => by
          obtain ⟨rfl, rfl⟩ := Prod.mk.inj (Option.some.inj here)
          exact ⟨Nat.succ_pos _, rfl, rfl⟩
        unmounted := fun none => by cases none
        started := fun entry member => later _ (sound.started entry member)
        cleaned := fun token started => by
          by_cases last : token = page.openTokenRef + 1
          · refine iff_of_false (fun member => ?_) fun dead => dead ⟨rfl, last⟩
            have bound := (sound.started _ member).2
            simp only [Entry.token] at bound
            omega
          · have old : Started page token := ⟨started.1, Nat.le_of_lt_succ (Nat.lt_of_le_of_ne started.2 last)⟩
            refine iff_of_true ((sound.cleaned token old).mpr (sound.unmounted gone token old.1)) ?_
            exact fun alive => last alive.2
        waiting := fun token member => (sound.waiting token member).imp_left (later token)
        distinct := sound.distinct
        polls := fun token member => later token (sound.polls token member)
        active := sound.active
        settled := sound.settled
        intervals := fun interval member => by
          obtain ⟨started, live, _⟩ := sound.intervals interval member
          exact absurd live (sound.unmounted gone _ started.1)
        orderly := sound.orderly }
  unfold effect
  cases params.recordId with
  | none => exact sound_same _ _ (appendLine_same _ _) begin'
  | some recordId =>
      have fresh : ∀ token ∈ waits page, token ≠ page.openTokenRef + 1 := fun token member same => by
        have bound := (sound.waiting token member).1.2
        omega
      refine { begin' with waiting := fun token member => ?_, distinct := ?_ }
      · rcases List.mem_cons.mp member with rfl | old
        · refine ⟨⟨Nat.succ_pos _, Nat.le_refl _⟩, fun sid opened => ?_⟩
          have bound := (sound.started _ opened).2
          simp only [Entry.token] at bound
          omega
        · exact begin'.waiting token old
      · exact List.nodup_cons.mpr ⟨fun member => fresh _ member rfl, sound.distinct⟩

theorem clearTimeout_kept (handle : Option Nat) (page : Page) : ∃ timeouts,
    clearTimeout handle page = { page with timeouts } ∧ ∀ timeout ∈ timeouts, timeout ∈ page.timeouts := by
  cases handle with
  | none => exact ⟨page.timeouts, rfl, fun _ member => member⟩
  | some id => exact ⟨_, rfl, fun _ member => (List.mem_filter.mp member).1⟩

theorem clearInterval_kept (handle : Option Nat) (page : Page) : ∃ intervals,
    clearInterval handle page = { page with intervals } ∧
      ∀ interval ∈ intervals, interval ∈ page.intervals ∧ handle ≠ some interval.handle := by
  cases handle with
  | none => exact ⟨page.intervals, rfl, fun _ member => ⟨member, by simp⟩⟩
  | some id =>
      refine ⟨_, rfl, fun interval member => ?_⟩
      simp only [List.mem_filter, bne_iff_ne] at member
      exact ⟨member.1, fun same => member.2 (Option.some.inj same).symm⟩

theorem cleanup_fields (token : Nat) (page : Page) : ∃ timeouts intervals,
    cleanup token page = closeSession token (page.runs token).activeSession { page with
      disposedRef := true
      mounted := none
      timeouts
      intervals
      log := .cleaned token :: page.log } ∧
    (∀ timeout ∈ timeouts, timeout ∈ page.timeouts) ∧
    ∀ interval ∈ intervals, interval ∈ page.intervals ∧ (page.runs token).keepaliveHandle ≠ some interval.handle := by
  obtain ⟨timeouts, cleared, timeoutsKept⟩ := clearTimeout_kept (page.runs token).pollHandle
    { page with disposedRef := true, mounted := none, log := .cleaned token :: page.log }
  obtain ⟨intervals, stopped, intervalsKept⟩ := clearInterval_kept (page.runs token).keepaliveHandle
    { page with disposedRef := true, mounted := none, timeouts, log := .cleaned token :: page.log }
  refine ⟨timeouts, intervals, ?_, timeoutsKept, intervalsKept⟩
  unfold cleanup
  dsimp only
  rw [cleared, stopped]

theorem cleanup_gone (token : Nat) (page : Page) : (cleanup token page).mounted = none := by
  obtain ⟨timeouts, intervals, same, _⟩ := cleanup_fields token page
  rw [same, closeSession]
  split <;> rfl

-- A run that has been cleaned up, but whose session is not closed yet.
structure Unsettled (page : Page) (token : Nat) (sid : Int) : Prop where
  opened : 0 < sid → .opened token sid ∈ page.log
  cleaned : .cleaned token ∈ page.log
  only : ∀ other, 0 < other → .opened token other ∈ page.log → other = sid
  unclosed : page.log.count (.closed token sid) = 0

theorem closeSession_sound (token : Nat) (sid : Int) (page : Page) (control : Control page)
    (others : ∀ other id, other ≠ token → 0 < id → .opened other id ∈ page.log → Settled page other id)
    (unsettled : Unsettled page token sid) : Sound (closeSession token sid page) := by
  unfold closeSession
  by_cases positive : sid > 0
  · rw [if_pos positive]
    have started := control.started _ unsettled.cleaned
    have cleaned : ∀ other, .cleaned other ∈ .closed token sid :: page.log ↔ .cleaned other ∈ page.log := fun other => by
      simp
    have opened : ∀ other id, .opened other id ∈ .closed token sid :: page.log ↔ .opened other id ∈ page.log :=
      fun other id => by simp
    refine { control with
      started := List.forall_mem_cons.mpr ⟨started, control.started⟩
      cleaned := fun other begun => (cleaned other).trans (control.cleaned other begun)
      waiting := fun other member => (control.waiting other member).imp_right fun none id => mt (opened other id).mp (none id)
      active := fun other held => (opened other _).mpr (control.active other held)
      intervals := fun interval member => by
        obtain ⟨begun, live, handle, there⟩ := control.intervals interval member
        exact ⟨begun, live, handle, (opened _ _).mpr there⟩
      orderly := ⟨⟨unsettled.opened positive, unsettled.cleaned⟩, control.orderly⟩
      settled := ?_ }
    · intro other id some member
      have there : .opened other id ∈ page.log := by simpa using member
      by_cases same : other = token
      · subst same
        obtain rfl := unsettled.only id some there
        refine .inl ⟨List.mem_cons_of_mem _ unsettled.cleaned, ?_⟩
        rw [List.count_cons_self, unsettled.unclosed]
      · have before := others other id same some there
        have different : ¬ (.closed token sid : Entry) = .closed other id := fun equal => same (Entry.closed.inj equal).1.symm
        simpa [Settled, List.count_cons, different] using before
  · rw [if_neg positive]
    refine { control with settled := fun other id some member => ?_ }
    by_cases same : other = token
    · exact absurd (unsettled.only id some (same ▸ member) ▸ some) positive
    · exact others other id same some member

theorem cleanup_sound (token : Nat) (params : TerminalParams) (page : Page) (sound : Sound page)
    (here : page.mounted = some (token, params)) : Sound (cleanup token page) := by
  obtain ⟨positive, live⟩ := sound.mounted token params here
  have started : Started page token := ⟨positive, Nat.le_of_eq live.2⟩
  have uncleaned : .cleaned token ∉ page.log := fun member => (sound.cleaned token started).mp member live
  obtain ⟨timeouts, intervals, same, timeoutsKept, intervalsKept⟩ := cleanup_fields token page
  rw [same]
  apply closeSession_sound
  · refine { sound.toControl with
      mounted := fun _ _ none => by cases none
      unmounted := fun _ other _ alive => by cases alive.1
      started := List.forall_mem_cons.mpr ⟨started, sound.started⟩
      cleaned := fun other begun => ?_
      waiting := fun other member => (sound.waiting other member).imp_right fun none id => by simpa using none id
      polls := fun other member => sound.polls other ?_
      active := fun other held => List.mem_cons_of_mem _ (sound.active other held)
      intervals := fun interval member => ?_ }
    · refine iff_of_true ?_ fun alive => by cases alive.1
      by_cases last : other = token
      · exact last ▸ List.mem_cons_self
      · exact List.mem_cons_of_mem _ ((sound.cleaned other begun).mpr fun alive => last (alive.2.trans live.2.symm))
    · refine member.imp_right fun polled => ?_
      obtain ⟨timeout, there, rfl⟩ := List.mem_map.mp polled
      exact List.mem_map_of_mem (timeoutsKept timeout there)
    · obtain ⟨there, other⟩ := intervalsKept interval member
      obtain ⟨_, alive, handle, _⟩ := sound.intervals interval there
      exact absurd (live.2.trans alive.2.symm ▸ handle) other
  · intro other id different some member
    have before := sound.settled other id some (by simpa using member)
    simpa [Settled, different] using before
  · have kept : ∀ other, 0 < other → .opened token other ∈ page.log →
        page.log.count (.closed token other) = 0 ∧ (page.runs token).activeSession = other := fun other some member =>
      ((sound.settled token other some member).resolve_left fun closed => uncleaned closed.1).2
    refine ⟨fun some => List.mem_cons_of_mem _ (sound.active token some), List.mem_cons_self, fun other some member => ?_, ?_⟩
    · exact (kept other some (by simpa using member)).2.symm
    · rw [List.count_cons_of_ne (by simp)]
      exact List.count_eq_zero.mpr fun closed => uncleaned (orderly_closed page.log sound.orderly token _ closed).2

theorem use_sound (entry : Entry) (token : Nat) (sid : Int) (page : Page)
    (use : entry = .termRead token sid ∨ entry = .sendKeepalive token sid) (sound : Sound page)
    (started : Started page token) (live : Live page token) : Sound { page with log := entry :: page.log } := by
  have uncleaned : .cleaned token ∉ page.log := fun member => (sound.cleaned token started).mp member live
  have names : entry.token = token := by rcases use with rfl | rfl <;> rfl
  have cleaned : ∀ other, .cleaned other ∈ entry :: page.log ↔ .cleaned other ∈ page.log := fun other => by
    rcases use with rfl | rfl <;> simp
  have opened : ∀ other id, .opened other id ∈ entry :: page.log ↔ .opened other id ∈ page.log := fun other id => by
    rcases use with rfl | rfl <;> simp
  have closed : ∀ other id, (entry :: page.log).count (.closed other id) = page.log.count (.closed other id) :=
    fun other id => by rcases use with rfl | rfl <;> simp
  exact { sound.toControl with
    started := List.forall_mem_cons.mpr ⟨names.symm ▸ started, sound.started⟩
    cleaned := fun other begun => (cleaned other).trans (sound.cleaned other begun)
    waiting := fun other member => (sound.waiting other member).imp_right fun none id => mt (opened other id).mp (none id)
    active := fun other held => (opened other _).mpr (sound.active other held)
    intervals := fun interval member => by
      obtain ⟨begun, alive, handle, there⟩ := sound.intervals interval member
      exact ⟨begun, alive, handle, (opened _ _).mpr there⟩
    orderly := by rcases use with rfl | rfl <;> exact ⟨uncleaned, sound.orderly⟩
    settled := fun other id some member => by
      rw [Settled, cleaned, closed]
      exact sound.settled other id some ((opened other id).mp member) }

theorem poll_sound (token : Nat) (page : Page) (sound : Sound page) (started : Started page token) :
    Sound (poll token page) := by
  unfold poll
  dsimp only
  split
  · exact sound
  · rename_i going
    simp only [Bool.or_eq_true, bne_iff_ne, decide_eq_true_eq, not_or, Bool.not_eq_true, not_not] at going
    have live : Live page token := going.1
    have used := use_sound _ token (page.runs token).activeSession page (.inl rfl) sound started live
    refine { used with polls := fun other member => ?_ }
    rcases member with reading | waiting
    · rcases List.mem_cons.mp reading with rfl | old
      · exact started
      · exact sound.polls other (.inl old)
    · exact sound.polls other (.inr waiting)

theorem waited_out (pending : PendingOpen) (page : Page) (sound : Sound page) (there : pending ∈ page.opens) :
    let next := { page with opens := page.opens.erase pending }
    Sound next ∧ Started next pending.token ∧ (∀ sid, .opened pending.token sid ∉ next.log) ∧ pending.token ∉ waits next := by
  have moved : (waits page).Perm (pending.token :: waits { page with opens := page.opens.erase pending }) :=
    ((List.perm_cons_erase there).map _).append_left _ |>.trans List.perm_middle
  have waiting := sound.waiting pending.token (moved.mem_iff.mpr List.mem_cons_self)
  have distinct := List.nodup_cons.mp (moved.nodup_iff.mp sound.distinct)
  refine ⟨{ sound with waiting := fun token member => ?_, distinct := distinct.2 }, waiting.1, waiting.2, distinct.1⟩
  exact sound.waiting token (moved.mem_iff.mpr (List.mem_cons_of_mem _ member))

section

variable (token : Nat) (id : Int) (page : Page) (sound : Sound page) (started : Started page token)
  (unopened : ∀ sid, .opened token sid ∉ page.log)

include sound unopened

theorem unopened_unclosed (sid : Int) : page.log.count (.closed token sid) = 0 :=
  List.count_eq_zero.mpr fun closed => unopened sid (orderly_closed page.log sound.orderly token sid closed).1

include started

omit unopened in
theorem logged_control (absent : token ∉ waits page) : Control { page with log := .opened token id :: page.log } := by
  have cleaned : ∀ other, .cleaned other ∈ .opened token id :: page.log ↔ .cleaned other ∈ page.log := fun other => by simp
  refine { sound.toControl with
    started := List.forall_mem_cons.mpr ⟨started, sound.started⟩
    cleaned := fun other begun => (cleaned other).trans (sound.cleaned other begun)
    waiting := fun other member => (sound.waiting other member).imp_right fun none sid => ?_
    active := fun other held => List.mem_cons_of_mem _ (sound.active other held)
    intervals := fun interval member => ?_ }
  · have different : other ≠ token := fun same => absent (same ▸ member)
    simpa [different] using none sid
  · obtain ⟨begun, alive, handle, there⟩ := sound.intervals interval member
    exact ⟨begun, alive, handle, List.mem_cons_of_mem _ there⟩

omit started unopened in
theorem logged_others (other : Nat) (sid : Int) (different : other ≠ token) (some : 0 < sid)
    (member : .opened other sid ∈ .opened token id :: page.log) :
    Settled { page with log := .opened token id :: page.log } other sid := by
  have before := sound.settled other sid some (by simpa [different] using member)
  simpa [Settled] using before

theorem late_sound (absent : token ∉ waits page) (late : ¬ Live page token) :
    Sound (closeSession token id { page with log := .opened token id :: page.log }) := by
  apply closeSession_sound
  · exact logged_control token id page sound started absent
  · exact fun other sid => logged_others token id page sound other sid
  · refine ⟨fun _ => List.mem_cons_self, ?_, fun other _ member => ?_, ?_⟩
    · exact List.mem_cons_of_mem _ ((sound.cleaned token started).mpr late)
    · simpa [unopened] using member
    · rw [List.count_cons_of_ne (by simp)]
      exact unopened_unclosed token page sound unopened id

theorem failed_sound (absent : token ∉ waits page) (failed : id ≤ 0) :
    Sound { page with log := .opened token id :: page.log } := by
  refine { logged_control token id page sound started absent with settled := fun other sid some member => ?_ }
  by_cases same : other = token
  · have brought : sid = id := by simpa [same, unopened] using member
    omega
  · exact logged_others token id page sound other sid same some member

theorem brought_sound (absent : token ∉ waits page) (live : Live page token) :
    Sound { page with
      runs := Function.update page.runs token { page.runs token with activeSession := id }
      log := .opened token id :: page.log } := by
  have control := logged_control token id page sound started absent
  have uncleaned : .cleaned token ∉ page.log := fun member => (sound.cleaned token started).mp member live
  refine { control with
    active := fun other held => ?_
    intervals := fun interval member => ?_
    settled := fun other sid some member => ?_ }
  · dsimp only at held ⊢
    by_cases same : other = token
    · rw [same, Function.update_self]
      exact List.mem_cons_self
    · rw [Function.update_of_ne same] at held ⊢
      exact control.active other held
  · dsimp only
    have different : interval.token ≠ token := fun same => unopened _ (same ▸ (sound.intervals interval member).2.2.2)
    rw [Function.update_of_ne different]
    exact control.intervals interval member
  · by_cases same : other = token
    · subst same
      have brought : id = sid := by simpa [unopened, eq_comm] using member
      subst brought
      refine .inr ⟨by simpa using uncleaned, ?_, by simp⟩
      rw [List.count_cons_of_ne (by simp)]
      exact unopened_unclosed other page sound unopened id
    · have before := logged_others token id page sound other sid same some member
      simpa [Settled, Function.update_of_ne same] using before

end

theorem startKeepalive_sound (token : Nat) (id : Int) (interval : JsNumber) (intervalId : Nat) (page : Page)
    (sound : Sound page) (started : Started page token) (live : Live page token) (opened : .opened token id ∈ page.log)
    (none : ∀ interval ∈ page.intervals, interval.token ≠ token) :
    Sound (startKeepalive less token id interval intervalId page) := by
  unfold startKeepalive
  split
  · have sessions : ∀ other, (Function.update page.runs token { page.runs token with
        keepaliveHandle := some intervalId } other).activeSession = (page.runs other).activeSession := fun other => by
      by_cases same : other = token
      · rw [same, Function.update_self]
      · rw [Function.update_of_ne same]
    refine { sound.toControl with active := fun other held => ?_, intervals := ?_, settled := fun other sid some member => ?_ }
    · dsimp only at held ⊢
      rw [sessions] at held ⊢
      exact sound.active other held
    · refine List.forall_mem_cons.mpr ⟨⟨started, live, by simp, opened⟩, fun old member => ?_⟩
      dsimp only
      rw [Function.update_of_ne (none old member)]
      exact sound.intervals old member
    · rw [Settled]
      dsimp only
      rw [sessions]
      exact sound.settled other sid some member
  · exact sound

theorem opened_sound (pending : PendingOpen) (id : Except JsString Int) (intervalId : Nat) (page : Page)
    (sound : Sound page) (there : pending ∈ page.opens) :
    Sound (opened less pending id intervalId { page with
      opens := page.opens.erase pending
      log := (id.toOption.map (Entry.opened pending.token)).toList ++ page.log }) := by
  obtain ⟨out, started, unopened, absent⟩ := waited_out pending page sound there
  cases id with
  | error message => exact sound_same _ _ (appendLine_same _ _) out
  | ok id =>
      unfold opened
      dsimp only [Except.toOption, Option.map, Option.toList, List.singleton_append]
      split
      · rename_i left
        refine late_sound pending.token id _ out started unopened absent fun live => ?_
        simp only [Bool.or_eq_true, bne_iff_ne] at left
        exact left.elim (fun gone => by rw [live.1] at gone; cases gone) fun other => other live.2
      · rename_i stays
        simp only [Bool.or_eq_true, bne_iff_ne, not_or, Bool.not_eq_true, not_not] at stays
        have live : Live page pending.token := stays
        split
        · rename_i failed
          exact sound_same _ _ (appendLine_same _ _) (failed_sound pending.token id _ out started unopened absent failed)
        · have brought := brought_sound pending.token id _ out started unopened absent live
          have kept := startKeepalive_sound less pending.token id (pending.keepaliveInterval.getD (.int 60)) intervalId _
            (sound_same _ _ (appendLine_same (js "连接成功") _) brought) started live List.mem_cons_self
            fun interval member same => unopened _ (same ▸ (out.intervals interval member).2.2.2)
          refine poll_sound pending.token _ kept ?_
          unfold startKeepalive
          split <;> exact started

theorem gotSettings_same (pending : PendingSettings) (keepaliveInterval : Option JsNumber) (page : Page)
    (there : pending ∈ page.settings) :
    Same page (gotSettings pending keepaliveInterval { page with settings := page.settings.erase pending }) := by
  have moved : (waits page).Perm (pending.token :: ((page.settings.erase pending).map (·.token) ++ page.opens.map (·.token))) :=
    ((List.perm_cons_erase there).map _).append_right _
  exact ⟨rfl, rfl, rfl, rfl, fun _ => rfl, fun _ => rfl, (moved.trans List.perm_middle.symm).symm, fun _ => id, rfl⟩

theorem read_same (token : Nat) (chunk : Option JsString) (timeoutId : Nat) (page : Page) (reading : token ∈ page.reads) :
    Same page (read token chunk timeoutId { page with reads := page.reads.erase token }) := by
  have shown : ∀ page : Page, ∃ lines, (match chunk with
      | some chunk => if chunk.isEmpty then page else appendLine chunk page
      | none => page) = { page with lines } := fun page => by
    cases chunk with
    | none => exact ⟨_, rfl⟩
    | some chunk => by_cases empty : chunk.isEmpty <;> simp only [empty] <;> exact ⟨_, rfl⟩
  obtain ⟨lines, same⟩ := shown { page with reads := page.reads.erase token }
  unfold read
  rw [same]
  refine ⟨rfl, rfl, rfl, rfl, fun other => ?_, fun other => ?_, .refl _, fun other member => ?_, rfl⟩
  · by_cases this : other = token <;> simp [this]
  · by_cases this : other = token <;> simp [this]
  · rcases member with old | waiting
    · exact .inl (List.mem_of_mem_erase old)
    · rcases List.mem_cons.mp waiting with rfl | old
      · exact .inl reading
      · exact .inr old

theorem step_sound (page next : Page) (event : Event) (stepped : step less page event = some next) (sound : Sound page) :
    Sound next := by
  cases event with
  | mount params =>
      obtain ⟨gone, ⟨⟩⟩ := Option.ite_none_right_eq_some.mp stepped
      exact effect_sound params page sound (Option.isNone_iff_eq_none.mp gone)
  | render params =>
      obtain ⟨mounted, here, rfl⟩ := Option.map_eq_some_iff.mp stepped
      split
      · exact sound
      · exact effect_sound params _ (cleanup_sound _ _ page sound here) (cleanup_gone _ page)
  | unmount =>
      obtain ⟨mounted, here, rfl⟩ := Option.map_eq_some_iff.mp stepped
      exact cleanup_sound _ _ page sound here
  | gotSettings pending keepaliveInterval =>
      obtain ⟨there, ⟨⟩⟩ := Option.ite_none_right_eq_some.mp stepped
      exact sound_same _ _ (gotSettings_same pending keepaliveInterval page there) sound
  | opened pending id intervalId =>
      obtain ⟨⟨there, _⟩, ⟨⟩⟩ := Option.ite_none_right_eq_some.mp stepped
      exact opened_sound less pending id intervalId page sound there
  | read token chunk timeoutId =>
      obtain ⟨⟨there, _⟩, ⟨⟩⟩ := Option.ite_none_right_eq_some.mp stepped
      exact sound_same _ _ (read_same token chunk timeoutId page there) sound
  | timeout timeoutId token =>
      obtain ⟨there, ⟨⟩⟩ := Option.ite_none_right_eq_some.mp stepped
      have started : Started page token := sound.polls token (.inr (List.mem_map_of_mem there))
      have fired : Same page { page with timeouts := page.timeouts.erase (timeoutId, token) } :=
        ⟨rfl, rfl, rfl, rfl, fun _ => rfl, fun _ => rfl, .refl _,
          fun other => Or.imp_right fun member => List.map_subset _ List.erase_subset member, rfl⟩
      exact poll_sound token _ (sound_same _ _ fired sound) started
  | intervalTick intervalId =>
      obtain ⟨interval, found, rfl⟩ := Option.map_eq_some_iff.mp stepped
      obtain ⟨started, live, _⟩ := sound.intervals interval (List.mem_of_find?_eq_some found)
      have sent : Same page { page with keepalives := interval.sid :: page.keepalives } :=
        ⟨rfl, rfl, rfl, rfl, fun _ => rfl, fun _ => rfl, .refl _, fun _ => id, rfl⟩
      exact use_sound _ interval.token interval.sid _ (.inr rfl) (sound_same _ _ sent sound) started live
  | keptAlive sid =>
      obtain ⟨_, ⟨⟩⟩ := Option.ite_none_right_eq_some.mp stepped
      have answered : Same page { page with keepalives := page.keepalives.erase sid } :=
        ⟨rfl, rfl, rfl, rfl, fun _ => rfl, fun _ => rfl, .refl _, fun _ => id, rfl⟩
      exact sound_same _ _ answered sound

/-- In every run a session is closed only by the effect run that it was opened for, after the
clean-up of that run, and as soon as both have happened exactly once; and a run that has been
cleaned up neither reads nor sends a keepalive. -/
theorem terminal_sessions_closed (events : List Event) (page : Page) (run : Run (Moves (step less)) {} events page)
    (token : Nat) (sid : Int) :
    (∀ later earlier, page.log = later ++ .closed token sid :: earlier →
      .opened token sid ∈ earlier ∧ .cleaned token ∈ earlier) ∧
    (0 < sid → .opened token sid ∈ page.log →
      page.log.count (.closed token sid) = if .cleaned token ∈ page.log then 1 else 0) ∧
    ∀ later earlier, page.log = later ++ .termRead token sid :: earlier ∨ page.log = later ++ .sendKeepalive token sid :: earlier →
      .cleaned token ∉ earlier := by
  have sound : Sound page := run_invariant (Moves (step less)) Sound
    (fun before event after known move => step_sound less before after event move known) {} events page initial_sound run
  refine ⟨fun later earlier split => ?_, fun positive member => ?_, fun later earlier split => ?_⟩
  · have orderly : Orderly (.closed token sid :: earlier) := orderly_earlier later _ (split ▸ sound.orderly)
    exact orderly.1
  · rcases sound.settled token sid positive member with ⟨cleaned, once⟩ | ⟨uncleaned, none, _⟩
    · rw [if_pos cleaned, once]
    · rw [if_neg uncleaned, none]
  · rcases split with split | split
    · have orderly : Orderly (.termRead token sid :: earlier) := orderly_earlier later _ (split ▸ sound.orderly)
      exact orderly.1
    · have orderly : Orderly (.sendKeepalive token sid :: earlier) := orderly_earlier later _ (split ▸ sound.orderly)
      exact orderly.1

-- The connection is changed while the first session is being opened, and the page is left.
def changedConnection : List Event :=
  [.mount ⟨some (.int 1), none⟩, .gotSettings ⟨1, .int 1, []⟩ none, .render ⟨some (.int 2), none⟩,
    .gotSettings ⟨2, .int 2, []⟩ none, .opened ⟨2, draft (.int 2) [], none⟩ (.ok 8) 5, .opened ⟨1, draft (.int 1) [], none⟩ (.ok 7) 6,
    .intervalTick 5, .unmount]

theorem changedConnection_closed : ∃ page, Run (Moves (step fun _ _ => true)) {} changedConnection page ∧
    page.log.count (.closed 1 7) = 1 ∧ page.log.count (.closed 2 8) = 1 := by
  have run : Run (Moves (step fun _ _ => true)) {} changedConnection _ := moves_run (step fun _ _ => true) _ _ _ rfl
  refine ⟨_, run, ?_, ?_⟩
  · exact (terminal_sessions_closed (fun _ _ => true) changedConnection _ run 1 7).2.1 (by decide) (by decide)
  · exact (terminal_sessions_closed (fun _ _ => true) changedConnection _ run 2 8).2.1 (by decide) (by decide)

end Kessh.TerminalPage
