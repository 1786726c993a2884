import Kessh.Lynx.HostSessions

set_option autoImplicit false

-- The ArkTS page of the monitor: its session and the refresh intervals that its calls of openSession set.
namespace Kessh.MonitorPage

open Ecma Ledger Labelled
open HostSessions (fresh returned held)

-- The fields of the page, whether it is there, the intervals that are active, and the fetches on their
-- way: those that openSession awaits, and those of the refresh button and of the intervals.
structure Page where
  hostList : List ConnectionRecord := []
  selectedHost : Option ConnectionRecord := none
  showHostPicker : Bool := false
  isLoading : Bool := false
  sessionError : JsString := []
  sessionId : Int := -1
  refreshTimer : Int := -1
  currentPassword : JsString := []
  present : Bool := true
  intervals : List Int := []
  firstFetches : List Int := []
  fetches : List Int := []
  ledger : List (Entry Int) := []

-- A selection comes with what the store has and with what the engine returns for the open. The
-- metrics are fetched or fail with a message.
inductive Event where
  | aboutToAppear (stores : Stores) (session : Int)
  | showPicker (shown : Bool)
  | handleHostSelect (record : ConnectionRecord) (stores : Stores) (session : Int)
  | refresh
  | intervalTick (id : Int)
  | firstFetched (sid : Int) (result : Except JsString Unit) (intervalId : Int)
  | fetched (sid : Int) (result : Except JsString Unit)
  | aboutToDisappear

def clearTimer (page : Page) : Page :=
  if page.refreshTimer > 0 then
    { page with intervals := page.intervals.filter (· != page.refreshTimer), refreshTimer := -1 }
  else page

def cleanupSession (page : Page) : Page :=
  let page := clearTimer page
  if page.sessionId > 0 then { page with ledger := HostSessions.closeSession page.sessionId page.ledger, sessionId := -1 }
  else page

-- openSession up to the await of the first fetch.
def openSession (session : Int) (page : Page) : Page :=
  let page := cleanupSession { page with isLoading := true, sessionError := [] }
  let page := { page with ledger := returned session page.ledger }
  if session ≤ 0 then { page with sessionError := js "SSH连接失败", isLoading := false }
  else { page with sessionId := session, isLoading := true, firstFetches := session :: page.firstFetches }

def handleHostSelect (record : ConnectionRecord) (stores : Stores) (session : Int) (page : Page) : Page :=
  match ConnectionStore.getPassword (some record) stores with
  | none => page
  | some savedPassword =>
      if savedPassword.isEmpty then page
      else openSession session { page with
        showHostPicker := false, selectedHost := some record, currentPassword := savedPassword }

def refreshHosts (stores : Stores) (session : Int) (page : Page) : Page :=
  let saved := (ConnectionStore.list stores).filter fun item => truthy (ConnectionStore.getPassword (some item) stores)
  let page := { page with hostList := saved }
  match page.selectedHost, page.hostList with
  | none, first :: _ => handleHostSelect first stores session page
  | _, _ => page

-- fetchMetrics up to its await.
def fetchMetrics (page : Page) : Page :=
  if page.sessionId ≤ 0 then page else { page with isLoading := true, fetches := page.sessionId :: page.fetches }

-- fetchMetrics after its await. Its error is caught.
def metricsFetched (result : Except JsString Unit) (page : Page) : Page :=
  let sessionError := match result with
    | .ok _ => []
    | .error message => message
  { page with sessionError, isLoading := false }

-- openSession after its await.
def startTimer (intervalId : Int) (page : Page) : Page :=
  { page with refreshTimer := intervalId, intervals := intervalId :: page.intervals, isLoading := false }

def aboutToDisappear (page : Page) : Page := cleanupSession { page with present := false }

-- The user acts while the page is there.
def step (page : Page) : Event → Option Page
  | .aboutToAppear stores session =>
      if page.present && fresh session page.ledger then some (refreshHosts stores session page) else none
  | .showPicker shown => if page.present then some { page with showHostPicker := shown } else none
  | .handleHostSelect record stores session =>
      if page.present && page.showHostPicker && page.hostList.contains record && fresh session page.ledger then
        some (handleHostSelect record stores session page)
      else none
  | .refresh => if page.present && page.selectedHost.isSome && !page.isLoading then some (fetchMetrics page) else none
  | .intervalTick id => if id ∈ page.intervals then some (fetchMetrics page) else none
  | .firstFetched sid result intervalId =>
      if sid ∈ page.firstFetches ∧ 0 < intervalId ∧ intervalId ∉ page.intervals then
        some (startTimer intervalId (metricsFetched result { page with firstFetches := page.firstFetches.erase sid }))
      else none
  | .fetched sid result =>
      if sid ∈ page.fetches then some (metricsFetched result { page with fetches := page.fetches.erase sid }) else none
  | .aboutToDisappear => if page.present then some (aboutToDisappear page) else none

structure Done (page : Page) : Prop where
  gone : page.present = false
  firstFetches : page.firstFetches = []
  fetches : page.fetches = []

-- The one interval is that of refreshTimer, the one open session that of sessionId, and nothing is
-- left when everything is done.
structure Kept (page : Page) : Prop where
  interval : page.intervals = [] ∨ page.intervals = [page.refreshTimer]
  session : live page.ledger = [] ∨ live page.ledger = [page.sessionId]
  left : Done page → page.intervals = [] ∧ live page.ledger = []

-- The interval is set while the page is there and has none.
def Fits (page : Page) : Event → Prop
  | .firstFetched _ _ _ => page.present = true ∧ page.intervals = []
  | _ => True

structure Sound (page : Page) : Prop where
  balanced : Balanced page.ledger (held page.sessionId)
  gone : page.present = false → page.sessionId ≤ 0
  interval : (page.refreshTimer ≤ 0 ∧ page.intervals = []) ∨
    (page.present = true ∧ 0 < page.refreshTimer ∧ page.intervals = [page.refreshTimer])

theorem initial_sound : Sound {} := ⟨balanced_nil, fun gone => absurd gone (by decide), .inl ⟨by decide, rfl⟩⟩

theorem held_live (page : Page) (balanced : Balanced page.ledger (held page.sessionId)) :
    live page.ledger = if page.sessionId > 0 then [page.sessionId] else [] := by
  unfold held at balanced
  split at balanced
  · rename_i session
    rw [if_pos session]
    exact List.perm_singleton.mp balanced.2
  · rename_i session
    rw [if_neg session]
    exact balanced.2.eq_nil

theorem sound_kept (page : Page) (sound : Sound page) : Kept page where
  interval := sound.interval.imp And.right fun ticking => ticking.2.2
  session := by
    rw [held_live page sound.balanced]
    split
    · exact .inr rfl
    · exact .inl rfl
  left := fun done => by
    refine ⟨?_, ?_⟩
    · rcases sound.interval with ⟨_, none⟩ | ⟨there, _⟩
      · exact none
      · rw [done.gone] at there
        cases there
    · rw [held_live page sound.balanced, if_neg (Int.not_lt.mpr (sound.gone done.gone))]

structure Same (page next : Page) : Prop where
  session : next.sessionId = page.sessionId
  timer : next.refreshTimer = page.refreshTimer
  present : next.present = page.present
  intervals : next.intervals = page.intervals
  ledger : next.ledger = page.ledger

theorem sound_same (page next : Page) (same : Same page next) (sound : Sound page) : Sound next where
  balanced := by
    rw [same.ledger, same.session]
    exact sound.balanced
  gone := by
    rw [same.present, same.session]
    exact sound.gone
  interval := by
    rw [same.timer, same.intervals, same.present]
    exact sound.interval

theorem fetchMetrics_same (page : Page) : Same page (fetchMetrics page) := by
  unfold fetchMetrics
  split <;> exact ⟨rfl, rfl, rfl, rfl, rfl⟩

structure Clean (page : Page) : Prop where
  session : page.sessionId ≤ 0
  timer : page.refreshTimer ≤ 0
  intervals : page.intervals = []
  balanced : Balanced page.ledger []

theorem clean_sound (page : Page) (clean : Clean page) : Sound page where
  balanced := by
    rw [HostSessions.held_none _ clean.session]
    exact clean.balanced
  gone := fun _ => clean.session
  interval := .inl ⟨clean.timer, clean.intervals⟩

theorem cleanupSession_clean (page : Page) (balanced : Balanced page.ledger (held page.sessionId))
    (interval : (page.refreshTimer ≤ 0 ∧ page.intervals = []) ∨
      (0 < page.refreshTimer ∧ page.intervals = [page.refreshTimer])) : Clean (cleanupSession page) := by
  have cleared : ∃ refreshTimer ≤ 0, clearTimer page = { page with refreshTimer, intervals := [] } := by
    unfold clearTimer
    rcases interval with ⟨off, none⟩ | ⟨on, one⟩
    · refine ⟨page.refreshTimer, off, ?_⟩
      rw [if_neg (Int.not_lt.mpr off), ← none]
    · refine ⟨-1, by decide, ?_⟩
      rw [if_pos on, one]
      simp
  obtain ⟨refreshTimer, off, same⟩ := cleared
  unfold cleanupSession
  rw [same]
  dsimp only
  by_cases session : page.sessionId > 0
  · rw [if_pos session]
    exact ⟨Int.negSucc_le_zero 0, off, rfl, HostSessions.balanced_let_go page.ledger page.sessionId balanced⟩
  · rw [if_neg session]
    rw [HostSessions.held_none _ (Int.not_lt.mp session)] at balanced
    exact ⟨Int.not_lt.mp session, off, rfl, balanced⟩

theorem sound_clean (page : Page) (sound : Sound page) : Clean (cleanupSession page) :=
  cleanupSession_clean page sound.balanced (sound.interval.imp_right And.right)

theorem cleanupSession_kept (page : Page) : (cleanupSession page).present = page.present ∧
    acquired (cleanupSession page).ledger = acquired page.ledger := by
  have cleared : (clearTimer page).present = page.present ∧ (clearTimer page).ledger = page.ledger := by
    unfold clearTimer
    split <;> exact ⟨rfl, rfl⟩
  unfold cleanupSession
  dsimp only
  split
  · refine ⟨cleared.1, ?_⟩
    rw [HostSessions.acquired_closeSession, cleared.2]
  · exact ⟨cleared.1, by rw [cleared.2]⟩

theorem openSession_sound (session : Int) (page : Page) (sound : Sound page) (there : page.present = true)
    (new : fresh session page.ledger = true) : Sound (openSession session page) := by
  have started : Sound { page with isLoading := true, sessionError := [] } :=
    sound_same page _ ⟨rfl, rfl, rfl, rfl, rfl⟩ sound
  have clean := sound_clean _ started
  obtain ⟨present, known⟩ := cleanupSession_kept { page with isLoading := true, sessionError := [] }
  unfold openSession
  generalize cleanupSession { page with isLoading := true, sessionError := [] } = cleaned at clean present known
  have here : cleaned.present = true := present.trans there
  have unknown : fresh session cleaned.ledger = true := by
    rw [fresh, known]
    exact new
  have opened := HostSessions.balanced_returned cleaned.ledger session clean.balanced unknown
  dsimp only
  by_cases failed : session ≤ 0
  · rw [if_pos failed]
    rw [HostSessions.held_none _ failed] at opened
    exact clean_sound _ ⟨clean.session, clean.timer, clean.intervals, opened⟩
  · rw [if_neg failed]
    refine ⟨opened, fun gone => ?_, .inl ⟨clean.timer, clean.intervals⟩⟩
    rw [here] at gone
    cases gone

theorem handleHostSelect_sound (record : ConnectionRecord) (stores : Stores) (session : Int) (page : Page) (sound : Sound page)
    (there : page.present = true) (new : fresh session page.ledger = true) :
    Sound (handleHostSelect record stores session page) := by
  unfold handleHostSelect
  split
  · exact sound
  · split
    · exact sound
    · exact openSession_sound session _ (sound_same page _ ⟨rfl, rfl, rfl, rfl, rfl⟩ sound) there new

theorem refreshHosts_sound (stores : Stores) (session : Int) (page : Page) (sound : Sound page)
    (there : page.present = true) (new : fresh session page.ledger = true) : Sound (refreshHosts stores session page) := by
  have listed : ∀ hostList, Sound { page with hostList } := fun _ => sound_same page _ ⟨rfl, rfl, rfl, rfl, rfl⟩ sound
  unfold refreshHosts
  dsimp only
  split
  · exact handleHostSelect_sound _ stores session _ (listed _) there new
  · exact listed _

theorem step_cases (before : Page) (event : Event) (after : Page) (move : step before event = some after) :
    (∃ sid result intervalId, event = .firstFetched sid result intervalId ∧ 0 < intervalId ∧
      after = startTimer intervalId (metricsFetched result { before with firstFetches := before.firstFetches.erase sid })) ∨
    (Fits before event ∧ (Sound before → Sound after) ∧
      (before.present = false → after.present = false ∧ after.intervals = before.intervals)) := by
  cases event with
  | aboutToAppear stores session =>
      obtain ⟨enabled, same⟩ := Option.ite_none_right_eq_some.mp move
      obtain rfl := Option.some.inj same
      simp only [Bool.and_eq_true] at enabled
      refine .inr ⟨trivial, fun sound => refreshHosts_sound stores session before sound enabled.1 enabled.2, fun gone => ?_⟩
      simp [gone] at enabled
  | showPicker shown =>
      obtain ⟨there, same⟩ := Option.ite_none_right_eq_some.mp move
      obtain rfl := Option.some.inj same
      exact .inr ⟨trivial, sound_same before _ ⟨rfl, rfl, rfl, rfl, rfl⟩, fun gone => ⟨gone, rfl⟩⟩
  | handleHostSelect record stores session =>
      obtain ⟨enabled, same⟩ := Option.ite_none_right_eq_some.mp move
      obtain rfl := Option.some.inj same
      simp only [Bool.and_eq_true] at enabled
      obtain ⟨⟨⟨there, _⟩, _⟩, new⟩ := enabled
      refine .inr ⟨trivial, fun sound => handleHostSelect_sound record stores session before sound there new, fun gone => ?_⟩
      rw [there] at gone
      cases gone
  | refresh =>
      obtain ⟨enabled, same⟩ := Option.ite_none_right_eq_some.mp move
      obtain rfl := Option.some.inj same
      have kept := fetchMetrics_same before
      exact .inr ⟨trivial, sound_same before _ kept, fun gone => ⟨kept.present.trans gone, kept.intervals⟩⟩
  | intervalTick id =>
      obtain ⟨enabled, same⟩ := Option.ite_none_right_eq_some.mp move
      obtain rfl := Option.some.inj same
      have kept := fetchMetrics_same before
      exact .inr ⟨trivial, sound_same before _ kept, fun gone => ⟨kept.present.trans gone, kept.intervals⟩⟩
  | firstFetched sid result intervalId =>
      obtain ⟨enabled, same⟩ := Option.ite_none_right_eq_some.mp move
      exact .inl ⟨sid, result, intervalId, rfl, enabled.2.1, (Option.some.inj same).symm⟩
  | fetched sid result =>
      obtain ⟨enabled, same⟩ := Option.ite_none_right_eq_some.mp move
      obtain rfl := Option.some.inj same
      exact .inr ⟨trivial, sound_same before _ ⟨rfl, rfl, rfl, rfl, rfl⟩, fun gone => ⟨gone, rfl⟩⟩
  | aboutToDisappear =>
      obtain ⟨there, same⟩ := Option.ite_none_right_eq_some.mp move
      obtain rfl := Option.some.inj same
      refine .inr ⟨trivial, fun sound => ?_, fun gone => ?_⟩
      · exact clean_sound _ (cleanupSession_clean _ sound.balanced (sound.interval.imp_right And.right))
      · rw [there] at gone
        cases gone

theorem step_sound (before : Page) (event : Event) (after : Page) (sound : Sound before) (fits : Fits before event)
    (move : step before event = some after) : Sound after := by
  rcases step_cases before event after move with ⟨sid, result, intervalId, rfl, positive, rfl⟩ | ⟨_, kept, _⟩
  · refine ⟨sound.balanced, fun gone => ?_, .inr ⟨fits.1, positive, congrArg (intervalId :: ·) fits.2⟩⟩
    exact sound.gone gone
  · exact kept sound

def Spoiled (page : Page) : Prop := page.present = false ∧ page.intervals ≠ []

theorem step_spoiled (before : Page) (event : Event) (after : Page) (spoiled : Spoiled before)
    (move : step before event = some after) : Spoiled after := by
  rcases step_cases before event after move with ⟨sid, result, intervalId, rfl, _, rfl⟩ | ⟨_, _, kept⟩
  · exact ⟨spoiled.1, List.cons_ne_nil _ _⟩
  · obtain ⟨gone, same⟩ := kept spoiled.1
    exact ⟨gone, same ▸ spoiled.2⟩

theorem unfit_breaks (before : Page) (event : Event) (after : Page) (unfit : ¬ Fits before event)
    (move : step before event = some after) : ¬ Kept after ∨ Spoiled after := by
  rcases step_cases before event after move with ⟨sid, result, intervalId, rfl, _, rfl⟩ | ⟨fits, _⟩
  · by_cases there : before.present = true
    · refine .inl fun kept => unfit ⟨there, ?_⟩
      rcases kept.interval with none | one
      · cases none
      · exact (List.cons.inj one).2
    · exact .inr ⟨Bool.not_eq_true _ |>.mp there, List.cons_ne_nil _ _⟩
  · exact absurd fits unfit

/-- The session and the interval are kept in every run where each fetch that openSession awaits comes while
the page is there and has no interval; and a run that ends when the page is gone and everything is done
keeps them only if so. -/
theorem monitor_intervals_kept (events : List Event) :
    ((Steps step {} events fun before event _ => Fits before event) → Always step {} events Kept) ∧
      ∀ last, Run (Moves step) {} events last → Done last → Always step {} events Kept →
        Steps step {} events fun before event _ => Fits before event := by
  constructor
  · exact fits_always step {} events Sound Kept initial_sound Fits step_sound sound_kept
  · intro last run done
    refine ended_fits step {} last events Sound Kept Spoiled initial_sound Fits step_sound (fun before event after _ unfit move =>
      unfit_breaks before event after unfit move) step_spoiled run fun lost kept => ?_
    exact lost.2 (kept.left done).1

-- The page is left while the first metrics are on their way: the interval is set when they come.
def leftEarly : List Event :=
  let connections : ConnectionStore := { history := [HostSessions.savedHost 1], passwords := fun _ => some (js "p") }
  let stores : Stores := { initialStores noon { available := false } with connections }
  [.aboutToAppear stores 7, .aboutToDisappear, .firstFetched 7 (.ok ()) 3]

theorem interval_set_late : ¬ Always step {} leftEarly Kept := by
  intro always
  have run : Run (Moves step) {} leftEarly _ := moves_run step _ _ _ rfl
  have kept := always leftEarly [] _ (List.append_nil _).symm run
  exact absurd (kept.left ⟨rfl, rfl, rfl⟩).1 (by decide)

end Kessh.MonitorPage
