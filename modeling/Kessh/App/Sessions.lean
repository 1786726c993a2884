import Kessh.App.LynxClients
import Kessh.Native.TableRuns

set_option autoImplicit false

-- The app: any number of pages of both front ends over the one native module.
namespace Kessh.AppSessions

open Ecma Ledger Labelled Clients
open Native (Operation tickets)

variable {κ : Type} (client : κ → Client Int)

structure App where
  native : Native.World := {}
  pages : List (Seat client) := []

-- The module takes its own steps, or JavaScript calls it; a page appears, or something happens to it; or what a page
-- asks for is done: it takes the id that its open has returned, calls the module on its session, or closes it.
inductive Event where
  | native (event : Native.Event)
  | ask (operation : Operation)
  | appear (kind : κ)
  | page (i : Nat) (kind : κ) (event : (client kind).Event)
  | take (i : Nat) (sessionId : Int)
  | use (i : Nat) (sessionId : Int) (operation : Operation)
  | close (i : Nat) (sessionId : Int)

variable {client}

def App.given (app : App client) : List Int := app.pages.flatMap Seat.got

def App.closed (app : App client) : List Int := app.pages.flatMap Seat.gaveBack

-- The session that an operation is a call on.
def calledOn : Operation → Option Int
  | .sendKeepalive sessionId => some sessionId
  | .write sessionId _ => some sessionId
  | .read sessionId => some sessionId
  | .executeCommand sessionId _ => some sessionId
  | .downloadFile sessionId _ => some sessionId
  | .uploadFile sessionId _ _ => some sessionId
  | _ => none

-- Calls may overlap: those of a page are made on the thread of the pages or on one of the pool.
def App.call (app : App client) (operation : Operation) : Option Native.World := Native.step app.native (.start operation)

def App.serve (app : App client) (i : Nat) (entry : Entry Int) (native : Native.World) : Option (App client) :=
  app.pages[i]?.bind fun page =>
    if page.asks entry then some { native, pages := app.pages.set i (page.serve entry) } else none

-- An id is taken once. Pages act at any time; what they ask for is done for each in order.
def step [DecidableEq κ] (app : App client) : Event client → Option (App client)
  | .native event =>
      if event.proceeds then (Native.step app.native event).map fun native => { app with native } else none
  | .ask operation =>
      if operation.closes.isNone then (app.call operation).map fun native => { app with native } else none
  | .appear kind => some { app with pages := app.pages ++ [Seat.appear client kind] }
  | .page i kind event =>
      app.pages[i]?.bind fun page => (page.step kind event).map fun next => { app with pages := app.pages.set i next }
  | .take i sessionId =>
      if app.given.count sessionId < app.native.returned.count sessionId then app.serve i (.acquire sessionId) app.native
      else none
  | .use i sessionId operation =>
      if calledOn operation = some sessionId then (app.call operation).bind (app.serve i (.use sessionId)) else none
  | .close i sessionId => (app.call (.closeSession sessionId)).bind (app.serve i (.release sessionId))

def Fits (app : App client) : Event client → Prop
  | .page i kind event => ∀ page, app.pages[i]? = some page → page.Fits kind event
  | _ => True

-- The table has the sessions that the pages hold and those on their way to one, each once. A page that has gone, and
-- for which everything is done, holds none; what it holds is there, and it asks for nothing else. A close finds its
-- session, and so does any call, whoever makes it, while a page holds the session.
structure Kept (app : App client) : Prop where
  distinct : app.native.sessions.Nodup
  sessions : app.native.settled = true → app.native.sessions.Perm
    (app.pages.flatMap Seat.holds ++ (app.native.returned.diff app.given ++ app.native.carried))
  left : ∀ page ∈ app.pages, page.gone = true → page.done = page.ledger → page.holds = []
  there : ∀ page ∈ app.pages, ∀ sessionId ∈ page.holds, sessionId ∈ app.native.sessions
  asked : ∀ page ∈ app.pages, ∀ sessionId, page.asks (.use sessionId) = true ∨ page.asks (.release sessionId) = true →
    sessionId ∈ page.holds
  found : ∀ task sessionId purpose, (∃ page ∈ app.pages, sessionId ∈ page.holds) ∨ purpose = .close →
    app.native.call task ⟨.findSession sessionId purpose, none⟩ = none

structure Good (app : App client) : Prop where
  tabled : app.native.Tabled app.closed
  given : ∀ sessionId, app.given.count sessionId ≤ app.native.returned.count sessionId
  kept : ∀ page ∈ app.pages, page.Kept

theorem initial_good : Good ({} : App client) := ⟨Native.tabled_initial, fun _ => Nat.le_refl 0, by simp⟩

theorem good_counts (app : App client) (good : Good app) (sessionId : Int) :
    (app.pages.flatMap Seat.holds).count sessionId + app.closed.count sessionId = app.given.count sessionId ∧
      app.given.count sessionId ≤ app.native.returned.count sessionId ∧
      app.native.returned.count sessionId + app.native.carried.count sessionId = (tickets app.native.ledger).count sessionId ∧
      (tickets app.native.ledger).count sessionId ≤ 1 :=
  ⟨seats_count app.pages good.kept sessionId, good.given sessionId, good.tabled.shares sessionId,
    List.nodup_iff_count.mp good.tabled.distinct sessionId⟩

theorem held_there (app : App client) (good : Good app) (page : Seat client) (member : page ∈ app.pages) (sessionId : Int)
    (held : sessionId ∈ page.holds) : sessionId ∈ app.native.sessions ∧ sessionId ∉ app.closed := by
  obtain ⟨held', given, shares, once⟩ := good_counts app good sessionId
  have positive : 0 < (app.pages.flatMap Seat.holds).count sessionId :=
    List.count_pos_iff.mpr (List.mem_flatMap.mpr ⟨page, member, held⟩)
  have left : sessionId ∉ app.closed := fun gone => by
    have closed := List.count_pos_iff.mpr gone
    omega
  exact ⟨good.tabled.kept sessionId (List.count_pos_iff.mp (by omega)) left, left⟩

theorem asked_held (app : App client) (good : Good app) (page : Seat client) (member : page ∈ app.pages) (sessionId : Int)
    (asked : page.asks (.use sessionId) = true ∨ page.asks (.release sessionId) = true) : sessionId ∈ page.holds := by
  rcases asked with use | release
  · exact (page.asks_sound _ (good.kept page member) use).1
  · exact (page.asks_sound _ (good.kept page member) release).1

theorem good_kept (app : App client) (good : Good app) : Kept app where
  distinct := good.tabled.numbered.keys
  sessions settled := by
    refine List.perm_iff_count.mpr fun sessionId => ?_
    obtain ⟨held, given, shares, once⟩ := good_counts app good sessionId
    have row := List.nodup_iff_count.mp good.tabled.numbered.keys sessionId
    change app.native.sessions.count sessionId ≤ 1 at row
    have known := Native.tabled_sessions app.native app.closed good.tabled settled sessionId
    rw [← List.count_pos_iff, ← List.count_pos_iff, ← List.count_eq_zero] at known
    rw [List.count_append, List.count_append, List.count_diff]
    omega
  left page member := page.kept_left (good.kept page member)
  there page member sessionId held := (held_there app good page member sessionId held).1
  asked page member := asked_held app good page member
  found := by
    rintro task sessionId purpose (⟨page, member, held⟩ | rfl)
    · exact Native.session_found app.native task sessionId purpose (held_there app good page member sessionId held).1
    · exact Native.close_found app.native task sessionId app.closed good.tabled

theorem serve_counts (app : App client) (i : Nat) (page : Seat client) (here : app.pages[i]? = some page) (entry : Entry Int)
    (sessionId : Int) :
    ((app.pages.set i (page.serve entry)).flatMap Seat.got).count sessionId =
        app.given.count sessionId + (acquired [entry]).count sessionId ∧
      ((app.pages.set i (page.serve entry)).flatMap Seat.gaveBack).count sessionId =
        app.closed.count sessionId + (released [entry]).count sessionId := by
  have got := counted_set Seat.got app.pages i page (page.serve entry) here sessionId
  have back := counted_set Seat.gaveBack app.pages i page (page.serve entry) here sessionId
  have taken : (page.serve entry).got = acquired [entry] ++ page.got := by cases entry <;> rfl
  have given : (page.serve entry).gaveBack = released [entry] ++ page.gaveBack := by cases entry <;> rfl
  rw [taken, List.count_append] at got
  rw [given, List.count_append] at back
  exact ⟨by unfold App.given; omega, by unfold App.closed; omega⟩

theorem serve_good (app next : App client) (i : Nat) (entry : Entry Int) (native : Native.World) (good : Good app)
    (tabled : native.Tabled (released [entry] ++ app.closed))
    (room : ∀ sessionId, app.given.count sessionId + (acquired [entry]).count sessionId ≤ native.returned.count sessionId)
    (move : app.serve i entry native = some next) : Good next := by
  obtain ⟨page, here, served⟩ := Option.bind_eq_some_iff.mp move
  obtain ⟨asked, same⟩ := Option.ite_none_right_eq_some.mp served
  obtain rfl := Option.some.inj same
  have counts := serve_counts app i page here entry
  refine ⟨Native.tabled_closed native _ _ (fun sessionId => ?_) tabled, fun sessionId => ?_, ?_⟩
  · have back := (counts sessionId).2
    rw [← List.count_pos_iff, ← List.count_pos_iff, List.count_append]
    change _ ↔ 0 < ((app.pages.set i (page.serve entry)).flatMap Seat.gaveBack).count sessionId
    omega
  · exact (counts sessionId).1.le.trans (room sessionId)
  · exact seats_set app.pages i _ good.kept (page.serve_kept entry (good.kept page (List.mem_of_getElem? here)) asked)

theorem native_good (app : App client) (native : Native.World) (good : Good app) (tabled : native.Tabled app.closed)
    (returned : ∀ sessionId, app.native.returned.count sessionId ≤ native.returned.count sessionId) :
    Good { app with native } :=
  ⟨tabled, fun sessionId => (good.given sessionId).trans (returned sessionId), good.kept⟩

theorem call_tabled (app : App client) (operation : Operation) (native : Native.World) (good : Good app)
    (there : ∀ sessionId, operation.closes = some sessionId → sessionId ∈ app.native.sessions ∧ sessionId ∉ app.closed)
    (called : app.call operation = some native) : native.Tabled (operation.closes.toList ++ app.closed) ∧
      (∀ sessionId, app.native.returned.count sessionId ≤ native.returned.count sessionId) ∧
      (tickets app.native.ledger).length ≤ (tickets native.ledger).length := by
  refine ⟨?_, Native.step_given app.native native _ called, Native.step_tickets app.native native _ called⟩
  obtain ⟨fromJs, same⟩ := Option.ite_none_right_eq_some.mp called
  obtain rfl := Option.some.inj same
  exact Native.start_tabled app.native operation app.closed good.tabled fromJs there

theorem calledOn_closes (operation : Operation) (sessionId : Int) (called : calledOn operation = some sessionId) :
    operation.closes = none := by
  cases operation <;> first | rfl | cases called

section

variable [DecidableEq κ]

theorem step_tickets (app next : App client) (event : Event client) (move : step app event = some next) :
    (tickets app.native.ledger).length ≤ (tickets next.native.ledger).length := by
  have served : ∀ i entry native, app.serve i entry native = some next → next.native = native := fun i entry native move => by
    obtain ⟨page, _, served⟩ := Option.bind_eq_some_iff.mp move
    obtain ⟨_, same⟩ := Option.ite_none_right_eq_some.mp served
    rw [← Option.some.inj same]
  have called : ∀ operation native, app.call operation = some native →
      (tickets app.native.ledger).length ≤ (tickets native.ledger).length := fun operation native called =>
    Native.step_tickets _ _ _ called
  cases event with
  | native event =>
      obtain ⟨_, moved⟩ := Option.ite_none_right_eq_some.mp move
      obtain ⟨native, stepped, rfl⟩ := Option.map_eq_some_iff.mp moved
      exact Native.step_tickets _ _ _ stepped
  | ask operation =>
      obtain ⟨_, asked⟩ := Option.ite_none_right_eq_some.mp move
      obtain ⟨native, call, rfl⟩ := Option.map_eq_some_iff.mp asked
      exact called operation native call
  | appear kind =>
      obtain rfl := Option.some.inj move
      exact Nat.le_refl _
  | page i kind event =>
      obtain ⟨page, _, moved⟩ := Option.bind_eq_some_iff.mp move
      obtain ⟨after, _, rfl⟩ := Option.map_eq_some_iff.mp moved
      exact Nat.le_refl _
  | take i sessionId =>
      obtain ⟨_, taken⟩ := Option.ite_none_right_eq_some.mp move
      rw [served _ _ _ taken]
  | use i sessionId operation =>
      obtain ⟨_, used⟩ := Option.ite_none_right_eq_some.mp move
      obtain ⟨native, call, done⟩ := Option.bind_eq_some_iff.mp used
      rw [served _ _ _ done]
      exact called operation native call
  | close i sessionId =>
      obtain ⟨native, call, done⟩ : ∃ native, app.call (.closeSession sessionId) = some native ∧
          app.serve i (.release sessionId) native = some next := Option.bind_eq_some_iff.mp move
      rw [served _ _ _ done]
      exact called _ native call

theorem step_good (app : App client) (event : Event client) (next : App client) (good : Good app) (fits : Fits app event)
    (move : step app event = some next) (bounded : (tickets next.native.ledger).length < 2147483647) : Good next := by
  cases event with
  | native event =>
      obtain ⟨proceeds, moved⟩ := Option.ite_none_right_eq_some.mp move
      obtain ⟨native, stepped, rfl⟩ := Option.map_eq_some_iff.mp moved
      refine native_good app native good ?_ (Native.step_given _ _ _ stepped)
      exact Native.step_tabled _ _ _ app.closed good.tabled proceeds stepped bounded
  | ask operation =>
      obtain ⟨quiet, asked⟩ := Option.ite_none_right_eq_some.mp move
      obtain ⟨native, call, rfl⟩ := Option.map_eq_some_iff.mp asked
      have none : operation.closes = none := Option.isNone_iff_eq_none.mp quiet
      obtain ⟨tabled, returned, _⟩ := call_tabled app operation native good (fun _ closes => by simp [none] at closes) call
      rw [none] at tabled
      exact native_good app native good tabled returned
  | appear kind =>
      obtain rfl := Option.some.inj move
      have nothing : (Seat.appear client kind).gaveBack = [] ∧ (Seat.appear client kind).got = [] := ⟨rfl, rfl⟩
      refine ⟨?_, fun sessionId => ?_, fun page member => ?_⟩
      · simpa [App.closed, nothing] using good.tabled
      · simpa [App.given, nothing] using good.given sessionId
      · rcases List.mem_append.mp member with old | new
        · exact good.kept page old
        · obtain rfl := List.mem_singleton.mp new
          exact Seat.appear_kept kind
  | page i kind event =>
      obtain ⟨page, here, moved⟩ := Option.bind_eq_some_iff.mp move
      obtain ⟨after, stepped, rfl⟩ := Option.map_eq_some_iff.mp moved
      obtain ⟨kept, done⟩ := page.step_kept after kind event (good.kept page (List.mem_of_getElem? here)) (fits page here) stepped
      have got : after.got = page.got := congrArg acquired done
      have back : after.gaveBack = page.gaveBack := congrArg released done
      refine ⟨Native.tabled_closed app.native _ _ (fun sessionId => ?_) good.tabled, fun sessionId => ?_, seats_set app.pages i _ good.kept kept⟩
      · have counted := counted_set Seat.gaveBack app.pages i page after here sessionId
        rw [← List.count_pos_iff, ← List.count_pos_iff]
        rw [back] at counted
        unfold App.closed
        dsimp only
        omega
      · have counted := counted_set Seat.got app.pages i page after here sessionId
        have before := good.given sessionId
        rw [got] at counted
        unfold App.given at before ⊢
        dsimp only
        omega
  | take i sessionId =>
      obtain ⟨room, taken⟩ := Option.ite_none_right_eq_some.mp move
      refine serve_good app next i (.acquire sessionId) app.native good good.tabled (fun other => ?_) taken
      have before := good.given other
      by_cases same : sessionId = other
      · subst same
        simpa [acquired, Nat.succ_le_iff] using room
      · simpa [acquired, same] using before
  | use i sessionId operation =>
      obtain ⟨on, used⟩ := Option.ite_none_right_eq_some.mp move
      obtain ⟨native, call, done⟩ := Option.bind_eq_some_iff.mp used
      have none := calledOn_closes operation sessionId on
      obtain ⟨tabled, returned, _⟩ := call_tabled app operation native good (fun _ closes => by simp [none] at closes) call
      rw [none] at tabled
      exact serve_good app next i (.use sessionId) native good tabled (fun other => (good.given other).trans (returned other)) done
  | close i sessionId =>
      obtain ⟨native, call, done⟩ : ∃ native, app.call (.closeSession sessionId) = some native ∧
          app.serve i (.release sessionId) native = some next := Option.bind_eq_some_iff.mp move
      obtain ⟨page, here, served⟩ := Option.bind_eq_some_iff.mp done
      have asked := (Option.ite_none_right_eq_some.mp served).1
      have member := List.mem_of_getElem? here
      have there := held_there app good page member sessionId (asked_held app good page member sessionId (.inr asked))
      obtain ⟨tabled, returned, _⟩ := call_tabled app (.closeSession sessionId) native good
        (fun other closes => Option.some.inj closes ▸ there) call
      exact serve_good app next i (.release sessionId) native good tabled (fun other => (good.given other).trans (returned other)) done

def FittingMoves (app : App client) (event : Event client) (next : App client) : Prop := Moves step app event next ∧ Fits app event

theorem run_good (events : List (Event client)) (app : App client) (run : Run FittingMoves {} events app)
    (bounded : (tickets app.native.ledger).length < 2147483647) : Good app := by
  refine run_invariant FittingMoves (fun app => (tickets app.native.ledger).length < 2147483647 → Good app)
    (fun before event after known ⟨move, fits⟩ short => ?_) {} events app (fun _ => initial_good) run bounded
  exact step_good before event after (known (Nat.lt_of_le_of_lt (step_tickets before after event move) short)) fits move short

theorem fitting_run (events : List (Event client)) (app : App client) (run : Run (Moves step) {} events app)
    (fit : ∀ event ∈ events, ∀ before, Fits before event) : Run FittingMoves {} events app := by
  induction run with
  | nil => exact .nil
  | snoc labels state next label _ last ih =>
      refine .snoc labels state next label (ih fun event member => fit event (by simp [member])) ⟨last, ?_⟩
      exact fit label (by simp) state

end

inductive PageKind where
  | terminal
  | sftp
  | scp
  | monitor
  | lynxTerminal
  | lynxSftp
  | lynxScp (recordId : Option JsNumber)
  | lynxMonitor
deriving DecidableEq

-- The order of names is the host's; the comparisons are those of JavaScript numbers, NaN and fractions included.
def pageClient (localeCompare : JsString → JsString → Int) (lessEq less : JsNumber → JsNumber → Bool) : PageKind → Client Int
  | .terminal => Terminal.client lessEq less
  | .sftp => ArkTS.SFTPPage.client localeCompare lessEq less
  | .scp => SCPPage.client
  | .monitor => MonitorPage.client
  | .lynxTerminal => TerminalPage.client less
  | .lynxSftp => SFTPPage.client
  | .lynxScp recordId => LynxSCPPage.client recordId
  | .lynxMonitor => LynxMonitorPage.client

/-- In every run of the app, whatever libssh2 answers and however the calls of its threads overlap, with pages that fit
and fewer than 2^31 - 1 successful opens: when no close is in progress the session table has just what the pages hold and
what is on its way to one, and no call misses a session that a page holds or that it is to close. -/
theorem sessions_kept (localeCompare : JsString → JsString → Int) (lessEq less : JsNumber → JsNumber → Bool)
    (events : List (Event (pageClient localeCompare lessEq less))) (app : App (pageClient localeCompare lessEq less))
    (run : Run FittingMoves {} events app) (bounded : (tickets app.native.ledger).length < 2147483647) : Kept app :=
  good_kept app (run_good events app run bounded)

def exampleClient : PageKind → Client Int :=
  pageClient (fun _ _ => 0) Terminal.integersLessEq fun a b => !Terminal.integersLessEq b a

-- The monitor appears, opens its session and is left. A command that another thread has begun meanwhile comes too late.
def monitored : List (Event exampleClient) :=
  let connections : ConnectionStore := { history := [HostSessions.savedHost 1], passwords := fun _ => some (js "p") }
  let stores : Stores := { initialStores noon { available := false } with connections }
  [.appear .monitor, .page 0 .monitor (MonitorPage.Event.aboutToAppear stores 1),
    .ask (.openSession (Native.bytes "h") 22 (Native.bytes "u") (Native.bytes "p"))] ++ Native.openRun.tail.map .native ++
  [.take 0 1, .ask (.read 1)] ++ Native.readRun.tail.map .native ++
  [.page 0 .monitor MonitorPage.Event.aboutToDisappear, .close 0 1, .ask (.executeCommand 1 (Native.bytes "free -m"))] ++
  (Native.closeRun 0).tail.map .native ++
  [Native.answer 3 (.lock .session) (), Native.answer 3 (.findSession 1 .use) none, Native.answer 3 (.unlock .session) (),
    .finish 3].map .native

theorem monitored_fits : ∀ event ∈ monitored, ∀ before, Fits before event := by
  have native : ∀ (events : List Native.Event), ∀ event ∈ events.map Event.native, ∀ before : App exampleClient, Fits before event := by
    intro events event member before
    obtain ⟨_, _, rfl⟩ := List.mem_map.mp member
    trivial
  have monitor : ∀ event : MonitorPage.Event, (∀ page, MonitorPage.Fits page event) →
      ∀ before : App exampleClient, Fits before (.page 0 .monitor event) := by
    intro event fits before page _ same
    obtain ⟨kind, state, done⟩ := page
    cases same
    exact fits state
  simp only [monitored, List.forall_mem_append, List.forall_mem_cons]
  refine ⟨⟨⟨⟨⟨⟨?_, native _⟩, ?_⟩, native _⟩, ?_⟩, native _⟩, native _⟩
  · exact ⟨fun _ => trivial, monitor _ fun _ => trivial, fun _ => trivial, List.forall_mem_nil _⟩
  · exact ⟨fun _ => trivial, fun _ => trivial, List.forall_mem_nil _⟩
  · exact ⟨monitor _ fun _ => trivial, fun _ => trivial, fun _ => trivial, List.forall_mem_nil _⟩

theorem sessions_kept_monitored :
    ∃ app, Run FittingMoves {} monitored app ∧ (tickets app.native.ledger).length < 2147483647 ∧ Kept app := by
  have computed : (monitored.foldlM step {}).map
      (fun app => decide ((tickets app.native.ledger).length < 2147483647 ∧ app.native.sessions = [])) = some true := by
    decide +kernel
  obtain ⟨app, moved, facts⟩ := Option.map_eq_some_iff.mp computed
  obtain ⟨short, _⟩ := of_decide_eq_true facts
  have run := fitting_run monitored app (moves_run step {} app monitored moved) monitored_fits
  exact ⟨app, run, short, sessions_kept _ _ _ monitored app run short⟩

end Kessh.AppSessions
