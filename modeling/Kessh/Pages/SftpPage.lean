import Kessh.Pages.LsOutput
import Kessh.Pages.TerminalSessions

set_option autoImplicit false

-- The ArkTS page for SFTP, with its keepalive timer, the opens it awaits, and the sessions it got from the engine.
namespace Kessh.ArkTS.SFTPPage

open Ecma Ledger Labelled
open Terminal (Keepalive)

structure Page where
  currentPath : JsString := js "/"
  files : List SFTPFile := []
  connected : Bool := false
  connecting : Bool := false
  status : JsString := js "请选择主机进行连接"
  sessionId : Int := -1
  connectToken : Nat := 0
  disposed : Bool := false
  keepaliveTimerId : Int := -1
  keepaliveFailures : Nat := 0

-- An awaited open keeps the token its call captured. The ledger has the ids obtained, the calls of
-- listFiles and sendKeepalive on them and the closes, newest first.
structure World where
  page : Page := {}
  intervals : List Int := []
  opens : List Nat := []
  ledger : List (Entry Int) := []

-- What happens to the page once it is there. A listing comes with the output that the engine returns.
inductive Event where
  | connect (item : ConnectionRecord) (password : Option JsString)
  | openDone (token : Nat) (sid : Int) (settings : Keepalive) (intervalId : Int) (output : JsString)
  | keepaliveTick (id : Int) (ok : Bool) (settings : Keepalive)
  | navigate (file : SFTPFile) (output : JsString)
  | aboutToDisappear

def freshTimer (id : Int) (w : World) : Bool := decide (id > 0) && !w.intervals.contains id

def stopKeepalive (w : World) : World :=
  let w := if w.page.keepaliveTimerId > 0 then
    { w with
      intervals := w.intervals.filter (· != w.page.keepaliveTimerId)
      page := { w.page with keepaliveTimerId := -1 } }
  else w
  { w with page := { w.page with keepaliveFailures := 0 } }

def closeSession (sid : Int) (w : World) : World := { w with ledger := .release sid :: w.ledger }

def closeCurrentSession (w : World) : World :=
  let w := stopKeepalive w
  let w := if w.page.sessionId > 0 then
    let closed := closeSession w.page.sessionId w
    { closed with page := { w.page with sessionId := -1 } }
  else w
  { w with page := { w.page with connected := false, connecting := false } }

def connect (item : ConnectionRecord) (password : Option JsString) (w : World) : World :=
  if w.page.connecting then w
  else if item.authType = .key then w
  else if !truthy password then w
  else
    let token := w.page.connectToken + 1
    let w := closeCurrentSession { w with page := { w.page with connectToken := token } }
    { w with
      page := { w.page with
        connecting := true, status := js "正在连接 " ++ item.host ++ js "...", currentPath := js "/", files := [] }
      opens := token :: w.opens }

-- The order of names is the host's; the comparisons are those of JavaScript numbers, NaN and fractions included.
variable (localeCompare : JsString → JsString → Int) (lessEq less : JsNumber → JsNumber → Bool)

def compareFiles (a b : SFTPFile) : Int :=
  if a.name = js ".." then -1
  else if b.name = js ".." then 1
  else if a.isDir && !b.isDir then -1
  else if !a.isDir && b.isDir then 1
  else localeCompare a.name b.name

-- A path that cannot be quoted throws: the files stay.
def listFiles (path output : JsString) (w : World) : World :=
  if w.page.sessionId ≤ 0 then w
  else
    let w := { w with page := { w.page with currentPath := path } }
    match SSHEngine.shellQuoteArg path with
    | .error _ => w
    | .ok _ =>
        let files := (parsedFiles path output).mergeSort fun a b => decide (compareFiles localeCompare a b ≤ 0)
        { w with page := { w.page with files }, ledger := .use w.page.sessionId :: w.ledger }

def startKeepalive (settings : Keepalive) (intervalId : Int) (w : World) : Option World :=
  let w := stopKeepalive w
  if lessEq settings.interval (.int 0) || w.page.sessionId ≤ 0 then some w
  else
    let w := { w with page := { w.page with keepaliveFailures := 0 } }
    if freshTimer intervalId w then
      some { w with intervals := intervalId :: w.intervals, page := { w.page with keepaliveTimerId := intervalId } }
    else none

-- connect after its await.
def openDone (token : Nat) (sid : Int) (settings : Keepalive) (intervalId : Int) (output : JsString) (w : World) :
    Option World :=
  if w.page.disposed || token != w.page.connectToken then some (if sid > 0 then closeSession sid w else w)
  else
    let w := { w with page := { w.page with connecting := false } }
    if sid > 0 then
      let w := { w with page := { w.page with sessionId := sid, connected := true, status := js "已连接" } }
      (startKeepalive lessEq settings intervalId w).map (listFiles localeCompare (js "/") output)
    else some { w with page := { w.page with status := js "连接失败" } }

def keepaliveTick (ok : Bool) (settings : Keepalive) (w : World) : World :=
  if w.page.disposed || w.page.sessionId ≤ 0 then stopKeepalive w
  else
    let w := { w with ledger := .use w.page.sessionId :: w.ledger }
    if ok then { w with page := { w.page with keepaliveFailures := 0 } }
    else
      let failures : Nat := w.page.keepaliveFailures + 1
      let w := { w with page := { w.page with keepaliveFailures := failures } }
      let maxAttempts := if less (.int 0) settings.attempts then settings.attempts else .int 1
      if lessEq maxAttempts (.int failures) then
        closeCurrentSession { w with page := { w.page with status := js "SSH 保活失败，连接已断开" } }
      else w

def endsWithSlash (path : JsString) : Bool := path.getLast? == some 0x2F

def newPath (currentPath : JsString) (file : SFTPFile) : JsString :=
  if file.name = js ".." then
    let parts := (currentPath.splitOn 0x2F).dropLast
    let parts := if endsWithSlash currentPath then parts.dropLast else parts
    let joined := join (js "/") parts
    if joined.isEmpty then js "/" else joined
  else if endsWithSlash currentPath then currentPath ++ file.name
  else currentPath ++ js "/" ++ file.name

def navigate (file : SFTPFile) (output : JsString) (w : World) : World :=
  if !file.isDir then w else listFiles localeCompare (newPath w.page.currentPath file) output w

def aboutToDisappear (w : World) : World :=
  closeCurrentSession { w with page := { w.page with disposed := true, connectToken := w.page.connectToken + 1 } }

-- The user acts while the page is there. An open completes with a value that is not positive or with
-- an id never returned before.
def step (w : World) : Event → Option World
  | .connect item password => if w.page.disposed then none else some (connect item password w)
  | .openDone token sid settings intervalId output =>
      if w.opens.contains token && (decide (sid ≤ 0) || !(acquired w.ledger).contains sid) then
        let ledger := if sid > 0 then .acquire sid :: w.ledger else w.ledger
        openDone localeCompare lessEq token sid settings intervalId output
          { w with opens := w.opens.erase token, ledger }
      else none
  | .keepaliveTick id ok settings =>
      if w.intervals.contains id then some (keepaliveTick lessEq less ok settings w) else none
  | .navigate file output => if w.page.disposed then none else some (navigate localeCompare file output w)
  | .aboutToDisappear => if w.page.disposed then none else some (aboutToDisappear w)

def owners (sid : Int) : List Int := if sid > 0 then [sid] else []

def Ticking (w : World) : Prop :=
  w.page.keepaliveTimerId ≤ 0 ∧ w.intervals = [] ∨
    0 < w.page.keepaliveTimerId ∧ w.intervals = [w.page.keepaliveTimerId] ∧ 0 < w.page.sessionId

-- The page that has a session is there, and it awaits no open that could bring another.
structure Good (w : World) : Prop where
  connected : w.page.connected = true ↔ 0 < w.page.sessionId
  ticking : Ticking w
  balanced : Balanced w.ledger (owners w.page.sessionId)
  present : 0 < w.page.sessionId → w.page.disposed = false ∧ w.page.connectToken ∉ w.opens
  issued : ∀ token ∈ w.opens, token ≤ w.page.connectToken
  distinct : w.opens.Nodup

theorem initial_good : Good {} where
  connected := by decide
  ticking := .inl ⟨by decide, rfl⟩
  balanced := balanced_nil
  present := fun session => absurd session (by decide)
  issued := fun _ member => by cases member
  distinct := .nil

theorem stopKeepalive_fields (w : World) (ticking : Ticking w) : ∃ keepaliveTimerId ≤ 0,
    stopKeepalive w = { w with page := { w.page with keepaliveTimerId, keepaliveFailures := 0 }, intervals := [] } := by
  unfold stopKeepalive
  rcases ticking with ⟨none, empty⟩ | ⟨some, pending, _⟩
  · refine ⟨w.page.keepaliveTimerId, none, ?_⟩
    dsimp only
    rw [if_neg (Int.not_lt.mpr none), ← empty]
  · refine ⟨-1, by decide, ?_⟩
    dsimp only
    rw [if_pos some, pending]
    simp

theorem owners_some (sid : Int) (positive : 0 < sid) : owners sid = [sid] := if_pos positive

theorem owners_none (sid : Int) (none : sid ≤ 0) : owners sid = [] := if_neg (Int.not_lt.mpr none)

theorem closeCurrentSession_fields (w : World) (ticking : Ticking w) (balanced : Balanced w.ledger (owners w.page.sessionId)) :
    ∃ sessionId keepaliveTimerId ledger, sessionId ≤ 0 ∧ keepaliveTimerId ≤ 0 ∧ Balanced ledger [] ∧
      closeCurrentSession w = { w with
        page := { w.page with
          sessionId, keepaliveTimerId, keepaliveFailures := 0, connected := false, connecting := false }
        intervals := []
        ledger } := by
  obtain ⟨keepaliveTimerId, off, stopped⟩ := stopKeepalive_fields w ticking
  unfold closeCurrentSession
  rw [stopped]
  dsimp only
  by_cases session : w.page.sessionId > 0
  · rw [if_pos session]
    rw [owners_some _ session] at balanced
    have released := balanced_release w.ledger [w.page.sessionId] w.page.sessionId balanced List.mem_cons_self
    rw [List.erase_cons_head] at released
    exact ⟨-1, keepaliveTimerId, _, by decide, off, released, rfl⟩
  · rw [if_neg session]
    rw [owners_none _ (Int.not_lt.mp session)] at balanced
    exact ⟨w.page.sessionId, keepaliveTimerId, w.ledger, Int.not_lt.mp session, off, balanced, rfl⟩

theorem closeCurrentSession_good (w : World) (ticking : Ticking w) (balanced : Balanced w.ledger (owners w.page.sessionId))
    (issued : ∀ token ∈ w.opens, token ≤ w.page.connectToken) (distinct : w.opens.Nodup) :
    Good (closeCurrentSession w) := by
  obtain ⟨sessionId, keepaliveTimerId, ledger, gone, off, closed, same⟩ := closeCurrentSession_fields w ticking balanced
  have idle : ¬ 0 < sessionId := Int.not_lt.mpr gone
  rw [same]
  exact
    { connected := iff_of_false Bool.false_ne_true idle
      ticking := .inl ⟨off, rfl⟩
      balanced := owners_none sessionId gone ▸ closed
      present := fun session => absurd session idle
      issued
      distinct }

theorem connect_good (item : ConnectionRecord) (password : Option JsString) (w : World) (good : Good w) :
    Good (connect item password w) := by
  unfold connect
  split
  · exact good
  split
  · exact good
  split
  · exact good
  obtain ⟨sessionId, keepaliveTimerId, ledger, gone, off, closed, same⟩ := closeCurrentSession_fields
    { w with page := { w.page with connectToken := w.page.connectToken + 1 } } good.ticking good.balanced
  have idle : ¬ 0 < sessionId := Int.not_lt.mpr gone
  dsimp only at same ⊢
  rw [same]
  refine
    { connected := iff_of_false Bool.false_ne_true idle
      ticking := .inl ⟨off, rfl⟩
      balanced := owners_none sessionId gone ▸ closed
      present := fun session => absurd session idle
      issued := List.forall_mem_cons.mpr ⟨Nat.le_refl _, fun token member => Nat.le_succ_of_le (good.issued token member)⟩
      distinct := List.nodup_cons.mpr ⟨fun member => ?_, good.distinct⟩ }
  exact Nat.not_succ_le_self _ (good.issued _ member)

theorem good_use (w : World) (good : Good w) (session : 0 < w.page.sessionId) :
    Good { w with ledger := .use w.page.sessionId :: w.ledger } := by
  refine { good with balanced := balanced_use w.ledger _ _ good.balanced ?_ }
  rw [owners_some _ session]
  exact List.mem_cons_self

theorem listFiles_good (path output : JsString) (w : World) (good : Good w) :
    Good (listFiles localeCompare path output w) := by
  unfold listFiles
  split
  · exact good
  · rename_i session
    dsimp only
    split
    · exact { good with }
    · have used := good_use w good (Int.not_le.mp session)
      exact { used with }

theorem navigate_good (file : SFTPFile) (output : JsString) (w : World) (good : Good w) :
    Good (navigate localeCompare file output w) := by
  unfold navigate
  split
  · exact good
  · exact listFiles_good localeCompare _ output w good

theorem keepaliveTick_good (ok : Bool) (settings : Keepalive) (w : World) (good : Good w) (pending : w.intervals ≠ []) :
    Good (keepaliveTick lessEq less ok settings w) := by
  obtain ⟨_, _, session⟩ := good.ticking.resolve_left fun idle => pending idle.2
  have used := good_use w good session
  unfold keepaliveTick
  rw [if_neg (by simp [(good.present session).1, session])]
  cases ok with
  | true => exact { used with }
  | false =>
      dsimp only
      rw [if_neg Bool.false_ne_true]
      generalize (if less (.int 0) settings.attempts then settings.attempts else .int 1) = maxAttempts
      split
      · exact closeCurrentSession_good _ used.ticking used.balanced used.issued used.distinct
      · exact { used with }

theorem startKeepalive_good (settings : Keepalive) (intervalId : Int) (w next : World) (good : Good w)
    (move : startKeepalive lessEq settings intervalId w = some next) : Good next := by
  obtain ⟨keepaliveTimerId, off, stopped⟩ := stopKeepalive_fields w good.ticking
  unfold startKeepalive at move
  rw [stopped] at move
  dsimp only at move
  split at move
  · obtain rfl := Option.some.inj move
    exact { good with ticking := .inl ⟨off, rfl⟩ }
  · rename_i keeps
    obtain ⟨fresh, same⟩ := Option.ite_none_right_eq_some.mp move
    obtain rfl := Option.some.inj same
    simp only [Bool.or_eq_true, decide_eq_true_eq, not_or, Int.not_le] at keeps
    simp only [freshTimer, Bool.and_eq_true, decide_eq_true_eq] at fresh
    exact { good with ticking := .inr ⟨fresh.1, rfl, keeps.2⟩ }

theorem openDone_good (token : Nat) (sid : Int) (settings : Keepalive) (intervalId : Int) (output : JsString)
    (w next : World) (good : Good w) (awaited : token ∈ w.opens) (fresh : 0 < sid → sid ∉ acquired w.ledger)
    (move : openDone localeCompare lessEq token sid settings intervalId output { w with
      opens := w.opens.erase token
      ledger := if sid > 0 then .acquire sid :: w.ledger else w.ledger } = some next) : Good next := by
  have waited : Good { w with opens := w.opens.erase token } :=
    { good with
      present := fun session => (good.present session).imp_right fun none member => none (List.mem_of_mem_erase member)
      issued := fun held member => good.issued held (List.mem_of_mem_erase member)
      distinct := good.distinct.erase token }
  unfold openDone at move
  by_cases late : (w.page.disposed || token != w.page.connectToken) = true
  · rw [if_pos late] at move
    obtain rfl := Option.some.inj move
    by_cases positive : sid > 0
    · rw [if_pos positive, if_pos positive]
      have opened := balanced_acquire w.ledger _ sid good.balanced (fresh positive)
      have closed := balanced_release _ _ sid opened List.mem_cons_self
      rw [List.erase_cons_head] at closed
      exact { waited with balanced := closed }
    · rw [if_neg positive, if_neg positive]
      exact waited
  · rw [if_neg late] at move
    simp only [Bool.or_eq_true, bne_iff_ne, ne_eq, not_or, Bool.not_eq_true, Classical.not_not] at late
    obtain ⟨there, rfl⟩ := late
    have idle : w.page.sessionId ≤ 0 := Int.not_lt.mp fun session => (good.present session).2 awaited
    dsimp only at move
    by_cases positive : sid > 0
    · rw [if_pos positive, if_pos positive] at move
      obtain ⟨kept, keeps, rfl⟩ := Option.map_eq_some_iff.mp move
      refine listFiles_good localeCompare _ output kept (startKeepalive_good lessEq settings intervalId _ kept ?_ keeps)
      have alone := good.balanced
      rw [owners_none _ idle] at alone
      have opened := balanced_acquire w.ledger [] sid alone (fresh positive)
      exact { waited with
        connected := iff_of_true rfl positive
        ticking := .inl (good.ticking.resolve_right fun tick => absurd tick.2.2 (Int.not_lt.mpr idle))
        balanced := owners_some sid positive ▸ opened
        present := fun _ => ⟨there, good.distinct.not_mem_erase⟩ }
    · rw [if_neg positive, if_neg positive] at move
      obtain rfl := Option.some.inj move
      exact { waited with }

theorem step_good (w : World) (event : Event) (next : World) (good : Good w)
    (move : Moves (step localeCompare lessEq less) w event next) : Good next := by
  unfold Moves at move
  cases event with
  | connect item password =>
      obtain ⟨_, same⟩ := Option.ite_none_left_eq_some.mp move
      obtain rfl := Option.some.inj same
      exact connect_good item password w good
  | openDone token sid settings intervalId output =>
      obtain ⟨enabled, opened⟩ := Option.ite_none_right_eq_some.mp move
      simp only [Bool.and_eq_true, Bool.or_eq_true, decide_eq_true_eq, Bool.not_eq_true', List.contains_eq_mem,
        decide_eq_false_iff_not] at enabled
      refine openDone_good localeCompare lessEq token sid settings intervalId output w next good enabled.1 ?_ opened
      exact fun positive => enabled.2.resolve_left (Int.not_le.mpr positive)
  | keepaliveTick id ok settings =>
      obtain ⟨pending, same⟩ := Option.ite_none_right_eq_some.mp move
      obtain rfl := Option.some.inj same
      refine keepaliveTick_good lessEq less ok settings w good fun none => ?_
      simp [none] at pending
  | navigate file output =>
      obtain ⟨_, same⟩ := Option.ite_none_left_eq_some.mp move
      obtain rfl := Option.some.inj same
      exact navigate_good localeCompare file output w good
  | aboutToDisappear =>
      obtain ⟨_, same⟩ := Option.ite_none_left_eq_some.mp move
      obtain rfl := Option.some.inj same
      refine closeCurrentSession_good _ good.ticking good.balanced (fun token member => ?_) good.distinct
      exact Nat.le_succ_of_le (good.issued token member)

/-- In every run of the page it is connected exactly while it has a session, each session it obtained is the
present one or was closed exactly once, none outlives the page, only open sessions are listed or kept alive,
and there is at most one interval, none without a session. -/
theorem connected_sessions_owned (events : List Event) (w : World) (run : Run (Moves (step localeCompare lessEq less)) {} events w) :
    (w.page.connected = true ↔ 0 < w.page.sessionId) ∧
    (∀ sid ∈ acquired w.ledger,
      (0 < sid ∧ sid = w.page.sessionId ∧ (released w.ledger).count sid = 0) ∨ (released w.ledger).count sid = 1) ∧
    (w.page.disposed = true → live w.ledger = []) ∧
    (∀ later earlier sid, w.ledger = later ++ .use sid :: earlier → sid ∈ live earlier) ∧
    w.intervals.length ≤ 1 ∧ (w.page.sessionId ≤ 0 → w.intervals = []) := by
  have good : Good w := run_invariant _ Good (step_good localeCompare lessEq less) {} events w initial_good run
  refine ⟨good.connected, fun sid known => ?_, fun gone => ?_, fun later earlier sid same => ?_, ?_, fun session => ?_⟩
  · rcases balanced_exclusive w.ledger _ good.balanced sid known with ⟨owned, unclosed⟩ | ⟨_, closed⟩
    · have member : sid ∈ owners w.page.sessionId := List.count_pos_iff.mp (by omega)
      unfold owners at member
      split at member
      · rename_i positive
        obtain rfl := List.mem_singleton.mp member
        exact .inl ⟨positive, rfl, unclosed⟩
      · cases member
    · exact .inr closed
  · have idle : w.page.sessionId ≤ 0 := Int.not_lt.mp fun session => by simp [(good.present session).1] at gone
    have balanced := good.balanced
    rw [owners_none _ idle] at balanced
    exact balanced.2.eq_nil
  · exact sound_used later earlier sid (same ▸ good.balanced.1)
  · rcases good.ticking with ⟨_, none⟩ | ⟨_, one, _⟩
    · simp [none]
    · simp [one]
  · rcases good.ticking with ⟨_, none⟩ | ⟨_, _, some⟩
    · exact none
    · exact absurd some (Int.not_lt.mpr session)

def record : ConnectionRecord where
  id := 1
  name := js "u@h:22"
  host := js "h"
  port := 22
  username := js "u"
  authType := .password
  time := js "Today 10:00"

-- A session whose keepalive fails, another that is opened after it, and one that comes when the page is gone.
def visited : List Event :=
  let settings : Keepalive := { interval := .int 60, attempts := .int 1 }
  [.connect record (some (js "p")), .openDone 1 7 settings 1 (js "total 0\n"),
   .navigate { name := js "etc", isDir := true, size := js "0", permissions := js "drwxr-xr-x" } (js "total 0\n"),
   .keepaliveTick 1 false settings, .connect record (some (js "p")), .openDone 2 8 settings 2 (js "total 0\n"),
   .connect record (some (js "p")), .aboutToDisappear, .openDone 3 9 settings 3 []]

theorem visited_owned :
    let step := step (fun _ _ => 0) Terminal.integersLessEq fun a b => !Terminal.integersLessEq b a
    let w := (visited.foldlM step {}).get (by decide)
    acquired w.ledger = [9, 8, 7] ∧ live w.ledger = [] ∧ w.intervals = [] := by
  intro step w
  have run := moves_run step {} w visited (Option.some_get _).symm
  obtain ⟨_, _, left, _, _, idle⟩ := connected_sessions_owned (fun _ _ => 0) Terminal.integersLessEq
    (fun a b => !Terminal.integersLessEq b a) visited w run
  exact ⟨by decide, left (by decide), idle (by decide)⟩

end Kessh.ArkTS.SFTPPage
