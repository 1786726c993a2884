import Kessh.Lib.Labelled
import Kessh.Lib.Ledger
import Kessh.Store.Connections

set_option autoImplicit false

-- The ArkTS terminal page, with its timers, the opens it awaits, and the sessions it got from the engine.
namespace Kessh.Terminal

open Ecma Ledger Labelled

structure Page where
  lines : List JsString := []
  cmd : JsString := []
  sessionId : Int := -1
  timerId : Int := -1
  keepaliveTimerId : Int := -1
  polling : Bool := false
  disposed : Bool := false
  pollToken : Nat := 0
  openToken : Nat := 0
  keepaliveFailures : Nat := 0

-- A pending timeout keeps the token its callback captured, and so does an awaited open.
-- The ledger has the ids obtained, the calls made on them and the closes, newest first.
structure World where
  page : Page := {}
  timeouts : List (Int × Nat) := []
  intervals : List Int := []
  opens : List Nat := []
  ledger : List (Entry Int) := []

-- The settings are read when they are needed and may change at any time.
structure Keepalive where
  interval : JsNumber
  attempts : JsNumber

-- What happens to the page. The host picks the ids of new timers.
inductive Event where
  | aboutToAppear (currentDraft : Option ConnectionDraft)
  | openDraft (currentDraft : Option ConnectionDraft)
  | openDone (token : Nat) (sid : Int) (settings : Keepalive) (timeoutId intervalId : Int)
  | pollTick (id : Int) (chunk : JsString) (timeoutId : Int)
  | keepaliveTick (id : Int) (ok : Bool) (settings : Keepalive)
  | input (text : JsString)
  | run
  | aboutToDisappear

def appendLine (line : JsString) (w : World) : World := { w with page := { w.page with lines := w.page.lines ++ [line] } }

def freshTimer (id : Int) (w : World) : Bool :=
  decide (id > 0) && !(w.timeouts.map (·.1)).contains id && !w.intervals.contains id

def clearTimeout (id : Int) (w : World) : World := { w with timeouts := w.timeouts.filter (·.1 != id) }

def clearInterval (id : Int) (w : World) : World := { w with intervals := w.intervals.filter (· != id) }

def schedulePoll (token : Nat) (timeoutId : Int) (w : World) : Option World :=
  if !w.page.polling || token != w.page.pollToken || w.page.disposed then some w
  else
    let w := if w.page.timerId > 0 then
      let cleared := clearTimeout w.page.timerId w
      { cleared with page := { w.page with timerId := -1 } }
    else w
    if freshTimer timeoutId w then
      some { w with timeouts := (timeoutId, token) :: w.timeouts, page := { w.page with timerId := timeoutId } }
    else none

def startPolling (timeoutId : Int) (w : World) : Option World :=
  if w.page.polling || w.page.sessionId ≤ 0 || w.page.disposed then some w
  else
    let token := w.page.pollToken + 1
    schedulePoll token timeoutId { w with page := { w.page with polling := true, pollToken := token } }

def stopPolling (w : World) : World :=
  let w := { w with page := { w.page with polling := false, pollToken := w.page.pollToken + 1 } }
  if w.page.timerId > 0 then
    let cleared := clearTimeout w.page.timerId w
    { cleared with page := { w.page with timerId := -1 } }
  else w

def stopKeepalive (w : World) : World :=
  let w := if w.page.keepaliveTimerId > 0 then
    let cleared := clearInterval w.page.keepaliveTimerId w
    { cleared with page := { w.page with keepaliveTimerId := -1 } }
  else w
  { w with page := { w.page with keepaliveFailures := 0 } }

def termClose (sid : Int) (w : World) : World := { w with ledger := .release sid :: w.ledger }

def closeCurrentSession (w : World) : World :=
  let w := stopKeepalive (stopPolling w)
  if w.page.sessionId > 0 then
    let closed := termClose w.page.sessionId w
    { closed with page := { w.page with sessionId := -1 } }
  else w

-- The comparisons of JavaScript numbers, NaN and fractions included.
variable (lessEq less : JsNumber → JsNumber → Bool)

def startKeepalive (settings : Keepalive) (intervalId : Int) (w : World) : Option World :=
  let w := stopKeepalive w
  if lessEq settings.interval (.int 0) || w.page.sessionId ≤ 0 then some w
  else
    let w := { w with page := { w.page with keepaliveFailures := 0 } }
    if freshTimer intervalId w then
      some { w with intervals := intervalId :: w.intervals, page := { w.page with keepaliveTimerId := intervalId } }
    else none

-- openDraft up to its await: what stops it, or the text it shows while the open is on its way.
def prepared (draft : ConnectionDraft) : Except JsError (List JsString × Bool) := do
  match ← ConnectionStore.validateDraft draft with
  | some validation => return ([validation], false)
  | none =>
      match ← ConnectionStore.parsePort draft.port.orDefault with
      | none => return ([js "端口必须是 1-65535 的数字"], false)
      | some port =>
          let opening := js "正在连接 " ++ ConnectionStore.recordName draft.username draft.host port ++ js "..."
          if truthy draft.privateKey then return ([opening, js "密钥认证暂未支持，请改用密码连接"], false)
          if !truthy draft.password then return ([opening, js "缺少密码，请返回主机页补充密码"], false)
          return ([opening], true)

def openDraft (currentDraft : Option ConnectionDraft) (w : World) : World :=
  let token := w.page.openToken + 1
  let w := closeCurrentSession { w with page := { w.page with openToken := token } }
  match currentDraft with
  | none => { w with page := { w.page with lines := [js "未找到连接信息"] } }
  | some draft =>
      match prepared draft with
      | .error _ => w
      | .ok (lines, opening) =>
          let w := { w with page := { w.page with lines } }
          if opening then { w with opens := token :: w.opens } else w

-- openDraft after its await.
def openDone (token : Nat) (sid : Int) (settings : Keepalive) (timeoutId intervalId : Int) (w : World) : Option World :=
  if w.page.disposed || token != w.page.openToken then
    some (if sid > 0 then termClose sid w else w)
  else if sid > 0 then
    let w := appendLine (js "连接成功") { w with page := { w.page with sessionId := sid } }
    (startPolling timeoutId w).bind (startKeepalive lessEq settings intervalId)
  else some (appendLine (js "打开终端会话失败") w)

def pollTick (token : Nat) (chunk : JsString) (timeoutId : Int) (w : World) : Option World :=
  if !w.page.polling || token != w.page.pollToken || w.page.sessionId ≤ 0 || w.page.disposed then some w
  else
    let w := { w with ledger := .use w.page.sessionId :: w.ledger }
    let w := if w.page.polling && token == w.page.pollToken && !chunk.isEmpty then appendLine chunk w else w
    schedulePoll token timeoutId w

def keepaliveTick (ok : Bool) (settings : Keepalive) (w : World) : World :=
  if w.page.disposed || w.page.sessionId ≤ 0 then stopKeepalive w
  else
    let w := { w with ledger := .use w.page.sessionId :: w.ledger }
    if ok then { w with page := { w.page with keepaliveFailures := 0 } }
    else
      let failures : Nat := w.page.keepaliveFailures + 1
      let w := { w with page := { w.page with keepaliveFailures := failures } }
      let maxAttempts := if less (.int 0) settings.attempts then settings.attempts else .int 1
      if lessEq maxAttempts (.int failures) then closeCurrentSession (appendLine (js "SSH 保活失败，连接已断开") w) else w

def run (w : World) : World :=
  if w.page.cmd.isEmpty then w
  else if w.page.sessionId ≤ 0 then w
  else
    let w := appendLine (js "$ " ++ w.page.cmd) { w with page := { w.page with cmd := [] } }
    { w with ledger := .use w.page.sessionId :: w.ledger }

def aboutToDisappear (w : World) : World :=
  closeCurrentSession { w with page := { w.page with disposed := true, openToken := w.page.openToken + 1 } }

-- An open completes with a value that is not positive or with an id never returned before.
def step (w : World) : Event → Option World
  | .aboutToAppear currentDraft => some (openDraft currentDraft { w with page := { w.page with disposed := false } })
  | .openDraft currentDraft => some (openDraft currentDraft w)
  | .openDone token sid settings timeoutId intervalId =>
      if w.opens.contains token && (decide (sid ≤ 0) || !(acquired w.ledger).contains sid) then
        let ledger := if sid > 0 then .acquire sid :: w.ledger else w.ledger
        openDone lessEq token sid settings timeoutId intervalId { w with opens := w.opens.erase token, ledger }
      else none
  | .pollTick id chunk timeoutId =>
      (w.timeouts.find? (·.1 == id)).bind fun fired =>
        pollTick fired.2 chunk timeoutId { w with timeouts := w.timeouts.erase fired }
  | .keepaliveTick id ok settings =>
      if w.intervals.contains id then some (keepaliveTick lessEq less ok settings w) else none
  | .input text => some { w with page := { w.page with cmd := text } }
  | .run => some (run w)
  | .aboutToDisappear => some (aboutToDisappear w)

end Kessh.Terminal
