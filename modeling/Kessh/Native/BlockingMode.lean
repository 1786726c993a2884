import Kessh.Native.SessionRuns
import Kessh.Native.Traces

set_option autoImplicit false

-- Whether the calls on a session wait for the server: a mode that libssh2 keeps for the whole session.
namespace Kessh.Native

open Utf8 (Bytes)
open Interaction

-- libssh2_channel_set_blocking sets the mode of the session that the channel is of.
def setsMode (session : Nat) (mode : Bool) (event : Exchange) : Bool :=
  match event with
  | ⟨.channelSetBlocking channel blocking, _⟩ => if channel.session = session then blocking else mode
  | _ => mode

def blockingMode (session : Nat) (events : List Exchange) : Bool := events.foldl (setsMode session) true

structure NativeCall where
  operation : Operation
  events : List Exchange
  result : Result
  trace : Trace operation.program events result

def sessionFound (event : Exchange) : Option Nat :=
  match event with
  | ⟨.findSession _ .use, some entry⟩ => some (KesshSession.session entry)
  | _ => none

def NativeCall.session (call : NativeCall) : Option Nat := call.events.findSome? sessionFound

def Operation.isRead : Operation → Bool
  | .read _ => true
  | _ => false

-- Write, SendKeepalive, ExecuteCommand, DownloadFile and UploadFile.
def Operation.talks : Operation → Bool
  | .write _ _ => true
  | .sendKeepalive _ => true
  | .executeCommand _ _ => true
  | .downloadFile _ _ => true
  | .uploadFile _ _ _ => true
  | _ => false

def NativeCall.Reads (call : NativeCall) (session : Nat) : Prop :=
  call.operation.isRead = true ∧ call.session = some session

def NativeCall.Talks (call : NativeCall) (session : Nat) : Prop :=
  call.operation.talks = true ∧ call.session = some session

@[simp] def Call.steady : Call → Bool
  | .channelSetBlocking _ _ => false
  | _ => true

abbrev Steady {α : Type} (program : Routine α) : Prop := Makes (fun call => call.steady = true) program

theorem steady_event (session : Nat) (mode : Bool) (event : Exchange) (steady : event.request.steady = true) :
    setsMode session mode event = mode := by
  obtain ⟨request, reply⟩ := event
  cases request <;> first | rfl | cases steady

theorem steady_mode {α : Type} (program : Routine α) (steady : Steady program) (session : Nat) (mode : Bool)
    (events : List Exchange) (result : α) (trace : Trace program events result) :
    events.foldl (setsMode session) mode = mode := by
  have each := makes_trace _ program events result steady trace
  clear trace
  induction events with
  | nil => rfl
  | cons event rest ih =>
      rw [List.foldl_cons, steady_event session mode event (each event (by simp))]
      exact ih fun other member => each other (by simp [member])

theorem connectAttempts_steady (sock : Nat) (address : Address) (retries : Nat) :
    Steady (connectAttempts sock address retries) := by
  induction retries with
  | zero =>
      rw [connectAttempts]
      refine makes_ask _ _ _ rfl fun reply => ?_
      cases reply with
      | none => exact makes_pure _ _
      | some errno => by_cases connected : errno.code = EISCONN <;> simp [connected]
  | succ more ih =>
      rw [connectAttempts]
      refine makes_ask _ _ _ rfl fun reply => ?_
      cases reply with
      | none => exact makes_pure _ _
      | some errno =>
          dsimp only
          by_cases connected : errno.code = EISCONN
          · simp [connected]
          rw [if_neg connected]
          by_cases interrupted : errno.code = EINTR
          · rw [if_pos interrupted]
            exact ih
          · simp [interrupted]

theorem connectAny_steady (list : Nat) (addresses : List Address) (lastError : Option Errno) :
    Steady (connectAny list addresses lastError) := by
  induction addresses generalizing lastError with
  | nil => exact makes_ask _ _ _ rfl fun _ => makes_pure _ _
  | cons address rest ih =>
      refine makes_ask _ _ _ rfl fun reply => ?_
      cases reply with
      | error errno => exact ih (some errno)
      | ok sock =>
          refine makes_ask _ _ _ rfl fun _ => makes_seq _ _ _ (connectAttempts_steady sock address 2) fun outcome => ?_
          cases outcome with
          | none => exact makes_ask _ _ _ rfl fun _ => makes_pure _ _
          | some errno => exact makes_ask _ _ _ rfl fun _ => ih (some errno)

theorem connectTcpSocket_steady (host : Bytes) (port : Int) : Steady (connectTcpSocket host port) := by
  unfold connectTcpSocket
  by_cases valid : isValidHost host = true
  · by_cases range : (port < 1 || port > 65535) = true
    · simp [Steady, valid, range]
    · simp only [valid, range]
      refine makes_ask _ _ _ rfl fun reply => ?_
      cases reply with
      | error status => exact makes_pure _ _
      | ok list =>
          refine makes_seq _ _ _ (connectAny_steady list.handle list.addresses none) fun outcome => ?_
          cases outcome <;> exact makes_pure _ _
  · simp [Steady, valid]

theorem ensureLibssh2Initialized_steady : Steady ensureLibssh2Initialized := by
  refine makes_lock _ _ _ rfl rfl (makes_ask _ _ _ rfl fun initialized => ?_)
  cases initialized with
  | true => exact makes_pure _ _
  | false =>
      refine makes_ask _ _ _ rfl fun rc => ?_
      by_cases failed : rc = 0 <;> simp [ask, failed]

theorem openFailure_steady (session : Nat) (channel : Option Channel) (sock : Nat) (reason : Option String)
    (fallback : String) : Steady (openFailure session channel sock reason fallback) := by
  cases channel <;> cases reason <;>
    simp [Steady, openFailure, lastSessionError, cleanupOpenFailure, ask]

theorem openShell_steady (session sock : Nat) : Steady (openShell session sock) := by
  refine makes_ask _ _ _ rfl fun reply => ?_
  cases reply with
  | none => exact openFailure_steady _ _ _ _ _
  | some number =>
      refine makes_ask _ _ _ rfl fun _ => makes_ite _ _ _ _ (openFailure_steady _ _ _ _ _) ?_
      refine makes_ask _ _ _ rfl fun _ => makes_ite _ _ _ _ (openFailure_steady _ _ _ _ _) ?_
      exact makes_lock _ _ _ rfl rfl (makes_ask _ _ _ rfl fun _ => makes_pure _ _)

theorem openSessionInternal_steady (host : Bytes) (port : Int) (user pass : Bytes) :
    Steady (openSessionInternal host port user pass) := by
  unfold openSessionInternal
  by_cases noHost : host.isEmpty = true
  · simp [Steady, noHost]
  by_cases noUser : user.isEmpty = true
  · simp [Steady, noHost, noUser]
  simp only [noHost, noUser]
  refine makes_seq _ _ _ (connectTcpSocket_steady host port) fun sock => ?_
  cases sock with
  | error error => exact makes_pure _ _
  | ok sock =>
  refine makes_seq _ _ _ ensureLibssh2Initialized_steady fun ready => ?_
  cases ready with
  | error error => exact makes_ask _ _ _ rfl fun _ => makes_pure _ _
  | ok _ =>
  refine makes_ask _ _ _ rfl fun session => ?_
  cases session with
  | none => exact makes_ask _ _ _ rfl fun _ => makes_pure _ _
  | some session =>
      refine makes_ask _ _ _ rfl fun _ => ?_
      refine makes_ask _ _ _ rfl fun _ => makes_ite _ _ _ _ (openFailure_steady _ _ _ _ _) ?_
      refine makes_seq _ _ _ (makes_lock _ _ _ rfl rfl (makes_ask _ _ _ rfl fun _ => makes_pure _ _)) fun _ => ?_
      refine makes_ask _ _ _ rfl fun _ => ?_
      refine makes_ask _ _ _ rfl fun _ => ?_
      exact makes_ite _ _ _ _ (openFailure_steady _ _ _ _ _) (openShell_steady session sock)

theorem executeCommand_steady (sessionId : Int) (command : Bytes) : Steady (executeCommand sessionId command) := by
  refine makes_lock _ _ _ rfl rfl (makes_ask _ _ _ rfl fun found => ?_)
  cases found with
  | none => exact makes_pure _ _
  | some entry =>
  refine makes_ask _ _ _ rfl fun opened => ?_
  cases opened with
  | none => exact makes_ask _ _ _ rfl fun _ => makes_pure _ _
  | some number =>
      refine makes_ask _ _ _ rfl fun rc => makes_ite _ _ _ _ ?_ ?_
      · exact makes_ask _ _ _ rfl fun _ => makes_ask _ _ _ rfl fun _ => makes_pure _ _
      · refine makes_seq _ _ _ (makes_drain _ _ _ _ rfl) fun _ => makes_seq _ _ _ (makes_drain _ _ _ _ rfl) fun _ => ?_
        exact makes_ask _ _ _ rfl fun _ => makes_ask _ _ _ rfl fun _ => makes_pure _ _

theorem downloadFile_steady (sessionId : Int) (remotePath : Bytes) : Steady (downloadFile sessionId remotePath) := by
  refine makes_lock _ _ _ rfl rfl (makes_ask _ _ _ rfl fun found => ?_)
  cases found with
  | none => exact makes_pure _ _
  | some entry =>
  dsimp only
  split
  · exact makes_pure _ _
  refine makes_ask _ _ _ rfl fun opened => ?_
  cases opened with
  | none => exact makes_pure _ _
  | some number =>
      refine makes_ask _ _ _ rfl fun rc => makes_ite _ _ _ _ ?_ ?_
      · exact makes_ask _ _ _ rfl fun _ => makes_pure _ _
      · refine makes_seq _ _ _ (makes_drain _ _ _ _ rfl) fun _ => ?_
        exact makes_ask _ _ _ rfl fun _ => makes_ask _ _ _ rfl fun _ => makes_pure _ _

theorem uploadFile_steady (sessionId : Int) (remotePath content : Bytes) :
    Steady (uploadFile sessionId remotePath content) := by
  refine makes_lock _ _ _ rfl rfl (makes_ask _ _ _ rfl fun found => ?_)
  cases found with
  | none => exact makes_pure _ _
  | some entry =>
  dsimp only
  split
  · exact makes_pure _ _
  refine makes_ask _ _ _ rfl fun opened => ?_
  cases opened with
  | none => exact makes_pure _ _
  | some number =>
      refine makes_ask _ _ _ rfl fun rc => makes_ite _ _ _ _ ?_ ?_
      · exact makes_ask _ _ _ rfl fun _ => makes_pure _ _
      · refine makes_seq _ _ _ (makes_writeAll _ _ _ fun _ => rfl) fun written => ?_
        cases written with
        | none => exact makes_ask _ _ _ rfl fun _ => makes_pure _ _
        | some total =>
            refine makes_ask _ _ _ rfl fun _ => ?_
            exact makes_ask _ _ _ rfl fun _ => makes_ask _ _ _ rfl fun _ => makes_pure _ _

theorem operation_steady (operation : Operation) (other : operation.isRead = false) : Steady operation.program := by
  cases operation with
  | openSession host port user pass =>
      refine makes_seq _ _ _ (openSessionInternal_steady host port user pass) fun outcome => ?_
      cases outcome <;> exact makes_pure _ _
  | openSessionAsync host port user pass =>
      simp [Operation.program, openSessionAsync, ask]
  | executeOpenSessionAsync data =>
      refine makes_seq _ _ _ (openSessionInternal_steady data.host data.port data.user data.pass) fun outcome => ?_
      cases outcome <;> exact makes_pure _ _
  | completeOpenSessionAsync statusOk data sessionId =>
      exact makes_ask _ _ _ rfl fun _ => makes_ask _ _ _ rfl fun _ => makes_pure _ _
  | closeSession sessionId =>
      refine makes_lock _ _ _ rfl rfl (makes_ask _ _ _ rfl fun found => ?_)
      cases found <;> simp [ask]
  | setKeepaliveConfig interval attempts =>
      exact makes_seq _ _ _ (makes_lock _ _ _ rfl rfl (makes_ask _ _ _ rfl fun _ => makes_pure _ _)) fun _ => makes_pure _ _
  | sendKeepalive sessionId =>
      refine makes_seq _ _ _ (makes_lock _ _ _ rfl rfl (makes_ask _ _ _ rfl fun found => ?_)) fun _ => makes_pure _ _
      cases found with
      | none => exact makes_pure _ _
      | some entry =>
          refine makes_ask _ _ _ rfl fun rc => makes_ite _ _ _ _ ?_ ?_
          · exact makes_ask _ _ _ rfl fun _ => makes_pure _ _
          · exact makes_ask _ _ _ rfl fun _ => makes_pure _ _
  | write sessionId data =>
      refine makes_lock _ _ _ rfl rfl (makes_ask _ _ _ rfl fun found => ?_)
      cases found with
      | none => exact makes_pure _ _
      | some entry => exact makes_ask _ _ _ rfl fun _ => makes_pure _ _
  | read sessionId => cases other
  | executeCommand sessionId command => exact executeCommand_steady sessionId command
  | downloadFile sessionId remotePath => exact downloadFile_steady sessionId remotePath
  | uploadFile sessionId remotePath content => exact uploadFile_steady sessionId remotePath content

theorem read_mode (sessionId : Int) (events : List Exchange) (result : Result)
    (trace : Trace (read sessionId) events result) (session : Nat) (mode : Bool) :
    events.foldl (setsMode session) mode = if events.findSome? sessionFound = some session then false else mode := by
  obtain ⟨inner, rfl, body⟩ := withLock_trace _ _ _ _ trace
  obtain ⟨found, later, rfl, answered⟩ := (trace_call _ _ _ _).mp body
  cases found with
  | none =>
      obtain ⟨rfl, _⟩ := (trace_done _ _ _).mp answered
      rfl
  | some entry =>
      obtain ⟨_, reads, rfl, unblocked⟩ := (trace_call _ _ _ _).mp answered
      have steady : Steady (drain (.channelRead entry.channel 4096) ReadResult.available [] >>= fun text =>
          pure (createString text)) := makes_seq _ _ _ (makes_drain _ _ _ _ rfl) fun _ => makes_pure _ _
      have kept := fun mode => steady_mode _ steady session mode reads result unblocked
      simp only [List.cons_append, List.findSome?_cons, List.foldl_cons, List.foldl_append, kept]
      simp only [sessionFound, setsMode, entry.nested, List.foldl_nil, Option.some.injEq]

theorem read_inserts (sessionId : Int) (events : List Exchange) (result : Result)
    (trace : Trace (read sessionId) events result) (entry : KesshSession) (reply : Int) :
    ⟨.insertSession entry, reply⟩ ∉ events := by
  have others : Makes (fun call => call ≠ .insertSession entry) (read sessionId) := by
    refine makes_lock _ _ _ (by simp) (by simp) (makes_ask _ _ _ (by simp) fun found => ?_)
    cases found with
    | none => exact makes_pure _ _
    | some found =>
        exact makes_ask _ _ _ (by simp) fun _ => makes_seq _ _ _ (makes_drain _ _ _ _ (by simp)) fun _ => makes_pure _ _
  exact fun member => makes_trace _ _ events result others trace _ member rfl

theorem call_mode (call : NativeCall) (session : Nat) (mode : Bool) :
    call.events.foldl (setsMode session) mode =
      if call.operation.isRead && call.session == some session then false else mode := by
  obtain ⟨operation, events, result, trace⟩ := call
  cases read : operation.isRead with
  | false => simpa [read] using steady_mode _ (operation_steady operation read) session mode events result trace
  | true =>
      cases operation with
      | read sessionId => simpa [NativeCall.session, read] using read_mode sessionId events result trace session mode
      | _ => cases read

theorem calls_mode (calls : List NativeCall) (session : Nat) (mode : Bool) :
    (calls.flatMap NativeCall.events).foldl (setsMode session) mode =
      if calls.any fun call => call.operation.isRead && call.session == some session then false else mode := by
  induction calls generalizing mode with
  | nil => rfl
  | cons call rest ih =>
      rw [List.flatMap_cons, List.foldl_append, call_mode, ih, List.any_cons]
      cases call.operation.isRead && call.session == some session <;> simp

/-- Each operation on a session starts in the mode that the open left it in exactly when no
Read of the session came before it, whatever else is called in between. -/
theorem reading_keeps_mode (opening : NativeCall) (entry : KesshSession) (sessionId : Int)
    (inserted : ⟨.insertSession entry, sessionId⟩ ∈ opening.events) (calls : List NativeCall) :
    (∀ before call after, calls = before ++ call :: after → call.Talks entry.session →
        blockingMode entry.session (opening.events ++ before.flatMap NativeCall.events) =
          blockingMode entry.session opening.events) ↔
      ∀ before call after, calls = before ++ call :: after → call.Talks entry.session →
        ∀ earlier ∈ before, ¬ earlier.Reads entry.session := by
  have opened : blockingMode entry.session opening.events = true := by
    rw [blockingMode, call_mode]
    obtain ⟨operation, events, result, trace⟩ := opening
    cases operation with
    | read readId => exact absurd inserted (read_inserts readId events result trace entry sessionId)
    | _ => rfl
  have reads : ∀ before : List NativeCall,
      blockingMode entry.session (opening.events ++ before.flatMap NativeCall.events) =
          blockingMode entry.session opening.events ↔
        ∀ earlier ∈ before, ¬ earlier.Reads entry.session := by
    intro before
    have start : opening.events.foldl (setsMode entry.session) true = true := opened
    rw [opened, blockingMode, List.foldl_append, start, calls_mode]
    simp [NativeCall.Reads]
  exact forall_congr' fun before => forall_congr' fun call => forall_congr' fun after => forall_congr' fun _ =>
    forall_congr' fun _ => reads before

def exchanges (run : List Event) : List Exchange :=
  run.filterMap fun event =>
    match event with
    | .call _ exchange => some exchange
    | _ => none

def openCall : NativeCall where
  operation := .openSession (bytes "h") 22 (bytes "u") (bytes "p")
  events := exchanges openRun
  result := .int32 1
  trace := trace_outcome _ _ _ (by decide +kernel)

def readCallEmpty : NativeCall where
  operation := .read 1
  events := exchanges readRun
  result := .string []
  trace := trace_outcome _ _ _ (by decide +kernel)

def writeCallFull : NativeCall where
  operation := .write 1 [0x61]
  events := [⟨.lock .session, ()⟩, ⟨.findSession 1 .use, some exampleEntry⟩,
    ⟨.channelWrite exampleEntry.channel [0x61], (1 : Int)⟩, ⟨.unlock .session, ()⟩]
  result := .undefined
  trace := trace_outcome _ _ _ (by decide +kernel)

theorem open_inserts : ⟨.insertSession exampleEntry, (1 : Int)⟩ ∈ openCall.events := by
  simp [openCall, exchanges, openRun, answer]

theorem reading_keeps_mode_written :
    blockingMode 0 (openCall.events ++ [writeCallFull].flatMap NativeCall.events) =
      blockingMode 0 openCall.events := by
  refine (reading_keeps_mode openCall exampleEntry 1 open_inserts [writeCallFull, writeCallFull]).mpr ?_
    [writeCallFull] writeCallFull [] rfl ⟨rfl, rfl⟩
  intro before call after same _ earlier member reads
  have all : earlier ∈ [writeCallFull, writeCallFull] := by
    rw [same]
    exact List.mem_append_left _ member
  obtain rfl : earlier = writeCallFull := by simpa using all
  exact absurd reads.1 (by decide)

-- After a Read the session does not block any more: a Write starts in another mode than the open left.
theorem write_after_read :
    ⟨.insertSession exampleEntry, (1 : Int)⟩ ∈ openCall.events ∧
      ¬ ∀ before call after, [readCallEmpty, writeCallFull] = before ++ call :: after → call.Talks 0 →
        blockingMode 0 (openCall.events ++ before.flatMap NativeCall.events) = blockingMode 0 openCall.events := by
  refine ⟨open_inserts, fun kept => ?_⟩
  exact absurd (kept [readCallEmpty] writeCallFull [] rfl ⟨rfl, rfl⟩) (by decide +kernel)

end Kessh.Native
