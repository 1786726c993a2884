import Kessh.Native.Custody

set_option autoImplicit false

-- Every operation keeps to the discipline on every path it can take.
namespace Kessh.Native

open Utf8 (Bytes)
open Interaction

-- What an operation starts with and what it ends with.
def Operation.start : Operation → Custody
  | .completeOpenSessionAsync statusOk data sessionId =>
      { held := .promise data.deferred :: if statusOk ∧ sessionId ≠ -1 then [.ticket sessionId] else [] }
  | _ => {}

@[simp] def Operation.keeps : Operation → Result → List Handle
  | .openSession _ _ _ _, .int32 sessionId => [.ticket sessionId]
  | .executeOpenSessionAsync _, .ran sessionId _ => if sessionId = -1 then [] else [.ticket sessionId]
  | _, _ => []

@[simp] def Operation.failedOpen : Operation → Result → Bool
  | .openSession _ _ _ _, .thrown _ => true
  | .executeOpenSessionAsync _, .ran sessionId _ => decide (sessionId ≤ 0)
  | _, _ => false

-- The operations that run a command on a channel of their own.
def Operation.strict : Operation → Bool
  | .executeCommand _ _ => true
  | .downloadFile _ _ => true
  | .uploadFile _ _ _ => true
  | _ => false

structure Operation.Ended (operation : Operation) (result : Result) (c : Custody) : Prop where
  held : c.held = operation.keeps result
  locked : c.locked = false
  entry : c.entry = none
  failed : operation.failedOpen result = true → c.committed = false

@[simp] theorem Operation.ended_iff (operation : Operation) (result : Result) (c : Custody) :
    operation.Ended result c ↔ c.held = operation.keeps result ∧ c.locked = false ∧ c.entry = none ∧
      (operation.failedOpen result = true → c.committed = false) :=
  ⟨fun ended => ⟨ended.held, ended.locked, ended.entry, ended.failed⟩, fun ⟨held, locked, entry, failed⟩ =>
    ⟨held, locked, entry, failed⟩⟩

variable (strict : Bool)

theorem connectAttempts_obeys (sock list : Nat) (address : Address) (retries : Nat) :
    Obeys (discipline strict) (fun _ c => c = { held := [.socket sock, .addresses list] })
      (connectAttempts sock address retries) { held := [.socket sock, .addresses list] } := by
  induction retries with
  | zero =>
      rw [connectAttempts]
      simp only [ask, Program.bind_eq, Program.ask_bind, obeys_call]
      refine ⟨by simp, fun reply _ => ?_⟩
      cases reply with
      | none => simp
      | some errno => by_cases connected : errno.code = EISCONN <;> simp [connected]
  | succ more ih =>
      rw [connectAttempts]
      simp only [ask, Program.bind_eq, Program.ask_bind, obeys_call]
      refine ⟨by simp, fun reply _ => ?_⟩
      cases reply with
      | none => simp
      | some errno =>
          dsimp only
          by_cases connected : errno.code = EISCONN
          · simp [connected]
          · rw [if_neg connected]
            by_cases interrupted : errno.code = EINTR
            · rw [if_pos interrupted]
              exact ih
            · simp [interrupted]

-- The custody of a function that yields a socket or fails with nothing left.
def socketOf {ε : Type} : Except ε Nat → Custody
  | .ok sock => { held := [.socket sock] }
  | .error _ => {}

theorem connectAny_obeys (list : Nat) (addresses : List Address) (lastError : Option Errno) :
    Obeys (discipline strict) (fun outcome c => c = socketOf outcome) (connectAny list addresses lastError)
      { held := [.addresses list] } := by
  induction addresses generalizing lastError with
  | nil => simp [connectAny, ask, socketOf]
  | cons address rest ih =>
      simp only [connectAny, ask, Program.bind_eq, Program.ask_bind, obeys_call]
      refine ⟨by simp, fun reply _ => ?_⟩
      cases reply with
      | error errno => simpa using ih (some errno)
      | ok sock =>
          simp only [obeys_call]
          refine ⟨by simp, fun _ _ => ?_⟩
          refine obeys_match strict _ _ _ _ _ (connectAttempts_obeys strict sock list address 2) ?_
          rintro outcome _ rfl
          cases outcome with
          | none => simp [socketOf]
          | some errno => simpa using ih (some errno)

theorem connectTcpSocket_obeys (host : Bytes) (port : Int) :
    Obeys (discipline strict) (fun outcome c => c = socketOf outcome) (connectTcpSocket host port) {} := by
  unfold connectTcpSocket
  by_cases valid : isValidHost host = true
  · by_cases range : (port < 1 || port > 65535) = true
    · simp [valid, range, socketOf]
    · simp only [valid, range, ask, Program.bind_eq, Program.ask_bind]
      refine ⟨by simp, fun reply _ => ?_⟩
      cases reply with
      | error status => simp [socketOf]
      | ok list =>
          refine obeys_match strict _ _ _ _ _ (connectAny_obeys strict list.handle list.addresses none) ?_
          rintro outcome _ rfl
          cases outcome <;> simp [socketOf]
  · simp [valid, socketOf]

theorem ensureLibssh2Initialized_obeys (sock : Nat) :
    Obeys (discipline strict) (fun _ c => c = { held := [.socket sock] }) ensureLibssh2Initialized
      { held := [.socket sock] } := by
  simp only [ensureLibssh2Initialized, withLock, ask, Program.bind_eq, Program.ask_bind, Program.call_bind, obeys_call]
  refine ⟨by simp, fun _ _ => ⟨by simp, fun initialized _ => ?_⟩⟩
  cases initialized with
  | true => simp
  | false =>
      refine ⟨by simp, fun rc _ => ?_⟩
      by_cases failed : rc = 0 <;> simp [failed]

theorem lastSessionError_obeys (session : Nat) (fallback : String) (held : List Handle)
    (owned : .session session ∈ held) :
    Obeys (discipline strict) (fun _ c => c = { held }) (lastSessionError session fallback) { held } := by
  refine obeys_same strict _ _ _ _ ⟨by simpa using owned, trivial⟩ (by simp) fun _ => ?_
  rfl

theorem cleanupOpenFailure_obeys (session : Nat) (number : Option Nat) (sock : Nat) (reason : Option String) :
    Obeys (discipline strict) (fun _ c => c = {})
      (cleanupOpenFailure session (number.map fun number => { session, number }) sock reason)
      { held := (number.map fun number => Handle.channel { session, number }).toList ++
          [.session session, .socket sock] } := by
  cases number with
  | none => cases reason <;> simp [cleanupOpenFailure, ask, Program.ask, Handle.within]
  | some number => cases reason <;> simp [cleanupOpenFailure, ask, Program.ask, Handle.within]

theorem openFailure_obeys (session : Nat) (number : Option Nat) (sock : Nat) (reason : Option String)
    (fallback : String) :
    Obeys (discipline strict) (fun outcome c => (∃ error, outcome = .error error) ∧ c = {})
      (openFailure session (number.map fun number => { session, number }) sock reason fallback)
      { held := (number.map fun number => Handle.channel { session, number }).toList ++
          [.session session, .socket sock] } := by
  refine obeys_match strict _ _ _ _ _ (lastSessionError_obeys strict session fallback _ (by simp)) ?_
  rintro error _ rfl
  refine obeys_match strict _ _ _ _ _ (cleanupOpenFailure_obeys strict session number sock reason) ?_
  rintro _ _ rfl
  exact ⟨⟨error, rfl⟩, rfl⟩

-- An open ends with a ticket for its entry in the table, or with nothing and nothing handed over.
def openedBy : Fallible Int → Custody
  | .ok sessionId => { held := [.ticket sessionId], committed := true }
  | .error _ => {}

def Opened (outcome : Fallible Int) (c : Custody) : Prop :=
  c = openedBy outcome ∧ ∀ sessionId, outcome = .ok sessionId → 0 < sessionId

theorem opened_error (error : Bytes) : Opened (.error error) {} := ⟨rfl, fun _ same => by cases same⟩

theorem openFailure_opened (session : Nat) (number : Option Nat) (sock : Nat) (reason : Option String)
    (fallback : String) :
    Obeys (discipline strict) Opened (openFailure session (number.map fun number => { session, number }) sock reason fallback)
      { held := (number.map fun number => Handle.channel { session, number }).toList ++
          [.session session, .socket sock] } := by
  refine obeys_mono (discipline strict) _ _ ?_ _ _ (openFailure_obeys strict session number sock reason fallback)
  rintro _ _ ⟨⟨error, rfl⟩, rfl⟩
  exact opened_error error

theorem openShell_obeys (session sock : Nat) :
    Obeys (discipline strict) Opened (openShell session sock) { held := [.session session, .socket sock] } := by
  have failure := fun number reason fallback => openFailure_opened strict session number sock reason fallback
  simp only [openShell, ask, Program.bind_eq, Program.ask_bind, obeys_call]
  refine ⟨by simp, fun reply _ => ?_⟩
  cases reply with
  | none => exact failure none _ _
  | some number =>
      refine obeys_same strict _ _ _ _ (by simp) (by simp) fun pty => ?_
      by_cases refused : pty ≠ 0
      · rw [if_pos refused]
        exact failure (some number) _ _
      rw [if_neg refused]
      refine obeys_same strict _ _ _ _ (by simp) (by simp) fun shell => ?_
      by_cases refused : shell ≠ 0
      · rw [if_pos refused]
        exact failure (some number) _ _
      rw [if_neg refused]
      simp [withLock, ask, KesshSession.opened, KesshSession.handles, Opened, openedBy]

theorem openSessionInternal_obeys (host : Bytes) (port : Int) (user pass : Bytes) :
    Obeys (discipline strict) Opened (openSessionInternal host port user pass) {} := by
  unfold openSessionInternal
  by_cases noHost : host.isEmpty = true
  · simp [noHost, opened_error]
  by_cases noUser : user.isEmpty = true
  · simp [noHost, noUser, opened_error]
  simp only [noHost, noUser]
  refine obeys_match strict _ _ _ _ _ (connectTcpSocket_obeys strict host port) ?_
  rintro (error | sock) _ rfl
  · simp [socketOf, opened_error]
  refine obeys_match strict _ _ _ _ _ (ensureLibssh2Initialized_obeys strict sock) ?_
  rintro (error | _) _ rfl
  · simp [ask, opened_error]
  simp only [ask, Program.bind_eq, Program.ask_bind, obeys_call]
  refine ⟨by simp, fun reply _ => ?_⟩
  cases reply with
  | none => simp [opened_error]
  | some session =>
      have failure := fun reason fallback => openFailure_opened strict session none sock reason fallback
      refine obeys_same strict _ _ _ _ (by simp) (by simp) fun _ => ?_
      refine obeys_same strict _ _ _ _ (by simp) (by simp) fun handshake => ?_
      by_cases failed : handshake ≠ 0
      · rw [if_pos failed]
        exact failure none _
      rw [if_neg failed]
      simp only [withLock, ask, Program.bind_eq, Program.ask_bind, Program.call_bind, Program.pure_eq, Program.done_bind]
      refine obeys_same strict _ _ _ _ (by simp) (by simp) fun _ => ?_
      refine obeys_same strict _ _ _ _ (by simp) (by simp) fun configured => ?_
      refine obeys_same strict _ _ _ _ (by simp) (by simp) fun _ => ?_
      refine obeys_same strict _ _ _ _ (by simp) (by simp) fun _ => ?_
      refine obeys_same strict _ _ _ _ (by simp) (by simp) fun auth => ?_
      by_cases failed : auth ≠ 0
      · rw [if_pos failed]
        exact failure (some "Authentication failed") _
      rw [if_neg failed]
      exact openShell_obeys strict session sock

theorem openSession_obeys (host : Bytes) (port : Int) (user pass : Bytes) :
    Obeys (discipline strict) (Operation.openSession host port user pass).Ended (openSession host port user pass) {} := by
  refine obeys_match strict _ _ _ _ _ (openSessionInternal_obeys strict host port user pass) ?_
  rintro (error | sessionId) _ ⟨rfl, positive⟩
  · exact ⟨rfl, rfl, rfl, fun _ => rfl⟩
  · have valid : ¬ sessionId ≤ 0 := Int.not_le.mpr (positive sessionId rfl)
    simp only [valid, if_false]
    exact ⟨rfl, rfl, rfl, fun failed => absurd failed (by simp [Operation.failedOpen])⟩

theorem executeOpenSessionAsync_obeys (data : OpenSessionAsyncData) :
    Obeys (discipline strict) (Operation.executeOpenSessionAsync data).Ended (executeOpenSessionAsync data) {} := by
  refine obeys_match strict _ _ _ _ _ (openSessionInternal_obeys strict data.host data.port data.user data.pass) ?_
  rintro (error | sessionId) _ ⟨rfl, positive⟩
  · exact ⟨rfl, rfl, rfl, fun _ => rfl⟩
  · have valid := positive sessionId rfl
    refine ⟨?_, rfl, rfl, fun failed => ?_⟩
    · simp only [openedBy, Operation.keeps]
      rw [if_neg (by omega)]
    · simp only [Operation.failedOpen, decide_eq_true_eq] at failed
      omega

theorem completeOpenSessionAsync_obeys (statusOk : Bool) (data : OpenSessionAsyncData) (sessionId : Int) :
    Obeys (discipline strict) (Operation.completeOpenSessionAsync statusOk data sessionId).Ended
      (completeOpenSessionAsync statusOk data sessionId)
      (Operation.completeOpenSessionAsync statusOk data sessionId).start := by
  cases statusOk with
  | false => simp [completeOpenSessionAsync, ask, Operation.start]
  | true => by_cases failed : sessionId = -1 <;> simp [completeOpenSessionAsync, ask, Operation.start, failed]

theorem openSessionAsync_obeys (host : Bytes) (port : Int) (user pass : Bytes) :
    Obeys (discipline strict) (Operation.openSessionAsync host port user pass).Ended
      (openSessionAsync host port user pass) {} := by
  simp [openSessionAsync, ask]

theorem setKeepaliveConfig_obeys (interval attempts : Int) :
    Obeys (discipline strict) (Operation.setKeepaliveConfig interval attempts).Ended
      (setKeepaliveConfig interval attempts) {} := by
  simp [setKeepaliveConfig, withLock, ask]

-- How the scope of the session mutex is left: with nothing held, and no entry half closed.
structure Leaves (c : Custody) : Prop where
  held : c.held = []
  locked : c.locked = true
  entry : ∀ sessionId entry, c.entry ≠ some (sessionId, entry, .close)

@[simp] theorem leaves_iff (c : Custody) : Leaves c ↔ c.held = [] ∧ c.locked = true ∧
    ∀ sessionId entry, c.entry ≠ some (sessionId, entry, .close) :=
  ⟨fun leaves => ⟨leaves.held, leaves.locked, leaves.entry⟩, fun ⟨held, locked, entry⟩ => ⟨held, locked, entry⟩⟩

theorem withLock_obeys {α : Type} (post : α → Custody → Prop) (scope : Routine α)
    (body : Obeys (discipline strict)
      (fun value c => Leaves c ∧ post value { c with locked := false, entry := none }) scope { locked := true }) :
    Obeys (discipline strict) post (withLock .session scope) {} := by
  simp only [withLock, ask, Program.bind_eq, Program.ask_bind, obeys_call]
  refine ⟨by simp, fun _ _ => ?_⟩
  refine obeys_match strict _ _ _ _ _ body ?_
  rintro value c ⟨leaves, ended⟩
  exact ⟨⟨by simp, leaves.locked, leaves.entry, by simp [leaves.held]⟩, fun _ _ => ended⟩

def inUse (sessionId : Int) (entry : KesshSession) (held : List Handle) : Custody :=
  { held, locked := true, entry := some (sessionId, entry, .use) }

theorem find_obeys {α : Type} (post : α → Custody → Prop) (sessionId : Int)
    (rest : Option KesshSession → Routine α) (missing : Obeys (discipline strict) post (rest none) { locked := true })
    (found : ∀ entry, Obeys (discipline strict) post (rest (some entry)) (inUse sessionId entry [])) :
    Obeys (discipline strict) post (.call (.findSession sessionId .use) rest) { locked := true } := by
  refine ⟨by simp, fun reply _ => ?_⟩
  cases reply with
  | none => exact missing
  | some entry => exact found entry

theorem closeSession_obeys (sessionId : Int) :
    Obeys (discipline strict) (Operation.closeSession sessionId).Ended (closeSession sessionId) {} := by
  refine withLock_obeys strict _ _ ?_
  simp only [ask, Program.bind_eq, Program.ask_bind, obeys_call]
  refine ⟨by simp, fun found _ => ?_⟩
  cases found with
  | none => simp
  | some entry => simp [KesshSession.handles, Handle.within, entry.nested]

theorem sendKeepalive_obeys (sessionId : Int) :
    Obeys (discipline strict) (Operation.sendKeepalive sessionId).Ended (sendKeepalive sessionId) {} := by
  refine obeys_match strict (fun _ c => c.held = [] ∧ c.locked = false ∧ c.entry = none) _ _ _ _
    (withLock_obeys strict _ _ ?_) ?_
  · refine find_obeys strict _ sessionId _ (by simp) fun entry => ?_
    refine obeys_same strict _ _ _ _ (by simp [inUse, KesshSession.handles]) (by simp [inUse]) fun rc => ?_
    by_cases answered : rc = 0 <;> simp [answered, ask, inUse]
  · rintro success c ⟨held, locked, entry⟩
    exact ⟨held, locked, entry, fun failed => by cases failed⟩

theorem write_obeys (sessionId : Int) (data : Bytes) :
    Obeys (discipline strict) (Operation.write sessionId data).Ended (write sessionId data) {} := by
  refine withLock_obeys strict _ _ (find_obeys strict _ sessionId _ (by simp) fun entry => ?_)
  refine obeys_same strict _ _ _ _ (by simp [inUse, KesshSession.handles]) (by simp [inUse]) fun _ => ?_
  simp [inUse]

theorem drain_obeys (request : Call) (data : Reply request → Option Bytes) (text : Bytes) (c : Custody)
    (allowed : c.allowed request) (same : ∀ reply, c.after request reply = c) :
    Obeys (discipline strict) (fun _ after => after = c) (drain request data text) c :=
  fun _ => ⟨allowed, fun reply _ => ⟨same reply, fun _ => rfl⟩⟩

theorem read_obeys (sessionId : Int) :
    Obeys (discipline strict) (Operation.read sessionId).Ended (read sessionId) {} := by
  refine withLock_obeys strict _ _ (find_obeys strict _ sessionId _ (by simp [createString]) fun entry => ?_)
  refine obeys_same strict _ _ _ _ (by simp [inUse, KesshSession.handles]) (by simp [inUse]) fun _ => ?_
  rw [Program.done_bind]
  have drained := drain_obeys strict (.channelRead entry.channel 4096) ReadResult.available []
    (inUse sessionId entry []) (by simp [inUse, KesshSession.handles]) (by simp [inUse])
  refine obeys_match strict _ _ _ _ _ drained ?_
  rintro text _ rfl
  simp [createString, inUse]

theorem execChannel_obeys {α : Type} (post : α → Custody → Prop) (sessionId : Int) (entry : KesshSession)
    (rest : Option Nat → Routine α) (refused : Obeys (discipline true) post (rest none) (inUse sessionId entry []))
    (opened : ∀ number, Obeys (discipline true) post (rest (some number))
      (inUse sessionId entry [.channel { session := entry.session, number }])) :
    Obeys (discipline true) post (.call (.channelOpenSession entry.session) rest) (inUse sessionId entry []) := by
  refine ⟨by simp [inUse, KesshSession.handles], fun reply _ => ?_⟩
  cases reply with
  | none => exact refused
  | some number => exact opened number

theorem executeCommand_obeys (sessionId : Int) (command : Bytes) :
    Obeys (discipline true) (Operation.executeCommand sessionId command).Ended (executeCommand sessionId command) {} := by
  refine withLock_obeys true _ _ (find_obeys true _ sessionId _ (by simp) fun entry => ?_)
  refine execChannel_obeys _ sessionId entry _ (by simp [ask, inUse, KesshSession.handles]) fun number => ?_
  refine obeys_same true _ _ _ _ (by simp [inUse]) (by simp [inUse]) fun rc => ?_
  rw [Program.done_bind]
  by_cases failed : rc ≠ 0
  · rw [if_pos failed]
    simp [ask, inUse, KesshSession.handles]
  rw [if_neg failed]
  have output := drain_obeys true (.channelRead { session := entry.session, number } 4096) ReadResult.awaited []
    (inUse sessionId entry [.channel { session := entry.session, number }]) (by simp [inUse]) (by simp [inUse])
  refine obeys_match true _ _ _ _ _ output ?_
  rintro text _ rfl
  have errors := drain_obeys true (.channelReadStderr { session := entry.session, number } 4096) ReadResult.available
    text (inUse sessionId entry [.channel { session := entry.session, number }]) (by simp [inUse]) (by simp [inUse])
  refine obeys_match true _ _ _ _ _ errors ?_
  rintro text _ rfl
  simp [ask, inUse, createString]

theorem downloadFile_obeys (sessionId : Int) (remotePath : Bytes) :
    Obeys (discipline true) (Operation.downloadFile sessionId remotePath).Ended
      (downloadFile sessionId remotePath) {} := by
  refine withLock_obeys true _ _ (find_obeys true _ sessionId _ (by simp) fun entry => ?_)
  cases shellQuoteArg remotePath with
  | error quoteError => simp [inUse]
  | ok quotedPath =>
      refine execChannel_obeys _ sessionId entry _ (by simp [inUse]) fun number => ?_
      refine obeys_same true _ _ _ _ (by simp [inUse]) (by simp [inUse]) fun rc => ?_
      rw [Program.done_bind]
      by_cases failed : rc ≠ 0
      · rw [if_pos failed]
        simp [ask, inUse]
      rw [if_neg failed]
      have output := drain_obeys true (.channelRead { session := entry.session, number } 8192) ReadResult.awaited []
        (inUse sessionId entry [.channel { session := entry.session, number }]) (by simp [inUse]) (by simp [inUse])
      refine obeys_match true _ _ _ _ _ output ?_
      rintro text _ rfl
      simp [ask, inUse, createString]

theorem writeAll_obeys (channel : Channel) (content : Bytes) (c : Custody) (owned : .channel channel ∈ c.reach) :
    Obeys (discipline strict) (fun _ after => after = c) (writeAll channel content) c := by
  unfold writeAll
  split
  · rfl
  · exact fun totalWritten => ⟨⟨by simpa using owned, trivial⟩, fun written _ => ⟨by simp, fun _ => rfl⟩⟩

theorem uploadFile_obeys (sessionId : Int) (remotePath content : Bytes) :
    Obeys (discipline true) (Operation.uploadFile sessionId remotePath content).Ended
      (uploadFile sessionId remotePath content) {} := by
  refine withLock_obeys true _ _ (find_obeys true _ sessionId _ (by simp) fun entry => ?_)
  cases shellQuoteArg remotePath with
  | error quoteError => simp [inUse]
  | ok quotedPath =>
      refine execChannel_obeys _ sessionId entry _ (by simp [inUse]) fun number => ?_
      refine obeys_same true _ _ _ _ (by simp [inUse]) (by simp [inUse]) fun rc => ?_
      rw [Program.done_bind]
      by_cases failed : rc ≠ 0
      · rw [if_pos failed]
        simp [ask, inUse]
      rw [if_neg failed]
      have writes := writeAll_obeys true { session := entry.session, number } content
        (inUse sessionId entry [.channel { session := entry.session, number }]) (by simp [inUse])
      refine obeys_match true _ _ _ _ _ writes ?_
      rintro (_ | totalWritten) _ rfl
      · simp [ask, inUse]
      · simp [ask, inUse]

theorem operation_obeys (operation : Operation) :
    Obeys (discipline operation.strict) operation.Ended operation.program operation.start := by
  cases operation with
  | openSession host port user pass => exact openSession_obeys _ host port user pass
  | openSessionAsync host port user pass => exact openSessionAsync_obeys _ host port user pass
  | executeOpenSessionAsync data => exact executeOpenSessionAsync_obeys _ data
  | completeOpenSessionAsync statusOk data sessionId => exact completeOpenSessionAsync_obeys _ statusOk data sessionId
  | closeSession sessionId => exact closeSession_obeys _ sessionId
  | setKeepaliveConfig interval attempts => exact setKeepaliveConfig_obeys _ interval attempts
  | sendKeepalive sessionId => exact sendKeepalive_obeys _ sessionId
  | write sessionId data => exact write_obeys _ sessionId data
  | read sessionId => exact read_obeys _ sessionId
  | executeCommand sessionId command => exact executeCommand_obeys sessionId command
  | downloadFile sessionId remotePath => exact downloadFile_obeys sessionId remotePath
  | uploadFile sessionId remotePath content => exact uploadFile_obeys sessionId remotePath content

end Kessh.Native
