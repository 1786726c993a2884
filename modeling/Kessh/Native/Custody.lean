import Kessh.Native.Operations

set_option autoImplicit false

-- What one operation owns and may touch, followed along its calls.
namespace Kessh.Native

open Utf8 (Bytes)
open Interaction

-- Things that have an owner. A ticket is a session id on its way to the caller of an open.
inductive Handle where
  | socket (sock : Nat)
  | addresses (list : Nat)
  | session (session : Nat)
  | channel (channel : Channel)
  | promise (deferred : Nat)
  | ticket (sessionId : Int)
deriving DecidableEq, Repr

def KesshSession.handles (entry : KesshSession) : List Handle :=
  [.channel entry.channel, .session entry.session, .socket entry.sock]

-- A session and its channels: what a completed libssh2_session_free releases.
def Handle.within (session : Nat) : Handle → Bool
  | .session other => other == session
  | .channel opened => opened.session == session
  | _ => false

@[simp] def Call.uses : Call → List Handle
  | .freeaddrinfo list => [.addresses list]
  | .setSocketTimeouts sock _ => [.socket sock]
  | .connect sock _ => [.socket sock]
  | .close sock => [.socket sock]
  | .sessionSetTimeout session _ => [.session session]
  | .sessionHandshake session sock => [.session session, .socket sock]
  | .sessionLastError session => [.session session]
  | .keepaliveConfig session _ => [.session session]
  | .keepaliveSend session => [.session session]
  | .userauthPassword session _ _ => [.session session]
  | .sessionDisconnect session _ => [.session session]
  | .sessionFree session => [.session session]
  | .channelOpenSession session => [.session session]
  | .channelRequestPty channel _ => [.channel channel]
  | .channelShell channel => [.channel channel]
  | .channelExec channel _ => [.channel channel]
  | .channelSetBlocking channel _ => [.channel channel]
  | .channelRead channel _ => [.channel channel]
  | .channelReadStderr channel _ => [.channel channel]
  | .channelWrite channel _ => [.channel channel]
  | .channelSendEof channel => [.channel channel]
  | .channelClose channel => [.channel channel]
  | .channelFree channel => [.channel channel]
  | .createAsyncWork data => [.promise data.deferred]
  | .queueAsyncWork data => [.promise data.deferred]
  | .resolveDeferred deferred _ => [.promise deferred]
  | _ => []

@[simp] def gains : (call : Call) → Reply call → List Handle
  | .getaddrinfo _ _, .ok list => [.addresses list.handle]
  | .socket _, .ok sock => [.socket sock]
  | .sessionInit, some session => [.session session]
  | .channelOpenSession session, some number => [.channel { session, number }]
  | .createPromise, deferred => [.promise deferred]
  | _, _ => []

-- The handles that are gone after a reply: libssh2 frees nothing unless it returns 0, and a
-- session takes its channels with it. Resolving a promise with an id hands the id to its caller.
@[simp] def frees : (call : Call) → Reply call → Handle → Bool
  | .freeaddrinfo list, _ => fun handle => handle == .addresses list
  | .close sock, _ => fun handle => handle == .socket sock
  | .channelFree channel, rc => fun handle => decide (rc = 0) && handle == .channel channel
  | .sessionFree session, rc => fun handle => decide (rc = 0) && handle.within session
  | .resolveDeferred deferred value, _ => fun handle =>
      handle == .promise deferred || decide (value ≠ -1) && handle == .ticket value
  | _, _ => fun _ => false

-- committed: it may have changed the table, or handed on what it acquired.
structure Custody where
  held : List Handle := []
  locked : Bool := false
  entry : Option (Int × KesshSession × Purpose) := none
  committed : Bool := false

@[simp] def Custody.reach (c : Custody) : List Handle :=
  match c.entry with
  | some (_, entry, .use) => c.held ++ entry.handles
  | _ => c.held

@[simp] def Custody.permits (c : Custody) : Call → Prop
  | .lock .session => c.locked = false
  | .unlock .session => c.locked = true ∧ (∀ sessionId entry, c.entry ≠ some (sessionId, entry, .close)) ∧
      ∀ channel, .channel channel ∉ c.held
  | .findSession _ _ => c.locked = true ∧ c.entry = none
  | .insertSession entry => c.locked = true ∧ c.entry = none ∧ (∀ handle ∈ entry.handles, handle ∈ c.held) ∧
      ∀ channel, .channel channel ∈ c.held → channel = entry.channel
  | .eraseSession sessionId => c.locked = true ∧ ∃ entry, c.entry = some (sessionId, entry, .close)
  | .setKeepaliveFailures sessionId _ => c.locked = true ∧ ∃ entry, c.entry = some (sessionId, entry, .use)
  | .freeaddrinfo list => .addresses list ∈ c.held
  | .close sock => .socket sock ∈ c.held
  | .channelFree channel => .channel channel ∈ c.held
  | .sessionFree session => .session session ∈ c.held
  | .queueAsyncWork data => .promise data.deferred ∈ c.held
  | .resolveDeferred deferred value => .promise deferred ∈ c.held ∧ (value ≠ -1 → .ticket value ∈ c.held)
  | _ => True

@[simp] def Custody.allowed (c : Custody) (call : Call) : Prop := (∀ handle ∈ call.uses, handle ∈ c.reach) ∧ c.permits call

@[simp] def Custody.after (c : Custody) : (call : Call) → Reply call → Custody
  | .lock .session, _ => { c with locked := true }
  | .unlock .session, _ => { c with locked := false, entry := none }
  | .findSession sessionId purpose, some entry =>
      { c with
        entry := some (sessionId, entry, purpose)
        held := if purpose = .close then entry.handles ++ c.held else c.held
        committed := c.committed || decide (purpose = .close) }
  | .insertSession entry, sessionId =>
      { c with held := .ticket sessionId :: c.held.filter (fun handle => !entry.handles.contains handle)
               committed := true }
  | .eraseSession _, _ => { c with entry := none, committed := true }
  | .setKeepaliveFailures _ failures, _ =>
      { c with
        entry := c.entry.map fun found => (found.1, { found.2.1 with keepaliveFailures := failures }, found.2.2)
        committed := true }
  | .queueAsyncWork data, true =>
      { c with held := c.held.filter (· != .promise data.deferred), committed := true }
  | call, reply => { c with held := gains call reply ++ c.held.filter fun handle => !frees call reply handle }

-- A session is freed when it is asked for, and so is the channel of a command; whether the shell
-- channel of a session that is being closed goes first does not matter.
def completes (strict : Bool) : (call : Call) → Reply call → Prop
  | .sessionFree _, rc => rc = 0
  | .channelFree _, rc => strict = true → rc = 0
  | _, _ => True

@[simp] def expected (strict : Bool) : (call : Call) → Reply call → Prop
  | .insertSession _, sessionId => 0 < sessionId
  | .sessionFree _, rc => rc = 0
  | .channelFree _, rc => strict = true → rc = 0
  | _, _ => True

abbrev discipline (strict : Bool) : Discipline Call Reply where
  State := Custody
  allowed := Custody.allowed
  expected := expected strict
  after := Custody.after

variable {α : Type} (strict : Bool) (post : α → Custody → Prop)

@[simp] theorem obeys_call (call : Call) (proceed : Reply call → Routine α) (c : Custody) :
    Obeys (discipline strict) post (.call call proceed) c ↔ c.allowed call ∧ ∀ reply, expected strict call reply →
      Obeys (discipline strict) post (proceed reply) (c.after call reply) := Iff.rfl

@[simp] theorem obeys_done (value : α) (c : Custody) :
    Obeys (discipline strict) post (.done value) c ↔ post value c := Iff.rfl

theorem obeys_same (call : Call) (proceed : Reply call → Routine α) (c : Custody) (allowed : c.allowed call)
    (same : ∀ reply, c.after call reply = c)
    (rest : ∀ reply, Obeys (discipline strict) post (proceed reply) c) :
    Obeys (discipline strict) post (.call call proceed) c :=
  (obeys_call strict post call proceed c).mpr ⟨allowed, fun reply _ => by rw [same reply]; exact rest reply⟩

theorem obeys_match {β : Type} (program : Routine α) (rest : α → Routine β) (goal : β → Custody → Prop) (c : Custody)
    (first : Obeys (discipline strict) post program c)
    (later : ∀ value after, post value after → Obeys (discipline strict) goal (rest value) after) :
    Obeys (discipline strict) goal (program.bind rest) c :=
  obeys_bind (discipline strict) goal program rest c (obeys_mono (discipline strict) _ post later program c first)

end Kessh.Native
