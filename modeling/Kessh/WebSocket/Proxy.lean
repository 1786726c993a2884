import Kessh.Lib.Ledger
import Kessh.WebSocket.Grammar
import Kessh.WebSocket.TestPage

set_option autoImplicit false

-- The proxy between WebSockets and SSH servers: what it does for one WebSocket, and for the client at its end.
namespace Kessh.WebSocketSSHServer

open Ecma (JsString js utf8)
open Utf8 (Bytes)
open Ledger Labelled
open WebSocketSSHClient (Message Frame)
open WebSocketSSHTestPage (textOf)

-- What connect is called with. A field that is missing is none.
structure Target where
  host : Option JsString
  port : Int
  username : Option JsString
  password : Option JsString
deriving DecidableEq

-- A message by its type. Data that Buffer.from does not take is the error that it throws.
inductive Request where
  | connect (host : Option JsString) (port : Option Int) (username password : Option JsString)
  | input (data : Except JsString JsString)
  | disconnect
  | unknown

-- The SSH clients have the numbers of their connect requests, as do their shells. The calls of shell that wait
-- for their callback are kept. The ledger has the clients made, the calls of shell and write, and the ends.
structure Proxy where
  opened : Bool := true
  targets : List Target := []
  sshClient : Option Nat := none
  sshStream : Option Nat := none
  connecting : List Nat := []
  shells : List Nat := []
  streams : List Nat := []
  sent : List Message := []
  written : List (Nat × Bytes) := []
  crashed : Bool := false
  ledger : List (Entry Nat) := []

-- A message that JSON.parse makes nothing of is an error, and connect may raise an exception.
inductive Event where
  | message (request : Except JsString Request) (raised : Option JsString)
  | ready (client : Nat)
  | shell (client : Nat) (err : Option JsString)
  | shellData (client : Nat) (chunk : Bytes)
  | shellError (client : Nat) (chunk : Bytes)
  | shellClosed (client : Nat)
  | sshError (client : Nat) (message : JsString)
  | sshClosed (client : Nat)
  | closed

-- On a socket that is closed nothing is sent.
def Proxy.send (message : Message) (proxy : Proxy) : Proxy :=
  if proxy.opened then { proxy with sent := proxy.sent ++ [message] } else proxy

def connectPort (port : Option Int) : Int := if port.getD 0 = 0 then 22 else port.getD 0

def Proxy.connect (target : Target) (raised : Option JsString) (proxy : Proxy) : Proxy :=
  let number := proxy.targets.length
  let proxy := { proxy with
    targets := proxy.targets ++ [target]
    sshClient := some number
    ledger := .acquire number :: proxy.ledger }
  match raised with
  | some message => proxy.send (.error (some message))
  | none => { proxy with connecting := number :: proxy.connecting }

def Proxy.input (data : JsString) (proxy : Proxy) : Proxy :=
  match proxy.sshStream with
  | none => proxy
  | some client =>
      { proxy with
        written := (client, utf8 (textOf data)) :: proxy.written
        ledger := .use client :: proxy.ledger }

def Proxy.disconnect (proxy : Proxy) : Proxy :=
  match proxy.sshClient with
  | none => proxy
  | some client => { proxy with sshClient := none, ledger := .release client :: proxy.ledger }

-- Without a shell the data is not looked at.
def Proxy.onMessage (request : Except JsString Request) (raised : Option JsString) (proxy : Proxy) : Proxy :=
  match request with
  | .error message => proxy.send (.error (some message))
  | .ok (.connect host port username password) => proxy.connect ⟨host, connectPort port, username, password⟩ raised
  | .ok (.input (.ok data)) => proxy.input data
  | .ok (.input (.error message)) => if proxy.sshStream.isSome then proxy.send (.error (some message)) else proxy
  | .ok .disconnect => proxy.disconnect
  | .ok .unknown => proxy

-- The handler calls shell on the client that there is by now; without one it ends the process.
def Proxy.onReady (proxy : Proxy) : Proxy :=
  let proxy := proxy.send .connected
  match proxy.sshClient with
  | none => { proxy with crashed := true }
  | some client => { proxy with shells := client :: proxy.shells, ledger := .use client :: proxy.ledger }

def Proxy.onShell (client : Nat) (err : Option JsString) (proxy : Proxy) : Proxy :=
  match err with
  | some message => proxy.send (.error (some message))
  | none => { proxy with sshStream := some client, streams := client :: proxy.streams }

def Proxy.onClose (proxy : Proxy) : Proxy :=
  { proxy with
    opened := false
    ledger := proxy.sshClient.elim proxy.ledger fun client => .release client :: proxy.ledger }

-- A client is ready at most once, a shell is called back once, and nothing comes from a socket that is closed.
def step (proxy : Proxy) (event : Event) : Option Proxy :=
  if proxy.crashed then none
  else
    match event with
    | .message request raised => if proxy.opened then some (proxy.onMessage request raised) else none
    | .ready client =>
        if client ∈ proxy.connecting then some { proxy with connecting := proxy.connecting.erase client }.onReady else none
    | .shell client err =>
        if client ∈ proxy.shells then some ({ proxy with shells := proxy.shells.erase client }.onShell client err) else none
    | .shellData client chunk =>
        if client ∈ proxy.streams then some (proxy.send (.data (some (Base64.encode chunk)))) else none
    | .shellError client chunk =>
        if client ∈ proxy.streams then some (proxy.send (.error (some (Utf16.encode (Utf8.decode chunk))))) else none
    | .shellClosed client => if client ∈ proxy.streams then some (proxy.send .closed) else none
    | .sshError client message =>
        if client < proxy.targets.length then some (proxy.send (.error (some message))) else none
    | .sshClosed client =>
        if client < proxy.targets.length then
          some ({ proxy with connecting := proxy.connecting.erase client }.send .disconnected)
        else none
    | .closed => if proxy.opened then some proxy.onClose else none

def Proxy.held (proxy : Proxy) : List Nat := if proxy.opened then proxy.sshClient.toList else []

-- Each client is ended once, no later than the socket, nothing is asked of one that has ended, and the
-- process goes on.
structure Kept (proxy : Proxy) : Prop where
  running : proxy.crashed = false
  balanced : Balanced proxy.ledger proxy.held

-- No second connect without a disconnect, no input for the shell of a client that has ended, and no client
-- that is ready when it, and the socket, are not wanted any more.
def Fits (proxy : Proxy) : Event → Prop
  | .message (.ok (.connect _ _ _ _)) _ => proxy.sshClient = none
  | .message (.ok (.input (.ok _))) _ => ∀ client, proxy.sshStream = some client → proxy.sshClient = some client
  | .ready _ => proxy.opened = true ∧ proxy.sshClient ≠ none
  | _ => True

structure Sound (proxy : Proxy) : Prop where
  kept : Kept proxy
  numbered : ∀ client ∈ acquired proxy.ledger, client < proxy.targets.length

theorem initial_sound : Sound {} := ⟨⟨rfl, balanced_nil⟩, nofun⟩

@[simp] theorem send_fields (message : Message) (proxy : Proxy) :
    (proxy.send message).opened = proxy.opened ∧ (proxy.send message).targets = proxy.targets ∧
      (proxy.send message).sshClient = proxy.sshClient ∧ (proxy.send message).sshStream = proxy.sshStream ∧
      (proxy.send message).connecting = proxy.connecting ∧ (proxy.send message).shells = proxy.shells ∧
      (proxy.send message).streams = proxy.streams ∧ (proxy.send message).crashed = proxy.crashed ∧
      (proxy.send message).ledger = proxy.ledger := by
  unfold Proxy.send
  split <;> exact ⟨rfl, rfl, rfl, rfl, rfl, rfl, rfl, rfl, rfl⟩

theorem same_sound (proxy next : Proxy) (sound : Sound proxy) (opened : next.opened = proxy.opened)
    (client : next.sshClient = proxy.sshClient) (targets : next.targets = proxy.targets)
    (running : next.crashed = proxy.crashed) (ledger : next.ledger = proxy.ledger) : Sound next := by
  refine ⟨⟨running.trans sound.kept.running, ?_⟩, ?_⟩
  · rw [Proxy.held, opened, client, ledger]
    exact sound.kept.balanced
  · rw [ledger, targets]
    exact sound.numbered

theorem send_sound (message : Message) (proxy : Proxy) (sound : Sound proxy) : Sound (proxy.send message) := by
  obtain ⟨opened, targets, client, _, _, _, _, running, ledger⟩ := send_fields message proxy
  exact same_sound proxy _ sound opened client targets running ledger

theorem held_open (proxy : Proxy) (opened : proxy.opened = true) : proxy.held = proxy.sshClient.toList := if_pos opened

theorem connect_sound (target : Target) (raised : Option JsString) (proxy : Proxy) (sound : Sound proxy)
    (opened : proxy.opened = true) (none : proxy.sshClient = none) : Sound (proxy.connect target raised) := by
  have balanced := sound.kept.balanced
  rw [held_open proxy opened, none] at balanced
  have fresh : proxy.targets.length ∉ acquired proxy.ledger := fun known =>
    Nat.lt_irrefl _ (sound.numbered proxy.targets.length known)
  have made : Sound { proxy with
      targets := proxy.targets ++ [target]
      sshClient := some proxy.targets.length
      ledger := .acquire proxy.targets.length :: proxy.ledger } := by
    refine ⟨⟨sound.kept.running, ?_⟩, fun client known => ?_⟩
    · simp only [Proxy.held, opened, if_true]
      exact balanced_acquire _ _ _ balanced fresh
    · rw [List.length_append, List.length_singleton]
      rcases List.mem_cons.mp known with rfl | earlier
      · exact Nat.lt_succ_self _
      · exact Nat.lt_succ_of_lt (sound.numbered client earlier)
  cases raised with
  | some message => exact send_sound _ _ made
  | none => exact same_sound _ _ made rfl rfl rfl rfl rfl

theorem disconnect_sound (proxy : Proxy) (sound : Sound proxy) (opened : proxy.opened = true) : Sound proxy.disconnect := by
  have balanced := sound.kept.balanced
  rw [held_open proxy opened] at balanced
  unfold Proxy.disconnect
  split
  · exact sound
  · rename_i client held
    rw [held] at balanced
    have ended := balanced_release proxy.ledger [client] client balanced List.mem_cons_self
    rw [List.erase_cons_head] at ended
    refine ⟨⟨sound.kept.running, ?_⟩, sound.numbered⟩
    simp only [Proxy.held, opened, if_true]
    exact ended

theorem onClose_sound (proxy : Proxy) (sound : Sound proxy) (opened : proxy.opened = true) : Sound proxy.onClose := by
  have balanced := sound.kept.balanced
  rw [held_open proxy opened] at balanced
  unfold Proxy.onClose
  cases held : proxy.sshClient with
  | none =>
      rw [held] at balanced
      exact ⟨⟨sound.kept.running, balanced⟩, sound.numbered⟩
  | some client =>
      rw [held] at balanced
      have ended := balanced_release proxy.ledger [client] client balanced List.mem_cons_self
      rw [List.erase_cons_head] at ended
      exact ⟨⟨sound.kept.running, ended⟩, sound.numbered⟩

theorem use_sound (client : Nat) (proxy next : Proxy) (sound : Sound proxy) (opened : proxy.opened = true)
    (held : proxy.sshClient = some client) (same : next.opened = proxy.opened) (holds : next.sshClient = proxy.sshClient)
    (targets : next.targets = proxy.targets) (running : next.crashed = proxy.crashed)
    (ledger : next.ledger = .use client :: proxy.ledger) : Sound next := by
  refine ⟨⟨running.trans sound.kept.running, ?_⟩, ?_⟩
  · have owned : client ∈ proxy.held := by simp [held_open proxy opened, held]
    rw [Proxy.held, same, holds, ledger]
    exact balanced_use proxy.ledger proxy.held client sound.kept.balanced owned
  · rw [ledger, targets]
    exact sound.numbered

theorem onMessage_sound (request : Except JsString Request) (raised : Option JsString) (proxy : Proxy) (sound : Sound proxy)
    (opened : proxy.opened = true) (fits : Fits proxy (.message request raised)) : Sound (proxy.onMessage request raised) := by
  cases request with
  | error message => exact send_sound _ proxy sound
  | ok request =>
      cases request with
      | connect host port username password => exact connect_sound _ raised proxy sound opened fits
      | disconnect => exact disconnect_sound proxy sound opened
      | unknown => exact sound
      | input data =>
          cases data with
          | error message =>
              simp only [Proxy.onMessage]
              split
              · exact send_sound _ proxy sound
              · exact sound
          | ok data =>
              simp only [Proxy.onMessage, Proxy.input]
              split
              · exact sound
              · rename_i client stream
                exact use_sound client proxy _ sound opened (fits client stream) rfl rfl rfl rfl rfl

theorem onReady_sound (proxy : Proxy) (sound : Sound proxy) (opened : proxy.opened = true) (held : proxy.sshClient ≠ none) :
    Sound proxy.onReady := by
  obtain ⟨client, here⟩ := Option.ne_none_iff_exists'.mp held
  obtain ⟨same, targets, holds, _, _, _, _, running, ledger⟩ := send_fields .connected proxy
  unfold Proxy.onReady
  dsimp only
  rw [holds, here]
  exact use_sound client proxy _ sound opened here same here.symm targets running (congrArg _ ledger)

theorem onShell_sound (client : Nat) (err : Option JsString) (proxy : Proxy) (sound : Sound proxy) :
    Sound (proxy.onShell client err) := by
  cases err with
  | some message => exact send_sound _ proxy sound
  | none => exact same_sound proxy _ sound rfl rfl rfl rfl rfl

theorem step_sound (proxy : Proxy) (event : Event) (next : Proxy) (sound : Sound proxy) (fits : Fits proxy event)
    (move : step proxy event = some next) : Sound next := by
  unfold step at move
  obtain ⟨_, move⟩ := Option.ite_none_left_eq_some.mp move
  cases event with
  | message request raised =>
      obtain ⟨opened, same⟩ := Option.ite_none_right_eq_some.mp move
      obtain rfl := Option.some.inj same
      exact onMessage_sound request raised proxy sound opened fits
  | ready client =>
      obtain ⟨_, same⟩ := Option.ite_none_right_eq_some.mp move
      obtain rfl := Option.some.inj same
      have waited : Sound { proxy with connecting := proxy.connecting.erase client } := same_sound proxy _ sound rfl rfl rfl rfl rfl
      exact onReady_sound _ waited fits.1 fits.2
  | shell client err =>
      obtain ⟨_, same⟩ := Option.ite_none_right_eq_some.mp move
      obtain rfl := Option.some.inj same
      exact onShell_sound client err _ (same_sound proxy _ sound rfl rfl rfl rfl rfl)
  | shellData client chunk | shellError client chunk | shellClosed client | sshError client message =>
      obtain ⟨_, same⟩ := Option.ite_none_right_eq_some.mp move
      obtain rfl := Option.some.inj same
      exact send_sound _ proxy sound
  | sshClosed client =>
      obtain ⟨_, same⟩ := Option.ite_none_right_eq_some.mp move
      obtain rfl := Option.some.inj same
      exact send_sound _ _ (same_sound proxy _ sound rfl rfl rfl rfl rfl)
  | closed =>
      obtain ⟨opened, same⟩ := Option.ite_none_right_eq_some.mp move
      obtain rfl := Option.some.inj same
      exact onClose_sound proxy sound opened

theorem use_breaks (client : Nat) (owners : List Nat) (ledger : List (Entry Nat)) (others : List Nat)
    (balanced : Balanced ledger owners) (stranger : client ∉ owners) : ¬ Balanced (.use client :: ledger) others :=
  fun used => stranger (balanced.2.mem_iff.mp used.1.1)

theorem onReady_breaks (proxy : Proxy) (sound : Sound proxy) (unfit : ¬ (proxy.opened = true ∧ proxy.sshClient ≠ none)) :
    ¬ Kept proxy.onReady := by
  obtain ⟨_, _, holds, _, _, _, _, _, ledger⟩ := send_fields .connected proxy
  unfold Proxy.onReady
  dsimp only
  rw [holds]
  cases held : proxy.sshClient with
  | none =>
      intro kept
      cases kept.running
  | some client =>
      have gone : proxy.opened = false := by
        by_contra opened
        exact unfit ⟨by simpa using opened, by simp [held]⟩
      have balanced := sound.kept.balanced
      rw [Proxy.held, gone, if_neg Bool.false_ne_true] at balanced
      intro kept
      have used := kept.balanced
      dsimp only at used
      rw [ledger] at used
      exact use_breaks client [] proxy.ledger _ balanced List.not_mem_nil used

theorem connect_breaks (target : Target) (raised : Option JsString) (proxy : Proxy) (sound : Sound proxy)
    (opened : proxy.opened = true) (client : Nat) (held : proxy.sshClient = some client) :
    ¬ Kept (proxy.connect target raised) := by
  have balanced := sound.kept.balanced
  rw [held_open proxy opened, held] at balanced
  have fields : (proxy.connect target raised).ledger = .acquire proxy.targets.length :: proxy.ledger ∧
      (proxy.connect target raised).held = [proxy.targets.length] := by
    cases raised with
    | none => exact ⟨rfl, held_open _ opened⟩
    | some message =>
        obtain ⟨same, _, holds, _, _, _, _, _, ledger⟩ := send_fields (.error (some message)) { proxy with
          targets := proxy.targets ++ [target]
          sshClient := some proxy.targets.length
          ledger := .acquire proxy.targets.length :: proxy.ledger }
        exact ⟨ledger, (held_open _ (same.trans opened)).trans (congrArg Option.toList holds)⟩
  intro kept
  have both := kept.balanced.2
  rw [fields.1, fields.2] at both
  have sizes := both.length_eq.symm.trans (congrArg Nat.succ balanced.2.length_eq)
  cases sizes

theorem step_breaks (proxy : Proxy) (event : Event) (next : Proxy) (sound : Sound proxy) (unfit : ¬ Fits proxy event)
    (move : step proxy event = some next) : ¬ Kept next := by
  unfold step at move
  obtain ⟨_, move⟩ := Option.ite_none_left_eq_some.mp move
  cases event with
  | message request raised =>
      obtain ⟨opened, same⟩ := Option.ite_none_right_eq_some.mp move
      obtain rfl := Option.some.inj same
      cases request with
      | error message => exact absurd trivial unfit
      | ok request =>
          cases request with
          | connect host port username password =>
              obtain ⟨client, held⟩ := Option.ne_none_iff_exists'.mp unfit
              exact connect_breaks _ raised proxy sound opened client held
          | disconnect => exact absurd trivial unfit
          | unknown => exact absurd trivial unfit
          | input data =>
              cases data with
              | error message => exact absurd trivial unfit
              | ok data =>
                  simp only [Fits, not_forall] at unfit
                  obtain ⟨client, stream, other⟩ := unfit
                  have stranger : client ∉ proxy.held := by
                    rw [held_open proxy opened, Option.mem_toList]
                    exact other
                  intro kept
                  have used := kept.balanced
                  simp only [Proxy.onMessage, Proxy.input, stream] at used
                  exact use_breaks client proxy.held proxy.ledger _ sound.kept.balanced stranger used
  | ready client =>
      obtain ⟨_, same⟩ := Option.ite_none_right_eq_some.mp move
      obtain rfl := Option.some.inj same
      exact onReady_breaks _ (same_sound proxy _ sound rfl rfl rfl rfl rfl) unfit
  | _ => exact absurd trivial unfit

/-- Whatever comes over the socket and from the servers: the proxy ends each client that it makes, once and no later
than the socket, asks nothing of a client that has ended, and its process goes on, exactly if no connect comes before
the disconnect of another, no input for the shell of an ended client, and no client is ready that is no longer wanted. -/
theorem clients_kept (events : List Event) :
    Always step {} events Kept ↔ Steps step {} events fun proxy event _ => Fits proxy event :=
  fits_iff step {} events Sound Kept initial_sound Fits
    (fun proxy event next sound fits move => step_sound proxy event next sound fits move) (fun _ sound => sound.kept)
    step_breaks

-- The socket closes, or the client asks for the end, before the server has answered.
example (port : Int) :
    let request := Event.message (.ok (.connect (some (js "h")) (some port) none none)) none
    (([request, .closed, .ready 0].foldlM step {}).map Proxy.ledger = some [.use 0, .release 0, .acquire 0]) ∧
      ([request, .message (.ok .disconnect) none, .ready 0].foldlM step {}).map Proxy.crashed = some true :=
  ⟨rfl, rfl⟩

end Kessh.WebSocketSSHServer
