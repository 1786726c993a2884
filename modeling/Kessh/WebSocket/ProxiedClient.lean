import Kessh.WebSocket.Proxy

set_option autoImplicit false

-- A client on one socket and the proxy at its other end: both directions keep their messages in order.
namespace Kessh.ProxiedClient

open Ecma (JsString)
open Labelled
open WebSocketSSHClient (SSHConnectionConfig Message Frame SocketEvent)
open WireGrammar (Wire Grammar)
open WebSocketSSHServer (Proxy Request)

-- How many frames the proxy has taken, and how many of its messages have come to the client.
structure System where
  wire : Wire
  proxy : Proxy := {}
  taken : Nat := 0
  given : Nat := 0

inductive Event where
  | client (event : WireGrammar.Event)
  | given
  | taken (raised : Option JsString)
  | proxy (event : WebSocketSSHServer.Event)

def request : Frame → Request
  | .connect host port username password => .connect (some host) (some port) (some username) (some password)
  | .input data => .input (.ok data)
  | .disconnect => .disconnect

def arrives (message : Message) : WireGrammar.Event := .socket (.message (.ok (some message)))

def carries : WireGrammar.Event → Bool
  | .socket (.message (.ok (some _))) => true
  | _ => false

def requests : WebSocketSSHServer.Event → Bool
  | .message _ _ => true
  | _ => false

-- Calls, events and callbacks of either end come at any time; the messages are those of the other one.
def step (system : System) : Event → Option System
  | .client event =>
      if carries event then none else (WireGrammar.step system.wire event).map fun wire => { system with wire }
  | .given =>
      match system.proxy.sent.drop system.given with
      | [] => none
      | message :: _ =>
          (WireGrammar.step system.wire (arrives message)).map fun wire => { system with wire, given := system.given + 1 }
  | .taken raised =>
      match system.wire.frames.reverse.drop system.taken with
      | [] => none
      | frame :: _ =>
          (WebSocketSSHServer.step system.proxy (.message (.ok (request frame)) raised)).map fun proxy =>
            { system with proxy, taken := system.taken + 1 }
  | .proxy event =>
      if requests event then none
      else (WebSocketSSHServer.step system.proxy event).map fun proxy => { system with proxy }

-- Both ends keep to the protocol, and the proxy has made one SSH client at most.
structure Kept (system : System) : Prop where
  wire : WireGrammar.Kept system.wire
  proxy : WebSocketSSHServer.Kept system.proxy
  once : system.proxy.targets.length ≤ 1

-- The calls on the client fit, and the SSH client is ready before the socket is closed.
def Fits (system : System) : Event → Prop
  | .client event => WireGrammar.Fits system.wire event
  | .proxy (.ready _) => system.proxy.opened = true
  | _ => True

def System.received (system : System) : List Frame := system.wire.frames.reverse.take system.taken

structure Serves (system : System) : Prop where
  idle : system.received = [] → system.proxy = { opened := system.proxy.opened }
  begun : system.received ≠ [] → .disconnect ∉ system.received → system.proxy.sshClient = some 0
  ended : .disconnect ∈ system.received → system.proxy.sshClient = none
  stream : ∀ client, system.proxy.sshStream = some client → client = 0
  shells : ∀ client ∈ system.proxy.shells, client = 0
  connecting : system.proxy.connecting = [] ∨ system.proxy.connecting = [0]
  ready : .connected ∈ system.proxy.sent → system.proxy.connecting = []
  once : system.proxy.targets.length ≤ 1

structure Sound (system : System) : Prop where
  wire : WireGrammar.Sound system.wire
  kept : WireGrammar.Kept system.wire
  proxy : WebSocketSSHServer.Sound system.proxy
  serves : Serves system
  taken : system.taken ≤ system.wire.frames.length
  told : .connected ∈ system.wire.log → .connected ∈ system.proxy.sent
  asked : .disconnect ∈ system.wire.frames → .connected ∈ system.wire.log

theorem grammar_later (frame : Frame) (frames : List Frame) (grammar : Grammar (frame :: frames)) : Grammar frames := by
  rcases grammar with none | begun | ⟨earlier, begun, same⟩
  · cases none
  · cases begun with
    | connect => exact .inl rfl
    | input data frames earlier => exact .inr (.inl earlier)
  · obtain ⟨_, rfl⟩ := List.cons.inj same
    exact .inr (.inl begun)

theorem grammar_suffix (later earlier : List Frame) (grammar : Grammar (later ++ earlier)) : Grammar earlier := by
  induction later with
  | nil => exact grammar
  | cons frame rest ih => exact ih (grammar_later frame (rest ++ earlier) grammar)

theorem next_grammar (system : System) (frame : Frame) (rest : List Frame) (kept : WireGrammar.Kept system.wire)
    (next : system.wire.frames.reverse.drop system.taken = frame :: rest) :
    Grammar (frame :: system.received.reverse) := by
  have whole : system.wire.frames = rest.reverse ++ frame :: system.received.reverse := by
    have parts := List.take_append_drop system.taken system.wire.frames.reverse
    rw [next] at parts
    have reversed := congrArg List.reverse parts
    rw [List.reverse_append, List.reverse_cons, List.reverse_reverse, List.append_assoc] at reversed
    exact reversed.symm
  exact grammar_suffix rest.reverse _ (whole ▸ kept.grammar)

theorem received_next (system : System) (frame : Frame) (rest : List Frame)
    (next : system.wire.frames.reverse.drop system.taken = frame :: rest) :
    system.wire.frames.reverse.take (system.taken + 1) = system.received ++ [frame] ∧ system.taken < system.wire.frames.length := by
  have more : 0 < (system.wire.frames.reverse.drop system.taken).length := by
    rw [next]
    exact Nat.succ_pos _
  rw [List.length_drop, List.length_reverse] at more
  refine ⟨?_, by omega⟩
  have there : system.wire.frames.reverse[system.taken]? = some frame := by
    rw [← List.head?_drop, next]
    rfl
  rw [List.take_add_one, there]
  rfl

theorem wire_moves (wire : Wire) (event : WireGrammar.Event) (next : Wire) (sound : WireGrammar.Sound wire)
    (asked : .disconnect ∈ wire.frames → .connected ∈ wire.log) (move : WireGrammar.step wire event = some next) :
    (∃ new, next.frames = new ++ wire.frames) ∧ (.disconnect ∈ next.frames → .connected ∈ next.log) ∧
      (.connected ∈ next.log → .connected ∈ event.reports ∨ .connected ∈ wire.log) := by
  have reported : .connected ∈ next.log → .connected ∈ event.reports ∨ .connected ∈ wire.log := by
    unfold WireGrammar.step at move
    obtain ⟨_, made⟩ := Option.ite_none_left_eq_some.mp move
    obtain ⟨client, _, rfl⟩ := Option.map_eq_some_iff.mp made
    intro member
    rcases List.mem_append.mp member with new | earlier
    · obtain ⟨_, _, same⟩ := List.mem_map.mp new
      cases same
    · exact List.mem_append.mp earlier
  obtain ⟨moved, _⟩ := WireGrammar.step_moved wire event next sound move
  cases moved with
  | quiet _ _ log _ _ =>
      have same : next.frames = wire.frames := congrArg (List.filterMap WireGrammar.Mark.frame) log
      exact ⟨⟨[], same⟩, fun member => log ▸ asked (same ▸ member), reported⟩
  | connected _ _ log _ =>
      have same := WireGrammar.frames_same wire next .connected rfl log
      exact ⟨⟨[], same⟩, fun _ => log ▸ List.mem_cons_self, reported⟩
  | closed _ _ log _ _ =>
      have same := WireGrammar.frames_same wire next .closed rfl log
      exact ⟨⟨[], same⟩, fun member => log ▸ List.mem_cons_of_mem _ (asked (same ▸ member)), reported⟩
  | opened host port username password log _ =>
      have one := WireGrammar.frames_sent wire next _ log
      refine ⟨⟨[_], one⟩, fun member => log ▸ List.mem_cons_of_mem _ (asked ?_), reported⟩
      rw [one] at member
      exact (List.mem_cons.mp member).resolve_left nofun
  | input _ _ log _ _ =>
      have one := WireGrammar.frames_sent wire next _ log
      refine ⟨⟨[_], one⟩, fun member => log ▸ List.mem_cons_of_mem _ (asked ?_), reported⟩
      rw [one] at member
      exact (List.mem_cons.mp member).resolve_left nofun
  | disconnect log ssh =>
      have one := WireGrammar.frames_sent wire next _ log
      exact ⟨⟨[_], one⟩, fun _ => log ▸ List.mem_cons_of_mem _ (sound.connected ssh), reported⟩

theorem wire_sound (system : System) (event : WireGrammar.Event) (wire : Wire) (given : Nat) (sound : Sound system)
    (fits : WireGrammar.Fits system.wire event) (told : .connected ∈ event.reports → .connected ∈ system.proxy.sent)
    (move : WireGrammar.step system.wire event = some wire) : Sound { system with wire, given } := by
  obtain ⟨⟨new, frames⟩, asked, reported⟩ := wire_moves system.wire event wire sound.wire sound.asked move
  have received : ({ system with wire, given } : System).received = system.received := by
    rw [System.received, frames, List.reverse_append]
    exact List.take_append_of_le_length (by rw [List.length_reverse]; exact sound.taken)
  have serves := sound.serves
  exact
    { wire := WireGrammar.step_sound system.wire event wire sound.wire move
      kept := (WireGrammar.step_kept system.wire event wire sound.wire sound.kept move).mpr fits
      proxy := sound.proxy
      serves := ⟨received ▸ serves.idle, received ▸ serves.begun, received ▸ serves.ended, serves.stream, serves.shells,
        serves.connecting, serves.ready, serves.once⟩
      taken := by
        show system.taken ≤ wire.frames.length
        rw [frames, List.length_append]
        exact Nat.le_trans sound.taken (Nat.le_add_left _ _)
      told := fun member => (reported member).elim told sound.told
      asked := asked }

theorem sent_grows (proxy : Proxy) (message : Message) : proxy.sent <+: (proxy.send message).sent := by
  unfold Proxy.send
  split
  · exact List.prefix_append _ _
  · exact List.prefix_rfl

theorem sent_connected (proxy : Proxy) (message : Message) (other : message ≠ .connected)
    (member : .connected ∈ (proxy.send message).sent) : .connected ∈ proxy.sent := by
  unfold Proxy.send at member
  split at member
  · rcases List.mem_append.mp member with earlier | new
    · exact earlier
    · exact absurd (List.mem_singleton.mp new).symm other
  · exact member

theorem serves_same (system : System) (next : Proxy) (serves : Serves system) (some : system.received ≠ [])
    (client : next.sshClient = system.proxy.sshClient) (stream : ∀ client, next.sshStream = Option.some client → client = 0)
    (shells : ∀ client ∈ next.shells, client = 0) (connecting : next.connecting = [] ∨ next.connecting = [0])
    (ready : .connected ∈ next.sent → next.connecting = []) (targets : next.targets = system.proxy.targets) :
    Serves { system with proxy := next } where
  idle := fun none => absurd none some
  begun := fun begun plain => client.trans (serves.begun begun plain)
  ended := fun member => client.trans (serves.ended member)
  stream := stream
  shells := shells
  connecting := connecting
  ready := ready
  once := targets ▸ serves.once

theorem serves_send (system : System) (message : Message) (other : message ≠ .connected) (serves : Serves system)
    (some : system.received ≠ []) : Serves { system with proxy := system.proxy.send message } := by
  obtain ⟨_, targets, client, stream, connecting, shells, _, _, _⟩ := WebSocketSSHServer.send_fields message system.proxy
  refine serves_same system _ serves some client ?_ ?_ ?_ ?_ targets
  · rw [stream]
    exact serves.stream
  · rw [shells]
    exact serves.shells
  · rw [connecting]
    exact serves.connecting
  · rw [connecting]
    exact fun member => serves.ready (sent_connected _ _ other member)

theorem erased (connecting : List Nat) (client : Nat) (one : connecting = [] ∨ connecting = [0]) (waits : client ∈ connecting) :
    client = 0 ∧ connecting.erase client = [] := by
  rcases one with rfl | rfl
  · cases waits
  · obtain rfl := List.mem_singleton.mp waits
    exact ⟨rfl, rfl⟩

theorem erase_one (connecting : List Nat) (client : Nat) (one : connecting = [] ∨ connecting = [0]) :
    connecting.erase client = [] ∨ connecting.erase client = [0] := by
  rcases one with rfl | rfl
  · exact .inl rfl
  · by_cases same : client = 0
    · subst same
      exact .inl rfl
    · rw [List.erase_of_not_mem fun member => same (List.mem_singleton.mp member)]
      exact .inr rfl

theorem received_some (system : System) (serves : Serves system)
    (busy : system.proxy.connecting ≠ [] ∨ system.proxy.shells ≠ [] ∨ system.proxy.streams ≠ [] ∨ system.proxy.targets ≠ []) :
    system.received ≠ [] := by
  intro none
  rw [serves.idle none] at busy
  simp at busy

theorem onReady_serves (system : System) (serves : Serves system) (some : system.received ≠ [])
    (left : system.proxy.connecting = []) :
    Serves { system with proxy := system.proxy.onReady } ∧ system.proxy.sent <+: system.proxy.onReady.sent := by
  obtain ⟨_, targets, client, stream, connecting, shells, _, _, _⟩ := WebSocketSSHServer.send_fields .connected system.proxy
  have grows := sent_grows system.proxy .connected
  have first : ∀ client, system.proxy.sshClient = Option.some client → client = 0 := by
    intro client here
    by_cases ended : .disconnect ∈ system.received
    · rw [serves.ended ended] at here
      cases here
    · rw [serves.begun some ended] at here
      exact (Option.some.inj here).symm
  unfold Proxy.onReady
  generalize system.proxy.send .connected = told at *
  have streams : ∀ client, told.sshStream = Option.some client → client = 0 := stream.symm ▸ serves.stream
  have zeros : ∀ client ∈ told.shells, client = 0 := shells.symm ▸ serves.shells
  have none : told.connecting = [] := connecting.trans left
  dsimp only
  split
  · exact ⟨serves_same system _ serves some client streams zeros (.inl none) (fun _ => none) targets, grows⟩
  · rename_i number held
    have zero := first number (client.symm.trans held)
    refine ⟨serves_same system _ serves some client streams ?_ (.inl none) (fun _ => none) targets, grows⟩
    exact List.forall_mem_cons.mpr ⟨zero, zeros⟩

theorem proxy_serves (system : System) (event : WebSocketSSHServer.Event) (next : Proxy) (serves : Serves system)
    (own : requests event = false) (move : WebSocketSSHServer.step system.proxy event = some next) :
    Serves { system with proxy := next } ∧ system.proxy.sent <+: next.sent := by
  unfold WebSocketSSHServer.step at move
  obtain ⟨_, move⟩ := Option.ite_none_left_eq_some.mp move
  cases event with
  | message request raised => cases own
  | ready client =>
      obtain ⟨waits, same⟩ := Option.ite_none_right_eq_some.mp move
      obtain rfl := Option.some.inj same
      obtain ⟨_, left⟩ := erased system.proxy.connecting client serves.connecting waits
      have some := received_some system serves (.inl (List.ne_nil_of_mem waits))
      have waited : Serves { system with proxy := { system.proxy with connecting := system.proxy.connecting.erase client } } :=
        serves_same system _ serves some rfl serves.stream serves.shells (.inl left) (fun _ => left) rfl
      exact onReady_serves { system with proxy := { system.proxy with connecting := system.proxy.connecting.erase client } }
        waited some left
  | shell client err =>
      obtain ⟨waits, same⟩ := Option.ite_none_right_eq_some.mp move
      obtain rfl := Option.some.inj same
      have some := received_some system serves (.inr (.inl (List.ne_nil_of_mem waits)))
      have called : Serves { system with proxy := { system.proxy with shells := system.proxy.shells.erase client } } :=
        serves_same system _ serves some rfl serves.stream (fun other member => serves.shells other (List.mem_of_mem_erase member))
          serves.connecting serves.ready rfl
      cases err with
      | some message =>
          exact ⟨serves_send _ (.error (Option.some message)) nofun called some,
            sent_grows { system.proxy with shells := system.proxy.shells.erase client } _⟩
      | none =>
          have zero := serves.shells client waits
          refine ⟨serves_same { system with proxy := { system.proxy with shells := system.proxy.shells.erase client } } _ called
            some rfl ?_ called.shells called.connecting called.ready rfl, List.prefix_rfl⟩
          exact fun other stream => (Option.some.inj stream).symm.trans zero
  | shellData client chunk | shellError client chunk | shellClosed client =>
      obtain ⟨streams, same⟩ := Option.ite_none_right_eq_some.mp move
      obtain rfl := Option.some.inj same
      have some := received_some system serves (.inr (.inr (.inl (List.ne_nil_of_mem streams))))
      exact ⟨serves_send system _ (by simp) serves some, sent_grows _ _⟩
  | sshError client message =>
      obtain ⟨known, same⟩ := Option.ite_none_right_eq_some.mp move
      obtain rfl := Option.some.inj same
      have some := received_some system serves (.inr (.inr (.inr (List.ne_nil_of_length_pos (Nat.zero_lt_of_lt known)))))
      exact ⟨serves_send system (.error (Option.some message)) nofun serves some, sent_grows _ _⟩
  | sshClosed client =>
      obtain ⟨known, same⟩ := Option.ite_none_right_eq_some.mp move
      obtain rfl := Option.some.inj same
      have some := received_some system serves (.inr (.inr (.inr (List.ne_nil_of_length_pos (Nat.zero_lt_of_lt known)))))
      have called : Serves { system with proxy := { system.proxy with connecting := system.proxy.connecting.erase client } } := by
        refine serves_same system _ serves some rfl serves.stream serves.shells (erase_one _ client serves.connecting) ?_ rfl
        intro member
        show system.proxy.connecting.erase client = []
        rw [serves.ready member]
        rfl
      exact ⟨serves_send _ .disconnected nofun called some,
        sent_grows { system.proxy with connecting := system.proxy.connecting.erase client } .disconnected⟩
  | closed =>
      obtain ⟨_, same⟩ := Option.ite_none_right_eq_some.mp move
      obtain rfl := Option.some.inj same
      refine ⟨⟨fun none => ?_, serves.begun, serves.ended, serves.stream, serves.shells, serves.connecting, serves.ready,
        serves.once⟩, List.prefix_rfl⟩
      show system.proxy.onClose = _
      rw [serves.idle none]
      rfl

theorem connect_serves (system : System) (host : JsString) (port : Int) (username password : JsString) (raised : Option JsString)
    (serves : Serves system) (opened : system.proxy.opened = true) (none : system.received = [])
    (received : ({ system with taken := system.taken + 1 } : System).received = [.connect host port username password]) :
    let next := system.proxy.onMessage (.ok (request (.connect host port username password))) raised
    system.proxy.sshClient = Option.none ∧ Serves { system with proxy := next, taken := system.taken + 1 } ∧
      system.proxy.sent <+: next.sent := by
  have blank : system.proxy = {} := (serves.idle none).trans (by rw [opened])
  have taken : ∀ proxy, ({ system with proxy, taken := system.taken + 1 } : System).received =
      [.connect host port username password] := fun _ => received
  intro next
  have fields : next.sshClient = some 0 ∧ next.sshStream = Option.none ∧ next.shells = [] ∧
      (next.connecting = [] ∨ next.connecting = [0]) ∧ .connected ∉ next.sent ∧ next.targets.length = 1 := by
    show _ ∧ _
    rw [show next = ({} : Proxy).onMessage (.ok (request (.connect host port username password))) raised from blank ▸ rfl]
    cases raised with
    | none => exact ⟨rfl, rfl, rfl, .inr rfl, List.not_mem_nil, rfl⟩
    | some message => exact ⟨rfl, rfl, rfl, .inl rfl, by simp [Proxy.onMessage, request, Proxy.connect, Proxy.send], rfl⟩
  obtain ⟨client, stream, shells, connecting, quiet, targets⟩ := fields
  refine ⟨by rw [blank], ⟨?_, fun _ _ => client, ?_, ?_, ?_, connecting, fun member => absurd member quiet, Nat.le_of_eq targets⟩, ?_⟩
  · rw [taken next]
    exact fun empty => absurd empty (List.cons_ne_nil _ _)
  · rw [taken next]
    exact fun member => absurd (List.mem_singleton.mp member) (by simp)
  · rw [stream]
    exact fun _ held => absurd held (Option.some_ne_none _).symm
  · rw [shells]
    exact fun _ member => absurd member List.not_mem_nil
  · rw [blank]
    exact List.nil_prefix

theorem taken_serves (system : System) (frame : Frame) (rest : List Frame) (raised : Option JsString) (next : Proxy)
    (sound : Sound system) (there : system.wire.frames.reverse.drop system.taken = frame :: rest)
    (move : WebSocketSSHServer.step system.proxy (.message (.ok (request frame)) raised) = some next) :
    WebSocketSSHServer.Fits system.proxy (.message (.ok (request frame)) raised) ∧
      Serves { system with proxy := next, taken := system.taken + 1 } ∧ system.proxy.sent <+: next.sent := by
  unfold WebSocketSSHServer.step at move
  obtain ⟨_, move⟩ := Option.ite_none_left_eq_some.mp move
  obtain ⟨opened, same⟩ := Option.ite_none_right_eq_some.mp move
  obtain rfl := Option.some.inj same
  have grammar := next_grammar system frame rest sound.kept there
  have received : ∀ proxy, ({ system with proxy, taken := system.taken + 1 } : System).received = system.received ++ [frame] :=
    fun _ => (received_next system frame rest there).1
  have serves := sound.serves
  -- A frame that follows a connect, and no disconnect.
  have follows : WireGrammar.Begun system.received.reverse → system.received ≠ [] ∧ .disconnect ∉ system.received := by
    intro begun
    obtain ⟨some, plain⟩ := WireGrammar.begun_plain _ begun
    exact ⟨fun none => some (by rw [none]; rfl), fun member => plain (List.mem_reverse.mpr member)⟩
  cases frame with
  | connect host port username password =>
      have none := List.reverse_eq_nil_iff.mp ((WireGrammar.grammar_connect host port username password _).mp grammar)
      have alone := received system.proxy
      rw [none, List.nil_append] at alone
      obtain ⟨free, serving, grows⟩ := connect_serves system host port username password raised serves opened none alone
      exact ⟨free, serving, grows⟩
  | input data =>
      obtain ⟨some, plain⟩ := follows ((WireGrammar.grammar_input data _).mp grammar)
      have held := serves.begun some plain
      have fields : (system.proxy.input data).sshClient = system.proxy.sshClient ∧
          (system.proxy.input data).sshStream = system.proxy.sshStream ∧ (system.proxy.input data).shells = system.proxy.shells ∧
          (system.proxy.input data).connecting = system.proxy.connecting ∧ (system.proxy.input data).sent = system.proxy.sent ∧
          (system.proxy.input data).targets = system.proxy.targets := by
        unfold Proxy.input
        split <;> exact ⟨rfl, rfl, rfl, rfl, rfl, rfl⟩
      obtain ⟨client, stream, shells, connecting, sent, targets⟩ := fields
      refine ⟨fun client stream => serves.stream client stream ▸ held, ⟨?_, ?_, ?_, ?_, ?_, ?_, ?_, ?_⟩, ?_⟩
      · exact fun none => absurd ((received _).symm.trans none) (by simp)
      · exact fun _ _ => client.trans held
      · intro member
        rw [received] at member
        exact absurd ((List.mem_append.mp member).resolve_right (by simp)) plain
      · exact stream.symm ▸ serves.stream
      · exact shells.symm ▸ serves.shells
      · exact connecting.symm ▸ serves.connecting
      · intro member
        exact connecting.trans (serves.ready (sent ▸ member))
      · exact targets.symm ▸ serves.once
      · exact sent ▸ List.prefix_rfl
  | disconnect =>
      obtain ⟨some, plain⟩ := follows ((WireGrammar.grammar_disconnect _).mp grammar)
      have held := serves.begun some plain
      have ended : system.proxy.disconnect = { system.proxy with sshClient := none, ledger := .release 0 :: system.proxy.ledger } := by
        unfold Proxy.disconnect
        rw [held]
      refine ⟨trivial, ?_⟩
      show Serves { system with proxy := system.proxy.disconnect, taken := system.taken + 1 } ∧ _ <+: system.proxy.disconnect.sent
      rw [ended]
      refine ⟨⟨?_, ?_, fun _ => rfl, serves.stream, serves.shells, serves.connecting, serves.ready, serves.once⟩, List.prefix_rfl⟩
      · exact fun none => absurd ((received _).symm.trans none) (by simp)
      · intro _ still
        rw [received] at still
        exact absurd (List.mem_append_right system.received (List.mem_singleton.mpr rfl)) still

theorem sound_kept (system : System) (sound : Sound system) : Kept system := ⟨sound.kept, sound.proxy.kept, sound.serves.once⟩

theorem arrives_fits (wire : Wire) (message : Message) : WireGrammar.Fits wire (arrives message) := trivial

theorem proxy_fits (system : System) (event : WebSocketSSHServer.Event) (next : Proxy) (sound : Sound system)
    (own : requests event = false) (fits : Fits system (.proxy event))
    (move : WebSocketSSHServer.step system.proxy event = some next) : WebSocketSSHServer.Fits system.proxy event := by
  cases event with
  | ready client =>
      unfold WebSocketSSHServer.step at move
      obtain ⟨_, move⟩ := Option.ite_none_left_eq_some.mp move
      obtain ⟨waits, _⟩ := Option.ite_none_right_eq_some.mp move
      have serves := sound.serves
      have some := received_some system serves (.inl (List.ne_nil_of_mem waits))
      refine ⟨fits, ?_⟩
      by_cases ended : .disconnect ∈ system.received
      · -- The client asks for the end when it has been told of the connection, and then none is waited for.
        have sent : .disconnect ∈ system.wire.frames := List.mem_reverse.mp (List.mem_of_mem_take ended)
        have left := serves.ready (sound.told (sound.asked sent))
        rw [left] at waits
        cases waits
      · rw [serves.begun some ended]
        nofun
  | message request raised => cases own
  | _ => trivial

theorem step_sound (system : System) (event : Event) (next : System) (sound : Sound system) (fits : Fits system event)
    (move : step system event = some next) : Sound next := by
  cases event with
  | client event =>
      obtain ⟨own, move⟩ := Option.ite_none_left_eq_some.mp move
      obtain ⟨wire, moved, rfl⟩ := Option.map_eq_some_iff.mp move
      refine wire_sound system event wire system.given sound fits (fun member => ?_) moved
      cases event with
      | socket reported =>
          rcases reported with _ | (_ | (_ | message)) | _ | _
          all_goals first | cases member | exact absurd rfl own
      | callback => cases member
      | sendInput => cases member
      | disconnect => cases member
  | given =>
      unfold step at move
      dsimp only at move
      split at move
      · cases move
      · rename_i message rest there
        obtain ⟨wire, moved, rfl⟩ := Option.map_eq_some_iff.mp move
        refine wire_sound system (arrives message) wire _ sound (arrives_fits system.wire message) (fun member => ?_) moved
        have told : message ∈ system.proxy.sent := List.mem_of_mem_drop (there ▸ List.mem_cons_self)
        cases message with
        | connected => exact told
        | disconnected => exact absurd member (by decide)
        | closed => exact absurd member (by decide)
        | data => cases member
        | error => cases member
        | unknown => cases member
  | taken raised =>
      unfold step at move
      dsimp only at move
      split at move
      · cases move
      · rename_i frame rest there
        obtain ⟨proxy, moved, rfl⟩ := Option.map_eq_some_iff.mp move
        obtain ⟨fitting, serves, grows⟩ := taken_serves system frame rest raised proxy sound there moved
        exact
          { wire := sound.wire
            kept := sound.kept
            proxy := WebSocketSSHServer.step_sound system.proxy _ proxy sound.proxy fitting moved
            serves
            taken := (received_next system frame rest there).2
            told := fun member => grows.subset (sound.told member)
            asked := sound.asked }
  | proxy event =>
      obtain ⟨own, move⟩ := Option.ite_none_left_eq_some.mp move
      obtain ⟨proxy, moved, rfl⟩ := Option.map_eq_some_iff.mp move
      have alone : requests event = false := by simpa using own
      obtain ⟨serves, grows⟩ := proxy_serves system event proxy sound.serves alone moved
      have fitting := proxy_fits system event proxy sound alone fits moved
      exact
        { wire := sound.wire
          kept := sound.kept
          proxy := WebSocketSSHServer.step_sound system.proxy event proxy sound.proxy fitting moved
          serves
          taken := sound.taken
          told := fun member => grows.subset (sound.told member)
          asked := sound.asked }

theorem step_breaks (system : System) (event : Event) (next : System) (sound : Sound system) (unfit : ¬ Fits system event)
    (move : step system event = some next) : ¬ Kept next := by
  cases event with
  | client event =>
      obtain ⟨_, move⟩ := Option.ite_none_left_eq_some.mp move
      obtain ⟨wire, moved, rfl⟩ := Option.map_eq_some_iff.mp move
      exact fun kept => unfit ((WireGrammar.step_kept system.wire event wire sound.wire sound.kept moved).mp kept.wire)
  | proxy event =>
      obtain ⟨_, move⟩ := Option.ite_none_left_eq_some.mp move
      obtain ⟨proxy, moved, rfl⟩ := Option.map_eq_some_iff.mp move
      cases event with
      | ready client =>
          have apart : ¬ WebSocketSSHServer.Fits system.proxy (.ready client) := fun fits => unfit fits.1
          exact fun kept => WebSocketSSHServer.step_breaks system.proxy _ proxy sound.proxy apart moved kept.proxy
      | _ => exact absurd trivial unfit
  | _ => exact absurd trivial unfit

theorem made_sound (config : SSHConnectionConfig) (raised : Option JsString) :
    Sound { wire := WireGrammar.made config raised } := by
  obtain ⟨wire, kept⟩ := WireGrammar.made_sound config raised
  exact
    { wire
      kept
      proxy := WebSocketSSHServer.initial_sound
      serves := ⟨fun _ => rfl, fun some => absurd rfl some, nofun, nofun, nofun, .inl rfl, nofun, Nat.zero_le _⟩
      taken := Nat.zero_le _
      told := nofun
      asked := nofun }

/-- In every interleaving of the two ends the frames follow the protocol, the proxy makes one SSH client at most, ends
it once and asks nothing of it afterwards, exactly if no call on the client finds a flag that is still up, the socket
opens before anything is sent, and the SSH client is not ready only after the socket is closed. -/
theorem proxied_session_kept (config : SSHConnectionConfig) (raised : Option JsString) (events : List Event) :
    Always step { wire := WireGrammar.made config raised } events Kept ↔
      Steps step { wire := WireGrammar.made config raised } events fun system event _ => Fits system event :=
  fits_iff step _ events Sound Kept (made_sound config raised) Fits step_sound sound_kept step_breaks

end Kessh.ProxiedClient
