import Kessh.WebSocket.Superseded

set_option autoImplicit false

-- The frames that the client sends on one socket, in the order of the protocol of the proxy.
namespace Kessh.WireGrammar

open Ecma (JsString js)
open Labelled
open WebSocketSSHClient (Client SSHConnectionConfig Frame Callback Message SocketEvent SameSockets)

-- connect, then any number of inputs; the newest frame first.
inductive Begun : List Frame → Prop where
  | connect (host : JsString) (port : Int) (username password : JsString) : Begun [.connect host port username password]
  | input (data : JsString) (frames : List Frame) (earlier : Begun frames) : Begun (.input data :: frames)

-- What may be sent on a socket up to any time: nothing follows a disconnect.
def Grammar (frames : List Frame) : Prop :=
  frames = [] ∨ Begun frames ∨ ∃ earlier, Begun earlier ∧ frames = .disconnect :: earlier

theorem begun_plain (frames : List Frame) (begun : Begun frames) : frames ≠ [] ∧ .disconnect ∉ frames := by
  induction begun with
  | connect host port username password => simp
  | input data frames _ ih => simp [ih.2]

theorem grammar_begun (frames : List Frame) (known : Grammar frames) :
    Begun frames ↔ frames ≠ [] ∧ .disconnect ∉ frames := by
  refine ⟨begun_plain frames, fun ⟨begun', plain⟩ => ?_⟩
  rcases known with none | begun | ⟨earlier, _, rfl⟩
  · exact absurd none begun'
  · exact begun
  · exact absurd List.mem_cons_self plain

theorem grammar_connect (host : JsString) (port : Int) (username password : JsString) (frames : List Frame) :
    Grammar (.connect host port username password :: frames) ↔ frames = [] := by
  constructor
  · rintro (none | begun | ⟨_, _, same⟩)
    · cases none
    · cases begun
      rfl
    · cases same
  · rintro rfl
    exact .inr (.inl (.connect _ _ _ _))

theorem grammar_input (data : JsString) (frames : List Frame) : Grammar (.input data :: frames) ↔ Begun frames := by
  constructor
  · rintro (none | begun | ⟨_, _, same⟩)
    · cases none
    · cases begun with
      | input _ _ earlier => exact earlier
    · cases same
  · exact fun begun => .inr (.inl (.input data frames begun))

theorem grammar_disconnect (frames : List Frame) : Grammar (.disconnect :: frames) ↔ Begun frames := by
  constructor
  · rintro (none | begun | ⟨earlier, begun, same⟩)
    · cases none
    · cases begun
    · obtain ⟨_, rfl⟩ := List.cons.inj same
      exact begun
  · exact fun begun => .inr (.inr ⟨frames, begun, rfl⟩)

-- A frame that was sent, or what the proxy reported.
inductive Mark where
  | sent (frame : Frame)
  | connected
  | closed
deriving DecidableEq

def Mark.frame : Mark → Option Frame
  | .sent frame => some frame
  | .connected => none
  | .closed => none

-- The client, whether its socket has reported that it is open, and what happened, newest first.
structure Wire where
  client : Client
  opened : Bool := false
  log : List Mark := []

def Wire.frames (wire : Wire) : List Frame := wire.log.filterMap Mark.frame

inductive Event where
  | socket (reported : SocketEvent)
  | callback (callback : Callback) (err : Option JsString)
  | sendInput (data : JsString)
  | disconnect

def Event.call : Event → WebSocketSSHClient.Event
  | .socket reported => .socket 0 reported
  | .callback awaited err => .callback awaited err
  | .sendInput data => .sendInput data
  | .disconnect => .disconnect

def Event.opens : Event → Bool
  | .socket (.opened _) => true
  | _ => false

def Event.reports : Event → List Mark
  | .socket (.message (.ok (some .connected))) => [.connected]
  | .socket (.message (.ok (some .disconnected))) => [.closed]
  | .socket (.message (.ok (some .closed))) => [.closed]
  | _ => []

def newFrames (before after : Client) : List Mark :=
  (after.sent.take (after.sent.length - before.sent.length)).map fun entry => .sent entry.2

-- The socket reports at most once that it is open.
def step (wire : Wire) (event : Event) : Option Wire :=
  if event.opens && wire.opened then none
  else
    (WebSocketSSHClient.step wire.client event.call).map fun client =>
      { client
        opened := wire.opened || event.opens
        log := newFrames wire.client client ++ (event.reports ++ wire.log) }

def made (config : SSHConnectionConfig) (raised : Option JsString) : Wire where
  client := ({} : Client).connect config (raised.map .connect)

-- An input is sent when the proxy has reported the connection, and not once it has reported its end.
def Timely : List Mark → Prop
  | [] => True
  | .sent (.input _) :: earlier => (.connected ∈ earlier ∧ .closed ∉ earlier) ∧ Timely earlier
  | _ :: earlier => Timely earlier

structure Kept (wire : Wire) : Prop where
  grammar : Grammar wire.frames
  timely : Timely wire.log

-- No call finds the flags still up when a disconnect has been sent or the end has been reported, and
-- the socket opens before anything is sent.
def Fits (wire : Wire) : Event → Prop
  | .sendInput _ => wire.client.isConnected = true → wire.client.sshConnected = true →
      .disconnect ∉ wire.frames ∧ .closed ∉ wire.log
  | .disconnect => wire.client.sshConnected = true → wire.frames ≠ [] ∧ .disconnect ∉ wire.frames
  | .socket (.opened none) => wire.frames = []
  | _ => True

structure Sound (wire : Wire) : Prop where
  socket : wire.client.ws = some 0
  created : wire.client.created = [true]
  connected : wire.client.sshConnected = true → .connected ∈ wire.log
  opened : wire.client.isConnected = true → wire.frames ≠ []

-- What a step can do: nothing but clear flags, note a report, or send one frame.
inductive Moved (wire next : Wire) : Event → Prop where
  | quiet (event : Event) (fits : Fits wire event) (log : next.log = wire.log)
      (ssh : next.client.sshConnected = true → wire.client.sshConnected = true)
      (up : next.client.isConnected = true → wire.client.isConnected = true) : Moved wire next event
  | connected (event : Event) (fits : Fits wire event) (log : next.log = .connected :: wire.log)
      (up : next.client.isConnected = true → wire.client.isConnected = true) : Moved wire next event
  | closed (event : Event) (fits : Fits wire event) (log : next.log = .closed :: wire.log)
      (ssh : next.client.sshConnected = false)
      (up : next.client.isConnected = true → wire.client.isConnected = true) : Moved wire next event
  | opened (host : JsString) (port : Int) (username password : JsString)
      (log : next.log = .sent (.connect host port username password) :: wire.log)
      (ssh : next.client.sshConnected = true → wire.client.sshConnected = true) : Moved wire next (.socket (.opened none))
  | input (data encoded : JsString) (log : next.log = .sent (.input encoded) :: wire.log)
      (ssh : wire.client.sshConnected = true) (up : wire.client.isConnected = true) : Moved wire next (.sendInput data)
  | disconnect (log : next.log = .sent .disconnect :: wire.log) (ssh : wire.client.sshConnected = true) :
      Moved wire next .disconnect

theorem newFrames_same (before after : Client) (sent : after.sent = before.sent) : newFrames before after = [] := by
  simp [newFrames, sent]

theorem newFrames_one (before after : Client) (socket : Nat) (frame : Frame)
    (sent : after.sent = (socket, frame) :: before.sent) : newFrames before after = [.sent frame] := by
  simp [newFrames, sent]

structure Quiet (before after : Client) : Prop where
  sent : after.sent = before.sent
  ssh : after.sshConnected = true → before.sshConnected = true
  up : after.isConnected = true → before.isConnected = true

theorem quiet_refl (client : Client) : Quiet client client := ⟨rfl, id, id⟩

theorem callback_quiet (client : Client) (callback : Callback) (err : Option JsString) :
    Quiet client (client.onCallback callback err) := by
  cases callback <;> cases err <;>
    first
    | exact quiet_refl client
    | exact ⟨rfl, id, id⟩
    | exact ⟨rfl, fun up => absurd up Bool.false_ne_true, fun up => absurd up Bool.false_ne_true⟩

theorem message_connected (client : Client) : (client.handleMessage .connected).sent = client.sent ∧
    (client.handleMessage .connected).isConnected = client.isConnected := by
  simp only [Client.handleMessage]
  split <;> exact ⟨rfl, rfl⟩

theorem message_error (client : Client) (text : Option JsString) : Quiet client (client.handleMessage (.error text)) := by
  simp only [Client.handleMessage]
  split <;> exact ⟨rfl, id, id⟩

theorem send_sent (client : Client) (frame : Frame) (callback : Callback) (socket : client.ws = some 0) :
    (client.send frame callback).sent = (0, frame) :: client.sent ∧
      (client.send frame callback).isConnected = client.isConnected ∧
      (client.send frame callback).sshConnected = client.sshConnected := by
  unfold Client.send
  rw [socket]
  exact ⟨rfl, rfl, rfl⟩

theorem moved_quiet (wire : Wire) (event : Event) (client : Client) (quiet : Quiet wire.client client)
    (silent : event.reports = []) (fits : Fits wire event) : Moved wire
      { client
        opened := wire.opened || event.opens
        log := newFrames wire.client client ++ (event.reports ++ wire.log) } event := by
  refine .quiet event fits ?_ quiet.ssh quiet.up
  rw [newFrames_same _ _ quiet.sent, silent]
  rfl

theorem socket_moved (wire : Wire) (config : SSHConnectionConfig) (reported : SocketEvent) (sound : Sound wire) :
    let client := wire.client.onSocket config 0 reported
    Moved wire
      { client
        opened := wire.opened || (Event.socket reported).opens
        log := newFrames wire.client client ++ ((Event.socket reported).reports ++ wire.log) } (.socket reported) := by
  intro client
  cases reported with
  | opened err =>
      cases err with
      | none =>
          obtain ⟨sent, up, ssh⟩ := send_sent { wire.client with
            isConnected := true, connectResolve := some 0, connectReject := some 0 } config.connectMsg (.sshConnect 0)
            sound.socket
          refine .opened config.host config.port config.username config.password ?_ fun on => ?_
          · dsimp only
            rw [newFrames_one wire.client client 0 config.connectMsg sent]
            rfl
          · exact ssh ▸ on
      | some message => exact moved_quiet wire _ _ ⟨rfl, id, id⟩ rfl trivial
  | message arrived =>
      cases arrived with
      | error text => exact moved_quiet wire _ _ (quiet_refl _) rfl trivial
      | ok parsed =>
          cases parsed with
          | none => exact moved_quiet wire _ _ (quiet_refl _) rfl trivial
          | some message =>
              cases message with
              | connected =>
                  obtain ⟨sent, up⟩ := message_connected wire.client
                  refine .connected _ trivial ?_ fun on => up ▸ on
                  dsimp only
                  rw [newFrames_same wire.client client sent]
                  rfl
              | data text => exact moved_quiet wire _ _ (quiet_refl _) rfl trivial
              | error text => exact moved_quiet wire _ _ (message_error wire.client text) rfl trivial
              | disconnected => exact .closed _ trivial (by rw [newFrames_same wire.client client rfl]; rfl) rfl id
              | closed => exact .closed _ trivial (by rw [newFrames_same wire.client client rfl]; rfl) rfl id
              | unknown => exact moved_quiet wire _ _ (quiet_refl _) rfl trivial
  | error text =>
      exact moved_quiet wire _ _ ⟨rfl, fun up => absurd up Bool.false_ne_true, fun up => absurd up Bool.false_ne_true⟩ rfl trivial
  | closed =>
      exact moved_quiet wire _ _ ⟨rfl, fun up => absurd up Bool.false_ne_true, fun up => absurd up Bool.false_ne_true⟩ rfl trivial

theorem sendInput_moved (wire : Wire) (data : JsString) (client : Client) (sound : Sound wire)
    (move : WebSocketSSHClient.step wire.client (.sendInput data) = some client) : Moved wire
      { client
        opened := wire.opened || (Event.sendInput data).opens
        log := newFrames wire.client client ++ ((Event.sendInput data).reports ++ wire.log) } (.sendInput data) := by
  have refused : client = wire.client → Fits wire (.sendInput data) → Moved wire _ (.sendInput data) := fun same fits =>
    moved_quiet wire (.sendInput data) client (same ▸ quiet_refl _) rfl fits
  unfold WebSocketSSHClient.step Client.sendInput at move
  by_cases up : wire.client.isConnected = true
  · by_cases ssh : wire.client.sshConnected = true
    · simp only [sound.socket, up, ssh] at move
      obtain rfl := Option.some.inj move
      obtain ⟨sent, _⟩ := send_sent wire.client (.input (WebSocketSSHClient.base64Encode data)) .input sound.socket
      refine .input data (WebSocketSSHClient.base64Encode data) ?_ ssh up
      dsimp only
      rw [newFrames_one _ _ 0 _ sent]
      rfl
    · simp only [sound.socket, up, ssh] at move
      exact refused (Option.some.inj move).symm fun _ on => absurd on ssh
  · simp only [sound.socket, up] at move
    exact refused (Option.some.inj move).symm fun on => absurd on up

theorem disconnect_moved (wire : Wire) (sound : Sound wire) : Moved wire
    { client := wire.client.disconnect
      opened := wire.opened || Event.disconnect.opens
      log := newFrames wire.client wire.client.disconnect ++ (Event.disconnect.reports ++ wire.log) } .disconnect := by
  by_cases ssh : wire.client.sshConnected = true
  · have sent : wire.client.disconnect.sent = (0, .disconnect) :: wire.client.sent := by
      simp [Client.disconnect, Client.send, sound.socket, ssh]
    refine .disconnect ?_ ssh
    dsimp only
    rw [newFrames_one _ _ 0 _ sent]
    rfl
  · refine moved_quiet wire .disconnect wire.client.disconnect ?_ rfl fun on => absurd on ssh
    unfold Client.disconnect
    rw [sound.socket, if_neg (by simp), if_neg ssh]
    exact ⟨rfl, id, id⟩

theorem step_moved (wire : Wire) (event : Event) (next : Wire) (sound : Sound wire) (move : step wire event = some next) :
    Moved wire next event ∧ SameSockets wire.client next.client := by
  unfold step at move
  obtain ⟨_, made⟩ := Option.ite_none_left_eq_some.mp move
  obtain ⟨client, called, rfl⟩ := Option.map_eq_some_iff.mp made
  have socket : ∀ reported, event = .socket reported → ∃ config, client = wire.client.onSocket config 0 reported := by
    rintro reported rfl
    rcases WebSocketSSHClient.step_cases _ _ _ called with ⟨_, _, same, _⟩ | ⟨_, attempt, _, same, _, _, rfl⟩ | ⟨plain, _⟩
    · cases same
    · obtain ⟨rfl, rfl⟩ := WebSocketSSHClient.Event.socket.inj same
      exact ⟨attempt.config, rfl⟩
    · exact absurd rfl (plain 0 reported)
  cases event with
  | socket reported =>
      obtain ⟨config, rfl⟩ := socket reported rfl
      exact ⟨socket_moved wire config reported sound, WebSocketSSHClient.onSocket_same wire.client config 0 reported⟩
  | callback awaited err =>
      obtain ⟨_, same⟩ := Option.ite_none_right_eq_some.mp called
      obtain rfl := Option.some.inj same
      obtain ⟨sent, ssh, up⟩ := callback_quiet { wire.client with awaited := wire.client.awaited.erase awaited } awaited err
      refine ⟨moved_quiet wire (.callback awaited err) _ ⟨sent, ssh, up⟩ rfl trivial, ?_⟩
      exact WebSocketSSHClient.onCallback_same { wire.client with awaited := wire.client.awaited.erase awaited } awaited err
  | sendInput data =>
      refine ⟨sendInput_moved wire data client sound called, ?_⟩
      rcases WebSocketSSHClient.sendInput_cases wire.client client data called with rfl | rfl
      · exact ⟨rfl, rfl⟩
      · exact WebSocketSSHClient.send_same _ _ _
  | disconnect =>
      obtain rfl := Option.some.inj called
      exact ⟨disconnect_moved wire sound, WebSocketSSHClient.disconnect_same wire.client⟩

theorem frames_sent (wire next : Wire) (frame : Frame) (log : next.log = .sent frame :: wire.log) :
    next.frames = frame :: wire.frames := by
  rw [Wire.frames, log]
  rfl

theorem frames_same (wire next : Wire) (mark : Mark) (report : mark.frame = none) (log : next.log = mark :: wire.log) :
    next.frames = wire.frames := by
  rw [Wire.frames, log, List.filterMap_cons_none report, Wire.frames]

theorem step_sound (wire : Wire) (event : Event) (next : Wire) (sound : Sound wire) (move : step wire event = some next) :
    Sound next := by
  obtain ⟨moved, socket, created⟩ := step_moved wire event next sound move
  refine ⟨socket.trans sound.socket, created.trans sound.created, fun on => ?_, fun on => ?_⟩
  · cases moved with
    | quiet _ _ log ssh _ => exact log ▸ sound.connected (ssh on)
    | connected _ _ log _ => exact log ▸ List.mem_cons_self
    | closed _ _ _ off _ => exact absurd (off.symm.trans on) Bool.false_ne_true
    | opened _ _ _ _ log ssh => exact log ▸ List.mem_cons_of_mem _ (sound.connected (ssh on))
    | input _ _ log ssh _ => exact log ▸ List.mem_cons_of_mem _ (sound.connected ssh)
    | disconnect log ssh => exact log ▸ List.mem_cons_of_mem _ (sound.connected ssh)
  · cases moved with
    | quiet _ _ log _ up =>
        rw [Wire.frames, log]
        exact sound.opened (up on)
    | connected _ _ log up =>
        rw [frames_same wire next .connected rfl log]
        exact sound.opened (up on)
    | closed _ _ log _ up =>
        rw [frames_same wire next .closed rfl log]
        exact sound.opened (up on)
    | opened _ _ _ _ log _ => exact frames_sent wire next _ log ▸ List.cons_ne_nil _ _
    | input _ _ log _ _ => exact frames_sent wire next _ log ▸ List.cons_ne_nil _ _
    | disconnect log _ => exact frames_sent wire next _ log ▸ List.cons_ne_nil _ _

/-- A step from a socket that has kept to the protocol keeps to it exactly when it fits. -/
theorem step_kept (wire : Wire) (event : Event) (next : Wire) (sound : Sound wire) (kept : Kept wire)
    (move : step wire event = some next) : Kept next ↔ Fits wire event := by
  obtain ⟨moved, _⟩ := step_moved wire event next sound move
  cases moved with
  | quiet _ fits log _ _ =>
      refine iff_of_true ⟨?_, log ▸ kept.timely⟩ fits
      rw [Wire.frames, log]
      exact kept.grammar
  | connected _ fits log _ =>
      refine iff_of_true ⟨?_, log ▸ kept.timely⟩ fits
      rw [frames_same wire next .connected rfl log]
      exact kept.grammar
  | closed _ fits log _ _ =>
      refine iff_of_true ⟨?_, log ▸ kept.timely⟩ fits
      rw [frames_same wire next .closed rfl log]
      exact kept.grammar
  | opened host port username password log _ =>
      have grammar : Grammar next.frames ↔ wire.frames = [] := by
        rw [frames_sent wire next _ log, grammar_connect]
      exact ⟨fun after => grammar.mp after.grammar, fun none => ⟨grammar.mpr none, log ▸ kept.timely⟩⟩
  | input data encoded log ssh up =>
      have grammar : Grammar next.frames ↔ .disconnect ∉ wire.frames := by
        rw [frames_sent wire next _ log, grammar_input, grammar_begun _ kept.grammar]
        exact and_iff_right (sound.opened up)
      have timely : Timely next.log ↔ .closed ∉ wire.log := by
        rw [log]
        exact ⟨fun both => both.1.2, fun before => ⟨⟨sound.connected ssh, before⟩, kept.timely⟩⟩
      constructor
      · exact fun after _ _ => ⟨grammar.mp after.grammar, timely.mp after.timely⟩
      · intro fits
        obtain ⟨plain, before⟩ := fits up ssh
        exact ⟨grammar.mpr plain, timely.mpr before⟩
  | disconnect log ssh =>
      have grammar : Grammar next.frames ↔ wire.frames ≠ [] ∧ .disconnect ∉ wire.frames := by
        rw [frames_sent wire next _ log, grammar_disconnect, grammar_begun _ kept.grammar]
      exact ⟨fun after _ => grammar.mp after.grammar, fun fits => ⟨grammar.mpr (fits ssh), log ▸ kept.timely⟩⟩

theorem made_sound (config : SSHConnectionConfig) (raised : Option JsString) : Sound (made config raised) ∧ Kept (made config raised) := by
  cases raised with
  | none =>
      exact ⟨⟨rfl, rfl, fun on => absurd on Bool.false_ne_true, fun on => absurd on Bool.false_ne_true⟩, .inl rfl, trivial⟩
  | some error =>
      exact ⟨⟨rfl, rfl, fun on => absurd on Bool.false_ne_true, fun on => absurd on Bool.false_ne_true⟩, .inl rfl, trivial⟩

/-- In the runs over any list of calls, events and callbacks the client keeps to the protocol exactly when no
call finds the flags still up that a disconnect or the end of the connection leaves, and nothing is sent
before the socket opens. -/
theorem frames_in_order (config : SSHConnectionConfig) (raised : Option JsString) (events : List Event) :
    Always step (made config raised) events Kept ↔
      Steps step (made config raised) events fun before event _ => Fits before event :=
  always_iff step _ events Sound Kept (made_sound config raised).1 (made_sound config raised).2 Fits step_sound step_kept

def config : SSHConnectionConfig :=
  { host := js "h", port := 22, username := js "u", password := js "p", wsServerUrl := js "ws://p" }

-- disconnect is called twice before the close is called back, and an input is sent after it.
theorem frames_after_disconnect :
    ¬ Always step (made config none)
        [.socket (.opened none), .socket (.message (.ok (some .connected))), .disconnect, .disconnect] Kept ∧
      ¬ Always step (made config none)
        [.socket (.opened none), .socket (.message (.ok (some .connected))), .disconnect, .sendInput (js "ls")] Kept := by
  constructor <;> intro kept
  · have twice := (kept _ [] _ (List.append_nil _).symm (moves_run step _ _ _ rfl)).grammar
    exact absurd ((grammar_disconnect _).mp twice) fun begun => by cases begun
  · have late := (kept _ [] _ (List.append_nil _).symm (moves_run step _ _ _ rfl)).grammar
    exact absurd ((grammar_input _ _).mp late) fun begun => by cases begun

end Kessh.WireGrammar
