import Kessh.Lib.Labelled
import Kessh.WebSocket.Client

set_option autoImplicit false

-- What the events of a socket do once connect has been called again and the client has another socket.
namespace Kessh.WebSocketSSHClient

open Ecma (JsString js)

def Client.outcomeOf (client : Client) (attempt : Nat) : Option Outcome := client.attempts[attempt]?.bind Attempt.outcome

-- An event of a socket that is not the client's leaves the flags and the promise of the current
-- attempt alone, and sends nothing of its own attempt on the current socket.
structure Untouched (before after : Client) (socket : Nat) : Prop where
  isConnected : before.isConnected = after.isConnected
  sshConnected : before.sshConnected = after.sshConnected
  promise : ∀ current ∈ before.ws, after.outcomeOf current = before.outcomeOf current
  secrets : ∀ current ∈ before.ws, ∀ attempt ∈ before.attempts[socket]?,
    after.sent ≠ (current, attempt.config.connectMsg) :: before.sent

def Harmless (before : Client) (event : Event) (after : Client) : Prop :=
  match event with
  | .socket socket _ => before.ws ≠ some socket → Untouched before after socket
  | _ => True

-- The saved function is that of the current attempt, and nothing has settled it yet.
def Client.waitsFor (client : Client) (saved : Option Nat) : Prop :=
  ∃ current, saved = some current ∧ client.ws = some current ∧ client.outcomeOf current = none

-- What a socket that is not the client's may report, from the state before.
def Client.tolerates (client : Client) : SocketEvent → Prop
  | .opened none => False
  | .message (.ok (some .connected)) => client.sshConnected = true ∧ ¬ client.waitsFor client.connectResolve
  | .message (.ok (some (.error _))) => ¬ client.waitsFor client.connectReject
  | .message (.ok (some .disconnected)) => client.sshConnected = false
  | .message (.ok (some .closed)) => client.sshConnected = false
  | .error _ => client.isConnected = false ∧ client.sshConnected = false
  | .closed => client.isConnected = false ∧ client.sshConnected = false
  | _ => True

def Tolerated (before : Client) (event : Event) : Prop :=
  match event with
  | .socket socket reported => before.ws ≠ some socket → before.tolerates reported
  | _ => True

@[simp] theorem settle_fields (client : Client) (attempt : Nat) (outcome : Outcome) :
    (client.settle attempt outcome).ws = client.ws ∧ (client.settle attempt outcome).isConnected = client.isConnected ∧
      (client.settle attempt outcome).sshConnected = client.sshConnected ∧
      (client.settle attempt outcome).sent = client.sent := ⟨rfl, rfl, rfl, rfl⟩

theorem settle_outcome (client : Client) (attempt other : Nat) (outcome : Outcome) :
    (client.settle attempt outcome).outcomeOf other =
      if attempt = other then client.attempts[other]?.bind fun a => a.outcome.or (some outcome) else client.outcomeOf other := by
  unfold Client.outcomeOf Client.settle
  rw [List.getElem?_modify]
  by_cases same : attempt = other
  · rw [if_pos same]
    cases client.attempts[other]? <;> simp [same, Attempt.settle]
  · rw [if_neg same]
    cases client.attempts[other]? <;> simp [same]

-- The sockets that were made, and the one the client has, change in connect only.
def Client.created (client : Client) : List Bool := client.attempts.map Attempt.created

theorem settle_created (client : Client) (attempt : Nat) (outcome : Outcome) :
    (client.settle attempt outcome).created = client.created := by
  refine List.ext_getElem? fun other => ?_
  simp only [Client.created, Client.settle, List.getElem?_map, List.getElem?_modify]
  cases client.attempts[other]? with
  | none => rfl
  | some a => by_cases same : attempt = other <;> simp [same, Attempt.settle]

def SameSockets (before after : Client) : Prop := after.ws = before.ws ∧ after.created = before.created

theorem send_same (client : Client) (frame : Frame) (callback : Callback) :
    SameSockets client (client.send frame callback) := by
  unfold Client.send
  split <;> exact ⟨rfl, rfl⟩

theorem handleMessage_same (client : Client) (message : Message) : SameSockets client (client.handleMessage message) := by
  cases message with
  | connected =>
      simp only [Client.handleMessage]
      split
      · exact ⟨rfl, rfl⟩
      · exact ⟨rfl, settle_created _ _ _⟩
  | error text =>
      simp only [Client.handleMessage]
      split
      · exact ⟨rfl, rfl⟩
      · exact ⟨rfl, settle_created _ _ _⟩
  | _ => exact ⟨rfl, rfl⟩

theorem onSocket_same (client : Client) (config : SSHConnectionConfig) (attempt : Nat) (event : SocketEvent) :
    SameSockets client (client.onSocket config attempt event) := by
  cases event with
  | opened err =>
      cases err with
      | none => exact send_same _ _ _
      | some text => exact ⟨rfl, settle_created _ _ _⟩
  | message arrived =>
      cases arrived with
      | error text => exact ⟨rfl, rfl⟩
      | ok parsed =>
          cases parsed with
          | none => exact ⟨rfl, rfl⟩
          | some message => exact handleMessage_same client message
  | error text => exact ⟨rfl, rfl⟩
  | closed => exact ⟨rfl, rfl⟩

theorem onCallback_same (client : Client) (callback : Callback) (err : Option JsString) :
    SameSockets client (client.onCallback callback err) := by
  cases callback <;> cases err <;> first | exact ⟨rfl, rfl⟩ | exact ⟨rfl, settle_created _ _ _⟩

theorem disconnect_same (client : Client) : SameSockets client client.disconnect := by
  unfold Client.disconnect
  split
  · exact ⟨rfl, rfl⟩
  · split
    · exact send_same client .disconnect .disconnect
    · exact ⟨rfl, rfl⟩

theorem sendInput_cases (client next : Client) (data : JsString) (move : step client (.sendInput data) = some next) :
    next = client ∨ next = client.send (.input (base64Encode data)) .input := by
  simp only [step, Client.sendInput] at move
  split at move
  · rename_i sending sent
    obtain rfl := Option.some.inj move
    split at sent
    · cases sent
    split at sent
    · cases sent
    exact .inr (Except.ok.inj sent).symm
  · exact .inl (Option.some.inj move).symm

theorem step_cases (client : Client) (event : Event) (next : Client) (move : step client event = some next) :
    (∃ config raised, event = .connect config raised ∧ next = client.connect config raised) ∨
      (∃ socket attempt reported, event = .socket socket reported ∧ client.attempts[socket]? = some attempt ∧
        attempt.created = true ∧ next = client.onSocket attempt.config socket reported) ∨
      (∀ socket reported, event ≠ .socket socket reported) ∧ SameSockets client next := by
  cases event with
  | connect config raised => exact .inl ⟨config, raised, rfl, (Option.some.inj move).symm⟩
  | socket socket reported =>
      simp only [step] at move
      split at move
      · rename_i attempt known
        split at move
        · rename_i made
          exact .inr (.inl ⟨socket, attempt, reported, rfl, known, made, (Option.some.inj move).symm⟩)
        · cases move
      · cases move
  | callback callback err =>
      simp only [step] at move
      split at move
      · obtain rfl := Option.some.inj move
        exact .inr (.inr ⟨(fun _ _ same => by cases same), onCallback_same { client with awaited := _ } callback err⟩)
      · cases move
  | sendInput data =>
      refine .inr (.inr ⟨(fun _ _ same => by cases same), ?_⟩)
      rcases sendInput_cases client next data move with rfl | rfl
      · exact ⟨rfl, rfl⟩
      · exact send_same client _ .input
  | disconnect =>
      obtain rfl := Option.some.inj move
      exact .inr (.inr ⟨(fun _ _ same => by cases same), disconnect_same client⟩)

-- The current socket was made by a call of connect, and there is one as soon as one was made.
structure Tracked (client : Client) : Prop where
  current : ∀ current ∈ client.ws, current < client.created.length
  some : true ∈ client.created → client.ws ≠ none

theorem same_tracked (before after : Client) (tracked : Tracked before) (same : SameSockets before after) :
    Tracked after := by
  obtain ⟨ws, created⟩ := same
  exact ⟨by rw [ws, created]; exact tracked.current, by rw [ws, created]; exact tracked.some⟩

theorem connect_tracked (client : Client) (config : SSHConnectionConfig) (raised : Option Raised)
    (tracked : Tracked client) : Tracked (client.connect config raised) := by
  obtain ⟨current, some⟩ := tracked
  simp only [Client.created, List.length_map] at current some
  unfold Client.connect
  dsimp only
  split
  · refine ⟨fun socket here => ?_, fun made => ?_⟩
    · have known := current socket here
      simp only [Client.created, List.map_append, List.length_append, List.length_map]
      omega
    · apply some
      simpa [Client.created] using made
  · refine ⟨fun socket here => ?_, fun _ => Option.some_ne_none _⟩
    obtain rfl := Option.some.inj here
    simp [Client.created]
  · refine ⟨fun socket here => ?_, fun _ => Option.some_ne_none _⟩
    obtain rfl := Option.some.inj here
    simp [Client.created]

theorem step_tracked (before : Client) (event : Event) (after : Client) (tracked : Tracked before)
    (move : step before event = some after) : Tracked after := by
  rcases step_cases before event after move with ⟨config, raised, rfl, rfl⟩ |
    ⟨socket, attempt, reported, rfl, known, made, rfl⟩ | ⟨_, same⟩
  · exact connect_tracked before config raised tracked
  · exact same_tracked before _ tracked (onSocket_same before attempt.config socket reported)
  · exact same_tracked before after tracked same

theorem tracked_known (client : Client) (tracked : Tracked client) (current : Nat) (here : client.ws = some current) :
    ∃ attempt, client.attempts[current]? = some attempt := by
  have inside := tracked.current current here
  simp only [Client.created, List.length_map] at inside
  exact ⟨_, List.getElem?_eq_getElem inside⟩

theorem settle_promise (client : Client) (tracked : Tracked client) (saved : Nat) (outcome : Outcome) :
    (∀ current ∈ client.ws, (client.settle saved outcome).outcomeOf current = client.outcomeOf current) ↔
      ¬ client.waitsFor (some saved) := by
  constructor
  · rintro kept ⟨current, same, here, pending⟩
    obtain rfl := Option.some.inj same
    obtain ⟨attempt, known⟩ := tracked_known client tracked saved here
    have none : attempt.outcome = none := by simpa [Client.outcomeOf, known] using pending
    have settled := kept saved here
    rw [settle_outcome, if_pos rfl, pending, known] at settled
    simp [none] at settled
  · intro idle current here
    rw [settle_outcome]
    by_cases same : saved = current
    · subst same
      rw [if_pos rfl]
      obtain ⟨attempt, known⟩ := tracked_known client tracked saved here
      cases outcome' : attempt.outcome with
      | none => exact absurd ⟨saved, rfl, here, by simp [Client.outcomeOf, known, outcome']⟩ idle
      | some settled => simp [Client.outcomeOf, known, outcome']
    · rw [if_neg same]

theorem waitsFor_none (client : Client) : ¬ client.waitsFor none := fun ⟨_, same, _⟩ => by cases same

theorem untouched_flags (client after : Client) (socket : Nat) (attempts : after.attempts = client.attempts)
    (sent : after.sent = client.sent) :
    Untouched client after socket ↔
      client.isConnected = after.isConnected ∧ client.sshConnected = after.sshConnected := by
  constructor
  · exact fun kept => ⟨kept.isConnected, kept.sshConnected⟩
  · rintro ⟨isConnected, sshConnected⟩
    refine ⟨isConnected, sshConnected, fun current _ => ?_, fun current _ attempt _ => ?_⟩
    · rw [Client.outcomeOf, attempts]
      rfl
    · rw [sent]
      exact fun same => List.cons_ne_self _ _ same.symm

theorem untouched_settled (client after : Client) (tracked : Tracked client) (socket saved : Nat) (outcome : Outcome)
    (attempts : after.attempts = (client.settle saved outcome).attempts) (sent : after.sent = client.sent) :
    Untouched client after socket ↔
      (client.isConnected = after.isConnected ∧ client.sshConnected = after.sshConnected) ∧
        ¬ client.waitsFor (some saved) := by
  have promise : ∀ current, after.outcomeOf current = (client.settle saved outcome).outcomeOf current := fun current => by
    rw [Client.outcomeOf, attempts]
    rfl
  rw [← settle_promise client tracked saved outcome]
  constructor
  · intro kept
    exact ⟨⟨kept.isConnected, kept.sshConnected⟩, fun current here => (promise current).symm.trans (kept.promise current here)⟩
  · rintro ⟨⟨isConnected, sshConnected⟩, idle⟩
    refine ⟨isConnected, sshConnected, fun current here => (promise current).trans (idle current here),
      fun current _ attempt _ => ?_⟩
    rw [sent]
    exact fun same => List.cons_ne_self _ _ same.symm

theorem message_untouched (client : Client) (tracked : Tracked client) (socket : Nat) (message : Message) :
    Untouched client (client.handleMessage message) socket ↔ client.tolerates (.message (.ok (some message))) := by
  have idle := waitsFor_none client
  cases message with
  | connected =>
      simp only [Client.handleMessage, Client.tolerates]
      cases client.connectResolve with
      | none =>
          apply (untouched_flags client _ socket (by rfl) (by rfl)).trans
          simp [idle]
      | some attempt =>
          apply (untouched_settled client _ tracked socket attempt .resolved (by rfl) (by rfl)).trans
          simp
  | error text =>
      simp only [Client.handleMessage, Client.tolerates]
      cases client.connectReject with
      | none =>
          apply (untouched_flags client _ socket (by rfl) (by rfl)).trans
          simp [idle]
      | some attempt =>
          apply (untouched_settled client _ tracked socket attempt (.rejected (text.getD [])) (by rfl) (by rfl)).trans
          simp
  | disconnected =>
      apply (untouched_flags client _ socket (by rfl) (by rfl)).trans
      simp [Client.handleMessage, Client.tolerates]
  | closed =>
      apply (untouched_flags client _ socket (by rfl) (by rfl)).trans
      simp [Client.handleMessage, Client.tolerates]
  | data data => exact iff_of_true ((untouched_flags client _ socket rfl rfl).mpr ⟨rfl, rfl⟩) trivial
  | unknown => exact iff_of_true ((untouched_flags client _ socket rfl rfl).mpr ⟨rfl, rfl⟩) trivial

theorem socket_untouched (client : Client) (tracked : Tracked client) (socket : Nat) (attempt : Attempt)
    (known : client.attempts[socket]? = some attempt) (made : attempt.created = true) (other : client.ws ≠ some socket)
    (reported : SocketEvent) :
    Untouched client (client.onSocket attempt.config socket reported) socket ↔ client.tolerates reported := by
  cases reported with
  | opened err =>
      cases err with
      | none =>
          have some : true ∈ client.created := made ▸ List.mem_map_of_mem (List.mem_of_getElem? known)
          obtain ⟨current, here⟩ := Option.ne_none_iff_exists'.mp (tracked.some some)
          refine iff_of_false (fun kept => ?_) id
          apply kept.secrets current here attempt known
          simp [Client.onSocket, Client.onOpen, Client.sendSSHConnect, Client.send, here]
      | some text =>
          refine iff_of_true ((untouched_settled client _ tracked socket socket
            (.rejected (js "WebSocket open error: " ++ text)) rfl rfl).mpr ⟨⟨rfl, rfl⟩, ?_⟩) trivial
          rintro ⟨current, same, here, _⟩
          obtain rfl := Option.some.inj same
          exact other here
  | message arrived =>
      cases arrived with
      | error text => exact iff_of_true ((untouched_flags client _ socket rfl rfl).mpr ⟨rfl, rfl⟩) trivial
      | ok parsed =>
          cases parsed with
          | none => exact iff_of_true ((untouched_flags client _ socket rfl rfl).mpr ⟨rfl, rfl⟩) trivial
          | some message => exact message_untouched client tracked socket message
  | error text =>
      apply (untouched_flags client _ socket (by rfl) (by rfl)).trans
      simp [Client.onSocket, Client.tolerates]
  | closed =>
      apply (untouched_flags client _ socket (by rfl) (by rfl)).trans
      simp [Client.onSocket, Client.tolerates]

/-- In the runs over any list of calls and events, the events of superseded sockets leave the
current attempt alone exactly when each is one that the client tolerates in the state it comes in. -/
theorem superseded_sockets (events : List Event) :
    Labelled.Steps step {} events Harmless ↔ Labelled.Steps step {} events fun before event _ => Tolerated before event := by
  have initial : Tracked {} := ⟨by simp, by simp [Client.created]⟩
  refine Labelled.steps_iff step {} events Tracked initial step_tracked _ _ fun before event after tracked move => ?_
  rcases step_cases before event after move with ⟨config, raised, rfl, rfl⟩ |
    ⟨socket, attempt, reported, rfl, known, made, rfl⟩ | ⟨plain, _⟩
  · exact Iff.rfl
  · exact forall_congr' fun other => socket_untouched before tracked socket attempt known made other reported
  · cases event with
    | socket socket reported => exact absurd rfl (plain socket reported)
    | _ => exact Iff.rfl

def configFor (host password : String) : SSHConnectionConfig :=
  { host := js host, port := 22, username := js "u", password := js password, wsServerUrl := js "ws://p" }

-- The first socket opens when the second call of connect has been made: the password of the
-- first attempt goes out on the second socket.
theorem superseded_open_sends :
    ¬ Labelled.Steps step {} [.connect (configFor "a" "x") none, .connect (configFor "b" "y") none,
      .socket 0 (.opened none)] Harmless := by
  intro harmless
  have run : Labelled.Run (Labelled.Moves step) {} [.connect (configFor "a" "x") none, .connect (configFor "b" "y") none]
      _ := Labelled.moves_run step {} _ _ rfl
  have untouched := harmless [.connect (configFor "a" "x") none, .connect (configFor "b" "y") none]
    (.socket 0 (.opened none)) [] _ _ rfl run rfl (by decide)
  exact untouched.secrets 1 rfl _ rfl rfl

end Kessh.WebSocketSSHClient
