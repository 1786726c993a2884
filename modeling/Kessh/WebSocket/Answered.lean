import Kessh.WebSocket.Superseded

set_option autoImplicit false

-- Whether the one call of connect is answered, whatever its socket reports.
namespace Kessh.WebSocketSSHClient

open Ecma (JsString js)

def attempted (config : SSHConnectionConfig) : Client := ({} : Client).connect config none

def Event.isConnect : Event → Bool
  | .connect _ _ => true
  | _ => false

def Event.ends : Event → Bool
  | .socket _ (.error _) => true
  | .socket _ .closed => true
  | _ => false

def Event.opens : Event → Bool
  | .socket _ (.opened none) => true
  | _ => false

def Event.connected : Event → Bool
  | .socket _ (.message (.ok (some .connected))) => true
  | _ => false

-- Events that reject the promise, and messages that answer the request that an open sends.
def Event.refuses : Event → Bool
  | .callback (.connect _) (some _) => true
  | .callback (.sshConnect _) (some _) => true
  | .socket _ (.opened (some _)) => true
  | _ => false

def Event.replies : Event → Bool
  | .socket _ (.message (.ok (some .connected))) => true
  | .socket _ (.message (.ok (some (.error _)))) => true
  | _ => false

def Opened (events : List Event) : Prop := ∃ event ∈ events, event.opens = true

def Answered (events : List Event) : Prop :=
  ∃ prior event later, events = prior ++ event :: later ∧
    (event.refuses = true ∨ event.replies = true ∧ Opened prior)

theorem opened_snoc (events : List Event) (event : Event) :
    Opened (events ++ [event]) ↔ Opened events ∨ event.opens = true := by
  simp [Opened, or_and_right, exists_or]

theorem answered_snoc (events : List Event) (event : Event) :
    Answered (events ++ [event]) ↔
      Answered events ∨ event.refuses = true ∨ event.replies = true ∧ Opened events := by
  constructor
  · rintro ⟨prior, answer, later, whole, answers⟩
    rcases List.eq_nil_or_concat later with rfl | ⟨between, last, rfl⟩
    · obtain ⟨rfl, same⟩ := List.append_inj' whole rfl
      obtain rfl := List.singleton_inj.mp same
      exact .inr answers
    · rw [List.concat_eq_append, ← List.cons_append, ← List.append_assoc] at whole
      obtain ⟨same, _⟩ := List.append_inj' whole rfl
      exact .inl ⟨prior, answer, between, same, answers⟩
  · rintro (⟨prior, answer, later, rfl, answers⟩ | answers)
    · exact ⟨prior, answer, later ++ [event], by simp, answers⟩
    · exact ⟨events, event, [], rfl, answers⟩

theorem answered_append (events later : List Event) (answered : Answered events) : Answered (events ++ later) := by
  obtain ⟨prior, answer, between, rfl, answers⟩ := answered
  exact ⟨prior, answer, between ++ later, by simp, answers⟩

structure Single (config : SSHConnectionConfig) (events : List Event) (client : Client) : Prop where
  attempts : ∃ outcome, client.attempts = [⟨config, true, outcome⟩]
  callbacks : ∀ attempt, .connect attempt ∈ client.awaited ∨ .sshConnect attempt ∈ client.awaited → attempt = 0
  saved : client.connectResolve = client.connectReject ∧ ∀ attempt ∈ client.connectResolve, attempt = 0 ∧ Opened events
  kept : Opened events → client.outcomeOf 0 = none → client.connectResolve = some 0
  answered : client.outcomeOf 0 ≠ none ↔ Answered events

theorem attempted_single (config : SSHConnectionConfig) : Single config [] (attempted config) where
  attempts := ⟨none, rfl⟩
  callbacks := by simp [attempted, Client.connect]
  saved := by simp [attempted, Client.connect]
  kept := by simp [Opened]
  answered := by simp [attempted, Client.connect, Client.outcomeOf, Answered]

section

variable {config : SSHConnectionConfig} {events : List Event} {before after : Client} {event : Event}

theorem outcome_same (attempts : after.attempts = before.attempts) : after.outcomeOf 0 = before.outcomeOf 0 := by
  rw [Client.outcomeOf, attempts]
  rfl

theorem single_quiet (single : Single config events before) (attempts : after.attempts = before.attempts)
    (resolve : after.connectResolve = before.connectResolve) (reject : after.connectReject = before.connectReject)
    (callbacks : ∀ attempt, .connect attempt ∈ after.awaited ∨ .sshConnect attempt ∈ after.awaited →
      .connect attempt ∈ before.awaited ∨ .sshConnect attempt ∈ before.awaited)
    (opens : event.opens = false)
    (late : event.refuses = true ∨ event.replies = true ∧ Opened events → before.outcomeOf 0 ≠ none) :
    Single config (events ++ [event]) after where
  attempts := attempts ▸ single.attempts
  callbacks attempt member := single.callbacks attempt (callbacks attempt member)
  saved := by
    refine ⟨by rw [resolve, reject, single.saved.1], fun attempt here => ?_⟩
    obtain ⟨zero, opened⟩ := single.saved.2 attempt (resolve ▸ here)
    exact ⟨zero, (opened_snoc events event).mpr (.inl opened)⟩
  kept opened none := by
    rw [opened_snoc, opens] at opened
    rw [resolve]
    exact single.kept (opened.resolve_right (by simp)) ((outcome_same attempts) ▸ none)
  answered := by
    rw [outcome_same attempts, answered_snoc, single.answered]
    refine ⟨.inl, fun answered => answered.elim id fun answers => ?_⟩
    exact single.answered.mp (late answers)

theorem single_settled (single : Single config events before) (outcome : Outcome)
    (attempts : after.attempts = (before.settle 0 outcome).attempts)
    (saved : after.connectResolve = before.connectResolve ∧ after.connectReject = before.connectReject ∨
      after.connectResolve = none ∧ after.connectReject = none)
    (callbacks : ∀ attempt, .connect attempt ∈ after.awaited ∨ .sshConnect attempt ∈ after.awaited →
      .connect attempt ∈ before.awaited ∨ .sshConnect attempt ∈ before.awaited)
    (answers : event.refuses = true ∨ event.replies = true ∧ Opened events) :
    Single config (events ++ [event]) after := by
  obtain ⟨previous, one⟩ := single.attempts
  have settled : after.attempts = [⟨config, true, previous.or (some outcome)⟩] := by
    rw [attempts, Client.settle, one]
    rfl
  have answered : after.outcomeOf 0 ≠ none := by
    rw [Client.outcomeOf, settled]
    cases previous <;> simp
  exact
    { attempts := ⟨_, settled⟩
      callbacks := fun attempt member => single.callbacks attempt (callbacks attempt member)
      saved := by
        rcases saved with ⟨resolve, reject⟩ | ⟨resolve, reject⟩
        · refine ⟨by rw [resolve, reject, single.saved.1], fun attempt here => ?_⟩
          obtain ⟨zero, opened⟩ := single.saved.2 attempt (resolve ▸ here)
          exact ⟨zero, (opened_snoc events event).mpr (.inl opened)⟩
        · rw [resolve, reject]
          exact ⟨rfl, fun attempt here => by cases here⟩
      kept := fun _ none => absurd none answered
      answered := iff_of_true answered ((answered_snoc events event).mpr (.inr answers)) }

theorem send_frame (client : Client) (frame : Frame) (callback : Callback) :
    (client.send frame callback).attempts = client.attempts ∧
      (client.send frame callback).connectResolve = client.connectResolve ∧
      (client.send frame callback).connectReject = client.connectReject ∧
      ∀ other ∈ (client.send frame callback).awaited, other = callback ∨ other ∈ client.awaited := by
  unfold Client.send
  split
  · exact ⟨rfl, rfl, rfl, fun _ => .inr⟩
  · exact ⟨rfl, rfl, rfl, fun _ => List.mem_cons.mp⟩

theorem single_opened (single : Single config events before) (other : SSHConnectionConfig) (socket : Nat) :
    Single config (events ++ [.socket socket (.opened none)])
      ({ before with isConnected := true }.sendSSHConnect other 0) := by
  have opened : Opened (events ++ [.socket socket (.opened none)]) := (opened_snoc _ _).mpr (.inr rfl)
  obtain ⟨attempts, resolve, reject, awaited⟩ := send_frame
    { before with isConnected := true, connectResolve := some 0, connectReject := some 0 } other.connectMsg (.sshConnect 0)
  exact
    { attempts := attempts.symm ▸ single.attempts
      callbacks := fun attempt member => by
        rcases member with connect | sshConnect
        · rcases awaited _ connect with same | old
          · cases same
          · exact single.callbacks attempt (.inl old)
        · rcases awaited _ sshConnect with same | old
          · exact Callback.sshConnect.inj same
          · exact single.callbacks attempt (.inr old)
      saved := by
        refine ⟨resolve.trans reject.symm, fun attempt here => ?_⟩
        obtain rfl := Option.some.inj (resolve.symm.trans here)
        exact ⟨rfl, opened⟩
      kept := fun _ _ => resolve
      answered := by
        have same := outcome_same (show _ = before.attempts from attempts)
        rw [Client.sendSSHConnect, same, answered_snoc, single.answered]
        simp [Event.refuses, Event.replies] }

theorem message_single (single : Single config events before) (socket : Nat) (message : Message) :
    Single config (events ++ [.socket socket (.message (.ok (some message)))]) (before.handleMessage message) := by
  have pending : before.connectResolve = none → Opened events → before.outcomeOf 0 ≠ none := fun none opened waiting => by
    rw [single.kept opened waiting] at none
    cases none
  cases message with
  | connected =>
      simp only [Client.handleMessage]
      split
      · rename_i none
        exact single_quiet single rfl rfl rfl (fun _ => id) rfl fun answers => by
          rcases answers with refuses | ⟨_, opened⟩
          · cases refuses
          · exact pending none opened
      · rename_i attempt here
        obtain ⟨rfl, opened⟩ := single.saved.2 attempt here
        exact single_settled single .resolved rfl (.inr ⟨rfl, rfl⟩) (fun _ => id) (.inr ⟨rfl, opened⟩)
  | error text =>
      simp only [Client.handleMessage]
      split
      · rename_i none
        rw [← single.saved.1] at none
        exact single_quiet single rfl rfl rfl (fun _ => id) rfl fun answers => by
          rcases answers with refuses | ⟨_, opened⟩
          · cases refuses
          · exact pending none opened
      · rename_i attempt here
        rw [← single.saved.1] at here
        obtain ⟨rfl, opened⟩ := single.saved.2 attempt here
        exact single_settled single (.rejected (text.getD [])) rfl (.inr ⟨rfl, rfl⟩) (fun _ => id) (.inr ⟨rfl, opened⟩)
  | _ =>
      refine single_quiet single rfl rfl rfl (fun _ => id) rfl fun answers => ?_
      rcases answers with refuses | ⟨replies, _⟩
      · cases refuses
      · cases replies

theorem socket_single (single : Single config events before) (socket : Nat) (attempt : Attempt)
    (known : before.attempts[socket]? = some attempt) (reported : SocketEvent) :
    Single config (events ++ [.socket socket reported]) (before.onSocket attempt.config socket reported) := by
  obtain ⟨outcome, one⟩ := single.attempts
  obtain ⟨inside, _⟩ := List.getElem?_eq_some_iff.mp known
  obtain rfl : socket = 0 := by
    rw [one, List.length_singleton] at inside
    omega
  have silent : ∀ reported : SocketEvent, Event.refuses (.socket 0 reported) = false →
      Event.replies (.socket 0 reported) = false →
      Event.refuses (.socket 0 reported) = true ∨ Event.replies (.socket 0 reported) = true ∧ Opened events →
        before.outcomeOf 0 ≠ none := by
    rintro reported noRefusal noReply (refuses | ⟨replies, _⟩)
    · exact absurd refuses (by simp [noRefusal])
    · exact absurd replies (by simp [noReply])
  cases reported with
  | opened err =>
      cases err with
      | none => exact single_opened single attempt.config 0
      | some text =>
          exact single_settled single (.rejected (js "WebSocket open error: " ++ text)) rfl (.inl ⟨rfl, rfl⟩) (fun _ => id)
            (.inl rfl)
  | message arrived =>
      cases arrived with
      | error text => exact single_quiet single rfl rfl rfl (fun _ => id) rfl (silent _ rfl rfl)
      | ok parsed =>
          cases parsed with
          | none => exact single_quiet single rfl rfl rfl (fun _ => id) rfl (silent _ rfl rfl)
          | some message => exact message_single single 0 message
  | error text => exact single_quiet single rfl rfl rfl (fun _ => id) rfl (silent _ rfl rfl)
  | closed => exact single_quiet single rfl rfl rfl (fun _ => id) rfl (silent _ rfl rfl)

theorem callback_single (single : Single config events before) (callback : Callback)
    (awaited : callback ∈ before.awaited) (err : Option JsString) :
    Single config (events ++ [.callback callback err])
      ({ before with awaited := before.awaited.erase callback }.onCallback callback err) := by
  have fewer : ∀ attempt, .connect attempt ∈ before.awaited.erase callback ∨
      .sshConnect attempt ∈ before.awaited.erase callback →
        .connect attempt ∈ before.awaited ∨ .sshConnect attempt ∈ before.awaited := fun attempt member =>
    member.imp List.mem_of_mem_erase List.mem_of_mem_erase
  have silent : Event.refuses (.callback callback err) = false →
      Event.refuses (.callback callback err) = true ∨ Event.replies (.callback callback err) = true ∧ Opened events →
        before.outcomeOf 0 ≠ none := by
    rintro noRefusal (refuses | ⟨replies, _⟩)
    · exact absurd refuses (by simp [noRefusal])
    · cases replies
  cases callback with
  | connect attempt =>
      obtain rfl := single.callbacks attempt (.inl awaited)
      cases err with
      | none => exact single_quiet single rfl rfl rfl fewer rfl (silent rfl)
      | some text =>
          exact single_settled single (.rejected (js "WebSocket connection failed: " ++ text)) rfl (.inl ⟨rfl, rfl⟩) fewer
            (.inl rfl)
  | sshConnect attempt =>
      obtain rfl := single.callbacks attempt (.inr awaited)
      cases err with
      | none => exact single_quiet single rfl rfl rfl fewer rfl (silent rfl)
      | some text =>
          exact single_settled single (.rejected (js "Failed to send SSH connect: " ++ text)) rfl (.inr ⟨rfl, rfl⟩) fewer
            (.inl rfl)
  | _ => cases err <;> exact single_quiet single rfl rfl rfl fewer rfl (silent rfl)

theorem send_callbacks (client : Client) (frame : Frame) (callback : Callback)
    (other : callback = .input ∨ callback = .disconnect) (attempt : Nat)
    (member : .connect attempt ∈ (client.send frame callback).awaited ∨
      .sshConnect attempt ∈ (client.send frame callback).awaited) :
    .connect attempt ∈ client.awaited ∨ .sshConnect attempt ∈ client.awaited := by
  have awaited := (send_frame client frame callback).2.2.2
  refine member.imp (fun connect => ?_) fun sshConnect => ?_
  · exact (awaited _ connect).resolve_left fun same => by rcases other with rfl | rfl <;> cases same
  · exact (awaited _ sshConnect).resolve_left fun same => by rcases other with rfl | rfl <;> cases same

theorem step_single (single : Single config events before) (plain : event.isConnect = false)
    (move : step before event = some after) : Single config (events ++ [event]) after := by
  cases event with
  | connect config raised => cases plain
  | socket socket reported =>
      rcases step_cases before _ after move with ⟨_, _, same, _⟩ | ⟨_, attempt, _, same, known, _, rfl⟩ | ⟨other, _⟩
      · cases same
      · cases same
        exact socket_single single socket attempt known reported
      · exact absurd rfl (other socket reported)
  | callback callback err =>
      simp only [step] at move
      split at move
      · rename_i awaited
        obtain rfl := Option.some.inj move
        exact callback_single single callback awaited err
      · cases move
  | sendInput data =>
      have silent : Event.refuses (.sendInput data) = true ∨ Event.replies (.sendInput data) = true ∧ Opened events →
          before.outcomeOf 0 ≠ none := fun answers => by simp [Event.refuses, Event.replies] at answers
      rcases sendInput_cases before after data move with rfl | rfl
      · exact single_quiet single rfl rfl rfl (fun _ => id) rfl silent
      · obtain ⟨attempts, resolve, reject, _⟩ := send_frame before (.input (base64Encode data)) .input
        exact single_quiet single attempts resolve reject (send_callbacks before _ .input (.inl rfl)) rfl silent
  | disconnect =>
      have silent : Event.refuses .disconnect = true ∨ Event.replies .disconnect = true ∧ Opened events →
          before.outcomeOf 0 ≠ none := fun answers => by simp [Event.refuses, Event.replies] at answers
      obtain rfl := Option.some.inj move
      unfold Client.disconnect
      split
      · exact single_quiet single rfl rfl rfl (fun _ => id) rfl silent
      · dsimp only
        split
        · obtain ⟨attempts, resolve, reject, _⟩ := send_frame before .disconnect .disconnect
          refine single_quiet single attempts resolve reject (fun attempt member => ?_) rfl silent
          exact send_callbacks before .disconnect .disconnect (.inr rfl) attempt (by simpa using member)
        · exact single_quiet single rfl rfl rfl (fun attempt member => by simpa using member) rfl silent

end

theorem run_single (config : SSHConnectionConfig) (events : List Event) (client : Client)
    (run : Labelled.Run (Labelled.Moves step) (attempted config) events client)
    (plain : ∀ event ∈ events, event.isConnect = false) : Single config events client := by
  induction run with
  | nil => exact attempted_single config
  | snoc labels state next label _ last ih =>
      have known := ih fun event member => plain event (List.mem_append_left _ member)
      exact step_single known (plain label (by simp)) last

theorem disconnect_attempts (client : Client) : client.disconnect.attempts = client.attempts := by
  unfold Client.disconnect
  split
  · rfl
  · dsimp only
    split
    · exact (send_frame client .disconnect .disconnect).1
    · rfl

theorem outcome_attempts (client next : Client) (attempts : next.attempts = client.attempts) (attempt : Nat)
    (outcome : Outcome) (settled : next.outcomeOf attempt = some outcome) : client.outcomeOf attempt = some outcome := by
  rw [Client.outcomeOf, attempts] at settled
  exact settled

theorem settle_rejected (client : Client) (saved attempt : Nat) (reason : JsString)
    (resolved : (client.settle saved (.rejected reason)).outcomeOf attempt = some .resolved) :
    client.outcomeOf attempt = some .resolved := by
  rw [settle_outcome] at resolved
  split at resolved
  · obtain ⟨found, known, settled⟩ := Option.bind_eq_some_iff.mp resolved
    rw [Client.outcomeOf, known]
    cases outcome : found.outcome with
    | none => simp [outcome] at settled
    | some other => simpa [outcome] using settled
  · exact resolved

theorem connect_resolved (client : Client) (config : SSHConnectionConfig) (raised : Option Raised) (attempt : Nat)
    (resolved : (client.connect config raised).outcomeOf attempt = some .resolved) :
    client.outcomeOf attempt = some .resolved := by
  have appended : ∃ last : Attempt, (client.connect config raised).attempts = client.attempts ++ [last] ∧
      last.outcome ≠ some .resolved := by
    unfold Client.connect
    dsimp only
    split <;> exact ⟨_, rfl, by simp [connectionException]⟩
  obtain ⟨last, attempts, unresolved⟩ := appended
  rw [Client.outcomeOf, attempts] at resolved
  obtain ⟨found, known, settled⟩ := Option.bind_eq_some_iff.mp resolved
  rw [List.getElem?_append] at known
  split at known
  · exact Option.bind_eq_some_iff.mpr ⟨found, known, settled⟩
  · obtain rfl := List.mem_singleton.mp (List.mem_of_getElem? known)
    exact absurd settled unresolved

theorem callback_resolved (client : Client) (callback : Callback) (err : Option JsString) (attempt : Nat)
    (resolved : (client.onCallback callback err).outcomeOf attempt = some .resolved) :
    client.outcomeOf attempt = some .resolved := by
  cases callback <;> cases err <;> first | exact resolved | exact settle_rejected client _ attempt _ resolved

theorem socket_resolved (client : Client) (config : SSHConnectionConfig) (socket : Nat) (reported : SocketEvent)
    (attempt : Nat) (other : Event.connected (.socket socket reported) = false)
    (resolved : (client.onSocket config socket reported).outcomeOf attempt = some .resolved) :
    client.outcomeOf attempt = some .resolved := by
  cases reported with
  | opened err =>
      cases err with
      | none =>
          exact outcome_attempts client _ (send_frame { client with isConnected := true, connectResolve := _, connectReject := _ }
            config.connectMsg (.sshConnect socket)).1 attempt .resolved resolved
      | some text => exact settle_rejected client socket attempt _ resolved
  | message arrived =>
      cases arrived with
      | error text => exact resolved
      | ok parsed =>
          cases parsed with
          | none => exact resolved
          | some message =>
              cases message with
              | connected => cases other
              | error text =>
                  simp only [Client.onSocket, Client.handleMessage] at resolved
                  split at resolved
                  · exact resolved
                  · exact settle_rejected client _ attempt _ resolved
              | _ => exact resolved
  | error text => exact resolved
  | closed => exact resolved

theorem connected_resolves (client next : Client) (event : Event) (attempt : Nat) (move : step client event = some next)
    (pending : client.outcomeOf attempt = none) (resolved : next.outcomeOf attempt = some .resolved) :
    event.connected = true := by
  refine Bool.of_not_eq_false fun other => ?_
  suffices before : client.outcomeOf attempt = some .resolved by
    rw [pending] at before
    cases before
  cases event with
  | connect config raised =>
      obtain rfl := Option.some.inj move
      exact connect_resolved client config raised attempt resolved
  | socket socket reported =>
      rcases step_cases client _ next move with ⟨_, _, same, _⟩ | ⟨_, found, _, same, _, _, rfl⟩ | ⟨plain, _⟩
      · cases same
      · cases same
        exact socket_resolved client found.config socket reported attempt other resolved
      · exact absurd rfl (plain socket reported)
  | callback callback err =>
      simp only [step] at move
      split at move
      · obtain rfl := Option.some.inj move
        exact callback_resolved { client with awaited := client.awaited.erase callback } callback err attempt resolved
      · cases move
  | sendInput data =>
      rcases sendInput_cases client next data move with rfl | rfl
      · exact resolved
      · exact outcome_attempts client _ (send_frame client _ .input).1 attempt .resolved resolved
  | disconnect =>
      obtain rfl := Option.some.inj move
      exact outcome_attempts client _ (disconnect_attempts client) attempt .resolved resolved

/-- The promise of the one call of connect is resolved by a 'connected' message only, and is
settled in every state after the socket has reported an error or a close, exactly when in
front of each error or close an event has refused the attempt, or a 'connected' or 'error'
message has come after an open. -/
theorem attempt_answered (config : SSHConnectionConfig) (events : List Event) (client : Client)
    (run : Labelled.Run (Labelled.Moves step) (attempted config) events client)
    (plain : ∀ event ∈ events, event.isConnect = false) :
    (Labelled.Steps step (attempted config) events (fun before event after =>
        before.outcomeOf 0 = none → after.outcomeOf 0 = some .resolved → event.connected = true) ∧
      ∀ prior later state, events = prior ++ later → Labelled.Run (Labelled.Moves step) (attempted config) prior state →
        (∃ event ∈ prior, event.ends = true) → state.outcomeOf 0 ≠ none) ↔
      ∀ prior event later, events = prior ++ event :: later → event.ends = true → Answered prior := by
  have single : ∀ prior later state, events = prior ++ later →
      Labelled.Run (Labelled.Moves step) (attempted config) prior state → Single config prior state :=
    fun prior later state split reached => run_single config prior state reached fun event member =>
      plain event (split ▸ List.mem_append_left _ member)
  constructor
  · rintro ⟨_, settled⟩ prior event later split ends
    have whole : events = (prior ++ [event]) ++ later := by simpa using split
    obtain ⟨state, reached, _⟩ := Labelled.run_split (Labelled.Moves step) _ _ (prior ++ [event]) later (whole ▸ run)
    have answered := (single _ later state whole reached).answered.mp
      (settled _ later state whole reached ⟨event, by simp, ends⟩)
    have silent : event.refuses = false ∧ event.replies = false := by
      cases event with
      | socket socket reported => cases reported <;> first | exact ⟨rfl, rfl⟩ | cases ends
      | _ => cases ends
    simpa [answered_snoc, silent.1, silent.2] using answered
  · intro answered
    refine ⟨fun prior event later before after _ _ move => connected_resolves before after event 0 move, ?_⟩
    rintro prior later state split reached ⟨event, member, ends⟩
    obtain ⟨first, second, rfl⟩ := List.append_of_mem member
    have early := answered first event (second ++ later) (by simpa using split) ends
    exact (single _ later state split reached).answered.mpr (answered_append first (event :: second) early)

def connectedThenClosed : List Event :=
  [.socket 0 (.opened none), .socket 0 (.message (.ok (some .connected))), .socket 0 .closed]

theorem attempt_answered_connected : ∃ client,
    Labelled.Run (Labelled.Moves step) (attempted (configFor "a" "x")) connectedThenClosed client ∧
      client.outcomeOf 0 ≠ none := by
  have run : Labelled.Run (Labelled.Moves step) (attempted (configFor "a" "x")) connectedThenClosed _ :=
    Labelled.moves_run step _ _ _ rfl
  refine ⟨_, run, ((attempt_answered (configFor "a" "x") connectedThenClosed _ run ?_).mpr ?_).2 connectedThenClosed [] _
    (List.append_nil _).symm run ⟨.socket 0 .closed, by simp [connectedThenClosed], rfl⟩⟩
  · simp [connectedThenClosed, Event.isConnect]
  · rintro prior event later split ends
    have opened : Opened [Event.socket 0 (.opened none)] := ⟨_, List.mem_singleton_self _, rfl⟩
    have answered : Answered [Event.socket 0 (.opened none), .socket 0 (.message (.ok (some .connected)))] :=
      ⟨[.socket 0 (.opened none)], _, [], rfl, .inr ⟨rfl, opened⟩⟩
    match prior, split with
    | [], split =>
        cases split
        cases ends
    | [_], split =>
        cases split
        cases ends
    | [_, _], split =>
        cases split
        exact answered
    | _ :: _ :: _ :: rest, split => simp [connectedThenClosed] at split

-- The socket opens and is closed before the proxy answers: nothing settles the promise.
theorem unanswered : ¬ ∀ (config : SSHConnectionConfig) (events : List Event) (client : Client),
    Labelled.Run (Labelled.Moves step) (attempted config) events client →
    (∀ event ∈ events, event.isConnect = false) → (∃ event ∈ events, event.ends = true) → client.outcomeOf 0 ≠ none := by
  intro settled
  have run : Labelled.Run (Labelled.Moves step) (attempted (configFor "a" "x")) [.socket 0 (.opened none), .socket 0 .closed] _ :=
    Labelled.moves_run step _ _ _ rfl
  exact settled _ _ _ run (by simp [Event.isConnect]) ⟨.socket 0 .closed, by simp, rfl⟩ rfl

end Kessh.WebSocketSSHClient
