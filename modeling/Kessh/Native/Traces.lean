import Kessh.Native.Operations

set_option autoImplicit false

-- What the events of a finished operation look like.
namespace Kessh.Native

open Utf8 (Bytes)
open Interaction

abbrev Exchange := Interaction.Event Call Reply

theorem withLock_trace {α : Type} (mutex : Mutex) (scope : Routine α) (events : List Exchange) (value : α)
    (trace : Trace (withLock mutex scope) events value) :
    ∃ inner, events = ⟨.lock mutex, ()⟩ :: (inner ++ [⟨.unlock mutex, ()⟩]) ∧ Trace scope inner value := by
  simp only [withLock, ask, Program.bind_eq, Program.ask_bind, trace_call] at trace
  obtain ⟨_, rest, rfl, locked⟩ := trace
  obtain ⟨inner, last, result, rfl, body, unlocking⟩ := trace_bind _ _ _ _ locked
  obtain ⟨_, none, rfl, ended⟩ := (trace_call _ _ _ _).mp unlocking
  obtain ⟨rfl, rfl⟩ := (trace_done _ _ _).mp ended
  exact ⟨inner, rfl, body⟩

theorem drain_last (request : Call) (data : Reply request → Option Bytes) (text : Bytes) (events : List Exchange)
    (result : Bytes) (trace : Trace (drain request data text) events result) :
    ∃ (front : List (Reply request)) (last : Reply request),
      events = (front ++ [last]).map (fun reply => ⟨request, reply⟩) ∧ (∀ reply ∈ front, data reply ≠ none) ∧
        data last = none ∧ result = text ++ front.flatMap fun reply => (data reply).getD [] := by
  induction events generalizing text with
  | nil => simp [drain, Trace] at trace
  | cons event rest ih =>
      obtain ⟨reply, later, same, outcome⟩ := trace_loop _ _ _ _ _ _ trace
      obtain ⟨rfl, rfl⟩ := List.cons.inj same
      rcases outcome with ⟨following, continues, trace⟩ | ⟨ends, trace⟩
      · obtain ⟨chunk, some, rfl⟩ := Option.map_eq_some_iff.mp continues
        obtain ⟨front, last, rfl, goes, ends, rfl⟩ := ih (text ++ chunk) trace
        refine ⟨reply :: front, last, rfl, List.forall_mem_cons.mpr ⟨by simp [some], goes⟩, ends, ?_⟩
        rw [List.flatMap_cons, some, List.append_assoc]
        rfl
      · obtain ⟨rfl, rfl⟩ := (trace_done _ _ _).mp trace
        exact ⟨[], reply, rfl, by simp, Option.map_eq_none_iff.mp ends, by simp⟩

theorem drain_trace (request : Call) (data : Reply request → Option Bytes) (text : Bytes) (events : List Exchange)
    (result : Bytes) (trace : Trace (drain request data text) events result) :
    ∃ replies : List (Reply request), events = replies.map (fun reply => ⟨request, reply⟩) ∧
      result = text ++ replies.flatMap fun reply => (data reply).getD [] := by
  obtain ⟨front, last, rfl, _, ends, rfl⟩ := drain_last request data text events result trace
  refine ⟨front ++ [last], rfl, ?_⟩
  rw [List.flatMap_append, List.flatMap_singleton, ends]
  exact congrArg _ (List.append_nil _).symm

-- What a read brings, and what a write takes off the front of its buffer.
def arrived (event : Exchange) : Bytes :=
  match event with
  | ⟨.channelRead _ _, .bytes data⟩ => data
  | _ => []

def accepted (event : Exchange) : Bytes :=
  match event with
  | ⟨.channelWrite _ buffer, written⟩ => buffer.take (Int.toNat written)
  | _ => []

theorem drain_arrived (channel : Channel) (size : Nat) (data : ReadResult → Option Bytes)
    (keeps : ∀ reply, (data reply).getD [] = reply.available.getD []) (text : Bytes) (events : List Exchange)
    (result : Bytes) (trace : Trace (drain (.channelRead channel size) data text) events result) :
    result = text ++ events.flatMap arrived := by
  obtain ⟨replies, rfl, rfl⟩ := drain_trace _ _ _ _ _ trace
  rw [List.flatMap_map]
  refine congrArg _ (List.flatMap_congr fun reply _ => (keeps reply).trans ?_)
  cases reply <;> rfl

theorem awaited_available (reply : ReadResult) : reply.awaited.getD [] = reply.available.getD [] := by
  cases reply with
  | bytes data => rfl
  | eof => rfl
  | error code =>
      rw [ReadResult.awaited]
      split <;> rfl

theorem writeAll_accepted (channel : Channel) (content : Bytes) (events : List Exchange) (total : Nat)
    (trace : Trace (writeAll channel content) events (some total)) : events.flatMap accepted = content := by
  unfold writeAll at trace
  split at trace
  · rename_i empty
    obtain ⟨rfl, _⟩ := (trace_done _ _ _).mp trace
    exact (List.length_eq_zero_iff.mp empty).symm
  · refine Eq.trans ?_ (List.drop_zero : content.drop 0 = content)
    generalize (0 : Nat) = totalWritten at trace ⊢
    induction events generalizing totalWritten with
    | nil => simp [Trace] at trace
    | cons event later ih =>
        obtain ⟨written, rest, same, outcome⟩ := trace_loop _ _ _ _ _ _ trace
        obtain ⟨rfl, rfl⟩ := List.cons.inj same
        have taken : accepted ⟨.channelWrite channel (content.drop totalWritten), written⟩ =
            (content.drop totalWritten).take (Int.toNat written) := rfl
        rw [List.flatMap_cons, taken]
        by_cases progress : written > 0
        · simp only [if_pos progress] at outcome
          rcases outcome with ⟨following, continues, trace⟩ | ⟨ends, trace⟩
          · split at continues
            · obtain rfl := Option.some.inj continues
              rw [ih _ trace, ← List.drop_drop, List.take_append_drop]
            · cases continues
          · split at ends
            · cases ends
            · rename_i whole
              obtain ⟨rfl, _⟩ := (trace_done _ _ _).mp trace
              rw [List.take_of_length_le (by rw [List.length_drop]; omega)]
              exact List.append_nil _
        · have none : Int.toNat written = 0 := Int.toNat_eq_zero.mpr (Int.not_lt.mp progress)
          simp only [if_neg progress] at outcome
          rcases outcome with ⟨following, continues, trace⟩ | ⟨ends, trace⟩
          · split at continues
            · obtain rfl := Option.some.inj continues
              rw [ih _ trace, none]
              rfl
            · cases continues
          · obtain ⟨_, failed⟩ := (trace_done _ _ _).mp trace
            cases failed

def Throws (program : Routine Result) : Prop :=
  ∀ events result, Trace program events result → ∃ message, result = .thrown message

theorem throws_done (message : Bytes) : Throws (.done (.thrown message)) := fun _ _ trace =>
  ⟨message, ((trace_done _ _ _).mp trace).2.symm⟩

theorem throws_call (request : Call) (proceed : Reply request → Routine Result) (later : ∀ reply, Throws (proceed reply)) :
    Throws (.call request proceed) := by
  intro events result trace
  obtain ⟨reply, rest, rfl, answered⟩ := (trace_call _ _ _ _).mp trace
  exact later reply rest result answered

def readOutput (channel : Channel) : Routine Result := do
  let text ← drain (.channelRead channel 4096) ReadResult.awaited []
  let text ← drain (.channelReadStderr channel 4096) ReadResult.available text
  let _ ← ask (.channelClose channel)
  let _ ← ask (.channelFree channel)
  return createString text

-- The events of a command that was not run.
inductive CommandRefused (sessionId : Int) (command : Bytes) : List Exchange → Prop where
  | session : CommandRefused sessionId command
      [⟨.lock .session, ()⟩, ⟨.findSession sessionId .use, none⟩, ⟨.unlock .session, ()⟩]
  | channel (entry : KesshSession) (text : Bytes) : CommandRefused sessionId command
      [⟨.lock .session, ()⟩, ⟨.findSession sessionId .use, some entry⟩, ⟨.channelOpenSession entry.session, none⟩,
        ⟨.sessionLastError entry.session, text⟩, ⟨.unlock .session, ()⟩]
  | command (entry : KesshSession) (number : Nat) (text : Bytes) (rc freed : Int) (failed : rc ≠ 0) :
      CommandRefused sessionId command
        [⟨.lock .session, ()⟩, ⟨.findSession sessionId .use, some entry⟩,
          ⟨.channelOpenSession entry.session, some number⟩,
          ⟨.channelExec { session := entry.session, number } (cStr command), rc⟩, ⟨.sessionLastError entry.session, text⟩,
          ⟨.channelFree { session := entry.session, number }, freed⟩, ⟨.unlock .session, ()⟩]

theorem executeCommand_trace (sessionId : Int) (command : Bytes) (events : List Exchange) (result : Result)
    (trace : Trace (executeCommand sessionId command) events result) :
    (CommandRefused sessionId command events ∧ ∃ message, result = .thrown message) ∨
      ∃ entry number inner, events = ⟨.lock .session, ()⟩ :: ⟨.findSession sessionId .use, some entry⟩ ::
          ⟨.channelOpenSession entry.session, some number⟩ ::
          ⟨.channelExec { session := entry.session, number } (cStr command), (0 : Int)⟩ ::
          (inner ++ [⟨.unlock .session, ()⟩]) ∧
        Trace (readOutput { session := entry.session, number }) inner result := by
  obtain ⟨inner, rfl, body⟩ := withLock_trace _ _ _ _ trace
  obtain ⟨found, later, rfl, answered⟩ := (trace_call _ _ _ _).mp body
  cases found with
  | none =>
      obtain ⟨rfl, rfl⟩ := (trace_done _ _ _).mp answered
      exact .inl ⟨.session, _, rfl⟩
  | some entry =>
      obtain ⟨opened, after, rfl, running⟩ := (trace_call _ _ _ _).mp answered
      cases opened with
      | none =>
          obtain ⟨text, _, rfl, ended⟩ := (trace_call _ _ _ _).mp running
          obtain ⟨rfl, rfl⟩ := (trace_done _ _ _).mp ended
          exact .inl ⟨.channel entry text, _, rfl⟩
      | some number =>
          obtain ⟨rc, inner, rfl, executed⟩ := (trace_call _ _ _ _).mp running
          rw [Program.done_bind] at executed
          by_cases failed : rc ≠ (0 : Int)
          · rw [if_pos failed] at executed
            obtain ⟨text, _, rfl, freeing⟩ := (trace_call _ _ _ _).mp executed
            obtain ⟨freed, _, rfl, ended⟩ := (trace_call _ _ _ _).mp freeing
            obtain ⟨rfl, rfl⟩ := (trace_done _ _ _).mp ended
            exact .inl ⟨.command entry number text rc freed failed, _, rfl⟩
          · rw [if_neg failed] at executed
            obtain rfl := not_not.mp failed
            exact .inr ⟨entry, number, inner, rfl, executed⟩

theorem readOutput_trace (channel : Channel) (events : List Exchange) (result : Result)
    (trace : Trace (readOutput channel) events result) :
    ∃ (front errFront : List ReadResult) (last errLast : ReadResult) (closed freed : Int),
      events = (front ++ [last]).map (fun reply => ⟨.channelRead channel 4096, reply⟩) ++
        ((errFront ++ [errLast]).map (fun reply => ⟨.channelReadStderr channel 4096, reply⟩) ++
          [⟨.channelClose channel, closed⟩, ⟨.channelFree channel, freed⟩]) ∧
      ((∀ reply ∈ front, reply.awaited ≠ none) ∧ last.awaited = none) ∧
      ((∀ reply ∈ errFront, reply.available ≠ none) ∧ errLast.available = none) ∧
      result = createString ((front.flatMap fun reply => reply.awaited.getD []) ++
        errFront.flatMap fun reply => reply.available.getD []) := by
  obtain ⟨reading, others, text, rfl, read, executed⟩ := trace_bind _ _ _ _ trace
  obtain ⟨readingErr, closing, whole, rfl, readErr, finished⟩ := trace_bind _ _ _ _ executed
  obtain ⟨closed, _, rfl, freeing⟩ := (trace_call _ _ _ _).mp finished
  obtain ⟨freed, _, rfl, ended⟩ := (trace_call _ _ _ _).mp freeing
  obtain ⟨rfl, rfl⟩ := (trace_done _ _ _).mp ended
  obtain ⟨front, last, rfl, goes, ends, rfl⟩ := drain_last _ _ _ _ _ read
  obtain ⟨errFront, errLast, rfl, errGoes, errEnds, rfl⟩ := drain_last _ _ _ _ _ readErr
  exact ⟨front, errFront, last, errLast, closed, freed, rfl, ⟨goes, ends⟩, ⟨errGoes, errEnds⟩, rfl⟩

-- What both transfers do around their command.
def withCommand (sessionId : Int) (remotePath : Bytes) (line : Bytes → Bytes) (rest : Channel → Routine Result) :
    Routine Result :=
  withLock .session do
    match ← ask (.findSession sessionId .use) with
    | none => return .thrown (bytes "Session not found")
    | some entry =>
    match shellQuoteArg remotePath with
    | .error quoteError => return .thrown quoteError
    | .ok quotedPath =>
    match ← ask (.channelOpenSession entry.session) with
    | none => return .thrown (bytes "Failed to open channel")
    | some number => do
        let channel : Channel := { session := entry.session, number }
        if (← ask (.channelExec channel (cStr (line quotedPath)))) ≠ 0 then
          let _ ← ask (.channelFree channel)
          return .thrown (bytes "Failed to execute cat command")
        rest channel

def readText (channel : Channel) : Routine Result := do
  let text ← drain (.channelRead channel 8192) ReadResult.awaited []
  let _ ← ask (.channelClose channel)
  let _ ← ask (.channelFree channel)
  return createString text

def writeContent (content : Bytes) (channel : Channel) : Routine Result := do
  match ← writeAll channel content with
  | none => do
      let _ ← ask (.channelFree channel)
      return .thrown (bytes "Failed to write file content")
  | some totalWritten => do
      let _ ← ask (.channelSendEof channel)
      let _ ← ask (.channelClose channel)
      let _ ← ask (.channelFree channel)
      return .int32 (Int.bmod totalWritten 0x100000000)

theorem downloadFile_eq (sessionId : Int) (remotePath : Bytes) :
    downloadFile sessionId remotePath = withCommand sessionId remotePath downloadCommand readText := rfl

theorem uploadFile_eq (sessionId : Int) (remotePath content : Bytes) :
    uploadFile sessionId remotePath content = withCommand sessionId remotePath uploadCommand (writeContent content) := rfl

inductive TransferRefused (sessionId : Int) (remotePath : Bytes) (line : Bytes → Bytes) : List Exchange → Prop where
  | session : TransferRefused sessionId remotePath line
      [⟨.lock .session, ()⟩, ⟨.findSession sessionId .use, none⟩, ⟨.unlock .session, ()⟩]
  | path (entry : KesshSession) (error : Bytes) (refused : shellQuoteArg remotePath = .error error) :
      TransferRefused sessionId remotePath line
        [⟨.lock .session, ()⟩, ⟨.findSession sessionId .use, some entry⟩, ⟨.unlock .session, ()⟩]
  | channel (entry : KesshSession) : TransferRefused sessionId remotePath line
      [⟨.lock .session, ()⟩, ⟨.findSession sessionId .use, some entry⟩, ⟨.channelOpenSession entry.session, none⟩,
        ⟨.unlock .session, ()⟩]
  | command (entry : KesshSession) (number : Nat) (quotedPath : Bytes) (valid : shellQuoteArg remotePath = .ok quotedPath)
      (rc freed : Int) (failed : rc ≠ 0) : TransferRefused sessionId remotePath line
        [⟨.lock .session, ()⟩, ⟨.findSession sessionId .use, some entry⟩,
          ⟨.channelOpenSession entry.session, some number⟩,
          ⟨.channelExec { session := entry.session, number } (cStr (line quotedPath)), rc⟩,
          ⟨.channelFree { session := entry.session, number }, freed⟩, ⟨.unlock .session, ()⟩]

theorem withCommand_trace (sessionId : Int) (remotePath : Bytes) (line : Bytes → Bytes) (rest : Channel → Routine Result)
    (events : List Exchange) (result : Result)
    (trace : Trace (withCommand sessionId remotePath line rest) events result) :
    (TransferRefused sessionId remotePath line events ∧ ∃ message, result = .thrown message) ∨
      ∃ entry number quotedPath inner, shellQuoteArg remotePath = .ok quotedPath ∧
        events = ⟨.lock .session, ()⟩ :: ⟨.findSession sessionId .use, some entry⟩ ::
          ⟨.channelOpenSession entry.session, some number⟩ ::
          ⟨.channelExec { session := entry.session, number } (cStr (line quotedPath)), (0 : Int)⟩ ::
          (inner ++ [⟨.unlock .session, ()⟩]) ∧
        Trace (rest { session := entry.session, number }) inner result := by
  obtain ⟨inner, rfl, body⟩ := withLock_trace _ _ _ _ trace
  obtain ⟨found, later, rfl, answered⟩ := (trace_call _ _ _ _).mp body
  cases found with
  | none =>
      obtain ⟨rfl, rfl⟩ := (trace_done _ _ _).mp answered
      exact .inl ⟨.session, _, rfl⟩
  | some entry =>
      rw [Program.done_bind] at answered
      cases quoted : shellQuoteArg remotePath with
      | error quoteError =>
          simp only [quoted] at answered
          obtain ⟨rfl, rfl⟩ := (trace_done _ _ _).mp answered
          exact .inl ⟨.path entry quoteError quoted, _, rfl⟩
      | ok quotedPath =>
          simp only [quoted] at answered
          obtain ⟨opened, after, rfl, running⟩ := (trace_call _ _ _ _).mp answered
          cases opened with
          | none =>
              obtain ⟨rfl, rfl⟩ := (trace_done _ _ _).mp running
              exact .inl ⟨.channel entry, _, rfl⟩
          | some number =>
              obtain ⟨rc, inner, rfl, executed⟩ := (trace_call _ _ _ _).mp running
              rw [Program.done_bind] at executed
              by_cases failed : rc ≠ (0 : Int)
              · rw [if_pos failed] at executed
                obtain ⟨freed, _, rfl, ended⟩ := (trace_call _ _ _ _).mp executed
                obtain ⟨rfl, rfl⟩ := (trace_done _ _ _).mp ended
                exact .inl ⟨.command entry number quotedPath quoted rc freed failed, _, rfl⟩
              · rw [if_neg failed] at executed
                obtain rfl := not_not.mp failed
                exact .inr ⟨entry, number, quotedPath, inner, rfl, rfl, executed⟩

theorem readText_trace (channel : Channel) (events : List Exchange) (result : Result)
    (trace : Trace (readText channel) events result) :
    ∃ (front : List ReadResult) (last : ReadResult) (closed freed : Int),
      events = (front ++ [last]).map (fun reply => ⟨.channelRead channel 8192, reply⟩) ++
        [⟨.channelClose channel, closed⟩, ⟨.channelFree channel, freed⟩] ∧
      (∀ reply ∈ front, reply.awaited ≠ none) ∧ last.awaited = none ∧
      result = createString (front.flatMap fun reply => reply.awaited.getD []) := by
  obtain ⟨reading, closing, text, rfl, read, finished⟩ := trace_bind _ _ _ _ trace
  obtain ⟨closed, _, rfl, freeing⟩ := (trace_call _ _ _ _).mp finished
  obtain ⟨freed, _, rfl, ended⟩ := (trace_call _ _ _ _).mp freeing
  obtain ⟨rfl, rfl⟩ := (trace_done _ _ _).mp ended
  obtain ⟨front, last, rfl, goes, ends, rfl⟩ := drain_last _ _ _ _ _ read
  exact ⟨front, last, closed, freed, rfl, goes, ends, rfl⟩

-- The command lines that are handed to a shell.
def command (event : Exchange) : Option Bytes :=
  match event with
  | ⟨.channelExec _ line, _⟩ => some line
  | _ => none

def commands (events : List Exchange) : List Bytes := events.filterMap command

-- Whether the operation got a channel for its command.
def opening (event : Exchange) : Bool :=
  match event with
  | ⟨.channelOpenSession _, some _⟩ => true
  | _ => false

def opened (events : List Exchange) : Bool := events.any opening

@[simp] theorem commands_cons (event : Exchange) (rest : List Exchange) :
    commands (event :: rest) = (command event).toList ++ commands rest := by
  cases same : command event <;> simp [commands, same]

@[simp] theorem commands_append (left right : List Exchange) : commands (left ++ right) = commands left ++ commands right :=
  List.filterMap_append

@[simp] theorem opened_cons (event : Exchange) (rest : List Exchange) :
    opened (event :: rest) = (opening event || opened rest) := List.any_cons

@[simp] theorem opened_append (left right : List Exchange) : opened (left ++ right) = (opened left || opened right) :=
  List.any_append

@[simp] def Call.quiet : Call → Bool
  | .channelExec _ _ => false
  | .channelOpenSession _ => false
  | _ => true

def Quiet {α : Type} (program : Routine α) : Prop := Makes (fun call => call.quiet = true) program

theorem quiet_event (event : Exchange) (quiet : event.request.quiet = true) :
    command event = none ∧ opening event = false := by
  obtain ⟨request, reply⟩ := event
  cases request <;> first | exact ⟨rfl, rfl⟩ | cases quiet

theorem quiet_commands {α : Type} (program : Routine α) (quiet : Quiet program) (events : List Exchange) (result : α)
    (trace : Trace program events result) : commands events = [] ∧ opened events = false := by
  have each := makes_trace _ program events result quiet trace
  refine ⟨List.filterMap_eq_nil_iff.mpr fun event member => (quiet_event event (each event member)).1, ?_⟩
  exact List.any_eq_false.mpr fun event member => by simp [(quiet_event event (each event member)).2]

def Commands (events : List Exchange) (line : Bytes) : Prop := commands events = if opened events then [line] else []

theorem running_commands (sessionId : Int) (entry : KesshSession) (number : Nat) (line : Bytes) (program : Routine Result)
    (quiet : Quiet program) (inner : List Exchange) (result : Result) (trace : Trace program inner result) :
    Commands (⟨.lock .session, ()⟩ :: ⟨.findSession sessionId .use, some entry⟩ ::
      ⟨.channelOpenSession entry.session, some number⟩ ::
      ⟨.channelExec { session := entry.session, number } line, (0 : Int)⟩ :: (inner ++ [⟨.unlock .session, ()⟩])) line := by
  obtain ⟨noCommands, _⟩ := quiet_commands program quiet inner result trace
  simp only [Commands, commands_cons, opened_cons, commands_append, noCommands]
  rfl

theorem makes_pure {α : Type} (allowed : Call → Prop) (value : α) : Makes allowed (pure value : Routine α) :=
  makes_done allowed value

theorem makes_ask {α : Type} (allowed : Call → Prop) (request : Call) (rest : Reply request → Routine α)
    (here : allowed request) (later : ∀ reply, Makes allowed (rest reply)) : Makes allowed (ask request >>= rest) :=
  (makes_call allowed request rest).mpr ⟨here, later⟩

theorem makes_seq {α β : Type} (allowed : Call → Prop) (program : Routine α) (rest : α → Routine β)
    (first : Makes allowed program) (later : ∀ value, Makes allowed (rest value)) : Makes allowed (program >>= rest) :=
  makes_bind allowed program rest first later

theorem makes_lock {α : Type} (allowed : Call → Prop) (mutex : Mutex) (scope : Routine α)
    (taken : allowed (.lock mutex)) (left : allowed (.unlock mutex)) (body : Makes allowed scope) :
    Makes allowed (withLock mutex scope) :=
  makes_ask _ _ _ taken fun _ => makes_seq _ _ _ body fun _ => makes_ask _ _ _ left fun _ => makes_pure _ _

theorem makes_ite {α : Type} (allowed : Call → Prop) (condition : Prop) [Decidable condition] (yes no : Routine α)
    (first : Makes allowed yes) (second : Makes allowed no) : Makes allowed (if condition then yes else no) := by
  split
  · exact first
  · exact second

theorem makes_drain (allowed : Call → Prop) (request : Call) (data : Reply request → Option Bytes) (text : Bytes)
    (here : allowed request) : Makes allowed (drain request data text) :=
  fun _ => ⟨here, fun _ _ => ⟨rfl, fun _ => trivial⟩⟩

theorem makes_writeAll (allowed : Call → Prop) (channel : Channel) (content : Bytes)
    (here : ∀ buffer, allowed (.channelWrite channel buffer)) : Makes allowed (writeAll channel content) := by
  unfold writeAll
  split
  · trivial
  · exact fun _ => ⟨here _, fun _ _ => ⟨rfl, fun _ => trivial⟩⟩

theorem executeCommand_commands (sessionId : Int) (line : Bytes) (events : List Exchange) (result : Result)
    (trace : Trace (executeCommand sessionId line) events result) : Commands events (cStr line) := by
  rcases executeCommand_trace _ _ _ _ trace with ⟨refused, _⟩ | ⟨entry, number, inner, rfl, reading⟩
  · cases refused <;> rfl
  · refine running_commands sessionId entry number _ (readOutput _) ?_ inner result reading
    refine makes_bind _ _ _ (makes_drain _ _ _ _ rfl) fun text => makes_bind _ _ _ (makes_drain _ _ _ _ rfl) fun text => ?_
    simp [ask]

theorem withCommand_commands (sessionId : Int) (remotePath quotedPath : Bytes) (line : Bytes → Bytes)
    (rest : Channel → Routine Result) (quiet : ∀ channel, Quiet (rest channel))
    (valid : shellQuoteArg remotePath = .ok quotedPath) (events : List Exchange) (result : Result)
    (trace : Trace (withCommand sessionId remotePath line rest) events result) :
    Commands events (cStr (line quotedPath)) := by
  rcases withCommand_trace _ _ _ _ _ _ trace with ⟨refused, _⟩ | ⟨entry, number, other, inner, same, rfl, running⟩
  · cases refused with
    | session => rfl
    | path entry error refused => cases valid.symm.trans refused
    | channel entry => rfl
    | command entry number other same rc freed failed =>
        obtain rfl := Except.ok.inj (valid.symm.trans same)
        rfl
  · obtain rfl := Except.ok.inj (valid.symm.trans same)
    exact running_commands sessionId entry number _ _ (quiet _) inner result running

theorem downloadFile_commands (sessionId : Int) (remotePath quotedPath : Bytes)
    (valid : shellQuoteArg remotePath = .ok quotedPath) (events : List Exchange) (result : Result)
    (trace : Trace (downloadFile sessionId remotePath) events result) :
    Commands events (cStr (downloadCommand quotedPath)) := by
  rw [downloadFile_eq] at trace
  refine withCommand_commands sessionId remotePath quotedPath _ _ (fun channel => ?_) valid events result trace
  refine makes_bind _ _ _ (makes_drain _ _ _ _ rfl) fun text => ?_
  simp [ask]

theorem uploadFile_commands (sessionId : Int) (remotePath quotedPath content : Bytes)
    (valid : shellQuoteArg remotePath = .ok quotedPath) (events : List Exchange) (result : Result)
    (trace : Trace (uploadFile sessionId remotePath content) events result) :
    Commands events (cStr (uploadCommand quotedPath)) := by
  rw [uploadFile_eq] at trace
  refine withCommand_commands sessionId remotePath quotedPath _ _ (fun channel => ?_) valid events result trace
  refine makes_bind _ _ _ (makes_writeAll _ _ content fun _ => rfl) fun outcome => ?_
  cases outcome <;> simp [ask]

theorem withCommand_quiet (sessionId : Int) (remotePath error : Bytes) (line : Bytes → Bytes)
    (rest : Channel → Routine Result) (refused : shellQuoteArg remotePath = .error error) :
    Quiet (withCommand sessionId remotePath line rest) := by
  unfold withCommand
  rw [refused]
  refine makes_lock _ _ _ rfl rfl (makes_ask _ _ _ rfl fun found => ?_)
  cases found <;> exact makes_pure _ _

end Kessh.Native
