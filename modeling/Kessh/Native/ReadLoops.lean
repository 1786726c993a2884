import Kessh.Native.Traces

set_option autoImplicit false

-- What ExecuteCommand and DownloadFile make of the results of their reads.
namespace Kessh.Native

open Utf8 (Bytes)
open Interaction

def outReply (event : Exchange) : Option ReadResult :=
  match event with
  | ⟨.channelRead _ _, reply⟩ => some reply
  | _ => none

def errReply (event : Exchange) : Option ReadResult :=
  match event with
  | ⟨.channelReadStderr _ _, reply⟩ => some reply
  | _ => none

def outReplies (events : List Exchange) : List ReadResult := events.filterMap outReply

def errReplies (events : List Exchange) : List ReadResult := events.filterMap errReply

-- A negative result other than EAGAIN.
def ReadResult.failed : ReadResult → Bool
  | .error code => decide (code ≠ LIBSSH2_ERROR_EAGAIN)
  | _ => false

/-- The results of the reads of a stream up to its end of file, and all the bytes of it. -/
inductive UpToEof : List ReadResult → Bytes → Prop where
  | eof : UpToEof [.eof] []
  | bytes (data : Bytes) (rest : List ReadResult) (more : Bytes) (later : UpToEof rest more) :
      UpToEof (.bytes data :: rest) (data ++ more)
  | again (rest : List ReadResult) (more : Bytes) (later : UpToEof rest more) :
      UpToEof (.error LIBSSH2_ERROR_EAGAIN :: rest) more

def ChannelsFreed (events : List Exchange) : Prop :=
  ∀ session number, (⟨.channelOpenSession session, some number⟩ : Exchange) ∈ events →
    ∃ rc, (⟨.channelFree { session, number }, rc⟩ : Exchange) ∈ events

-- No cut stream passes for a whole one; the delivered bytes are the command's output.
structure Complete (delivered : Bytes → Prop) (events : List Exchange) (result : Result) : Prop where
  returned : (∀ message, result ≠ .thrown message) →
    (∀ reply ∈ outReplies events ++ errReplies events, reply.failed = false) ∧
      ∃ output, delivered output ∧ result = createString output
  thrown : ∀ message, result = .thrown message → ChannelsFreed events

theorem upToEof_awaited (front : List ReadResult) (awaited : ∀ reply ∈ front, reply.awaited ≠ none) :
    UpToEof (front ++ [.eof]) (front.flatMap fun reply => reply.awaited.getD []) := by
  induction front with
  | nil => exact .eof
  | cons reply rest ih =>
      obtain ⟨here, others⟩ := List.forall_mem_cons.mp awaited
      cases reply with
      | bytes data => exact .bytes data _ _ (ih others)
      | eof => exact absurd rfl here
      | error code =>
          by_cases eagain : code = LIBSSH2_ERROR_EAGAIN
          · subst eagain
            exact .again _ _ (ih others)
          · exact absurd (if_neg eagain) here

theorem upToEof_front (replies : List ReadResult) (text : Bytes) (whole : UpToEof replies text) :
    ∃ front, replies = front ++ [.eof] ∧ (∀ reply ∈ front, reply.awaited ≠ none) ∧
      text = front.flatMap fun reply => reply.awaited.getD [] := by
  induction whole with
  | eof => exact ⟨[], rfl, by simp, rfl⟩
  | bytes data rest more later ih =>
      obtain ⟨front, rfl, awaited, rfl⟩ := ih
      exact ⟨.bytes data :: front, rfl, List.forall_mem_cons.mpr ⟨Option.some_ne_none _, awaited⟩, rfl⟩
  | again rest more later ih =>
      obtain ⟨front, rfl, awaited, rfl⟩ := ih
      exact ⟨.error LIBSSH2_ERROR_EAGAIN :: front, rfl, List.forall_mem_cons.mpr ⟨Option.some_ne_none _, awaited⟩, rfl⟩

theorem upToEof_last (front : List ReadResult) (last : ReadResult) (text : Bytes)
    (whole : UpToEof (front ++ [last]) text) : last = .eof ∧ text = front.flatMap fun reply => reply.awaited.getD [] := by
  obtain ⟨other, same, _, rfl⟩ := upToEof_front _ text whole
  obtain ⟨rfl, rfl⟩ := List.append_singleton_inj.mp same
  exact ⟨rfl, rfl⟩

theorem awaited_failed (reply : ReadResult) (awaited : reply.awaited ≠ none) : reply.failed = false := by
  cases reply with
  | bytes data => rfl
  | eof => rfl
  | error code =>
      by_cases eagain : code = LIBSSH2_ERROR_EAGAIN
      · exact decide_eq_false (not_not.mpr eagain)
      · exact absurd (if_neg eagain) awaited

theorem failed_eof (reply : ReadResult) (ends : reply.awaited = none) (good : reply.failed = false) : reply = .eof := by
  cases reply with
  | bytes data => cases ends
  | eof => rfl
  | error code =>
      by_cases eagain : code = LIBSSH2_ERROR_EAGAIN
      · rw [ReadResult.awaited, if_pos eagain] at ends
        cases ends
      · exact absurd good (by simp [ReadResult.failed, eagain])

-- An operation that throws has read nothing, and keeps no channel.
structure Quits (events : List Exchange) : Prop where
  silent : outReplies events ++ errReplies events = []
  freed : ChannelsFreed events

theorem executeCommand_quits (sessionId : Int) (command : Bytes) (events : List Exchange) (message : Bytes)
    (trace : Trace (executeCommand sessionId command) events (.thrown message)) : Quits events := by
  rcases executeCommand_trace _ _ _ _ trace with ⟨refused, _⟩ | ⟨entry, number, inner, rfl, reading⟩
  · cases refused with
    | session => exact ⟨rfl, by simp [ChannelsFreed]⟩
    | channel entry text => exact ⟨rfl, by simp [ChannelsFreed]⟩
    | command entry number text rc freed failed =>
        refine ⟨rfl, fun session other member => ⟨freed, ?_⟩⟩
        simpa using member
  · obtain ⟨_, _, _, _, _, _, _, _, _, ⟨⟩⟩ := readOutput_trace _ _ _ reading

theorem downloadFile_quits (sessionId : Int) (remotePath : Bytes) (events : List Exchange) (message : Bytes)
    (trace : Trace (downloadFile sessionId remotePath) events (.thrown message)) : Quits events := by
  rw [downloadFile_eq] at trace
  rcases withCommand_trace _ _ _ _ _ _ trace with ⟨refused, _⟩ | ⟨entry, number, quotedPath, inner, _, rfl, reading⟩
  · cases refused with
    | session => exact ⟨rfl, by simp [ChannelsFreed]⟩
    | path entry error refused => exact ⟨rfl, by simp [ChannelsFreed]⟩
    | channel entry => exact ⟨rfl, by simp [ChannelsFreed]⟩
    | command entry number quotedPath valid rc freed failed =>
        refine ⟨rfl, fun session other member => ⟨freed, ?_⟩⟩
        simpa using member
  · obtain ⟨_, _, _, _, _, _, _, ⟨⟩⟩ := readText_trace _ _ _ reading

-- The results of a loop of reads, with the bytes it kept.
def Drained (data : ReadResult → Option Bytes) (replies : List ReadResult) (text : Bytes) : Prop :=
  ∃ front last, replies = front ++ [last] ∧ (∀ reply ∈ front, data reply ≠ none) ∧ data last = none ∧
    text = front.flatMap fun reply => (data reply).getD []

theorem drained_upToEof (replies : List ReadResult) (text output : Bytes)
    (drained : Drained ReadResult.awaited replies text) :
    UpToEof replies output ↔ (∀ reply ∈ replies, reply.failed = false) ∧ output = text := by
  obtain ⟨front, last, rfl, awaited, ends, rfl⟩ := drained
  constructor
  · intro whole
    obtain ⟨rfl, rfl⟩ := upToEof_last front last output whole
    refine ⟨fun reply member => ?_, rfl⟩
    rcases List.mem_append.mp member with before | here
    · exact awaited_failed reply (awaited reply before)
    · rw [List.mem_singleton.mp here]
      rfl
  · rintro ⟨good, rfl⟩
    obtain rfl := failed_eof last ends (good last (by simp))
    exact upToEof_awaited front awaited

theorem drained_available (replies : List ReadResult) (text output : Bytes)
    (drained : Drained ReadResult.available replies text) :
    UpToEof replies output ↔ (∀ code, .error code ∉ replies) ∧ output = text := by
  obtain ⟨front, last, rfl, available, ends, rfl⟩ := drained
  have chunk : ∀ reply ∈ front, ∃ data, reply = .bytes data := by
    intro reply member
    cases reply with
    | bytes data => exact ⟨data, rfl⟩
    | eof => exact absurd rfl (available _ member)
    | error code => exact absurd rfl (available _ member)
  have same : front.flatMap (fun reply => reply.available.getD []) = front.flatMap fun reply => reply.awaited.getD [] :=
    List.flatMap_congr fun reply _ => (awaited_available reply).symm
  rw [same]
  constructor
  · intro whole
    obtain ⟨rfl, rfl⟩ := upToEof_last front last output whole
    refine ⟨fun code member => ?_, rfl⟩
    rcases List.mem_append.mp member with before | here
    · obtain ⟨data, ⟨⟩⟩ := chunk _ before
    · cases List.mem_singleton.mp here
  · rintro ⟨good, rfl⟩
    have awaited : ∀ reply ∈ front, reply.awaited ≠ none := by
      intro reply member
      obtain ⟨data, rfl⟩ := chunk reply member
      exact Option.some_ne_none data
    cases last with
    | bytes data => cases ends
    | eof => exact upToEof_awaited front awaited
    | error code => exact absurd (by simp) (good code)

theorem out_reads (channel : Channel) (size : Nat) (replies : List ReadResult) :
    outReplies (replies.map fun reply => ⟨.channelRead channel size, reply⟩) = replies ∧
      errReplies (replies.map fun reply => ⟨.channelRead channel size, reply⟩) = [] := by
  simp [outReplies, errReplies, List.filterMap_map, Function.comp_def, outReply, errReply]

theorem err_reads (channel : Channel) (size : Nat) (replies : List ReadResult) :
    outReplies (replies.map fun reply => ⟨.channelReadStderr channel size, reply⟩) = [] ∧
      errReplies (replies.map fun reply => ⟨.channelReadStderr channel size, reply⟩) = replies := by
  simp [outReplies, errReplies, List.filterMap_map, Function.comp_def, outReply, errReply]

@[simp] theorem outReplies_cons (event : Exchange) (rest : List Exchange) :
    outReplies (event :: rest) = (outReply event).toList ++ outReplies rest := by
  cases same : outReply event <;> simp [outReplies, same]

@[simp] theorem errReplies_cons (event : Exchange) (rest : List Exchange) :
    errReplies (event :: rest) = (errReply event).toList ++ errReplies rest := by
  cases same : errReply event <;> simp [errReplies, same]

@[simp] theorem outReplies_append (left right : List Exchange) :
    outReplies (left ++ right) = outReplies left ++ outReplies right := List.filterMap_append

@[simp] theorem errReplies_append (left right : List Exchange) :
    errReplies (left ++ right) = errReplies left ++ errReplies right := List.filterMap_append

theorem executeCommand_reads (sessionId : Int) (command : Bytes) (events : List Exchange) (result : Result)
    (returns : ∀ message, result ≠ .thrown message) (trace : Trace (executeCommand sessionId command) events result) :
    ∃ out err, Drained ReadResult.awaited (outReplies events) out ∧ Drained ReadResult.available (errReplies events) err ∧
      result = createString (out ++ err) := by
  rcases executeCommand_trace _ _ _ _ trace with ⟨_, message, thrown⟩ | ⟨entry, number, inner, rfl, reading⟩
  · exact absurd thrown (returns message)
  obtain ⟨front, errFront, last, errLast, closed, freed, rfl, ⟨goes, ends⟩, ⟨errGoes, errEnds⟩, rfl⟩ :=
    readOutput_trace _ _ _ reading
  obtain ⟨out, noErr⟩ := out_reads { session := entry.session, number } 4096 (front ++ [last])
  obtain ⟨noOut, err⟩ := err_reads { session := entry.session, number } 4096 (errFront ++ [errLast])
  refine ⟨_, _, ⟨front, last, ?_, goes, ends, rfl⟩, ⟨errFront, errLast, ?_, errGoes, errEnds, rfl⟩, rfl⟩
  · simp only [outReplies_cons, outReplies_append, out, noOut]
    simp [outReplies, outReply]
  · simp only [errReplies_cons, errReplies_append, noErr, err]
    simp [errReplies, errReply]

theorem downloadFile_reads (sessionId : Int) (remotePath : Bytes) (events : List Exchange) (result : Result)
    (returns : ∀ message, result ≠ .thrown message) (trace : Trace (downloadFile sessionId remotePath) events result) :
    ∃ out, Drained ReadResult.awaited (outReplies events) out ∧ errReplies events = [] ∧ result = createString out := by
  rw [downloadFile_eq] at trace
  rcases withCommand_trace _ _ _ _ _ _ trace with
    ⟨_, message, thrown⟩ | ⟨entry, number, quotedPath, inner, _, rfl, reading⟩
  · exact absurd thrown (returns message)
  obtain ⟨front, last, closed, freed, rfl, goes, ends, rfl⟩ := readText_trace _ _ _ reading
  obtain ⟨out, noErr⟩ := out_reads { session := entry.session, number } 8192 (front ++ [last])
  refine ⟨_, ⟨front, last, ?_, goes, ends, rfl⟩, ?_, rfl⟩
  · simp only [outReplies_cons, outReplies_append, out]
    simp [outReplies, outReply]
  · simp only [errReplies_cons, errReplies_append, noErr]
    simp [errReplies, errReply]

-- All bytes of the streams that the command wrote.
def CommandOutput (events : List Exchange) (output : Bytes) : Prop :=
  ∃ out err, UpToEof (outReplies events) out ∧ UpToEof (errReplies events) err ∧ output = out ++ err

theorem complete_thrown (delivered : Bytes → Prop) (events : List Exchange) (message : Bytes) (quits : Quits events) :
    Complete delivered events (.thrown message) where
  returned := fun returns => absurd rfl (returns message)
  thrown := fun _ _ => quits.freed

theorem executeCommand_complete (sessionId : Int) (command : Bytes) (events : List Exchange) (result : Result)
    (trace : Trace (executeCommand sessionId command) events result) :
    Complete (CommandOutput events) events result ↔
      (∀ reply ∈ outReplies events, reply.failed = false) ∧ ∀ code, .error code ∉ errReplies events := by
  by_cases thrown : ∃ message, result = .thrown message
  · obtain ⟨message, rfl⟩ := thrown
    have quits := executeCommand_quits sessionId command events message trace
    obtain ⟨out, err⟩ := List.append_eq_nil_iff.mp quits.silent
    rw [out, err]
    exact ⟨fun _ => by simp, fun _ => complete_thrown _ events message quits⟩
  · rw [not_exists] at thrown
    obtain ⟨out, err, outDrained, errDrained, rfl⟩ := executeCommand_reads sessionId command events result thrown trace
    constructor
    · intro complete
      obtain ⟨good, _, ⟨out', err', wholeOut, wholeErr, _⟩, _⟩ := complete.returned thrown
      exact ⟨((drained_upToEof _ _ out' outDrained).mp wholeOut).1, ((drained_available _ _ err' errDrained).mp wholeErr).1⟩
    · rintro ⟨good, noError⟩
      have wholeOut := (drained_upToEof _ _ out outDrained).mpr ⟨good, rfl⟩
      have wholeErr := (drained_available _ _ err errDrained).mpr ⟨noError, rfl⟩
      refine ⟨fun _ => ⟨fun reply member => ?_, _, ⟨out, err, wholeOut, wholeErr, rfl⟩, rfl⟩, ?_⟩
      · rcases List.mem_append.mp member with fromOut | fromErr
        · exact good reply fromOut
        · cases reply with
          | bytes data => rfl
          | eof => rfl
          | error code => exact absurd fromErr (noError code)
      · exact fun message same => absurd same (thrown message)

theorem downloadFile_complete (sessionId : Int) (remotePath : Bytes) (events : List Exchange) (result : Result)
    (trace : Trace (downloadFile sessionId remotePath) events result) :
    Complete (UpToEof (outReplies events)) events result ↔ ∀ reply ∈ outReplies events, reply.failed = false := by
  by_cases thrown : ∃ message, result = .thrown message
  · obtain ⟨message, rfl⟩ := thrown
    have quits := downloadFile_quits sessionId remotePath events message trace
    rw [(List.append_eq_nil_iff.mp quits.silent).1]
    exact ⟨fun _ => by simp, fun _ => complete_thrown _ events message quits⟩
  · rw [not_exists] at thrown
    obtain ⟨out, drained, noErr, rfl⟩ := downloadFile_reads sessionId remotePath events result thrown trace
    constructor
    · intro complete
      obtain ⟨_, output, whole, _⟩ := complete.returned thrown
      exact ((drained_upToEof _ _ output drained).mp whole).1
    · intro good
      refine ⟨fun _ => ⟨?_, out, (drained_upToEof _ _ out drained).mpr ⟨good, rfl⟩, rfl⟩, ?_⟩
      · rw [noErr, List.append_nil]
        exact good
      · exact fun message same => absurd same (thrown message)

/-- A cut stream is not reported as a whole one exactly when no read fails and, for a command,
no read of its error output would block. -/
theorem output_complete (sessionId : Int) (events : List Exchange) (result : Result) :
    (∀ command, Trace (executeCommand sessionId command) events result →
      (Complete (CommandOutput events) events result ↔
        (∀ reply ∈ outReplies events, reply.failed = false) ∧ ∀ code, .error code ∉ errReplies events)) ∧
    (∀ remotePath, Trace (downloadFile sessionId remotePath) events result →
      (Complete (UpToEof (outReplies events)) events result ↔ ∀ reply ∈ outReplies events, reply.failed = false)) :=
  ⟨fun command => executeCommand_complete sessionId command events result,
    fun remotePath => downloadFile_complete sessionId remotePath events result⟩

def readEvents (last : ReadResult) : List Exchange :=
  [⟨.lock .session, ()⟩, ⟨.findSession 1 .use, some (.opened 0 0 0)⟩, ⟨.channelOpenSession 0, some 1⟩,
    ⟨.channelExec ⟨0, 1⟩ (bytes "cat -- 'f' 2>&1"), (0 : Int)⟩, ⟨.channelRead ⟨0, 1⟩ 8192, .error LIBSSH2_ERROR_EAGAIN⟩,
    ⟨.channelRead ⟨0, 1⟩ 8192, .bytes (bytes "ab")⟩, ⟨.channelRead ⟨0, 1⟩ 8192, last⟩, ⟨.channelClose ⟨0, 1⟩, (0 : Int)⟩,
    ⟨.channelFree ⟨0, 1⟩, (0 : Int)⟩, ⟨.unlock .session, ()⟩]

theorem output_complete_short :
    Complete (UpToEof (outReplies (readEvents .eof))) (readEvents .eof) (createString (bytes "ab")) :=
  ((output_complete 1 (readEvents .eof) (createString (bytes "ab"))).2 (bytes "f") rfl).mpr (by decide)

-- The connection breaks after two bytes, and they are the whole file for the caller.
theorem broken_read_returned :
    Trace (downloadFile 1 (bytes "f")) (readEvents (.error (-43))) (createString (bytes "ab")) ∧
      ¬ Complete (UpToEof (outReplies (readEvents (.error (-43))))) (readEvents (.error (-43)))
        (createString (bytes "ab")) := by
  refine ⟨rfl, fun complete => ?_⟩
  have good := (complete.returned (by simp [createString])).1
  exact absurd good (by decide)

end Kessh.Native
