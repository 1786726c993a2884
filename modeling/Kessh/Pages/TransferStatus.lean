import Kessh.Native.RemotePaths
import Kessh.Pages.ScpTransfers

set_option autoImplicit false

-- What a transfer reports, and how its command ended on the remote side.
namespace Kessh.TransferStatus

open Ecma (JsString js utf8)
open Utf8 (Bytes)
open Interaction
open Native (Routine Exchange Result arrived)
open RemotePaths (hasControl)

inductive OutputStream where
  | stdout
  | stderr
deriving DecidableEq, Repr

-- A run of a remote command: what it wrote, in order, and its exit status.
structure RemoteRun where
  writes : List (OutputStream × Bytes)
  status : Nat
deriving Repr

def RemoteRun.output (run : RemoteRun) (stream : OutputStream) : Bytes :=
  (run.writes.filter fun write => write.1 = stream).flatMap Prod.snd

-- 2>&1: both streams are one.
def RemoteRun.merged (run : RemoteRun) : Bytes := run.writes.flatMap Prod.snd

theorem merged_length (writes : List (OutputStream × Bytes)) (status : Nat) :
    (RemoteRun.merged ⟨writes, status⟩).length =
      (RemoteRun.output ⟨writes, status⟩ .stdout).length + (RemoteRun.output ⟨writes, status⟩ .stderr).length := by
  induction writes with
  | nil => rfl
  | cons write rest ih =>
      obtain ⟨stream, data⟩ := write
      simp only [RemoteRun.merged, RemoteRun.output] at ih ⊢
      cases stream
      · simp [ih]
        omega
      · simp [ih]
        omega

theorem merged_silent (writes : List (OutputStream × Bytes)) (status : Nat)
    (silent : RemoteRun.output ⟨writes, status⟩ .stderr = []) :
    RemoteRun.merged ⟨writes, status⟩ = RemoteRun.output ⟨writes, status⟩ .stdout := by
  induction writes with
  | nil => rfl
  | cons write rest ih =>
      obtain ⟨stream, data⟩ := write
      simp only [RemoteRun.merged, RemoteRun.output] at ih silent ⊢
      cases stream with
      | stdout =>
          rw [List.filter_cons_of_neg (by simp)] at silent
          rw [List.filter_cons_of_pos (by simp), List.flatMap_cons, List.flatMap_cons, ih silent]
      | stderr =>
          rw [List.filter_cons_of_pos (by simp), List.flatMap_cons, List.append_eq_nil_iff] at silent
          rw [List.filter_cons_of_neg (by simp), List.flatMap_cons, silent.1, List.nil_append, ih silent.2]

theorem merged_stdout (run : RemoteRun) : run.merged = run.output .stdout ↔ run.output .stderr = [] := by
  obtain ⟨writes, status⟩ := run
  refine ⟨fun same => ?_, merged_silent writes status⟩
  have length := merged_length writes status
  rw [same] at length
  exact List.length_eq_zero_iff.mp (by omega)

-- The reply that ends a transfer before its command does its work, or stops an upload.
def refuses (event : Exchange) : Bool :=
  match event with
  | ⟨.findSession _ _, none⟩ => true
  | ⟨.channelOpenSession _, none⟩ => true
  | ⟨.channelExec _ _, rc⟩ => decide (rc ≠ (0 : Int))
  | ⟨.channelWrite _ _, written⟩ => decide ((written : Int) ≤ 0 ∧ written ≠ Native.LIBSSH2_ERROR_EAGAIN)
  | _ => false

def Refused (path : JsString) (events : List Exchange) : Prop := hasControl path = true ∨ events.any refuses = true

theorem transfer_refused (sessionId : Int) (path : JsString) (line : Bytes → Bytes) (events : List Exchange)
    (refused : Native.TransferRefused sessionId (utf8 path) line events) : Refused path events := by
  cases refused with
  | session => exact .inr rfl
  | path entry error refused =>
      cases control : hasControl path with
      | true => exact .inl control
      | false => cases (RemotePaths.native_quote path control).symm.trans refused
  | channel entry => exact .inr rfl
  | command entry number quotedPath valid rc freed failed => exact .inr (by simp [refuses, failed])

theorem command_refused (path : JsString) (quotedPath : Bytes) (valid : Native.shellQuoteArg (utf8 path) = .ok quotedPath)
    (sessionId : Int) (entry : Native.KesshSession) (number : Nat) (line : Bytes) (inner : List Exchange) :
    Refused path (⟨.lock .session, ()⟩ :: ⟨.findSession sessionId .use, some entry⟩ ::
      ⟨.channelOpenSession entry.session, some number⟩ ::
      ⟨.channelExec { session := entry.session, number } line, (0 : Int)⟩ :: (inner ++ [⟨.unlock .session, ()⟩])) ↔
    inner.any refuses = true := by
  have printable : ¬ hasControl path = true := fun control => by
    obtain ⟨error, refused⟩ := RemotePaths.native_refuses path control
    cases valid.symm.trans refused
  simp [Refused, printable, refuses]

theorem readText_accepted (channel : Native.Channel) (events : List Exchange) (result : Result)
    (trace : Trace (Native.readText channel) events result) : events.any refuses = false := by
  obtain ⟨front, last, closed, freed, rfl, _⟩ := Native.readText_trace channel events result trace
  simp [List.any_map, Function.comp_def, refuses]

theorem writeAll_refused (channel : Native.Channel) (content : Bytes) (events : List Exchange) (outcome : Option Nat)
    (trace : Trace (Native.writeAll channel content) events outcome) : outcome = none ↔ events.any refuses = true := by
  unfold Native.writeAll at trace
  split at trace
  · obtain ⟨rfl, rfl⟩ := (trace_done _ _ _).mp trace
    simp
  · generalize (0 : Nat) = totalWritten at trace
    induction events generalizing totalWritten with
    | nil => simp [Trace] at trace
    | cons event later ih =>
        obtain ⟨written, rest, same, next⟩ := trace_loop _ _ _ _ _ _ trace
        obtain ⟨rfl, rfl⟩ := List.cons.inj same
        rw [List.any_cons]
        by_cases progress : written > 0
        · have good : refuses ⟨.channelWrite channel (content.drop totalWritten), written⟩ = false :=
            decide_eq_false fun bad => absurd progress (Int.not_lt.mpr bad.1)
          rw [good, Bool.false_or]
          simp only [if_pos progress] at next
          rcases next with ⟨following, continues, trace⟩ | ⟨ends, trace⟩
          · exact ih following trace
          · obtain ⟨rfl, rfl⟩ := (trace_done _ _ _).mp trace
            simp
        · simp only [if_neg progress] at next
          by_cases eagain : written = Native.LIBSSH2_ERROR_EAGAIN
          · have good : refuses ⟨.channelWrite channel (content.drop totalWritten), written⟩ = false :=
              decide_eq_false fun bad => absurd eagain bad.2
            rw [good, Bool.false_or]
            simp only [if_pos eagain] at next
            rcases next with ⟨following, continues, trace⟩ | ⟨⟨⟩, _⟩
            exact ih following trace
          · have bad : refuses ⟨.channelWrite channel (content.drop totalWritten), written⟩ = true :=
              decide_eq_true ⟨Int.not_lt.mp progress, eagain⟩
            rw [bad]
            simp only [if_neg eagain] at next
            rcases next with ⟨following, ⟨⟩, _⟩ | ⟨_, trace⟩
            obtain ⟨rfl, rfl⟩ := (trace_done _ _ _).mp trace
            simp

theorem downloadFile_refused (sessionId : Int) (path : JsString) (events : List Exchange) (result : Result)
    (trace : Trace (Native.downloadFile sessionId (utf8 path)) events result) :
    (Refused path events ∧ ∃ message, result = .thrown message) ∨ ¬ Refused path events ∧ ∃ text, result = .string text := by
  rw [Native.downloadFile_eq] at trace
  rcases Native.withCommand_trace _ _ _ _ _ _ trace with
    ⟨refused, thrown⟩ | ⟨entry, number, quotedPath, inner, valid, rfl, reading⟩
  · exact .inl ⟨transfer_refused sessionId path _ events refused, thrown⟩
  · refine .inr ⟨?_, ?_⟩
    · rw [command_refused path quotedPath valid, readText_accepted _ _ _ reading]
      exact Bool.false_ne_true
    · obtain ⟨_, _, _, _, _, _, _, rfl⟩ := Native.readText_trace _ _ _ reading
      exact ⟨_, rfl⟩

theorem uploadFile_refused (sessionId : Int) (path : JsString) (content : Bytes) (events : List Exchange) (result : Result)
    (trace : Trace (Native.uploadFile sessionId (utf8 path) content) events result) :
    (Refused path events ∧ ∃ message, result = .thrown message) ∨ ¬ Refused path events ∧ ∃ written, result = .int32 written := by
  rw [Native.uploadFile_eq] at trace
  rcases Native.withCommand_trace _ _ _ _ _ _ trace with
    ⟨refused, thrown⟩ | ⟨entry, number, quotedPath, inner, valid, rfl, writing⟩
  · exact .inl ⟨transfer_refused sessionId path _ events refused, thrown⟩
  · rw [command_refused path quotedPath valid]
    obtain ⟨writes, closing, outcome, rfl, wrote, finished⟩ := trace_bind _ _ _ _ writing
    have stopped := writeAll_refused _ content writes outcome wrote
    rw [List.any_append]
    cases outcome with
    | none =>
        obtain ⟨freed, _, rfl, ended⟩ := (trace_call _ _ _ _).mp finished
        obtain ⟨rfl, rfl⟩ := (trace_done _ _ _).mp ended
        exact .inl ⟨by rw [stopped.mp rfl]; rfl, _, rfl⟩
    | some total =>
        obtain ⟨_, _, rfl, closing⟩ := (trace_call _ _ _ _).mp finished
        obtain ⟨_, _, rfl, freeing⟩ := (trace_call _ _ _ _).mp closing
        obtain ⟨_, _, rfl, ended⟩ := (trace_call _ _ _ _).mp freeing
        obtain ⟨rfl, rfl⟩ := (trace_done _ _ _).mp ended
        have good : writes.any refuses = false := by
          rw [← Bool.not_eq_true, ← stopped]
          exact Option.some_ne_none total
        exact .inr ⟨by simp [good, refuses], _, rfl⟩

theorem engine_download (sessionId : Int) (path : JsString) (events : List Exchange) (result : Except JsString JsString)
    (trace : Trace (SSHEngine.downloadFile sessionId path) events result) :
    (Refused path events ∧ ∃ message, result = .error message) ∨
      ¬ Refused path events ∧ result = .ok (Utf16.encode (Utf8.decode (events.flatMap arrived))) := by
  obtain ⟨native, ran, answered⟩ := trace_then _ _ (fun native => by cases native <;> exact ⟨_, rfl⟩) _ _ trace
  rcases downloadFile_refused sessionId path events native ran with ⟨refused, message, rfl⟩ | ⟨accepted, text, rfl⟩
  · obtain ⟨⟩ := answered
    exact .inl ⟨refused, _, rfl⟩
  · have decoded := ScpTransfers.native_download sessionId _ events _ (by simp) ran
    obtain ⟨⟩ := answered
    exact .inr ⟨accepted, congrArg Except.ok (Result.string.inj decoded)⟩

theorem engine_upload (sessionId : Int) (path content : JsString) (events : List Exchange) (result : Except JsString Int)
    (trace : Trace (SSHEngine.uploadFile sessionId path content) events result) :
    (Refused path events ∧ ∃ message, result = .error message) ∨ ¬ Refused path events ∧ ∃ written, result = .ok written := by
  obtain ⟨native, ran, answered⟩ := trace_then _ _ (fun native => by cases native <;> exact ⟨_, rfl⟩) _ _ trace
  rcases uploadFile_refused sessionId path _ events native ran with ⟨refused, message, rfl⟩ | ⟨accepted, written, rfl⟩
  · obtain ⟨⟩ := answered
    exact .inl ⟨refused, _, rfl⟩
  · obtain ⟨⟩ := answered
    exact .inr ⟨accepted, _, rfl⟩

-- A download that is reported as one: the remote cat succeeded, and its bytes are the file's.
def Downloaded (run : RemoteRun) (file : Bytes) (events : List Exchange) (result : Except JsString JsString) : Prop :=
  ∀ text, result = .ok text →
    run.status = 0 ∧ events.flatMap arrived = file ∧ text = Utf16.encode (Utf8.decode file)

def Uploaded (run : RemoteRun) (result : Except JsString Int) : Prop :=
  ∀ bytesWritten, result = .ok bytesWritten → run.status = 0

theorem download_status (sessionId : Int) (path : JsString) (run : RemoteRun) (file : Bytes) (events : List Exchange)
    (result : Except JsString JsString) (copies : run.status = 0 → run.output .stdout = file)
    (delivered : ¬ Refused path events → events.flatMap arrived = run.merged)
    (trace : Trace (SSHEngine.downloadFile sessionId path) events result) :
    Downloaded run file events result ↔ Refused path events ∨ run.status = 0 ∧ run.output .stderr = [] := by
  rcases engine_download sessionId path events result trace with ⟨refused, message, rfl⟩ | ⟨accepted, rfl⟩
  · refine ⟨fun _ => .inl refused, fun _ text same => ?_⟩
    cases same
  · have whole := delivered accepted
    constructor
    · intro downloaded
      obtain ⟨status, same, _⟩ := downloaded _ rfl
      refine .inr ⟨status, (merged_stdout run).mp ?_⟩
      rw [← whole, same, copies status]
    · rintro (refused | ⟨status, silent⟩) text same
      · exact absurd refused accepted
      · have same' : events.flatMap arrived = file := by rw [whole, (merged_stdout run).mpr silent, copies status]
        obtain rfl := Except.ok.inj same
        exact ⟨status, same', by rw [same']⟩

theorem upload_status (sessionId : Int) (path content : JsString) (run : RemoteRun) (events : List Exchange)
    (result : Except JsString Int) (trace : Trace (SSHEngine.uploadFile sessionId path content) events result) :
    Uploaded run result ↔ Refused path events ∨ run.status = 0 := by
  rcases engine_upload sessionId path content events result trace with ⟨refused, message, rfl⟩ | ⟨accepted, written, rfl⟩
  · refine ⟨fun _ => .inl refused, fun _ written same => ?_⟩
    cases same
  · refine ⟨fun uploaded => .inr (uploaded written rfl), ?_⟩
    rintro (refused | status) _ _
    · exact absurd refused accepted
    · exact status

/-- Whatever the remote commands do, a download or an upload that is reported has succeeded
there exactly when its command exits with zero (a cat that also prints no error), or was never
run. The file is what a cat that succeeds prints, and the reads bring all that is printed. -/
theorem transfers_succeed (sessionId : Int) (path : JsString) (run : RemoteRun) (events : List Exchange) :
    (∀ file result, (run.status = 0 → run.output .stdout = file) →
      (¬ Refused path events → events.flatMap arrived = run.merged) →
      Trace (SSHEngine.downloadFile sessionId path) events result →
        (Downloaded run file events result ↔ Refused path events ∨ run.status = 0 ∧ run.output .stderr = [])) ∧
    (∀ content result, Trace (SSHEngine.uploadFile sessionId path content) events result →
      (Uploaded run result ↔ Refused path events ∨ run.status = 0)) :=
  ⟨fun file result => download_status sessionId path run file events result,
    fun content result => upload_status sessionId path content run events result⟩

def found : RemoteRun := { writes := [(.stdout, Native.bytes "hi")], status := 0 }

def missing : RemoteRun := { writes := [(.stderr, Native.bytes "cat: f: No such file or directory\n")], status := 1 }

theorem transfers_succeed_found :
    Downloaded found (Native.bytes "hi") (ScpTransfers.downloadEvents (Native.bytes "hi")) (.ok (js "hi")) :=
  ((transfers_succeed 1 (js "f") found (ScpTransfers.downloadEvents (Native.bytes "hi"))).1 (Native.bytes "hi") _
    (fun _ => rfl) (fun _ => rfl) rfl).mpr (.inr ⟨rfl, rfl⟩)

-- The error text of cat is downloaded as the file, and an upload that cat did not store is counted.
theorem failed_transfers_reported :
    (Trace (SSHEngine.downloadFile 1 (js "f")) (ScpTransfers.downloadEvents missing.merged)
        (.ok (js "cat: f: No such file or directory\n")) ∧
      ¬ Downloaded missing [] (ScpTransfers.downloadEvents missing.merged)
        (.ok (js "cat: f: No such file or directory\n"))) ∧
    Trace (SSHEngine.uploadFile 1 (js "f") (js "hi")) (ScpTransfers.uploadEvents [0x68, 0x69]) (.ok 2) ∧
      ¬ Uploaded missing (.ok 2) := by
  refine ⟨⟨rfl, fun downloaded => ?_⟩, rfl, fun uploaded => ?_⟩
  · exact absurd (downloaded _ rfl).1 (by decide)
  · exact absurd (uploaded 2 rfl) (by decide)

end Kessh.TransferStatus
