import Kessh.Lib.BinaryString
import Kessh.Native.Engine
import Kessh.Native.Traces

set_option autoImplicit false

namespace Kessh

open Ecma (JsString js utf8)
open Utf8 (Bytes)
open Interaction
open BinaryString (fromCharCodes charCodes)
open Native (Routine Exchange Result accepted arrived)

namespace SCPPage

structure FileItem where
  name : JsString
  path : JsString
  size : Int
  isDirectory : Bool
  permissions : Option JsString
deriving DecidableEq, Repr

-- The content of the file that was picked, as selectLocalFile hands it on.
def selectLocalFile (buffer : Bytes) : JsString := fromCharCodes buffer

-- The bytes written, or the toast that says why not.
def uploadFile (sessionId : Int) (remotePath content : JsString) : Routine (Except JsString Int) := do
  if sessionId ≤ 0 then return .error (js "SSH连接已断开")
  match ← SSHEngine.uploadFile sessionId remotePath content with
  | .ok bytesWritten => return .ok bytesWritten
  | .error message => return .error (js "上传失败: " ++ message)

-- writeSync at the start of a file that is not truncated.
def writeSync (existing data : Bytes) : Bytes := data ++ existing.drop data.length

-- The file that the save dialog names, with what is in it before: none when the dialog is left.
-- The answer is what is in it in the end.
def downloadFile (sessionId : Int) (item : FileItem) (saveResult : Option Bytes) :
    Routine (Except JsString (Option Bytes)) := do
  if item.isDirectory then return .error (js "暂不支持下载文件夹")
  if sessionId ≤ 0 then return .error (js "SSH连接已断开")
  match ← SSHEngine.downloadFile sessionId item.path with
  | .error message => return .error (js "下载失败: " ++ message)
  | .ok content => return .ok (saveResult.map fun existing => writeSync existing (charCodes content))

end SCPPage

namespace ScpTransfers

theorem native_upload (sessionId : Int) (remotePath content : Bytes) (events : List Exchange) (result : Result)
    (returns : ∀ message, result ≠ .thrown message)
    (trace : Trace (Native.uploadFile sessionId remotePath content) events result) :
    events.flatMap accepted = content := by
  rw [Native.uploadFile_eq] at trace
  rcases Native.withCommand_trace _ _ _ _ _ _ trace with
    ⟨_, message, thrown⟩ | ⟨entry, number, quotedPath, inner, _, rfl, executed⟩
  · exact absurd thrown (returns message)
  obtain ⟨writing, closing, total, rfl, wrote, finished⟩ := trace_bind _ _ _ _ executed
  cases total with
  | none =>
      obtain ⟨message, thrown⟩ := Native.throws_call _ _ (fun _ => Native.throws_done _) _ _ finished
      exact absurd thrown (returns message)
  | some total =>
      obtain ⟨_, _, rfl, sent⟩ := (trace_call _ _ _ _).mp finished
      obtain ⟨_, _, rfl, closed⟩ := (trace_call _ _ _ _).mp sent
      obtain ⟨_, _, rfl, freed⟩ := (trace_call _ _ _ _).mp closed
      obtain ⟨rfl, _⟩ := (trace_done _ _ _).mp freed
      simpa [accepted] using Native.writeAll_accepted _ content writing total wrote

theorem native_download (sessionId : Int) (remotePath : Bytes) (events : List Exchange) (result : Result)
    (returns : ∀ message, result ≠ .thrown message)
    (trace : Trace (Native.downloadFile sessionId remotePath) events result) :
    result = Native.createString (events.flatMap arrived) := by
  rw [Native.downloadFile_eq] at trace
  rcases Native.withCommand_trace _ _ _ _ _ _ trace with
    ⟨_, message, thrown⟩ | ⟨entry, number, quotedPath, inner, _, rfl, executed⟩
  · exact absurd thrown (returns message)
  obtain ⟨reading, closing, whole, rfl, read, finished⟩ := trace_bind _ _ _ _ executed
  have received := Native.drain_arrived _ _ _ Native.awaited_available _ _ _ read
  obtain ⟨_, _, rfl, closed⟩ := (trace_call _ _ _ _).mp finished
  obtain ⟨_, _, rfl, freed⟩ := (trace_call _ _ _ _).mp closed
  obtain ⟨rfl, same⟩ := (trace_done _ _ _).mp freed
  rw [← same, received]
  simp [arrived]

/-- An upload that succeeds writes the bytes of the file exactly when they are all ASCII. -/
theorem scp_upload_exact (sessionId : Int) (remotePath : JsString) (file : Bytes) (events : List Exchange)
    (bytesWritten : Int)
    (trace : Trace (SCPPage.uploadFile sessionId remotePath (SCPPage.selectLocalFile file)) events (.ok bytesWritten)) :
    events.flatMap accepted = file ↔ ∀ byte ∈ file, byte.toNat < 0x80 := by
  unfold SCPPage.uploadFile at trace
  split at trace
  · cases ((trace_done _ _ _).mp trace).2
  obtain ⟨uploaded, engine, toast⟩ := trace_then _ _ (fun uploaded => by cases uploaded <;> exact ⟨_, rfl⟩) _ _ trace
  obtain ⟨result, ran, answered⟩ := trace_then _ _ (fun result => by cases result <;> exact ⟨_, rfl⟩) _ _ engine
  have written : events.flatMap accepted = utf8 (SCPPage.selectLocalFile file) := by
    refine native_upload sessionId _ _ events result (fun message thrown => ?_) ran
    subst thrown
    obtain ⟨⟩ := answered
    cases toast
  rw [written]
  exact BinaryString.utf8_fromCharCodes_iff file

def uploadEvents (content : Bytes) : List Exchange :=
  [⟨.lock .session, ()⟩, ⟨.findSession 1 .use, some (.opened 0 0 0)⟩, ⟨.channelOpenSession 0, some 1⟩,
    ⟨.channelExec ⟨0, 1⟩ (Native.bytes "cat > 'f'"), (0 : Int)⟩, ⟨.channelWrite ⟨0, 1⟩ content, (content.length : Int)⟩,
    ⟨.channelSendEof ⟨0, 1⟩, (0 : Int)⟩, ⟨.channelClose ⟨0, 1⟩, (0 : Int)⟩, ⟨.channelFree ⟨0, 1⟩, (0 : Int)⟩,
    ⟨.unlock .session, ()⟩]

theorem scp_upload_exact_text :
    Trace (SCPPage.uploadFile 1 (js "f") (SCPPage.selectLocalFile [0x68, 0x69])) (uploadEvents [0x68, 0x69]) (.ok 2) ∧
      ∀ byte ∈ ([0x68, 0x69] : Bytes), byte.toNat < 0x80 := by
  have trace : Trace (SCPPage.uploadFile 1 (js "f") (SCPPage.selectLocalFile [0x68, 0x69]))
      (uploadEvents [0x68, 0x69]) (.ok 2) := rfl
  exact ⟨trace, (scp_upload_exact 1 (js "f") _ _ 2 trace).mp rfl⟩

-- The file has one byte, E9, and two are written.
theorem upload_adds_bytes :
    ∃ events, Trace (SCPPage.uploadFile 1 (js "f") (SCPPage.selectLocalFile [0xE9])) events (.ok 2) ∧
      events.flatMap accepted ≠ [0xE9] :=
  ⟨uploadEvents [0xC3, 0xA9], rfl, by decide⟩

-- The bytes that come back from the text a file is decoded to, one for each code unit.
def unitBytes (file : Bytes) : Bytes := charCodes (Utf16.encode (Utf8.decode file))

def Plain (file : Bytes) : Prop := ∀ byte ∈ file, byte.toNat < 0x80 ∨ byte.toNat = 0xFD

-- A local file as long as the remote one that has the bytes behind those of the text already in place.
def Restored (existing file : Bytes) : Prop :=
  existing.length = file.length ∧
    ∃ n < file.length, unitBytes file = file.take n ∧ existing.drop n = file.drop n

theorem unitBytes_iff (file : Bytes) : unitBytes file = file ↔ Plain file := BinaryString.charCodes_decode_iff file

theorem writeSync_iff (existing file : Bytes) :
    SCPPage.writeSync existing (unitBytes file) = file ↔
      (Plain file ∧ existing.length ≤ file.length) ∨ Restored existing file := by
  unfold SCPPage.writeSync
  constructor
  · intro same
    have begins := congrArg (List.take (unitBytes file).length) same
    have ends := congrArg (List.drop (unitBytes file).length) same
    have within := congrArg List.length same
    rw [List.take_left] at begins
    rw [List.drop_left] at ends
    rw [List.length_append] at within
    have lengths := congrArg List.length ends
    rw [List.length_drop, List.length_drop] at lengths
    rcases Nat.lt_or_eq_of_le (Nat.le.intro within) with short | whole
    · exact .inr ⟨by omega, _, short, begins, ends⟩
    · rw [whole, List.take_length] at begins
      exact .inl ⟨(unitBytes_iff file).mp begins, by omega⟩
  · rintro (⟨plain, short⟩ | ⟨_, n, inside, begins, ends⟩)
    · rw [(unitBytes_iff file).mpr plain, List.drop_eq_nil_of_le short, List.append_nil]
    · have length : (file.take n).length = n := by
        rw [List.length_take]
        omega
      rw [begins, length, ends, List.take_append_drop]

theorem writeSync_size (size : Nat) (file : Bytes) :
    (∀ existing : Bytes, existing.length = size → SCPPage.writeSync existing (unitBytes file) = file) ↔
      Plain file ∧ size ≤ file.length := by
  constructor
  · intro every
    have zeros := (writeSync_iff _ file).mp (every (List.replicate size 0) List.length_replicate)
    have ones := (writeSync_iff _ file).mp (every (List.replicate size 1) List.length_replicate)
    rw [List.length_replicate] at zeros ones
    refine zeros.resolve_right fun ⟨same, n, inside, begins, ends⟩ => ?_
    rcases ones with ⟨plain, _⟩ | ⟨_, m, within, started, ended⟩
    · rw [(unitBytes_iff file).mpr plain] at begins
      have length := congrArg List.length begins
      rw [List.length_take] at length
      omega
    · have equal := congrArg List.length (begins.symm.trans started)
      rw [List.length_take, List.length_take] at equal
      obtain rfl : n = m := by omega
      rw [List.length_replicate] at same
      have differ := ends.trans ended.symm
      rw [List.drop_replicate, List.drop_replicate, List.replicate_inj] at differ
      rcases differ.2 with none | same
      · omega
      · cases same
  · rintro ⟨plain, short⟩ existing rfl
    exact (writeSync_iff existing file).mpr (.inl ⟨plain, short⟩)

theorem download_saved (sessionId : Int) (item : SCPPage.FileItem) (existing saved : Bytes) (events : List Exchange)
    (trace : Trace (SCPPage.downloadFile sessionId item (some existing)) events (.ok (some saved))) (other : Bytes) :
    Trace (SCPPage.downloadFile sessionId item (some other)) events
        (.ok (some (SCPPage.writeSync other (unitBytes (events.flatMap arrived))))) ∧
      saved = SCPPage.writeSync existing (unitBytes (events.flatMap arrived)) := by
  unfold SCPPage.downloadFile at trace ⊢
  split at trace
  · cases ((trace_done _ _ _).mp trace).2
  rename_i directory
  split at trace
  · cases ((trace_done _ _ _).mp trace).2
  rename_i connected
  rw [if_neg directory, if_neg connected]
  obtain ⟨content, engine, stored⟩ := trace_then _ _ (fun content => by cases content <;> exact ⟨_, rfl⟩) _ _ trace
  obtain ⟨result, ran, answered⟩ := trace_then _ _ (fun result => by cases result <;> exact ⟨_, rfl⟩) _ _ engine
  cases content with
  | error message => cases stored
  | ok content =>
      have decoded : result = Native.createString (events.flatMap arrived) := by
        refine native_download sessionId _ events result (fun message thrown => ?_) ran
        subst thrown
        cases answered
      subst decoded
      obtain rfl : Utf16.encode (Utf8.decode (events.flatMap arrived)) = content := by
        simpa [Native.createString] using answered
      refine ⟨then_trace _ _ events _ _ engine rfl, ?_⟩
      obtain rfl : SCPPage.writeSync existing (charCodes (Utf16.encode (Utf8.decode (events.flatMap arrived)))) = saved := by
        simpa using stored
      rfl

/-- The file saved has the bytes that the remote cat printed exactly when each of them is ASCII or FD and the local
file was not longer before, or when what it had before restores what decoding loses. Of the local file's size alone:
whatever was in it, exactly when each byte is ASCII or FD and it was not longer. -/
theorem scp_download_exact (sessionId : Int) (item : SCPPage.FileItem) (existing file : Bytes) (events : List Exchange)
    (saved : Bytes) (printed : events.flatMap arrived = file)
    (trace : Trace (SCPPage.downloadFile sessionId item (some existing)) events (.ok (some saved))) :
    (saved = file ↔ (Plain file ∧ existing.length ≤ file.length) ∨ Restored existing file) ∧
      ((∀ other kept : Bytes, other.length = existing.length →
          Trace (SCPPage.downloadFile sessionId item (some other)) events (.ok (some kept)) → kept = file) ↔
        Plain file ∧ existing.length ≤ file.length) := by
  subst printed
  have written := download_saved sessionId item existing saved events trace
  refine ⟨?_, ?_⟩
  · rw [(written existing).2]
    exact writeSync_iff existing _
  · rw [← writeSync_size]
    constructor
    · exact fun every other size => every other _ size (written other).1
    · intro every other kept size here
      rw [(download_saved sessionId item other kept events here other).2]
      exact every other size

def downloadEvents (content : Bytes) : List Exchange :=
  [⟨.lock .session, ()⟩, ⟨.findSession 1 .use, some (.opened 0 0 0)⟩, ⟨.channelOpenSession 0, some 1⟩,
    ⟨.channelExec ⟨0, 1⟩ (Native.bytes "cat -- 'f' 2>&1"), (0 : Int)⟩, ⟨.channelRead ⟨0, 1⟩ 8192, .bytes content⟩,
    ⟨.channelRead ⟨0, 1⟩ 8192, .eof⟩, ⟨.channelClose ⟨0, 1⟩, (0 : Int)⟩, ⟨.channelFree ⟨0, 1⟩, (0 : Int)⟩,
    ⟨.unlock .session, ()⟩]

def exampleItem : SCPPage.FileItem :=
  { name := js "f", path := js "f", size := 2, isDirectory := false, permissions := none }

theorem scp_download_exact_text :
    Trace (SCPPage.downloadFile 1 exampleItem (some [0x61])) (downloadEvents [0x68, 0x69]) (.ok (some [0x68, 0x69])) ∧
      ((Plain [0x68, 0x69] ∧ ([0x61] : Bytes).length ≤ ([0x68, 0x69] : Bytes).length) ∨ Restored [0x61] [0x68, 0x69]) := by
  have trace : Trace (SCPPage.downloadFile 1 exampleItem (some [0x61])) (downloadEvents [0x68, 0x69])
      (.ok (some [0x68, 0x69])) := rfl
  exact ⟨trace, (scp_download_exact 1 exampleItem [0x61] _ _ _ rfl trace).1.mp rfl⟩

-- Two bytes make one character, and one byte of it is stored; and a longer file keeps its own end.
theorem download_drops_bytes :
    (∃ events saved, Trace (SCPPage.downloadFile 1 exampleItem (some [])) events (.ok (some saved)) ∧
      events.flatMap arrived = [0xC3, 0xA9] ∧ saved ≠ [0xC3, 0xA9]) ∧
    ∃ events saved, Trace (SCPPage.downloadFile 1 exampleItem (some [0x61, 0x61, 0x61])) events (.ok (some saved)) ∧
      events.flatMap arrived = [0x68, 0x69] ∧ saved = [0x68, 0x69, 0x61] :=
  ⟨⟨downloadEvents [0xC3, 0xA9], [0xE9], rfl, by decide, by decide⟩, downloadEvents [0x68, 0x69], _, rfl, by decide, rfl⟩

end ScpTransfers

end Kessh
