import Kessh.Lib.PosixShell
import Kessh.Native.Engine
import Kessh.Native.Traces

set_option autoImplicit false

namespace Kessh

open Ecma (JsString js utf8)
open Utf8 (Bytes)
open Interaction

namespace RemotePaths

open Native

def hasControl (path : JsString) : Bool := path.any fun unit => unit == 0 || unit == 10 || unit == 13

def toStdout : PosixShell.Redirection := { descriptor := some (bytes "2"), operator := bytes ">&", target := bytes "1" }

-- cat -- W 2>&1
def downloadTemplate (word : Bytes) : PosixShell.Command :=
  { words := [bytes "cat", bytes "--", word], redirections := [toStdout] }

-- cat > W
def uploadTemplate (word : Bytes) : PosixShell.Command :=
  { words := [bytes "cat"], redirections := [{ descriptor := none, operator := bytes ">", target := word }] }

-- ls -la -- W 2>&1
def listTemplate (word : Bytes) : PosixShell.Command :=
  { words := [bytes "ls", bytes "-la", bytes "--", word], redirections := [toStdout] }

def plain (text : String) : PosixShell.Word := (bytes text).map (·, false)

theorem read_download (value : Bytes) :
    PosixShell.readCommand (bytes "cat -- " ++ (PosixShell.quoted value ++ bytes " 2>&1")) =
      some (downloadTemplate value) :=
  PosixShell.read_quoted _ _ value (plain "cat") [plain "--"] [bytes "cat", bytes "--"] _ _ _ [toStdout] (by decide)
    (by decide) (by decide) rfl rfl (by decide)

theorem read_list (value : Bytes) :
    PosixShell.readCommand (bytes "ls -la -- " ++ (PosixShell.quoted value ++ bytes " 2>&1")) =
      some (listTemplate value) :=
  PosixShell.read_quoted _ _ value (plain "ls") [plain "-la", plain "--"] [bytes "ls", bytes "-la", bytes "--"] _ _ _
    [toStdout] (by decide) (by decide) (by decide) rfl rfl (by decide)

theorem read_upload (value : Bytes) :
    PosixShell.readCommand (bytes "cat > " ++ PosixShell.quoted value) = some (uploadTemplate value) := by
  have before : PosixShell.run .blank (bytes "cat > ") =
      some ([.word (plain "cat"), .operator (bytes ">")], .blank) := by decide
  have whole := PosixShell.run_join _ _ _ _ _ _ _ before (PosixShell.run_quoted value)
  have tokens := PosixShell.tokens_run _ _ [.word (PosixShell.literal value)] _ whole rfl
  have name : PosixShell.isName (plain "cat") = true := by decide
  have cat : PosixShell.text (plain "cat") = some (bytes "cat") := by decide
  have writes : PosixShell.redirects (bytes ">") = true := by decide
  simp only [PosixShell.readCommand, tokens, Option.bind_some, List.cons_append, List.nil_append, PosixShell.firstWord,
    Option.any_some, name, if_true, PosixShell.simple, cat, writes, PosixShell.text_literal, Option.map_some]
  rfl

theorem control_bytes (path : JsString) :
    ((utf8 path).any fun c => c == 0x00 || c == 0x0D || c == 0x0A) = hasControl path := by
  have unit (n : Nat) (ascii : n < 0x80) : (∃ byte ∈ utf8 path, byte = UInt8.ofNat n) ↔ ∃ unit ∈ path, unit = UInt16.ofNat n := by
    have same := Ecma.mem_utf8_ascii path n ascii
    have byte : ∀ byte : UInt8, byte = UInt8.ofNat n ↔ byte.toNat = n := fun byte => by
      rw [← UInt8.toNat_inj, Utf8.byte_value n (by omega)]
    have unit : ∀ unit : UInt16, unit = UInt16.ofNat n ↔ unit.toNat = n := fun unit => by
      rw [← UInt16.toNat_inj, Utf16.unit_value n (by omega)]
    simpa only [byte, unit] using same
  have zero := unit 0 (by decide)
  have feed := unit 10 (by decide)
  have carriage := unit 13 (by decide)
  refine Bool.eq_iff_iff.mpr ?_
  simp only [hasControl, List.any_eq_true, Bool.or_eq_true, beq_iff_eq, and_or_left, exists_or]
  exact (or_congr (or_congr zero carriage) feed).trans or_right_comm

theorem native_quote (path : JsString) (valid : hasControl path = false) :
    Native.shellQuoteArg (utf8 path) = .ok (PosixShell.quoted (utf8 path)) := by
  have single : bytes "'" = [PosixShell.quote] := by decide
  have escaped : bytes "'\\''" = [PosixShell.quote, PosixShell.backslash, PosixShell.quote, PosixShell.quote] := by decide
  rw [Native.shellQuoteArg, control_bytes, valid, single, escaped]
  rfl

theorem native_refuses (path : JsString) (control : hasControl path = true) :
    ∃ error, Native.shellQuoteArg (utf8 path) = .error error := by
  rw [Native.shellQuoteArg, control_bytes, control]
  exact ⟨_, rfl⟩

theorem utf8_quoted (path : JsString) :
    utf8 (js "'" ++ (Ecma.replaceUnit 0x27 (js "'\\''") path ++ js "'")) = PosixShell.quoted (utf8 path) := by
  have escaped : utf8 (js "'\\''") = [PosixShell.quote, PosixShell.backslash, PosixShell.quote, PosixShell.quote] := by decide
  have units : js "'\\''" = [0x27, 0x5C, 0x27, 0x27] := by decide
  have small : ∀ other ∈ js "'\\''", other.toNat < 0x80 := by
    rw [units]
    simp
  have replaced := Ecma.utf8_replaceUnit 0x27 (js "'\\''") (by decide) small (by decide) path
  have value : ∀ byte : UInt8, (if byte.toNat = (0x27 : UInt16).toNat then utf8 (js "'\\''") else [byte]) =
      if byte = PosixShell.quote then [PosixShell.quote, PosixShell.backslash, PosixShell.quote, PosixShell.quote]
      else [byte] := by
    intro byte
    rw [escaped]
    have same : byte.toNat = PosixShell.quote.toNat ↔ byte = PosixShell.quote := UInt8.toNat_inj
    exact if_congr same rfl rfl
  simp only [value] at replaced
  rw [Ecma.utf8_js_append, Ecma.utf8_append_js, replaced]
  simp only [PosixShell.quoted, List.append_assoc]
  rfl

theorem script_quote (path : JsString) (valid : hasControl path = false) :
    ∃ quoted, SSHEngine.shellQuoteArg path = .ok quoted ∧ utf8 quoted = PosixShell.quoted (utf8 path) :=
  ⟨_, by rw [SSHEngine.shellQuoteArg]; exact if_neg (by simpa [hasControl] using valid), utf8_quoted path⟩

theorem script_refuses (path : JsString) (control : hasControl path = true) :
    SSHEngine.shellQuoteArg path = .error (js "路径包含非法字符") :=
  if_pos (by simpa [hasControl] using control)

/-- The quoter of the script and that of the native module refuse the same texts, and quote every other
text to the same bytes. -/
theorem quoters_agree (v : JsString) :
    ((∃ message, SSHEngine.shellQuoteArg v = .error message) ↔ ∃ error, Native.shellQuoteArg (utf8 v) = .error error) ∧
      ∀ quoted, SSHEngine.shellQuoteArg v = .ok quoted → Native.shellQuoteArg (utf8 v) = .ok (utf8 quoted) := by
  cases control : hasControl v with
  | true =>
      have refused := script_refuses v control
      refine ⟨⟨fun _ => native_refuses v control, fun _ => ⟨_, refused⟩⟩, fun quoted valid => ?_⟩
      rw [refused] at valid
      cases valid
  | false =>
      obtain ⟨text, quotes, line⟩ := script_quote v control
      have native := native_quote v control
      refine ⟨⟨fun ⟨message, refused⟩ => ?_, fun ⟨error, refused⟩ => ?_⟩, fun quoted valid => ?_⟩
      · rw [quotes] at refused
        cases refused
      · rw [native] at refused
        cases refused
      · rw [quotes] at valid
        cases valid
        rw [native, line]

theorem cStr_whole (line : Bytes) (whole : 0 ∉ line) : cStr line = line := by
  refine List.takeWhile_eq_self_iff.mpr fun byte member => ?_
  have other : byte ≠ 0 := fun same => whole (same ▸ member)
  simpa using other

theorem quoted_whole (path : JsString) (valid : hasControl path = false) : 0 ∉ PosixShell.quoted (utf8 path) := by
  have absent : 0 ∉ utf8 path := fun member => by
    have control : ((utf8 path).any fun c => c == 0x00 || c == 0x0D || c == 0x0A) = true :=
      List.any_eq_true.mpr ⟨0, member, by decide⟩
    rw [control_bytes, valid] at control
    cases control
  intro member
  simp only [PosixShell.quoted, List.mem_append, List.mem_singleton, List.mem_flatMap] at member
  rcases member with (same | ⟨byte, inside, here⟩) | same
  · exact absurd same (by decide)
  · split at here
    · exact absurd here (by decide)
    · exact absent (List.mem_singleton.mp here ▸ inside)
  · exact absurd same (by decide)

-- What an operation does with a path: no command, or at most one, read as the template's.
def Issues (path : JsString) (events : List Exchange) (template : Bytes → PosixShell.Command) : Prop :=
  if hasControl path then commands events = []
  else ∃ line, Commands events line ∧ PosixShell.readCommand line = some (template (utf8 path))

theorem issues_quoted (path : JsString) (events : List Exchange) (template : Bytes → PosixShell.Command)
    (before after : Bytes) (beforeWhole : 0 ∉ before) (afterWhole : 0 ∉ after) (valid : hasControl path = false)
    (issued : Commands events (cStr (before ++ (PosixShell.quoted (utf8 path) ++ after))))
    (read : PosixShell.readCommand (before ++ (PosixShell.quoted (utf8 path) ++ after)) = some (template (utf8 path))) :
    Issues path events template := by
  have whole : 0 ∉ before ++ (PosixShell.quoted (utf8 path) ++ after) := by
    simp only [List.mem_append, not_or]
    exact ⟨beforeWhole, quoted_whole path valid, afterWhole⟩
  rw [cStr_whole _ whole] at issued
  rw [Issues, valid]
  exact ⟨_, issued, read⟩

theorem downloadFile_issues (sessionId : Int) (path : JsString) (events : List Exchange) (result : Result)
    (trace : Trace (downloadFile sessionId (utf8 path)) events result) : Issues path events downloadTemplate := by
  cases control : hasControl path with
  | true =>
      obtain ⟨error, refused⟩ := native_refuses path control
      rw [Issues, control]
      rw [downloadFile_eq] at trace
      exact (quiet_commands _ (withCommand_quiet sessionId _ error _ _ refused) events result trace).1
  | false =>
      have issued := downloadFile_commands sessionId _ _ (native_quote path control) events result trace
      rw [downloadCommand, List.append_assoc] at issued
      exact issues_quoted path events _ _ _ (by decide) (by decide) control issued (read_download _)

theorem uploadFile_issues (sessionId : Int) (path : JsString) (content : Bytes) (events : List Exchange) (result : Result)
    (trace : Trace (uploadFile sessionId (utf8 path) content) events result) : Issues path events uploadTemplate := by
  cases control : hasControl path with
  | true =>
      obtain ⟨error, refused⟩ := native_refuses path control
      rw [Issues, control]
      rw [uploadFile_eq] at trace
      exact (quiet_commands _ (withCommand_quiet sessionId _ error _ _ refused) events result trace).1
  | false =>
      have issued := uploadFile_commands sessionId _ _ content (native_quote path control) events result trace
      rw [uploadCommand, ← List.append_nil (PosixShell.quoted _)] at issued
      refine issues_quoted path events _ _ _ (by decide) (by simp) control issued ?_
      rw [List.append_nil]
      exact read_upload _

theorem listFiles_issues (sessionId : Int) (path : JsString) (events : List Exchange) (result : Except JsString JsString)
    (trace : Trace (SSHEngine.listFiles sessionId path) events result) : Issues path events listTemplate := by
  unfold SSHEngine.listFiles at trace
  cases control : hasControl path with
  | true =>
      rw [script_refuses path control] at trace
      obtain ⟨rfl, _⟩ := (trace_done _ _ _).mp trace
      rw [Issues, control]
      rfl
  | false =>
      obtain ⟨quoted, valid, line⟩ := script_quote path control
      rw [valid] at trace
      obtain ⟨text, ran, _⟩ := trace_then _ _ (fun text => ⟨_, rfl⟩) _ _ trace
      obtain ⟨value, executed, _⟩ := trace_then _ _ (fun value => by cases value <;> exact ⟨_, rfl⟩) _ _ ran
      have issued := executeCommand_commands sessionId _ events value executed
      rw [Ecma.utf8_js_append, Ecma.utf8_append_js, line] at issued
      exact issues_quoted path events _ _ _ (by decide) (by decide) control issued (read_list _)

/-- Whatever the path, a download, an upload and a listing run no command where the path has
a NUL, CR or LF, and otherwise the template's command with the path as one word of it. -/
theorem remote_paths_quoted (sessionId : Int) (path : JsString) (events : List Exchange) :
    (∀ result, Trace (downloadFile sessionId (utf8 path)) events result → Issues path events downloadTemplate) ∧
      (∀ content result, Trace (uploadFile sessionId (utf8 path) content) events result →
        Issues path events uploadTemplate) ∧
      (∀ result, Trace (SSHEngine.listFiles sessionId path) events result → Issues path events listTemplate) :=
  ⟨downloadFile_issues sessionId path events, fun content => uploadFile_issues sessionId path content events,
    listFiles_issues sessionId path events⟩

def commandEvents (line output : Bytes) (size : Nat) (stderr : Bool) : List Exchange :=
  [⟨.lock .session, ()⟩,
    ⟨.findSession 1 .use, some (.opened 0 0 0)⟩,
    ⟨.channelOpenSession 0, some 1⟩, ⟨.channelExec ⟨0, 1⟩ line, (0 : Int)⟩, ⟨.channelRead ⟨0, 1⟩ size, .bytes output⟩,
    ⟨.channelRead ⟨0, 1⟩ size, .eof⟩] ++
  (if stderr then [⟨.channelReadStderr ⟨0, 1⟩ size, .eof⟩] else []) ++
  [⟨.channelClose ⟨0, 1⟩, (0 : Int)⟩, ⟨.channelFree ⟨0, 1⟩, (0 : Int)⟩, ⟨.unlock .session, ()⟩]

theorem remote_paths_quoted_apostrophe :
    Trace (downloadFile 1 (utf8 (js "it's; rm")))
        (commandEvents (bytes "cat -- 'it'\\''s; rm' 2>&1") (bytes "text") 8192 false) (createString (bytes "text")) ∧
      Issues (js "it's; rm") (commandEvents (bytes "cat -- 'it'\\''s; rm' 2>&1") (bytes "text") 8192 false)
        downloadTemplate := by
  have trace : Trace (downloadFile 1 (utf8 (js "it's; rm")))
      (commandEvents (bytes "cat -- 'it'\\''s; rm' 2>&1") (bytes "text") 8192 false) (createString (bytes "text")) := by
    rfl
  exact ⟨trace, (remote_paths_quoted 1 (js "it's; rm") _).1 _ trace⟩

-- A listing merges the error output: its redirection is not among those of `ls -la -- W`.
theorem listing_merges_errors :
    ∃ events result, Trace (SSHEngine.listFiles 1 (js "a")) events result ∧ hasControl (js "a") = false ∧
      ∃ line ∈ commands events, PosixShell.readCommand line ≠
        some { words := [bytes "ls", bytes "-la", bytes "--", utf8 (js "a")], redirections := [] } := by
  refine ⟨commandEvents (bytes "ls -la -- 'a' 2>&1") (bytes "a") 4096 true, .ok (js "a"), ?_, by decide,
    bytes "ls -la -- 'a' 2>&1", ?_, ?_⟩
  · rfl
  · exact List.mem_singleton.mpr rfl
  · decide

end RemotePaths

end Kessh
