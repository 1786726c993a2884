import Kessh.Pages.ListingParity
import Kessh.Pages.TransferStatus

set_option autoImplicit false

-- What the four pages for files make of a listing that has failed.
namespace Kessh.FailedListings

open Ecma (JsString js utf8 trim split words)
open Utf8 (Bytes)
open Interaction
open Native (Exchange Result arrived bytes)
open LsOutput (Row readRow readRows prepared)
open ListingParity (Dots rowOf)

-- The native call of a listing, where the path can be quoted.
def Ran (sessionId : Int) (path : JsString) (events : List Exchange) (native : Result) : Prop :=
  ∃ quoted, SSHEngine.shellQuoteArg path = .ok quoted ∧
    Trace (Native.executeCommand sessionId (utf8 (js "ls -la -- " ++ (quoted ++ js " 2>&1")))) events native

-- The native call throws, or ls writes diagnostics only: its 2>&1 makes them the output.
inductive Failure where
  | native
  | diagnostics (text : JsString)

def Happened (sessionId : Int) (path : JsString) (events : List Exchange) : Failure → Prop
  | .native => ∃ message, Ran sessionId path events (.thrown message)
  | .diagnostics text => Ran sessionId path events (.string text)

structure Entryless (path output : JsString) : Prop where
  arktsScp : SCPPage.parseLsOutput path output = SCPPage.parents path
  lynxScp : LynxSCPPage.parseLs output path = LynxSCPPage.parents path
  arktsSftp : ArkTS.SFTPPage.parsedFiles path output = ArkTS.SFTPPage.parents path
  lynxSftp : SFTPPage.parseLs output = []

-- An error of the native call comes to the page as one, and diagnostics do not look like entries.
def Reported (path : JsString) (result : Except JsString JsString) : Failure → Prop
  | .native => ∃ message, result = .error message
  | .diagnostics _ => ∀ output, result = .ok output → Entryless path output

def columns (trims : Bool) (line : JsString) : List JsString := if trims then words line else split line

-- A line with less than nine columns, or with a ninth and last one of dots, or that of the total.
def Wordless (trims : Bool) (line : JsString) : Prop :=
  (js "total").isPrefixOf (prepared trims line) = true ∨ (columns trims line).length < 9 ∨
    (columns trims line).length = 9 ∧ ∃ last ∈ (columns trims line).getLast?, Dots last

-- Nothing but diagnostics can be harmless.
def Harmless : Failure → Prop
  | .native => False
  | .diagnostics text => ∀ line ∈ text.splitOn 0x0A, Wordless true line ∧ Wordless false line

def delivered : Result → Except JsString JsString
  | .string text => .ok text
  | _ => .ok []

theorem ran_delivered (sessionId : Int) (path : JsString) (events : List Exchange) (native : Result)
    (ran : Ran sessionId path events native) (result : Except JsString JsString)
    (trace : Trace (SSHEngine.listFiles sessionId path) events result) : result = delivered native := by
  obtain ⟨quoted, quotes, executed⟩ := ran
  unfold SSHEngine.listFiles at trace
  rw [quotes] at trace
  obtain ⟨text, engine, done⟩ := trace_then _ _ (fun text => ⟨_, rfl⟩) _ _ trace
  obtain ⟨other, same, answered⟩ := trace_then _ _ (fun value => by cases value <;> exact ⟨_, rfl⟩) _ _ engine
  obtain ⟨⟩ := done
  obtain rfl : native = other := trace_unique _ _ _ _ executed same
  cases native <;> obtain ⟨⟩ := answered <;> rfl

theorem rowOf_wordless (parts : List JsString) :
    rowOf parts = none ↔ parts.length < 9 ∨ parts.length = 9 ∧ ∃ last ∈ parts.getLast?, Dots last := by
  rw [ListingParity.rowOf_none, ListingParity.dots_last]

theorem split_blank (line : JsString) (blank : trim line = []) : (split line).length < 9 := by
  have spaces : ∀ unit ∈ line, Ecma.isSpace unit = true := by
    intro unit member
    rw [← List.takeWhile_append_dropWhile (p := Ecma.isSpace) (l := line)] at member
    rcases List.mem_append.mp member with front | behind
    · exact List.mem_takeWhile_imp front
    · exact List.rdropWhile_eq_nil_iff.mp blank unit behind
  cases line with
  | nil => decide
  | cons unit rest =>
      rw [split, Ecma.splitFrom, if_pos (spaces unit List.mem_cons_self), if_neg Bool.false_ne_true,
        Ecma.splitFrom_blank rest fun other member => spaces other (List.mem_cons_of_mem _ member)]
      decide

theorem readRow_wordless (trims : Bool) (line : JsString) : readRow (prepared trims line) = none ↔ Wordless trims line := by
  unfold Wordless
  rw [← rowOf_wordless]
  cases trims with
  | true => exact ListingParity.trimmed_row line
  | false =>
      have same : prepared false line = line := rfl
      have pieces : columns false line = split line := rfl
      rw [same, pieces]
      by_cases blank : trim line = []
      · exact iff_of_true (ListingParity.readRow_blank line blank)
          (.inr ((rowOf_wordless _).mpr (.inl (split_blank line blank))))
      · by_cases total : (js "total").isPrefixOf line = true
        · exact iff_of_true (ListingParity.readRow_total line total) (.inl total)
        · rw [ListingParity.readRow_rowOf line blank (Bool.not_eq_true _ |>.mp total)]
          simp [total]

theorem readRows_none {File : Type} (trims : Bool) (push : Row → File) (output : JsString) :
    readRows trims push output = [] ↔ ∀ line ∈ output.splitOn 0x0A, Wordless trims line := by
  rw [readRows, List.filterMap_eq_nil_iff]
  exact forall₂_congr fun line _ => Option.map_eq_none_iff.trans (readRow_wordless trims line)

theorem entryless_wordless (path output : JsString) :
    Entryless path output ↔ ∀ line ∈ output.splitOn 0x0A, Wordless true line ∧ Wordless false line := by
  constructor
  · intro entryless line member
    exact ⟨(readRows_none true _ output).mp (List.append_right_eq_self.mp entryless.arktsScp) line member,
      (readRows_none false _ output).mp (List.append_right_eq_self.mp entryless.arktsSftp) line member⟩
  · intro wordless
    have trimmed := fun {File : Type} (push : Row → File) =>
      (readRows_none true push output).mpr fun line member => (wordless line member).1
    have whole := fun {File : Type} (push : Row → File) =>
      (readRows_none false push output).mpr fun line member => (wordless line member).2
    exact
      { arktsScp := by rw [SCPPage.parseLsOutput, trimmed, List.append_nil]
        lynxScp := by rw [LynxSCPPage.parseLs, trimmed, List.append_nil]
        arktsSftp := by rw [ArkTS.SFTPPage.parsedFiles, whole, List.append_nil]
        lynxSftp := trimmed _ }

/-- A native failure is never reported. Diagnostics are kept out of the four lists exactly when no line
of them has the columns of an entry. -/
theorem failed_listings_reported (sessionId : Int) (path : JsString) (events : List Exchange)
    (result : Except JsString JsString) (failure : Failure) (happened : Happened sessionId path events failure)
    (trace : Trace (SSHEngine.listFiles sessionId path) events result) :
    Reported path result failure ↔ Harmless failure := by
  cases failure with
  | native =>
      obtain ⟨message, ran⟩ := happened
      rw [ran_delivered sessionId path events _ ran result trace]
      exact iff_of_false (fun ⟨_, reported⟩ => by cases reported) id
  | diagnostics text =>
      rw [ran_delivered sessionId path events _ happened result trace, Harmless, ← entryless_wordless path]
      exact ⟨fun reported => reported text rfl, fun entryless output same => Except.ok.inj same ▸ entryless⟩

theorem ran_listed (path : JsString) (line : Bytes) (text : String)
    (listed : ∀ output, Ran 1 path (RemotePaths.commandEvents line output 4096 true) (Native.createString output)) :
    Ran 1 path (RemotePaths.commandEvents line (bytes text) 4096 true) (.string (js text)) := by
  have whole : Native.createString (bytes text) = .string (js text) := by
    rw [Native.createString, bytes, Utf8.decode_encode, js]
  exact whole ▸ listed (bytes text)

theorem listed_ran (path : JsString) (line : Bytes) (text : String)
    (listed : ∀ output, Trace (SSHEngine.listFiles 1 path) (RemotePaths.commandEvents line output 4096 true)
      (delivered (Native.createString output))) :
    Trace (SSHEngine.listFiles 1 path) (RemotePaths.commandEvents line (bytes text) 4096 true) (.ok (js text)) := by
  have whole : delivered (Native.createString (bytes text)) = .ok (js text) := by
    rw [Native.createString, bytes, Utf8.decode_encode, js, delivered]
  exact whole ▸ listed (bytes text)

-- A directory that may not be read: seven words.
theorem failed_listings_reported_denied :
    Reported (js "/root") (.ok (js "ls: cannot open directory '/root': Permission denied\n"))
      (.diagnostics (js "ls: cannot open directory '/root': Permission denied\n")) := by
  have ran := ran_listed (js "/root") (bytes "ls -la -- '/root' 2>&1")
    "ls: cannot open directory '/root': Permission denied\n" fun _ => ⟨js "'/root'", rfl, rfl⟩
  have listed := listed_ran (js "/root") (bytes "ls -la -- '/root' 2>&1")
    "ls: cannot open directory '/root': Permission denied\n" fun _ => rfl
  refine (failed_listings_reported 1 (js "/root") _ _ (.diagnostics _) ran listed).mpr ?_
  have rows : ∀ trims, ∀ line ∈ (js "ls: cannot open directory '/root': Permission denied\n").splitOn 0x0A,
      readRow (prepared trims line) = none := by decide
  exact fun line member => ⟨(readRow_wordless true line).mp (rows true line member),
    (readRow_wordless false line).mp (rows false line member)⟩

-- A directory that is not there is an entry named 'directory', and a session that is gone an empty list.
theorem failures_listed :
    (Happened 1 (js "/x") (RemotePaths.commandEvents (bytes "ls -la -- '/x' 2>&1")
        (bytes "ls: cannot access '/x': No such file or directory\n") 4096 true)
        (.diagnostics (js "ls: cannot access '/x': No such file or directory\n")) ∧
      Trace (SSHEngine.listFiles 1 (js "/x")) (RemotePaths.commandEvents (bytes "ls -la -- '/x' 2>&1")
        (bytes "ls: cannot access '/x': No such file or directory\n") 4096 true)
        (.ok (js "ls: cannot access '/x': No such file or directory\n")) ∧
      ¬ Reported (js "/x") (.ok (js "ls: cannot access '/x': No such file or directory\n"))
        (.diagnostics (js "ls: cannot access '/x': No such file or directory\n"))) ∧
    Happened 1 (js "/x") [⟨.lock .session, ()⟩, ⟨.findSession 1 .use, none⟩, ⟨.unlock .session, ()⟩] .native ∧
      Trace (SSHEngine.listFiles 1 (js "/x")) [⟨.lock .session, ()⟩, ⟨.findSession 1 .use, none⟩, ⟨.unlock .session, ()⟩]
        (.ok []) ∧
      ¬ Reported (js "/x") (.ok []) .native := by
  refine ⟨⟨ran_listed _ _ _ fun _ => ⟨js "'/x'", rfl, rfl⟩, listed_ran _ _ _ fun _ => rfl, fun reported => ?_⟩,
    ⟨bytes "Session not found", js "'/x'", rfl, rfl⟩, rfl, fun ⟨_, reported⟩ => by cases reported⟩
  exact absurd (reported _ rfl).lynxSftp (by decide)

end Kessh.FailedListings
