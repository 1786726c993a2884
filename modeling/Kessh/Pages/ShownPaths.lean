import Kessh.Lib.SlashPath
import Kessh.Native.RemotePaths
import Kessh.Pages.LsOutput

set_option autoImplicit false

-- The paths that the two SCP pages show, and where a remote command is led by them.
namespace Kessh

open Ecma (JsString js utf8 join)
open Utf8 (Bytes)
open Interaction
open Native (Exchange bytes commands Commands)
open LsOutput (fullPath readRows Row)
open RemotePaths (Issues hasControl listTemplate downloadTemplate uploadTemplate)

namespace SCPPage

-- The current path after a tap on a row.
def navigateToDirectory (currentPath : JsString) (item : FileItem) : JsString :=
  if !item.isDirectory then currentPath
  else if item.name = js ".." then
    let parts := (currentPath.splitOn 0x2F).dropLast
    let path := if parts.length > 0 then join (js "/") parts else js "/"
    if path = [] then js "/" else path
  else item.path

-- What is in the list may have been read for an earlier path.
inductive Shown : JsString → Prop where
  | home : Shown (js "~")
  | root : Shown (js "/")
  | navigate (currentPath directory output : JsString) (item : FileItem) (here : Shown currentPath)
      (there : Shown directory) (listed : item ∈ parseLsOutput directory output) :
      Shown (navigateToDirectory currentPath item)

end SCPPage

namespace LynxSCPPage

def navigate (path : JsString) (file : FileItem) : JsString :=
  if !file.isDirectory then path
  else if file.name = js ".." then
    let segments := ((path.splitOn 0x2F).filter fun segment => !segment.isEmpty).dropLast
    if segments.length = 0 then js "/" else js "/" ++ join (js "/") segments
  else file.path

inductive Shown : JsString → Prop where
  | home : Shown (js "~")
  | root : Shown (js "/")
  | navigate (path directory output : JsString) (file : FileItem) (here : Shown path) (there : Shown directory)
      (listed : file ∈ parseLs output directory) : Shown (navigate path file)

end LynxSCPPage

namespace ShownPaths

-- The directories of either page, and the files that they download or upload.
inductive Directory : JsString → Prop where
  | arkts (path : JsString) (shown : SCPPage.Shown path) : Directory path
  | lynx (path : JsString) (shown : LynxSCPPage.Shown path) : Directory path

inductive Download : JsString → Prop where
  | arkts (directory output : JsString) (item : SCPPage.FileItem) (shown : SCPPage.Shown directory)
      (listed : item ∈ SCPPage.parseLsOutput directory output) (file : item.isDirectory = false) : Download item.path
  | lynx (directory output : JsString) (item : LynxSCPPage.FileItem) (shown : LynxSCPPage.Shown directory)
      (listed : item ∈ LynxSCPPage.parseLs output directory) (file : item.isDirectory = false) : Download item.path

inductive Upload : JsString → Prop where
  | arkts (directory fileName : JsString) (shown : SCPPage.Shown directory) : Upload (fullPath directory fileName)

def components (path : Bytes) : List Bytes := (path.splitOn 0x2F).filter fun name => !(name.isEmpty || name == bytes ".")

-- Where a word leads a command that starts in the home directory.
def denoted (home word : Bytes) : List Bytes :=
  if word.head? = some 0x2F then components word else components home ++ components word

-- What a path on a page names: a '~' in front is the home directory.
def named (home : Bytes) : Bytes → List Bytes
  | [0x7E] => components home
  | 0x7E :: 0x2F :: rest => components home ++ components rest
  | shown => denoted home shown

def Denotes (home : Bytes) (template : Bytes → PosixShell.Command) (shown : JsString) (line : Bytes) : Prop :=
  ∃ word, PosixShell.readCommandAt home line = some (template word) ∧ denoted home word = named home (utf8 shown)

def FromRoot (path : JsString) : Prop := path.head? = some 0x2F

def Rooted (path : JsString) : Prop := FromRoot path ∨ path = js "~" ∨ js "~/" <+: path

theorem fullPath_rooted (directory name : JsString) (rooted : Rooted directory) : Rooted (fullPath directory name) := by
  unfold fullPath
  by_cases root : directory = js "/"
  · rw [if_pos root]
    exact .inl rfl
  rw [if_neg root]
  rcases rooted with fromRoot | rfl | ⟨rest, rfl⟩
  · refine .inl ?_
    obtain ⟨more, rfl⟩ := List.head?_eq_some_iff.mp fromRoot
    rfl
  · exact .inr (.inr ⟨name, rfl⟩)
  · exact .inr (.inr ⟨rest ++ js "/" ++ name, by simp⟩)

theorem prefix_rooted (before last : JsString) (some : before ≠ []) (rooted : Rooted (before ++ 0x2F :: last)) :
    Rooted before := by
  obtain ⟨unit, rest, rfl⟩ := List.exists_cons_of_ne_nil some
  rcases rooted with fromRoot | home | ⟨more, below⟩
  · exact .inl fromRoot
  · have length := congrArg List.length home
    have one : (js "~").length = 1 := by decide
    simp [one] at length
  · have tilde : js "~/" = [0x7E, 0x2F] := by decide
    have single : js "~" = [0x7E] := by decide
    rw [tilde, List.cons_append, List.cons_append] at below
    obtain ⟨rfl, rest_below⟩ := List.cons.inj below
    cases rest with
    | nil => exact .inr (.inl single.symm)
    | cons second others =>
        obtain ⟨rfl, _⟩ := List.cons.inj rest_below
        exact .inr (.inr ⟨others, by rw [tilde]; rfl⟩)

theorem root_rooted : Rooted (js "/") := .inl rfl

theorem navigateToDirectory_rooted (currentPath : JsString) (item : SCPPage.FileItem) (rooted : Rooted currentPath)
    (entered : item.name ≠ js ".." → Rooted item.path) : Rooted (SCPPage.navigateToDirectory currentPath item) := by
  unfold SCPPage.navigateToDirectory
  by_cases directory : (!item.isDirectory) = true
  · rw [if_pos directory]
    exact rooted
  rw [if_neg directory]
  by_cases up : item.name = js ".."
  · rw [if_pos up]
    by_cases top : (currentPath.splitOn 0x2F).dropLast = []
    · simp only [top]
      exact root_rooted
    · have more : (currentPath.splitOn 0x2F).dropLast.length > 0 := List.length_pos_iff.mpr top
      simp only [if_pos more]
      by_cases empty : join (js "/") (currentPath.splitOn 0x2F).dropLast = []
      · rw [if_pos empty]
        exact root_rooted
      · rw [if_neg empty]
        obtain ⟨last, whole⟩ := SlashPath.parts_up currentPath top
        rw [whole] at rooted
        exact prefix_rooted _ last empty rooted
  · rw [if_neg up]
    exact entered up

theorem navigate_rooted (path : JsString) (file : LynxSCPPage.FileItem) (rooted : Rooted path)
    (entered : file.name ≠ js ".." → Rooted file.path) : Rooted (LynxSCPPage.navigate path file) := by
  unfold LynxSCPPage.navigate
  by_cases directory : (!file.isDirectory) = true
  · rw [if_pos directory]
    exact rooted
  rw [if_neg directory]
  by_cases up : file.name = js ".."
  · rw [if_pos up]
    by_cases top : ((path.splitOn 0x2F).filter fun segment => !segment.isEmpty).dropLast.length = 0
    · simp only [if_pos top]
      exact root_rooted
    · simp only [if_neg top]
      exact .inl rfl
  · rw [if_neg up]
    exact entered up

theorem listed_rows {File : Type} (output : JsString) (parents : List File) (listed : Row → File) (item : File)
    (member : item ∈ parents ++ readRows true listed output) : item ∈ parents ∨ ∃ row, item = listed row := by
  rcases List.mem_append.mp member with parent | entry
  · exact .inl parent
  · obtain ⟨raw, _, read⟩ := List.mem_filterMap.mp entry
    obtain ⟨row, _, rfl⟩ := Option.map_eq_some_iff.mp read
    exact .inr ⟨row, rfl⟩

theorem scp_listed (directory output : JsString) (item : SCPPage.FileItem)
    (member : item ∈ SCPPage.parseLsOutput directory output) :
    item = SCPPage.parentItem ∨ ∃ row, item = SCPPage.listed directory row := by
  refine (listed_rows output _ _ item member).imp_left fun parent => ?_
  unfold SCPPage.parents at parent
  split at parent
  · exact List.mem_singleton.mp parent
  · cases parent

theorem lynx_listed (directory output : JsString) (item : LynxSCPPage.FileItem)
    (member : item ∈ LynxSCPPage.parseLs output directory) :
    item = LynxSCPPage.parentItem ∨ ∃ row, item = LynxSCPPage.listed directory row := by
  refine (listed_rows output _ _ item member).imp_left fun parent => ?_
  unfold LynxSCPPage.parents at parent
  split at parent
  · exact List.mem_singleton.mp parent
  · cases parent

theorem scp_shown_rooted (path : JsString) (shown : SCPPage.Shown path) : Rooted path := by
  induction shown with
  | home => exact .inr (.inl rfl)
  | root => exact root_rooted
  | navigate currentPath directory output item here there listed current rooted =>
      refine navigateToDirectory_rooted currentPath item current fun other => ?_
      rcases scp_listed directory output item listed with rfl | ⟨row, rfl⟩
      · exact absurd rfl other
      · exact fullPath_rooted directory row.name rooted

theorem lynx_shown_rooted (path : JsString) (shown : LynxSCPPage.Shown path) : Rooted path := by
  induction shown with
  | home => exact .inr (.inl rfl)
  | root => exact root_rooted
  | navigate path directory output file here there listed current rooted =>
      refine navigate_rooted path file current fun other => ?_
      rcases lynx_listed directory output file listed with rfl | ⟨row, rfl⟩
      · exact absurd rfl other
      · exact fullPath_rooted directory row.name rooted

theorem directory_rooted (path : JsString) (directory : Directory path) : Rooted path := by
  cases directory with
  | arkts shown => exact scp_shown_rooted path shown
  | lynx shown => exact lynx_shown_rooted path shown

theorem download_rooted (path : JsString) (download : Download path) : Rooted path := by
  cases download with
  | arkts directory output item shown listed file =>
      rcases scp_listed directory output item listed with rfl | ⟨row, rfl⟩
      · cases file
      · exact fullPath_rooted directory row.name (scp_shown_rooted directory shown)
  | lynx directory output item shown listed file =>
      rcases lynx_listed directory output item listed with rfl | ⟨row, rfl⟩
      · cases file
      · exact fullPath_rooted directory row.name (lynx_shown_rooted directory shown)

theorem upload_rooted (path : JsString) (upload : Upload path) : Rooted path := by
  obtain ⟨directory, fileName, shown⟩ := upload
  exact fullPath_rooted directory fileName (scp_shown_rooted directory shown)

theorem utf8_home (rest : JsString) : utf8 (js "~/" ++ rest) = 0x7E :: 0x2F :: utf8 rest := Ecma.utf8_js_append "~/" rest

theorem utf8_root (rest : JsString) : utf8 (0x2F :: rest) = 0x2F :: utf8 rest := Ecma.utf8_js_append "/" rest

theorem components_home (rest : Bytes) : components (0x7E :: 0x2F :: rest) = [0x7E] :: components rest := by
  have pieces : ((0x7E : UInt8) :: 0x2F :: rest).splitOn 0x2F = [[0x7E]] ++ rest.splitOn 0x2F :=
    List.splitOn_append_cons_self [0x7E] rest
  rw [components, pieces, List.filter_append]
  rfl

theorem denoted_named (home : Bytes) (path : JsString) (rooted : Rooted path) :
    denoted home (utf8 path) = named home (utf8 path) ↔ FromRoot path := by
  rcases rooted with fromRoot | rfl | ⟨rest, rfl⟩
  · obtain ⟨rest, rfl⟩ := List.head?_eq_some_iff.mp fromRoot
    rw [utf8_root]
    exact iff_of_true rfl fromRoot
  · have tilde : utf8 (js "~") = [0x7E] := by decide
    have name : denoted home [0x7E] = components home ++ [[0x7E]] := rfl
    refine iff_of_false (fun same => ?_) (show (js "~").head? ≠ some 0x2F by decide)
    have place : named home [0x7E] = components home := rfl
    rw [tilde, name, place] at same
    exact absurd (List.append_right_eq_self.mp same) (List.cons_ne_nil _ _)
  · refine iff_of_false (fun same => ?_) (fun fromRoot => by cases fromRoot)
    have name : denoted home (0x7E :: 0x2F :: utf8 rest) = components home ++ components (0x7E :: 0x2F :: utf8 rest) := rfl
    rw [utf8_home, name, components_home] at same
    have length := congrArg List.length (List.append_cancel_left same)
    exact absurd length (Nat.succ_ne_self _)

theorem issued_denotes (home : Bytes) (path : JsString) (rooted : Rooted path) (events : List Exchange)
    (template : Bytes → PosixShell.Command) (injective : Function.Injective template)
    (issues : Issues path events template) (line : Bytes) (issued : line ∈ commands events) :
    Denotes home template path line ↔ FromRoot path := by
  unfold RemotePaths.Issues at issues
  cases control : hasControl path with
  | true =>
      rw [if_pos control] at issues
      rw [issues] at issued
      cases issued
  | false =>
      rw [if_neg (by simp [control])] at issues
      obtain ⟨only, single, read⟩ := issues
      have same : line = only := by
        rw [Commands] at single
        rw [single] at issued
        split at issued
        · exact List.mem_singleton.mp issued
        · cases issued
      subst same
      have readAt := PosixShell.readCommand_at home line _ read
      constructor
      · rintro ⟨word, readWord, leads⟩
        obtain rfl := injective (Option.some.inj (readWord.symm.trans readAt))
        exact (denoted_named home path rooted).mp leads
      · exact fun fromRoot => ⟨utf8 path, readAt, (denoted_named home path rooted).mpr fromRoot⟩

theorem engine_download_issues (sessionId : Int) (path : JsString) (events : List Exchange)
    (result : Except JsString JsString) (trace : Trace (SSHEngine.downloadFile sessionId path) events result) :
    Issues path events downloadTemplate := by
  obtain ⟨native, ran, _⟩ := trace_then _ _ (fun native => by cases native <;> exact ⟨_, rfl⟩) _ _ trace
  exact RemotePaths.downloadFile_issues sessionId path events native ran

theorem engine_upload_issues (sessionId : Int) (path content : JsString) (events : List Exchange)
    (result : Except JsString Int) (trace : Trace (SSHEngine.uploadFile sessionId path content) events result) :
    Issues path events uploadTemplate := by
  obtain ⟨native, ran, _⟩ := trace_then _ _ (fun native => by cases native <;> exact ⟨_, rfl⟩) _ _ trace
  exact RemotePaths.uploadFile_issues sessionId path _ events native ran

/-- The word that a command gets for a directory or a file of the SCP pages leads to where the
path on the page says, from whatever home directory, exactly when the path starts at the root. -/
theorem shown_paths_used (home : Bytes) (sessionId : Int) (path : JsString) (events : List Exchange) :
    (Directory path → ∀ result, Trace (SSHEngine.listFiles sessionId path) events result →
      ∀ line ∈ commands events, (Denotes home listTemplate path line ↔ FromRoot path)) ∧
    (Download path → ∀ result, Trace (SSHEngine.downloadFile sessionId path) events result →
      ∀ line ∈ commands events, (Denotes home downloadTemplate path line ↔ FromRoot path)) ∧
    (Upload path → ∀ content result, Trace (SSHEngine.uploadFile sessionId path content) events result →
      ∀ line ∈ commands events, (Denotes home uploadTemplate path line ↔ FromRoot path)) := by
  refine ⟨fun directory result trace => ?_, fun download result trace => ?_, fun upload content result trace => ?_⟩
  · refine issued_denotes home path (directory_rooted path directory) events listTemplate ?_
      (RemotePaths.listFiles_issues sessionId path events result trace)
    intro left right same
    simpa [listTemplate] using same
  · refine issued_denotes home path (download_rooted path download) events downloadTemplate ?_
      (engine_download_issues sessionId path events result trace)
    intro left right same
    simpa [downloadTemplate] using same
  · refine issued_denotes home path (upload_rooted path upload) events uploadTemplate ?_
      (engine_upload_issues sessionId path content events result trace)
    intro left right same
    simpa [uploadTemplate] using same

theorem shown_paths_used_root :
    Denotes (bytes "/home/u") listTemplate (js "/") (bytes "ls -la -- '/' 2>&1") :=
  ((shown_paths_used (bytes "/home/u") 1 (js "/")
    (RemotePaths.commandEvents (bytes "ls -la -- '/' 2>&1") (bytes "total 0") 4096 true)).1 (.arkts _ .root) _ rfl _
    (List.mem_singleton.mpr rfl)).mpr rfl

-- The first listing of either page is that of a file called '~' in the home directory.
theorem home_not_listed :
    Directory (js "~") ∧
      Trace (SSHEngine.listFiles 1 (js "~")) (RemotePaths.commandEvents (bytes "ls -la -- '~' 2>&1") (bytes "no") 4096 true)
        (.ok (js "no")) ∧
      bytes "ls -la -- '~' 2>&1" ∈
        commands (RemotePaths.commandEvents (bytes "ls -la -- '~' 2>&1") (bytes "no") 4096 true) ∧
      ¬ Denotes (bytes "/home/u") listTemplate (js "~") (bytes "ls -la -- '~' 2>&1") := by
  have trace : Trace (SSHEngine.listFiles 1 (js "~"))
      (RemotePaths.commandEvents (bytes "ls -la -- '~' 2>&1") (bytes "no") 4096 true) (.ok (js "no")) := rfl
  have issued : bytes "ls -la -- '~' 2>&1" ∈
      commands (RemotePaths.commandEvents (bytes "ls -la -- '~' 2>&1") (bytes "no") 4096 true) := List.mem_singleton.mpr rfl
  refine ⟨.arkts _ .home, trace, issued, fun denotes => ?_⟩
  have read : PosixShell.readCommandAt (bytes "/home/u") (bytes "ls -la -- '~' 2>&1") = some (listTemplate [0x7E]) := by decide
  obtain ⟨word, here, leads⟩ := denotes
  have same : word = [0x7E] := by simpa [listTemplate] using here.symm.trans read
  subst same
  exact absurd leads (by decide)

end ShownPaths

end Kessh
