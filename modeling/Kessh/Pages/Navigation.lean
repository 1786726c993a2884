import Kessh.Lib.SlashPath
import Kessh.Pages.ListingParity

set_option autoImplicit false

-- The way down into a directory and up again, on the four pages for files.
namespace Kessh.Navigation

open Ecma (JsString js join)
open LsOutput (Row fullPath)
open ShownPaths (FromRoot)
open SlashPath

-- What the pages differ in: the paths they start at, the entries of a row, what stands in front of the
-- entries, and the path that a tap asks for.
structure Navigator (File : Type) where
  starts : List JsString
  listed : JsString → Row → File
  parent : File
  parents : JsString → List File
  request : JsString → File → Option JsString

def arktsScp : Navigator SCPPage.FileItem where
  starts := [js "~", js "/"]
  listed := SCPPage.listed
  parent := SCPPage.parentItem
  parents := SCPPage.parents
  request path item := if item.isDirectory then some (SCPPage.navigateToDirectory path item) else none

def lynxScp : Navigator LynxSCPPage.FileItem where
  starts := [js "~", js "/"]
  listed := LynxSCPPage.listed
  parent := LynxSCPPage.parentItem
  parents := LynxSCPPage.parents
  request := LynxListings.scpPage.navigate

def arktsSftp : Navigator SFTPFile where
  starts := [js "/"]
  listed _ row := SFTPFile.listed row
  parent := ArkTS.SFTPPage.parentFile
  parents := ArkTS.SFTPPage.parents
  request path file := if file.isDir then some (ArkTS.SFTPPage.newPath path file) else none

def lynxSftp : Navigator SFTPFile where
  starts := [js "/"]
  listed _ row := SFTPFile.listed row
  parent := ArkTS.SFTPPage.parentFile
  parents path := if path ≠ js "/" ∧ path.length > 1 then [ArkTS.SFTPPage.parentFile] else []
  request := SFTPPage.navigate

/-- The ArkTS page for SFTP asks for the path that its navigate lists. -/
theorem navigate_request (localeCompare : JsString → JsString → Int) (file : SFTPFile) (output : JsString)
    (w : ArkTS.SFTPPage.World) :
    ArkTS.SFTPPage.navigate localeCompare file output w =
      match arktsSftp.request w.page.currentPath file with
      | none => w
      | some path => ArkTS.SFTPPage.listFiles localeCompare path output w := by
  cases directory : file.isDir <;> simp [ArkTS.SFTPPage.navigate, arktsSftp, directory]

structure Named (name : JsString) : Prop where
  some : name ≠ []
  slashless : 0x2F ∉ name
  dot : name ≠ js "."
  dots : name ≠ js ".."

structure Directory (row : Row) : Prop where
  isDirectory : row.isDirectory = true
  named : Named row.name

inductive Navigator.Reached {File : Type} (page : Navigator File) : JsString → Prop where
  | start (path : JsString) (starts : path ∈ page.starts) : page.Reached path
  | enter (path next : JsString) (row : Row) (here : page.Reached path) (directory : Directory row)
      (move : page.request path (page.listed path row) = some next) : page.Reached next
  | up (path next : JsString) (here : page.Reached path) (offered : page.parent ∈ page.parents path)
      (move : page.request path page.parent = some next) : page.Reached next

-- After a directory has been entered the way up is offered, and leads back.
def Navigator.Returns {File : Type} (page : Navigator File) (path : JsString) (row : Row) : Prop :=
  ∃ next, page.request path (page.listed path row) = some next ∧ page.parent ∈ page.parents next ∧
    page.request next page.parent = some path

theorem endsWithSlash_fromRoot (names : List JsString) (tidy : Tidy names) (some : names ≠ []) :
    ArkTS.SFTPPage.endsWithSlash (fromRoot names) = false := beq_false_of_ne (fromRoot_last names tidy some)

theorem arktsSftp_enter (names : List JsString) (tidy : Tidy names) (row : Row) (directory : Directory row) :
    arktsSftp.request (fromRoot names) (arktsSftp.listed (fromRoot names) row) = some (fromRoot (names ++ [row.name])) := by
  have isDir : (SFTPFile.listed row).isDir = true := directory.isDirectory
  have name : (SFTPFile.listed row).name = row.name := rfl
  unfold arktsSftp ArkTS.SFTPPage.newPath
  dsimp only
  rw [if_pos isDir, name, if_neg directory.named.dots, fromRoot_enter]
  by_cases none : names = []
  · rw [if_pos none, none, if_pos (by decide)]
    rfl
  · rw [if_neg none, if_neg (by rw [endsWithSlash_fromRoot names tidy none]; exact Bool.false_ne_true)]

theorem lynxSftp_enter (names : List JsString) (tidy : Tidy names) (row : Row) (directory : Directory row) :
    lynxSftp.request (fromRoot names) (lynxSftp.listed (fromRoot names) row) = some (fromRoot (names ++ [row.name])) := by
  have isDir : (SFTPFile.listed row).isDir = true := directory.isDirectory
  have name : (SFTPFile.listed row).name = row.name := rfl
  unfold lynxSftp SFTPPage.navigate
  dsimp only
  rw [isDir, name, Bool.not_true, if_neg Bool.false_ne_true, if_neg directory.named.dots, fromRoot_enter]
  by_cases none : names = []
  · rw [if_pos none, none, if_pos (by decide)]
    rfl
  · rw [if_neg none, if_neg (by rw [endsWithSlash_fromRoot names tidy none]; exact Bool.false_ne_true)]

theorem arktsSftp_up (names : List JsString) (tidy : Tidy names) :
    arktsSftp.request (fromRoot names) arktsSftp.parent = some (fromRoot names.dropLast) := by
  have parent : ArkTS.SFTPPage.parentFile.name = js ".." := rfl
  unfold arktsSftp ArkTS.SFTPPage.newPath
  dsimp only
  rw [if_pos (show ArkTS.SFTPPage.parentFile.isDir = true from rfl), if_pos parent]
  by_cases none : names = []
  · rw [none]
    decide
  · rw [endsWithSlash_fromRoot names tidy none, if_neg Bool.false_ne_true, fromRoot_splitOn names tidy none,
      List.dropLast_cons_of_ne_nil none]
    by_cases top : names.dropLast = []
    · rw [top]
      decide
    · rw [← fromRoot_join _ top]
      rfl

theorem lynxSftp_up (names : List JsString) (tidy : Tidy names) :
    lynxSftp.request (fromRoot names) lynxSftp.parent = some (fromRoot names.dropLast) := by
  have parent : ArkTS.SFTPPage.parentFile.name = js ".." := rfl
  unfold lynxSftp SFTPPage.navigate
  dsimp only
  rw [show ArkTS.SFTPPage.parentFile.isDir = true from rfl, Bool.not_true, if_neg Bool.false_ne_true, if_pos parent,
    fromRoot_segments names tidy, segments_up]

inductive Choice where
  | enter (row : Row)
  | up

def Navigator.choose {File : Type} (page : Navigator File) (path : JsString) : Choice → Option JsString
  | .enter row => page.request path (page.listed path row)
  | .up => page.request path page.parent

def Navigator.requests {File : Type} (page : Navigator File) : JsString → List Choice → List JsString
  | _, [] => []
  | path, choice :: rest =>
      match page.choose path choice with
      | some next => next :: page.requests next rest
      | none => page.requests path rest

def Choice.Proper : Choice → Prop
  | .enter row => Directory row
  | .up => True

def Choice.names (names : List JsString) : Choice → List JsString
  | .enter row => names ++ [row.name]
  | .up => names.dropLast

theorem choose_names (names : List JsString) (tidy : Tidy names) (choice : Choice) (proper : choice.Proper) :
    arktsSftp.choose (fromRoot names) choice = some (fromRoot (choice.names names)) ∧
      lynxSftp.choose (fromRoot names) choice = some (fromRoot (choice.names names)) := by
  cases choice with
  | enter row => exact ⟨arktsSftp_enter names tidy row proper, lynxSftp_enter names tidy row proper⟩
  | up => exact ⟨arktsSftp_up names tidy, lynxSftp_up names tidy⟩

theorem names_tidy (names : List JsString) (tidy : Tidy names) (choice : Choice) (proper : choice.Proper) :
    Tidy (choice.names names) := by
  cases choice with
  | enter row => exact tidy_enter names row.name tidy proper.named.some proper.named.slashless
  | up => exact tidy_up names tidy

theorem requests_agree (choices : List Choice) (proper : ∀ choice ∈ choices, choice.Proper) (names : List JsString)
    (tidy : Tidy names) :
    arktsSftp.requests (fromRoot names) choices = lynxSftp.requests (fromRoot names) choices ∧
      ∀ path ∈ arktsSftp.requests (fromRoot names) choices, ∃ names, Tidy names ∧ path = fromRoot names := by
  induction choices generalizing names with
  | nil => exact ⟨rfl, fun path none => by cases none⟩
  | cons choice rest ih =>
      have first := proper choice List.mem_cons_self
      obtain ⟨arkts, lynx⟩ := choose_names names tidy choice first
      have next := names_tidy names tidy choice first
      obtain ⟨agree, paths⟩ := ih (fun other member => proper other (List.mem_cons_of_mem _ member)) _ next
      rw [Navigator.requests, Navigator.requests, arkts, lynx]
      dsimp only
      exact ⟨congrArg _ agree, List.forall_mem_cons.mpr ⟨⟨_, next, rfl⟩, paths⟩⟩

def Absolute (path : JsString) : Prop :=
  path = js "/" ∨ ∃ rest, path = js "/" ++ rest ∧ ∀ segment ∈ rest.splitOn 0x2F, segment ≠ []

def Offered (files : List SFTPFile) : Prop := ∃ file ∈ files, file.name = js ".."

theorem fromRoot_absolute (names : List JsString) (tidy : Tidy names) : Absolute (fromRoot names) := by
  by_cases none : names = []
  · exact .inl ((fromRoot_root names tidy).mpr none)
  · refine .inr ⟨_, rfl, fun segment member => ?_⟩
    rw [splitOn_join names none fun name here => (tidy name here).2] at member
    exact (tidy segment member).1

theorem offered_shown (names : List JsString) (tidy : Tidy names) (localeCompare : JsString → JsString → Int) (output : JsString) :
    (Offered (ArkTS.SFTPPage.shownFiles localeCompare (fromRoot names) output) ↔ fromRoot names ≠ js "/") ∧
      (Offered (SFTPPage.withParent localeCompare (fromRoot names) output) ↔ fromRoot names ≠ js "/") := by
  have unnamed := fun trims => ListingParity.listed_named trims output
  constructor
  · unfold Offered ArkTS.SFTPPage.shownFiles ArkTS.SFTPPage.parsedFiles ArkTS.SFTPPage.parents
    simp only [List.mem_mergeSort]
    by_cases none : names = []
    · rw [none, if_neg (by decide)]
      refine iff_of_false (fun ⟨file, member, dots⟩ => unnamed false file ?_ dots) fun other => other (by decide)
      simpa using member
    · obtain ⟨other, long⟩ := fromRoot_longer names tidy none
      rw [if_pos ⟨other, long⟩]
      exact iff_of_true ⟨_, List.mem_append_left _ List.mem_cons_self, rfl⟩ other
  · unfold Offered SFTPPage.withParent SFTPPage.parseLs
    dsimp only
    by_cases none : names = []
    · rw [none, if_neg (by decide)]
      refine iff_of_false (fun ⟨file, member, dots⟩ => unnamed true file ?_ dots) fun other => other (by decide)
      simpa using member
    · obtain ⟨other, long⟩ := fromRoot_longer names tidy none
      rw [if_pos ⟨other, long⟩]
      exact iff_of_true ⟨_, List.mem_cons_self, rfl⟩ other

theorem sftp_returns (names : List JsString) (tidy : Tidy names) (row : Row) (directory : Directory row) :
    arktsSftp.Returns (fromRoot names) row ∧ lynxSftp.Returns (fromRoot names) row := by
  have entered := tidy_enter names row.name tidy directory.named.some directory.named.slashless
  have some : names ++ [row.name] ≠ [] := by simp
  have back : (names ++ [row.name]).dropLast = names := List.dropLast_concat
  obtain ⟨other, long⟩ := fromRoot_longer _ entered some
  constructor
  · refine ⟨_, arktsSftp_enter names tidy row directory, ?_, (arktsSftp_up _ entered).trans (by rw [back])⟩
    unfold arktsSftp ArkTS.SFTPPage.parents
    dsimp only
    rw [if_pos ⟨other, long⟩]
    exact List.mem_cons_self
  · refine ⟨_, lynxSftp_enter names tidy row directory, ?_, (lynxSftp_up _ entered).trans (by rw [back])⟩
    unfold lynxSftp
    dsimp only
    rw [if_pos ⟨other, long⟩]
    exact List.mem_cons_self

/-- Whatever is chosen from the root on, both SFTP pages ask for the same paths. Each is absolute, the way up
from a directory in it leads back to it, and the way up is offered in its list unless it is the root. -/
theorem sftp_navigation_agrees (choices : List Choice) (proper : ∀ choice ∈ choices, choice.Proper) :
    arktsSftp.requests (js "/") choices = lynxSftp.requests (js "/") choices ∧
      ∀ path ∈ js "/" :: arktsSftp.requests (js "/") choices, Absolute path ∧
        (∀ row, Directory row → arktsSftp.Returns path row ∧ lynxSftp.Returns path row) ∧
        ∀ localeCompare output, (Offered (ArkTS.SFTPPage.shownFiles localeCompare path output) ↔ path ≠ js "/") ∧
          (Offered (SFTPPage.withParent localeCompare path output) ↔ path ≠ js "/") := by
  have root : js "/" = fromRoot [] := by decide
  have none : Tidy [] := fun name member => by cases member
  obtain ⟨agree, paths⟩ := requests_agree choices proper [] none
  rw [root]
  refine ⟨agree, fun path member => ?_⟩
  obtain ⟨names, tidy, rfl⟩ : ∃ names, Tidy names ∧ path = fromRoot names := by
    rcases List.mem_cons.mp member with rfl | asked
    · exact ⟨[], none, rfl⟩
    · exact paths path asked
  rw [← root]
  exact ⟨fromRoot_absolute names tidy, sftp_returns names tidy, offered_shown names tidy⟩

def directoryA : Row := ⟨js "drwxr-xr-x", js "6", js "a"⟩

theorem directoryA_directory : Directory directoryA := ⟨by decide, by decide, by decide, by decide, by decide⟩

theorem sftp_navigation_agrees_down :
    arktsSftp.requests (js "/") [.enter directoryA, .enter directoryA, .up] =
      lynxSftp.requests (js "/") [.enter directoryA, .enter directoryA, .up] := by
  have proper : ∀ choice ∈ [Choice.enter directoryA, .enter directoryA, .up], choice.Proper := by
    simp [Choice.Proper, directoryA_directory]
  exact (sftp_navigation_agrees _ proper).1

theorem fullPath_below (path name : JsString) (named : Named name) : fullPath path name ≠ js "/" ∧ fullPath path name ≠ js "~" := by
  have length : 1 < (fullPath path name).length := by
    have one : (js "/").length = 1 := by decide
    have positive := List.length_pos_iff.mpr named.some
    unfold fullPath
    split
    · rw [List.length_append, one]
      omega
    · rw [List.length_append, List.length_append, one]
      omega
  constructor
  · intro same
    rw [same] at length
    exact absurd length (by decide)
  · intro same
    rw [same] at length
    exact absurd length (by decide)

theorem arktsScp_enter (path : JsString) (row : Row) (directory : Directory row) :
    arktsScp.request path (arktsScp.listed path row) = some (fullPath path row.name) := by
  have isDirectory : (SCPPage.listed path row).isDirectory = true := directory.isDirectory
  have name : (SCPPage.listed path row).name = row.name := rfl
  unfold arktsScp SCPPage.navigateToDirectory
  dsimp only
  rw [if_pos isDirectory, isDirectory, Bool.not_true, if_neg Bool.false_ne_true, name, if_neg directory.named.dots]
  rfl

theorem lynxScp_enter (path : JsString) (row : Row) (directory : Directory row) :
    lynxScp.request path (lynxScp.listed path row) = some (fullPath path row.name) := by
  have isDirectory : (LynxSCPPage.listed path row).isDirectory = true := directory.isDirectory
  have name : (LynxSCPPage.listed path row).name = row.name := rfl
  unfold lynxScp LynxListings.scpPage LynxSCPPage.navigate
  dsimp only
  rw [if_pos isDirectory, isDirectory, Bool.not_true, if_neg Bool.false_ne_true, name, if_neg directory.named.dots]
  rfl

theorem arktsScp_offered (path : JsString) (other : path ≠ js "/" ∧ path ≠ js "~") : arktsScp.parent ∈ arktsScp.parents path := by
  unfold arktsScp SCPPage.parents
  dsimp only
  rw [if_pos other]
  exact List.mem_cons_self

theorem lynxScp_offered (path : JsString) (other : path ≠ js "/" ∧ path ≠ js "~") : lynxScp.parent ∈ lynxScp.parents path := by
  unfold lynxScp LynxSCPPage.parents
  dsimp only
  rw [if_pos other]
  exact List.mem_cons_self

-- And up: what is left of the last slash, or the names without the last one.
def above (path : JsString) : JsString :=
  let parts := (path.splitOn 0x2F).dropLast
  let joined := if parts.length > 0 then join (js "/") parts else js "/"
  if joined = [] then js "/" else joined

theorem arktsScp_up (path : JsString) : arktsScp.request path arktsScp.parent = some (above path) := by
  have parent : SCPPage.parentItem.name = js ".." := rfl
  unfold arktsScp SCPPage.navigateToDirectory
  dsimp only
  rw [if_pos (show SCPPage.parentItem.isDirectory = true from rfl), show SCPPage.parentItem.isDirectory = true from rfl,
    Bool.not_true, if_neg Bool.false_ne_true, if_pos parent]
  rfl

theorem above_some (path : JsString) : above path ≠ [] := by
  unfold above
  dsimp only
  generalize (if (path.splitOn 0x2F).dropLast.length > 0 then join (js "/") (path.splitOn 0x2F).dropLast else js "/") = joined
  by_cases none : joined = []
  · rw [if_pos none]
    decide
  · rw [if_neg none]
    exact none

theorem above_fullPath (path name : JsString) (some : path ≠ []) (slashless : 0x2F ∉ name) : above (fullPath path name) = path := by
  have name_only : name.splitOn 0x2F = [name] := List.splitOn_eq_singleton slashless
  unfold fullPath
  by_cases root : path = js "/"
  · have parts : (js "/" ++ name).splitOn 0x2F = [] :: [name] := by
      rw [← name_only]
      exact List.splitOn_append_cons_self [] name
    rw [if_pos root, above, parts, root]
    rfl
  · have parts : (path ++ js "/" ++ name).splitOn 0x2F = path.splitOn 0x2F ++ [name] := by
      rw [← name_only, List.append_assoc]
      exact List.splitOn_append_cons_self path name
    have whole : join (js "/") (path.splitOn 0x2F) = path := by
      rw [slash]
      exact List.intercalate_splitOn 0x2F
    rw [if_neg root, above, parts, List.dropLast_concat, if_pos (List.length_pos_iff.mpr (List.splitOn_ne_nil _ _)), whole,
      if_neg some]

theorem arktsScp_reached (path : JsString) (reached : arktsScp.Reached path) : path ≠ [] := by
  induction reached with
  | start path starts =>
      rcases List.mem_cons.mp starts with rfl | root
      · decide
      · rw [List.mem_singleton.mp root]
        decide
  | enter path next row here directory move some =>
      rw [arktsScp_enter path row directory] at move
      obtain rfl := Option.some.inj move
      unfold fullPath
      split <;> simp [slash]
  | up path next here offered move some =>
      rw [arktsScp_up] at move
      obtain rfl := Option.some.inj move
      exact above_some path

theorem lynxScp_up (path : JsString) : lynxScp.request path lynxScp.parent =
    some (fromRoot ((path.splitOn 0x2F).filter fun segment => !segment.isEmpty).dropLast) := by
  have parent : LynxSCPPage.parentItem.name = js ".." := rfl
  unfold lynxScp LynxListings.scpPage LynxSCPPage.navigate
  dsimp only
  rw [if_pos (show LynxSCPPage.parentItem.isDirectory = true from rfl), show LynxSCPPage.parentItem.isDirectory = true from rfl,
    Bool.not_true, if_neg Bool.false_ne_true, if_pos parent, ← segments_up]
  cases ((path.splitOn 0x2F).filter fun segment => !segment.isEmpty).dropLast with
  | nil => rfl
  | cons name rest => rw [if_neg (by simp), if_pos (by simp)]

theorem fromRoot_fullPath (names : List JsString) (tidy : Tidy names) (name : JsString) :
    fullPath (fromRoot names) name = fromRoot (names ++ [name]) := by
  rw [fromRoot_enter, fullPath]
  by_cases none : names = []
  · rw [if_pos none, if_pos ((fromRoot_root names tidy).mpr none)]
  · rw [if_neg none, if_neg fun root => none ((fromRoot_root names tidy).mp root)]

theorem lynxScp_reached (path : JsString) (reached : lynxScp.Reached path) :
    (∃ names, Tidy names ∧ path = fromRoot names) ∨ ¬ FromRoot path ∧ path ≠ [] := by
  induction reached with
  | start path starts =>
      rcases List.mem_cons.mp starts with rfl | root
      · exact .inr ⟨show (js "~").head? ≠ some 0x2F by decide, by decide⟩
      · rw [List.mem_singleton.mp root]
        exact .inl ⟨[], (fun name none => by cases none), by decide⟩
  | enter path next row here directory move ih =>
      rw [lynxScp_enter path row directory] at move
      obtain rfl := Option.some.inj move
      rcases ih with ⟨names, tidy, rfl⟩ | ⟨home, some⟩
      · exact .inl ⟨_, tidy_enter names row.name tidy directory.named.some directory.named.slashless, fromRoot_fullPath names tidy row.name⟩
      · have other : path ≠ js "/" := by
          rintro rfl
          exact home rfl
        obtain ⟨unit, rest, rfl⟩ := List.exists_cons_of_ne_nil some
        rw [fullPath, if_neg other]
        exact .inr ⟨home, List.cons_ne_nil _ _⟩
  | up path next here offered move ih =>
      rw [lynxScp_up] at move
      obtain rfl := Option.some.inj move
      exact .inl ⟨_, segments_tidy path, rfl⟩

/-- The way up leads back to every path that the ArkTS page for SCP can reach, and on the Lynx page
to those that start at the root. -/
theorem scp_returns (path : JsString) (row : Row) (directory : Directory row) :
    (arktsScp.Reached path → arktsScp.Returns path row) ∧
      (lynxScp.Reached path → (lynxScp.Returns path row ↔ FromRoot path)) := by
  constructor <;> intro reached
  · refine ⟨_, arktsScp_enter path row directory, arktsScp_offered _ (fullPath_below path row.name directory.named), ?_⟩
    rw [arktsScp_up, above_fullPath path row.name (arktsScp_reached path reached) directory.named.slashless]
  · have entered := lynxScp_enter path row directory
    rcases lynxScp_reached path reached with ⟨names, tidy, rfl⟩ | ⟨home, _⟩
    · refine iff_of_true ⟨_, entered, lynxScp_offered _ (fullPath_below _ row.name directory.named), ?_⟩ rfl
      rw [lynxScp_up, fromRoot_fullPath names tidy, fromRoot_segments _ (tidy_enter names row.name tidy directory.named.some directory.named.slashless),
        List.dropLast_concat]
    · refine iff_of_false (fun ⟨next, move, _, back⟩ => ?_) home
      rw [lynxScp_up] at back
      exact home (Option.some.inj back ▸ rfl)

theorem scp_returns_home : arktsScp.Returns (js "~") directoryA ∧ lynxScp.Returns (js "/") directoryA :=
  ⟨(scp_returns _ _ directoryA_directory).1 (.start _ (by decide)),
    ((scp_returns _ _ directoryA_directory).2 (.start _ (by decide))).mpr rfl⟩

-- From 'a' in the home directory the Lynx page goes up to '/~'.
theorem home_not_returned : lynxScp.Reached (js "~") ∧ ¬ lynxScp.Returns (js "~") directoryA := by
  refine ⟨.start _ (by decide), fun ⟨next, move, _, back⟩ => ?_⟩
  rw [lynxScp_enter _ _ directoryA_directory] at move
  obtain rfl := Option.some.inj move
  exact absurd back (by decide)

end Kessh.Navigation
