import Kessh.Lib.Labelled
import Kessh.Pages.SftpPage
import Kessh.Pages.ShownPaths

set_option autoImplicit false

-- The two Lynx pages for files: the listings that they ask for, answered in any order.
namespace Kessh

open Ecma (JsString js join)
open Labelled

namespace SFTPPage

def compareFiles (localeCompare : JsString → JsString → Int) (a b : SFTPFile) : Int :=
  if a.isDir && !b.isDir then -1
  else if !a.isDir && b.isDir then 1
  else localeCompare a.name b.name

def withParent (localeCompare : JsString → JsString → Int) (path output : JsString) : List SFTPFile :=
  let parsed := (parseLs output).mergeSort fun a b => decide (compareFiles localeCompare a b ≤ 0)
  if path ≠ js "/" ∧ path.length > 1 then { name := js "..", isDir := true, size := [], permissions := [] } :: parsed
  else parsed

-- The path that a tap asks for, from the path of the render.
def navigate (currentPath : JsString) (file : SFTPFile) : Option JsString :=
  if !file.isDir then none
  else if file.name = js ".." then
    let segments := ((currentPath.splitOn 0x2F).filter fun segment => !segment.isEmpty).dropLast
    some (if segments.length > 0 then js "/" ++ join (js "/") segments else js "/")
  else if ArkTS.SFTPPage.endsWithSlash currentPath then some (currentPath ++ file.name)
  else some (currentPath ++ js "/" ++ file.name)

end SFTPPage

namespace LynxListings

-- What the pages differ in: the path they start with and list when they are connected, the text in front of
-- an error, the entries they make of an output, the path a tap asks for, and whether a path can be typed.
structure FilePage (File : Type) where
  start : JsString
  failure : JsString
  entries : JsString → JsString → List File
  navigate : JsString → File → Option JsString
  jumps : Bool

def sftpPage (localeCompare : JsString → JsString → Int) : FilePage SFTPFile where
  start := js "/"
  failure := js "列目录失败: "
  entries := SFTPPage.withParent localeCompare
  navigate := SFTPPage.navigate
  jumps := false

def scpPage : FilePage LynxSCPPage.FileItem where
  start := js "~"
  failure := js "加载文件失败: "
  entries path output := LynxSCPPage.parseLs output path
  navigate path file := if file.isDirectory then some (LynxSCPPage.navigate path file) else none
  jumps := true

-- The state of a page, what the last render has shown, and the listings on their way. Ghost: the path
-- and the output of each listing that has succeeded, newest first.
structure Page (File : Type) where
  sessionRef : Int := -1
  path : JsString
  files : List File := []
  told : List JsString := []
  shownPath : JsString
  shownFiles : List File := []
  requests : List (Int × JsString) := []
  succeeded : List (JsString × JsString) := []

inductive Event (File : Type) where
  | render
  | connected (sid : Int)
  | tap (file : File)
  | jump (path : JsString)
  | listed (request : Int × JsString) (result : Except JsString JsString)

variable {File : Type} [DecidableEq File] (kind : FilePage File)

def initial : Page File := { path := kind.start, shownPath := kind.start }

def listFiles (path : JsString) (page : Page File) : Page File :=
  if page.sessionRef ≤ 0 then page else { page with path, requests := (page.sessionRef, path) :: page.requests }

def listed (path : JsString) (result : Except JsString JsString) (page : Page File) : Page File :=
  match result with
  | .ok output => { page with files := kind.entries path output, succeeded := (path, output) :: page.succeeded }
  | .error message => { page with told := (kind.failure ++ message) :: page.told }

def step (page : Page File) : Event File → Option (Page File)
  | .render => some { page with shownPath := page.path, shownFiles := page.files }
  | .connected sid => if sid > 0 then some (listFiles kind.start { page with sessionRef := sid }) else none
  | .tap file =>
      if file ∈ page.shownFiles then
        some (match kind.navigate page.shownPath file with
          | some path => listFiles path page
          | none => page)
      else none
  | .jump path => if kind.jumps then some (listFiles path page) else none
  | .listed request result =>
      if request ∈ page.requests then
        some (listed kind request.2 result { page with requests := page.requests.erase request })
      else none

-- With nothing on its way, the entries are those of a listing of the path that is shown.
def Kept (page : Page File) : Prop :=
  page.requests = [] → page.succeeded ≠ [] →
    ∃ listing ∈ page.succeeded, listing.1 = page.path ∧ page.files = kind.entries page.path listing.2

-- The answer that comes last is one for the path, or else, where it is an error, the listing before was.
def Fits (page : Page File) : Event File → Prop
  | .listed request (.ok _) => page.requests = [request] → request.2 = page.path
  | .listed request (.error _) => page.requests = [request] → ∀ last, page.succeeded.head? = some last → last.1 = page.path
  | _ => True

structure Sound (page : Page File) : Prop where
  files : ∀ last, page.succeeded.head? = some last → page.files = kind.entries last.1 last.2
  settled : page.requests = [] → ∀ last, page.succeeded.head? = some last → last.1 = page.path

omit [DecidableEq File] in
theorem initial_sound : Sound kind (initial kind) where
  files := fun _ none => by cases none
  settled := fun _ _ none => by cases none

omit [DecidableEq File] in
theorem sound_kept (page : Page File) (sound : Sound kind page) : Kept kind page := by
  intro idle some
  obtain ⟨last, earlier, answered⟩ := List.exists_cons_of_ne_nil some
  have newest : page.succeeded.head? = last := by rw [answered]; rfl
  have path := sound.settled idle last newest
  exact ⟨last, answered ▸ List.mem_cons_self, path, path ▸ sound.files last newest⟩

omit [DecidableEq File] in
theorem listFiles_sound (path : JsString) (page : Page File) (sound : Sound kind page) :
    Sound kind (listFiles path page) := by
  unfold listFiles
  split
  · exact sound
  · exact ⟨sound.files, fun idle => by cases idle⟩

theorem step_sound (before : Page File) (event : Event File) (after : Page File) (sound : Sound kind before)
    (fits : Fits before event) (move : step kind before event = some after) : Sound kind after := by
  cases event with
  | render =>
      obtain rfl := Option.some.inj move
      exact ⟨sound.files, sound.settled⟩
  | connected sid =>
      obtain ⟨positive, same⟩ := Option.ite_none_right_eq_some.mp move
      obtain rfl := Option.some.inj same
      have waits : ¬ sid ≤ 0 := Int.not_le.mpr positive
      unfold listFiles
      rw [if_neg waits]
      exact ⟨sound.files, fun idle => by cases idle⟩
  | tap file =>
      obtain ⟨_, same⟩ := Option.ite_none_right_eq_some.mp move
      obtain rfl := Option.some.inj same
      split
      · exact listFiles_sound kind _ before sound
      · exact sound
  | jump path =>
      obtain ⟨_, same⟩ := Option.ite_none_right_eq_some.mp move
      obtain rfl := Option.some.inj same
      exact listFiles_sound kind path before sound
  | listed request result =>
      obtain ⟨waiting, same⟩ := Option.ite_none_right_eq_some.mp move
      obtain rfl := Option.some.inj same
      have alone : before.requests.erase request = [] → before.requests = [request] := by
        intro none
        have whole := List.perm_cons_erase waiting
        rw [none] at whole
        exact List.perm_singleton.mp whole
      cases result with
      | ok output =>
          refine ⟨fun last newest => ?_, fun idle last newest => ?_⟩
          · obtain rfl := Option.some.inj newest
            rfl
          · obtain rfl := Option.some.inj newest
            exact fits (alone idle)
      | error message => exact ⟨sound.files, fun idle => fits (alone idle)⟩

/-- In the runs of either page whose last answers are for the path that is shown, the entries are those of that path. -/
theorem listed_directory_shown (localeCompare : JsString → JsString → Int) :
    (∀ events, (Steps (step (sftpPage localeCompare)) (initial (sftpPage localeCompare)) events
        fun before event _ => Fits before event) →
      Always (step (sftpPage localeCompare)) (initial (sftpPage localeCompare)) events (Kept (sftpPage localeCompare))) ∧
    ∀ events, (Steps (step scpPage) (initial scpPage) events fun before event _ => Fits before event) →
      Always (step scpPage) (initial scpPage) events (Kept scpPage) := by
  have shown : ∀ {File : Type} [DecidableEq File] (kind : FilePage File) (events : List (Event File)),
      (Steps (step kind) (initial kind) events fun before event _ => Fits before event) →
      Always (step kind) (initial kind) events (Kept kind) := by
    intro File _ kind events
    exact fits_always (step kind) (initial kind) events (Sound kind) (Kept kind) (initial_sound kind) Fits (step_sound kind)
      (sound_kept kind)
  exact ⟨shown (sftpPage localeCompare), shown scpPage⟩

-- The directory 'a' is tapped, and its entries come.
def entered : List (Event LynxSCPPage.FileItem) :=
  [.connected 1, .listed (1, js "~") (.ok (js "drwxr-xr-x 2 u g 6 Dec 22 10:00 a")), .render,
    .tap (LynxSCPPage.listed (js "~") ⟨js "drwxr-xr-x", js "6", js "a"⟩), .listed (1, js "~/a") (.ok [])]

theorem listed_directory_shown_entered :
    Always (step scpPage) (initial scpPage) entered (Kept scpPage) ∧
      ∃ page, Run (Moves (step scpPage)) (initial scpPage) entered page := by
  refine ⟨(listed_directory_shown fun _ _ => 0).2 entered ?_, _, moves_run _ _ _ _ rfl⟩
  unfold entered
  iterate 5 rw [steps_cons _ _ _ _ _ _ rfl]
  exact ⟨trivial, fun _ => rfl, trivial, trivial, fun _ => rfl, steps_nil _ _ _⟩

-- The directory 'a' is tapped and '/' is typed; the answer for '/' comes first.
def overtaken : List (Event LynxSCPPage.FileItem) :=
  let line := js "drwxr-xr-x 2 u g 6 Dec 22 10:00 a"
  [.connected 1, .listed (1, js "~") (.ok line), .render, .tap (LynxSCPPage.listed (js "~") ⟨js "drwxr-xr-x", js "6", js "a"⟩),
    .jump (js "/"), .listed (1, js "/") (.ok line), .listed (1, js "~/a") (.ok [])]

theorem other_directory_shown : ¬ Always (step scpPage) (initial scpPage) overtaken (Kept scpPage) := by
  intro always
  have run : Run (Moves (step scpPage)) (initial scpPage) overtaken _ := moves_run (step scpPage) _ _ _ rfl
  have kept := always overtaken [] _ (List.append_nil _).symm run rfl (List.cons_ne_nil _ _)
  exact absurd kept (by decide)

end LynxListings

end Kessh
