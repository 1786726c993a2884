import Kessh.Lib.Labelled
import Kessh.Pages.SftpPage
import Kessh.Pages.ShownPaths

set_option autoImplicit false

-- The ArkTS page for SCP: one session from its appearance to its end, listings that are there at once, and
-- pickers and dialogs that are answered later.
namespace Kessh.SCPPage

open Ecma (JsString js)
open Utf8 (Bytes)
open Ledger Labelled
open LsOutput (fullPath)
open RemotePaths (hasControl)
open ArkTS.SFTPPage (owners)

-- What a dialog has been opened for: its path is the one of that moment.
structure Upload where
  remotePath : JsString
  content : JsString
deriving DecidableEq

-- The selectLocalFile calls that wait for their picker, the dialogs that are open, the timers that go back. The
-- ledger has the session, the commands on it and its close. Ghost: the last listing that has been read.
structure Page where
  appeared : Bool := false
  present : Bool := true
  sessionId : Int := -1
  isConnected : Bool := false
  currentPath : JsString := js "~"
  remoteFiles : List FileItem := []
  picking : Nat := 0
  dialogs : List Upload := []
  backs : Nat := 0
  told : List JsString := []
  listing : Option (JsString × JsString) := none
  ledger : List (Entry Int) := []

-- A listing comes with the output of the engine, a file that was picked with its uri and its bytes.
inductive Event where
  | aboutToAppear (record : Option ConnectionRecord) (password : Option JsString) (sid : Int) (output : JsString)
  | tap (item : FileItem) (output : JsString)
  | home (output : JsString)
  | root (output : JsString)
  | selectLocalFile
  | picked (result : Except JsString (Option (JsString × Bytes)))
  | answered (dialog : Upload) (index : Nat) (result : Except JsString Int) (output : JsString)
  | download (item : FileItem) (result : Except JsString JsString)
  | back
  | aboutToDisappear

def tell (message : JsString) (page : Page) : Page := { page with told := message :: page.told }

-- A path that cannot be quoted throws before the engine is asked: the files stay.
def loadRemoteFiles (output : JsString) (page : Page) : Page :=
  if page.sessionId ≤ 0 then page
  else
    match SSHEngine.shellQuoteArg page.currentPath with
    | .error _ => tell (js "加载文件失败") page
    | .ok _ =>
        { page with
          remoteFiles := parseLsOutput page.currentPath output
          listing := some (page.currentPath, output)
          ledger := .use page.sessionId :: page.ledger }

-- Without a password the page is replaced by the form for one. A failed page goes back after a second.
def connectToHost (password : Option JsString) (sid : Int) (output : JsString) (page : Page) : Page :=
  if !truthy password then tell (js "请输入密码后连接") page
  else
    let page := { page with sessionId := sid }
    if sid ≤ 0 then tell (js "连接失败: " ++ js "SSH连接失败") { page with backs := page.backs + 1 }
    else
      let page := loadRemoteFiles output { page with ledger := .acquire sid :: page.ledger }
      tell (js "连接成功") { page with isConnected := true }

def aboutToAppear (record : Option ConnectionRecord) (password : Option JsString) (sid : Int) (output : JsString)
    (page : Page) : Page :=
  let page := { page with appeared := true }
  if record.isSome then connectToHost password sid output page else page

def moveTo (path output : JsString) (page : Page) : Page := loadRemoteFiles output { page with currentPath := path }

def fileName (uri : JsString) : JsString := (uri.splitOn 0x2F).getLastD []

-- The file is read before the dialog opens.
def picked (result : Except JsString (Option (JsString × Bytes))) (page : Page) : Page :=
  match result with
  | .error message => tell (js "选择文件失败: " ++ message) page
  | .ok none => page
  | .ok (some (uri, buffer)) =>
      { page with dialogs := ⟨fullPath page.currentPath (fileName uri), selectLocalFile buffer⟩ :: page.dialogs }

def upload (result : Except JsString Int) (output : JsString) (page : Page) : Page :=
  if page.sessionId ≤ 0 then tell (js "SSH连接已断开") page
  else
    let page := { page with ledger := .use page.sessionId :: page.ledger }
    match result with
    | .error message => tell (js "上传失败: " ++ message) page
    | .ok bytesWritten =>
        loadRemoteFiles output (tell (js "上传成功: " ++ Ecma.decimalInt bytesWritten ++ js " 字节") page)

def download (item : FileItem) (result : Except JsString JsString) (page : Page) : Page :=
  if item.isDirectory then tell (js "暂不支持下载文件夹") page
  else if page.sessionId ≤ 0 then tell (js "SSH连接已断开") page
  else
    let page := { page with ledger := .use page.sessionId :: page.ledger }
    match result with
    | .error message => tell (js "下载失败: " ++ message) page
    | .ok _ => page

def aboutToDisappear (page : Page) : Page :=
  { page with
    present := false
    ledger := if page.sessionId > 0 then .release page.sessionId :: page.ledger else page.ledger }

-- The rows are shown once the page is connected. What a picker or a dialog gives may come after the page has gone.
def step (page : Page) : Event → Option Page
  | .aboutToAppear record password sid output =>
      if !page.appeared then some (aboutToAppear record password sid output page) else none
  | .tap item output =>
      if page.appeared && page.present && page.isConnected && item ∈ page.remoteFiles && item.isDirectory then
        some (moveTo (navigateToDirectory page.currentPath item) output page)
      else none
  | .home output => if page.appeared && page.present then some (moveTo (js "~") output page) else none
  | .root output => if page.appeared && page.present then some (moveTo (js "/") output page) else none
  | .selectLocalFile =>
      if page.appeared && page.present then some { page with picking := page.picking + 1 } else none
  | .picked result => if 0 < page.picking then some (picked result { page with picking := page.picking - 1 }) else none
  | .answered dialog index result output =>
      if dialog ∈ page.dialogs then
        let page := { page with dialogs := page.dialogs.erase dialog }
        some (if index = 1 then upload result output page else page)
      else none
  | .download item result =>
      if page.appeared && page.present && page.isConnected && item ∈ page.remoteFiles && !item.isDirectory then
        some (download item result page)
      else none
  | .back => if 0 < page.backs then some { page with backs := page.backs - 1 } else none
  | .aboutToDisappear => if page.appeared && page.present then some (aboutToDisappear page) else none

def custody (page : Page) : List Int := if page.present then owners page.sessionId else []

def Kept (page : Page) : Prop := Balanced page.ledger (custody page)

-- A dialog is confirmed while the page is there, or there is no session.
def Fits (page : Page) : Event → Prop
  | .answered _ index _ _ => index = 1 → page.present = true ∨ page.sessionId ≤ 0
  | _ => True

structure Sound (page : Page) : Prop where
  before : page.appeared = false → page.sessionId = -1 ∧ page.ledger = [] ∧ page.present = true
  kept : Kept page

structure Calls (uses : List Int) (page next : Page) : Prop where
  appeared : next.appeared = page.appeared
  present : next.present = page.present
  session : next.sessionId = page.sessionId
  owned : ∀ sid ∈ uses, sid ∈ owners page.sessionId
  ledger : next.ledger = uses.map .use ++ page.ledger

theorem calls_trans (first second : List Int) (page middle next : Page) (here : Calls first page middle)
    (there : Calls second middle next) : Calls (second ++ first) page next where
  appeared := there.appeared.trans here.appeared
  present := there.present.trans here.present
  session := there.session.trans here.session
  owned := by
    intro sid member
    rcases List.mem_append.mp member with later | earlier
    · exact here.session ▸ there.owned sid later
    · exact here.owned sid earlier
  ledger := by rw [there.ledger, here.ledger, List.map_append, List.append_assoc]

theorem tell_calls (message : JsString) (page : Page) : Calls [] page (tell message page) := ⟨rfl, rfl, rfl, nofun, rfl⟩

theorem loadRemoteFiles_calls (output : JsString) (page : Page) : ∃ uses, Calls uses page (loadRemoteFiles output page) := by
  unfold loadRemoteFiles
  split
  · exact ⟨[], rfl, rfl, rfl, nofun, rfl⟩
  · rename_i session
    have owned : page.sessionId ∈ owners page.sessionId := by simp [owners, Int.not_le.mp session]
    split
    · exact ⟨[], tell_calls _ page⟩
    · exact ⟨[page.sessionId], rfl, rfl, rfl, fun sid member => List.mem_singleton.mp member ▸ owned, rfl⟩

theorem upload_calls (result : Except JsString Int) (output : JsString) (page : Page) :
    ∃ later, Calls (later ++ owners page.sessionId) page (upload result output page) := by
  unfold upload
  split
  · rename_i none
    exact ⟨[], by rw [ArkTS.SFTPPage.owners_none _ none]; exact tell_calls _ page⟩
  · rename_i session
    have one := ArkTS.SFTPPage.owners_some page.sessionId (Int.not_le.mp session)
    have used : Calls (owners page.sessionId) page { page with ledger := .use page.sessionId :: page.ledger } :=
      ⟨rfl, rfl, rfl, fun _ member => member, by rw [one]; rfl⟩
    dsimp only
    cases result with
    | error message => exact ⟨[], calls_trans _ [] page _ _ used (tell_calls _ _)⟩
    | ok bytesWritten =>
        have told := calls_trans _ [] page _ _ used (tell_calls (js "上传成功: " ++ Ecma.decimalInt bytesWritten ++ js " 字节") _)
        obtain ⟨later, loaded⟩ := loadRemoteFiles_calls output (tell (js "上传成功: " ++ Ecma.decimalInt bytesWritten ++ js " 字节")
          { page with ledger := .use page.sessionId :: page.ledger })
        exact ⟨later, calls_trans _ later page _ _ told loaded⟩

theorem download_calls (item : FileItem) (result : Except JsString JsString) (page : Page) :
    ∃ uses, Calls uses page (download item result page) := by
  unfold download
  split
  · exact ⟨[], tell_calls _ page⟩
  split
  · exact ⟨[], tell_calls _ page⟩
  · rename_i session
    have owned : page.sessionId ∈ owners page.sessionId := by simp [owners, Int.not_le.mp session]
    have used : Calls [page.sessionId] page { page with ledger := .use page.sessionId :: page.ledger } :=
      ⟨rfl, rfl, rfl, fun sid member => List.mem_singleton.mp member ▸ owned, rfl⟩
    cases result with
    | error message => exact ⟨_, calls_trans _ [] page _ _ used (tell_calls _ _)⟩
    | ok content => exact ⟨_, used⟩

theorem picked_calls (result : Except JsString (Option (JsString × Bytes))) (page : Page) :
    Calls [] page (picked result page) := by
  unfold picked
  split
  · exact tell_calls _ page
  · exact ⟨rfl, rfl, rfl, nofun, rfl⟩
  · exact ⟨rfl, rfl, rfl, nofun, rfl⟩

theorem calls_sound (uses : List Int) (page next : Page) (sound : Sound page) (called : Calls uses page next)
    (there : uses ≠ [] → page.present = true) : Sound next where
  before := by
    intro unseen
    obtain ⟨none, nothing, present⟩ := sound.before (called.appeared ▸ unseen)
    have idle : uses = [] := by
      refine List.eq_nil_iff_forall_not_mem.mpr fun sid member => ?_
      have owned := called.owned sid member
      rw [none] at owned
      cases owned
    exact ⟨called.session.trans none, by rw [called.ledger, idle, nothing]; rfl, called.present.trans present⟩
  kept := by
    have same : custody next = custody page := by rw [custody, custody, called.present, called.session]
    rw [Kept, called.ledger, same]
    refine balanced_uses page.ledger (custody page) uses sound.kept fun sid member => ?_
    rw [custody, if_pos (there (List.ne_nil_of_mem member))]
    exact called.owned sid member

theorem seen_sound (page : Page) (seen : page.appeared = true) (kept : Kept page) : Sound page :=
  ⟨fun unseen => absurd (seen.symm.trans unseen) (by decide), kept⟩

theorem aboutToAppear_sound (record : Option ConnectionRecord) (password : Option JsString) (sid : Int) (output : JsString)
    (page : Page) (sound : Sound page) (unseen : page.appeared = false) :
    Sound (aboutToAppear record password sid output page) := by
  obtain ⟨none, nothing, present⟩ := sound.before unseen
  have empty : Sound { page with appeared := true } := seen_sound _ rfl sound.kept
  unfold aboutToAppear
  dsimp only
  split
  · unfold connectToHost
    split
    · exact calls_sound [] _ _ empty (tell_calls _ _) fun some => absurd rfl some
    dsimp only
    split
    · rename_i failed
      refine calls_sound [] _ _ (seen_sound _ rfl ?_) (tell_calls _ _) fun some => absurd rfl some
      simp only [Kept, custody, present, nothing, if_true, ArkTS.SFTPPage.owners_none sid failed]
      exact balanced_nil
    · rename_i opens
      have positive : 0 < sid := Int.not_le.mp opens
      obtain ⟨uses, loaded⟩ := loadRemoteFiles_calls output
        { page with appeared := true, sessionId := sid, ledger := .acquire sid :: page.ledger }
      have opened : Sound { page with appeared := true, sessionId := sid, ledger := .acquire sid :: page.ledger } := by
        refine seen_sound _ rfl ?_
        simp only [Kept, custody, present, nothing, if_true, ArkTS.SFTPPage.owners_some sid positive]
        exact balanced_acquire [] [] sid balanced_nil List.not_mem_nil
      have listed := calls_sound uses _ _ opened loaded fun _ => present
      exact ⟨listed.before, listed.kept⟩
  · exact empty

theorem aboutToDisappear_sound (page : Page) (sound : Sound page) (there : page.present = true) (seen : page.appeared = true) :
    Sound (aboutToDisappear page) := by
  have balanced := sound.kept
  rw [Kept, custody, if_pos there] at balanced
  refine seen_sound _ seen ?_
  unfold aboutToDisappear
  simp only [Kept, custody, Bool.false_eq_true, if_false]
  split
  · rename_i session
    rw [ArkTS.SFTPPage.owners_some _ session] at balanced
    have released := balanced_release page.ledger [page.sessionId] page.sessionId balanced List.mem_cons_self
    rwa [List.erase_cons_head] at released
  · rename_i none
    rwa [ArkTS.SFTPPage.owners_none _ (Int.not_lt.mp none)] at balanced

theorem moveTo_sound (path output : JsString) (page : Page) (sound : Sound page) (there : page.present = true) :
    Sound (moveTo path output page) := by
  obtain ⟨uses, loaded⟩ := loadRemoteFiles_calls output { page with currentPath := path }
  have moved : Sound { page with currentPath := path } := ⟨sound.before, sound.kept⟩
  exact calls_sound uses _ _ moved loaded fun _ => there

theorem step_sound (page : Page) (event : Event) (next : Page) (sound : Sound page) (fits : Fits page event)
    (move : step page event = some next) : Sound next := by
  have quiet : ∀ later : Page, Calls [] page later → Sound later := fun later called =>
    calls_sound [] page later sound called fun some => absurd rfl some
  cases event with
  | aboutToAppear record password sid output =>
      obtain ⟨unseen, same⟩ := Option.ite_none_right_eq_some.mp move
      obtain rfl := Option.some.inj same
      exact aboutToAppear_sound record password sid output page sound (by simpa using unseen)
  | tap item output =>
      obtain ⟨enabled, same⟩ := Option.ite_none_right_eq_some.mp move
      obtain rfl := Option.some.inj same
      simp only [Bool.and_eq_true] at enabled
      exact moveTo_sound _ output page sound enabled.1.1.1.2
  | home output =>
      obtain ⟨enabled, same⟩ := Option.ite_none_right_eq_some.mp move
      obtain rfl := Option.some.inj same
      exact moveTo_sound _ output page sound (Bool.and_eq_true_iff.mp enabled).2
  | root output =>
      obtain ⟨enabled, same⟩ := Option.ite_none_right_eq_some.mp move
      obtain rfl := Option.some.inj same
      exact moveTo_sound _ output page sound (Bool.and_eq_true_iff.mp enabled).2
  | selectLocalFile =>
      obtain ⟨_, same⟩ := Option.ite_none_right_eq_some.mp move
      obtain rfl := Option.some.inj same
      exact quiet _ ⟨rfl, rfl, rfl, nofun, rfl⟩
  | picked result =>
      obtain ⟨_, same⟩ := Option.ite_none_right_eq_some.mp move
      obtain rfl := Option.some.inj same
      have answered : Calls [] page { page with picking := page.picking - 1 } := ⟨rfl, rfl, rfl, nofun, rfl⟩
      exact quiet _ (calls_trans [] [] page _ _ answered (picked_calls result { page with picking := page.picking - 1 }))
  | answered dialog index result output =>
      obtain ⟨_, same⟩ := Option.ite_none_right_eq_some.mp move
      obtain rfl := Option.some.inj same
      have erased : Sound { page with dialogs := page.dialogs.erase dialog } := quiet _ ⟨rfl, rfl, rfl, nofun, rfl⟩
      split
      · rename_i confirmed
        obtain ⟨later, uploaded⟩ := upload_calls result output { page with dialogs := page.dialogs.erase dialog }
        rcases fits confirmed with there | none
        · exact calls_sound _ _ _ erased uploaded fun _ => there
        · have told : upload result output { page with dialogs := page.dialogs.erase dialog } = _ := if_pos none
          rw [told]
          exact calls_sound [] _ _ erased (tell_calls _ _) fun some => absurd rfl some
      · exact erased
  | download item result =>
      obtain ⟨enabled, same⟩ := Option.ite_none_right_eq_some.mp move
      obtain rfl := Option.some.inj same
      simp only [Bool.and_eq_true] at enabled
      obtain ⟨uses, called⟩ := download_calls item result page
      exact calls_sound uses page _ sound called fun _ => enabled.1.1.1.2
  | back =>
      obtain ⟨_, same⟩ := Option.ite_none_right_eq_some.mp move
      obtain rfl := Option.some.inj same
      exact quiet _ ⟨rfl, rfl, rfl, nofun, rfl⟩
  | aboutToDisappear =>
      obtain ⟨enabled, same⟩ := Option.ite_none_right_eq_some.mp move
      obtain rfl := Option.some.inj same
      obtain ⟨seen, there⟩ := Bool.and_eq_true_iff.mp enabled
      exact aboutToDisappear_sound page sound there seen

theorem step_breaks (page : Page) (event : Event) (next : Page) (sound : Sound page) (unfit : ¬ Fits page event)
    (move : step page event = some next) : ¬ Kept next := by
  cases event with
  | answered dialog index result output =>
      obtain ⟨_, same⟩ := Option.ite_none_right_eq_some.mp move
      obtain rfl := Option.some.inj same
      simp only [Fits, Classical.not_imp, not_or, Int.not_le, Bool.not_eq_true] at unfit
      obtain ⟨confirmed, gone, session⟩ := unfit
      obtain ⟨later, uploaded⟩ := upload_calls result output { page with dialogs := page.dialogs.erase dialog }
      have balanced := sound.kept
      simp only [Kept, custody, gone, Bool.false_eq_true, if_false] at balanced
      intro kept
      have known := kept.1
      rw [if_pos confirmed, uploaded.ledger, ArkTS.SFTPPage.owners_some _ session, List.map_append, List.append_assoc] at known
      have used := sound_used (later.map .use) page.ledger page.sessionId known
      rw [balanced.2.eq_nil] at used
      cases used
  | _ => exact absurd trivial unfit

-- A dialog that is confirmed after the page has gone.
example (record : ConnectionRecord) :
    let page := ([.aboutToAppear (some record) (some (js "p")) 7 [], .selectLocalFile, .aboutToDisappear,
      .picked (.ok (some (js "file://docs/a.txt", [97]))), .answered ⟨js "~/a.txt", js "a"⟩ 1 (.error []) []] :
      List Event).foldlM step {}
    page.map Page.ledger = some [.use 7, .release 7, .use 7, .acquire 7] := by
  rfl

-- The rows are those of the directory whose path stands above them.
def Accurate (page : Page) : Prop :=
  page.isConnected = true →
    ∃ output, page.listing = some (page.currentPath, output) ∧ page.remoteFiles = parseLsOutput page.currentPath output

def Enters (page : Page) : Event → Prop
  | .tap item _ => hasControl (navigateToDirectory page.currentPath item) = false
  | _ => True

structure Listed (page : Page) : Prop where
  before : page.appeared = false → page.isConnected = false ∧ page.currentPath = js "~"
  session : page.isConnected = true → 0 < page.sessionId
  quoted : ∀ path output, page.listing = some (path, output) → hasControl path = false

theorem loadRemoteFiles_listed (output : JsString) (page : Page) (session : 0 < page.sessionId)
    (valid : hasControl page.currentPath = false) :
    loadRemoteFiles output page = { page with
      remoteFiles := parseLsOutput page.currentPath output
      listing := some (page.currentPath, output)
      ledger := .use page.sessionId :: page.ledger } := by
  obtain ⟨quoted, quotes, _⟩ := RemotePaths.script_quote page.currentPath valid
  unfold loadRemoteFiles
  rw [if_neg (Int.not_le.mpr session), quotes]

theorem loadRemoteFiles_refused (output : JsString) (page : Page) (session : 0 < page.sessionId)
    (control : hasControl page.currentPath = true) : loadRemoteFiles output page = tell (js "加载文件失败") page := by
  unfold loadRemoteFiles
  rw [if_neg (Int.not_le.mpr session), RemotePaths.script_refuses page.currentPath control]

theorem loadRemoteFiles_idle (output : JsString) (page : Page) (none : page.sessionId ≤ 0) :
    loadRemoteFiles output page = page := if_pos none

theorem loadRemoteFiles_keeps (output : JsString) (page : Page) (listed : Listed page) : Listed (loadRemoteFiles output page) := by
  by_cases session : 0 < page.sessionId
  · cases control : hasControl page.currentPath with
    | true =>
        rw [loadRemoteFiles_refused output page session control]
        exact ⟨listed.before, listed.session, listed.quoted⟩
    | false =>
        rw [loadRemoteFiles_listed output page session control]
        refine ⟨listed.before, fun _ => session, fun path _ same => ?_⟩
        obtain ⟨rfl, _⟩ := Prod.mk.inj (Option.some.inj same)
        exact control
  · rw [loadRemoteFiles_idle output page (Int.not_lt.mp session)]
    exact listed

theorem loadRemoteFiles_accurate (output : JsString) (page : Page) (listed : Listed page) (connected : page.isConnected = true) :
    Accurate (loadRemoteFiles output page) ↔ hasControl page.currentPath = false := by
  have session := listed.session connected
  cases control : hasControl page.currentPath with
  | true =>
      rw [loadRemoteFiles_refused output page session control]
      refine iff_of_false (fun accurate => ?_) Bool.true_eq_false.mp
      obtain ⟨_, here, _⟩ := accurate connected
      have valid := listed.quoted page.currentPath _ here
      exact absurd (control.symm.trans valid) (by decide)
  | false =>
      rw [loadRemoteFiles_listed output page session control]
      exact iff_of_true (fun _ => ⟨output, rfl, rfl⟩) rfl

theorem moveTo_accurate (path output : JsString) (page : Page) (listed : Listed page) (seen : page.appeared = true) :
    Listed (moveTo path output page) ∧
      (page.isConnected = true → (Accurate (moveTo path output page) ↔ hasControl path = false)) := by
  have moved : Listed { page with currentPath := path } :=
    ⟨fun unseen => absurd (seen.symm.trans unseen) (by decide), listed.session, listed.quoted⟩
  exact ⟨loadRemoteFiles_keeps output _ moved, loadRemoteFiles_accurate output { page with currentPath := path } moved⟩

theorem unconnected_accurate (page : Page) (none : page.isConnected = false) : Accurate page := fun connected =>
  absurd (none.symm.trans connected) (by decide)

theorem loadRemoteFiles_connected (output : JsString) (page : Page) :
    (loadRemoteFiles output page).isConnected = page.isConnected ∧ (loadRemoteFiles output page).currentPath = page.currentPath := by
  unfold loadRemoteFiles
  split
  · exact ⟨rfl, rfl⟩
  split
  · exact ⟨rfl, rfl⟩
  · exact ⟨rfl, rfl⟩

theorem aboutToAppear_accurate (record : Option ConnectionRecord) (password : Option JsString) (sid : Int) (output : JsString)
    (page : Page) (listed : Listed page) (unseen : page.appeared = false) :
    Listed (aboutToAppear record password sid output page) ∧ Accurate (aboutToAppear record password sid output page) := by
  obtain ⟨unconnected, path⟩ := listed.before unseen
  have closed : ∀ later : Page, later.isConnected = false → later.appeared = true → later.listing = page.listing →
      Listed later ∧ Accurate later := fun later off seen same =>
    ⟨⟨fun none => absurd (seen.symm.trans none) (by decide), fun connected => absurd (off.symm.trans connected) (by decide),
      fun path output here => listed.quoted path output (same ▸ here)⟩, unconnected_accurate later off⟩
  unfold aboutToAppear
  dsimp only
  split
  · unfold connectToHost
    split
    · exact closed _ unconnected rfl rfl
    dsimp only
    split
    · exact closed _ unconnected rfl rfl
    · rename_i opens
      have home : hasControl page.currentPath = false := path ▸ (by decide)
      have load := loadRemoteFiles_listed output
        { page with appeared := true, sessionId := sid, ledger := .acquire sid :: page.ledger } (Int.not_le.mp opens) home
      dsimp only at load
      rw [load]
      refine ⟨⟨nofun, fun _ => Int.not_le.mp opens, fun path _ same => ?_⟩, fun _ => ⟨output, rfl, rfl⟩⟩
      obtain ⟨rfl, _⟩ := Prod.mk.inj (Option.some.inj same)
      exact home
  · exact closed _ unconnected rfl rfl

theorem same_accurate (page later : Page) (listed : Listed page) (accurate : Accurate page) (seen : later.appeared = page.appeared)
    (connected : later.isConnected = page.isConnected) (path : later.currentPath = page.currentPath)
    (files : later.remoteFiles = page.remoteFiles) (listing : later.listing = page.listing) (session : later.sessionId = page.sessionId) :
    Listed later ∧ Accurate later := by
  refine ⟨⟨?_, ?_, ?_⟩, ?_⟩
  · rw [seen, connected, path]
    exact listed.before
  · rw [connected, session]
    exact listed.session
  · rw [listing]
    exact listed.quoted
  · rw [Accurate, connected, listing, files, path]
    exact accurate

theorem upload_accurate (result : Except JsString Int) (output : JsString) (page : Page) (listed : Listed page)
    (accurate : Accurate page) : Listed (upload result output page) ∧ Accurate (upload result output page) := by
  unfold upload
  split
  · exact same_accurate page _ listed accurate rfl rfl rfl rfl rfl rfl
  · dsimp only
    cases result with
    | error message => exact same_accurate page _ listed accurate rfl rfl rfl rfl rfl rfl
    | ok bytesWritten =>
        dsimp only
        obtain ⟨toldListed, toldAccurate⟩ := same_accurate page
          (tell (js "上传成功: " ++ Ecma.decimalInt bytesWritten ++ js " 字节")
            { page with ledger := .use page.sessionId :: page.ledger }) listed accurate rfl rfl rfl rfl rfl rfl
        generalize tell (js "上传成功: " ++ Ecma.decimalInt bytesWritten ++ js " 字节")
          { page with ledger := .use page.sessionId :: page.ledger } = told at toldListed toldAccurate
        refine ⟨loadRemoteFiles_keeps output told toldListed, ?_⟩
        cases connected : told.isConnected with
        | false => exact unconnected_accurate _ ((loadRemoteFiles_connected output told).1.trans connected)
        | true =>
            obtain ⟨_, here, _⟩ := toldAccurate connected
            exact (loadRemoteFiles_accurate output told toldListed connected).mpr (toldListed.quoted _ _ here)

theorem download_accurate (item : FileItem) (result : Except JsString JsString) (page : Page) (listed : Listed page)
    (accurate : Accurate page) : Listed (download item result page) ∧ Accurate (download item result page) := by
  unfold download
  split
  · exact same_accurate page _ listed accurate rfl rfl rfl rfl rfl rfl
  split
  · exact same_accurate page _ listed accurate rfl rfl rfl rfl rfl rfl
  · cases result with
    | error message => exact same_accurate page _ listed accurate rfl rfl rfl rfl rfl rfl
    | ok content => exact same_accurate page _ listed accurate rfl rfl rfl rfl rfl rfl

theorem picked_accurate (result : Except JsString (Option (JsString × Bytes))) (page : Page) (listed : Listed page)
    (accurate : Accurate page) : Listed (picked result page) ∧ Accurate (picked result page) := by
  unfold picked
  split
  · exact same_accurate page _ listed accurate rfl rfl rfl rfl rfl rfl
  · exact ⟨listed, accurate⟩
  · exact same_accurate page _ listed accurate rfl rfl rfl rfl rfl rfl

theorem shortcut_accurate (path output : JsString) (page : Page) (listed : Listed page) (seen : page.appeared = true)
    (valid : hasControl path = false) : Listed (moveTo path output page) ∧ Accurate (moveTo path output page) := by
  obtain ⟨later, iff⟩ := moveTo_accurate path output page listed seen
  refine ⟨later, ?_⟩
  cases connected : page.isConnected with
  | false =>
      exact unconnected_accurate _ ((loadRemoteFiles_connected output { page with currentPath := path }).1.trans connected)
  | true => exact (iff connected).mpr valid

theorem step_accurate (page : Page) (event : Event) (next : Page) (listed : Listed page) (accurate : Accurate page)
    (move : step page event = some next) : Listed next ∧ (Accurate next ↔ Enters page event) := by
  have always : ∀ later : Page, Listed later ∧ Accurate later → Listed later ∧ (Accurate later ↔ True) :=
    fun later both => ⟨both.1, iff_of_true both.2 trivial⟩
  cases event with
  | aboutToAppear record password sid output =>
      obtain ⟨unseen, same⟩ := Option.ite_none_right_eq_some.mp move
      obtain rfl := Option.some.inj same
      exact always _ (aboutToAppear_accurate record password sid output page listed (by simpa using unseen))
  | tap item output =>
      obtain ⟨enabled, same⟩ := Option.ite_none_right_eq_some.mp move
      obtain rfl := Option.some.inj same
      simp only [Bool.and_eq_true] at enabled
      obtain ⟨later, iff⟩ := moveTo_accurate (navigateToDirectory page.currentPath item) output page listed enabled.1.1.1.1
      exact ⟨later, iff enabled.1.1.2⟩
  | home output =>
      obtain ⟨enabled, same⟩ := Option.ite_none_right_eq_some.mp move
      obtain rfl := Option.some.inj same
      exact always _ (shortcut_accurate (js "~") output page listed (Bool.and_eq_true_iff.mp enabled).1 (by decide))
  | root output =>
      obtain ⟨enabled, same⟩ := Option.ite_none_right_eq_some.mp move
      obtain rfl := Option.some.inj same
      exact always _ (shortcut_accurate (js "/") output page listed (Bool.and_eq_true_iff.mp enabled).1 (by decide))
  | picked result =>
      obtain ⟨_, same⟩ := Option.ite_none_right_eq_some.mp move
      obtain rfl := Option.some.inj same
      obtain ⟨answeredListed, answeredAccurate⟩ := same_accurate page { page with picking := page.picking - 1 } listed accurate
        rfl rfl rfl rfl rfl rfl
      exact always _ (picked_accurate result _ answeredListed answeredAccurate)
  | answered dialog index result output =>
      obtain ⟨_, same⟩ := Option.ite_none_right_eq_some.mp move
      obtain rfl := Option.some.inj same
      have erased := same_accurate page { page with dialogs := page.dialogs.erase dialog } listed accurate rfl rfl rfl rfl rfl rfl
      split
      · exact always _ (upload_accurate result output _ erased.1 erased.2)
      · exact always _ erased
  | download item result =>
      obtain ⟨_, same⟩ := Option.ite_none_right_eq_some.mp move
      obtain rfl := Option.some.inj same
      exact always _ (download_accurate item result page listed accurate)
  | selectLocalFile | back | aboutToDisappear =>
      obtain ⟨_, same⟩ := Option.ite_none_right_eq_some.mp move
      obtain rfl := Option.some.inj same
      exact always _ (same_accurate page _ listed accurate rfl rfl rfl rfl rfl rfl)

/-- Throughout a run the connected page shows the rows of the directory whose path stands above them, uploads and
late dialogs included, exactly if the path of every directory that is entered can be quoted. -/
theorem rows_shown (events : List Event) :
    Always step {} events Accurate ↔ Steps step {} events fun page event _ => Enters page event := by
  refine fits_iff step {} events (fun page => Listed page ∧ Accurate page) Accurate
    ⟨⟨fun _ => ⟨rfl, rfl⟩, nofun, nofun⟩, nofun⟩ Enters ?_ (fun _ known => known.2) ?_
  · intro page event next known fits move
    obtain ⟨listed, iff⟩ := step_accurate page event next known.1 known.2 move
    exact ⟨listed, iff.mpr fits⟩
  · intro page event next known unfit move accurate
    exact unfit ((step_accurate page event next known.1 known.2 move).2.mp accurate)

end Kessh.SCPPage
