import Kessh.Lib.Clients
import Kessh.Pages.MonitorPage
import Kessh.Pages.ScpPage
import Kessh.Pages.SftpPage
import Kessh.Pages.TerminalSessions

set_option autoImplicit false

-- The ArkTS pages as clients of the native module.
namespace Kessh

open Ecma Ledger Labelled Clients

namespace HostSessions

theorem closeSession_grows (sid : Int) (ledger : List (Entry Int)) : ledger <:+ closeSession sid ledger := by
  unfold closeSession
  split
  · exact List.suffix_cons _ _
  · exact List.suffix_refl _

theorem returned_grows (sid : Int) (ledger : List (Entry Int)) : ledger <:+ returned sid ledger := by
  unfold returned
  split
  · exact List.suffix_cons _ _
  · exact List.suffix_refl _

end HostSessions

namespace Terminal

theorem stopPolling_ledger (w : World) : (stopPolling w).ledger = w.ledger := by
  unfold stopPolling
  dsimp only
  split <;> rfl

theorem stopKeepalive_ledger (w : World) : (stopKeepalive w).ledger = w.ledger := by
  unfold stopKeepalive
  dsimp only
  split <;> rfl

theorem closeCurrentSession_grows (w : World) : w.ledger <:+ (closeCurrentSession w).ledger := by
  have same : (stopKeepalive (stopPolling w)).ledger = w.ledger :=
    (stopKeepalive_ledger (stopPolling w)).trans (stopPolling_ledger w)
  unfold closeCurrentSession
  dsimp only
  split
  · exact same ▸ List.suffix_cons _ _
  · exact same ▸ List.suffix_refl _

theorem openDraft_grows (currentDraft : Option ConnectionDraft) (w : World) : w.ledger <:+ (openDraft currentDraft w).ledger := by
  have closed := closeCurrentSession_grows { w with page := { w.page with openToken := w.page.openToken + 1 } }
  unfold openDraft
  dsimp only
  split
  · exact closed
  split
  · exact closed
  split
  · exact closed
  · exact closed

theorem schedulePoll_ledger (token : Nat) (timeoutId : Int) (w next : World) (move : schedulePoll token timeoutId w = some next) :
    next.ledger = w.ledger := by
  unfold schedulePoll at move
  dsimp only at move
  split at move
  · exact Option.some.inj move ▸ rfl
  · obtain ⟨_, same⟩ := Option.ite_none_right_eq_some.mp move
    rw [← Option.some.inj same]
    split <;> rfl

theorem startPolling_ledger (timeoutId : Int) (w next : World) (move : startPolling timeoutId w = some next) :
    next.ledger = w.ledger := by
  unfold startPolling at move
  split at move
  · exact Option.some.inj move ▸ rfl
  · have kept := schedulePoll_ledger (w.page.pollToken + 1) timeoutId
      { w with page := { w.page with polling := true, pollToken := w.page.pollToken + 1 } } next move
    exact kept

variable (lessEq less : JsNumber → JsNumber → Bool)

theorem startKeepalive_ledger (settings : Keepalive) (intervalId : Int) (w next : World)
    (move : startKeepalive lessEq settings intervalId w = some next) : next.ledger = w.ledger := by
  unfold startKeepalive at move
  dsimp only at move
  split at move
  · exact Option.some.inj move ▸ stopKeepalive_ledger w
  · obtain ⟨_, same⟩ := Option.ite_none_right_eq_some.mp move
    exact Option.some.inj same ▸ stopKeepalive_ledger w

theorem openDone_grows (token : Nat) (sid : Int) (settings : Keepalive) (timeoutId intervalId : Int) (w next : World)
    (move : openDone lessEq token sid settings timeoutId intervalId w = some next) : w.ledger <:+ next.ledger := by
  unfold openDone at move
  split at move
  · obtain rfl := Option.some.inj move
    split
    · exact List.suffix_cons _ _
    · exact List.suffix_refl _
  split at move
  · obtain ⟨polled, polls, keeps⟩ := Option.bind_eq_some_iff.mp move
    rw [startKeepalive_ledger lessEq settings intervalId polled next keeps, startPolling_ledger timeoutId _ polled polls]
    exact List.suffix_refl _
  · exact Option.some.inj move ▸ List.suffix_refl _

theorem pollTick_grows (token : Nat) (chunk : JsString) (timeoutId : Int) (w next : World)
    (move : pollTick token chunk timeoutId w = some next) : w.ledger <:+ next.ledger := by
  unfold pollTick at move
  dsimp only at move
  split at move
  · exact Option.some.inj move ▸ List.suffix_refl _
  · rw [schedulePoll_ledger token timeoutId _ next move]
    split <;> exact List.suffix_cons _ _

theorem keepaliveTick_grows (ok : Bool) (settings : Keepalive) (w : World) :
    w.ledger <:+ (keepaliveTick lessEq less ok settings w).ledger := by
  unfold keepaliveTick
  split
  · exact (stopKeepalive_ledger w).symm ▸ List.suffix_refl _
  dsimp only
  split
  · exact List.suffix_cons _ _
  generalize (if less (.int 0) settings.attempts then settings.attempts else .int 1) = maxAttempts
  split
  · refine List.IsSuffix.trans ?_ (closeCurrentSession_grows _)
    exact List.suffix_cons _ _
  · exact List.suffix_cons _ _

theorem step_grows (w : World) (event : Event) (next : World) (move : step lessEq less w event = some next) :
    w.ledger <:+ next.ledger := by
  cases event with
  | aboutToAppear currentDraft =>
      obtain rfl := Option.some.inj move
      exact openDraft_grows currentDraft { w with page := { w.page with disposed := false } }
  | openDraft currentDraft =>
      obtain rfl := Option.some.inj move
      exact openDraft_grows currentDraft w
  | openDone token sid settings timeoutId intervalId =>
      obtain ⟨_, opened⟩ := Option.ite_none_right_eq_some.mp move
      refine List.IsSuffix.trans ?_ (openDone_grows lessEq token sid settings timeoutId intervalId _ next opened)
      dsimp only
      split
      · exact List.suffix_cons _ _
      · exact List.suffix_refl _
  | pollTick id chunk timeoutId =>
      obtain ⟨fired, _, ticked⟩ := Option.bind_eq_some_iff.mp move
      exact pollTick_grows fired.2 chunk timeoutId { w with timeouts := w.timeouts.erase fired } next ticked
  | keepaliveTick id ok settings =>
      obtain ⟨_, same⟩ := Option.ite_none_right_eq_some.mp move
      exact Option.some.inj same ▸ keepaliveTick_grows lessEq less ok settings w
  | input text => exact Option.some.inj move ▸ List.suffix_refl _
  | run =>
      obtain rfl := Option.some.inj move
      unfold run
      split
      · exact List.suffix_refl _
      split
      · exact List.suffix_refl _
      · exact List.suffix_cons _ _
  | aboutToDisappear =>
      obtain rfl := Option.some.inj move
      exact closeCurrentSession_grows { w with
        page := { w.page with disposed := true, openToken := w.page.openToken + 1 } }

def client : Client Int where
  State := World
  Event := Event
  initial := {}
  step := step lessEq less
  ledger := World.ledger
  gone := fun w => w.page.disposed
  Fits := fun _ _ => True
  Good := Good
  good_initial := initial_good
  good_step := fun before event after good _ move => step_good lessEq less before event after good move
  grows := fun page event next _ => step_grows lessEq less page event next
  sound := fun w good => (phase_balanced w good.phase).1
  left := fun w good gone => by
    have idle : ¬ w.page.sessionId > 0 := fun session => by simp [(good.present session).1] at gone
    have balanced := phase_balanced w good.phase
    rw [if_neg idle] at balanced
    exact balanced.2.eq_nil

end Terminal

namespace ArkTS.SFTPPage

theorem stopKeepalive_ledger (w : World) : (stopKeepalive w).ledger = w.ledger := by
  unfold stopKeepalive
  dsimp only
  split <;> rfl

theorem closeCurrentSession_grows (w : World) : w.ledger <:+ (closeCurrentSession w).ledger := by
  have same := stopKeepalive_ledger w
  unfold closeCurrentSession
  dsimp only
  split
  · exact same ▸ List.suffix_cons _ _
  · exact same ▸ List.suffix_refl _

variable (localeCompare : JsString → JsString → Int) (lessEq less : JsNumber → JsNumber → Bool)

theorem connect_grows (item : ConnectionRecord) (password : Option JsString) (w : World) :
    w.ledger <:+ (connect item password w).ledger := by
  unfold connect
  split
  · exact List.suffix_refl _
  split
  · exact List.suffix_refl _
  split
  · exact List.suffix_refl _
  · exact closeCurrentSession_grows { w with page := { w.page with connectToken := w.page.connectToken + 1 } }

theorem listFiles_grows (path output : JsString) (w : World) : w.ledger <:+ (listFiles localeCompare path output w).ledger := by
  unfold listFiles
  split
  · exact List.suffix_refl _
  dsimp only
  split
  · exact List.suffix_refl _
  · exact List.suffix_cons _ _

theorem startKeepalive_ledger (settings : Terminal.Keepalive) (intervalId : Int) (w next : World)
    (move : startKeepalive lessEq settings intervalId w = some next) : next.ledger = w.ledger := by
  unfold startKeepalive at move
  dsimp only at move
  split at move
  · exact Option.some.inj move ▸ stopKeepalive_ledger w
  · obtain ⟨_, same⟩ := Option.ite_none_right_eq_some.mp move
    exact Option.some.inj same ▸ stopKeepalive_ledger w

theorem openDone_grows (token : Nat) (sid : Int) (settings : Terminal.Keepalive) (intervalId : Int) (output : JsString)
    (w next : World) (move : openDone localeCompare lessEq token sid settings intervalId output w = some next) :
    w.ledger <:+ next.ledger := by
  unfold openDone at move
  split at move
  · obtain rfl := Option.some.inj move
    split
    · exact List.suffix_cons _ _
    · exact List.suffix_refl _
  dsimp only at move
  split at move
  · obtain ⟨kept, keeps, rfl⟩ := Option.map_eq_some_iff.mp move
    have same := startKeepalive_ledger lessEq settings intervalId _ kept keeps
    exact same ▸ listFiles_grows localeCompare (js "/") output kept
  · exact Option.some.inj move ▸ List.suffix_refl _

theorem keepaliveTick_grows (ok : Bool) (settings : Terminal.Keepalive) (w : World) :
    w.ledger <:+ (keepaliveTick lessEq less ok settings w).ledger := by
  unfold keepaliveTick
  split
  · exact (stopKeepalive_ledger w).symm ▸ List.suffix_refl _
  dsimp only
  split
  · exact List.suffix_cons _ _
  generalize (if less (.int 0) settings.attempts then settings.attempts else .int 1) = maxAttempts
  split
  · refine List.IsSuffix.trans ?_ (closeCurrentSession_grows _)
    exact List.suffix_cons _ _
  · exact List.suffix_cons _ _

theorem step_grows (w : World) (event : Event) (next : World) (move : step localeCompare lessEq less w event = some next) :
    w.ledger <:+ next.ledger := by
  cases event with
  | connect item password =>
      obtain ⟨_, same⟩ := Option.ite_none_left_eq_some.mp move
      exact Option.some.inj same ▸ connect_grows item password w
  | openDone token sid settings intervalId output =>
      obtain ⟨_, opened⟩ := Option.ite_none_right_eq_some.mp move
      refine List.IsSuffix.trans ?_ (openDone_grows localeCompare lessEq token sid settings intervalId output _ next opened)
      dsimp only
      split
      · exact List.suffix_cons _ _
      · exact List.suffix_refl _
  | keepaliveTick id ok settings =>
      obtain ⟨_, same⟩ := Option.ite_none_right_eq_some.mp move
      exact Option.some.inj same ▸ keepaliveTick_grows lessEq less ok settings w
  | navigate file output =>
      obtain ⟨_, same⟩ := Option.ite_none_left_eq_some.mp move
      obtain rfl := Option.some.inj same
      unfold navigate
      split
      · exact List.suffix_refl _
      · exact listFiles_grows localeCompare _ output w
  | aboutToDisappear =>
      obtain ⟨_, same⟩ := Option.ite_none_left_eq_some.mp move
      obtain rfl := Option.some.inj same
      exact closeCurrentSession_grows { w with
        page := { w.page with disposed := true, connectToken := w.page.connectToken + 1 } }

def client : Client Int where
  State := World
  Event := Event
  initial := {}
  step := step localeCompare lessEq less
  ledger := World.ledger
  gone := fun w => w.page.disposed
  Fits := fun _ _ => True
  Good := Good
  good_initial := initial_good
  good_step := fun before event after good _ move => step_good localeCompare lessEq less before event after good move
  grows := fun page event next _ => step_grows localeCompare lessEq less page event next
  sound := fun w good => good.balanced.1
  left := fun w good gone => by
    have idle : w.page.sessionId ≤ 0 := Int.not_lt.mp fun session => by simp [(good.present session).1] at gone
    have balanced := good.balanced
    rw [owners_none _ idle] at balanced
    exact balanced.2.eq_nil

end ArkTS.SFTPPage

namespace SCPPage

theorem calls_grows (uses : List Int) (page next : Page) (called : Calls uses page next) : page.ledger <:+ next.ledger :=
  ⟨_, called.ledger.symm⟩

theorem loadRemoteFiles_grows (output : JsString) (page : Page) : page.ledger <:+ (loadRemoteFiles output page).ledger := by
  obtain ⟨uses, called⟩ := loadRemoteFiles_calls output page
  exact calls_grows uses page _ called

theorem moveTo_grows (path output : JsString) (page : Page) : page.ledger <:+ (moveTo path output page).ledger :=
  loadRemoteFiles_grows output { page with currentPath := path }

theorem connectToHost_grows (password : Option JsString) (sid : Int) (output : JsString) (page : Page) :
    page.ledger <:+ (connectToHost password sid output page).ledger := by
  unfold connectToHost
  split
  · exact List.suffix_refl _
  dsimp only
  split
  · exact List.suffix_refl _
  · refine List.IsSuffix.trans ?_ (loadRemoteFiles_grows output { page with sessionId := sid, ledger := .acquire sid :: page.ledger })
    exact List.suffix_cons _ _

theorem step_grows (page : Page) (event : Event) (next : Page) (move : step page event = some next) :
    page.ledger <:+ next.ledger := by
  cases event with
  | aboutToAppear record password sid output =>
      obtain ⟨_, same⟩ := Option.ite_none_right_eq_some.mp move
      obtain rfl := Option.some.inj same
      unfold aboutToAppear
      dsimp only
      split
      · exact connectToHost_grows password sid output { page with appeared := true }
      · exact List.suffix_refl _
  | tap item output =>
      obtain ⟨_, same⟩ := Option.ite_none_right_eq_some.mp move
      obtain rfl := Option.some.inj same
      exact moveTo_grows _ output page
  | home output =>
      obtain ⟨_, same⟩ := Option.ite_none_right_eq_some.mp move
      obtain rfl := Option.some.inj same
      exact moveTo_grows _ output page
  | root output =>
      obtain ⟨_, same⟩ := Option.ite_none_right_eq_some.mp move
      obtain rfl := Option.some.inj same
      exact moveTo_grows _ output page
  | selectLocalFile =>
      obtain ⟨_, same⟩ := Option.ite_none_right_eq_some.mp move
      exact Option.some.inj same ▸ List.suffix_refl _
  | picked result =>
      obtain ⟨_, same⟩ := Option.ite_none_right_eq_some.mp move
      obtain rfl := Option.some.inj same
      exact calls_grows [] { page with picking := page.picking - 1 } _ (picked_calls result _)
  | answered dialog index result output =>
      obtain ⟨_, same⟩ := Option.ite_none_right_eq_some.mp move
      obtain rfl := Option.some.inj same
      split
      · obtain ⟨later, called⟩ := upload_calls result output { page with dialogs := page.dialogs.erase dialog }
        exact calls_grows _ { page with dialogs := page.dialogs.erase dialog } _ called
      · exact List.suffix_refl _
  | download item result =>
      obtain ⟨_, same⟩ := Option.ite_none_right_eq_some.mp move
      obtain rfl := Option.some.inj same
      obtain ⟨uses, called⟩ := download_calls item result page
      exact calls_grows uses page _ called
  | back =>
      obtain ⟨_, same⟩ := Option.ite_none_right_eq_some.mp move
      exact Option.some.inj same ▸ List.suffix_refl _
  | aboutToDisappear =>
      obtain ⟨_, same⟩ := Option.ite_none_right_eq_some.mp move
      obtain rfl := Option.some.inj same
      unfold aboutToDisappear
      dsimp only
      split
      · exact List.suffix_cons _ _
      · exact List.suffix_refl _

def client : Client Int where
  State := Page
  Event := Event
  initial := {}
  step := step
  ledger := Page.ledger
  gone := fun page => !page.present
  Fits := Fits
  Good := Sound
  good_initial := ⟨fun _ => ⟨rfl, rfl, rfl⟩, balanced_nil⟩
  good_step := step_sound
  grows := fun page event next _ => step_grows page event next
  sound := fun page sound => sound.kept.1
  left := fun page sound gone => by
    have balanced := sound.kept
    have absent : ¬ page.present = true := by simpa using gone
    rw [Kept, custody, if_neg absent] at balanced
    exact balanced.2.eq_nil

end SCPPage

namespace MonitorPage

theorem clearTimer_ledger (page : Page) : (clearTimer page).ledger = page.ledger := by
  unfold clearTimer
  split <;> rfl

theorem cleanupSession_grows (page : Page) : page.ledger <:+ (cleanupSession page).ledger := by
  have same := clearTimer_ledger page
  unfold cleanupSession
  dsimp only
  split
  · exact same ▸ HostSessions.closeSession_grows _ _
  · exact same ▸ List.suffix_refl _

theorem openSession_grows (session : Int) (page : Page) : page.ledger <:+ (openSession session page).ledger := by
  have cleaned := cleanupSession_grows { page with isLoading := true, sessionError := [] }
  have grown := cleaned.trans (HostSessions.returned_grows session _)
  unfold openSession
  dsimp only
  split
  · exact grown
  · exact grown

theorem handleHostSelect_grows (record : ConnectionRecord) (stores : Stores) (session : Int) (page : Page) :
    page.ledger <:+ (handleHostSelect record stores session page).ledger := by
  unfold handleHostSelect
  split
  · exact List.suffix_refl _
  · rename_i savedPassword _
    split
    · exact List.suffix_refl _
    · exact openSession_grows session { page with
        showHostPicker := false, selectedHost := some record, currentPassword := savedPassword }

theorem refreshHosts_grows (stores : Stores) (session : Int) (page : Page) :
    page.ledger <:+ (refreshHosts stores session page).ledger := by
  have selected : ∀ hostList first, page.ledger <:+ (handleHostSelect first stores session { page with hostList }).ledger :=
    fun hostList first => handleHostSelect_grows first stores session { page with hostList }
  unfold refreshHosts
  dsimp only
  split
  · exact selected _ _
  · exact List.suffix_refl _

theorem fetchMetrics_ledger (page : Page) : (fetchMetrics page).ledger = page.ledger := by
  unfold fetchMetrics
  split <;> rfl

theorem step_grows (page : Page) (event : Event) (next : Page) (move : step page event = some next) :
    page.ledger <:+ next.ledger := by
  cases event with
  | aboutToAppear stores session =>
      obtain ⟨_, same⟩ := Option.ite_none_right_eq_some.mp move
      exact Option.some.inj same ▸ refreshHosts_grows stores session page
  | handleHostSelect record stores session =>
      obtain ⟨_, same⟩ := Option.ite_none_right_eq_some.mp move
      exact Option.some.inj same ▸ handleHostSelect_grows record stores session page
  | refresh =>
      obtain ⟨_, same⟩ := Option.ite_none_right_eq_some.mp move
      obtain rfl := Option.some.inj same
      exact (fetchMetrics_ledger page).symm ▸ List.suffix_refl _
  | intervalTick id =>
      obtain ⟨_, same⟩ := Option.ite_none_right_eq_some.mp move
      obtain rfl := Option.some.inj same
      exact (fetchMetrics_ledger page).symm ▸ List.suffix_refl _
  | aboutToDisappear =>
      obtain ⟨_, same⟩ := Option.ite_none_right_eq_some.mp move
      obtain rfl := Option.some.inj same
      exact cleanupSession_grows { page with present := false }
  | _ =>
      obtain ⟨_, same⟩ := Option.ite_none_right_eq_some.mp move
      exact Option.some.inj same ▸ List.suffix_refl _

def client : Client Int where
  State := Page
  Event := Event
  initial := {}
  step := step
  ledger := Page.ledger
  gone := fun page => !page.present
  Fits := Fits
  Good := Sound
  good_initial := initial_sound
  good_step := step_sound
  grows := fun page event next _ => step_grows page event next
  sound := fun page sound => sound.balanced.1
  left := fun page sound gone => by
    have absent : page.present = false := by simpa using gone
    rw [held_live page sound.balanced, if_neg (Int.not_lt.mpr (sound.gone absent))]

end MonitorPage

end Kessh
