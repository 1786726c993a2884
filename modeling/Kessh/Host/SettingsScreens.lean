import Kessh.Host.SettingsPatches
import Mathlib.Data.List.Perm.Basic

set_option autoImplicit false

-- The settings forms of both front ends, over the store and the native module that they share. Any number of pages
-- may be there, and the saves that they start are interleaved at their awaits.
namespace Kessh.SettingsScreens

open Ecma Labelled SettingsPatches

-- pages/SettingsSession.ets
structure SettingsSession where
  intervalInput : JsString
  attemptsInput : JsString
  saving : Bool := false

def SettingsSession.aboutToAppear (settings : SettingsStore) : SettingsSession where
  intervalInput := settings.keepaliveInterval.toJsString
  attemptsInput := settings.keepaliveAttempts.toJsString

-- The parsed number is compared with bounds that are far below 2^53, and is one of them or below.
def SettingsSession.parseValue (value : JsString) (fallback : JsNumber) (min max : Int) : JsNumber :=
  if !isDecimal (trim value) then fallback
  else match parseInt value with
    | none => fallback
    | some parsed => .int (if parsed < min then min else if parsed > max then max else parsed)

-- What saveSettings writes, one setting before each await.
def SettingsSession.patch (page : SettingsSession) (settings : SettingsStore) : SessionSettingsPatch where
  keepaliveInterval := some (parseValue page.intervalInput settings.keepaliveInterval 5 3600)
  keepaliveAttempts := some (parseValue page.attemptsInput settings.keepaliveAttempts 1 10)

-- pages/SettingsTerminalFont.ets
structure SettingsTerminalFont where
  selectedFont : JsString
  fontSizeInput : JsString
  saving : Bool := false

def SettingsTerminalFont.aboutToAppear (settings : SettingsStore) : SettingsTerminalFont where
  selectedFont := settings.terminalFontFamilyValue
  fontSizeInput := settings.terminalFontSizeValue.toJsString

-- The keys of TERMINAL_FONT_OPTIONS, which both front ends list.
def fontKeys : List JsString := [js "system", js "source-code-pro", js "jetbrains-mono", js "google-sans-code"]

section Sizes

-- What JavaScript prints for the nearest double of an integer past 2^53.
variable (printed : Int → JsString)

def parsedNumber (parsed : Int) : JsNumber :=
  if parsed.natAbs ≤ 0x20000000000000 then .int parsed else .other (printed parsed)

def SettingsTerminalFont.parseFontSize (value : JsString) (settings : SettingsStore) : JsNumber :=
  match parseInt value with
  | none => settings.terminalFontSizeValue
  | some parsed => parsedNumber printed parsed

end Sizes

-- pages/SettingsSessionPage.tsx
structure SettingsSessionPage where
  intervalText : JsString := js "60"
  attemptsText : JsString := js "3"
  saving : Bool := false

def SettingsSessionPage.clamp (value : Option Int) (min max : Int) : Int :=
  match value with
  | none => min
  | some value => if value < min then min else if value > max then max else value

def SettingsSessionPage.patch (page : SettingsSessionPage) : SessionSettingsPatch where
  keepaliveInterval := some (.int (clamp (parseInt page.intervalText) 5 3600))
  keepaliveAttempts := some (.int (clamp (parseInt page.attemptsText) 1 10))

-- pages/SettingsTerminalFontPage.tsx
structure SettingsTerminalFontPage where
  selected : JsString := js "system"
  size : JsString := js "14"
  saving : Bool := false

def SettingsTerminalFontPage.clamped (size : JsString) : Int :=
  match parseInt size with
  | none => 14
  | some parsed => max 8 (min 48 parsed)

-- How far the getSettings call of a Lynx page is.
inductive Loading where
  | asked
  | reported (session : SessionSettingsDTO)
  | settled

-- The handlers of a Lynx page see the state of its last render.
structure Rendered (α : Type) where
  state : α
  shown : α := state
  getSettings : Loading := .asked

inductive Page where
  | session (page : SettingsSession)
  | terminalFont (page : SettingsTerminalFont)
  | lynxSession (page : Rendered SettingsSessionPage)
  | lynxTerminalFont (page : Rendered SettingsTerminalFontPage)

inductive Field where
  | interval
  | attempts
  | size

def Page.edit (field : Field) (value : JsString) : Page → Option Page
  | .session page =>
      match field with
      | .interval => some (.session { page with intervalInput := value })
      | .attempts => some (.session { page with attemptsInput := value })
      | .size => none
  | .terminalFont page =>
      match field with
      | .size => some (.terminalFont { page with fontSizeInput := value })
      | _ => none
  | .lynxSession page =>
      match field with
      | .interval => some (.lynxSession { page with state := { page.state with intervalText := value } })
      | .attempts => some (.lynxSession { page with state := { page.state with attemptsText := value } })
      | .size => none
  | .lynxTerminalFont page =>
      match field with
      | .size => some (.lynxTerminalFont { page with state := { page.state with size := value } })
      | _ => none

def Page.rendered : Page → Page
  | .lynxSession page => .lynxSession { page with shown := page.state }
  | .lynxTerminalFont page => .lynxTerminalFont { page with shown := page.state }
  | page => page

def Page.loading : Page → Loading
  | .lynxSession page => page.getSettings
  | .lynxTerminalFont page => page.getSettings
  | _ => .settled

def Page.setLoading (loading : Loading) : Page → Page
  | .lynxSession page => .lynxSession { page with getSettings := loading }
  | .lynxTerminalFont page => .lynxTerminalFont { page with getSettings := loading }
  | page => page

-- What the pages do with the answer of getSettings.
def Page.load (session : SessionSettingsDTO) : Page → Page
  | .lynxSession page => .lynxSession { page with
      state := { page.state with
        intervalText := session.keepaliveInterval.toJsString
        attemptsText := session.keepaliveAttempts.toJsString }
      getSettings := .settled }
  | .lynxTerminalFont page => .lynxTerminalFont { page with
      state := { page.state with
        selected := session.terminalFontFamily
        size := session.terminalFontSize.toJsString }
      getSettings := .settled }
  | page => page

def Page.saved : Page → Page
  | .session page => .session { page with saving := false }
  | .terminalFont page => .terminalFont { page with saving := false }
  | page => page

def Page.select (key : JsString) : Page → Page
  | .terminalFont page => .terminalFont { page with selectedFont := key }
  | page => page

def Page.answered : Page → Page
  | .lynxSession page => .lynxSession { page with state := { page.state with saving := false } }
  | .lynxTerminalFont page => .lynxTerminalFont { page with state := { page.state with saving := false } }
  | page => page

-- What is left to do when the writes of a task are done. Only saveFontSize and selectFont of the ArkTS page
-- leave the native module as it is.
inductive Ending where
  | saveSettings
  | saveFontSize
  | selectFont (key : JsString)
  | setSessionSettings (saves : Bool)
deriving DecidableEq

def Ending.configures : Ending → Bool
  | .saveSettings | .setSessionSettings _ => true
  | _ => false

-- A function in progress, for the page with the number `page`.
structure Task where
  page : Nat
  left : List SettingsWrite
  ending : Ending

structure App where
  stores : Stores
  native : KeepaliveConfig := ⟨30, 3⟩
  pages : List Page := []
  tasks : List Task := []
  answers : List Nat := []

inductive Kind where
  | session
  | terminalFont
  | lynxSession
  | lynxTerminalFont

def Kind.appear (settings : SettingsStore) : Kind → Page
  | .session => .session (.aboutToAppear settings)
  | .terminalFont => .terminalFont (.aboutToAppear settings)
  | .lynxSession => .lynxSession { state := {} }
  | .lynxTerminalFont => .lynxTerminalFont { state := {} }

inductive Event where
  | appear (kind : Kind)
  | edit (page : Nat) (field : Field) (value : JsString)
  | rendered (page : Nat)
  | reported (page : Nat)
  | loaded (page : Nat)
  | loadFailed (page : Nat)
  | save (page : Nat)
  | selectFont (page : Nat) (key : JsString)
  | resumed (task : Nat)
  | answered (answer : Nat)

section Steps

variable (truncated : JsString → Int) (printed : Int → JsString)

def App.modify (app : App) (page : Nat) (change : Page → Page) : App := { app with pages := app.pages.modify page change }

def App.finish (app : App) (page : Nat) : Ending → App
  | .saveSettings => { app.modify page Page.saved with native := configureKeepalive truncated app.stores }
  | .saveFontSize => app.modify page Page.saved
  | .selectFont key => app.modify page (Page.select key)
  | .setSessionSettings saves =>
      { app with
        native := configureKeepalive truncated app.stores
        answers := if saves then app.answers ++ [page] else app.answers }

-- A function goes on to its next await, or to its end.
def App.proceed (app : App) (task : Task) : App :=
  match task.left with
  | [] => app.finish truncated task.page task.ending
  | write :: later => { app with stores := write.apply app.stores, tasks := app.tasks ++ [{ task with left := later }] }

-- A call over the bridge: the host has not begun with it.
def App.call (app : App) (task : Task) : App := { app with tasks := app.tasks ++ [task] }

-- The save button of a page. On the ArkTS side the first write is made before the tap is over.
def App.save (app : App) (n : Nat) : Page → App
  | .session page =>
      if page.saving then app
      else (app.modify n fun _ => .session { page with saving := true }).proceed truncated
        ⟨n, writes (page.patch app.stores.settings), .saveSettings⟩
  | .terminalFont page =>
      if page.saving then app
      else (app.modify n fun _ => .terminalFont { page with saving := true }).proceed truncated
        ⟨n, [.terminalFontSize (SettingsTerminalFont.parseFontSize printed page.fontSizeInput app.stores.settings)], .saveFontSize⟩
  | .lynxSession page =>
      if page.shown.saving then app
      else (app.modify n fun _ => .lynxSession { page with state := { page.state with saving := true } }).call
        ⟨n, writes page.shown.patch, .setSessionSettings true⟩
  | .lynxTerminalFont page =>
      if page.shown.saving then app
      else (app.modify n fun _ => .lynxTerminalFont { page with state := { page.state with saving := true } }).call
        ⟨n, writes { terminalFontSize := some (.int (SettingsTerminalFontPage.clamped page.shown.size)) }, .setSessionSettings true⟩

def App.selectFont (app : App) (n : Nat) (key : JsString) : Page → Option App
  | .terminalFont page =>
      if page.selectedFont = key then some app
      else some (app.proceed truncated ⟨n, [.terminalFontFamily key], .selectFont key⟩)
  | .lynxTerminalFont page =>
      if page.shown.selected = key then some app
      else some ((app.modify n fun _ => .lynxTerminalFont { page with state := { page.state with selected := key } }).call
        ⟨n, writes { terminalFontFamily := some key }, .setSessionSettings false⟩)
  | _ => none

def step (app : App) : Event → Option App
  | .appear kind => some { app with pages := app.pages ++ [kind.appear app.stores.settings] }
  | .edit n field value =>
      app.pages[n]?.bind fun page => (page.edit field value).map fun edited => app.modify n fun _ => edited
  | .rendered n => app.pages[n]?.map fun _ => app.modify n Page.rendered
  | .reported n =>
      app.pages[n]?.bind fun page =>
        match page.loading, KesshHost.getSettings app.stores with
        | .asked, (stores, .settings settings) =>
            some ({ app with stores }.modify n (Page.setLoading (.reported settings.session)))
        | _, _ => none
  | .loaded n =>
      app.pages[n]?.bind fun page =>
        match page.loading with
        | .reported session => some (app.modify n (Page.load session))
        | _ => none
  | .loadFailed n =>
      app.pages[n]?.bind fun page =>
        match page.loading with
        | .settled => none
        | _ => some (app.modify n (Page.setLoading .settled))
  | .save n => app.pages[n]?.map (app.save truncated printed n)
  | .selectFont n key => if fontKeys.contains key then app.pages[n]?.bind (app.selectFont truncated n key) else none
  | .resumed k => app.tasks[k]?.map ({ app with tasks := app.tasks.eraseIdx k }.proceed truncated)
  | .answered k => app.answers[k]?.map fun n => { app with answers := app.answers.eraseIdx k }.modify n Page.answered

end Steps

def Within (low high : Int) (number : JsNumber) : Prop := ∃ n : Int, number = .int n ∧ low ≤ n ∧ n ≤ high

structure InRange (settings : SettingsStore) : Prop where
  interval : Within 5 3600 settings.keepaliveInterval
  attempts : Within 1 10 settings.keepaliveAttempts
  family : settings.terminalFontFamilyValue ∈ fontKeys
  size : Within 8 48 settings.terminalFontSizeValue

def Allowed : SettingsWrite → Prop
  | .keepaliveInterval v => Within 5 3600 v
  | .keepaliveAttempts v => Within 1 10 v
  | .terminalFontFamily family => family ∈ fontKeys
  | .terminalFontSize size => Within 8 48 size

theorem apply_inRange (write : SettingsWrite) (s : Stores) (range : InRange s.settings) (allowed : Allowed write) :
    InRange (write.apply s).settings := by
  cases write with
  | keepaliveInterval v => exact { range with interval := allowed }
  | keepaliveAttempts v => exact { range with attempts := allowed }
  | terminalFontFamily family => exact { range with family := allowed }
  | terminalFontSize size => exact { range with size := allowed }

theorem parseValue_within (value : JsString) (fallback : JsNumber) (min max : Int) (order : min ≤ max)
    (stored : Within min max fallback) : Within min max (SettingsSession.parseValue value fallback min max) := by
  unfold SettingsSession.parseValue
  split
  · exact stored
  · cases parseInt value with
    | none => exact stored
    | some parsed =>
        refine ⟨_, rfl, ?_, ?_⟩
        · split
          · exact Int.le_refl min
          · split <;> omega
        · split
          · exact order
          · split <;> omega

theorem clamp_within (value : Option Int) (min max : Int) (order : min ≤ max) :
    min ≤ SettingsSessionPage.clamp value min max ∧ SettingsSessionPage.clamp value min max ≤ max := by
  cases value with
  | none => exact ⟨Int.le_refl min, order⟩
  | some value =>
      unfold SettingsSessionPage.clamp
      dsimp only
      split
      · exact ⟨Int.le_refl min, order⟩
      · split <;> omega

theorem clamped_within (size : JsString) :
    8 ≤ SettingsTerminalFontPage.clamped size ∧ SettingsTerminalFontPage.clamped size ≤ 48 := by
  unfold SettingsTerminalFontPage.clamped
  cases parseInt size with
  | none => decide
  | some parsed => dsimp only; omega

theorem parsedNumber_within (printed : Int → JsString) (parsed : Int) :
    Within 8 48 (parsedNumber printed parsed) ↔ 8 ≤ parsed ∧ parsed ≤ 48 := by
  unfold parsedNumber
  constructor
  · rintro ⟨n, same, lower, upper⟩
    split at same
    · obtain rfl := JsNumber.int.inj same
      exact ⟨lower, upper⟩
    · cases same
  · intro ⟨lower, upper⟩
    rw [if_pos (by omega)]
    exact ⟨parsed, rfl, lower, upper⟩

def Agrees (native : KeepaliveConfig) (settings : SettingsStore) : Prop :=
  settings.keepaliveInterval = .int native.interval ∧ settings.keepaliveAttempts = .int native.attempts

theorem configure_agrees (truncated : JsString → Int) (s : Stores) (range : InRange s.settings) :
    Agrees (configureKeepalive truncated s) s.settings := by
  obtain ⟨interval, first, low, high⟩ := range.interval
  obtain ⟨attempts, second, least, most⟩ := range.attempts
  exact ⟨word_int32 truncated _ ⟨interval, first, by omega, by omega⟩, word_int32 truncated _ ⟨attempts, second, by omega, by omega⟩⟩

structure NativeInRange (native : KeepaliveConfig) : Prop where
  interval : 5 ≤ native.interval ∧ native.interval ≤ 3600
  attempts : 1 ≤ native.attempts ∧ native.attempts ≤ 10

theorem agrees_inRange (native : KeepaliveConfig) (settings : SettingsStore) (range : InRange settings)
    (agrees : Agrees native settings) : NativeInRange native := by
  obtain ⟨interval, first, intervals⟩ := range.interval
  obtain ⟨attempts, second, counts⟩ := range.attempts
  obtain rfl := JsNumber.int.inj (agrees.1.symm.trans first)
  obtain rfl := JsNumber.int.inj (agrees.2.symm.trans second)
  exact ⟨intervals, counts⟩

-- No save has reached the keepalive yet: the two sides have defaults of their own.
def Untouched (app : App) : Prop :=
  app.native = ⟨30, 3⟩ ∧ app.stores.settings.keepaliveInterval = .int 60 ∧ app.stores.settings.keepaliveAttempts = .int 3

def Page.busy : Page → Bool
  | .session page => page.saving
  | .terminalFont page => page.saving
  | _ => false

def Task.saves (n : Nat) (task : Task) : Bool :=
  task.page == n && (task.ending == .saveSettings || task.ending == .saveFontSize)

-- An ArkTS page has one save in progress while its button is disabled, and else none.
def Busy (app : App) : Prop :=
  ∀ n, app.tasks.countP (Task.saves n) = if app.pages[n]?.any Page.busy then 1 else 0

structure Kept (app : App) : Prop where
  settings : InRange app.stores.settings
  native : NativeInRange app.native
  agrees : app.tasks = [] → Agrees app.native app.stores.settings ∨ Untouched app
  busy : Busy app

def SettingsWrite.keepalive : SettingsWrite → Bool
  | .keepaliveInterval _ | .keepaliveAttempts _ => true
  | _ => false

def Task.Sound (task : Task) : Prop :=
  ∀ write ∈ task.left, Allowed write ∧ (SettingsWrite.keepalive write = true → task.ending.configures = true)

structure Settled (app : App) : Prop where
  settings : InRange app.stores.settings
  native : NativeInRange app.native
  tasks : ∀ task ∈ app.tasks, task.Sound
  agrees : (∃ task ∈ app.tasks, task.ending.configures = true) ∨ Agrees app.native app.stores.settings ∨ Untouched app

structure Sound (app : App) : Prop extends Settled app where
  busy : Busy app

theorem Sound.kept (app : App) (sound : Sound app) : Kept app where
  settings := sound.settings
  native := sound.native
  agrees := fun done => sound.agrees.resolve_left fun ⟨_, member, _⟩ => by rw [done] at member; cases member
  busy := sound.busy

theorem sound_perm (app : App) (tasks : List Task) (sound : Sound app) (perm : tasks.Perm app.tasks) :
    Sound { app with tasks } where
  settings := sound.settings
  native := sound.native
  tasks := fun task member => sound.tasks task (perm.mem_iff.mp member)
  agrees := sound.agrees.imp_left fun ⟨task, member, configures⟩ => ⟨task, perm.mem_iff.mpr member, configures⟩
  busy := fun n => (perm.countP_eq _).trans (sound.busy n)

theorem busy_modify (pages : List Page) (n m : Nat) (change : Page → Page) :
    (pages.modify n change)[m]?.any Page.busy =
      if n = m then pages[n]?.any (fun page => (change page).busy) else pages[m]?.any Page.busy := by
  rw [List.getElem?_modify]
  split
  · rename_i same
    rw [← same]
    cases pages[n]? <;> rfl
  · cases pages[m]? <;> rfl

theorem modify_sound (app : App) (n : Nat) (change : Page → Page) (sound : Sound app)
    (same : ∀ page, app.pages[n]? = some page → (change page).busy = page.busy) : Sound (app.modify n change) where
  settings := sound.settings
  native := sound.native
  tasks := sound.tasks
  agrees := sound.agrees
  busy := by
    intro m
    show app.tasks.countP (Task.saves m) = if (app.pages.modify n change)[m]?.any Page.busy then 1 else 0
    have stays : app.pages[n]?.any (fun page => (change page).busy) = app.pages[n]?.any Page.busy := by
      cases there : app.pages[n]? with
      | none => rfl
      | some page => exact same page there
    rw [sound.busy m, busy_modify]
    by_cases here : n = m
    · rw [if_pos here, stays, here]
    · rw [if_neg here]

theorem busy_quiet (app : App) (task : Task) (known : Busy { app with tasks := task :: app.tasks })
    (quiet : ∀ n, task.saves n = false) : Busy app := by
  intro n
  have count := known n
  rwa [List.countP_cons_of_neg (by rw [quiet n]; decide)] at count

theorem saves_page (task : Task) (n : Nat) (saves : task.saves n = true) : task.page = n := by
  unfold Task.saves at saves
  exact eq_of_beq (Bool.and_eq_true_iff.mp saves).1

theorem saved_idle (page : Page) : page.saved.busy = false := by
  cases page <;> rfl

theorem busy_saved (app : App) (task : Task) (known : Busy { app with tasks := task :: app.tasks })
    (saves : task.saves task.page = true) : Busy (app.modify task.page Page.saved) := by
  intro n
  have count := known n
  show app.tasks.countP (Task.saves n) = if (app.pages.modify task.page Page.saved)[n]?.any Page.busy then 1 else 0
  rw [busy_modify]
  by_cases here : task.page = n
  · subst here
    have idle : app.pages[task.page]?.any (fun page => page.saved.busy) = false := by
      cases app.pages[task.page]? with
      | none => rfl
      | some page => exact saved_idle page
    rw [List.countP_cons_of_pos saves] at count
    rw [if_pos rfl, idle]
    show _ = 0
    split at count <;> omega
  · rw [if_neg here]
    rwa [List.countP_cons_of_neg fun other => here (saves_page task n other)] at count

theorem busy_started (app : App) (task : Task) (old new : Page) (there : app.pages[task.page]? = some old) (idle : old.busy = false)
    (busy : new.busy = true) (saves : task.saves task.page = true) (known : Busy app) :
    Busy { app.modify task.page (fun _ => new) with tasks := task :: app.tasks } := by
  intro n
  have count := known n
  show (task :: app.tasks).countP (Task.saves n) = if (app.pages.modify task.page fun _ => new)[n]?.any Page.busy then 1 else 0
  rw [busy_modify]
  by_cases here : task.page = n
  · subst here
    rw [there, Option.any_some, idle] at count
    rw [if_pos rfl, there, Option.any_some, busy, List.countP_cons_of_pos saves, count]
    rfl
  · rw [if_neg here, List.countP_cons_of_neg fun other => here (saves_page task n other), count]

section Steps

variable (truncated : JsString → Int) (printed : Int → JsString)

theorem ended_settled (app : App) (task : Task) (native : KeepaliveConfig) (known : Settled { app with tasks := task :: app.tasks })
    (same : native = if task.ending.configures then configureKeepalive truncated app.stores else app.native) :
    Settled { app with native } := by
  have others : ∀ other ∈ app.tasks, other.Sound := fun other member => known.tasks other (List.mem_cons_of_mem _ member)
  cases configures : task.ending.configures with
  | true =>
      have agrees : Agrees native app.stores.settings := by
        rw [same, if_pos configures]
        exact configure_agrees truncated app.stores known.settings
      exact ⟨known.settings, agrees_inRange _ _ known.settings agrees, others, .inr (.inl agrees)⟩
  | false =>
      rw [if_neg (by rw [configures]; decide)] at same
      subst same
      refine ⟨known.settings, known.native, others, known.agrees.imp_left fun ⟨other, member, holds⟩ => ?_⟩
      rcases List.mem_cons.mp member with rfl | member
      · rw [configures] at holds
        cases holds
      · exact ⟨other, member, holds⟩

theorem finish_sound (app : App) (task : Task) (known : Sound { app with tasks := task :: app.tasks }) :
    Sound (app.finish truncated task.page task.ending) := by
  have settled := ended_settled truncated app task _ known.toSettled rfl
  obtain ⟨n, left, ending⟩ := task
  cases ending with
  | saveSettings =>
      exact ⟨⟨settled.settings, settled.native, settled.tasks, settled.agrees⟩,
        busy_saved app _ known.busy (by simp [Task.saves])⟩
  | saveFontSize =>
      exact ⟨⟨settled.settings, settled.native, settled.tasks, settled.agrees⟩,
        busy_saved app _ known.busy (by simp [Task.saves])⟩
  | selectFont key =>
      have sound : Sound app := ⟨⟨settled.settings, settled.native, settled.tasks, settled.agrees⟩,
        busy_quiet app _ known.busy fun m => by simp [Task.saves]⟩
      exact modify_sound app n (Page.select key) sound fun page _ => by cases page <;> rfl
  | setSessionSettings saves =>
      exact ⟨⟨settled.settings, settled.native, settled.tasks, settled.agrees⟩,
        busy_quiet app _ known.busy fun m => by simp [Task.saves]⟩

theorem written_agrees (app : App) (write : SettingsWrite) (plain : SettingsWrite.keepalive write = false)
    (agrees : Agrees app.native app.stores.settings ∨ Untouched app) :
    Agrees app.native (write.apply app.stores).settings ∨ Untouched { app with stores := write.apply app.stores } := by
  cases write with
  | keepaliveInterval v => cases plain
  | keepaliveAttempts v => cases plain
  | terminalFontFamily family => exact agrees
  | terminalFontSize size => exact agrees

theorem proceed_sound (app : App) (task : Task) (known : Sound { app with tasks := task :: app.tasks }) :
    Sound (app.proceed truncated task) := by
  unfold App.proceed
  split
  · exact finish_sound truncated app task known
  · rename_i write later left
    have sound := known.tasks task List.mem_cons_self
    obtain ⟨allowed, tells⟩ := sound write (by rw [left]; exact List.mem_cons_self)
    refine ⟨⟨apply_inRange write app.stores known.settings allowed, known.native, ?_, ?_⟩, fun n => ?_⟩
    · intro other member
      rcases List.mem_append.mp member with before | last
      · exact known.tasks other (List.mem_cons_of_mem _ before)
      · obtain rfl := List.mem_singleton.mp last
        exact fun write inside => sound write (by rw [left]; exact List.mem_cons_of_mem _ inside)
    · have moved : (∃ other ∈ task :: app.tasks, other.ending.configures = true) →
          ∃ other ∈ app.tasks ++ [{ task with left := later }], other.ending.configures = true := by
        rintro ⟨other, member, configures⟩
        rcases List.mem_cons.mp member with rfl | member
        · exact ⟨_, List.mem_append_right _ List.mem_cons_self, configures⟩
        · exact ⟨other, List.mem_append_left _ member, configures⟩
      cases keepalive : SettingsWrite.keepalive write with
      | true => exact .inl (moved ⟨task, List.mem_cons_self, tells keepalive⟩)
      | false => exact known.agrees.imp moved (written_agrees app write keepalive)
    · refine Eq.trans ?_ (known.busy n)
      exact (List.perm_append_singleton _ _).countP_eq _ |>.trans (by rw [List.countP_cons, List.countP_cons]; rfl)

theorem call_sound (app : App) (task : Task) (sound : Sound app) (right : task.Sound) (quiet : ∀ n, task.saves n = false) :
    Sound (app.call task) := by
  refine sound_perm { app with tasks := task :: app.tasks } _ ⟨⟨sound.settings, sound.native, ?_, ?_⟩, fun n => ?_⟩
    (List.perm_append_singleton _ _)
  · exact List.forall_mem_cons.mpr ⟨right, sound.tasks⟩
  · exact sound.agrees.imp_left fun ⟨other, member, configures⟩ => ⟨other, List.mem_cons_of_mem _ member, configures⟩
  · exact (List.countP_cons_of_neg (by rw [quiet n]; decide)).trans (sound.busy n)

theorem started_sound (app : App) (task : Task) (old new : Page) (sound : Sound app) (there : app.pages[task.page]? = some old)
    (idle : old.busy = false) (busy : new.busy = true) (saves : task.saves task.page = true) (right : task.Sound) :
    Sound ((app.modify task.page fun _ => new).proceed truncated task) := by
  refine proceed_sound truncated _ task ⟨⟨sound.settings, sound.native, ?_, ?_⟩, ?_⟩
  · exact List.forall_mem_cons.mpr ⟨right, sound.tasks⟩
  · exact sound.agrees.imp_left fun ⟨other, member, configures⟩ => ⟨other, List.mem_cons_of_mem _ member, configures⟩
  · exact busy_started app task old new there idle busy saves sound.busy

theorem session_allowed (page : SettingsSession) (settings : SettingsStore) (range : InRange settings) :
    ∀ write ∈ writes (page.patch settings), Allowed write := by
  intro write member
  rw [mem_writes] at member
  cases write with
  | keepaliveInterval v => exact Option.some.inj member ▸ parseValue_within _ _ 5 3600 (by decide) range.interval
  | keepaliveAttempts v => exact Option.some.inj member ▸ parseValue_within _ _ 1 10 (by decide) range.attempts
  | terminalFontFamily family => cases member
  | terminalFontSize size => cases member

theorem lynx_session_allowed (page : SettingsSessionPage) : ∀ write ∈ writes page.patch, Allowed write := by
  intro write member
  rw [mem_writes] at member
  cases write with
  | keepaliveInterval v => exact ⟨_, (Option.some.inj member).symm, clamp_within _ 5 3600 (by decide)⟩
  | keepaliveAttempts v => exact ⟨_, (Option.some.inj member).symm, clamp_within _ 1 10 (by decide)⟩
  | terminalFontFamily family => cases member
  | terminalFontSize size => cases member

-- A tap on a save button of the ArkTS font page, with a text that parses, fits where the number is in the range
-- that the Lynx page has.
def Fits (app : App) : Event → Prop
  | .save n => ∀ page, app.pages[n]? = some (.terminalFont page) → page.saving = false →
      ∀ size, parseInt page.fontSizeInput = some size → 8 ≤ size ∧ size ≤ 48
  | _ => True

theorem parseFontSize_within (page : SettingsTerminalFont) (settings : SettingsStore) (range : InRange settings) :
    Within 8 48 (SettingsTerminalFont.parseFontSize printed page.fontSizeInput settings) ↔
      ∀ size, parseInt page.fontSizeInput = some size → 8 ≤ size ∧ size ≤ 48 := by
  unfold SettingsTerminalFont.parseFontSize
  cases parseInt page.fontSizeInput with
  | none => exact ⟨fun _ _ none => (nomatch none), fun _ => range.size⟩
  | some parsed =>
      refine (parsedNumber_within printed parsed).trans ⟨fun inside size same => ?_, fun every => every parsed rfl⟩
      exact Option.some.inj same ▸ inside

theorem save_sound (app : App) (n : Nat) (page : Page) (sound : Sound app) (there : app.pages[n]? = some page)
    (fits : Fits app (.save n)) : Sound (app.save truncated printed n page) := by
  have configuring : ∀ (ending : Ending) (left : List SettingsWrite), ending.configures = true → (∀ write ∈ left, Allowed write) →
      Task.Sound ⟨n, left, ending⟩ := fun _ _ configures allowed write member => ⟨allowed write member, fun _ => configures⟩
  unfold App.save
  cases page with
  | session page =>
      dsimp only
      split
      · exact sound
      · rename_i free
        exact started_sound truncated app ⟨n, _, .saveSettings⟩ _ (.session { page with saving := true }) sound there
          (Bool.eq_false_iff.mpr free) rfl (by simp [Task.saves]) (configuring _ _ rfl (session_allowed page _ sound.settings))
  | terminalFont page =>
      dsimp only
      split
      · exact sound
      · rename_i free
        refine started_sound truncated app ⟨n, _, .saveFontSize⟩ _ (.terminalFont { page with saving := true }) sound there
          (Bool.eq_false_iff.mpr free) rfl (by simp [Task.saves]) fun write member => ?_
        obtain rfl := List.mem_singleton.mp member
        exact ⟨(parseFontSize_within printed page _ sound.settings).mpr (fits page there (Bool.eq_false_iff.mpr free)),
          fun no => nomatch no⟩
  | lynxSession page =>
      dsimp only
      split
      · exact sound
      · refine call_sound _ _ (modify_sound app n _ sound fun other here => ?_)
          (configuring _ _ rfl (lynx_session_allowed page.shown)) fun m => by simp [Task.saves]
        obtain rfl := Option.some.inj (there.symm.trans here)
        rfl
  | lynxTerminalFont page =>
      dsimp only
      split
      · exact sound
      · refine call_sound _ _ (modify_sound app n _ sound fun other here => ?_) (configuring _ _ rfl fun write member => ?_)
          fun m => by simp [Task.saves]
        · obtain rfl := Option.some.inj (there.symm.trans here)
          rfl
        · obtain rfl := List.mem_singleton.mp member
          exact ⟨_, rfl, clamped_within page.shown.size⟩

theorem selectFont_sound (app : App) (n : Nat) (key : JsString) (page : Page) (next : App) (sound : Sound app)
    (there : app.pages[n]? = some page) (listed : key ∈ fontKeys) (move : app.selectFont truncated n key page = some next) :
    Sound next := by
  cases page with
  | session page => cases move
  | lynxSession page => cases move
  | terminalFont page =>
      unfold App.selectFont at move
      dsimp only at move
      split at move
      · exact Option.some.inj move ▸ sound
      · obtain rfl := Option.some.inj move
        have right : Task.Sound ⟨n, [.terminalFontFamily key], .selectFont key⟩ := by
          intro write member
          obtain rfl := List.mem_singleton.mp member
          exact ⟨listed, fun no => nomatch no⟩
        refine proceed_sound truncated app _ (sound_perm (app.call _) _ (call_sound app _ sound right fun m => ?_) ?_)
        · simp [Task.saves]
        · exact (List.perm_append_singleton _ _).symm
  | lynxTerminalFont page =>
      unfold App.selectFont at move
      dsimp only at move
      split at move
      · exact Option.some.inj move ▸ sound
      · obtain rfl := Option.some.inj move
        refine call_sound _ _ (modify_sound app n _ sound fun other here => ?_) ?_ fun m => by simp [Task.saves]
        · obtain rfl := Option.some.inj (there.symm.trans here)
          rfl
        · intro write member
          obtain rfl := List.mem_singleton.mp member
          exact ⟨listed, fun no => nomatch no⟩

theorem edit_busy (page edited : Page) (field : Field) (value : JsString) (same : page.edit field value = some edited) :
    edited.busy = page.busy := by
  cases page <;> cases field <;> cases same <;> rfl

theorem appear_sound (app : App) (kind : Kind) (sound : Sound app) :
    Sound { app with pages := app.pages ++ [kind.appear app.stores.settings] } := by
  refine ⟨⟨sound.settings, sound.native, sound.tasks, sound.agrees⟩, fun n => ?_⟩
  have count := sound.busy n
  show app.tasks.countP (Task.saves n) = if (app.pages ++ [kind.appear app.stores.settings])[n]?.any Page.busy then 1 else 0
  rcases Nat.lt_trichotomy n app.pages.length with before | rfl | past
  · rwa [List.getElem?_append_left before]
  · rw [List.getElem?_concat_length]
    rw [List.getElem?_eq_none (Nat.le_refl _)] at count
    have idle : (kind.appear app.stores.settings).busy = false := by cases kind <;> rfl
    rwa [Option.any_some, idle]
  · rw [List.getElem?_eq_none (by simp; omega)]
    rwa [List.getElem?_eq_none (Nat.le_of_lt past)] at count

theorem step_sound (app : App) (event : Event) (next : App) (sound : Sound app) (fits : Fits app event)
    (move : step truncated printed app event = some next) : Sound next := by
  cases event with
  | appear kind => exact Option.some.inj move ▸ appear_sound app kind sound
  | edit n field value =>
      obtain ⟨page, there, changed⟩ := Option.bind_eq_some_iff.mp move
      obtain ⟨edited, same, rfl⟩ := Option.map_eq_some_iff.mp changed
      refine modify_sound app n _ sound fun other here => ?_
      obtain rfl := Option.some.inj (there.symm.trans here)
      exact edit_busy page edited field value same
  | rendered n =>
      obtain ⟨page, _, rfl⟩ := Option.map_eq_some_iff.mp move
      exact modify_sound app n _ sound fun page _ => by cases page <;> rfl
  | reported n =>
      obtain ⟨page, _, read⟩ := Option.bind_eq_some_iff.mp move
      split at read
      · rename_i stores settings _ answer
        obtain rfl := Option.some.inj read
        have kept : stores.settings = app.stores.settings := by
          have first : SettingsStore.ensureInitialized app.stores = stores := congrArg Prod.fst answer
          rw [← first, SettingsStore.ensureInitialized_settings]
        refine modify_sound { app with stores } n _ ⟨⟨kept ▸ sound.settings, sound.native, sound.tasks, ?_⟩, sound.busy⟩
          fun page _ => by cases page <;> rfl
        exact sound.agrees.imp_right (Or.imp (fun agrees => kept ▸ agrees) fun ⟨native, same⟩ => ⟨native, kept ▸ same⟩)
      · cases read
  | loaded n =>
      obtain ⟨page, _, read⟩ := Option.bind_eq_some_iff.mp move
      split at read
      · obtain rfl := Option.some.inj read
        exact modify_sound app n _ sound fun page _ => by cases page <;> rfl
      · cases read
  | loadFailed n =>
      obtain ⟨page, _, read⟩ := Option.bind_eq_some_iff.mp move
      split at read
      · cases read
      · obtain rfl := Option.some.inj read
        exact modify_sound app n _ sound fun page _ => by cases page <;> rfl
  | save n =>
      obtain ⟨page, there, rfl⟩ := Option.map_eq_some_iff.mp move
      exact save_sound truncated printed app n page sound there fits
  | selectFont n key =>
      obtain ⟨listed, picked⟩ := Option.ite_none_right_eq_some.mp move
      obtain ⟨page, there, same⟩ := Option.bind_eq_some_iff.mp picked
      exact selectFont_sound truncated app n key page next sound there (List.contains_iff_mem.mp listed) same
  | resumed k =>
      obtain ⟨task, there, rfl⟩ := Option.map_eq_some_iff.mp move
      refine proceed_sound truncated _ task (sound_perm app _ sound ?_)
      obtain ⟨bound, rfl⟩ := List.getElem?_eq_some_iff.mp there
      exact List.getElem_cons_eraseIdx_perm bound
  | answered k =>
      obtain ⟨n, _, rfl⟩ := Option.map_eq_some_iff.mp move
      refine modify_sound { app with answers := app.answers.eraseIdx k } n _ ?_ fun page _ => by cases page <;> rfl
      exact ⟨⟨sound.settings, sound.native, sound.tasks, sound.agrees⟩, sound.busy⟩

theorem save_breaks (app : App) (n : Nat) (page : SettingsTerminalFont) (sound : Sound app) (free : page.saving = false)
    (out : ¬ ∀ size, parseInt page.fontSizeInput = some size → 8 ≤ size ∧ size ≤ 48) :
    ¬ Kept (app.save truncated printed n (.terminalFont page)) := by
  intro kept
  have size := kept.settings.size
  simp only [App.save, free, Bool.false_eq_true, if_false] at size
  exact out ((parseFontSize_within printed page app.stores.settings sound.settings).mp size)

theorem step_breaks (app : App) (event : Event) (next : App) (sound : Sound app) (unfit : ¬ Fits app event)
    (move : step truncated printed app event = some next) : ¬ Kept next := by
  cases event with
  | save n =>
      obtain ⟨page, there, rfl⟩ := Option.map_eq_some_iff.mp move
      simp only [Fits, Classical.not_forall] at unfit
      obtain ⟨form, here, free, size, parsed, out⟩ := unfit
      obtain rfl := Option.some.inj (there.symm.trans here)
      exact save_breaks truncated printed app n form sound free fun every => out (every size parsed)
  | _ => exact absurd trivial unfit

theorem launched_sound (clock : Clock) (appStorage : AppStorage) : Sound { stores := initialStores clock appStorage } where
  settings := ⟨⟨60, rfl, by decide, by decide⟩, ⟨3, rfl, by decide, by decide⟩, List.mem_cons_self, ⟨14, rfl, by decide, by decide⟩⟩
  native := ⟨(by decide : 5 ≤ (30 : Int) ∧ (30 : Int) ≤ 3600), (by decide : 1 ≤ (3 : Int) ∧ (3 : Int) ≤ 10)⟩
  tasks := fun _ none => (nomatch none)
  agrees := .inr (.inr ⟨rfl, rfl, rfl⟩)
  busy := fun _ => rfl

/-- In every run of the settings forms of both front ends, in whatever order their saves go on: the keepalive interval
stays in 5..3600 and the attempts in 1..10, in the store and in the native module, the font is one of the options and
its size in 8..48, no ArkTS page has two saves in progress, and when no save is in progress the native module has the
keepalive of the store or both have their own defaults; if and only if every number saved on the ArkTS font page is in
8..48. -/
theorem settings_kept (clock : Clock) (appStorage : AppStorage) (events : List Event) :
    Always (step truncated printed) { stores := initialStores clock appStorage } events Kept ↔
      Steps (step truncated printed) { stores := initialStores clock appStorage } events fun app event _ => Fits app event :=
  fits_iff (step truncated printed) _ events Sound Kept (launched_sound clock appStorage) Fits
    (fun before event after sound fits move => step_sound truncated printed before event after sound fits move) Sound.kept
    fun before event after sound unfit move => step_breaks truncated printed before event after sound unfit move

-- An ArkTS and a Lynx save that cross, and a Lynx form that was saved before its settings came: it has its own defaults.
example :
    let events := [.appear .session, .appear .lynxSession, .edit 0 .interval (js "9999"), .save 0, .save 1, .resumed 0, .resumed 0,
      .resumed 0, .resumed 0, .resumed 0, .answered 0]
    (events.foldlM (step (fun _ => 0) decimalInt) { stores := initialStores noon { available := true } }).map
      (fun app => (app.native, app.stores.settings.keepaliveInterval, app.tasks.length)) = some (⟨60, 3⟩, .int 60, 0) := by
  decide +kernel

end Steps

end Kessh.SettingsScreens
