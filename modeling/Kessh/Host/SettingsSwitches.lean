import Kessh.Host.KesshHost
import Kessh.Lib.Labelled
import Kessh.Lib.Pending
import Mathlib.Data.List.Perm.Basic

set_option autoImplicit false

-- The switches for the dark mode and for saved passwords, on the settings pages of both front ends. The Lynx pages
-- show a change at once and send it after the others; their calls reach the host in the order that they were made in.
namespace Kessh.SettingsSwitches

open Ecma Labelled

-- A caller has a number: a ThemeProvider or a SettingsPage that was mounted.
inductive Request where
  | getSettings (caller : Nat)
  | setDarkMode (value : Bool)
  | setSavePassword (value : Bool)
deriving DecidableEq

-- The promise of getSettings, which is rejected where the bridge is not registered.
structure Answer where
  caller : Nat
  settings : Option AppSettingsDTO

-- state/ThemeContext.tsx; `known` is ghost: the answer of getSettings has come, or the user has set the mode.
structure ThemeProvider where
  number : Nat
  darkMode : Bool := false
  known : Bool := false

-- pages/SettingsPage.tsx. The handlers see what the last render has shown, and the first effect the mode at that time.
structure SettingsPage where
  number : Nat
  themeDark : Bool
  settings : Option AppSettingsDTO := none
  shown : Option AppSettingsDTO := none

-- Only the page of the current route is mounted.
structure LynxApp where
  theme : ThemeProvider
  page : Option SettingsPage := none

structure App where
  stores : Stores
  bridged : Bool
  requests : List Request := []
  answers : List Answer := []
  lynx : Option LynxApp := none
  next : Nat := 0

def App.ask (app : App) (request : Request) : App := { app with requests := app.requests ++ [request] }

-- What the page makes of a rejection.
def SettingsPage.fallback (page : SettingsPage) : AppSettingsDTO where
  darkMode := page.themeDark
  savePassword := false
  session :=
    { keepaliveInterval := .int 60, keepaliveAttempts := .int 3, terminalFontFamily := js "system", terminalFontSize := .int 14 }

def ThemeProvider.answered (answer : Answer) (theme : ThemeProvider) : ThemeProvider :=
  if theme.number = answer.caller then
    match answer.settings with
    | some settings => { theme with darkMode := settings.darkMode, known := true }
    | none => theme
  else theme

def SettingsPage.answered (answer : Answer) (page : SettingsPage) : SettingsPage :=
  if page.number = answer.caller then { page with settings := some (answer.settings.getD page.fallback) } else page

def LynxApp.answered (answer : Answer) (lynx : LynxApp) : LynxApp where
  theme := lynx.theme.answered answer
  page := lynx.page.map (SettingsPage.answered answer)

def App.setDarkMode (app : App) (lynx : LynxApp) (page : SettingsPage) (settings : AppSettingsDTO) (checked : Bool) : App :=
  { app with lynx := some {
      theme := { lynx.theme with darkMode := checked, known := true }
      page := some { page with settings := some { settings with darkMode := checked } } } }.ask (.setDarkMode checked)

def App.setSavePassword (app : App) (lynx : LynxApp) (page : SettingsPage) (settings : AppSettingsDTO) (checked : Bool) : App :=
  { app with lynx := some { lynx with
      page := some { page with settings := some { settings with savePassword := checked } } } }.ask (.setSavePassword checked)

-- A call reaches the host.
def App.perform (app : App) : Request → App
  | .getSettings caller =>
      match KesshHost.getSettings app.stores with
      | (stores, .settings settings) => { app with stores, answers := app.answers ++ [⟨caller, some settings⟩] }
      | (stores, _) => { app with stores }
  | .setDarkMode value => { app with stores := SettingsStore.setDarkMode value app.stores }
  | .setSavePassword value => { app with stores := SettingsStore.setSavePassword value app.stores }

-- Without the bridge it is rejected, which the two setters swallow.
def App.reject (app : App) : Request → App
  | .getSettings caller => { app with answers := app.answers ++ [⟨caller, none⟩] }
  | _ => app

def App.handle (app : App) (request : Request) : App := if app.bridged then app.perform request else app.reject request

inductive Event where
  | openLynx
  | closeLynx
  | openSettings
  | leaveSettings
  | rendered
  | setDarkMode (checked : Bool)
  | setSavePassword (checked : Bool)
  | handled
  | answered (k : Nat)
  | toggleDarkMode (v : Bool)
  | toggleSavePassword (v : Bool)

-- The last two are those of pages/SettingsPage.ets, which is not there while the Lynx app is.
def step (app : App) : Event → Option App
  | .openLynx =>
      if app.lynx.isSome then none
      else some ({ app with lynx := some { theme := { number := app.next } }, next := app.next + 1 }.ask (.getSettings app.next))
  | .closeLynx => some { app with lynx := none }
  | .openSettings =>
      app.lynx.map fun lynx =>
        { app with
          lynx := some { lynx with page := some { number := app.next, themeDark := lynx.theme.darkMode } }
          next := app.next + 1 }.ask (.getSettings app.next)
  | .leaveSettings => app.lynx.map fun lynx => { app with lynx := some { lynx with page := none } }
  | .rendered =>
      app.lynx.map fun lynx => { app with lynx := some { lynx with
        page := lynx.page.map fun page => { page with shown := page.settings } } }
  | .setDarkMode checked =>
      app.lynx.bind fun lynx => lynx.page.bind fun page => page.shown.map fun settings =>
        app.setDarkMode lynx page settings checked
  | .setSavePassword checked =>
      app.lynx.bind fun lynx => lynx.page.bind fun page => page.shown.map fun settings =>
        app.setSavePassword lynx page settings checked
  | .handled =>
      match app.requests with
      | [] => none
      | request :: rest => some ({ app with requests := rest }.handle request)
  | .answered k =>
      app.answers[k]?.map fun answer =>
        { app with answers := app.answers.eraseIdx k, lynx := app.lynx.map (LynxApp.answered answer) }
  | .toggleDarkMode v => if app.lynx.isSome then none else some { app with stores := SettingsStore.setDarkMode v app.stores }
  | .toggleSavePassword v =>
      if app.lynx.isSome then none else some { app with stores := SettingsStore.setSavePassword v app.stores }

-- A switch: where the store and the answers have it, and which calls set it.
structure Switch where
  stored : Stores → Bool
  told : AppSettingsDTO → Bool
  asked : Request → Option Bool
  reads : ∀ caller, asked (.getSettings caller) = none
  stored_darkMode : ∀ v s, stored (SettingsStore.setDarkMode v s) = (asked (.setDarkMode v)).getD (stored s)
  stored_savePassword : ∀ v s, stored (SettingsStore.setSavePassword v s) = (asked (.setSavePassword v)).getD (stored s)
  stored_initialized : ∀ s, stored (SettingsStore.ensureInitialized s) = stored s
  told_reply : ∀ (settings : AppSettingsDTO) (s : Stores), settings.darkMode = s.settings.darkModeEnabled →
    settings.savePassword = s.settings.savePasswordEnabled → told settings = stored s

theorem setDarkMode_settings (v : Bool) (s : Stores) :
    (SettingsStore.setDarkMode v s).settings = { s.settings with darkModeEnabled := v } := by
  unfold SettingsStore.setDarkMode
  dsimp only
  split <;> rfl

theorem setSavePassword_settings (v : Bool) (s : Stores) :
    (SettingsStore.setSavePassword v s).settings = { s.settings with savePasswordEnabled := v } := by
  unfold SettingsStore.setSavePassword
  dsimp only
  split <;> rfl

theorem perform_getSettings (app : App) (caller : Nat) :
    ∃ settings : AppSettingsDTO, app.perform (.getSettings caller) =
        { app with
          stores := SettingsStore.ensureInitialized app.stores
          answers := app.answers ++ [⟨caller, some settings⟩] } ∧
      settings.darkMode = app.stores.settings.darkModeEnabled ∧
      settings.savePassword = app.stores.settings.savePasswordEnabled := by
  refine ⟨_, rfl, ?_, ?_⟩
  · dsimp only
    rw [SettingsStore.ensureInitialized_settings]
  · dsimp only
    rw [SettingsStore.ensureInitialized_settings]

def darkMode : Switch where
  stored := fun s => s.settings.darkModeEnabled
  told := AppSettingsDTO.darkMode
  asked := fun
    | .setDarkMode value => some value
    | _ => none
  reads := fun _ => rfl
  stored_darkMode := fun v s => by rw [setDarkMode_settings]; rfl
  stored_savePassword := fun v s => by rw [setSavePassword_settings]; rfl
  stored_initialized := fun s => by rw [SettingsStore.ensureInitialized_settings]
  told_reply := fun _ _ dark _ => dark

def savePassword : Switch where
  stored := fun s => s.settings.savePasswordEnabled
  told := AppSettingsDTO.savePassword
  asked := fun
    | .setSavePassword value => some value
    | _ => none
  reads := fun _ => rfl
  stored_darkMode := fun v s => by rw [setDarkMode_settings]; rfl
  stored_savePassword := fun v s => by rw [setSavePassword_settings]; rfl
  stored_initialized := fun s => by rw [SettingsStore.ensureInitialized_settings]
  told_reply := fun _ _ _ save => save

def App.settled (app : App) (switch : Switch) : Bool :=
  if app.bridged then Pending.settled switch.asked app.requests (switch.stored app.stores) else switch.stored app.stores

structure Linked (s : Stores) : Prop where
  darkMode : s.appStorage.available = true → s.appStorage.darkMode = some s.settings.darkModeEnabled
  savePassword : s.appStorage.available = true → s.appStorage.savePassword = some s.settings.savePasswordEnabled

-- The switches of both front ends show what the store has, or will have.
structure Kept (app : App) : Prop where
  linked : Linked app.stores
  theme : ∀ lynx, app.lynx = some lynx → lynx.theme.known = true → lynx.theme.darkMode = app.settled darkMode
  page : ∀ lynx page settings, app.lynx = some lynx → lynx.page = some page → page.settings = some settings →
    settings.savePassword = app.settled savePassword

theorem linked_initialized (s : Stores) : Linked (SettingsStore.ensureInitialized s) := by
  unfold SettingsStore.ensureInitialized
  split
  · exact ⟨fun _ => rfl, fun _ => rfl⟩
  · rename_i absent
    exact ⟨fun available => absurd available absent, fun available => absurd available absent⟩

theorem linked_setDarkMode (v : Bool) (s : Stores) (linked : Linked s) : Linked (SettingsStore.setDarkMode v s) := by
  unfold SettingsStore.setDarkMode
  dsimp only
  split
  · rename_i available
    exact ⟨fun _ => rfl, fun _ => linked.savePassword available⟩
  · rename_i absent
    exact ⟨fun available => absurd available absent, fun available => absurd available absent⟩

theorem linked_setSavePassword (v : Bool) (s : Stores) (linked : Linked s) : Linked (SettingsStore.setSavePassword v s) := by
  unfold SettingsStore.setSavePassword
  dsimp only
  split
  · rename_i available
    exact ⟨fun _ => linked.darkMode available, fun _ => rfl⟩
  · rename_i absent
    exact ⟨fun available => absurd available absent, fun available => absurd available absent⟩

section Queues

variable (switch : Switch)

theorem ask_settled (app : App) (request : Request) : (app.ask request).settled switch =
    if app.bridged then (switch.asked request).getD (app.settled switch) else app.settled switch := by
  unfold App.settled App.ask
  dsimp only
  split
  · rw [Pending.settled_append]
  · rfl

theorem perform_stored (app : App) (request : Request) :
    switch.stored (app.perform request).stores = (switch.asked request).getD (switch.stored app.stores) := by
  cases request with
  | getSettings caller =>
      obtain ⟨settings, same, _⟩ := perform_getSettings app caller
      rw [same, switch.reads]
      exact switch.stored_initialized app.stores
  | setDarkMode value => exact switch.stored_darkMode value app.stores
  | setSavePassword value => exact switch.stored_savePassword value app.stores

theorem perform_frame (app : App) (request : Request) : (app.perform request).requests = app.requests ∧
    (app.perform request).bridged = app.bridged ∧ (app.perform request).lynx = app.lynx ∧ (app.perform request).next = app.next := by
  cases request with
  | getSettings caller =>
      obtain ⟨settings, same, _⟩ := perform_getSettings app caller
      rw [same]
      exact ⟨rfl, rfl, rfl, rfl⟩
  | setDarkMode value => exact ⟨rfl, rfl, rfl, rfl⟩
  | setSavePassword value => exact ⟨rfl, rfl, rfl, rfl⟩

theorem reject_frame (app : App) (request : Request) : (app.reject request).requests = app.requests ∧
    (app.reject request).bridged = app.bridged ∧ (app.reject request).lynx = app.lynx ∧ (app.reject request).next = app.next ∧
    (app.reject request).stores = app.stores := by
  cases request <;> exact ⟨rfl, rfl, rfl, rfl, rfl⟩

theorem handle_frame (app : App) (request : Request) : (app.handle request).requests = app.requests ∧
    (app.handle request).bridged = app.bridged ∧ (app.handle request).lynx = app.lynx ∧ (app.handle request).next = app.next := by
  unfold App.handle
  split
  · exact perform_frame app request
  · obtain ⟨queue, bridge, lynx, next, _⟩ := reject_frame app request
    exact ⟨queue, bridge, lynx, next⟩

theorem handle_settled (app : App) (request : Request) :
    (app.handle request).settled switch = { app with requests := request :: app.requests }.settled switch := by
  obtain ⟨queue, bridge, _⟩ := handle_frame app request
  unfold App.settled
  rw [queue, bridge]
  cases bridged : app.bridged with
  | true =>
      rw [if_pos rfl, if_pos rfl, App.handle, if_pos bridged, perform_stored]
      rfl
  | false =>
      rw [if_neg Bool.false_ne_true, if_neg Bool.false_ne_true, App.handle, if_neg (by rw [bridged]; decide),
        (reject_frame app request).2.2.2.2]

-- What a caller is told, or will be, is what is settled.
structure Coming (app : App) (caller : Nat) : Prop where
  requests : Pending.QuietAfter switch.asked (.getSettings caller) app.requests
  answers : ∀ answer ∈ app.answers, answer.caller = caller → ∀ settings, answer.settings = some settings →
    switch.told settings = app.settled switch

theorem coming_ask (app : App) (caller : Nat) (request : Request) (coming : Coming switch app caller)
    (plain : switch.asked request = none) : Coming switch (app.ask request) caller where
  requests := Pending.quiet_append switch.asked (.getSettings caller) app.requests request coming.requests plain
  answers := by
    rw [ask_settled, plain, Option.getD_none, ite_self]
    exact coming.answers

theorem handle_answers (app : App) (request : Request) (answer : Answer) (member : answer ∈ (app.handle request).answers) :
    answer ∈ app.answers ∨ request = .getSettings answer.caller ∧ (answer.settings = none → app.bridged = false) ∧
      ∀ settings, answer.settings = some settings → app.bridged = true ∧ switch.told settings = switch.stored app.stores := by
  unfold App.handle at member
  split at member
  · rename_i bridged
    cases request with
    | getSettings caller =>
        obtain ⟨settings, same, dark, save⟩ := perform_getSettings app caller
        rw [same] at member
        rcases List.mem_append.mp member with before | last
        · exact .inl before
        · obtain rfl := List.mem_singleton.mp last
          refine .inr ⟨rfl, fun none => (nomatch none), fun told given => ?_⟩
          exact Option.some.inj given ▸ ⟨bridged, switch.told_reply settings app.stores dark save⟩
    | setDarkMode value => exact .inl member
    | setSavePassword value => exact .inl member
  · rename_i off
    cases request with
    | getSettings caller =>
        rcases List.mem_append.mp member with before | last
        · exact .inl before
        · obtain rfl := List.mem_singleton.mp last
          exact .inr ⟨rfl, fun _ => Bool.eq_false_iff.mpr off, fun told none => (nomatch none)⟩
    | setDarkMode value => exact .inl member
    | setSavePassword value => exact .inl member

theorem coming_handle (app : App) (caller : Nat) (request : Request)
    (coming : Coming switch { app with requests := request :: app.requests } caller) :
    Coming switch (app.handle request) caller where
  requests := by
    rw [(handle_frame app request).1]
    exact coming.requests.2
  answers := by
    intro answer member same settings given
    rw [handle_settled]
    rcases handle_answers switch app request answer member with before | ⟨reads, _, told⟩
    · exact coming.answers answer before same settings given
    · obtain ⟨bridged, right⟩ := told settings given
      subst same
      rw [right, App.settled, if_pos bridged, Pending.settled_quiet]
      intro other inside
      rcases List.mem_cons.mp inside with rfl | later
      · rw [reads, switch.reads]
      · exact coming.requests.1 reads other later

end Queues

def waiting (caller : Nat) (app : App) : Nat :=
  app.requests.count (.getSettings caller) + app.answers.countP fun answer => answer.caller == caller

theorem waiting_ask (caller : Nat) (app : App) (request : Request) :
    waiting caller (app.ask request) = waiting caller app + if request = .getSettings caller then 1 else 0 := by
  unfold waiting App.ask
  dsimp only
  rw [List.count_append, List.count_singleton]
  simp only [beq_iff_eq]
  omega

theorem waiting_handle (caller : Nat) (app : App) (request : Request) :
    waiting caller (app.handle request) = waiting caller { app with requests := request :: app.requests } := by
  unfold waiting
  rw [(handle_frame app request).1]
  dsimp only
  rw [List.count_cons]
  cases request with
  | getSettings other =>
      have answered : ∃ settings, (app.handle (.getSettings other)).answers = app.answers ++ [⟨other, settings⟩] := by
        unfold App.handle
        split
        · obtain ⟨settings, same, _⟩ := perform_getSettings app other
          exact ⟨some settings, by rw [same]⟩
        · exact ⟨none, rfl⟩
      obtain ⟨settings, same⟩ := answered
      rw [same, List.countP_append, List.countP_singleton]
      simp only [beq_iff_eq, Request.getSettings.injEq]
      omega
  | setDarkMode value =>
      have same : (app.handle (.setDarkMode value)).answers = app.answers := by unfold App.handle; split <;> rfl
      simp [same]
  | setSavePassword value =>
      have same : (app.handle (.setSavePassword value)).answers = app.answers := by unfold App.handle; split <;> rfl
      simp [same]

theorem waiting_answered (caller : Nat) (app : App) (k : Nat) (answer : Answer) (there : app.answers[k]? = some answer) :
    waiting caller app =
      waiting caller { app with answers := app.answers.eraseIdx k } + if answer.caller = caller then 1 else 0 := by
  obtain ⟨bound, rfl⟩ := List.getElem?_eq_some_iff.mp there
  unfold waiting
  dsimp only
  rw [← (List.getElem_cons_eraseIdx_perm bound).countP_eq, List.countP_cons]
  simp only [beq_iff_eq]
  omega

structure Sound (app : App) : Prop extends Kept app where
  asking : ∀ lynx, app.lynx = some lynx → lynx.theme.known = false → Coming darkMode app lynx.theme.number
  loading : ∀ lynx page, app.lynx = some lynx → lynx.page = some page → page.settings = none → Coming savePassword app page.number
  once : ∀ lynx page, app.lynx = some lynx → lynx.page = some page →
    waiting page.number app ≤ if page.settings.isSome then 0 else 1
  rendered : ∀ lynx page, app.lynx = some lynx → lynx.page = some page → page.shown.isSome = true → page.settings.isSome = true
  fresh : ∀ caller, app.next ≤ caller → waiting caller app = 0
  rejected : ∀ answer ∈ app.answers, answer.settings = none → app.bridged = false

theorem waiting_absent (caller : Nat) (app : App) (none : waiting caller app = 0) :
    .getSettings caller ∉ app.requests ∧ ∀ answer ∈ app.answers, answer.caller ≠ caller := by
  obtain ⟨requests, answers⟩ := Nat.add_eq_zero_iff.mp none
  refine ⟨List.count_eq_zero.mp requests, fun answer member same => ?_⟩
  exact List.countP_eq_zero.mp answers answer member (beq_iff_eq.mpr same)

theorem coming_mounted (switch : Switch) (app : App) (caller : Nat) (fresh : waiting caller app = 0) :
    Coming switch (app.ask (.getSettings caller)) caller := by
  obtain ⟨requests, answers⟩ := waiting_absent caller app fresh
  have coming : Coming switch app caller :=
    ⟨Pending.quiet_absent switch.asked (.getSettings caller) app.requests requests, fun answer member same => absurd same (answers answer member)⟩
  exact coming_ask switch app caller _ coming (switch.reads caller)

theorem coming_lynx (switch : Switch) (app : App) (lynx : Option LynxApp) (next caller : Nat) (coming : Coming switch app caller) :
    Coming switch { app with lynx, next } caller := ⟨coming.requests, coming.answers⟩

theorem fresh_ask (app : App) (request : Request) (next : Nat) (later : app.next ≤ next)
    (fresh : ∀ caller, app.next ≤ caller → waiting caller app = 0) (numbered : ∀ caller, request = .getSettings caller → caller < next) :
    ∀ caller, next ≤ caller → waiting caller (app.ask request) = 0 := by
  intro caller past
  rw [waiting_ask, fresh caller (by omega), if_neg]
  intro same
  have bound := numbered caller same
  omega

theorem openLynx_sound (app : App) (sound : Sound app) :
    Sound ({ app with lynx := some { theme := { number := app.next } }, next := app.next + 1 }.ask (.getSettings app.next)) where
  linked := sound.linked
  theme := by
    rintro lynx ⟨⟩ known
    cases known
  page := by
    rintro lynx page settings ⟨⟩ none
    cases none
  asking := by
    rintro lynx ⟨⟩ _
    exact coming_lynx darkMode _ _ _ _ (coming_mounted darkMode app app.next (sound.fresh app.next (Nat.le_refl _)))
  loading := by
    rintro lynx page ⟨⟩ none
    cases none
  once := by
    rintro lynx page ⟨⟩ none
    cases none
  rendered := by
    rintro lynx page ⟨⟩ none
    cases none
  fresh := fun caller past => fresh_ask app (.getSettings app.next) (app.next + 1) (Nat.le_succ _) sound.fresh
    (fun other same => by cases same; exact Nat.lt_succ_self _) caller past
  rejected := sound.rejected

theorem openSettings_sound (app : App) (lynx : LynxApp) (sound : Sound app) (here : app.lynx = some lynx) :
    Sound ({ app with
      lynx := some { lynx with page := some { number := app.next, themeDark := lynx.theme.darkMode } }
      next := app.next + 1 }.ask (.getSettings app.next)) where
  linked := sound.linked
  theme := by
    rintro other ⟨⟩ known
    rw [ask_settled, darkMode.reads, Option.getD_none, ite_self]
    exact sound.theme lynx here known
  page := by
    rintro other page settings ⟨⟩ ⟨⟩ none
    cases none
  asking := by
    rintro other ⟨⟩ unknown
    exact coming_lynx darkMode _ _ _ _ (coming_ask darkMode app _ _ (sound.asking lynx here unknown) (darkMode.reads _))
  loading := by
    rintro other page ⟨⟩ ⟨⟩ _
    exact coming_lynx savePassword _ _ _ _ (coming_mounted savePassword app app.next (sound.fresh app.next (Nat.le_refl _)))
  once := by
    rintro other page ⟨⟩ ⟨⟩
    show waiting app.next (app.ask (.getSettings app.next)) ≤ 1
    rw [waiting_ask, sound.fresh app.next (Nat.le_refl _), if_pos rfl]
  rendered := by
    rintro other page ⟨⟩ ⟨⟩ none
    cases none
  fresh := fun caller past => fresh_ask app (.getSettings app.next) (app.next + 1) (Nat.le_succ _) sound.fresh
    (fun other same => by cases same; exact Nat.lt_succ_self _) caller past
  rejected := sound.rejected

theorem leave_sound (app : App) (lynx : Option LynxApp) (sound : Sound app)
    (same : ∀ left, lynx = some left → left.page = none ∧ ∃ before, app.lynx = some before ∧ left.theme = before.theme) :
    Sound { app with lynx } where
  linked := sound.linked
  theme := by
    intro left there known
    obtain ⟨_, before, here, theme⟩ := same left there
    rw [theme] at known ⊢
    exact sound.theme before here known
  page := fun left page _ there mounted => by rw [(same left there).1] at mounted; cases mounted
  asking := by
    intro left there unknown
    obtain ⟨_, before, here, theme⟩ := same left there
    rw [theme] at unknown ⊢
    exact coming_lynx darkMode app lynx app.next _ (sound.asking before here unknown)
  loading := fun left page there mounted => by rw [(same left there).1] at mounted; cases mounted
  once := fun left page there mounted => by rw [(same left there).1] at mounted; cases mounted
  rendered := fun left page there mounted => by rw [(same left there).1] at mounted; cases mounted
  fresh := sound.fresh
  rejected := sound.rejected

theorem handle_linked (app : App) (request : Request) (linked : Linked app.stores) : Linked (app.handle request).stores := by
  unfold App.handle
  split
  · cases request with
    | getSettings caller =>
        obtain ⟨settings, same, _⟩ := perform_getSettings app caller
        rw [same]
        exact linked_initialized app.stores
    | setDarkMode value => exact linked_setDarkMode value app.stores linked
    | setSavePassword value => exact linked_setSavePassword value app.stores linked
  · rw [(reject_frame app request).2.2.2.2]
    exact linked

theorem handle_sound (app : App) (request : Request) (sound : Sound { app with requests := request :: app.requests }) :
    Sound (app.handle request) := by
  obtain ⟨_, bridge, same, next⟩ := handle_frame app request
  constructor
  · constructor
    · exact handle_linked app request sound.linked
    · intro lynx there known
      rw [handle_settled]
      exact sound.theme lynx (same ▸ there) known
    · intro lynx page settings there mounted given
      rw [handle_settled]
      exact sound.page lynx page settings (same ▸ there) mounted given
  · exact fun lynx there unknown => coming_handle darkMode app _ request (sound.asking lynx (same ▸ there) unknown)
  · exact fun lynx page there mounted unloaded =>
      coming_handle savePassword app _ request (sound.loading lynx page (same ▸ there) mounted unloaded)
  · intro lynx page there mounted
    rw [waiting_handle]
    exact sound.once lynx page (same ▸ there) mounted
  · exact fun lynx page there => sound.rendered lynx page (same ▸ there)
  · intro caller past
    rw [waiting_handle]
    exact sound.fresh caller (next ▸ past)
  · intro answer member none
    rw [bridge]
    rcases handle_answers darkMode app request answer member with before | ⟨_, off, _⟩
    · exact sound.rejected answer before none
    · exact off none

theorem rendered_sound (app : App) (lynx : LynxApp) (sound : Sound app) (here : app.lynx = some lynx) :
    Sound { app with lynx := some { lynx with page := lynx.page.map fun page => { page with shown := page.settings } } } where
  linked := sound.linked
  theme := by
    rintro other ⟨⟩ known
    exact sound.theme lynx here known
  page := by
    rintro other page settings ⟨⟩ mounted given
    obtain ⟨before, there, rfl⟩ := Option.map_eq_some_iff.mp mounted
    exact sound.page lynx before settings here there given
  asking := by
    rintro other ⟨⟩ unknown
    exact coming_lynx darkMode app _ app.next _ (sound.asking lynx here unknown)
  loading := by
    rintro other page ⟨⟩ mounted unloaded
    obtain ⟨before, there, rfl⟩ := Option.map_eq_some_iff.mp mounted
    exact coming_lynx savePassword app _ app.next _ (sound.loading lynx before here there unloaded)
  once := by
    rintro other page ⟨⟩ mounted
    obtain ⟨before, there, rfl⟩ := Option.map_eq_some_iff.mp mounted
    exact sound.once lynx before here there
  rendered := by
    rintro other page ⟨⟩ mounted shown
    obtain ⟨before, there, rfl⟩ := Option.map_eq_some_iff.mp mounted
    exact shown
  fresh := sound.fresh
  rejected := sound.rejected

theorem flipped_sound (app : App) (lynx : LynxApp) (page : SettingsPage) (settings : AppSettingsDTO) (theme : ThemeProvider)
    (request : Request) (sound : Sound app) (here : app.lynx = some lynx) (mounted : lynx.page = some page)
    (loaded : page.settings.isSome = true) (plain : ∀ caller, request ≠ .getSettings caller)
    (shows : settings.savePassword = (app.ask request).settled savePassword)
    (knows : theme.known = true → theme.darkMode = (app.ask request).settled darkMode)
    (waits : theme.known = false → Coming darkMode (app.ask request) theme.number) :
    Sound ({ app with lynx := some { theme, page := some { page with settings := some settings } } }.ask request) where
  linked := sound.linked
  theme := by
    rintro other ⟨⟩ known
    exact knows known
  page := by
    rintro other third given ⟨⟩ ⟨⟩ ⟨⟩
    exact shows
  asking := by
    rintro other ⟨⟩ unknown
    exact coming_lynx darkMode (app.ask request) _ app.next _ (waits unknown)
  loading := by
    rintro other third ⟨⟩ ⟨⟩ none
    cases none
  once := by
    rintro other third ⟨⟩ ⟨⟩
    have before := sound.once lynx page here mounted
    rw [loaded] at before
    show waiting page.number (app.ask request) ≤ 0
    rwa [waiting_ask, if_neg (plain page.number)]
  rendered := by
    rintro other third ⟨⟩ ⟨⟩ _
    rfl
  fresh := fun caller past => fresh_ask app request app.next (Nat.le_refl _) sound.fresh
    (fun other same => absurd same (plain other)) caller past
  rejected := sound.rejected

-- The save-password switch has been rendered as it is, and what is set without the bridge is what the store has.
-- The theme is told of no mode that the user has changed since it asked, and a page is not rejected where
-- passwords are saved.
def Fits (app : App) : Event → Prop
  | .setDarkMode checked =>
      (app.bridged = true ∨ checked = app.stores.settings.darkModeEnabled) ∧
        ∀ lynx page shown settings, app.lynx = some lynx → lynx.page = some page → page.shown = some shown →
          page.settings = some settings → shown.savePassword = settings.savePassword
  | .setSavePassword checked => app.bridged = true ∨ checked = app.stores.settings.savePasswordEnabled
  | .answered k =>
      ∀ answer lynx, app.answers[k]? = some answer → app.lynx = some lynx →
        (lynx.theme.number = answer.caller → lynx.theme.known = true → ∀ settings, answer.settings = some settings →
          settings.darkMode = lynx.theme.darkMode) ∧
        ∀ page, lynx.page = some page → page.number = answer.caller → answer.settings = none →
          app.stores.settings.savePasswordEnabled = false
  | _ => True

theorem ask_set (switch : Switch) (app : App) (request : Request) (value : Bool) (asks : switch.asked request = some value)
    (reaches : app.bridged = true ∨ value = switch.stored app.stores) : (app.ask request).settled switch = value := by
  rw [ask_settled, asks, Option.getD_some]
  split
  · rfl
  · rename_i off
    rw [App.settled, if_neg off]
    exact (reaches.resolve_left off).symm

theorem ask_other (switch : Switch) (app : App) (request : Request) (asks : switch.asked request = none) :
    (app.ask request).settled switch = app.settled switch := by
  rw [ask_settled, asks, Option.getD_none, ite_self]

theorem setDarkMode_sound (app : App) (lynx : LynxApp) (page : SettingsPage) (shown : AppSettingsDTO) (checked : Bool)
    (sound : Sound app) (here : app.lynx = some lynx) (mounted : lynx.page = some page) (there : page.shown = some shown)
    (fits : Fits app (.setDarkMode checked)) : Sound (app.setDarkMode lynx page shown checked) := by
  have loaded := sound.rendered lynx page here mounted (by rw [there]; rfl)
  obtain ⟨settings, given⟩ := Option.isSome_iff_exists.mp loaded
  refine flipped_sound app lynx page { shown with darkMode := checked } { lynx.theme with darkMode := checked, known := true }
    (.setDarkMode checked) sound here mounted loaded (fun _ same => nomatch same) ?_ (fun _ => ?_) fun no => nomatch no
  · rw [ask_other savePassword app _ rfl]
    exact (fits.2 lynx page shown settings here mounted there given).trans (sound.page lynx page settings here mounted given)
  · exact (ask_set darkMode app _ checked rfl fits.1).symm

theorem setSavePassword_sound (app : App) (lynx : LynxApp) (page : SettingsPage) (shown : AppSettingsDTO) (checked : Bool)
    (sound : Sound app) (here : app.lynx = some lynx) (mounted : lynx.page = some page) (there : page.shown = some shown)
    (fits : Fits app (.setSavePassword checked)) : Sound (app.setSavePassword lynx page shown checked) := by
  have loaded := sound.rendered lynx page here mounted (by rw [there]; rfl)
  refine flipped_sound app lynx page { shown with savePassword := checked } lynx.theme (.setSavePassword checked) sound here
    mounted loaded (fun _ same => nomatch same) ?_ (fun known => ?_) fun unknown => ?_
  · exact (ask_set savePassword app _ checked rfl fits).symm
  · rw [ask_other darkMode app _ rfl]
    exact sound.theme lynx here known
  · exact coming_ask darkMode app _ _ (sound.asking lynx here unknown) rfl

theorem coming_erase (switch : Switch) (app : App) (k caller : Nat) (coming : Coming switch app caller) :
    Coming switch { app with answers := app.answers.eraseIdx k } caller where
  requests := coming.requests
  answers := fun answer member => coming.answers answer (List.mem_of_mem_eraseIdx member)

theorem theme_answered (theme : ThemeProvider) (answer : Answer) (dark : Bool)
    (told : theme.number = answer.caller → ∀ settings, answer.settings = some settings → settings.darkMode = dark)
    (kept : theme.known = true → theme.darkMode = dark) (known : (theme.answered answer).known = true) :
    (theme.answered answer).darkMode = dark := by
  unfold ThemeProvider.answered at known ⊢
  by_cases same : theme.number = answer.caller
  · rw [if_pos same] at known ⊢
    cases given : answer.settings with
    | none =>
        rw [given] at known
        exact kept known
    | some settings => exact told same settings given
  · rw [if_neg same] at known ⊢
    exact kept known

theorem theme_unknown (theme : ThemeProvider) (answer : Answer) (unknown : (theme.answered answer).known = false) :
    theme.answered answer = theme := by
  unfold ThemeProvider.answered at unknown ⊢
  by_cases same : theme.number = answer.caller
  · rw [if_pos same] at unknown ⊢
    cases given : answer.settings with
    | none => rfl
    | some settings =>
        rw [given] at unknown
        cases unknown
  · rw [if_neg same]

theorem page_answered (page : SettingsPage) (answer : Answer) : (page.answered answer).number = page.number ∧
    (page.answered answer).shown = page.shown ∧ (page.answered answer).settings =
      if page.number = answer.caller then some (answer.settings.getD page.fallback) else page.settings := by
  unfold SettingsPage.answered
  split
  · exact ⟨rfl, rfl, rfl⟩
  · exact ⟨rfl, rfl, rfl⟩

theorem page_told (app : App) (lynx : LynxApp) (page : SettingsPage) (answer : Answer) (sound : Sound app)
    (here : app.lynx = some lynx) (mounted : lynx.page = some page) (member : answer ∈ app.answers)
    (awaited : page.number = answer.caller) :
    page.settings = none ∧ ∀ settings, answer.settings = some settings → settings.savePassword = app.settled savePassword := by
  have unloaded : page.settings = none := by
    have once := sound.once lynx page here mounted
    cases loaded : page.settings with
    | none => rfl
    | some settings =>
        rw [loaded] at once
        exact absurd awaited.symm ((waiting_absent page.number app (Nat.le_zero.mp once)).2 answer member)
  exact ⟨unloaded, (sound.loading lynx page here mounted unloaded).answers answer member awaited.symm⟩

theorem answered_sound (app : App) (k : Nat) (answer : Answer) (sound : Sound app) (there : app.answers[k]? = some answer)
    (fits : Fits app (.answered k)) :
    Sound { app with answers := app.answers.eraseIdx k, lynx := app.lynx.map (LynxApp.answered answer) } := by
  have member : answer ∈ app.answers := List.mem_of_getElem? there
  have counts := fun caller => waiting_answered caller app k answer there
  constructor
  · constructor
    · exact sound.linked
    · intro lynx here
      obtain ⟨before, was, rfl⟩ := Option.map_eq_some_iff.mp here
      refine theme_answered before.theme answer _ (fun same settings given => ?_) (sound.theme before was)
      cases known : before.theme.known with
      | true => exact ((fits answer before there was).1 same known settings given).trans (sound.theme before was known)
      | false => exact (sound.asking before was known).answers answer member same.symm settings given
    · intro lynx page settings here mounted given
      obtain ⟨before, was, rfl⟩ := Option.map_eq_some_iff.mp here
      obtain ⟨earlier, old, rfl⟩ := Option.map_eq_some_iff.mp mounted
      rw [(page_answered earlier answer).2.2] at given
      split at given
      · rename_i awaited
        obtain rfl := Option.some.inj given
        cases told : answer.settings with
        | some settings => exact (page_told app before earlier answer sound was old member awaited).2 settings told
        | none =>
            have off := sound.rejected answer member told
            have stored := (fits answer before there was).2 earlier old awaited told
            show false = app.settled savePassword
            rw [App.settled, if_neg (by rw [off]; decide)]
            exact stored.symm
      · exact sound.page before earlier settings was old given
  · intro lynx here unknown
    obtain ⟨before, was, rfl⟩ := Option.map_eq_some_iff.mp here
    have same := theme_unknown before.theme answer unknown
    have still : before.theme.known = false := by rw [← same]; exact unknown
    show Coming darkMode _ (before.theme.answered answer).number
    rw [same]
    exact coming_lynx darkMode _ _ app.next _ (coming_erase darkMode app k _ (sound.asking before was still))
  · intro lynx page here mounted unloaded
    obtain ⟨before, was, rfl⟩ := Option.map_eq_some_iff.mp here
    obtain ⟨earlier, old, rfl⟩ := Option.map_eq_some_iff.mp mounted
    obtain ⟨number, _, settings⟩ := page_answered earlier answer
    rw [number]
    rw [settings] at unloaded
    split at unloaded
    · cases unloaded
    · exact coming_lynx savePassword _ _ app.next _ (coming_erase savePassword app k _ (sound.loading before earlier was old unloaded))
  · intro lynx page here mounted
    obtain ⟨before, was, rfl⟩ := Option.map_eq_some_iff.mp here
    obtain ⟨earlier, old, rfl⟩ := Option.map_eq_some_iff.mp mounted
    obtain ⟨number, _, settings⟩ := page_answered earlier answer
    have once := sound.once before earlier was old
    have count := counts earlier.number
    rw [number, settings]
    show waiting earlier.number { app with answers := app.answers.eraseIdx k } ≤ _
    by_cases awaited : earlier.number = answer.caller
    · rw [(page_told app before earlier answer sound was old member awaited).1] at once
      rw [if_pos awaited.symm] at count
      rw [if_pos awaited]
      exact Nat.le_of_succ_le_succ (Nat.le_trans (Nat.le_of_eq count.symm) once)
    · rw [if_neg fun same => awaited same.symm] at count
      rw [if_neg awaited]
      exact Nat.le_trans (Nat.le_of_eq count.symm) once
  · intro lynx page here mounted shown
    obtain ⟨before, was, rfl⟩ := Option.map_eq_some_iff.mp here
    obtain ⟨earlier, old, rfl⟩ := Option.map_eq_some_iff.mp mounted
    obtain ⟨_, same, settings⟩ := page_answered earlier answer
    rw [settings]
    split
    · rfl
    · exact sound.rendered before earlier was old (same ▸ shown)
  · intro caller past
    have count := counts caller
    rw [sound.fresh caller past] at count
    exact (Nat.add_eq_zero_iff.mp count.symm).1
  · exact fun other inside => sound.rejected other (List.mem_of_mem_eraseIdx inside)

theorem toggled_sound (app : App) (stores : Stores) (sound : Sound app) (absent : app.lynx = none) (linked : Linked stores) :
    Sound { app with stores } where
  linked := linked
  theme := fun lynx here => by rw [absent] at here; cases here
  page := fun lynx _ _ here => by rw [absent] at here; cases here
  asking := fun lynx here => by rw [absent] at here; cases here
  loading := fun lynx _ here => by rw [absent] at here; cases here
  once := fun lynx _ here => by rw [absent] at here; cases here
  rendered := fun lynx _ here => by rw [absent] at here; cases here
  fresh := sound.fresh
  rejected := sound.rejected

theorem step_sound (app : App) (event : Event) (next : App) (sound : Sound app) (fits : Fits app event)
    (move : step app event = some next) : Sound next := by
  cases event with
  | openLynx =>
      obtain ⟨_, same⟩ := Option.ite_none_left_eq_some.mp move
      exact Option.some.inj same ▸ openLynx_sound app sound
  | closeLynx => exact Option.some.inj move ▸ leave_sound app none sound fun _ there => (nomatch there)
  | openSettings =>
      obtain ⟨lynx, here, rfl⟩ := Option.map_eq_some_iff.mp move
      exact openSettings_sound app lynx sound here
  | leaveSettings =>
      obtain ⟨lynx, here, rfl⟩ := Option.map_eq_some_iff.mp move
      refine leave_sound app _ sound fun left there => ?_
      obtain rfl := Option.some.inj there
      exact ⟨rfl, lynx, here, rfl⟩
  | rendered =>
      obtain ⟨lynx, here, rfl⟩ := Option.map_eq_some_iff.mp move
      exact rendered_sound app lynx sound here
  | setDarkMode checked =>
      obtain ⟨lynx, here, tapped⟩ := Option.bind_eq_some_iff.mp move
      obtain ⟨page, mounted, flips⟩ := Option.bind_eq_some_iff.mp tapped
      obtain ⟨shown, there, rfl⟩ := Option.map_eq_some_iff.mp flips
      exact setDarkMode_sound app lynx page shown checked sound here mounted there fits
  | setSavePassword checked =>
      obtain ⟨lynx, here, tapped⟩ := Option.bind_eq_some_iff.mp move
      obtain ⟨page, mounted, flips⟩ := Option.bind_eq_some_iff.mp tapped
      obtain ⟨shown, there, rfl⟩ := Option.map_eq_some_iff.mp flips
      exact setSavePassword_sound app lynx page shown checked sound here mounted there fits
  | handled =>
      rw [step] at move
      cases queue : app.requests with
      | nil =>
          rw [queue] at move
          cases move
      | cons request rest =>
          rw [queue] at move
          obtain rfl := Option.some.inj move
          refine handle_sound { app with requests := rest } request ?_
          show Sound { app with requests := request :: rest }
          rw [← queue]
          exact sound
  | answered k =>
      obtain ⟨answer, there, rfl⟩ := Option.map_eq_some_iff.mp move
      exact answered_sound app k answer sound there fits
  | toggleDarkMode v =>
      obtain ⟨absent, same⟩ := Option.ite_none_left_eq_some.mp move
      obtain rfl := Option.some.inj same
      exact toggled_sound app _ sound (by simpa using absent) (linked_setDarkMode v app.stores sound.linked)
  | toggleSavePassword v =>
      obtain ⟨absent, same⟩ := Option.ite_none_left_eq_some.mp move
      obtain rfl := Option.some.inj same
      exact toggled_sound app _ sound (by simpa using absent) (linked_setSavePassword v app.stores sound.linked)

theorem setDarkMode_breaks (app : App) (lynx : LynxApp) (page : SettingsPage) (shown : AppSettingsDTO) (checked : Bool)
    (sound : Sound app) (here : app.lynx = some lynx) (mounted : lynx.page = some page) (there : page.shown = some shown)
    (kept : Kept (app.setDarkMode lynx page shown checked)) : Fits app (.setDarkMode checked) := by
  have dark : checked = (app.ask (.setDarkMode checked)).settled darkMode := kept.theme _ rfl rfl
  have save : shown.savePassword = (app.ask (.setDarkMode checked)).settled savePassword :=
    kept.page _ _ { shown with darkMode := checked } rfl rfl rfl
  rw [ask_other savePassword app _ rfl] at save
  refine ⟨?_, fun other third seen settings again there' same given => ?_⟩
  · refine Classical.or_iff_not_imp_left.mpr fun off => ?_
    rw [ask_settled, if_neg off, App.settled, if_neg off] at dark
    exact dark
  · obtain rfl := Option.some.inj (here.symm.trans again)
    obtain rfl := Option.some.inj (mounted.symm.trans there')
    obtain rfl := Option.some.inj (there.symm.trans same)
    exact save.trans (sound.page lynx page settings here mounted given).symm

theorem setSavePassword_breaks (app : App) (lynx : LynxApp) (page : SettingsPage) (shown : AppSettingsDTO) (checked : Bool)
    (kept : Kept (app.setSavePassword lynx page shown checked)) : Fits app (.setSavePassword checked) := by
  have save : checked = (app.ask (.setSavePassword checked)).settled savePassword :=
    kept.page _ _ { shown with savePassword := checked } rfl rfl rfl
  refine Classical.or_iff_not_imp_left.mpr fun off => ?_
  rw [ask_settled, if_neg off, App.settled, if_neg off] at save
  exact save

theorem answered_breaks (app : App) (k : Nat) (answer : Answer) (sound : Sound app) (there : app.answers[k]? = some answer)
    (kept : Kept { app with answers := app.answers.eraseIdx k, lynx := app.lynx.map (LynxApp.answered answer) }) :
    Fits app (.answered k) := by
  intro other lynx same here
  obtain rfl := Option.some.inj (there.symm.trans same)
  have after : app.lynx.map (LynxApp.answered answer) = some (lynx.answered answer) := by rw [here, Option.map_some]
  constructor
  · intro awaited known settings given
    have changed : lynx.theme.answered answer = { lynx.theme with darkMode := settings.darkMode, known := true } := by
      rw [ThemeProvider.answered, if_pos awaited, given]
    have dark := kept.theme (lynx.answered answer) after (by rw [LynxApp.answered, changed])
    rw [LynxApp.answered, changed] at dark
    exact dark.trans (sound.theme lynx here known).symm
  · intro page mounted awaited none
    have off := sound.rejected answer (List.mem_of_getElem? there) none
    have shows : (page.answered answer).settings = some page.fallback := by
      rw [(page_answered page answer).2.2, if_pos awaited, none, Option.getD_none]
    have lies := kept.page (lynx.answered answer) (page.answered answer) page.fallback after
      (by rw [LynxApp.answered, mounted, Option.map_some]) shows
    rw [App.settled, if_neg (by rw [off]; decide)] at lies
    exact lies.symm

theorem step_breaks (app : App) (event : Event) (next : App) (sound : Sound app) (unfit : ¬ Fits app event)
    (move : step app event = some next) : ¬ Kept next := by
  intro kept
  cases event with
  | setDarkMode checked =>
      obtain ⟨lynx, here, tapped⟩ := Option.bind_eq_some_iff.mp move
      obtain ⟨page, mounted, flips⟩ := Option.bind_eq_some_iff.mp tapped
      obtain ⟨shown, there, rfl⟩ := Option.map_eq_some_iff.mp flips
      exact unfit (setDarkMode_breaks app lynx page shown checked sound here mounted there kept)
  | setSavePassword checked =>
      obtain ⟨lynx, here, tapped⟩ := Option.bind_eq_some_iff.mp move
      obtain ⟨page, mounted, flips⟩ := Option.bind_eq_some_iff.mp tapped
      obtain ⟨shown, there, rfl⟩ := Option.map_eq_some_iff.mp flips
      exact unfit (setSavePassword_breaks app lynx page shown checked kept)
  | answered k =>
      obtain ⟨answer, there, rfl⟩ := Option.map_eq_some_iff.mp move
      exact unfit (answered_breaks app k answer sound there kept)
  | _ => exact unfit trivial

-- EntryAbility.onCreate
def launched (clock : Clock) (appStorage : AppStorage) (bridged : Bool) : App :=
  { stores := SettingsStore.ensureInitialized (initialStores clock appStorage), bridged }

theorem launched_sound (clock : Clock) (appStorage : AppStorage) (bridged : Bool) : Sound (launched clock appStorage bridged) where
  linked := linked_initialized _
  theme := fun _ none => (nomatch none)
  page := fun _ _ _ none => (nomatch none)
  asking := fun _ none => (nomatch none)
  loading := fun _ _ none => (nomatch none)
  once := fun _ _ none => (nomatch none)
  rendered := fun _ _ none => (nomatch none)
  fresh := fun _ _ => rfl
  rejected := fun _ none => (nomatch none)

/-- In every run of the two settings pages, with calls and answers under way and the Lynx app and its page opened and
closed at any time: the switches of the ArkTS page show what the store has, and the Lynx app, once it has been told or
its user has set the mode, shows the dark mode and the save-password setting that the store has when the calls under way
have reached it; if and only if no dark-mode switch is flipped before a save-password switch that was flipped is rendered,
no late answer brings back another mode than the user's, and without the bridge nothing is set to another value than the
store has and no page is told of it while passwords are saved. -/
theorem switches_true (clock : Clock) (appStorage : AppStorage) (bridged : Bool) (events : List Event) :
    Always step (launched clock appStorage bridged) events Kept ↔
      Steps step (launched clock appStorage bridged) events fun app event _ => Fits app event :=
  fits_iff step _ events Sound Kept (launched_sound clock appStorage bridged) Fits step_sound (fun _ sound => sound.toKept) step_breaks

-- Both switches are flipped before the page is rendered: it shows that passwords are not saved, and they are.
example :
    let events := [.openLynx, .openSettings, .handled, .handled, .answered 0, .answered 0, .rendered, .setSavePassword true,
      .setDarkMode true, .rendered, .handled, .handled]
    (events.foldlM step (launched noon { available := true } true)).map (fun app =>
      (app.stores.settings.savePasswordEnabled, (app.lynx.bind LynxApp.page).bind fun page => page.shown.map AppSettingsDTO.savePassword)) =
      some (true, some false) := by
  decide +kernel

end Kessh.SettingsSwitches
