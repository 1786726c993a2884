import Mathlib.Data.List.Nodup
import Kessh.Pages.QuickConnect
import Kessh.Pages.Terminal
import Kessh.Store.RecordDrafts
import Kessh.Store.Settings

set_option autoImplicit false

-- The way from a list of hosts, a quick command or a form to an open session, through the one current draft.
namespace Kessh.ConnectFlow

open Ecma (JsString js trim decimal)
open Labelled
open ConnectionStore (Invariant Valid ids)

structure Endpoint where
  host : JsString
  port : Nat
  username : JsString
deriving DecidableEq

structure Opening where
  endpoint : Endpoint
  password : JsString
deriving DecidableEq

def endpointOf (record : ConnectionRecord) : Endpoint := ⟨record.host, record.port, record.username⟩

structure Form where
  host : JsString := []
  port : PortField := .text (js "22")
  username : JsString := []
  password : JsString := []
  editingId : JsNumber := .int (-1)
  isEditing : Bool := false

-- A list shows the records as they were when its page appeared. The history is a tab of the index page, with the
-- quick command and the settings.
inductive Page where
  | index (recentHistory : List ConnectionRecord)
  | hostList (hosts : List ConnectionRecord)
  | sftpPage (hosts : List ConnectionRecord)
  | addHost (form : Form)
  | terminal

inductive Route where
  | hostList
  | sftpPage
  | addHost
  | terminal
deriving DecidableEq

-- The pages, the top one first, and the pushes whose pages have not appeared yet. Ghost: what the form was saved
-- with, and what the engine was asked to open.
structure App where
  stores : Stores
  currentDraft : Option ConnectionDraft := none
  pages : List Page := []
  coming : List Route := []
  typed : List Opening := []
  opened : List Opening := []

inductive Event where
  | index
  | pushUrl (route : Route)
  | appear
  | connect (item : ConnectionRecord)
  | addHost
  | parseAndConnect (quickCmd : JsString)
  | edit (host : JsString) (port : PortField) (username password : JsString)
  | saveAndConnect
  | setSavePassword (v : Bool)
  | back

-- aboutToAppear of the form.
def formFrom (currentDraft : Option ConnectionDraft) : Form :=
  match currentDraft with
  | none => {}
  | some draft =>
      { host := draft.host
        port := draft.port.orDefault
        username := draft.username
        password := draft.password.getD []
        isEditing := draft.isEditing == some true
        editingId := draft.editingId.getD (.int (-1)) }

def nonNegative : JsNumber → Bool
  | .int n => 0 ≤ n
  | .other text => text != js "NaN" && text.head? != some 0x2D

def Form.draft (form : Form) : ConnectionDraft :=
  { host := form.host
    port := form.port
    username := form.username
    password := some form.password
    isEditing := some form.isEditing
    editingId := if nonNegative form.editingId then some form.editingId else none }

-- What a terminal that appears asks the engine to open.
def openedBy (draft : ConnectionDraft) : Option Opening :=
  match Terminal.prepared draft with
  | .ok (_, true) =>
      match ConnectionStore.parsePort draft.port.orDefault with
      | .ok (some port) => some ⟨⟨draft.host, port, draft.username⟩, draft.password.getD []⟩
      | _ => none
  | _ => none

def appear (app : App) : Route → App
  | .hostList => { app with pages := .hostList (ConnectionStore.list app.stores) :: app.pages }
  | .sftpPage => { app with pages := .sftpPage (ConnectionStore.list app.stores) :: app.pages }
  | .addHost => { app with pages := .addHost (formFrom app.currentDraft) :: app.pages }
  | .terminal =>
      { app with
        pages := .terminal :: app.pages
        opened := (app.currentDraft.bind openedBy).toList ++ app.opened }

-- connect of the host list and of the history: the terminal takes the draft when it appears.
def connect (item : ConnectionRecord) (app : App) : App :=
  if item.authType = .key then app
  else
    let password := ConnectionStore.getPassword (some item) app.stores
    if !truthy password then
      { app with
        currentDraft := some (ConnectionStore.draftForPasswordInput item)
        coming := app.coming ++ [.addHost] }
    else
      { app with
        currentDraft := some (ConnectionStore.draftFromRecord item password)
        coming := app.coming ++ [.terminal] }

-- connect of the SFTP page opens at once.
def connectSftp (item : ConnectionRecord) (app : App) : App :=
  if item.authType = .key then app
  else
    match ConnectionStore.getPassword (some item) app.stores with
    | some password =>
        if password.isEmpty then
          { app with
            currentDraft := some (ConnectionStore.draftForPasswordInput item)
            coming := app.coming ++ [.addHost] }
        else { app with opened := ⟨endpointOf item, password⟩ :: app.opened }
    | none =>
        { app with
          currentDraft := some (ConnectionStore.draftForPasswordInput item)
          coming := app.coming ++ [.addHost] }

def parseAndConnect (quickCmd : JsString) (app : App) : App :=
  match SSHNewPage.parseAndConnect quickCmd { currentDraft := app.currentDraft } with
  | .error _ => app
  | .ok next =>
      { app with
        currentDraft := next.currentDraft
        coming := app.coming ++ next.routes.map fun _ => .addHost }

def saveAndConnect (form : Form) (app : App) : App :=
  match ConnectionStore.validateDraft form.draft with
  | .error _ | .ok (some _) => app
  | .ok none =>
      if form.password.isEmpty then app
      else
        match ConnectionStore.normalizeDraft form.draft, ConnectionStore.parsePort form.draft.port.orDefault with
        | .ok normalized, .ok (some port) =>
            match ConnectionStore.addFromDraft normalized .password app.stores with
            | (.error _, stores) => { app with stores }
            | (.ok record, stores) =>
                { app with
                  stores := if stores.settings.savePasswordEnabled then ConnectionStore.savePassword record form.password stores
                    else stores
                  currentDraft := some normalized
                  coming := app.coming ++ [.terminal]
                  typed := ⟨⟨normalized.host, port, normalized.username⟩, form.password⟩ :: app.typed }
        | _, _ => app

-- The user acts on the page on top; the index page replaces it when the user goes home.
def step (app : App) (event : Event) : Option App :=
  match app.pages, event with
  | pages, .index =>
      some { app with pages := .index ((ConnectionStore.list app.stores).take 3) :: pages.drop 1 }
  | .index _ :: _, .pushUrl route =>
      if route = .hostList ∨ route = .sftpPage then some { app with coming := app.coming ++ [route] } else none
  | _, .appear =>
      match app.coming with
      | [] => none
      | route :: rest => some (appear { app with coming := rest } route)
  | .index recentHistory :: _, .connect item => if item ∈ recentHistory then some (connect item app) else none
  | .hostList hosts :: _, .connect item => if item ∈ hosts then some (connect item app) else none
  | .sftpPage hosts :: _, .connect item => if item ∈ hosts then some (connectSftp item app) else none
  | .index _ :: _, .addHost | .hostList _ :: _, .addHost =>
      some { app with currentDraft := none, coming := app.coming ++ [.addHost] }
  | .index _ :: _, .parseAndConnect quickCmd => some (parseAndConnect quickCmd app)
  | .index _ :: _, .setSavePassword v => some { app with stores := SettingsStore.setSavePassword v app.stores }
  | .addHost form :: pages, .edit host port username password =>
      some { app with pages := .addHost { form with host, port, username, password } :: pages }
  | .addHost form :: _, .saveAndConnect => some (saveAndConnect form app)
  | _ :: pages, .back => some { app with pages }
  | _, _ => none

-- Whatever is sent was typed for the host that it is sent to.
def Kept (app : App) : Prop := ∀ opening ∈ app.opened, opening ∈ app.typed

-- An edit of a record with a stored password stores the new one, or leaves the record at its place.
def KeepsPlace (form : Form) (app : App) : Prop :=
  ∀ existing port, ConnectionStore.existingRecord form.draft app.stores.connections.history = some existing →
    Valid form.draft port → app.stores.connections.passwords existing.id ≠ none →
      app.stores.settings.savePasswordEnabled = true ∨ endpointOf existing = ⟨trim form.host, port, trim form.username⟩

-- A row with a stored password still says what its record says.
def Fits (app : App) : Event → Prop
  | .connect item => ∀ record ∈ app.stores.connections.history, record.id = item.id →
      app.stores.connections.passwords item.id ≠ none → endpointOf record = endpointOf item
  | .saveAndConnect => ∀ form rest, app.pages = .addHost form :: rest → KeepsPlace form app
  | _ => True

def DraftTyped (typed : List Opening) (draft : ConnectionDraft) : Prop :=
  ∀ port password, draft.password = some password → password ≠ [] →
    ConnectionStore.parsePort draft.port.orDefault = .ok (some port) → ⟨⟨draft.host, port, draft.username⟩, password⟩ ∈ typed

def Bound (typed : List Opening) (store : ConnectionStore) : Prop :=
  ∀ record ∈ store.history, ∀ password, store.passwords record.id = some password → ⟨endpointOf record, password⟩ ∈ typed

structure Sound (app : App) : Prop where
  invariant : Invariant app.stores.connections
  bound : Bound app.typed app.stores.connections
  draft : ∀ draft, app.currentDraft = some draft → DraftTyped app.typed draft
  kept : Kept app

theorem parsePortText_printed (port parsed : Nat) (same : ConnectionStore.parsePortText (decimal port) = some parsed) :
    parsed = port := by
  simp only [ConnectionStore.parsePortText, Ecma.trim_decimal, Ecma.decimal_isDecimal, Bool.not_true, Bool.false_eq_true, if_false,
    Ecma.parseInt_decimal_text _ (Ecma.decimal_isDecimal port), Ecma.digits_decimal, Int.toNat_natCast] at same
  exact (Option.some.inj (Option.ite_none_left_eq_some.mp same).2).symm

theorem printed_port (port parsed : Nat)
    (same : ConnectionStore.parsePort (PortField.text (decimal port)).orDefault = .ok (some parsed)) : parsed = port := by
  rw [ConnectionStore.decimal_orDefault] at same
  exact parsePortText_printed port parsed (Except.ok.inj same)

theorem silent_typed (typed : List Opening) (draft : ConnectionDraft) (silent : draft.password.getD [] = []) :
    DraftTyped typed draft := by
  intro port password present some
  rw [present] at silent
  exact absurd silent some

theorem draftForPasswordInput_silent (item : ConnectionRecord) :
    (ConnectionStore.draftForPasswordInput item).password.getD [] = [] := by
  unfold ConnectionStore.draftForPasswordInput ConnectionStore.draftFromRecord
  dsimp only
  split <;> rfl

theorem quick_silent (cmd : JsString) (draft : ConnectionDraft) (parsed : SSHNewPage.parseQuickCommand cmd = some draft) :
    draft.password = some [] := by
  rcases SSHNewPage.matched_or cmd with ⟨expression, member, groups, found⟩ | unmatched
  · obtain ⟨user, host, port, _, quick⟩ := SSHNewPage.command_quick cmd expression member groups found
    rw [parsed] at quick
    cases quick
    rfl
  · rw [SSHNewPage.unmatched_fallback cmd unmatched] at parsed
    obtain ⟨user, host, _, _, _, _, _, rfl⟩ := (SSHNewPage.parseUserHost_iff cmd draft).mp parsed
    rfl

theorem row_typed (app : App) (item : ConnectionRecord) (password : JsString) (sound : Sound app) (fits : Fits app (.connect item))
    (stored : app.stores.connections.passwords item.id = some password) : ⟨endpointOf item, password⟩ ∈ app.typed := by
  obtain ⟨_, known⟩ := sound.invariant.stored item.id password stored
  obtain ⟨record, member, same⟩ := List.mem_map.mp known
  have place := fits record member same (by rw [stored]; nofun)
  have typed := sound.bound record member password (same ▸ stored)
  rwa [place] at typed

theorem typed_row (typed : List Opening) (item : ConnectionRecord) (password : JsString)
    (here : ⟨endpointOf item, password⟩ ∈ typed) : DraftTyped typed (ConnectionStore.draftFromRecord item (some password)) := by
  intro port other present _ parsed
  obtain rfl := printed_port item.port port parsed
  have same : other = password := by
    simp only [ConnectionStore.draftFromRecord, Option.getD_some] at present
    exact ((Option.ite_none_right_eq_some.mp present).2 |> Option.some.inj).symm
  rw [same]
  exact here

theorem connect_sound (item : ConnectionRecord) (app : App) (sound : Sound app) (fits : Fits app (.connect item)) :
    Sound (connect item app) := by
  have asks : ∀ draft coming, DraftTyped app.typed draft → Sound { app with currentDraft := some draft, coming } :=
    fun draft coming typed => ⟨sound.invariant, sound.bound, fun other same => Option.some.inj same ▸ typed, sound.kept⟩
  unfold connect
  split
  · exact sound
  dsimp only
  cases stored : ConnectionStore.getPassword (some item) app.stores with
  | none => exact asks _ _ (silent_typed _ _ (draftForPasswordInput_silent item))
  | some password =>
      split
      · exact asks _ _ (silent_typed _ _ (draftForPasswordInput_silent item))
      · exact asks _ _ (typed_row app.typed item password (row_typed app item password sound fits stored))

theorem connectSftp_sound (item : ConnectionRecord) (app : App) (sound : Sound app) (fits : Fits app (.connect item)) :
    Sound (connectSftp item app) := by
  have asks : Sound { app with
      currentDraft := some (ConnectionStore.draftForPasswordInput item), coming := app.coming ++ [.addHost] } :=
    ⟨sound.invariant, sound.bound, fun other same => Option.some.inj same ▸ silent_typed _ _ (draftForPasswordInput_silent item),
      sound.kept⟩
  unfold connectSftp
  split
  · exact sound
  cases stored : ConnectionStore.getPassword (some item) app.stores with
  | none => exact asks
  | some password =>
      dsimp only
      split
      · exact asks
      · refine ⟨sound.invariant, sound.bound, sound.draft, fun opening member => ?_⟩
        rcases List.mem_cons.mp member with rfl | earlier
        · exact row_typed app item password sound fits stored
        · exact sound.kept opening earlier

theorem parseAndConnect_sound (quickCmd : JsString) (app : App) (sound : Sound app) : Sound (parseAndConnect quickCmd app) := by
  obtain ⟨next, done, outcome⟩ := SSHNewPage.connect_opens quickCmd { currentDraft := app.currentDraft }
  unfold parseAndConnect
  rw [done]
  refine ⟨sound.invariant, sound.bound, fun draft same => ?_, sound.kept⟩
  rcases outcome with ⟨_, kept⟩ | ⟨parsed, port, quick, _, rfl⟩
  · exact sound.draft draft (kept.symm.trans same)
  · obtain rfl := Option.some.inj same
    refine silent_typed _ _ ?_
    show parsed.password.getD [] = []
    rw [quick_silent _ parsed quick]
    rfl

theorem one_record (store : ConnectionStore) (invariant : Invariant store) (left right : ConnectionRecord)
    (first : left ∈ store.history) (second : right ∈ store.history) (same : left.id = right.id) : left = right :=
  List.inj_on_of_nodup_map (ConnectionStore.ids_nodup store invariant) first second same

theorem written_bound (typed : List Opening) (before after : ConnectionStore) (record : ConnectionRecord) (bound : Bound typed before)
    (invariant : Invariant after) (written : record ∈ after.history)
    (others : ∀ other ∈ after.history, other = record ∨ other ∈ before.history)
    (passwords : ∀ id password, id ≠ record.id → after.passwords id = some password → before.passwords id = some password)
    (here : ∀ password, after.passwords record.id = some password → ⟨endpointOf record, password⟩ ∈ typed) : Bound typed after := by
  intro other member password stored
  by_cases same : other.id = record.id
  · obtain rfl := one_record after invariant other record member written same
    exact here password stored
  · rcases others other member with rfl | earlier
    · exact absurd rfl same
    · exact bound other earlier password (passwords other.id password same stored)

theorem bound_more (typed : List Opening) (opening : Opening) (store : ConnectionStore) (bound : Bound typed store) :
    Bound (opening :: typed) store := fun record member password stored =>
  List.mem_cons_of_mem _ (bound record member password stored)

theorem normal_valid (draft : ConnectionDraft) (port : Nat) (valid : Valid draft port) :
    Valid { draft with host := trim draft.host, port := .text (decimal port), username := trim draft.username } port where
  host_present := by
    rw [Ecma.trim_trim]
    exact valid.host_present
  host_ordinary := by
    rw [Ecma.trim_trim]
    exact valid.host_ordinary
  username_present := by
    rw [Ecma.trim_trim]
    exact valid.username_present
  port_parsed := by
    obtain ⟨lower, upper⟩ := ConnectionStore.valid_bounds draft port valid
    rw [ConnectionStore.decimal_orDefault, ConnectionStore.parsePort, ConnectionStore.parsePortText_decimal port lower upper]

theorem valid_port (draft : ConnectionDraft) (port other : Nat) (one : Valid draft port) (two : Valid draft other) : port = other :=
  Option.some.inj (Except.ok.inj (one.port_parsed.symm.trans two.port_parsed))

theorem added_bound (form : Form) (port : Nat) (normalized : ConnectionDraft) (app : App) (record : ConnectionRecord)
    (after : Stores) (sound : Sound app) (keeps : KeepsPlace form app) (valid : Valid form.draft port)
    (normal : normalized = { form.draft with host := trim form.host, port := .text (decimal port), username := trim form.username })
    (added : ConnectionStore.addFromDraft normalized .password app.stores = (.ok record, after)) :
    endpointOf record = ⟨trim form.host, port, trim form.username⟩ ∧ Invariant after.connections ∧ record ∈ after.connections.history ∧
      (∀ other ∈ after.connections.history, other = record ∨ other ∈ app.stores.connections.history) ∧
      after.connections.passwords = app.stores.connections.passwords ∧
      (after.settings.savePasswordEnabled = false → ∀ password, after.connections.passwords record.id = some password →
        ⟨endpointOf record, password⟩ ∈ app.typed) := by
  have again : Valid normalized port := normal ▸ normal_valid form.draft port valid
  have invariant := ConnectionStore.addFromDraft_invariant normalized .password app.stores sound.invariant
  have settings := ConnectionStore.addFromDraft_settings normalized .password app.stores
  have written := (ConnectionStore.addFromDraft_known normalized .password app.stores).2
  rw [added] at invariant settings written
  have place : ∀ id time other, Valid normalized other →
      endpointOf (ConnectionStore.recordFor normalized other .password id time) = ⟨trim form.host, port, trim form.username⟩ := by
    intro id time other parsed
    obtain rfl := valid_port normalized port other again parsed
    rw [normal]
    simp only [endpointOf, ConnectionStore.recordFor, Ecma.trim_trim]
  rcases ConnectionStore.addFromDraft_cases normalized .password app.stores with
    ⟨_, _, same⟩ | ⟨other, time, parsed, ⟨existing, found, result, history⟩ | ⟨_, result, history⟩⟩
  · rw [added] at same
    cases congrArg Prod.fst same
  · rw [added] at result history
    obtain rfl := Except.ok.inj result
    dsimp only at history settings
    refine ⟨place existing.id time other parsed, invariant, written _ rfl, ?_, by rw [history], ?_⟩
    · rw [history]
      exact fun item member => ConnectionStore.mem_writeInternal _ item _ member
    · intro off password stored
      rw [history] at stored
      have held : app.stores.connections.passwords existing.id = some password := stored
      have asked : ConnectionStore.existingRecord form.draft app.stores.connections.history = some existing := by
        rw [normal] at found
        exact found
      have stays := (keeps existing port asked valid (by rw [held]; exact Option.some_ne_none _)).resolve_left
        fun on => absurd ((settings ▸ off).symm.trans on) (by decide)
      obtain ⟨_, _, front, back, split, _⟩ := ConnectionStore.existingRecord_some _ _ existing asked
      have typed := sound.bound existing (by simp [split]) password held
      rwa [place existing.id time other parsed, ← stays]
  · rw [added] at result history
    obtain rfl := Except.ok.inj result
    dsimp only at history settings
    refine ⟨place app.stores.connections.seq time other parsed, invariant, written _ rfl, ?_, by rw [history], ?_⟩
    · rw [history]
      exact fun item member => List.mem_cons.mp member
    · intro _ password stored
      rw [history] at stored
      have held : app.stores.connections.passwords app.stores.connections.seq = some password := stored
      have positive := sound.invariant.seq_positive
      have bounds := sound.invariant.issued _ (sound.invariant.stored _ password held).2
      omega

theorem saved_bound (record : ConnectionRecord) (password : JsString) (app : App) (after : Stores) (sound : Sound app)
    (some : password ≠ []) (invariant : Invariant after.connections) (written : record ∈ after.connections.history)
    (others : ∀ other ∈ after.connections.history, other = record ∨ other ∈ app.stores.connections.history)
    (passwords : after.connections.passwords = app.stores.connections.passwords)
    (silent : after.settings.savePasswordEnabled = false → ∀ password, after.connections.passwords record.id = Option.some password →
      ⟨endpointOf record, password⟩ ∈ app.typed) :
    let stores := if after.settings.savePasswordEnabled then ConnectionStore.savePassword record password after else after
    Invariant stores.connections ∧ Bound (⟨endpointOf record, password⟩ :: app.typed) stores.connections := by
  have before := bound_more app.typed ⟨endpointOf record, password⟩ _ sound.bound
  dsimp only
  split
  · have saved := ConnectionStore.savePassword_invariant record password after (ConnectionStore.mem_ids record _ written) invariant
    rw [ConnectionStore.savePassword_saves record password after some] at saved ⊢
    refine ⟨saved, written_bound _ app.stores.connections _ record before saved written others ?_ ?_⟩
    · intro id stored other here
      dsimp only at here
      rwa [if_neg other, passwords] at here
    · intro stored here
      dsimp only at here
      rw [if_pos rfl] at here
      rw [Option.some.inj here]
      exact List.mem_cons_self
  · rename_i off
    refine ⟨invariant, written_bound _ app.stores.connections _ record before invariant written others ?_ ?_⟩
    · intro id stored _ here
      rwa [passwords] at here
    · exact fun stored here => List.mem_cons_of_mem _ (silent (by simpa using off) stored here)

theorem saveAndConnect_sound (form : Form) (app : App) (sound : Sound app) (keeps : KeepsPlace form app) :
    Sound (saveAndConnect form app) := by
  unfold saveAndConnect
  cases validation : ConnectionStore.validateDraft form.draft with
  | error problem => exact sound
  | ok message =>
      cases message with
      | some message => exact sound
      | none =>
          obtain ⟨port, valid⟩ := (ConnectionStore.validateDraft_none form.draft).mp validation
          rw [ConnectionStore.normalizeDraft_port form.draft port valid.port_parsed, valid.port_parsed]
          dsimp only
          split
          · exact sound
          rename_i present
          generalize normal : ({ form.draft with
            host := trim form.draft.host, port := .text (decimal port), username := trim form.draft.username } : ConnectionDraft) =
              normalized
          cases added : ConnectionStore.addFromDraft normalized .password app.stores with
          | mk result after =>
              cases result with
              | error problem =>
                  have thrown := (ConnectionStore.addFromDraft_error normalized .password app.stores problem).mp (by rw [added])
                  have same := ConnectionStore.addFromDraft_throws normalized .password app.stores problem thrown
                  rw [added] at same
                  cases same
                  exact sound
              | ok record =>
                  obtain ⟨place, invariant, written, others, passwords, silent⟩ :=
                    added_bound form port normalized app record after sound keeps valid normal.symm added
                  have ends : (⟨trim form.draft.host, port, trim form.draft.username⟩ : Endpoint) = endpointOf record := place.symm
                  obtain ⟨saved, bound⟩ := saved_bound record form.password app after sound (by simpa using present) invariant
                    written others passwords silent
                  dsimp only
                  rw [ends]
                  refine ⟨saved, bound, fun draft same => ?_, fun opening member => List.mem_cons_of_mem _ (sound.kept opening member)⟩
                  obtain rfl := Option.some.inj same
                  intro other password here _ parsed
                  rw [← normal] at here parsed ⊢
                  obtain rfl := printed_port port other parsed
                  obtain rfl := Option.some.inj here
                  show (⟨⟨trim form.draft.host, other, trim form.draft.username⟩, form.password⟩ : Opening) ∈ _
                  rw [ends]
                  exact List.mem_cons_self

theorem prepared_password (draft : ConnectionDraft) (lines : List JsString)
    (prepared : Terminal.prepared draft = .ok (lines, true)) : truthy draft.password = true := by
  unfold Terminal.prepared at prepared
  cases validation : ConnectionStore.validateDraft draft with
  | error problem =>
      rw [validation] at prepared
      cases prepared
  | ok message =>
      rw [validation] at prepared
      cases message with
      | some message => cases prepared
      | none =>
          obtain ⟨port, valid⟩ := (ConnectionStore.validateDraft_none draft).mp validation
          simp only [valid.port_parsed, bind, Except.bind, pure, Except.pure] at prepared
          split at prepared
          · cases prepared
          split at prepared
          · cases prepared
          · rename_i silent
            simpa using silent

theorem openedBy_typed (typed : List Opening) (draft : ConnectionDraft) (opening : Opening) (known : DraftTyped typed draft)
    (opens : openedBy draft = some opening) : opening ∈ typed := by
  unfold openedBy at opens
  split at opens
  · rename_i lines prepared
    split at opens
    · rename_i port parsed
      obtain rfl := Option.some.inj opens
      have password := prepared_password draft lines prepared
      cases present : draft.password with
      | none =>
          rw [present] at password
          cases password
      | some text =>
          rw [present] at password
          exact known port _ present (by simpa [truthy] using password) parsed
    · cases opens
  · cases opens

theorem appear_sound (app : App) (route : Route) (sound : Sound app) : Sound (appear app route) := by
  cases route with
  | hostList | sftpPage | addHost => exact ⟨sound.invariant, sound.bound, sound.draft, sound.kept⟩
  | terminal =>
      refine ⟨sound.invariant, sound.bound, sound.draft, fun opening member => ?_⟩
      rcases List.mem_append.mp member with new | earlier
      · obtain ⟨draft, here, opens⟩ := Option.bind_eq_some_iff.mp (Option.mem_toList.mp new)
        exact openedBy_typed app.typed draft opening (sound.draft draft here) opens
      · exact sound.kept opening earlier

theorem step_sound (app : App) (event : Event) (next : App) (sound : Sound app) (fits : Fits app event)
    (move : step app event = some next) : Sound next := by
  have moved : ∀ pages coming, Sound { app with pages, coming } := fun pages coming =>
    ⟨sound.invariant, sound.bound, sound.draft, sound.kept⟩
  unfold step at move
  split at move
  · obtain rfl := Option.some.inj move
    exact moved _ _
  · obtain ⟨_, same⟩ := Option.ite_none_right_eq_some.mp move
    obtain rfl := Option.some.inj same
    exact moved _ _
  · split at move
    · cases move
    · rename_i route rest _
      obtain rfl := Option.some.inj move
      exact appear_sound { app with coming := rest } route (moved app.pages rest)
  · rename_i item _
    obtain ⟨_, same⟩ := Option.ite_none_right_eq_some.mp move
    obtain rfl := Option.some.inj same
    exact connect_sound item app sound fits
  · rename_i item _
    obtain ⟨_, same⟩ := Option.ite_none_right_eq_some.mp move
    obtain rfl := Option.some.inj same
    exact connect_sound item app sound fits
  · rename_i item _
    obtain ⟨_, same⟩ := Option.ite_none_right_eq_some.mp move
    obtain rfl := Option.some.inj same
    exact connectSftp_sound item app sound fits
  · obtain rfl := Option.some.inj move
    exact ⟨sound.invariant, sound.bound, fun _ none => (nomatch none), sound.kept⟩
  · obtain rfl := Option.some.inj move
    exact ⟨sound.invariant, sound.bound, fun _ none => (nomatch none), sound.kept⟩
  · obtain rfl := Option.some.inj move
    exact parseAndConnect_sound _ app sound
  · obtain rfl := Option.some.inj move
    refine ⟨?_, ?_, sound.draft, sound.kept⟩
    · rw [SettingsStore.setSavePassword_connections]
      exact sound.invariant
    · rw [SettingsStore.setSavePassword_connections]
      exact sound.bound
  · obtain rfl := Option.some.inj move
    exact moved _ _
  · rename_i form pages here
    obtain rfl := Option.some.inj move
    exact saveAndConnect_sound form app sound (fits form pages here)
  · obtain rfl := Option.some.inj move
    exact moved _ _
  · cases move

/-- In every run of the pages, with pushes that are slow to appear, in which each tapped row with a stored password still
says what its record says, and no edit leaves a stored password with a record that it moves: every password that is sent
was typed by the user for the very host, port and user name that it is sent to. -/
theorem passwords_typed (clock : Clock) (appStorage : AppStorage) (events : List Event)
    (fitting : Steps step { stores := initialStores clock appStorage } events fun app event _ => Fits app event) :
    Always step { stores := initialStores clock appStorage } events Kept := by
  have initial : Sound { stores := initialStores clock appStorage } :=
    ⟨ConnectionStore.initial_invariant, fun _ member => (nomatch member), fun _ none => (nomatch none), fun _ member => (nomatch member)⟩
  have always := steps_always step _ events Sound initial Fits step_sound fitting
  exact fun prior later app split run => (always prior later app split run).kept

def atHost : ConnectionRecord :=
  { id := 1, name := js "u@h:22", host := js "h", port := 22, username := js "u", authType := .password, time := js "Today 12:00" }

-- A host is added with its password, and opened again from the list.
def addedAndTapped : List Event :=
  [.index, .setSavePassword true, .addHost, .appear, .edit (js "h") (.text (js "22")) (js "u") (js "p"), .saveAndConnect,
    .appear, .back, .back, .pushUrl .hostList, .appear, .connect atHost, .appear]

def fitting (app : App) : Event → Bool
  | .connect item => app.stores.connections.history.all fun record => record.id != item.id || endpointOf record == endpointOf item
  | .saveAndConnect =>
      match app.pages with
      | .addHost form :: _ => (ConnectionStore.existingRecord form.draft app.stores.connections.history).isNone
      | _ => true
  | _ => true

theorem fitting_fits (app : App) (event : Event) (passes : fitting app event = true) : Fits app event := by
  cases event with
  | connect item =>
      intro record member same _
      have either := List.all_eq_true.mp passes record member
      simpa [same] using either
  | saveAndConnect =>
      intro form rest here existing port found
      rw [fitting, here] at passes
      dsimp only at passes
      rw [found] at passes
      cases passes
  | _ => trivial

theorem passwords_typed_added : ∃ app, Run (Moves step) { stores := initialStores noon { available := true } } addedAndTapped app ∧
    app.opened = [⟨⟨js "h", 22, js "u"⟩, js "p"⟩, ⟨⟨js "h", 22, js "u"⟩, js "p"⟩] ∧ Kept app := by
  have opens : (addedAndTapped.foldlM step { stores := initialStores noon { available := true } }).map App.opened =
      some [⟨⟨js "h", 22, js "u"⟩, js "p"⟩, ⟨⟨js "h", 22, js "u"⟩, js "p"⟩] := by decide +kernel
  have passes : checked step fitting { stores := initialStores noon { available := true } } addedAndTapped = true := by
    decide +kernel
  obtain ⟨app, reached, same⟩ := Option.map_eq_some_iff.mp opens
  have moves := moves_run step _ app addedAndTapped reached
  have fits := checked_steps step fitting (fun app event _ => Fits app event) (fun before label _ => fitting_fits before label)
    _ addedAndTapped passes
  exact ⟨app, moves, same, passwords_typed noon { available := true } addedAndTapped fits addedAndTapped [] app
    (List.append_nil _).symm moves⟩

-- A row that no longer says what its record says: the password typed for the new host goes to the old one.
example :
    let events := [.index, .addHost, .appear, .edit (js "h") (.text (js "22")) (js "u") (js "p"), .saveAndConnect, .appear,
      .back, .back, .setSavePassword true, .pushUrl .hostList, .appear, .connect atHost, .appear,
      .edit (js "other") (.text (js "22")) (js "u") (js "q"), .saveAndConnect, .appear, .back, .back, .connect atHost, .appear]
    (events.foldlM step { stores := initialStores noon { available := true } }).map App.opened =
      some [⟨⟨js "h", 22, js "u"⟩, js "q"⟩, ⟨⟨js "other", 22, js "u"⟩, js "q"⟩, ⟨⟨js "h", 22, js "u"⟩, js "p"⟩] := by
  decide +kernel

end Kessh.ConnectFlow
