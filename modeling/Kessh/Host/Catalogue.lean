import Kessh.Host.HostInvariant
import Kessh.Lib.Registry

set_option autoImplicit false

namespace Kessh

open Ecma Labelled

-- What the stores are for: registries of connections, snippets and keys, the passwords, the settings
-- and a log. AppStorage has no part in it.
structure Catalogue where
  clock : Clock
  logs : List JsString
  settings : SettingsStore
  connections : Registry ConnectionRecord
  passwords : Nat → Option JsString
  snippets : Registry Snippet
  keys : Registry ImportedKey

namespace Catalogue

def standardSnippets : Registry Snippet :=
  ((Registry.empty 0).add (fun id => { id, title := js "List files", command := js "ls -la" })
    |>.add fun id => { id, title := js "Check disk", command := js "df -h" })
    |>.add fun id => { id, title := js "Check memory", command := js "free -m" }

def initial (clock : Clock) : Catalogue where
  clock
  logs := []
  settings := {}
  connections := .empty 1
  passwords := fun _ => none
  snippets := standardSnippets
  keys := .empty 1

-- The entry under a number of the language: only a natural one has any.
def under {α : Type} (id : JsNumber) (r : Registry α) : Option α :=
  match id with
  | .int n => if 0 ≤ n then r.entry n.toNat else none
  | .other _ => none

def removeUnder {α : Type} (id : JsNumber) (r : Registry α) : Registry α :=
  match id with
  | .int n => if 0 ≤ n then r.remove n.toNat else r
  | .other _ => r

def timed (clock : Clock) (message : JsString) : JsString :=
  js "[" ++ (padStart2 (decimal clock.now.hours) ++ js ":" ++ padStart2 (decimal clock.now.minutes) ++ js ":" ++
    padStart2 (decimal clock.now.seconds)) ++ js "] " ++ message

def log (message : JsString) (c : Catalogue) : Catalogue :=
  { c with clock := c.clock.advance, logs := timed c.clock message :: c.logs }

def today (clock : Clock) : JsString :=
  js "Today " ++ padStart2 (decimal clock.now.hours) ++ js ":" ++ padStart2 (decimal clock.now.minutes)

def edited (draft : ConnectionDraft) (c : Catalogue) : Option ConnectionRecord :=
  if draft.isEditing = some true then draft.editingId.bind fun id => under id c.connections else none

def file (draft : ConnectionDraft) (authType : AuthType) (c : Catalogue) : Except JsError ConnectionRecord × Catalogue :=
  match ConnectionStore.checkedDraft draft with
  | .error problem => (.error problem, c)
  | .ok (_, port) =>
      let record (id : Nat) := ConnectionStore.recordFor draft port authType id (today c.clock)
      let timed := { c with clock := c.clock.advance }
      match edited draft c with
      | some old =>
          (.ok (record old.id), log (js "History: update " ++ (record old.id).name)
            { timed with connections := c.connections.write old.id (record old.id) })
      | none =>
          (.ok (record c.connections.next), log (js "History: add " ++ (record c.connections.next).name)
            { timed with connections := c.connections.add record })

def keep (id : Nat) (password : JsString) (c : Catalogue) : Catalogue :=
  if password.isEmpty then c else { c with passwords := fun other => if other = id then some password else c.passwords other }

def addConnection (draft : ConnectionDraft) (c : Catalogue) : Catalogue × HostReply :=
  match file draft (if truthy draft.privateKey then .key else .password) c with
  | (.error problem, c) => (c, .thrown problem)
  | (.ok record, c) =>
      if c.settings.savePasswordEnabled then (keep record.id (draft.password.getD []) c, .record record)
      else (c, .record record)

def setting (change : SettingsStore → SettingsStore) (message : JsString) (c : Catalogue) : Catalogue :=
  log message { c with settings := change c.settings }

def sessionSettings (patch : SessionSettingsPatch) : List (Catalogue → Catalogue) :=
  (patch.keepaliveInterval.map fun v => setting (fun t => { t with keepaliveInterval := v })
      (js "Keepalive interval set to " ++ v.toJsString ++ js "s")).toList ++
    (patch.keepaliveAttempts.map fun v => setting (fun t => { t with keepaliveAttempts := v })
      (js "Keepalive attempts set to " ++ v.toJsString)).toList ++
    (patch.terminalFontFamily.map fun v => setting (fun t => { t with terminalFontFamilyValue := v })
      (js "Terminal font family=" ++ v)).toList ++
    (patch.terminalFontSize.map fun v => setting (fun t => { t with terminalFontSizeValue := v })
      (js "Terminal font size=" ++ v.toJsString)).toList

def shownSettings (t : SettingsStore) : AppSettingsDTO where
  darkMode := t.darkModeEnabled
  savePassword := t.savePasswordEnabled
  session := {
    keepaliveInterval := t.keepaliveInterval
    keepaliveAttempts := t.keepaliveAttempts
    terminalFontFamily := t.terminalFontFamilyValue
    terminalFontSize := t.terminalFontSizeValue }

def keepalive (t : SettingsStore) : NativeRequest := .setKeepaliveConfig t.keepaliveInterval t.keepaliveAttempts

def password (id : JsNumber) (c : Catalogue) : Option JsString :=
  ((under id c.connections).bind fun record => c.passwords record.id).filter fun password => !password.isEmpty

def passwordFor (draft : ConnectionDraft) (c : Catalogue) : JsString :=
  if truthy draft.password then draft.password.getD [] else (draft.editingId.bind fun id => password id c).getD []

def openSession (draft : ConnectionDraft) (c : Catalogue) : HostReply :=
  .native [keepalive c.settings, .openSessionAsync draft.host
    ((ConnectionStore.parsePortText draft.port.toJsString).getD 22) draft.username (passwordFor draft c)]

variable (digest : JsString → JsString)

def importedKey (name content : JsString) (publicKey passphrase : Option JsString) (id : Nat) : ImportedKey where
  id
  name
  content
  publicKey
  passphrase
  fingerprint := SecurityUtils.sha256Hex digest content

def imported (name content : JsString) : JsString :=
  let fingerprint := SecurityUtils.sha256Hex digest content
  js "Key import " ++ name ++ if fingerprint.isEmpty then [] else js " fingerprint=" ++ fingerprint.take 12 ++ js "…"

def perform (c : Catalogue) : HostCall → Catalogue × HostReply
  | .getSettings => (c, .settings (shownSettings c.settings))
  | .setDarkMode value =>
      (setting (fun t => { t with darkModeEnabled := value }) (js "Setting dark_mode=" ++ boolText value) c, .void)
  | .setSavePassword value =>
      (setting (fun t => { t with savePasswordEnabled := value }) (js "Setting save_password=" ++ boolText value) c, .void)
  | .setSessionSettings patch =>
      let c := (sessionSettings patch).foldl (fun c part => part c) c
      (c, .native [keepalive c.settings])
  | .listConnections => (c, .records c.connections.newest)
  | .addConnection draft => addConnection draft c
  | .savePassword recordId password =>
      (((under recordId c.connections).map fun record => keep record.id password c).getD c, .void)
  | .hasPassword recordId => (c, .flag (password recordId c).isSome)
  | .listSnippets => (c, .snippets c.snippets.oldest)
  | .addSnippet title command =>
      ({ c with snippets := c.snippets.add fun id => { id, title, command } },
        .snippet (some { id := c.snippets.next, title, command }))
  | .removeSnippet id => ({ c with snippets := removeUnder id c.snippets }, .void)
  | .listKeys => (c, .keys (c.keys.newest.map KesshHost.safeKey))
  | .importKey name content publicKey passphrase =>
      let key := importedKey digest name content publicKey passphrase
      (log (imported digest name content) { c with keys := c.keys.add key }, .key (KesshHost.safeKey (key c.keys.next)))
  | .removeKey id => ({ c with keys := removeUnder id c.keys }, .void)
  | .openSession draft => (c, openSession draft c)
  | .listLogs => (c, .logs c.logs)
  | .clearLogs => ({ c with logs := [] }, .void)

def store (c : Catalogue) : ConnectionStore.StoreCall → Catalogue
  | .addFromDraft draft authType => (file draft authType c).2
  | .savePassword record password => keep record.id password c
  | .getPassword _ => c
  | .getById _ => c
  | .list => c

def step (c : Catalogue) : AppCall → Catalogue
  | .store call => store c call
  | .host call => (perform digest c call).1

end Catalogue

end Kessh
