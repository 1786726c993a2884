import Kessh.Store.Connections
import Kessh.Store.Keys
import Kessh.Store.Settings

set_option autoImplicit false

namespace Kessh

open Ecma

-- Template text of a port: `${port}`
def PortField.toJsString : PortField → JsString
  | .text value => value
  | .number value => value.toJsString

structure SessionSettingsDTO where
  keepaliveInterval : JsNumber
  keepaliveAttempts : JsNumber
  terminalFontFamily : JsString
  terminalFontSize : JsNumber
deriving DecidableEq, Repr

structure AppSettingsDTO where
  darkMode : Bool
  savePassword : Bool
  session : SessionSettingsDTO
deriving DecidableEq, Repr

structure SessionSettingsPatch where
  keepaliveInterval : Option JsNumber := none
  keepaliveAttempts : Option JsNumber := none
  terminalFontFamily : Option JsString := none
  terminalFontSize : Option JsNumber := none
deriving DecidableEq, Repr

-- What the bridge asks of the native module.
inductive NativeRequest where
  | setKeepaliveConfig (intervalSeconds attempts : JsNumber)
  | openSessionAsync (host : JsString) (port : Nat) (user pass : JsString)
deriving DecidableEq, Repr

inductive HostReply where
  | void
  | settings (dto : AppSettingsDTO)
  | record (value : ConnectionRecord)
  | records (values : List ConnectionRecord)
  | flag (value : Bool)
  | snippet (value : Option Snippet)
  | snippets (values : List Snippet)
  | key (value : ImportedKey)
  | keys (values : List ImportedKey)
  | logs (values : List JsString)
  | native (requests : List NativeRequest)
  | thrown (problem : JsError)
deriving DecidableEq, Repr

inductive HostCall where
  | getSettings
  | setDarkMode (value : Bool)
  | setSavePassword (value : Bool)
  | setSessionSettings (patch : SessionSettingsPatch)
  | listConnections
  | addConnection (draft : ConnectionDraft)
  | savePassword (recordId : JsNumber) (password : JsString)
  | hasPassword (recordId : JsNumber)
  | listSnippets
  | addSnippet (title command : JsString)
  | removeSnippet (id : JsNumber)
  | listKeys
  | importKey (name content : JsString) (publicKey passphrase : Option JsString)
  | removeKey (id : JsNumber)
  | openSession (draft : ConnectionDraft)
  | listLogs
  | clearLogs
deriving DecidableEq, Repr

namespace KesshHost

def getSettings (s : Stores) : Stores × HostReply :=
  let s := SettingsStore.ensureInitialized s
  (s, .settings {
    darkMode := s.settings.darkModeEnabled
    savePassword := s.settings.savePasswordEnabled
    session := {
      keepaliveInterval := s.settings.keepaliveInterval
      keepaliveAttempts := s.settings.keepaliveAttempts
      terminalFontFamily := s.settings.terminalFontFamilyValue
      terminalFontSize := s.settings.terminalFontSizeValue } })

def configureKeepalive (s : Stores) : NativeRequest :=
  .setKeepaliveConfig s.settings.keepaliveInterval s.settings.keepaliveAttempts

-- Each part runs by itself; an await stands between one part and the next.
def sessionSettingsParts (patch : SessionSettingsPatch) : List (Stores → Stores) :=
  (patch.keepaliveInterval.map SettingsStore.setSessionKeepaliveInterval).toList ++
    (patch.keepaliveAttempts.map SettingsStore.setSessionKeepaliveAttempts).toList ++
    (patch.terminalFontFamily.map SettingsStore.setTerminalFontFamily).toList ++
    (patch.terminalFontSize.map SettingsStore.setTerminalFontSize).toList

def setSessionSettings (patch : SessionSettingsPatch) (s : Stores) : Stores × HostReply :=
  let s := (sessionSettingsParts patch).foldl (fun s part => part s) s
  (s, .native [configureKeepalive s])

def addConnection (draft : ConnectionDraft) (s : Stores) : Stores × HostReply :=
  match ConnectionStore.validateDraft draft with
  | .error problem => (s, .thrown problem)
  | .ok validation =>
      if truthy validation then (s, .thrown (.error (validation.getD [])))
      else
        match ConnectionStore.addFromDraft draft (if truthy draft.privateKey then .key else .password) s with
        | (.error problem, s) => (s, .thrown problem)
        | (.ok record, s) =>
            if truthy draft.password && s.settings.savePasswordEnabled then
              (ConnectionStore.savePassword record (draft.password.getD []) s, .record record)
            else (s, .record record)

def savePassword (recordId : JsNumber) (password : JsString) (s : Stores) : Stores × HostReply :=
  match ConnectionStore.getById recordId s with
  | some record => (ConnectionStore.savePassword record password s, .void)
  | none => (s, .void)

def hasPassword (recordId : JsNumber) (s : Stores) : Stores × HostReply :=
  match ConnectionStore.getById recordId s with
  | some record => (s, .flag (truthy (ConnectionStore.getPassword (some record) s)))
  | none => (s, .flag false)

def addSnippet (title command : JsString) (s : Stores) : Stores × HostReply :=
  let s := SnippetStore.add title command s
  (s, .snippet (SnippetStore.list s).getLast?)

-- The copy of a key that may leave the host.
def safeKey (key : ImportedKey) : ImportedKey :=
  { id := key.id
    name := key.name
    content := []
    publicKey := if truthy key.publicKey then key.publicKey else none
    passphrase := none
    fingerprint := key.fingerprint }

def resolvePassword (draft : ConnectionDraft) (s : Stores) : JsString :=
  if truthy draft.password then draft.password.getD []
  else
    match draft.editingId with
    | none => []
    | some editingId =>
        let stored := (ConnectionStore.getById editingId s).bind fun record => ConnectionStore.getPassword (some record) s
        if truthy stored then stored.getD [] else []

def openSession (draft : ConnectionDraft) (s : Stores) : Stores × HostReply :=
  let password := resolvePassword draft s
  let port := (ConnectionStore.parsePortText draft.port.toJsString).getD 22
  (s, .native [configureKeepalive s, .openSessionAsync draft.host port draft.username password])

variable (digest : JsString → JsString)

def importKey (name content : JsString) (publicKey passphrase : Option JsString) (s : Stores) : Stores × HostReply :=
  let (key, s) := KeyStore.importKey digest name content publicKey passphrase s
  (s, .key (safeKey key))

def perform (s : Stores) : HostCall → Stores × HostReply
  | .getSettings => getSettings s
  | .setDarkMode value => (SettingsStore.setDarkMode value s, .void)
  | .setSavePassword value => (SettingsStore.setSavePassword value s, .void)
  | .setSessionSettings patch => setSessionSettings patch s
  | .listConnections => (s, .records (ConnectionStore.list s))
  | .addConnection draft => addConnection draft s
  | .savePassword recordId password => savePassword recordId password s
  | .hasPassword recordId => hasPassword recordId s
  | .listSnippets => (s, .snippets (SnippetStore.list s))
  | .addSnippet title command => addSnippet title command s
  | .removeSnippet id => (SnippetStore.remove id s, .void)
  | .listKeys => (s, .keys ((KeyStore.list s).map safeKey))
  | .importKey name content publicKey passphrase => importKey digest name content publicKey passphrase s
  | .removeKey id => (KeyStore.remove id s, .void)
  | .openSession draft => openSession draft s
  | .listLogs => (s, .logs (Logger.list s))
  | .clearLogs => (Logger.clear s, .void)

theorem addConnection_cases (draft : ConnectionDraft) (s : Stores) :
    (∃ problem, ConnectionStore.reported (ConnectionStore.validateDraft draft) = some problem ∧
        addConnection draft s = (s, .thrown problem)) ∨
      ∃ authType record after,
        ConnectionStore.reported (ConnectionStore.validateDraft draft) = none ∧
        ConnectionStore.addFromDraft draft authType s = (.ok record, after) ∧
        addConnection draft s =
          (if truthy draft.password && s.settings.savePasswordEnabled then
            ConnectionStore.savePassword record (draft.password.getD []) after else after, .record record) := by
  cases reports : ConnectionStore.reported (ConnectionStore.validateDraft draft) with
  | some problem =>
      left
      refine ⟨problem, rfl, ?_⟩
      cases validation : ConnectionStore.validateDraft draft with
      | error thrown =>
          rw [validation] at reports
          obtain rfl : thrown = problem := by simpa [ConnectionStore.reported] using reports
          simp [addConnection, validation]
      | ok message =>
          cases message with
          | none => simp [validation, ConnectionStore.reported] at reports
          | some message =>
              rw [validation] at reports
              obtain rfl : JsError.error message = problem := by simpa [ConnectionStore.reported] using reports
              have nonempty := ConnectionStore.validateDraft_message draft message validation
              simp [addConnection, validation, truthy, nonempty]
  | none =>
      right
      have passes : ConnectionStore.validateDraft draft = .ok none := by
        rw [ConnectionStore.validateDraft_none, ← ConnectionStore.reported_none]
        exact reports
      let authType : AuthType := if truthy draft.privateKey then .key else .password
      have settings := ConnectionStore.addFromDraft_settings draft authType s
      cases added : ConnectionStore.addFromDraft draft authType s with
      | mk result after =>
          cases result with
          | error problem =>
              have thrown := (ConnectionStore.addFromDraft_error draft authType s problem).mp (by rw [added])
              exact absurd (reports.symm.trans thrown) (by simp)
          | ok record =>
              refine ⟨authType, record, after, rfl, added, ?_⟩
              rw [added] at settings
              have stored : after.settings = s.settings := settings
              have quiet : truthy (none : Option JsString) = false := rfl
              have written : ConnectionStore.addFromDraft draft (if truthy draft.privateKey then .key else .password) s =
                (.ok record, after) := added
              simp only [addConnection, passes, quiet, Bool.false_eq_true, if_false, written, stored]
              split <;> rfl

end KesshHost

end Kessh
