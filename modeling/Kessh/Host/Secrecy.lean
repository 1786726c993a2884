import Kessh.Host.KesshHost
import Kessh.Lib.Labelled

set_option autoImplicit false

namespace Kessh

open Ecma Labelled

namespace Secrecy

-- The same stores with other secrets in them.
def withSecrets (s : Stores) (passwords : Nat → Option JsString) (saved : List SavedPassword)
    (keys : List ImportedKey) : Stores :=
  { s with connections := { s.connections with passwords, saved }, keys := { s.keys with keys } }

-- Stores that differ in secrets only; which passwords there are and what keys look like is no secret.
def SameView (left right : Stores) : Prop :=
  ∃ passwords saved keys, right = withSecrets left passwords saved keys ∧
    (∀ id, truthy (left.connections.passwords id) = truthy (passwords id)) ∧
    left.keys.keys.map KesshHost.safeKey = keys.map KesshHost.safeKey

def withDraftSecrets (draft : ConnectionDraft) (password privateKey passphrase : Option JsString) : ConnectionDraft :=
  { draft with password, privateKey, passphrase }

variable (digest : JsString → JsString)

-- Calls that differ in secrets only: each is empty in both or in neither, a key keeps its fingerprint.
inductive Alike : HostCall → HostCall → Prop where
  | unchanged (call : HostCall) (inScope : ∀ draft, call ≠ .openSession draft) : Alike call call
  | addConnection (draft : ConnectionDraft) (password privateKey passphrase : Option JsString)
      (samePassword : truthy draft.password = truthy password)
      (samePrivateKey : truthy draft.privateKey = truthy privateKey)
      (samePassphrase : truthy draft.passphrase = truthy passphrase) :
      Alike (.addConnection draft) (.addConnection (withDraftSecrets draft password privateKey passphrase))
  | savePassword (recordId : JsNumber) (left right : JsString) (sameEmpty : left.isEmpty = right.isEmpty) :
      Alike (.savePassword recordId left) (.savePassword recordId right)
  | importKey (name left right : JsString) (publicKey leftPhrase rightPhrase : Option JsString)
      (sameEmpty : left.isEmpty = right.isEmpty)
      (sameFingerprint : SecurityUtils.sha256Hex digest left = SecurityUtils.sha256Hex digest right)
      (samePassphrase : truthy leftPhrase = truthy rightPhrase) :
      Alike (.importKey name left publicKey leftPhrase) (.importKey name right publicKey rightPhrase)

theorem sameView_refl (s : Stores) : SameView s s := ⟨_, _, _, rfl, fun _ => rfl, rfl⟩

theorem checkedDraft_secrets (draft : ConnectionDraft) (password privateKey passphrase : Option JsString) :
    ConnectionStore.checkedDraft (withDraftSecrets draft password privateKey passphrase) =
      (ConnectionStore.checkedDraft draft).map fun checked =>
        (withDraftSecrets checked.1 password privateKey passphrase, checked.2) := by
  have validation : ConnectionStore.validateDraft (withDraftSecrets draft password privateKey passphrase) =
    ConnectionStore.validateDraft draft := rfl
  cases reports : ConnectionStore.reported (ConnectionStore.validateDraft draft) with
  | some problem =>
      rw [ConnectionStore.checkedDraft_error draft problem reports,
        ConnectionStore.checkedDraft_error _ problem (validation ▸ reports)]
      rfl
  | none =>
      obtain ⟨port, valid⟩ := (ConnectionStore.reported_none draft).mp reports
      have validToo : ConnectionStore.Valid (withDraftSecrets draft password privateKey passphrase) port :=
        ⟨valid.host_present, valid.host_ordinary, valid.username_present, valid.port_parsed⟩
      rw [ConnectionStore.checkedDraft_ok draft port valid, ConnectionStore.checkedDraft_ok _ port validToo]
      rfl

theorem addFromDraft_secrets (draft : ConnectionDraft) (password privateKey passphrase : Option JsString)
    (authType : AuthType) (s : Stores) (passwords : Nat → Option JsString) (saved : List SavedPassword)
    (keys : List ImportedKey) :
    ConnectionStore.addFromDraft (withDraftSecrets draft password privateKey passphrase) authType
        (withSecrets s passwords saved keys) =
      ((ConnectionStore.addFromDraft draft authType s).1,
        withSecrets (ConnectionStore.addFromDraft draft authType s).2 passwords saved keys) := by
  unfold ConnectionStore.addFromDraft
  rw [checkedDraft_secrets]
  cases ConnectionStore.checkedDraft draft with
  | error problem => rfl
  | ok checked =>
      obtain ⟨normalized, port⟩ := checked
      have same : ∀ history, ConnectionStore.existingRecord (withDraftSecrets normalized password privateKey passphrase)
        history = ConnectionStore.existingRecord normalized history := fun _ => rfl
      simp only [Except.map, same, ConnectionStore.nowLabel, withSecrets]
      cases ConnectionStore.existingRecord normalized s.connections.history <;> rfl

theorem addFromDraft_keeps_secrets (draft : ConnectionDraft) (authType : AuthType) (s : Stores) :
    (ConnectionStore.addFromDraft draft authType s).2.connections.passwords = s.connections.passwords ∧
      (ConnectionStore.addFromDraft draft authType s).2.keys = s.keys := by
  unfold ConnectionStore.addFromDraft
  split
  · exact ⟨rfl, rfl⟩
  · dsimp only [ConnectionStore.nowLabel]
    split <;> exact ⟨rfl, rfl⟩

theorem savePassword_sameView (record : ConnectionRecord) (password other : JsString) (left right : Stores)
    (same : SameView left right) (sameEmpty : password.isEmpty = other.isEmpty) :
    SameView (ConnectionStore.savePassword record password left)
      (ConnectionStore.savePassword record other right) := by
  obtain ⟨passwords, saved, keys, rfl, present, shown⟩ := same
  cases password with
  | nil =>
      obtain rfl : other = [] := by simpa using sameEmpty.symm
      exact ⟨passwords, saved, keys, rfl, present, shown⟩
  | cons unit rest =>
      cases other with
      | nil => exact absurd sameEmpty (by simp)
      | cons first tail =>
          refine ⟨_, _, keys, rfl, fun id => ?_, shown⟩
          by_cases hit : id = record.id
          · simp [hit, ConnectionStore.savePassword, truthy]
          · simpa [hit, ConnectionStore.savePassword, withSecrets] using present id

theorem bridge_savePassword_sameView (recordId : JsNumber) (password other : JsString)
    (sameEmpty : password.isEmpty = other.isEmpty) (left right : Stores) (same : SameView left right) :
    (KesshHost.savePassword recordId password left).2 = (KesshHost.savePassword recordId other right).2 ∧
      SameView (KesshHost.savePassword recordId password left).1 (KesshHost.savePassword recordId other right).1 := by
  have records : ConnectionStore.getById recordId right = ConnectionStore.getById recordId left := by
    obtain ⟨passwords, saved, keys, rfl, _, _⟩ := same
    rfl
  unfold KesshHost.savePassword
  rw [records]
  cases ConnectionStore.getById recordId left with
  | none => exact ⟨rfl, same⟩
  | some found => exact ⟨rfl, savePassword_sameView found password other left right same sameEmpty⟩

theorem truthy_typed (text : Option JsString) (typed : truthy text = true) : (text.getD []).isEmpty = false := by
  cases text with
  | none => cases typed
  | some value => simpa [truthy] using typed

theorem addConnection_sameView (draft : ConnectionDraft) (password privateKey passphrase : Option JsString)
    (samePassword : truthy draft.password = truthy password)
    (samePrivateKey : truthy draft.privateKey = truthy privateKey) (left right : Stores)
    (same : SameView left right) :
    (KesshHost.addConnection draft left).2 =
        (KesshHost.addConnection (withDraftSecrets draft password privateKey passphrase) right).2 ∧
      SameView (KesshHost.addConnection draft left).1
        (KesshHost.addConnection (withDraftSecrets draft password privateKey passphrase) right).1 := by
  obtain ⟨passwords, saved, keys, rfl, present, shown⟩ := same
  have validation : ConnectionStore.validateDraft (withDraftSecrets draft password privateKey passphrase) =
    ConnectionStore.validateDraft draft := rfl
  unfold KesshHost.addConnection
  rw [validation]
  cases ConnectionStore.validateDraft draft with
  | error problem => exact ⟨rfl, passwords, saved, keys, rfl, present, shown⟩
  | ok message =>
      dsimp only
      by_cases reports : truthy message = true
      · rw [if_pos reports, if_pos reports]
        exact ⟨rfl, passwords, saved, keys, rfl, present, shown⟩
      · rw [if_neg reports, if_neg reports]
        have authType : (if truthy (withDraftSecrets draft password privateKey passphrase).privateKey then AuthType.key
            else .password) = if truthy draft.privateKey then .key else .password := by
          rw [samePrivateKey]
          rfl
        rw [authType, addFromDraft_secrets]
        obtain ⟨samePasswords, sameKeys⟩ :=
          addFromDraft_keeps_secrets draft (if truthy draft.privateKey then .key else .password) left
        revert samePasswords sameKeys
        cases ConnectionStore.addFromDraft draft (if truthy draft.privateKey then .key else .password) left with
        | mk result after =>
            intro samePasswords sameKeys
            have view : SameView after (withSecrets after passwords saved keys) :=
              ⟨passwords, saved, keys, rfl, by rw [samePasswords]; exact present, by rw [sameKeys]; exact shown⟩
            cases result with
            | error problem => exact ⟨rfl, view⟩
            | ok record =>
                have stores : (truthy (withDraftSecrets draft password privateKey passphrase).password &&
                    (withSecrets after passwords saved keys).settings.savePasswordEnabled) =
                  (truthy draft.password && after.settings.savePasswordEnabled) := by
                  rw [samePassword]
                  rfl
                dsimp only
                rw [stores]
                by_cases saves : (truthy draft.password && after.settings.savePasswordEnabled) = true
                · rw [if_pos saves, if_pos saves]
                  have typed := truthy_typed draft.password (Bool.and_eq_true_iff.mp saves).1
                  have typedToo := truthy_typed password (samePassword.symm.trans (Bool.and_eq_true_iff.mp saves).1)
                  exact ⟨rfl, savePassword_sameView record _ _ _ _ view (typed.trans typedToo.symm)⟩
                · rw [if_neg saves, if_neg saves]
                  exact ⟨rfl, view⟩

theorem importKey_sameView (name content other : JsString) (publicKey passphrase phrase : Option JsString)
    (fingerprint : SecurityUtils.sha256Hex digest content = SecurityUtils.sha256Hex digest other)
    (left right : Stores) (same : SameView left right) :
    (KesshHost.importKey digest name content publicKey passphrase left).2 =
        (KesshHost.importKey digest name other publicKey phrase right).2 ∧
      SameView (KesshHost.importKey digest name content publicKey passphrase left).1
        (KesshHost.importKey digest name other publicKey phrase right).1 := by
  obtain ⟨passwords, saved, keys, rfl, present, shown⟩ := same
  simp only [KesshHost.importKey, KeyStore.importKey, fingerprint]
  refine ⟨rfl, passwords, saved, _ :: keys, rfl, present, ?_⟩
  simp only [log_keys, List.map_cons, shown]
  rfl

theorem removeKey_sameView (id : JsNumber) (left right : Stores) (same : SameView left right) :
    SameView (KeyStore.remove id left) (KeyStore.remove id right) := by
  obtain ⟨passwords, saved, keys, rfl, present, shown⟩ := same
  have commutes : ∀ list : List ImportedKey, (list.filter fun k => JsNumber.int k.id != id).map KesshHost.safeKey =
      (list.map KesshHost.safeKey).filter fun k => JsNumber.int k.id != id := by
    intro list
    rw [List.filter_map]
    rfl
  refine ⟨passwords, saved, keys.filter fun k => JsNumber.int k.id != id, rfl, present, ?_⟩
  simp only [KeyStore.remove, commutes, shown]

theorem hasPassword_sameView (recordId : JsNumber) (left right : Stores) (same : SameView left right) :
    (KesshHost.hasPassword recordId left).2 = (KesshHost.hasPassword recordId right).2 ∧
      SameView (KesshHost.hasPassword recordId left).1 (KesshHost.hasPassword recordId right).1 := by
  obtain ⟨passwords, saved, keys, rfl, present, shown⟩ := same
  have record : ConnectionStore.getById recordId (withSecrets left passwords saved keys) =
    ConnectionStore.getById recordId left := rfl
  unfold KesshHost.hasPassword
  rw [record]
  cases ConnectionStore.getById recordId left with
  | none => exact ⟨rfl, passwords, saved, keys, rfl, present, shown⟩
  | some found => exact ⟨congrArg HostReply.flag (present found.id), passwords, saved, keys, rfl, present, shown⟩

theorem setSessionSettings_sameView (patch : SessionSettingsPatch) (left right : Stores) (same : SameView left right) :
    (KesshHost.setSessionSettings patch left).2 = (KesshHost.setSessionSettings patch right).2 ∧
      SameView (KesshHost.setSessionSettings patch left).1 (KesshHost.setSessionSettings patch right).1 := by
  obtain ⟨passwords, saved, keys, rfl, present, shown⟩ := same
  rcases patch with ⟨interval, attempts, family, size⟩
  cases interval <;> cases attempts <;> cases family <;> cases size <;>
    exact ⟨rfl, passwords, saved, keys, rfl, present, shown⟩

theorem unchanged_sameView (call : HostCall) (inScope : ∀ draft, call ≠ .openSession draft) (left right : Stores)
    (same : SameView left right) :
    (KesshHost.perform digest left call).2 = (KesshHost.perform digest right call).2 ∧
      SameView (KesshHost.perform digest left call).1 (KesshHost.perform digest right call).1 := by
  cases call with
  | openSession draft => exact absurd rfl (inScope draft)
  | addConnection draft =>
      exact addConnection_sameView draft draft.password draft.privateKey draft.passphrase rfl rfl left right same
  | savePassword recordId password => exact bridge_savePassword_sameView recordId password password rfl left right same
  | importKey name content publicKey passphrase =>
      exact importKey_sameView digest name content content publicKey passphrase passphrase rfl left right same
  | removeKey id => exact ⟨rfl, removeKey_sameView id left right same⟩
  | hasPassword recordId => exact hasPassword_sameView recordId left right same
  | setSessionSettings patch => exact setSessionSettings_sameView patch left right same
  | listKeys =>
      obtain ⟨passwords, saved, keys, rfl, present, shown⟩ := same
      exact ⟨congrArg HostReply.keys shown, passwords, saved, keys, rfl, present, shown⟩
  | getSettings | setDarkMode | setSavePassword =>
      obtain ⟨passwords, saved, keys, rfl, present, shown⟩ := same
      obtain ⟨clock, appStorage, logs, settings, connections, snippets, keyStore⟩ := left
      cases available : appStorage.available <;>
        simp [KesshHost.perform, KesshHost.getSettings, SettingsStore.ensureInitialized, SettingsStore.setDarkMode,
          SettingsStore.setSavePassword, withSecrets, available, Logger.log] <;>
        exact ⟨passwords, saved, keys, rfl, present, shown⟩
  | listConnections | listSnippets | addSnippet | removeSnippet | listLogs | clearLogs =>
      obtain ⟨passwords, saved, keys, rfl, present, shown⟩ := same
      exact ⟨rfl, passwords, saved, keys, rfl, present, shown⟩

theorem perform_sameView (left right : Stores) (first second : HostCall) (same : SameView left right)
    (alike : Alike digest first second) :
    (KesshHost.perform digest left first).2 = (KesshHost.perform digest right second).2 ∧
      SameView (KesshHost.perform digest left first).1 (KesshHost.perform digest right second).1 := by
  cases alike with
  | unchanged _ inScope => exact unchanged_sameView digest first inScope left right same
  | addConnection draft password privateKey passphrase samePassword samePrivateKey _ =>
      exact addConnection_sameView draft password privateKey passphrase samePassword samePrivateKey left right same
  | savePassword recordId password other sameEmpty =>
      exact bridge_savePassword_sameView recordId password other sameEmpty left right same
  | importKey name content other publicKey passphrase phrase _ sameFingerprint _ =>
      exact importKey_sameView digest name content other publicKey passphrase phrase sameFingerprint left right same

/-- Two runs whose calls differ in secrets only get the same answers, values and errors alike. -/
theorem secrets_stay_inside (s : Stores) (first second : List HostCall)
    (alike : List.Forall₂ (Alike digest) first second) :
    answers (KesshHost.perform digest) s first = answers (KesshHost.perform digest) s second :=
  answers_unwinding (KesshHost.perform digest) SameView (Alike digest) (perform_sameView digest) s s first second
    (sameView_refl s) alike

theorem secrets_stay_inside_key :
    let digest : JsString → JsString := fun _ => js "0f"
    let calls (password content : JsString) : List HostCall :=
      [.setSavePassword true,
       .addConnection { host := js "a", port := .text (js "22"), username := js "u", password := some password },
       .importKey (js "id") content none none, .listKeys, .hasPassword (.int 1), .listLogs]
    answers (KesshHost.perform digest) (initialStores noon { available := true }) (calls (js "one") (js "k")) =
      answers (KesshHost.perform digest) (initialStores noon { available := true }) (calls (js "two") (js "l")) :=
  secrets_stay_inside _ _ _ _
    (.cons (.unchanged _ (by simp)) (.cons (.addConnection _ (some (js "two")) none none (by decide) rfl rfl)
      (.cons (.importKey _ _ _ none none none (by decide) (by decide) rfl)
        (.cons (.unchanged _ (by simp)) (.cons (.unchanged _ (by simp)) (.cons (.unchanged _ (by simp)) .nil))))))

end Secrecy

end Kessh
