import Kessh.Host.KesshHost
import Kessh.Store.ConnectionInvariant

set_option autoImplicit false

namespace Kessh

open Ecma Labelled

namespace KesshHost

open ConnectionStore (Invariant Holding Held Performs StoreCall ids)

variable (digest : JsString → JsString)

theorem sessionSettings_connections (patch : SessionSettingsPatch) (s : Stores) :
    ((sessionSettingsParts patch).foldl (fun s part => part s) s).connections = s.connections := by
  rcases patch with ⟨interval, attempts, family, size⟩
  simp only [sessionSettingsParts]
  cases interval <;> cases attempts <;> cases family <;> cases size <;> rfl

theorem addConnection_invariant (draft : ConnectionDraft) (s : Stores) (invariant : Invariant s.connections) :
    Invariant (addConnection draft s).1.connections := by
  rcases addConnection_cases draft s with ⟨_, _, same⟩ | ⟨authType, record, after, _, added, same⟩
  · rw [same]
    exact invariant
  · have kept := ConnectionStore.addFromDraft_invariant draft authType s invariant
    have known := (ConnectionStore.addFromDraft_known draft authType s).2 record (by rw [added])
    rw [added] at kept known
    rw [same]
    dsimp only
    split
    · exact ConnectionStore.savePassword_invariant record _ after (ConnectionStore.mem_ids record _ known) kept
    · exact kept

theorem savePassword_invariant (recordId : JsNumber) (password : JsString) (s : Stores)
    (invariant : Invariant s.connections) : Invariant (savePassword recordId password s).1.connections := by
  unfold savePassword
  split
  · rename_i record found
    exact ConnectionStore.savePassword_invariant record password s
      (ConnectionStore.getById_known recordId s record found) invariant
  · exact invariant

theorem perform_connections (call : HostCall) (s : Stores)
    (other : (∀ draft, call ≠ .addConnection draft) ∧ ∀ id password, call ≠ .savePassword id password) :
    (perform digest s call).1.connections = s.connections := by
  cases call with
  | addConnection draft => exact absurd rfl (other.1 draft)
  | savePassword recordId password => exact absurd rfl (other.2 recordId password)
  | getSettings => exact SettingsStore.ensureInitialized_connections s
  | setDarkMode value => exact SettingsStore.setDarkMode_connections value s
  | setSavePassword value => exact SettingsStore.setSavePassword_connections value s
  | setSessionSettings patch => exact sessionSettings_connections patch s
  | hasPassword recordId =>
      simp only [perform, hasPassword]
      split <;> rfl
  | listConnections | listSnippets | addSnippet | removeSnippet | listKeys | importKey | removeKey | openSession
  | listLogs | clearLogs => rfl

theorem perform_invariant (call : HostCall) (s : Stores) (invariant : Invariant s.connections) :
    Invariant (perform digest s call).1.connections := by
  by_cases other : (∀ draft, call ≠ .addConnection draft) ∧ ∀ id password, call ≠ .savePassword id password
  · rw [perform_connections digest call s other]
    exact invariant
  · cases call with
    | addConnection draft => exact addConnection_invariant draft s invariant
    | savePassword recordId password => exact savePassword_invariant recordId password s invariant
    | _ => exact absurd ⟨fun _ => by simp, fun _ _ => by simp⟩ other

theorem addConnection_known (draft : ConnectionDraft) (s : Stores) (id : Nat)
    (member : id ∈ ids s.connections.history) : id ∈ ids (addConnection draft s).1.connections.history := by
  rcases addConnection_cases draft s with ⟨_, _, same⟩ | ⟨authType, record, after, _, added, same⟩
  · rwa [same]
  · have kept := (ConnectionStore.addFromDraft_known draft authType s).1 id member
    rw [added] at kept
    rw [same]
    dsimp only
    split
    · unfold ConnectionStore.savePassword
      split <;> exact kept
    · exact kept

theorem perform_known (call : HostCall) (s : Stores) (id : Nat) (member : id ∈ ids s.connections.history) :
    id ∈ ids (perform digest s call).1.connections.history := by
  by_cases other : (∀ draft, call ≠ .addConnection draft) ∧ ∀ id password, call ≠ .savePassword id password
  · rwa [perform_connections digest call s other]
  · cases call with
    | addConnection draft => exact addConnection_known draft s id member
    | savePassword recordId password =>
        simp only [perform, savePassword]
        split
        · unfold ConnectionStore.savePassword
          split <;> exact member
        · exact member
    | _ => exact absurd ⟨fun _ => by simp, fun _ _ => by simp⟩ other

end KesshHost

-- The ArkTS pages use the store directly and the Lynx pages call the bridge, in any order.
inductive AppCall where
  | store (call : ConnectionStore.StoreCall)
  | host (call : HostCall)

def AppStep (digest : JsString → JsString) (s : ConnectionStore.Holding) : AppCall → ConnectionStore.Holding → Prop
  | .store call, next => ConnectionStore.Performs s call next
  | .host call, next => next = { s with stores := (KesshHost.perform digest s.stores call).1 }

def Reachable (digest : JsString → JsString) (s : Stores) : Prop :=
  ∃ clock appStorage calls handed, Run (AppStep digest) ⟨initialStores clock appStorage, []⟩ calls ⟨s, handed⟩

theorem appStep_held (digest : JsString → JsString) (s : ConnectionStore.Holding) (call : AppCall)
    (next : ConnectionStore.Holding) (held : ConnectionStore.Held s) (move : AppStep digest s call next) :
    ConnectionStore.Held next := by
  cases call with
  | store call => exact ConnectionStore.performs_held s call next held move
  | host call =>
      obtain rfl := move
      exact ⟨KesshHost.perform_invariant digest call s.stores held.1, fun record member =>
        KesshHost.perform_known digest call s.stores record.id (held.2 record member)⟩

theorem reachable_invariant (digest : JsString → JsString) (s : Stores) (reachable : Reachable digest s) :
    ConnectionStore.Invariant s.connections := by
  obtain ⟨clock, appStorage, calls, handed, run⟩ := reachable
  exact (run_invariant (AppStep digest) ConnectionStore.Held (appStep_held digest) _ calls _
    ⟨ConnectionStore.initial_invariant, fun _ member => absurd member (by simp)⟩ run).1

theorem reachable_calls (digest : JsString → JsString) (clock : Clock) (appStorage : AppStorage)
    (calls : List HostCall) :
    Reachable digest (states (KesshHost.perform digest) (initialStores clock appStorage) calls) := by
  suffices moves : ∀ s, Run (AppStep digest) ⟨s, []⟩ (calls.map .host)
      ⟨states (KesshHost.perform digest) s calls, []⟩ from ⟨clock, appStorage, _, [], moves _⟩
  induction calls with
  | nil => exact fun s => .nil
  | cons call rest ih =>
      intro s
      have first : AppStep digest ⟨s, []⟩ (.host call) ⟨(KesshHost.perform digest s call).1, []⟩ := rfl
      exact run_trans _ _ _ _ [.host call] _ (run_single _ _ _ _ first) (ih (KesshHost.perform digest s call).1)

end Kessh
