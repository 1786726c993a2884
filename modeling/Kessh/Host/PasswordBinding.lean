import Kessh.Host.HostInvariant

set_option autoImplicit false

namespace Kessh

open Ecma Labelled

namespace PasswordBinding

open ConnectionStore (Invariant Valid existingRecord recordFor ids)

structure SameEndpoint (earlier record : ConnectionRecord) : Prop where
  host : earlier.host = record.host
  port : earlier.port = record.port
  username : earlier.username = record.username

-- The password was stored for the record when the record already had its present endpoint.
def StoredFor (store : ConnectionStore) (record : ConnectionRecord) (password : JsString) : Prop :=
  ∃ entry ∈ store.saved, entry.id = record.id ∧ entry.password = password ∧
    ∃ earlier ∈ entry.records, earlier.id = record.id ∧ SameEndpoint earlier record

def Bound (store : ConnectionStore) : Prop :=
  ∀ record ∈ store.history, ∀ password, store.passwords record.id = some password → StoredFor store record password

-- An edit of a record with a stored password leaves its endpoint alone, or brings a password that is stored anew.
def KeepsBinding (draft : ConnectionDraft) (s : Stores) : Prop :=
  ∀ port existing, Valid draft port → existingRecord draft s.connections.history = some existing →
    s.connections.passwords existing.id ≠ none →
    (existing.host = trim draft.host ∧ existing.port = port ∧ existing.username = trim draft.username) ∨
      (truthy draft.password && s.settings.savePasswordEnabled) = true

theorem savePassword_bound (record : ConnectionRecord) (password : JsString) (s : Stores)
    (others : ∀ other ∈ s.connections.history, other.id ≠ record.id → ∀ stored,
      s.connections.passwords other.id = some stored → StoredFor s.connections other stored)
    (present : password ≠ []) : Bound (ConnectionStore.savePassword record password s).connections := by
  rw [ConnectionStore.savePassword_saves record password s present]
  intro other member stored kept
  by_cases same : other.id = record.id
  · simp only [if_pos same, Option.some.injEq] at kept
    exact ⟨_, List.mem_cons_self, same.symm, kept, other, member, rfl, rfl, rfl, rfl⟩
  · simp only [if_neg same] at kept
    obtain ⟨entry, recorded, rest⟩ := others other member same stored kept
    exact ⟨entry, List.mem_cons_of_mem _ recorded, rest⟩

theorem bridge_savePassword_bound (recordId : JsNumber) (password : JsString) (s : Stores)
    (bound : Bound s.connections) : Bound (KesshHost.savePassword recordId password s).1.connections := by
  unfold KesshHost.savePassword
  split
  · rename_i record _
    by_cases empty : password = []
    · subst empty
      rw [ConnectionStore.savePassword_empty]
      exact bound
    · exact savePassword_bound record password s (fun other member _ => bound other member) empty
  · exact bound

theorem addFromDraft_bound (draft : ConnectionDraft) (authType : AuthType) (s after : Stores)
    (record : ConnectionRecord) (invariant : Invariant s.connections) (bound : Bound s.connections)
    (added : ConnectionStore.addFromDraft draft authType s = (.ok record, after)) :
    (∀ other ∈ after.connections.history, other.id ≠ record.id → ∀ stored,
        after.connections.passwords other.id = some stored → StoredFor after.connections other stored) ∧
      (KeepsBinding draft s → (truthy draft.password && s.settings.savePasswordEnabled) = false →
        Bound after.connections) := by
  rcases ConnectionStore.addFromDraft_cases draft authType s with
    ⟨_, _, same⟩ | ⟨port, time, valid, ⟨existing, found, result, written⟩ | ⟨_, result, written⟩⟩
  · rw [same] at added
    exact absurd (congrArg Prod.fst added) (by simp)
  · rw [added] at result written
    obtain rfl := Except.ok.inj result
    dsimp only at written
    have older : ∀ other ∈ after.connections.history, other ≠ recordFor draft port authType existing.id time →
        ∀ stored, after.connections.passwords other.id = some stored → StoredFor after.connections other stored := by
      rw [written]
      intro other member different stored present
      rcases ConnectionStore.mem_writeInternal _ other _ member with rfl | old
      · exact absurd rfl different
      · exact bound other old stored present
    refine ⟨fun other member different => older other member fun equal => different (congrArg (·.id) equal), ?_⟩
    intro keeps silent other member stored present
    by_cases rewritten : other = recordFor draft port authType existing.id time
    · subst rewritten
      rw [written] at present ⊢
      have held : s.connections.passwords existing.id = some stored := present
      rcases keeps port existing valid found (by simp [held]) with ⟨host, samePort, username⟩ | brings
      · obtain ⟨_, _, front, back, split, _⟩ := ConnectionStore.existingRecord_some draft _ existing found
        obtain ⟨entry, recorded, sameId, samePassword, earlier, known, earlierId, endpoint⟩ :=
          bound existing (by simp [split]) stored held
        exact ⟨entry, recorded, sameId, samePassword, earlier, known, earlierId,
          endpoint.host.trans host, endpoint.port.trans samePort, endpoint.username.trans username⟩
      · exact absurd (brings.symm.trans silent) (by simp)
    · exact older other member rewritten stored present
  · rw [added] at result written
    obtain rfl := Except.ok.inj result
    dsimp only at written
    have fresh : s.connections.passwords s.connections.seq = none := by
      cases present : s.connections.passwords s.connections.seq with
      | none => rfl
      | some stored =>
          have positive := invariant.seq_positive
          have bounds := invariant.issued _ (invariant.stored _ stored present).2
          omega
    have all : Bound after.connections := by
      rw [written]
      intro other member stored present
      rcases List.mem_cons.mp member with rfl | old
      · exact absurd (fresh.symm.trans present) (by simp)
      · exact bound other old stored present
    exact ⟨fun other member _ => all other member, fun _ _ => all⟩

theorem addConnection_bound (draft : ConnectionDraft) (s : Stores) (invariant : Invariant s.connections)
    (bound : Bound s.connections) (keeps : KeepsBinding draft s) :
    Bound (KesshHost.addConnection draft s).1.connections := by
  rcases KesshHost.addConnection_cases draft s with ⟨_, _, same⟩ | ⟨authType, record, after, _, added, same⟩
  · rwa [same]
  · obtain ⟨others, silent⟩ := addFromDraft_bound draft authType s after record invariant bound added
    rw [same]
    dsimp only
    split
    · rename_i brings
      apply savePassword_bound record _ after others
      cases password : draft.password with
      | none => simp [password, truthy] at brings
      | some value => simpa [password, truthy] using (Bool.and_eq_true_iff.mp brings).1
    · rename_i quiet
      exact silent keeps (by simpa using quiet)

variable (digest : JsString → JsString)

-- One call of the bridge; an addConnection keeps the binding of the stored passwords.
def Step (s : Stores) (call : HostCall) (next : Stores) : Prop :=
  (∀ draft, call = .addConnection draft → KeepsBinding draft s) ∧ next = (KesshHost.perform digest s call).1

theorem step_bound (s : Stores) (call : HostCall) (next : Stores)
    (kept : Invariant s.connections ∧ Bound s.connections) (move : Step digest s call next) :
    Invariant next.connections ∧ Bound next.connections := by
  obtain ⟨keeps, rfl⟩ := move
  obtain ⟨invariant, bound⟩ := kept
  refine ⟨KesshHost.perform_invariant digest call s invariant, ?_⟩
  by_cases other : (∀ draft, call ≠ .addConnection draft) ∧ ∀ id password, call ≠ .savePassword id password
  · rwa [KesshHost.perform_connections digest call s other]
  · cases call with
    | addConnection draft => exact addConnection_bound draft s invariant bound (keeps draft rfl)
    | savePassword recordId password => exact bridge_savePassword_bound recordId password s bound
    | _ => exact absurd ⟨fun _ => by simp, fun _ _ => by simp⟩ other

theorem resolvePassword_stored (draft : ConnectionDraft) (s : Stores) (password : JsString)
    (untyped : truthy draft.password = false) (resolved : KesshHost.resolvePassword draft s = password)
    (present : password ≠ []) :
    ∃ record ∈ s.connections.history, draft.editingId = some (.int record.id) ∧
      s.connections.passwords record.id = some password := by
  subst resolved
  unfold KesshHost.resolvePassword at present ⊢
  rw [untyped] at present ⊢
  cases named : draft.editingId with
  | none => exact absurd (by simp [named]) present
  | some editingId =>
      cases found : ConnectionStore.getById editingId s with
      | none => exact absurd (by simp [named, found, truthy]) present
      | some record =>
          obtain ⟨same, member⟩ := ConnectionStore.findInternal_id editingId _ record found
          cases stored : s.connections.passwords record.id with
          | none => exact absurd (by simp [named, found, ConnectionStore.getPassword, stored, truthy]) present
          | some value =>
              refine ⟨record, member, by rw [same], ?_⟩
              cases value with
              | nil => exact absurd (by simp [named, found, ConnectionStore.getPassword, stored, truthy]) present
              | cons unit rest => simp [found, ConnectionStore.getPassword, stored, truthy]

/-- If every edit in a run keeps the binding of the passwords, a password that is read back or sent
for a record was stored for it when it had its present endpoint. -/
theorem stored_passwords_bound (clock : Clock) (appStorage : AppStorage) (calls : List HostCall) (s : Stores)
    (run : Run (Step digest) (initialStores clock appStorage) calls s) :
    (∀ asked password, ConnectionStore.getPassword (some asked) s = some password →
      ∃ record ∈ s.connections.history, record.id = asked.id ∧ StoredFor s.connections record password) ∧
    ∀ draft host port user password, truthy draft.password = false →
      (KesshHost.openSession draft s).2 =
        .native [KesshHost.configureKeepalive s, .openSessionAsync host port user password] → password ≠ [] →
      ∃ record ∈ s.connections.history, draft.editingId = some (.int record.id) ∧
        StoredFor s.connections record password := by
  have start : Bound (initialStores clock appStorage).connections := fun _ member => absurd member (by simp [initialStores])
  obtain ⟨invariant, bound⟩ := run_invariant (Step digest) _ (step_bound digest) _ calls s
    ⟨ConnectionStore.initial_invariant, start⟩ run
  refine ⟨fun asked password stored => ?_, fun draft host port user password untyped sent present => ?_⟩
  · have known := (invariant.stored asked.id password stored).2
    obtain ⟨record, member, same⟩ := List.mem_map.mp known
    exact ⟨record, member, same, bound record member password (same ▸ stored)⟩
  · have requests := HostReply.native.inj sent
    have resolved : KesshHost.resolvePassword draft s = password := by
      simp only [List.cons.injEq, NativeRequest.openSessionAsync.injEq, true_and, and_true] at requests
      exact requests.2.2.2
    obtain ⟨record, member, named, stored⟩ := resolvePassword_stored draft s password untyped resolved present
    exact ⟨record, member, named, bound record member password stored⟩

-- The user lets passwords be stored and saves a host with one.
def savedWithPassword : List HostCall :=
  [.setSavePassword true,
   .addConnection { host := js "home", port := .text (js "22"), username := js "root", password := some (js "secret") }]

-- The record is then edited, and its endpoint is what it was.
def editedInPlace : ConnectionDraft :=
  { host := js " home", port := .text (js "22"), username := js "root", isEditing := some true, editingId := some (.int 1) }

theorem stored_passwords_bound_saved :
    let s := states (KesshHost.perform id) (initialStores noon { available := true })
      (savedWithPassword ++ [.addConnection editedInPlace])
    ∃ record ∈ s.connections.history, record.id = 1 ∧ StoredFor s.connections record (js "secret") := by
  intro s
  let first := (KesshHost.perform id (initialStores noon { available := true }) (HostCall.setSavePassword true)).1
  let saved := states (KesshHost.perform id) (initialStores noon { available := true }) savedWithPassword
  have run : Run (Step id) (initialStores noon { available := true }) (savedWithPassword ++ [.addConnection editedInPlace]) s := by
    have allow : Step id (initialStores noon { available := true }) (.setSavePassword true) first :=
      ⟨fun _ same => absurd same (by simp), rfl⟩
    have save : Run (Step id) (initialStores noon { available := true }) savedWithPassword saved := by
      refine run_trans (Step id) _ first saved [_] [_] (run_single _ _ _ _ allow) (run_single _ _ _ _ ⟨?_, rfl⟩)
      intro draft _ port existing _ found
      have none : first.connections.history = [] := by decide
      obtain ⟨_, _, front, back, split, _⟩ := ConnectionStore.existingRecord_some draft _ existing found
      exact absurd (none.symm.trans split) (by simp)
    refine run_trans (Step id) _ saved s _ [_] save (run_single _ _ _ _ ⟨?_, rfl⟩)
    rintro draft ⟨⟩ port existing valid found _
    have known : (existingRecord editedInPlace saved.connections.history).map
        (fun record => (record.host, record.port, record.username)) = some (js "home", 22, js "root") := by decide
    rw [found] at known
    simp only [Option.map_some, Option.some.injEq, Prod.mk.injEq] at known
    have parsed : ConnectionStore.parsePort editedInPlace.port.orDefault = .ok (some 22) := by decide
    obtain rfl : 22 = port := Option.some.inj (Except.ok.inj (parsed.symm.trans valid.port_parsed))
    exact .inl ⟨known.1.trans (by decide), known.2.1, known.2.2⟩
  let asked : ConnectionRecord :=
    { id := 1, name := [], host := [], port := 0, username := [], authType := .password, time := [] }
  have stored : ConnectionStore.getPassword (some asked) s = some (js "secret") := by decide
  exact (stored_passwords_bound id noon { available := true } _ s run).1 asked _ stored

-- The host is then edited to another one without a password, and the password goes there.
theorem edited_host_gets_password :
    let edited := HostCall.addConnection
      { host := js "elsewhere", port := .text (js "22"), username := js "root", isEditing := some true,
        editingId := some (.int 1) }
    let s := states (KesshHost.perform id) (initialStores noon { available := true }) (savedWithPassword ++ [edited])
    let opened : ConnectionDraft :=
      { host := js "elsewhere", port := .text (js "22"), username := js "root", editingId := some (.int 1) }
    (KesshHost.openSession opened s).2 =
      .native [KesshHost.configureKeepalive s, .openSessionAsync (js "elsewhere") 22 (js "root") (js "secret")] ∧
    ¬ ∃ record ∈ s.connections.history, record.id = 1 ∧ StoredFor s.connections record (js "secret") := by
  intro edited s opened
  have now : s.connections.history.map (fun record => (record.id, record.host)) = [(1, js "elsewhere")] := by decide
  have then' : s.connections.saved.map (fun entry => entry.records.map (·.host)) = [[js "home"]] := by decide
  refine ⟨by decide, ?_⟩
  rintro ⟨record, member, _, entry, recorded, _, _, earlier, known, _, same⟩
  have present : (record.id, record.host) ∈ [(1, js "elsewhere")] := now ▸ List.mem_map_of_mem member
  have before : entry.records.map (·.host) ∈ [[js "home"]] := then' ▸ List.mem_map_of_mem recorded
  have host : earlier.host ∈ entry.records.map (·.host) := List.mem_map_of_mem known
  rw [List.mem_singleton.mp before, List.mem_singleton] at host
  rw [List.mem_singleton, Prod.mk.injEq] at present
  have equal := host.symm.trans (same.host.trans present.2)
  revert equal
  decide

end PasswordBinding

end Kessh
