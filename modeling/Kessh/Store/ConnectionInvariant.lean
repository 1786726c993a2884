import Kessh.Lib.Labelled
import Kessh.Store.Connections

set_option autoImplicit false

namespace Kessh

open Ecma Labelled

namespace ConnectionStore

structure WellFormedRecord (record : ConnectionRecord) : Prop where
  host_present : record.host ≠ []
  host_trimmed : trim record.host = record.host
  host_ordinary : ∀ unit ∈ record.host, isSpace unit = false
  username_present : record.username ≠ []
  username_trimmed : trim record.username = record.username
  port_bounds : 1 ≤ record.port ∧ record.port ≤ 65535
  name_shown : record.name = record.username ++ js "@" ++ record.host ++ js ":" ++ decimal record.port

def ids (history : List ConnectionRecord) : List Nat := history.map (·.id)

structure Invariant (store : ConnectionStore) : Prop where
  seq_positive : 1 ≤ store.seq
  descending : (ids store.history).Pairwise fun newer older => older < newer
  issued : ∀ id ∈ ids store.history, 1 ≤ id ∧ id ≤ store.seq - 1
  wellFormed : ∀ record ∈ store.history, WellFormedRecord record
  stored : ∀ id password, store.passwords id = some password → password ≠ [] ∧ id ∈ ids store.history

theorem ids_nodup (store : ConnectionStore) (invariant : Invariant store) : (ids store.history).Nodup :=
  invariant.descending.imp fun less => Nat.ne_of_gt less

theorem initial_invariant : Invariant {} :=
  ⟨Nat.le_refl 1, .nil, fun _ member => absurd member (by simp [ids]), fun _ member => absurd member (by simp),
    fun _ _ present => absurd present (by simp)⟩

theorem mem_ids (record : ConnectionRecord) (history : List ConnectionRecord) (member : record ∈ history) :
    record.id ∈ ids history := List.mem_map_of_mem member

theorem writeInternal_ids (record : ConnectionRecord) (history : List ConnectionRecord) :
    ids (writeInternal record history) = ids history := by
  induction history with
  | nil => rfl
  | cons first rest ih =>
      by_cases same : first.id = record.id
      · rw [writeInternal, if_pos same]
        simp [ids, same]
      · rw [writeInternal, if_neg same]
        exact congrArg (first.id :: ·) ih

theorem mem_writeInternal (record other : ConnectionRecord) (history : List ConnectionRecord)
    (member : other ∈ writeInternal record history) : other = record ∨ other ∈ history := by
  induction history with
  | nil => exact absurd member (by simp [writeInternal])
  | cons first rest ih =>
      by_cases same : first.id = record.id
      · rw [writeInternal, if_pos same] at member
        rcases List.mem_cons.mp member with rfl | tail
        · exact .inl rfl
        · exact .inr (List.mem_cons_of_mem _ tail)
      · rw [writeInternal, if_neg same] at member
        rcases List.mem_cons.mp member with rfl | tail
        · exact .inr (List.mem_cons_self)
        · exact (ih tail).imp_right (List.mem_cons_of_mem _)

theorem recordFor_wellFormed (draft : ConnectionDraft) (port : Nat) (authType : AuthType) (id : Nat) (time : JsString)
    (valid : Valid draft port) : WellFormedRecord (recordFor draft port authType id time) where
  host_present := valid.host_present
  host_trimmed := trim_trim draft.host
  host_ordinary := valid.host_ordinary
  username_present := valid.username_present
  username_trimmed := trim_trim draft.username
  port_bounds := valid_bounds draft port valid
  name_shown := rfl

theorem addFromDraft_invariant (draft : ConnectionDraft) (authType : AuthType) (s : Stores)
    (invariant : Invariant s.connections) : Invariant (addFromDraft draft authType s).2.connections := by
  rcases addFromDraft_cases draft authType s with
    ⟨_, _, same⟩ | ⟨port, time, valid, ⟨existing, _, _, after⟩ | ⟨_, _, after⟩⟩
  · rw [same]
    exact invariant
  · rw [after]
    have kept := writeInternal_ids (recordFor draft port authType existing.id time) s.connections.history
    constructor
    · exact invariant.seq_positive
    · rw [kept]
      exact invariant.descending
    · rw [kept]
      exact invariant.issued
    · intro record member
      rcases mem_writeInternal _ record _ member with rfl | old
      · exact recordFor_wellFormed draft port authType existing.id time valid
      · exact invariant.wellFormed record old
    · rw [kept]
      exact invariant.stored
  · rw [after]
    have positive := invariant.seq_positive
    constructor
    · exact Nat.le_add_left 1 _
    · refine List.pairwise_cons.mpr ⟨fun id member => ?_, invariant.descending⟩
      have bounds := invariant.issued id member
      simp only [recordFor]
      omega
    · intro id member
      rcases List.mem_cons.mp member with rfl | old
      · exact ⟨positive, Nat.le_refl _⟩
      · have bounds := invariant.issued id old
        simp only
        omega
    · intro record member
      rcases List.mem_cons.mp member with rfl | old
      · exact recordFor_wellFormed draft port authType s.connections.seq time valid
      · exact invariant.wellFormed record old
    · intro id password present
      obtain ⟨nonempty, known⟩ := invariant.stored id password present
      exact ⟨nonempty, List.mem_cons_of_mem _ known⟩

theorem addFromDraft_known (draft : ConnectionDraft) (authType : AuthType) (s : Stores) :
    (∀ id ∈ ids s.connections.history, id ∈ ids (addFromDraft draft authType s).2.connections.history) ∧
      ∀ record, (addFromDraft draft authType s).1 = .ok record →
        record ∈ (addFromDraft draft authType s).2.connections.history := by
  rcases addFromDraft_cases draft authType s with
    ⟨_, _, same⟩ | ⟨port, time, _, ⟨existing, found, result, after⟩ | ⟨_, result, after⟩⟩
  · rw [same]
    exact ⟨fun _ member => member, fun _ returned => absurd returned (by simp)⟩
  · rw [after, result]
    refine ⟨fun id member => ?_, fun record returned => ?_⟩
    · rwa [writeInternal_ids]
    · obtain rfl := Except.ok.inj returned
      obtain ⟨_, _, front, back, split, before⟩ := existingRecord_some draft _ existing found
      rw [split, writeInternal_split (recordFor draft port authType existing.id time) existing front back rfl before]
      simp
  · rw [after, result]
    refine ⟨fun id member => List.mem_cons_of_mem _ member, fun record returned => ?_⟩
    obtain rfl := Except.ok.inj returned
    exact List.mem_cons_self

theorem savePassword_invariant (record : ConnectionRecord) (password : JsString) (s : Stores)
    (known : record.id ∈ ids s.connections.history) (invariant : Invariant s.connections) :
    Invariant (savePassword record password s).connections := by
  by_cases empty : password = []
  · subst empty
    rw [savePassword_empty]
    exact invariant
  · rw [savePassword_saves record password s empty]
    refine ⟨invariant.seq_positive, invariant.descending, invariant.issued, invariant.wellFormed, ?_⟩
    intro id stored present
    by_cases same : id = record.id
    · simp only [if_pos same, Option.some.injEq] at present
      exact ⟨present ▸ empty, same ▸ known⟩
    · simp only [if_neg same] at present
      exact invariant.stored id stored present

theorem getById_known (id : JsNumber) (s : Stores) (record : ConnectionRecord) (found : getById id s = some record) :
    record.id ∈ ids s.connections.history :=
  mem_ids record _ (findInternal_id id _ record found).2

-- The operations that read or write the store; `handed` are the records callers have got from it.
inductive StoreCall where
  | addFromDraft (draft : ConnectionDraft) (authType : AuthType)
  | savePassword (record : ConnectionRecord) (password : JsString)
  | getPassword (record : Option ConnectionRecord)
  | getById (id : JsNumber)
  | list

structure Holding where
  stores : Stores
  handed : List ConnectionRecord

def StoreCall.perform : StoreCall → Holding → Holding
  | .addFromDraft draft authType, s =>
      let added := ConnectionStore.addFromDraft draft authType s.stores
      ⟨added.2, added.1.toOption.toList ++ s.handed⟩
  | .savePassword record password, s => { s with stores := ConnectionStore.savePassword record password s.stores }
  | .getPassword _, s => s
  | .getById id, s => { s with handed := (ConnectionStore.getById id s.stores).toList ++ s.handed }
  | .list, s => { s with handed := ConnectionStore.list s.stores ++ s.handed }

-- A password is saved for a record the store has handed out: no caller builds one itself.
def Performs (s : Holding) (call : StoreCall) (next : Holding) : Prop :=
  (∀ record password, call = .savePassword record password → record ∈ s.handed) ∧ next = call.perform s

def Held (s : Holding) : Prop :=
  Invariant s.stores.connections ∧ ∀ record ∈ s.handed, record.id ∈ ids s.stores.connections.history

theorem performs_held (s : Holding) (call : StoreCall) (next : Holding) (held : Held s) (move : Performs s call next) :
    Held next := by
  obtain ⟨caller, rfl⟩ := move
  obtain ⟨invariant, known⟩ := held
  cases call with
  | addFromDraft draft authType =>
      refine ⟨addFromDraft_invariant draft authType s.stores invariant, fun record member => ?_⟩
      obtain ⟨kept, fresh⟩ := addFromDraft_known draft authType s.stores
      rcases List.mem_append.mp member with new | old
      · cases result : (ConnectionStore.addFromDraft draft authType s.stores).1 with
        | error problem =>
            rw [result] at new
            exact absurd new (by simp [Except.toOption])
        | ok added =>
            rw [result] at new
            obtain rfl : record = added := by simpa [Except.toOption] using new
            exact mem_ids record _ (fresh record result)
      · exact kept _ (known record old)
  | savePassword record password =>
      have member := known record (caller record password rfl)
      refine ⟨savePassword_invariant record password s.stores member invariant, fun other held => ?_⟩
      have same : (ConnectionStore.savePassword record password s.stores).connections.history =
          s.stores.connections.history := by
        unfold ConnectionStore.savePassword
        split <;> rfl
      simpa only [StoreCall.perform, same] using known other held
  | getPassword record => exact ⟨invariant, known⟩
  | getById id =>
      refine ⟨invariant, fun record member => ?_⟩
      rcases List.mem_append.mp member with new | old
      · exact getById_known id s.stores record (by simpa using new)
      · exact known record old
  | list =>
      refine ⟨invariant, fun record member => ?_⟩
      rcases List.mem_append.mp member with new | old
      · exact mem_ids record _ new
      · exact known record old

-- Only the record that an editing draft names is rewritten, where it stands.
def RewritesNamed (draft : ConnectionDraft) (result : Except JsError ConnectionRecord) (before after : ConnectionStore) :
    Prop :=
  ∃ old record front back, draft.isEditing = some true ∧ draft.editingId = some (.int old.id) ∧
    before.history = front ++ old :: back ∧ (∀ other ∈ front ++ back, other.id ≠ old.id) ∧ record.id = old.id ∧
    result = .ok record ∧ after = { before with history := front ++ record :: back }

-- The draft names no record, and one is prepended with the next id.
def PrependsNext (draft : ConnectionDraft) (result : Except JsError ConnectionRecord) (before after : ConnectionStore) :
    Prop :=
  ∃ record, existingRecord draft before.history = none ∧ record.id = before.seq ∧ result = .ok record ∧
    after = { before with seq := before.seq + 1, history := record :: before.history }

theorem addFromDraft_rewrites_or_prepends (draft : ConnectionDraft) (authType : AuthType) (s : Stores)
    (invariant : Invariant s.connections) (passes : reported (validateDraft draft) = none) :
    RewritesNamed draft (addFromDraft draft authType s).1 s.connections (addFromDraft draft authType s).2.connections ∨
      PrependsNext draft (addFromDraft draft authType s).1 s.connections
        (addFromDraft draft authType s).2.connections := by
  rcases addFromDraft_cases draft authType s with
    ⟨problem, reports, _⟩ | ⟨port, time, _, ⟨existing, found, result, after⟩ | ⟨absent, result, after⟩⟩
  · exact absurd (passes.symm.trans reports) (by simp)
  · left
    obtain ⟨editing, named, front, back, split, before⟩ := existingRecord_some draft _ existing found
    refine ⟨existing, recordFor draft port authType existing.id time, front, back, editing, named, split, ?_, rfl,
      result, ?_⟩
    · have distinct := ids_nodup s.connections invariant
      rw [split, ids, List.map_append, List.map_cons, List.perm_middle.nodup_iff, ← List.map_append] at distinct
      intro other member same
      exact (List.nodup_cons.mp distinct).1 (same ▸ List.mem_map_of_mem member)
    · rw [after, split, writeInternal_split (recordFor draft port authType existing.id time) existing front back rfl
        before]
  · exact .inr ⟨_, absent, rfl, result, after⟩

/-- The store keeps its invariant in every run; addFromDraft throws what validation reports and
then changes nothing, or rewrites the one record the draft names, or prepends the next one. -/
theorem connection_store_invariant (clock : Clock) (appStorage : AppStorage) (calls : List StoreCall) (s : Holding)
    (run : Run Performs ⟨initialStores clock appStorage, []⟩ calls s) :
    Invariant s.stores.connections ∧ (ids s.stores.connections.history).Nodup ∧
      ∀ draft authType,
        (∀ problem, (addFromDraft draft authType s.stores).1 = .error problem ↔
          reported (validateDraft draft) = some problem) ∧
        (∀ problem, reported (validateDraft draft) = some problem →
          (addFromDraft draft authType s.stores).2 = s.stores) ∧
        (reported (validateDraft draft) = none →
          RewritesNamed draft (addFromDraft draft authType s.stores).1 s.stores.connections
              (addFromDraft draft authType s.stores).2.connections ∨
            PrependsNext draft (addFromDraft draft authType s.stores).1 s.stores.connections
              (addFromDraft draft authType s.stores).2.connections) := by
  have held : Held s := run_invariant Performs Held performs_held _ calls s
    ⟨initial_invariant, fun _ member => absurd member (by simp)⟩ run
  refine ⟨held.1, ids_nodup _ held.1, fun draft authType => ⟨?_, ?_, ?_⟩⟩
  · exact addFromDraft_error draft authType s.stores
  · intro problem reports
    rw [addFromDraft_throws draft authType s.stores problem reports]
  · exact addFromDraft_rewrites_or_prepends draft authType s.stores held.1

theorem connection_store_invariant_saved :
    let draft : ConnectionDraft := { host := js " 10.0.0.1", port := .text [], username := js "root" }
    let record := recordFor draft 22 .password 1 (js "Today 12:00")
    let added := (StoreCall.addFromDraft draft .password).perform ⟨initialStores noon { available := true }, []⟩
    let saved := (StoreCall.savePassword record (js "secret")).perform added
    Invariant saved.stores.connections ∧ (ids saved.stores.connections.history).Nodup := by
  intro draft record added saved
  have addRun : Run Performs ⟨initialStores noon { available := true }, []⟩ [.addFromDraft draft .password] added :=
    run_single _ _ _ _ ⟨fun _ _ same => absurd same (by simp), rfl⟩
  have handed : record ∈ added.handed := by decide
  have saveRun : Run Performs ⟨initialStores noon { available := true }, []⟩
      ([.addFromDraft draft .password] ++ [.savePassword record (js "secret")]) saved := by
    refine .snoc _ _ _ _ addRun ⟨fun asked password same => ?_, rfl⟩
    obtain ⟨rfl, _⟩ := StoreCall.savePassword.inj same
    exact handed
  have kept := connection_store_invariant noon { available := true } _ saved saveRun
  exact ⟨kept.1, kept.2.1⟩

end ConnectionStore

end Kessh
