import Kessh.Host.Catalogue

set_option autoImplicit false

namespace Kessh

open Ecma Labelled

open Registry (Keeps)

-- The stores stand for a catalogue: each list is the entries of its registry, and AppStorage may hold anything.
structure Represents (c : Catalogue) (s : Stores) : Prop where
  clock : s.clock = c.clock
  logs : s.logs = c.logs
  settings : s.settings = c.settings
  connections : Keeps ConnectionRecord.id c.connections s.connections.seq s.connections.history.reverse
  passwords : s.connections.passwords = c.passwords
  snippets : Keeps Snippet.id c.snippets s.snippets.seq s.snippets.snippets
  keys : Keeps ImportedKey.id c.keys s.keys.seq s.keys.keys.reverse

namespace Represents

theorem standard_sound : Registry.Sound Snippet.id Catalogue.standardSnippets := by
  unfold Catalogue.standardSnippets
  refine Registry.add_sound _ _ _ (Registry.add_sound _ _ _ (Registry.add_sound _ _ _ (Registry.empty_sound _ 0) ?_) ?_) ?_
  · rfl
  · rfl
  · rfl

theorem initial (clock : Clock) (appStorage : AppStorage) :
    Represents (Catalogue.initial clock) (initialStores clock appStorage) where
  clock := rfl
  logs := rfl
  settings := rfl
  connections := ⟨Registry.empty_sound _ 1, rfl, rfl⟩
  passwords := rfl
  snippets := ⟨standard_sound, rfl, rfl⟩
  keys := ⟨Registry.empty_sound _ 1, rfl, rfl⟩

theorem logged (message : JsString) (c : Catalogue) (s : Stores) (represents : Represents c s) :
    Represents (Catalogue.log message c) (Logger.log message s) where
  clock := congrArg Clock.advance represents.clock
  logs := by
    have same : (Logger.log message s).logs = Catalogue.timed s.clock message :: s.logs := rfl
    rw [same, represents.clock, represents.logs]
    rfl
  settings := represents.settings
  connections := represents.connections
  passwords := represents.passwords
  snippets := represents.snippets
  keys := represents.keys

theorem newest_connections (c : Catalogue) (s : Stores) (represents : Represents c s) :
    s.connections.history = c.connections.newest := by
  rw [Registry.newest, ← represents.connections.listed, List.reverse_reverse]

theorem newest_keys (c : Catalogue) (s : Stores) (represents : Represents c s) : s.keys.keys = c.keys.newest := by
  rw [Registry.newest, ← represents.keys.listed, List.reverse_reverse]

theorem found (c : Catalogue) (s : Stores) (represents : Represents c s) (id : JsNumber) :
    ConnectionStore.getById id s = Catalogue.under id c.connections := by
  have natural : ∀ n : Nat, ConnectionStore.findInternal (.int n) s.connections.history = c.connections.entry n := by
    intro n
    have predicate : (fun record : ConnectionRecord => JsNumber.int record.id == .int n) = fun record => record.id == n := by
      funext record
      rw [Bool.eq_iff_iff, beq_iff_eq, beq_iff_eq, JsNumber.int.injEq, Int.natCast_inj]
    rw [ConnectionStore.findInternal, predicate]
    exact Registry.keeps_find c.connections _ _ s.connections.history represents.connections (fun _ => List.mem_reverse.symm) n
  unfold ConnectionStore.getById Catalogue.under
  cases id with
  | int n =>
      dsimp only
      by_cases natured : 0 ≤ n
      · rw [if_pos natured, ← natural, Int.toNat_of_nonneg natured]
      · rw [if_neg natured, ConnectionStore.findInternal, List.find?_eq_none]
        intro record _ same
        rw [beq_iff_eq, JsNumber.int.injEq] at same
        omega
  | other text =>
      rw [ConnectionStore.findInternal, List.find?_eq_none]
      intro record _ same
      rw [beq_iff_eq] at same
      exact nomatch same

theorem edited_existing (c : Catalogue) (s : Stores) (represents : Represents c s) (draft : ConnectionDraft) :
    ConnectionStore.existingRecord draft s.connections.history = Catalogue.edited draft c := by
  unfold ConnectionStore.existingRecord Catalogue.edited
  split
  · exact Option.bind_congr fun id _ => found c s represents id
  · rfl

theorem writeInternal_map (record : ConnectionRecord) (history : List ConnectionRecord)
    (distinct : (history.map ConnectionRecord.id).Nodup) :
    ConnectionStore.writeInternal record history = history.map fun other => if other.id = record.id then record else other := by
  induction history with
  | nil => rfl
  | cons first rest ih =>
      obtain ⟨once, distinctRest⟩ := List.nodup_cons.mp distinct
      rw [ConnectionStore.writeInternal, List.map_cons]
      by_cases same : first.id = record.id
      · rw [if_pos same, if_pos same]
        have others : rest.map (fun other => if other.id = record.id then record else other) = rest :=
          (List.map_congr_left fun other member => if_neg fun equal : other.id = record.id =>
            once (same.trans equal.symm ▸ List.mem_map_of_mem member)).trans (List.map_id' rest)
        rw [others]
      · rw [if_neg same, if_neg same, ih distinctRest]

theorem connection_ids (c : Catalogue) (s : Stores) (represents : Represents c s) :
    (s.connections.history.map ConnectionRecord.id).Nodup := by
  have ordered := Registry.oldest_ids _ c.connections represents.connections.sound
  rw [← represents.connections.listed, List.pairwise_reverse] at ordered
  exact List.pairwise_map.mpr (ordered.imp fun less => Nat.ne_of_gt less)

theorem label (c : Catalogue) (s : Stores) (represents : Represents c s) :
    ConnectionStore.nowLabel s = (Catalogue.today c.clock, { s with clock := c.clock.advance }) := by
  unfold ConnectionStore.nowLabel Catalogue.today
  rw [represents.clock]

theorem filed (draft : ConnectionDraft) (authType : AuthType) (c : Catalogue) (s : Stores) (represents : Represents c s) :
    (ConnectionStore.addFromDraft draft authType s).1 = (Catalogue.file draft authType c).1 ∧
      Represents (Catalogue.file draft authType c).2 (ConnectionStore.addFromDraft draft authType s).2 := by
  cases reports : ConnectionStore.reported (ConnectionStore.validateDraft draft) with
  | some problem =>
      have checked := ConnectionStore.checkedDraft_error draft problem reports
      rw [ConnectionStore.addFromDraft_throws draft authType s problem reports, Catalogue.file, checked]
      exact ⟨rfl, represents⟩
  | none =>
      obtain ⟨port, valid⟩ := (ConnectionStore.reported_none draft).mp reports
      have checked := ConnectionStore.checkedDraft_ok draft port valid
      have edited : ∀ host username text, ConnectionStore.existingRecord { draft with host, port := .text text, username }
          s.connections.history = Catalogue.edited draft c := fun _ _ _ => edited_existing c s represents draft
      have named := edited_existing c s represents draft
      unfold ConnectionStore.addFromDraft Catalogue.file
      rw [checked]
      dsimp only
      rw [label c s represents]
      dsimp only
      rw [edited]
      cases found : Catalogue.edited draft c with
      | some old =>
          dsimp only
          refine ⟨rfl, logged _ _ _ ⟨rfl, represents.logs, represents.settings, ?_, represents.passwords, represents.snippets,
            represents.keys⟩⟩
          have present : c.connections.entry old.id = some old := by
            rw [found] at named
            obtain ⟨_, _, front, back, split, _⟩ := ConnectionStore.existingRecord_some draft _ old named
            have member : old ∈ s.connections.history.reverse := by
              rw [List.mem_reverse, split]
              simp
            rw [represents.connections.listed] at member
            exact (Registry.mem_oldest _ c.connections represents.connections.sound old).mp member
          let record := ConnectionStore.recordFor draft port authType old.id (Catalogue.today c.clock)
          have written := Registry.keeps_write old.id record old c.connections _ _ represents.connections rfl present
          have rewritten : ConnectionStore.writeInternal record s.connections.history =
              s.connections.history.map fun other => if other.id = old.id then record else other :=
            writeInternal_map record s.connections.history (connection_ids c s represents)
          rw [List.map_reverse, ← rewritten] at written
          exact written
      | none =>
          dsimp only
          rw [represents.connections.counted]
          refine ⟨rfl, logged _ _ _ ⟨rfl, represents.logs, represents.settings, ?_, represents.passwords, represents.snippets,
            represents.keys⟩⟩
          have added := Registry.keeps_add (fun id => ConnectionStore.recordFor draft port authType id (Catalogue.today c.clock))
            c.connections _ _ represents.connections fun _ => rfl
          rw [← List.reverse_cons] at added
          rw [represents.connections.counted] at added
          exact added

theorem kept (record : ConnectionRecord) (password : JsString) (c : Catalogue) (s : Stores) (represents : Represents c s) :
    Represents (Catalogue.keep record.id password c) (ConnectionStore.savePassword record password s) := by
  unfold Catalogue.keep
  by_cases empty : password = []
  · subst empty
    exact represents
  · have some : password.isEmpty = false := by simpa using empty
    rw [ConnectionStore.savePassword, if_pos (List.length_pos_iff.mpr empty), some, if_neg Bool.false_ne_true]
    refine ⟨represents.clock, represents.logs, represents.settings, represents.connections, ?_, represents.snippets,
      represents.keys⟩
    funext other
    dsimp only
    rw [represents.passwords]

theorem changed (change : SettingsStore → SettingsStore) (message : JsString) (appStorage : AppStorage) (c : Catalogue)
    (s : Stores) (represents : Represents c s) :
    Represents (Catalogue.setting change message c)
      (Logger.log message { s with settings := change s.settings, appStorage }) :=
  logged message _ _ ⟨represents.clock, represents.logs, congrArg change represents.settings, represents.connections,
    represents.passwords, represents.snippets, represents.keys⟩

def Alike (part : Catalogue → Catalogue) (change : Stores → Stores) : Prop :=
  ∀ c s, Represents c s → Represents (part c) (change s)

theorem optional_alike {α : Type} (value : Option α) (part : α → Catalogue → Catalogue) (change : α → Stores → Stores)
    (alike : ∀ v, Alike (part v) (change v)) : List.Forall₂ Alike (value.map part).toList (value.map change).toList := by
  cases value with
  | none => exact .nil
  | some v => exact .cons (alike v) .nil

theorem sessionSettings_alike (patch : SessionSettingsPatch) :
    List.Forall₂ Alike (Catalogue.sessionSettings patch) (KesshHost.sessionSettingsParts patch) := by
  refine List.rel_append (List.rel_append (List.rel_append ?_ ?_) ?_) ?_
  · exact optional_alike _ _ _ fun v c s represents => changed _ _ s.appStorage c s represents
  · exact optional_alike _ _ _ fun v c s represents => changed _ _ s.appStorage c s represents
  · exact optional_alike _ _ _ fun v c s represents => changed _ _ s.appStorage c s represents
  · exact optional_alike _ _ _ fun v c s represents => changed _ _ s.appStorage c s represents

theorem folded (parts : List (Catalogue → Catalogue)) (changes : List (Stores → Stores))
    (alike : List.Forall₂ Alike parts changes) (c : Catalogue) (s : Stores) (represents : Represents c s) :
    Represents (parts.foldl (fun c part => part c) c) (changes.foldl (fun s change => change s) s) := by
  induction alike generalizing c s with
  | nil => exact represents
  | cons first _ ih => exact ih _ _ (first c s represents)

theorem keepalive_configured (c : Catalogue) (s : Stores) (represents : Represents c s) :
    KesshHost.configureKeepalive s = Catalogue.keepalive c.settings := by
  unfold KesshHost.configureKeepalive Catalogue.keepalive
  rw [represents.settings]

theorem password_kept (c : Catalogue) (s : Stores) (represents : Represents c s) (id : JsNumber) :
    (((ConnectionStore.getById id s).bind fun record => ConnectionStore.getPassword (some record) s).filter
      fun password => !password.isEmpty) = Catalogue.password id c := by
  unfold Catalogue.password ConnectionStore.getPassword
  rw [found c s represents]
  dsimp only [Option.bind_some]
  rw [represents.passwords]

theorem truthy_filter (text : Option JsString) : truthy text = (text.filter fun value => !value.isEmpty).isSome := by
  cases text with
  | none => rfl
  | some value =>
      rw [truthy, Option.any_some, Option.filter_some]
      cases value.isEmpty <;> rfl

theorem session_opened (draft : ConnectionDraft) (c : Catalogue) (s : Stores) (represents : Represents c s) :
    KesshHost.openSession draft s = (s, Catalogue.openSession draft c) := by
  have resolved : KesshHost.resolvePassword draft s = Catalogue.passwordFor draft c := by
    unfold KesshHost.resolvePassword Catalogue.passwordFor
    split
    · rfl
    · cases draft.editingId with
      | none => rfl
      | some id =>
          rw [Option.bind_some, ← password_kept c s represents]
          dsimp only
          rw [truthy_filter]
          cases (ConnectionStore.getById id s).bind fun record => ConnectionStore.getPassword (some record) s with
          | none => rfl
          | some stored =>
              rw [Option.filter_some]
              cases stored.isEmpty <;> rfl
  unfold KesshHost.openSession Catalogue.openSession
  rw [resolved, keepalive_configured c s represents]

theorem connection_added (draft : ConnectionDraft) (c : Catalogue) (s : Stores) (represents : Represents c s) :
    (KesshHost.addConnection draft s).2 = (Catalogue.addConnection draft c).2 ∧
      Represents (Catalogue.addConnection draft c).1 (KesshHost.addConnection draft s).1 := by
  have answers := filed draft (if truthy draft.privateKey then .key else .password) c s represents
  have settings := ConnectionStore.addFromDraft_settings draft (if truthy draft.privateKey then .key else .password) s
  unfold Catalogue.addConnection
  cases reports : ConnectionStore.reported (ConnectionStore.validateDraft draft) with
  | some problem =>
      rcases KesshHost.addConnection_cases draft s with ⟨other, thrown, answered⟩ | ⟨_, _, _, passes, _⟩
      · obtain rfl : problem = other := Option.some.inj (reports.symm.trans thrown)
        rw [answered, Catalogue.file, ConnectionStore.checkedDraft_error draft problem reports]
        exact ⟨rfl, represents⟩
      · exact absurd (reports.symm.trans passes) (by simp)
  | none =>
      have passes : ConnectionStore.validateDraft draft = .ok none :=
        (ConnectionStore.validateDraft_none draft).mpr ((ConnectionStore.reported_none draft).mp reports)
      have quiet : truthy (none : Option JsString) = false := rfl
      unfold KesshHost.addConnection
      rw [passes]
      dsimp only
      rw [quiet, if_neg Bool.false_ne_true]
      cases added : ConnectionStore.addFromDraft draft (if truthy draft.privateKey then .key else .password) s with
      | mk result after =>
          cases filing : Catalogue.file draft (if truthy draft.privateKey then .key else .password) c with
          | mk answer next =>
              rw [added, filing] at answers
              rw [added] at settings
              obtain ⟨same, represented⟩ := answers
              dsimp only at same settings represented
              subst same
              cases result with
              | error problem => exact ⟨rfl, represented⟩
              | ok record =>
                  dsimp only
                  rw [← represented.settings]
                  cases enabled : after.settings.savePasswordEnabled with
                  | false =>
                      rw [Bool.and_false, if_neg Bool.false_ne_true, if_neg Bool.false_ne_true]
                      exact ⟨rfl, represented⟩
                  | true =>
                      rw [Bool.and_true, if_pos rfl]
                      cases present : truthy draft.password with
                      | true =>
                          rw [if_pos rfl]
                          exact ⟨rfl, kept record _ next after represented⟩
                      | false =>
                          rw [if_neg Bool.false_ne_true]
                          have nothing : (draft.password.getD []).isEmpty = true := by
                            cases password : draft.password with
                            | none => rfl
                            | some value => simpa [truthy, password] using present
                          rw [Catalogue.keep, nothing, if_pos rfl]
                          exact ⟨rfl, represented⟩

theorem removed {α : Type} (idOf : α → Nat) (id : JsNumber) (r : Registry α) (seq : Nat) (entries : List α)
    (keeps : Keeps idOf r seq entries) :
    Keeps idOf (Catalogue.removeUnder id r) seq (entries.filter fun value => JsNumber.int (idOf value) != id) := by
  have nothing : (∀ n : Nat, id ≠ .int n) →
      entries.filter (fun value => JsNumber.int (idOf value) != id) = entries := fun other =>
    List.filter_eq_self.mpr fun value _ => by simpa using (other (idOf value)).symm
  unfold Catalogue.removeUnder
  cases id with
  | other text =>
      rw [nothing (by simp)]
      exact keeps
  | int n =>
      dsimp only
      by_cases natured : 0 ≤ n
      · rw [if_pos natured]
        have same : (fun value => JsNumber.int (idOf value) != .int n) = fun value => idOf value != n.toNat := by
          funext value
          rw [Bool.eq_iff_iff, bne_iff_ne, bne_iff_ne, ne_eq, ne_eq, JsNumber.int.injEq]
          omega
        rw [same]
        exact Registry.keeps_remove n.toNat r seq entries keeps
      · rw [if_neg natured, nothing fun k same => natured (by rw [JsNumber.int.inj same]; omega)]
        exact keeps

variable (digest : JsString → JsString)

theorem performed (call : HostCall) (c : Catalogue) (s : Stores) (represents : Represents c s) :
    (KesshHost.perform digest s call).2 = (Catalogue.perform digest c call).2 ∧
      Represents (Catalogue.perform digest c call).1 (KesshHost.perform digest s call).1 := by
  cases call with
  | getSettings =>
      refine ⟨?_, ?_⟩
      · simp only [KesshHost.perform, KesshHost.getSettings, SettingsStore.ensureInitialized_settings, represents.settings]
        rfl
      · simp only [KesshHost.perform, KesshHost.getSettings, SettingsStore.ensureInitialized]
        split
        · exact ⟨represents.clock, represents.logs, represents.settings, represents.connections, represents.passwords,
            represents.snippets, represents.keys⟩
        · exact represents
  | setDarkMode value =>
      refine ⟨rfl, ?_⟩
      simp only [KesshHost.perform, SettingsStore.setDarkMode]
      split
      · exact changed (fun t => { t with darkModeEnabled := value }) _ _ c s represents
      · exact changed (fun t => { t with darkModeEnabled := value }) _ s.appStorage c s represents
  | setSavePassword value =>
      refine ⟨rfl, ?_⟩
      simp only [KesshHost.perform, SettingsStore.setSavePassword]
      split
      · exact changed (fun t => { t with savePasswordEnabled := value }) _ _ c s represents
      · exact changed (fun t => { t with savePasswordEnabled := value }) _ s.appStorage c s represents
  | setSessionSettings patch =>
      have after := folded _ _ (sessionSettings_alike patch) c s represents
      exact ⟨congrArg (fun request => HostReply.native [request]) (keepalive_configured _ _ after), after⟩
  | listConnections => exact ⟨congrArg HostReply.records (newest_connections c s represents), represents⟩
  | addConnection draft => exact connection_added draft c s represents
  | savePassword recordId password =>
      simp only [KesshHost.perform, KesshHost.savePassword, Catalogue.perform, found c s represents]
      cases Catalogue.under recordId c.connections with
      | none => exact ⟨rfl, represents⟩
      | some record => exact ⟨rfl, kept record password c s represents⟩
  | hasPassword recordId =>
      have same := password_kept c s represents recordId
      simp only [KesshHost.perform, KesshHost.hasPassword, Catalogue.perform]
      rw [← same]
      cases ConnectionStore.getById recordId s with
      | none => exact ⟨rfl, represents⟩
      | some record => exact ⟨congrArg HostReply.flag (truthy_filter _), represents⟩
  | listSnippets => exact ⟨congrArg HostReply.snippets represents.snippets.listed, represents⟩
  | addSnippet title command =>
      have added := Registry.keeps_add (fun id => ({ id, title, command } : Snippet)) c.snippets _ _ represents.snippets
        fun _ => rfl
      refine ⟨?_, ⟨represents.clock, represents.logs, represents.settings, represents.connections, represents.passwords,
        added, represents.keys⟩⟩
      simp only [KesshHost.perform, KesshHost.addSnippet, SnippetStore.add, SnippetStore.list, List.getLast?_concat,
        Catalogue.perform, represents.snippets.counted]
  | removeSnippet id =>
      exact ⟨rfl, represents.clock, represents.logs, represents.settings, represents.connections, represents.passwords,
        removed Snippet.id id c.snippets _ _ represents.snippets, represents.keys⟩
  | listKeys =>
      refine ⟨?_, represents⟩
      rw [KesshHost.perform, Catalogue.perform, KeyStore.list, newest_keys c s represents]
  | importKey name content publicKey passphrase =>
      have added := Registry.keeps_add (Catalogue.importedKey digest name content publicKey passphrase) c.keys _ _
        represents.keys fun _ => rfl
      rw [← List.reverse_cons] at added
      have stored : Represents { c with keys := c.keys.add (Catalogue.importedKey digest name content publicKey passphrase) }
          { s with keys := { seq := s.keys.seq + 1,
                             keys := Catalogue.importedKey digest name content publicKey passphrase s.keys.seq :: s.keys.keys } } :=
        ⟨represents.clock, represents.logs, represents.settings, represents.connections, represents.passwords,
          represents.snippets, added⟩
      refine ⟨?_, logged (Catalogue.imported digest name content) _ _ stored⟩
      rw [Catalogue.perform, ← represents.keys.counted]
      rfl
  | removeKey id =>
      have without := removed ImportedKey.id id c.keys _ _ represents.keys
      rw [List.filter_reverse] at without
      exact ⟨rfl, represents.clock, represents.logs, represents.settings, represents.connections, represents.passwords,
        represents.snippets, without⟩
  | openSession draft =>
      simp only [KesshHost.perform, Catalogue.perform, session_opened draft c s represents]
      exact ⟨trivial, represents⟩
  | listLogs => exact ⟨congrArg HostReply.logs represents.logs, represents⟩
  | clearLogs =>
      exact ⟨rfl, represents.clock, rfl, represents.settings, represents.connections, represents.passwords,
        represents.snippets, represents.keys⟩

theorem stepped (before after : ConnectionStore.Holding) (call : AppCall) (c : Catalogue)
    (represents : Represents c before.stores) (move : AppStep digest before call after) :
    Represents (Catalogue.step digest c call) after.stores := by
  cases call with
  | host call =>
      obtain rfl := move
      exact (performed digest call c before.stores represents).2
  | store call =>
      obtain ⟨_, rfl⟩ := move
      cases call with
      | addFromDraft draft authType => exact (filed draft authType c before.stores represents).2
      | savePassword record password => exact kept record password c before.stores represents
      | getPassword record => exact represents
      | getById id => exact represents
      | list => exact represents

theorem reached (clock : Clock) (appStorage : AppStorage) (calls : List AppCall) (s : ConnectionStore.Holding)
    (run : Run (AppStep digest) ⟨initialStores clock appStorage, []⟩ calls s) :
    Represents (calls.foldl (Catalogue.step digest) (Catalogue.initial clock)) s.stores := by
  induction run with
  | nil => exact initial clock appStorage
  | snoc calls before after call _ move ih =>
      rw [List.foldl_append]
      exact stepped digest before after call _ ih move

end Represents

variable (digest : JsString → JsString)

/-- However the ArkTS pages and the bridge have used the stores, the bridge answers as the catalogue does that the
same calls have led to. -/
theorem bridge_refines_catalogue (clock : Clock) (appStorage : AppStorage) (calls : List AppCall)
    (s : ConnectionStore.Holding) (run : Run (AppStep digest) ⟨initialStores clock appStorage, []⟩ calls s)
    (call : HostCall) :
    (KesshHost.perform digest s.stores call).2 =
      (Catalogue.perform digest (calls.foldl (Catalogue.step digest) (Catalogue.initial clock)) call).2 :=
  (Represents.performed digest call _ _ (Represents.reached digest clock appStorage calls s run)).1

-- A record of the ArkTS pages, as the bridge lists it.
theorem bridge_refines_catalogue_added :
    let draft : ConnectionDraft := { host := js "a", port := .text (js "22"), username := js "u" }
    let added : ConnectionStore.Holding := (ConnectionStore.StoreCall.addFromDraft draft .password).perform
      ⟨initialStores noon { available := false }, []⟩
    (KesshHost.perform id added.stores .listConnections).2 =
      (Catalogue.perform id (Catalogue.step id (Catalogue.initial noon) (.store (.addFromDraft draft .password)))
        .listConnections).2 := by
  intro draft added
  have move : AppStep id ⟨initialStores noon { available := false }, []⟩ (.store (.addFromDraft draft .password)) added :=
    ⟨nofun, rfl⟩
  exact bridge_refines_catalogue id noon { available := false } [.store (.addFromDraft draft .password)] added
    (run_single _ _ _ _ move) .listConnections

open Registry (Retired)

theorem removeUnder_retired {α : Type} (key : JsNumber) (r : Registry α) (id : Nat) (retired : Retired r id) :
    Retired (Catalogue.removeUnder key r) id := by
  unfold Catalogue.removeUnder
  cases key with
  | other text => exact retired
  | int n =>
      dsimp only
      split
      · exact Registry.remove_retired id n.toNat r retired
      · exact retired

theorem file_collections (draft : ConnectionDraft) (authType : AuthType) (c : Catalogue) :
    (Catalogue.file draft authType c).2.snippets = c.snippets ∧ (Catalogue.file draft authType c).2.keys = c.keys := by
  unfold Catalogue.file
  split
  · exact ⟨rfl, rfl⟩
  · dsimp only
    split
    · exact ⟨rfl, rfl⟩
    · exact ⟨rfl, rfl⟩

theorem keep_collections (id : Nat) (password : JsString) (c : Catalogue) :
    (Catalogue.keep id password c).snippets = c.snippets ∧ (Catalogue.keep id password c).keys = c.keys := by
  unfold Catalogue.keep
  split
  · exact ⟨rfl, rfl⟩
  · exact ⟨rfl, rfl⟩

theorem addConnection_collections (draft : ConnectionDraft) (c : Catalogue) :
    (Catalogue.addConnection draft c).1.snippets = c.snippets ∧ (Catalogue.addConnection draft c).1.keys = c.keys := by
  have filing := file_collections draft (if truthy draft.privateKey then .key else .password) c
  unfold Catalogue.addConnection
  split
  case h_1 problem after filed =>
      rw [filed] at filing
      exact filing
  case h_2 record after filed =>
      rw [filed] at filing
      split
      · rw [(keep_collections _ _ after).1, (keep_collections _ _ after).2]
        exact filing
      · exact filing

theorem sessionSettings_collections (patch : SessionSettingsPatch) (c : Catalogue) :
    ((Catalogue.sessionSettings patch).foldl (fun c part => part c) c).snippets = c.snippets ∧
      ((Catalogue.sessionSettings patch).foldl (fun c part => part c) c).keys = c.keys := by
  rcases patch with ⟨interval, attempts, family, size⟩
  simp only [Catalogue.sessionSettings]
  cases interval <;> cases attempts <;> cases family <;> cases size <;> exact ⟨rfl, rfl⟩

theorem perform_retired (call : HostCall) (c : Catalogue) (id : Nat) :
    (Retired c.snippets id → Retired (Catalogue.perform digest c call).1.snippets id) ∧
      (Retired c.keys id → Retired (Catalogue.perform digest c call).1.keys id) := by
  cases call with
  | addSnippet title command => exact ⟨Registry.add_retired _ c.snippets id, fun retired => retired⟩
  | removeSnippet key => exact ⟨removeUnder_retired key c.snippets id, fun retired => retired⟩
  | importKey name content publicKey passphrase => exact ⟨fun retired => retired, Registry.add_retired _ c.keys id⟩
  | removeKey key => exact ⟨fun retired => retired, removeUnder_retired key c.keys id⟩
  | addConnection draft =>
      obtain ⟨snippets, keys⟩ := addConnection_collections draft c
      exact ⟨fun retired => snippets ▸ retired, fun retired => keys ▸ retired⟩
  | setSessionSettings patch =>
      obtain ⟨snippets, keys⟩ := sessionSettings_collections patch c
      exact ⟨fun retired => snippets.symm ▸ retired, fun retired => keys.symm ▸ retired⟩
  | savePassword recordId password =>
      simp only [Catalogue.perform]
      cases Catalogue.under recordId c.connections with
      | none => exact ⟨fun retired => retired, fun retired => retired⟩
      | some record =>
          obtain ⟨snippets, keys⟩ := keep_collections record.id password c
          exact ⟨fun retired => snippets.symm ▸ retired, fun retired => keys.symm ▸ retired⟩
  | getSettings | setDarkMode | setSavePassword | listConnections | hasPassword | listSnippets | listKeys | openSession
  | listLogs | clearLogs => exact ⟨fun retired => retired, fun retired => retired⟩

theorem step_retired (call : AppCall) (c : Catalogue) (id : Nat) :
    (Retired c.snippets id → Retired (Catalogue.step digest c call).snippets id) ∧
      (Retired c.keys id → Retired (Catalogue.step digest c call).keys id) := by
  cases call with
  | host call => exact perform_retired digest call c id
  | store call =>
      cases call with
      | addFromDraft draft authType =>
          obtain ⟨snippets, keys⟩ := file_collections draft authType c
          exact ⟨fun retired => snippets.symm ▸ retired, fun retired => keys.symm ▸ retired⟩
      | savePassword record password =>
          obtain ⟨snippets, keys⟩ := keep_collections record.id password c
          exact ⟨fun retired => snippets.symm ▸ retired, fun retired => keys.symm ▸ retired⟩
      | getPassword record => exact ⟨fun retired => retired, fun retired => retired⟩
      | getById key => exact ⟨fun retired => retired, fun retired => retired⟩
      | list => exact ⟨fun retired => retired, fun retired => retired⟩

theorem run_represents (c : Catalogue) (start last : ConnectionStore.Holding) (calls : List AppCall)
    (represents : Represents c start.stores) (run : Run (AppStep digest) start calls last) (id : Nat) :
    ∃ reached, Represents reached last.stores ∧ (Retired c.snippets id → Retired reached.snippets id) ∧
      (Retired c.keys id → Retired reached.keys id) := by
  induction run with
  | nil => exact ⟨c, represents, fun retired => retired, fun retired => retired⟩
  | snoc calls before after call _ move ih =>
      obtain ⟨reached, known, snippets, keys⟩ := ih
      obtain ⟨snippet, key⟩ := step_retired digest call reached id
      exact ⟨_, Represents.stepped digest before after call reached known move, fun retired => snippet (snippets retired),
        fun retired => key (keys retired)⟩

theorem removeUnder_self {α : Type} (r : Registry α) (id : Nat) (given : id < r.next) :
    Retired (Catalogue.removeUnder (.int id) r) id := by
  have natured : (0 : Int) ≤ id := Int.natCast_nonneg id
  rw [Catalogue.removeUnder, if_pos natured]
  exact ⟨given, Registry.remove_same id r⟩

/-- Whatever is called after a snippet or a key has been removed, no list has its number again. -/
theorem removed_never_listed (clock : Clock) (appStorage : AppStorage) (before after : List AppCall)
    (s removed last : ConnectionStore.Holding) (id : Nat)
    (run : Run (AppStep digest) ⟨initialStores clock appStorage, []⟩ before s) (rest : Run (AppStep digest) removed after last) :
    (removed.stores = (KesshHost.perform digest s.stores (.removeSnippet (.int id))).1 → id < s.stores.snippets.seq →
        ∀ snippet ∈ last.stores.snippets.snippets, snippet.id ≠ id) ∧
      (removed.stores = (KesshHost.perform digest s.stores (.removeKey (.int id))).1 → id < s.stores.keys.seq →
        ∀ key ∈ last.stores.keys.keys, key.id ≠ id) := by
  have known := Represents.reached digest clock appStorage before s run
  constructor
  · intro asked given
    have dropped := (Represents.performed digest (.removeSnippet (.int id)) _ _ known).2
    rw [← asked] at dropped
    obtain ⟨reached, represents, retired, _⟩ := run_represents digest _ removed last after dropped rest id
    refine Registry.retired_unlisted _ _ _ represents.snippets id (retired (removeUnder_self _ id ?_))
    rwa [← known.snippets.counted]
  · intro asked given
    have dropped := (Represents.performed digest (.removeKey (.int id)) _ _ known).2
    rw [← asked] at dropped
    obtain ⟨reached, represents, _, retired⟩ := run_represents digest _ removed last after dropped rest id
    have unlisted := Registry.retired_unlisted _ _ _ represents.keys id (retired (removeUnder_self _ id (by rwa [← known.keys.counted])))
    exact fun key member => unlisted key (List.mem_reverse.mpr member)

-- A snippet that is removed right away, and the one that is added then.
theorem removed_never_listed_added :
    let start : ConnectionStore.Holding := ⟨initialStores noon { available := false }, []⟩
    let removed : ConnectionStore.Holding := ⟨(KesshHost.perform id start.stores (.removeSnippet (.int 2))).1, []⟩
    let last : ConnectionStore.Holding := ⟨(KesshHost.perform id removed.stores (.addSnippet (js "a") (js "b"))).1, []⟩
    ∀ snippet ∈ last.stores.snippets.snippets, snippet.id ≠ 2 := by
  intro start removed last
  have added : AppStep id removed (.host (.addSnippet (js "a") (js "b"))) last := rfl
  exact (removed_never_listed id noon { available := false } [] [.host (.addSnippet (js "a") (js "b"))] start removed last 2
    .nil (run_single _ _ _ _ added)).1 rfl (by decide)

end Kessh
