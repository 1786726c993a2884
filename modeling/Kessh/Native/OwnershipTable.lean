import Kessh.Native.OwnershipCalls

set_option autoImplicit false

-- The calls that move handles between an operation, the table and the queue.
namespace Kessh.Native

open Interaction Ledger

-- A call that acquires and releases nothing, and moves handles at most.
structure Moved (w after : World) (i : Nat) (task : Task) (next : Routine Result) (call : Call) (reply : Reply call)
    (spawned : List Task) : Prop where
  quiet : gains call reply = [] ∧ (∀ handle, frees call reply handle = false) ∧ call.resolves = []
  same : after.ledger = w.ledger ∧ after.resolutions = w.resolutions ∧ after.nextSessionId = w.nextSessionId
  tasks : after.tasks = w.tasks ++ spawned
  new : ∀ other ∈ spawned, ∀ (later : World) (j : Nat), other.Holds later j
  owners : (task.custody.held ++ (task.kept ++ w.others i)).Perm
    (((task.custody.after call reply).held ++ (task.kept ++ spawned.flatMap Task.handles)) ++
      ((w.tasks.eraseIdx i).flatMap Task.handles ++ after.table.flatMap Row.handles))
  holder : ∀ j, j ≠ i → w.holder .session = some j → after.holder .session = some j
  table : w.holder .session = some i ∨ after.table = w.table
  rows : (after.table.map Row.id).Sublist (w.table.map Row.id)
  mutex : (task.custody.after call reply).locked = true → after.holder .session = some i
  entry : ∀ sessionId entry purpose, (task.custody.after call reply).entry = some (sessionId, entry, purpose) →
    (task.custody.after call reply).locked = true ∧
      { id := sessionId, entry, claimed := decide (purpose = .close) } ∈ after.table
  nested : ∀ channel, .channel channel ∈ (task.custody.after call reply).held →
    .session channel.session ∈ (task.custody.after call reply).reach
  held : (task.custody.after call reply).committed = false →
    task.custody.committed = false ∧ ∀ handle ∈ task.custody.held, handle ∈ (task.custody.after call reply).held
  changed : after.table ≠ w.table → (task.custody.after call reply).committed = true
  claimed : (w.answered after i task next call reply).Claimed

variable {w after : World} {i : Nat} {task : Task} {next : Routine Result}

theorem moved_kept {call : Call} {reply : Reply call} {spawned : List Task}
    (answers : Answers w after i task next call reply) (moved : Moved w after i task next call reply spawned) :
    Kept w after i task next call reply spawned := by
  obtain ⟨noGains, noFrees, noResolves⟩ := moved.quiet
  obtain ⟨ledger, resolutions, number⟩ := moved.same
  have holds := answers_holds answers
  have recorded : (w.answered after i task next call reply).ledger =
      record call.uses (frees call reply) (gains call reply) w.ledger := by rw [← ledger]; rfl
  have all : (task.custody.held.filter fun handle => !frees call reply handle) = task.custody.held :=
    List.filter_eq_self.mpr fun handle _ => by rw [noFrees, Bool.not_false]
  exact
    { tasks := moved.tasks
      new := moved.new
      balanced := by
        have balanced := record_balanced w answers.owns i task answers.here call reply answers.allowed answers.fresh
        rw [all] at balanced
        rw [recorded]
        refine balanced_perm _ _ _ balanced ?_
        rw [noGains]
        exact moved.owners
      holder := moved.holder
      table := moved.table
      gone := fun handle gone => by
        rw [recorded]
        exact released_record call reply w.ledger handle gone
      mutex := moved.mutex
      entry := moved.entry
      nested := moved.nested
      gained := fun uncommitted handle mine => by
        obtain ⟨before, held⟩ := moved.held uncommitted
        rw [noGains, List.nil_append] at mine
        refine (holds.gained before handle mine).imp (held handle) fun gone => ?_
        rw [recorded]
        exact released_record call reply w.ledger handle gone
      changed := fun different => different.elim moved.changed (absurd number)
      numbered := numbered_same w _ answers.owns.numbered moved.rows number (by rw [recorded, tickets_record])
      resolved := resolved_record w _ answers.owns i task answers.here call reply answers.allowed.2
        (by rw [noResolves]; exact resolutions) recorded
      claimed := moved.claimed }

theorem claimed_mine (owns : w.Owns) (here : w.tasks[i]? = some task) (holding : w.holder .session = some i)
    (row : Row) (member : row ∈ w.table) (taken : row.claimed = true) :
    ∃ entry, task.custody.entry = some (row.id, entry, .close) := by
  obtain ⟨j, other, entry, there, closing⟩ := owns.claimed row member taken
  have holds := owns.tasks j other there
  have same := (holds.mutex (holds.entry _ _ _ closing).1).symm.trans holding
  cases same
  rw [here] at there
  cases there
  exact ⟨entry, closing⟩

theorem nothing_claimed (owns : w.Owns) (here : w.tasks[i]? = some task) (holding : w.holder .session = some i)
    (notClosing : ∀ sessionId entry, task.custody.entry ≠ some (sessionId, entry, .close)) (row : Row)
    (member : row ∈ w.table) : row.claimed = false :=
  Bool.eq_false_iff.mpr fun taken =>
    have ⟨entry, closing⟩ := claimed_mine owns here holding row member taken
    notClosing row.id entry closing

theorem lock_kept {reply : Reply (.lock .session)} (answers : Answers w after i task next (.lock .session) reply) :
    Kept w after i task next (.lock .session) reply [] := by
  have holds := answers_holds answers
  have respond := answers.respond
  simp only [World.respond] at respond
  split at respond <;> cases respond
  rename_i free
  refine moved_kept answers
    { quiet := ⟨rfl, fun _ => rfl, rfl⟩
      same := ⟨rfl, rfl, rfl⟩
      tasks := by simp
      new := by simp
      owners := by simp [World.others]
      holder := fun j _ theirs => absurd (free.symm.trans theirs) (by simp)
      table := .inr rfl
      rows := .refl _
      mutex := by simp
      entry := fun sessionId entry purpose found => ⟨rfl, (holds.entry sessionId entry purpose found).2⟩
      nested := holds.nested
      held := fun uncommitted => ⟨uncommitted, fun _ => id⟩
      changed := absurd rfl
      claimed := claimed_same w _ i task _ [] answers.owns.claimed answers.here
        (answered_tasks w _ i task next _ reply [] answers.here (by simp)) rfl rfl }

theorem unlock_kept {reply : Reply (.unlock .session)} (answers : Answers w after i task next (.unlock .session) reply) :
    Kept w after i task next (.unlock .session) reply [] := by
  obtain ⟨_, locked, notClosing, noChannels⟩ := answers.allowed
  have respond := answers.respond
  simp only [World.respond] at respond
  split at respond <;> cases respond
  rename_i mine
  refine moved_kept answers
    { quiet := ⟨rfl, fun _ => rfl, rfl⟩
      same := ⟨rfl, rfl, rfl⟩
      tasks := by simp
      new := by simp
      owners := by simp [World.others]
      holder := fun j other theirs => absurd (Option.some.inj (theirs.symm.trans mine)) other
      table := .inl mine
      rows := .refl _
      mutex := fun locked => by cases locked
      entry := fun _ _ _ found => by cases found
      nested := fun channel inside => (noChannels channel inside).elim
      held := fun uncommitted => ⟨uncommitted, fun _ => id⟩
      changed := absurd rfl
      claimed := fun row member taken => by
        rw [nothing_claimed answers.owns answers.here mine notClosing row member] at taken
        cases taken }

theorem find_cases {sessionId : Int} {purpose : Purpose} {entry : KesshSession}
    (answers : Answers w after i task next (.findSession sessionId purpose) (some entry)) :
    { id := sessionId, entry } ∈ w.table ∧
      after = { w with table := if purpose = .close then claim sessionId w.table else w.table } := by
  obtain ⟨_, locked, none⟩ := answers.allowed
  have mine := (answers_holds answers).mutex locked
  have respond := answers.respond
  simp only [World.respond] at respond
  split at respond <;> cases respond
  rename_i same
  obtain ⟨row, found, rfl⟩ := Option.map_eq_some_iff.mp same.symm
  have member := List.mem_of_find?_eq_some found
  have key : row.id = sessionId := by simpa using List.find?_some found
  have unclaimed := nothing_claimed answers.owns answers.here mine (by simp [none]) row member
  refine ⟨?_, rfl⟩
  rw [← key, ← unclaimed]
  exact member

theorem find_use_kept {sessionId : Int} {entry : KesshSession}
    (answers : Answers w after i task next (.findSession sessionId .use) (some entry)) :
    Kept w after i task next (.findSession sessionId .use) (some entry) [] := by
  obtain ⟨member, same⟩ := find_cases answers
  have table : after = w := by simpa using same
  subst table
  obtain ⟨_, locked, none⟩ := answers.allowed
  have holds := answers_holds answers
  refine moved_kept answers
    { quiet := ⟨rfl, fun _ => rfl, rfl⟩
      same := ⟨rfl, rfl, rfl⟩
      tasks := by simp
      new := by simp
      owners := by simp [World.others]
      holder := fun _ _ theirs => theirs
      table := .inr rfl
      rows := .refl _
      mutex := holds.mutex
      entry := fun _ _ _ found => by
        cases found
        exact ⟨locked, member⟩
      nested := fun channel inside => by
        have held := reach_held task.custody (by simp [none]) _ (holds.nested channel inside)
        exact (mem_reach_iff _ _).mpr (.inl held)
      held := fun uncommitted => ⟨by simpa using uncommitted, fun _ => id⟩
      changed := absurd rfl
      claimed := fun row member taken => by
        rw [nothing_claimed answers.owns answers.here (holds.mutex locked) (by simp [none]) row member] at taken
        cases taken }

theorem claim_handles (table : List Row) (keys : (table.map Row.id).Nodup) (sessionId : Int) (entry : KesshSession)
    (member : { id := sessionId, entry } ∈ table) :
    (table.flatMap Row.handles).Perm (entry.handles ++ (claim sessionId table).flatMap Row.handles) := by
  induction table with
  | nil => simp at member
  | cons row rest ih =>
      obtain ⟨once, keysRest⟩ := List.nodup_cons.mp keys
      rcases List.mem_cons.mp member with rfl | later
      · have absent : ∀ row ∈ rest, row.id ≠ sessionId := fun row there same =>
          once (List.mem_map.mpr ⟨row, there, same⟩)
        have unchanged := claim_absent sessionId rest absent
        unfold claim at unchanged ⊢
        simp [unchanged, Row.handles]
      · have other : row.id ≠ sessionId := fun same => once (List.mem_map.mpr ⟨_, later, same.symm⟩)
        simp only [claim, List.map_cons, if_neg other, List.flatMap_cons]
        exact ((ih keysRest later).append_left row.handles).trans (List.perm_append_comm_assoc _ _ _)

theorem claim_ids (sessionId : Int) (table : List Row) : (claim sessionId table).map Row.id = table.map Row.id := by
  simp only [claim, List.map_map]
  exact List.map_congr_left fun row _ => by simp only [Function.comp]; split <;> rfl

theorem find_close_kept {sessionId : Int} {entry : KesshSession}
    (answers : Answers w after i task next (.findSession sessionId .close) (some entry)) :
    Kept w after i task next (.findSession sessionId .close) (some entry) [] := by
  obtain ⟨member, rfl⟩ := find_cases answers
  obtain ⟨_, locked, none⟩ := answers.allowed
  have holds := answers_holds answers
  have mine := holds.mutex locked
  have handles := claim_handles w.table answers.owns.numbered.keys sessionId entry member
  refine moved_kept answers
    { quiet := ⟨rfl, fun _ => rfl, rfl⟩
      same := ⟨rfl, rfl, rfl⟩
      tasks := by simp
      new := by simp
      owners := by
        simp only [World.others, Custody.after, if_true, List.flatMap_nil, List.append_nil]
        rw [List.perm_iff_count] at handles ⊢
        intro handle
        have counted := handles handle
        simp only [List.count_append] at counted ⊢
        omega
      holder := fun _ _ theirs => theirs
      table := .inl mine
      rows := claim_ids sessionId w.table ▸ List.Sublist.refl _
      mutex := holds.mutex
      entry := fun _ _ _ found => by
        cases found
        exact ⟨locked, List.mem_map.mpr ⟨_, member, if_pos rfl⟩⟩
      nested := fun channel inside => by
        simp only [Custody.after, if_true, List.mem_append] at inside
        refine (mem_reach_iff _ _).mpr (.inl ?_)
        simp only [Custody.after, if_true, List.mem_append]
        refine inside.imp (fun ours => ?_) fun held => ?_
        · simp only [KesshSession.handles, List.mem_cons, Handle.channel.injEq, reduceCtorEq, List.not_mem_nil,
            or_false] at ours
          simp [KesshSession.handles, ours, entry.nested]
        · exact reach_held task.custody (by simp [none]) _ (holds.nested channel held)
      held := fun uncommitted => by simp at uncommitted
      changed := fun _ => by simp
      claimed := fun row there taken => by
        obtain ⟨old, was, rfl⟩ := List.mem_map.mp there
        obtain ⟨bound, _⟩ := List.getElem?_eq_some_iff.mp answers.here
        have unclaimed := nothing_claimed answers.owns answers.here mine (by simp [none]) old was
        by_cases same : old.id = sessionId
        · refine ⟨i, _, entry, List.getElem?_set_self bound, ?_⟩
          simp [Task.resumed, same]
        · rw [if_neg same, unclaimed] at taken
          cases taken }

theorem erase_handles (sessionId : Int) (table : List Row)
    (empty : ∀ row ∈ table, row.id = sessionId → row.handles = []) :
    (table.filter (·.id != sessionId)).flatMap Row.handles = table.flatMap Row.handles := by
  induction table with
  | nil => rfl
  | cons row rest ih =>
      have later := ih fun other member => empty other (List.mem_cons_of_mem _ member)
      by_cases same : row.id = sessionId
      · simp [same, later, empty row (by simp) same]
      · simp [same, later]

theorem erase_kept {sessionId : Int} {reply : Reply (.eraseSession sessionId)}
    (answers : Answers w after i task next (.eraseSession sessionId) reply) :
    Kept w after i task next (.eraseSession sessionId) reply [] := by
  obtain ⟨_, locked, entry, closing⟩ := answers.allowed
  have holds := answers_holds answers
  have mine := holds.mutex locked
  have respond := answers.respond
  simp only [World.respond] at respond
  cases respond
  have taken := (holds.entry _ _ _ closing).2
  have empty : ∀ row ∈ w.table, row.id = sessionId → row.handles = [] := by
    intro row member same
    have unique := List.inj_on_of_nodup_map answers.owns.numbered.keys member taken same
    simp [unique, Row.handles]
  have handles := erase_handles sessionId w.table empty
  refine moved_kept answers
    { quiet := ⟨rfl, fun _ => rfl, rfl⟩
      same := ⟨rfl, rfl, rfl⟩
      tasks := by simp
      new := by simp
      owners := by simp [World.others, handles]
      holder := fun _ _ theirs => theirs
      table := .inl mine
      rows := List.Sublist.map _ List.filter_sublist
      mutex := holds.mutex
      entry := fun _ _ _ found => by cases found
      nested := fun channel inside => by
        have held := reach_held task.custody (by simp [closing]) _ (holds.nested channel inside)
        exact (mem_reach_iff _ _).mpr (.inl held)
      held := fun uncommitted => by cases uncommitted
      changed := fun _ => rfl
      claimed := fun row member claimed => by
        obtain ⟨there, other⟩ := List.mem_filter.mp member
        obtain ⟨_, ours⟩ := claimed_mine answers.owns answers.here mine row there claimed
        have same : sessionId = row.id := congrArg Prod.fst (Option.some.inj (closing.symm.trans ours))
        simp [same] at other }

theorem setFailures_ids (sessionId failures : Int) (table : List Row) :
    (setFailures sessionId failures table).map Row.id = table.map Row.id := by
  simp only [setFailures, List.map_map]
  exact List.map_congr_left fun row _ => by simp only [Function.comp]; split <;> rfl

theorem setFailures_handles (sessionId failures : Int) (table : List Row) :
    (setFailures sessionId failures table).flatMap Row.handles = table.flatMap Row.handles := by
  simp only [setFailures, List.flatMap_map]
  exact List.flatMap_congr fun row _ => by simp only [Row.handles, KesshSession.handles]; split <;> rfl

theorem failures_kept {sessionId failures : Int} {reply : Reply (.setKeepaliveFailures sessionId failures)}
    (answers : Answers w after i task next (.setKeepaliveFailures sessionId failures) reply) :
    Kept w after i task next (.setKeepaliveFailures sessionId failures) reply [] := by
  obtain ⟨_, locked, entry, inUse⟩ := answers.allowed
  have holds := answers_holds answers
  have mine := holds.mutex locked
  have respond := answers.respond
  simp only [World.respond] at respond
  cases respond
  have member := (holds.entry _ _ _ inUse).2
  have handles := setFailures_handles sessionId failures w.table
  have found : ∀ other entry' purpose, (task.custody.after (.setKeepaliveFailures sessionId failures) reply).entry =
      some (other, entry', purpose) →
      other = sessionId ∧ entry' = { entry with keepaliveFailures := failures } ∧ purpose = .use := by
    intro other entry' purpose found
    simp only [Custody.after, inUse, Option.map_some, Option.some.injEq, Prod.mk.injEq] at found
    exact ⟨found.1.symm, found.2.1.symm, found.2.2.symm⟩
  refine moved_kept answers
    { quiet := ⟨rfl, fun _ => rfl, rfl⟩
      same := ⟨rfl, rfl, rfl⟩
      tasks := by simp
      new := by simp
      owners := by simp [World.others, handles]
      holder := fun _ _ theirs => theirs
      table := .inl mine
      rows := setFailures_ids sessionId failures w.table ▸ List.Sublist.refl _
      mutex := holds.mutex
      entry := fun other entry' purpose there => by
        obtain ⟨rfl, rfl, rfl⟩ := found other entry' purpose there
        exact ⟨locked, List.mem_map.mpr ⟨_, member, if_pos rfl⟩⟩
      nested := fun channel inside => by
        have reached := (mem_reach_iff _ _).mp (holds.nested channel inside)
        refine (mem_reach_iff _ _).mpr (reached.imp_right ?_)
        rintro ⟨_, _, there, ours⟩
        rw [inUse] at there
        cases there
        refine ⟨sessionId, { entry with keepaliveFailures := failures }, ?_, ours⟩
        simp only [Custody.after, inUse, Option.map_some]
      held := fun uncommitted => by cases uncommitted
      changed := fun _ => rfl
      claimed := fun row there taken => by
        obtain ⟨old, was, rfl⟩ := List.mem_map.mp there
        have unclaimed := nothing_claimed answers.owns answers.here mine (by simp [inUse]) old was
        split at taken <;> simp [unclaimed] at taken }

theorem drawn_absent (sessionId : Int) (ledger : List (Entry Handle)) (absent : sessionId ∉ tickets ledger) :
    .ticket sessionId ∉ acquired ledger := fun known => absent (List.mem_filterMap.mpr ⟨_, known, rfl⟩)

theorem insert_cases {entry : KesshSession} {sessionId : Int}
    (answers : Answers w after i task next (.insertSession entry) sessionId)
    (bounded : (tickets (w.answered after i task next (.insertSession entry) sessionId).ledger).length < 2147483647) :
    sessionId = w.nextSessionId ∧ w.nextSessionId ∉ tickets w.ledger ∧
      after = { w with
        table := { id := w.nextSessionId, entry } :: w.table
        nextSessionId := w.nextSessionId + 1
        ledger := .acquire (.ticket w.nextSessionId) :: w.ledger } ∧
      (w.answered after i task next (.insertSession entry) sessionId).ledger =
        .acquire (.ticket w.nextSessionId) :: w.ledger := by
  have numbered := answers.owns.numbered
  have respond := answers.respond
  simp only [World.respond] at respond
  split at respond <;> cases respond
  rename_i drawn
  subst drawn
  have undrawn : w.nextSessionId ∉ tickets w.ledger := fun drawn => by
    have range := numbered.range _ drawn
    omega
  have rows : w.table.filter (·.id != w.nextSessionId) = w.table :=
    List.filter_eq_self.mpr fun row member => by
      have other : row.id ≠ w.nextSessionId := fun same => undrawn (same ▸ numbered.drawn row member)
      simpa using other
  have recorded := record_nothing (.acquire (.ticket w.nextSessionId) :: w.ledger)
  have number : increment w.nextSessionId = w.nextSessionId + 1 := by
    have short : (tickets (record [] (fun _ => false) [] (.acquire (.ticket w.nextSessionId) :: w.ledger))).length <
      2147483647 := bounded
    rw [recorded] at short
    have count := numbered.next
    have drawn : (tickets (.acquire (.ticket w.nextSessionId) :: w.ledger)).length = (tickets w.ledger).length + 1 := rfl
    exact if_neg (by omega)
  exact ⟨rfl, undrawn, by rw [rows, number], recorded⟩

theorem entry_first (entry : KesshSession) (held : List Handle) (distinct : held.Nodup)
    (handles : ∀ handle ∈ entry.handles, handle ∈ held) :
    held.Perm (entry.handles ++ held.filter fun handle => !entry.handles.contains handle) := by
  have entryDistinct : entry.handles.Nodup := by simp [KesshSession.handles]
  have taken : (held.filter entry.handles.contains).Perm entry.handles := by
    refine (List.perm_ext_iff_of_nodup (distinct.filter _) entryDistinct).mpr fun handle => ?_
    rw [List.mem_filter, List.contains_iff_mem]
    exact ⟨And.right, fun inside => ⟨handles handle inside, inside⟩⟩
  exact (List.filter_append_perm entry.handles.contains held).symm.trans (taken.append_right _)

theorem insert_numbered (entry : KesshSession) (before inserted : World) (numbered : before.Numbered)
    (undrawn : before.nextSessionId ∉ tickets before.ledger)
    (table : inserted.table = { id := before.nextSessionId, entry } :: before.table)
    (number : inserted.nextSessionId = before.nextSessionId + 1)
    (recorded : tickets inserted.ledger = before.nextSessionId :: tickets before.ledger) : inserted.Numbered where
  keys := by
    rw [table]
    refine List.nodup_cons.mpr ⟨fun inside => ?_, numbered.keys⟩
    obtain ⟨row, member, key⟩ := List.mem_map.mp inside
    have known := numbered.drawn row member
    rw [key] at known
    exact undrawn known
  drawn := fun row member => by
    rw [table] at member
    rw [recorded]
    rcases List.mem_cons.mp member with rfl | old
    · exact List.mem_cons_self
    · exact List.mem_cons_of_mem _ (numbered.drawn row old)
  range := fun sessionId member => by
    rw [recorded] at member
    have count := numbered.next
    rw [number]
    rcases List.mem_cons.mp member with rfl | old
    · omega
    · have range := numbered.range sessionId old
      omega
  next := by
    rw [recorded, number, List.length_cons, numbered.next]
    rfl

theorem insert_kept {entry : KesshSession} {sessionId : Int}
    (answers : Answers w after i task next (.insertSession entry) sessionId)
    (bounded : (tickets (w.answered after i task next (.insertSession entry) sessionId).ledger).length < 2147483647) :
    Kept w after i task next (.insertSession entry) sessionId [] := by
  obtain ⟨_, locked, none, handles, channels⟩ := answers.allowed
  have holds := answers_holds answers
  have mine := holds.mutex locked
  obtain ⟨rfl, undrawn, same, recorded⟩ := insert_cases answers bounded
  have drawn : tickets (.acquire (.ticket w.nextSessionId) :: w.ledger) = w.nextSessionId :: tickets w.ledger := rfl
  have table : after.table = { id := w.nextSessionId, entry } :: w.table := by rw [same]
  have number : after.nextSessionId = w.nextSessionId + 1 := by rw [same]
  have unclaimed := nothing_claimed answers.owns answers.here mine (by simp [none])
  have balanced := balanced_perm _ _ _ answers.owns.balanced (split_owned w i task answers.here)
  have distinct := (List.nodup_append.mp (balanced_owner_nodup _ _ balanced)).1
  have moved := entry_first entry task.custody.held distinct handles
  exact
    { tasks := by simp [same]
      new := by simp
      balanced := by
        rw [recorded, table]
        refine balanced_perm _ _ _ (balanced_acquire _ _ _ balanced (drawn_absent _ _ undrawn)) ?_
        have row : ({ id := w.nextSessionId, entry } : Row).handles = entry.handles := rfl
        simp only [Custody.after, World.others, List.flatMap_cons, List.flatMap_nil, row]
        rw [List.perm_iff_count] at moved ⊢
        intro handle
        have counted := moved handle
        simp only [List.count_append, List.count_cons, List.count_nil] at counted ⊢
        omega
      holder := fun _ _ theirs => by rw [same, theirs]
      table := .inl mine
      gone := fun handle gone => by
        rw [recorded]
        exact gone
      mutex := fun _ => by rw [same, mine]
      entry := fun _ _ _ found => by
        rw [Custody.after, none] at found
        cases found
      nested := fun channel inside => by
        simp only [Custody.after, List.mem_cons, reduceCtorEq, false_or] at inside
        obtain ⟨held, kept⟩ := List.mem_filter.mp inside
        rw [channels channel held] at kept
        simp [KesshSession.handles] at kept
      gained := fun uncommitted => by cases uncommitted
      changed := fun _ => rfl
      numbered := insert_numbered entry w _ answers.owns.numbered undrawn table number (by rw [recorded, drawn])
      resolved :=
        { value := fun resolution member => by
            change resolution ∈ after.resolutions at member
            rw [same] at member
            rw [recorded, drawn]
            exact (answers.owns.resolved.value resolution member).imp_right (List.mem_cons_of_mem _)
          once := fun deferred => by
            change (after.resolutions.map Prod.fst).count deferred = _
            rw [recorded, same]
            exact answers.owns.resolved.once deferred }
      claimed := fun row member taken => by
        change row ∈ after.table at member
        rw [table] at member
        rcases List.mem_cons.mp member with rfl | old
        · cases taken
        · rw [unclaimed row old] at taken
          cases taken }

theorem waiting_holds (data : OpenSessionAsyncData) (later : World) (j : Nat) :
    ({ operation := .executeOpenSessionAsync data, stage := .waiting, custody := {}
       kept := [.promise data.deferred] } : Task).Holds later j where
  mutex := by simp
  entry := by simp
  nested := by simp
  staged := rfl
  keeps := rfl
  gained := by simp
  foreign := by simp
  changed := by simp

theorem queue_kept {data : OpenSessionAsyncData} (answers : Answers w after i task next (.queueAsyncWork data) true) :
    Kept w after i task next (.queueAsyncWork data) true
      [{ operation := .executeOpenSessionAsync data, stage := .waiting, custody := {}
         kept := [.promise data.deferred] }] := by
  obtain ⟨_, promised⟩ := answers.allowed
  have holds := answers_holds answers
  have respond := answers.respond
  simp only [World.respond] at respond
  cases respond
  have distinct := balanced_owner_nodup _ _ (balanced_perm _ _ _ answers.owns.balanced (split_owned w i task answers.here))
  have moved : task.custody.held.Perm (.promise data.deferred :: task.custody.held.filter (· != .promise data.deferred)) := by
    rw [← List.Nodup.erase_eq_filter (List.nodup_append.mp distinct).1]
    exact List.perm_cons_erase promised
  refine moved_kept answers
    { quiet := ⟨rfl, fun _ => rfl, rfl⟩
      same := ⟨rfl, rfl, rfl⟩
      tasks := rfl
      new := fun other member => by
        rw [List.mem_singleton.mp member]
        exact waiting_holds data
      owners := by
        simp only [World.others, Custody.after, List.flatMap_cons, List.flatMap_nil, Task.handles]
        rw [List.perm_iff_count] at moved ⊢
        intro handle
        have counted := moved handle
        simp only [List.count_append, List.count_cons, List.count_nil] at counted ⊢
        omega
      holder := fun _ _ theirs => theirs
      table := .inr rfl
      rows := .refl _
      mutex := holds.mutex
      entry := holds.entry
      nested := fun channel inside => by
        have reached := (mem_reach_iff _ _).mp (holds.nested channel (List.mem_filter.mp inside).1)
        refine (mem_reach_iff _ _).mpr (reached.imp_left fun held => ?_)
        exact List.mem_filter.mpr ⟨held, by simp⟩
      held := fun uncommitted => by cases uncommitted
      changed := absurd rfl
      claimed := claimed_same w _ i task _ _ answers.owns.claimed answers.here
        (answered_tasks w _ i task next _ _ _ answers.here rfl) rfl rfl }

end Kessh.Native
