import Kessh.Native.Ownership

set_option autoImplicit false

-- Every answered call keeps the ownership.
namespace Kessh.Native

open Interaction Ledger

-- Calls that neither touch the shared table nor hand anything to others.
@[simp] def Call.plain : (call : Call) → Reply call → Bool
  | .lock .session, _ => false
  | .unlock .session, _ => false
  | .findSession _ _, some _ => false
  | .insertSession _, _ => false
  | .eraseSession _, _ => false
  | .setKeepaliveFailures _ _, _ => false
  | .queueAsyncWork _, true => false
  | _, _ => true

@[simp] def Call.resolves : Call → List (Nat × Int)
  | .resolveDeferred deferred value => [(deferred, value)]
  | _ => []

theorem claim_absent (sessionId : Int) (table : List Row) (absent : ∀ row ∈ table, row.id ≠ sessionId) :
    claim sessionId table = table := by
  have same : ∀ row ∈ table, (if row.id = sessionId then { row with claimed := true } else row) = id row :=
    fun row member => if_neg (absent row member)
  rw [claim, List.map_congr_left same, List.map_id]

theorem after_plain (c : Custody) (call : Call) (reply : Reply call) (plain : call.plain reply = true) :
    c.after call reply = { c with held := gains call reply ++ c.held.filter fun handle => !frees call reply handle } := by
  unfold Custody.after
  split <;> first | rfl | cases plain

theorem respond_plain (w after : World) (i : Nat) (call : Call) (reply : Reply call) (plain : call.plain reply = true)
    (respond : w.respond i call reply = some after) :
    after.table = w.table ∧ after.nextSessionId = w.nextSessionId ∧ after.holder .session = w.holder .session ∧
      after.tasks = w.tasks ∧ after.ledger = w.ledger ∧ after.resolutions = call.resolves ++ w.resolutions := by
  unfold World.respond at respond
  split at respond
  case h_1 mutex _ =>
    split at respond
    · cases mutex <;> cases respond <;> first | exact ⟨rfl, rfl, rfl, rfl, rfl, rfl⟩ | cases plain
    · cases respond
  case h_2 mutex _ =>
    split at respond
    · cases mutex <;> cases respond <;> first | exact ⟨rfl, rfl, rfl, rfl, rfl, rfl⟩ | cases plain
    · cases respond
  case h_3 =>
    split at respond <;> cases respond
    exact ⟨rfl, rfl, rfl, rfl, rfl, rfl⟩
  case h_5 =>
    split at respond <;> cases respond
    exact ⟨rfl, rfl, rfl, rfl, rfl, rfl⟩
  case h_7 sessionId purpose found =>
    split at respond
    case isTrue same =>
      cases found with
      | some entry => cases plain
      | none =>
          have absent : ∀ row ∈ w.table, row.id ≠ sessionId := by
            simpa using List.find?_eq_none.mp (Option.map_eq_none_iff.mp same.symm)
          rw [claim_absent sessionId w.table absent, ite_self] at respond
          cases respond
          exact ⟨rfl, rfl, rfl, rfl, rfl, rfl⟩
    case isFalse => cases respond
  case h_13 others =>
    cases respond
    refine ⟨rfl, rfl, rfl, rfl, rfl, ?_⟩
    cases call with
    | resolveDeferred deferred value => exact (others deferred value reply rfl HEq.rfl).elim
    | _ => rfl
  all_goals first | (cases respond; exact ⟨rfl, rfl, rfl, rfl, rfl, rfl⟩) | cases plain

theorem gains_no_ticket (call : Call) (reply : Reply call) (sessionId : Int) : .ticket sessionId ∉ gains call reply := by
  unfold gains
  split <;> simp

theorem tickets_record (call : Call) (reply : Reply call) (ledger : List (Entry Handle)) :
    tickets (record call.uses (frees call reply) (gains call reply) ledger) = tickets ledger := by
  have none : (gains call reply).filterMap Handle.ticketOf = [] := by
    refine List.filterMap_eq_nil_iff.mpr fun handle member => ?_
    cases handle with
    | ticket sessionId => exact (gains_no_ticket call reply sessionId member).elim
    | _ => rfl
  unfold tickets
  rw [(record_same _ _ _ _).1, List.filterMap_append, none, List.nil_append]

theorem released_record (call : Call) (reply : Reply call) (ledger : List (Entry Handle)) (handle : Handle)
    (gone : handle ∈ released ledger) :
    handle ∈ released (record call.uses (frees call reply) (gains call reply) ledger) := by
  rw [(record_same _ _ _ _).2]
  exact List.mem_append_right _ gone

theorem numbered_same (w w' : World) (numbered : w.Numbered)
    (keys : (w'.table.map Row.id).Sublist (w.table.map Row.id))
    (next : w'.nextSessionId = w.nextSessionId) (drawn : tickets w'.ledger = tickets w.ledger) : w'.Numbered where
  keys := numbered.keys.sublist keys
  drawn row member := by
    have known : row.id ∈ w.table.map Row.id := keys.subset (List.mem_map_of_mem member)
    obtain ⟨old, there, same⟩ := List.mem_map.mp known
    exact drawn ▸ same ▸ numbered.drawn old there
  range := by rw [drawn, next]; exact numbered.range
  next := by rw [drawn, next]; exact numbered.next

theorem promise_released (call : Call) (reply : Reply call) (ledger : List (Entry Handle)) (sound : Sound ledger)
    (alive : ∀ resolution ∈ call.resolves, .promise resolution.1 ∈ live ledger) (deferred : Nat) :
    ((live ledger).filter (frees call reply)).count (.promise deferred) =
      (call.resolves.map Prod.fst).count deferred := by
  have freed : frees call reply (.promise deferred) = (call.resolves.map Prod.fst).contains deferred := by
    cases call with
    | resolveDeferred other value =>
        have ticket : (Handle.promise deferred == Handle.ticket value) = false := rfl
        simp only [frees, ticket, Bool.and_false, Bool.or_false, Call.resolves, List.map_cons, List.map_nil,
          List.contains_cons, List.contains_nil]
        exact decide_eq_decide.mpr ⟨fun same => Handle.promise.inj same, congrArg _⟩
    | _ => simp [Handle.within]
  cases resolving : (call.resolves.map Prod.fst).contains deferred with
  | false =>
      rw [List.count_eq_zero.mpr fun inside => ?_, List.count_eq_zero.mpr ?_]
      · simpa using resolving
      · have frees := (List.mem_filter.mp inside).2
        rw [freed, resolving] at frees
        cases frees
  | true =>
      rw [List.count_filter (freed.trans resolving)]
      cases call with
      | resolveDeferred other value =>
          have same : deferred = other := by simpa using resolving
          subst same
          rw [List.count_eq_one_of_mem (sound_nodup ledger sound).2.1 (alive (deferred, value) (by simp))]
          simp
      | _ => cases resolving

theorem resolved_record (w w' : World) (owns : w.Owns) (i : Nat) (task : Task) (here : w.tasks[i]? = some task)
    (call : Call) (reply : Reply call) (permits : task.custody.permits call)
    (resolutions : w'.resolutions = call.resolves ++ w.resolutions)
    (ledger : w'.ledger = record call.uses (frees call reply) (gains call reply) w.ledger) : w'.Resolved where
  value resolution member := by
    rw [ledger, tickets_record]
    rw [resolutions] at member
    rcases List.mem_append.mp member with new | old
    · cases call <;> simp at new
      subst new
      refine (Decidable.em _).imp_right fun valid => ?_
      have owned := (split_owned w i task here).mem_iff.mpr (List.mem_append_left _ (permits.2 valid))
      exact List.mem_filterMap.mpr ⟨_, balanced_owned_acquired _ _ owns.balanced _ owned, rfl⟩
    · exact owns.resolved.value resolution old
  once deferred := by
    have alive : ∀ resolution ∈ call.resolves, .promise resolution.1 ∈ live w.ledger := by
      intro resolution new
      cases call <;> simp at new
      subst new
      have owned := (split_owned w i task here).mem_iff.mpr (List.mem_append_left _ permits.1)
      exact owns.balanced.2.mem_iff.mpr owned
    rw [ledger, (record_same _ _ _ _).2, resolutions, List.map_append, List.count_append, List.count_append,
      promise_released call reply w.ledger owns.balanced.1 alive deferred, owns.resolved.once deferred]

theorem committed_after (c : Custody) (call : Call) (reply : Reply call) (committed : c.committed = true) :
    (c.after call reply).committed = true := by
  unfold Custody.after
  split <;> simp [committed]

structure Answers (w after : World) (i : Nat) (task : Task) (next : Routine Result) (call : Call) (reply : Reply call) :
    Prop where
  owns : w.Owns
  here : w.tasks[i]? = some task
  running : ∃ program, task.stage = .running program
  allowed : task.custody.allowed call
  rest : Obeys (discipline task.operation.strict) task.operation.Ended next (task.custody.after call reply)
  respond : w.respond i call reply = some after
  fresh : ∀ handle ∈ gains call reply, handle ∉ acquired w.ledger

theorem answers_holds {w after : World} {i : Nat} {task : Task} {next : Routine Result} {call : Call} {reply : Reply call}
    (answers : Answers w after i task next call reply) : task.Holds w i := answers.owns.tasks i task answers.here

structure Kept (w after : World) (i : Nat) (task : Task) (next : Routine Result) (call : Call) (reply : Reply call)
    (spawned : List Task) : Prop where
  tasks : after.tasks = w.tasks ++ spawned
  new : ∀ other ∈ spawned, ∀ (later : World) (j : Nat), other.Holds later j
  balanced : Balanced (w.answered after i task next call reply).ledger
    (((task.custody.after call reply).held ++ (task.kept ++ spawned.flatMap Task.handles)) ++
      ((w.tasks.eraseIdx i).flatMap Task.handles ++ after.table.flatMap Row.handles))
  holder : ∀ j, j ≠ i → w.holder .session = some j → after.holder .session = some j
  table : w.holder .session = some i ∨ after.table = w.table
  gone : ∀ handle ∈ released w.ledger, handle ∈ released (w.answered after i task next call reply).ledger
  mutex : (task.custody.after call reply).locked = true → after.holder .session = some i
  entry : ∀ sessionId entry purpose, (task.custody.after call reply).entry = some (sessionId, entry, purpose) →
    (task.custody.after call reply).locked = true ∧
      { id := sessionId, entry, claimed := decide (purpose = .close) } ∈ after.table
  nested : ∀ channel, .channel channel ∈ (task.custody.after call reply).held →
    .session channel.session ∈ (task.custody.after call reply).reach
  gained : (task.custody.after call reply).committed = false → ∀ handle ∈ gains call reply ++ task.gained,
    handle ∈ (task.custody.after call reply).held ∨
      handle ∈ released (w.answered after i task next call reply).ledger
  changed : after.table ≠ w.table ∨ after.nextSessionId ≠ w.nextSessionId →
    (task.custody.after call reply).committed = true
  numbered : (w.answered after i task next call reply).Numbered
  resolved : (w.answered after i task next call reply).Resolved
  claimed : (w.answered after i task next call reply).Claimed

theorem running_keeps (task : Task) (keeps : task.Keeps) (running : ∃ program, task.stage = .running program)
    (next : Routine Result) : { task with stage := .running next }.Keeps := by
  obtain ⟨program, running⟩ := running
  unfold Task.Keeps at keeps ⊢
  rw [running] at keeps
  cases operation : task.operation <;> simpa [operation] using keeps

theorem answered_tasks (w after : World) (i : Nat) (task : Task) (next : Routine Result) (call : Call)
    (reply : Reply call) (spawned : List Task) (here : w.tasks[i]? = some task)
    (tasks : after.tasks = w.tasks ++ spawned) :
    (w.answered after i task next call reply).tasks =
      w.tasks.set i (task.resumed w after next call reply) ++ spawned := by
  obtain ⟨bound, _⟩ := List.getElem?_eq_some_iff.mp here
  simp only [World.answered, tasks, List.set_append_left _ _ bound]

theorem kept_owns {w after : World} {i : Nat} {task : Task} {next : Routine Result} {call : Call} {reply : Reply call}
    {spawned : List Task} (answers : Answers w after i task next call reply)
    (kept : Kept w after i task next call reply spawned) : (w.answered after i task next call reply).Owns := by
  have holds := answers_holds answers
  have mine : (task.resumed w after next call reply).Holds (w.answered after i task next call reply) i :=
    { mutex := kept.mutex
      entry := kept.entry
      nested := kept.nested
      staged := answers.rest
      keeps := running_keeps _ holds.keeps answers.running next
      gained := kept.gained
      foreign := fun sessionId member => (List.mem_append.mp member).elim (gains_no_ticket call reply sessionId)
        (holds.foreign sessionId)
      changed := fun changed => by
        rcases Bool.or_eq_true_iff.mp changed with before | now
        · exact committed_after _ call reply (holds.changed before)
        · exact kept.changed (of_decide_eq_true now) }
  exact owns_update w _ i task _ spawned answers.owns answers.here
    (answered_tasks w after i task next call reply spawned answers.here kept.tasks) kept.balanced kept.holder kept.table
    kept.gone mine (fun j other there => kept.new other (List.mem_of_getElem? there) _ _) kept.numbered kept.resolved
    kept.claimed

theorem claimed_same (w w' : World) (i : Nat) (task task' : Task) (spawned : List Task) (claimed : w.Claimed)
    (here : w.tasks[i]? = some task) (tasks : w'.tasks = w.tasks.set i task' ++ spawned) (table : w'.table = w.table)
    (same : task'.custody.entry = task.custody.entry) : w'.Claimed := by
  obtain ⟨bound, _⟩ := List.getElem?_eq_some_iff.mp here
  intro row member taken
  obtain ⟨j, other, entry, there, closing⟩ := claimed row (table ▸ member) taken
  obtain ⟨boundThere, _⟩ := List.getElem?_eq_some_iff.mp there
  by_cases mine : j = i
  · subst mine
    refine ⟨j, task', entry, ?_, ?_⟩
    · rw [tasks, List.getElem?_append_left (by simpa using bound), List.getElem?_set_self bound]
    · rw [there] at here
      cases here
      rw [same, closing]
  · refine ⟨j, other, entry, ?_, closing⟩
    rw [tasks, List.getElem?_append_left (by simpa using boundThere), List.getElem?_set_ne (Ne.symm mine), there]

theorem gains_channel (call : Call) (reply : Reply call) (channel : Channel) (gained : .channel channel ∈ gains call reply) :
    .session channel.session ∈ call.uses ∧ ∀ handle, frees call reply handle = false := by
  unfold gains at gained
  split at gained <;> simp at gained
  subst gained
  exact ⟨by simp, fun _ => rfl⟩

theorem frees_nested (call : Call) (reply : Reply call) (channel : Channel)
    (freed : frees call reply (.session channel.session) = true) : frees call reply (.channel channel) = true := by
  unfold frees at freed ⊢
  split at freed <;> first | exact freed | cases freed | skip
  all_goals simp at freed

theorem reach_plain (c : Custody) (call : Call) (reply : Reply call) (handle : Handle) (reached : handle ∈ c.reach)
    (stays : frees call reply handle = false) :
    handle ∈ { c with held := gains call reply ++ c.held.filter fun handle => !frees call reply handle }.reach := by
  rw [mem_reach_iff] at reached ⊢
  refine reached.imp_left fun held => List.mem_append_right _ (List.mem_filter.mpr ⟨held, ?_⟩)
  rw [stays, Bool.not_false]

theorem nested_plain (c : Custody) (call : Call) (reply : Reply call) (allowed : c.allowed call) (channel : Channel)
    (nested : .channel channel ∈ c.held → .session channel.session ∈ c.reach)
    (inside : .channel channel ∈ gains call reply ++ c.held.filter fun handle => !frees call reply handle) :
    .session channel.session ∈
      { c with held := gains call reply ++ c.held.filter fun handle => !frees call reply handle }.reach := by
  rcases List.mem_append.mp inside with new | old
  · obtain ⟨used, stays⟩ := gains_channel call reply channel new
    exact reach_plain c call reply _ (allowed.1 _ used) (stays _)
  · obtain ⟨held, stays⟩ := List.mem_filter.mp old
    refine reach_plain c call reply _ (nested held) (Bool.eq_false_iff.mpr fun freed => ?_)
    rw [frees_nested call reply channel freed] at stays
    cases stays

theorem held_plain (call : Call) (reply : Reply call) (held : List Handle) (ledger : List (Entry Handle)) (handle : Handle)
    (mine : handle ∈ held) (alive : handle ∈ live ledger) :
    (handle ∈ held.filter fun handle => !frees call reply handle) ∨
      handle ∈ released (record call.uses (frees call reply) (gains call reply) ledger) := by
  cases freed : frees call reply handle with
  | false => exact .inl (List.mem_filter.mpr ⟨mine, by rw [freed, Bool.not_false]⟩)
  | true =>
      rw [(record_same _ _ _ _).2]
      exact .inr (List.mem_append_left _ (List.mem_filter.mpr ⟨alive, freed⟩))

theorem plain_kept {w after : World} {i : Nat} {task : Task} {next : Routine Result} {call : Call} {reply : Reply call}
    (answers : Answers w after i task next call reply) (plain : call.plain reply = true) :
    Kept w after i task next call reply [] := by
  have holds := answers_holds answers
  have custody := after_plain task.custody call reply plain
  have sameEntry : (task.custody.after call reply).entry = task.custody.entry := by rw [custody]
  obtain ⟨table, number, holder, tasks, ledger, resolutions⟩ := respond_plain w after i call reply plain answers.respond
  have recorded : (w.answered after i task next call reply).ledger =
      record call.uses (frees call reply) (gains call reply) w.ledger := by rw [← ledger]; rfl
  exact
    { tasks := by simpa using tasks
      new := by simp
      balanced := by
        rw [recorded, custody, table]
        simpa [World.others] using
          record_balanced w answers.owns i task answers.here call reply answers.allowed answers.fresh
      holder := fun j _ theirs => by rw [holder, theirs]
      table := .inr table
      gone := fun handle gone => by
        rw [recorded]
        exact released_record call reply w.ledger handle gone
      mutex := by
        rw [custody, holder]
        exact holds.mutex
      entry := by
        rw [custody, table]
        exact holds.entry
      nested := by
        rw [custody]
        exact fun channel inside => nested_plain task.custody call reply answers.allowed channel (holds.nested channel) inside
      gained := by
        rw [custody, recorded]
        intro uncommitted handle mine
        rcases List.mem_append.mp mine with new | before
        · exact .inl (List.mem_append_left _ new)
        · rcases holds.gained uncommitted handle before with held | gone
          · have owned := (split_owned w i task answers.here).mem_iff.mpr (List.mem_append_left _ held)
            exact (held_plain call reply _ w.ledger handle held (answers.owns.balanced.2.mem_iff.mpr owned)).imp_left
              fun kept => List.mem_append_right _ kept
          · exact .inr (released_record call reply w.ledger handle gone)
      changed := fun different => (different.elim (absurd table) (absurd number))
      numbered := numbered_same w _ answers.owns.numbered (table ▸ List.Sublist.refl _) number
        (by rw [recorded, tickets_record])
      resolved := resolved_record w _ answers.owns i task answers.here call reply answers.allowed.2 resolutions recorded
      claimed := claimed_same w _ i task _ [] answers.owns.claimed answers.here
        (answered_tasks w after i task next call reply [] answers.here (by simpa using tasks)) table
        sameEntry }

end Kessh.Native
