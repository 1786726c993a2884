import Kessh.Native.OwnershipTable

set_option autoImplicit false

-- Runs of the native module: what is owned stays in order at every step.
namespace Kessh.Native

open Interaction Ledger

theorem call_cases (w w' : World) (i : Nat) (event : Interaction.Event Call Reply) (move : w.call i event = some w') :
    ∃ task program next after, w.tasks[i]? = some task ∧ task.stage = .running program ∧
      resume program event = some next ∧ w.respond i event.request event.reply = some after ∧
      (∀ handle ∈ gains event.request event.reply, handle ∉ acquired w.ledger) ∧
      w' = w.answered after i task next event.request event.reply := by
  obtain ⟨task, here, move⟩ := Option.bind_eq_some_iff.mp move
  split at move
  · rename_i program running
    obtain ⟨next, resumed, move⟩ := Option.bind_eq_some_iff.mp move
    obtain ⟨after, respond, move⟩ := Option.bind_eq_some_iff.mp move
    split at move
    · cases move
    · rename_i fresh
      refine ⟨task, program, next, after, here, running, resumed, respond, fun handle gained known => fresh ?_,
        (Option.some.inj move).symm⟩
      exact List.any_eq_true.mpr ⟨handle, gained, List.contains_iff_mem.mpr known⟩
  · cases move

-- The next id is positive, so an open can count on it.
theorem expected_reply (w after : World) (numbered : w.Numbered) (i : Nat) (strict : Bool) (call : Call)
    (reply : Reply call) (respond : w.respond i call reply = some after) (completed : completes strict call reply) :
    expected strict call reply := by
  cases call with
  | insertSession entry =>
      simp only [World.respond] at respond
      split at respond
      · rename_i drawn
        have count := numbered.next
        have positive : 0 < w.nextSessionId := by omega
        exact drawn ▸ positive
      · cases respond
  | sessionFree session => exact completed
  | channelFree channel => exact completed
  | _ => trivial

theorem call_owns (w w' : World) (i : Nat) (event : Interaction.Event Call Reply) (owns : w.Owns)
    (move : w.call i event = some w')
    (completed : ∀ task, w.tasks[i]? = some task → completes task.operation.strict event.request event.reply)
    (bounded : (tickets w'.ledger).length < 2147483647) : w'.Owns := by
  obtain ⟨task, program, next, after, here, running, resumed, respond, fresh, rfl⟩ := call_cases w w' i event move
  obtain ⟨call, reply⟩ := event
  have staged := (owns.tasks i task here).staged
  rw [Task.Staged, running] at staged
  obtain ⟨allowed, rest⟩ := obeys_resume (discipline task.operation.strict) _ program next _ _ staged resumed
  have answers : Answers w after i task next call reply :=
    { owns, here, allowed, respond, fresh
      running := ⟨program, running⟩
      rest := rest (expected_reply w after owns.numbered i _ call reply respond (completed task here)) }
  cases plain : call.plain reply with
  | true => exact kept_owns answers (plain_kept answers plain)
  | false =>
      cases call with
      | lock mutex =>
          cases mutex with
          | session => exact kept_owns answers (lock_kept answers)
          | init => cases plain
          | keepaliveConfig => cases plain
      | unlock mutex =>
          cases mutex with
          | session => exact kept_owns answers (unlock_kept answers)
          | init => cases plain
          | keepaliveConfig => cases plain
      | findSession sessionId purpose =>
          cases reply with
          | none => cases plain
          | some entry =>
              cases purpose with
              | use => exact kept_owns answers (find_use_kept answers)
              | close => exact kept_owns answers (find_close_kept answers)
      | insertSession entry => exact kept_owns answers (insert_kept answers bounded)
      | eraseSession sessionId => exact kept_owns answers (erase_kept answers)
      | setKeepaliveFailures sessionId failures => exact kept_owns answers (failures_kept answers)
      | queueAsyncWork data =>
          cases reply with
          | true => exact kept_owns answers (queue_kept answers)
          | false => cases plain
      | _ => cases plain

theorem owns_task (w w' : World) (i : Nat) (task task' : Task) (spawned : List Task) (gone : List Handle) (owns : w.Owns)
    (here : w.tasks[i]? = some task)
    (same : w' = { w with tasks := w.tasks.set i task' ++ spawned, ledger := gone.map .release ++ w.ledger })
    (tickets' : ∀ handle ∈ gone, ∃ sessionId, handle = .ticket sessionId)
    (owners : (task.custody.held ++ task.kept).Perm
      (gone ++ (task'.custody.held ++ (task'.kept ++ spawned.flatMap Task.handles))))
    (mine : task'.Holds w' i) (new : ∀ (j : Nat) (other : Task), spawned[j]? = some other → ∀ k, other.Holds w' k)
    (entry : task'.custody.entry = task.custody.entry) : w'.Owns := by
  have acquiredSame : acquired w'.ledger = acquired w.ledger := by rw [same]; exact (releases_same gone w.ledger).1
  have releasedSame : released w'.ledger = gone ++ released w.ledger := by
    rw [same]
    exact (releases_same gone w.ledger).2
  have balanced := balanced_perm _ _ _ owns.balanced (split_owned w i task here)
  rw [← List.append_assoc] at balanced
  have moved := balanced_perm _ _ _ balanced (owners.append_right (w.others i))
  have distinct := balanced_owner_nodup _ _ moved
  rw [List.append_assoc] at moved distinct
  have released := balanced_releases _ _ gone moved (List.nodup_append.mp distinct).1
    fun handle member => List.mem_append_left _ member
  have left : (gone ++ (task'.custody.held ++ (task'.kept ++ spawned.flatMap Task.handles) ++ w.others i)).filter
      (fun handle => !gone.contains handle) =
      task'.custody.held ++ (task'.kept ++ spawned.flatMap Task.handles) ++ w.others i := by
    rw [List.filter_append, List.filter_eq_nil_iff.mpr, List.filter_eq_self.mpr, List.nil_append]
    · intro handle kept
      have absent : handle ∉ gone := fun inside => (List.nodup_append.mp distinct).2.2 handle inside handle kept rfl
      simpa using absent
    · intro handle inside
      simpa using inside
  rw [left] at released
  refine owns_update w w' i task task' spawned owns here (by rw [same]) ?_ (fun j _ theirs => by rw [same, theirs])
    (.inr (by rw [same])) (fun handle old => by rw [releasedSame]; exact List.mem_append_right _ old) mine
    (fun j other there => new j other there _) ?_ ?_ ?_
  · rw [same]
    exact released
  · have drawn : tickets w'.ledger = tickets w.ledger := by rw [tickets, acquiredSame, tickets]
    exact numbered_same w w' owns.numbered (by rw [same]) (by rw [same]) drawn
  · refine ⟨fun resolution member => ?_, fun deferred => ?_⟩
    · rw [tickets, acquiredSame]
      rw [same] at member
      exact owns.resolved.value resolution member
    · have none : gone.count (.promise deferred) = 0 := List.count_eq_zero.mpr fun inside => by
        obtain ⟨_, ticket⟩ := tickets' _ inside
        cases ticket
      rw [releasedSame, List.count_append, none, Nat.zero_add, ← owns.resolved.once deferred, same]
  · exact claimed_same w w' i task task' spawned owns.claimed here (by rw [same]) (by rw [same]) entry

theorem finished_holds (w later : World) (i : Nat) (task : Task) (holds : task.Holds w i) (result : Result)
    (ended : task.operation.Ended result task.custody) (kept : List Handle)
    (gone : ∀ handle ∈ released w.ledger, handle ∈ released later.ledger)
    (keeps : Task.Keeps { task with stage := .finished result, custody := { task.custody with held := [] }, kept }) :
    Task.Holds later i { task with stage := .finished result, custody := { task.custody with held := [] }, kept } where
  mutex := fun locked => by cases ended.locked.symm.trans locked
  entry := fun _ _ _ found => by cases ended.entry.symm.trans found
  nested := by simp
  staged := ⟨rfl, ended.locked, ended.entry, ended.failed⟩
  keeps := keeps
  gained := fun uncommitted handle member => .inr (by
    rcases holds.gained uncommitted handle member with held | old
    · rw [ended.held] at held
      obtain ⟨sessionId, rfl⟩ := keeps_tickets _ result handle held
      exact (holds.foreign sessionId member).elim
    · exact gone handle old)
  foreign := holds.foreign
  changed := holds.changed

theorem finish_owns (w w' : World) (i : Nat) (owns : w.Owns) (move : w.finish i = some w') : w'.Owns := by
  obtain ⟨task, here, move⟩ := Option.bind_eq_some_iff.mp move
  split at move
  case h_2 => cases move
  rename_i result running
  have holds := owns.tasks i task here
  have ended : task.operation.Ended result task.custody := by
    have staged := holds.staged
    rw [Task.Staged, running] at staged
    exact staged
  have finished := fun later kept => finished_holds w later i task holds result ended kept
  have keeps := holds.keeps
  unfold Task.Keeps at keeps
  rw [running] at keeps
  split at move <;> cases move
  · rename_i work
    refine owns_task w _ i task _ [] [] owns here (by rw [List.append_nil]; rfl) (by simp) ?_ (finished _ _ (fun _ => id) ?_) (by simp) rfl
    · simpa [ended.held] using List.perm_append_comm
    · cases operation : task.operation with
      | executeOpenSessionAsync data =>
          simp only [operation] at keeps
          simp [Task.Keeps, keeps]
      | _ => rw [operation] at work; cases work
  · rename_i work
    refine owns_task w _ i task _ [] (task.operation.keeps result) owns here (by rw [List.append_nil])
      (keeps_tickets _ result) ?_ (finished _ _ ?_ ?_) (by simp) rfl
    · simp [ended.held]
    · intro handle old
      rw [(releases_same _ _).2]
      exact List.mem_append_right _ old
    · cases operation : task.operation with
      | executeOpenSessionAsync data => exact (work (by rw [operation]; rfl)).elim
      | _ =>
          simp only [operation] at keeps
          simp [Task.Keeps, keeps]

theorem start_holds (operation : Operation) (later : World) (j : Nat) (notWork : operation.isWork = false) :
    operation.task.Holds later j where
  mutex := by cases operation <;> simp [Operation.task, Operation.start]
  entry := by cases operation <;> simp [Operation.task, Operation.start]
  nested := by
    cases operation with
    | completeOpenSessionAsync statusOk data sessionId =>
        intro channel inside
        simp only [Operation.task, Operation.start, List.mem_cons, reduceCtorEq, false_or] at inside
        split at inside <;> simp at inside
    | _ => simp [Operation.task, Operation.start]
  staged := operation_obeys operation
  keeps := by
    cases operation with
    | executeOpenSessionAsync data => cases notWork
    | _ => rfl
  gained := by simp [Operation.task]
  foreign := by simp [Operation.task]
  changed := by simp [Operation.task]

theorem begin_owns (w w' : World) (i : Nat) (owns : w.Owns) (move : w.begin i = some w') : w'.Owns := by
  obtain ⟨task, here, move⟩ := Option.bind_eq_some_iff.mp move
  split at move <;> cases move
  rename_i waiting
  have holds := owns.tasks i task here
  have idle : task.custody = {} := by
    have staged := holds.staged
    rw [Task.Staged, waiting] at staged
    exact staged
  have work : task.operation.start = {} ∧ ({ task with
      stage := .running task.operation.program, custody := task.operation.start } : Task).Keeps := by
    have keeps := holds.keeps
    unfold Task.Keeps at keeps ⊢
    rw [waiting] at keeps
    cases operation : task.operation with
    | executeOpenSessionAsync data =>
        simp only [operation] at keeps
        exact ⟨rfl, keeps⟩
    | _ => simp [operation] at keeps
  refine owns_task w _ i task _ [] [] owns here (by rw [List.append_nil]; rfl) (by simp) (by simp [idle, work.1]) ?_
    (by simp) (by rw [idle]; exact congrArg Custody.entry work.1)
  exact
    { mutex := by simp [work.1]
      entry := by simp [work.1]
      nested := by simp [work.1]
      staged := operation_obeys task.operation
      keeps := work.2
      gained := fun _ handle member => .inr (by simpa [idle] using holds.gained (by rw [idle]) handle member)
      foreign := holds.foreign
      changed := fun changed => by
        have committed := holds.changed changed
        rw [idle] at committed
        cases committed }

theorem start_owns (w : World) (operation : Operation) (owns : w.Owns) (fromJs : operation.fromJs = true) :
    ({ w with tasks := w.tasks ++ [operation.task] } : World).Owns where
  balanced := by
    have empty : operation.task.handles = [] := by cases operation <;> first | rfl | cases fromJs
    simpa [World.owned, empty] using owns.balanced
  numbered := ⟨owns.numbered.keys, owns.numbered.drawn, owns.numbered.range, owns.numbered.next⟩
  resolved := ⟨owns.resolved.value, owns.resolved.once⟩
  claimed row member taken := by
    obtain ⟨j, other, entry, there, closing⟩ := owns.claimed row member taken
    obtain ⟨bound, _⟩ := List.getElem?_eq_some_iff.mp there
    exact ⟨j, other, entry, by rw [List.getElem?_append_left bound, there], closing⟩
  tasks j other there := by
    rcases Nat.lt_or_ge j w.tasks.length with old | new
    · rw [List.getElem?_append_left old] at there
      exact holds_frame w _ j other (owns.tasks j other there) id (fun _ => rfl) fun _ => id
    · rw [List.getElem?_append_right new] at there
      obtain rfl := List.mem_singleton.mp (List.mem_of_getElem? there)
      exact start_holds operation _ j (by cases operation <;> first | rfl | cases fromJs)

theorem complete_owns (w w' : World) (i : Nat) (owns : w.Owns) (move : w.complete i = some w') : w'.Owns := by
  obtain ⟨task, here, move⟩ := Option.bind_eq_some_iff.mp move
  have holds := owns.tasks i task here
  have keeps := holds.keeps
  have staged := holds.staged
  unfold Task.Keeps at keeps
  unfold Task.Staged at staged
  have next : ∀ statusOk data sessionId (j : Nat) (other : Task),
      [(Operation.completeOpenSessionAsync statusOk data sessionId).task][j]? = some other → ∀ k, other.Holds w' k := by
    intro statusOk data sessionId j other there k
    obtain rfl := List.mem_singleton.mp (List.mem_of_getElem? there)
    exact start_holds _ w' k rfl
  split at move
  case h_1 data operation waiting =>
    rw [operation, waiting] at keeps
    rw [waiting] at staged
    have same := (Option.some.inj move).symm
    refine owns_task w w' i task _ _ [] owns here same (by simp) ?_ ?_ (next false data (-1)) rfl
    · simp [staged, keeps, Operation.task, Operation.start, Task.handles]
    · exact
        { mutex := by simp [staged]
          entry := by simp [staged]
          nested := by simp [staged]
          staged := staged
          keeps := by unfold Task.Keeps; rw [operation]
          gained := fun uncommitted handle member => by
            subst same
            exact holds.gained uncommitted handle member
          foreign := holds.foreign
          changed := holds.changed }
  case h_2 data sessionId error operation finished =>
    rw [operation, finished] at keeps
    rw [finished] at staged
    obtain ⟨held, locked, entry, failed⟩ := staged
    split at move
    · cases move
    · rename_i pending
      have kept := keeps.resolve_left pending
      have same := (Option.some.inj move).symm
      refine owns_task w w' i task _ _ [] owns here same (by simp) ?_ ?_ (next true data sessionId) rfl
      · by_cases valid : sessionId = -1 <;>
          simp [held, kept, valid, Operation.task, Operation.start, Task.handles]
      · exact
          { mutex := by simp [locked]
            entry := by simp [entry]
            nested := by simp [held]
            staged := by
              unfold Task.Staged
              rw [finished]
              exact ⟨held, locked, entry, failed⟩
            keeps := by
              unfold Task.Keeps
              rw [operation, finished]
              exact .inl rfl
            gained := fun uncommitted handle member => by
              subst same
              exact holds.gained uncommitted handle member
            foreign := holds.foreign
            changed := holds.changed }
  case h_3 => cases move

end Kessh.Native
