import Mathlib.Data.List.Perm.Lattice
import Kessh.Native.World

set_option autoImplicit false

-- Who owns what at any moment, and what each operation in progress may rely on.
namespace Kessh.Native

open Interaction Ledger

def World.owned (w : World) : List Handle := w.tasks.flatMap Task.handles ++ w.table.flatMap Row.handles

def Handle.ticketOf : Handle → Option Int
  | .ticket sessionId => some sessionId
  | _ => none

def tickets (ledger : List (Entry Handle)) : List Int := (acquired ledger).filterMap Handle.ticketOf

def Task.Staged (task : Task) : Prop :=
  match task.stage with
  | .waiting => task.custody = {}
  | .running program => Obeys (discipline task.operation.strict) task.operation.Ended program task.custody
  | .finished result => task.custody.held = [] ∧ task.custody.locked = false ∧ task.custody.entry = none ∧
      (task.operation.failedOpen result = true → task.custody.committed = false)
  | .cancelled => task.custody = {}

-- Only queued work keeps something, and only until it is completed.
def Task.Keeps (task : Task) : Prop :=
  match task.operation, task.stage with
  | .executeOpenSessionAsync data, .finished result =>
      task.kept = [] ∨ task.kept = .promise data.deferred :: task.operation.keeps result
  | .executeOpenSessionAsync _, .cancelled => task.kept = []
  | .executeOpenSessionAsync data, _ => task.kept = [.promise data.deferred]
  | _, .waiting => False
  | _, .cancelled => False
  | _, _ => task.kept = []

structure Task.Holds (w : World) (i : Nat) (task : Task) : Prop where
  mutex : task.custody.locked = true → w.holder .session = some i
  entry : ∀ sessionId entry purpose, task.custody.entry = some (sessionId, entry, purpose) →
    task.custody.locked = true ∧ { id := sessionId, entry, claimed := decide (purpose = .close) } ∈ w.table
  nested : ∀ channel, .channel channel ∈ task.custody.held → .session channel.session ∈ task.custody.reach
  staged : task.Staged
  keeps : task.Keeps
  gained : task.custody.committed = false → ∀ handle ∈ task.gained, handle ∈ task.custody.held ∨ handle ∈ released w.ledger
  foreign : ∀ sessionId, .ticket sessionId ∉ task.gained
  changed : task.changed = true → task.custody.committed = true

structure World.Numbered (w : World) : Prop where
  keys : (w.table.map Row.id).Nodup
  drawn : ∀ row ∈ w.table, row.id ∈ tickets w.ledger
  range : ∀ sessionId ∈ tickets w.ledger, 0 < sessionId ∧ sessionId < w.nextSessionId
  next : w.nextSessionId = (tickets w.ledger).length + 1

structure World.Resolved (w : World) : Prop where
  value : ∀ resolution ∈ w.resolutions, resolution.2 = -1 ∨ resolution.2 ∈ tickets w.ledger
  once : ∀ deferred, (w.resolutions.map Prod.fst).count deferred = (released w.ledger).count (.promise deferred)

def World.Claimed (w : World) : Prop :=
  ∀ row ∈ w.table, row.claimed = true →
    ∃ (i : Nat) (task : Task) (entry : KesshSession), w.tasks[i]? = some task ∧ task.custody.entry = some (row.id, entry, .close)

structure World.Owns (w : World) : Prop where
  balanced : Balanced w.ledger w.owned
  numbered : w.Numbered
  resolved : w.Resolved
  claimed : w.Claimed
  tasks : ∀ (i : Nat) (task : Task), w.tasks[i]? = some task → task.Holds w i

theorem owns_initial : World.Owns {} where
  balanced := balanced_nil
  numbered := ⟨by simp, by simp, by simp [tickets, acquired], by simp [tickets, acquired]⟩
  resolved := ⟨by simp, by simp [released]⟩
  claimed := by simp [World.Claimed]
  tasks := by simp

def World.others (w : World) (i : Nat) : List Handle :=
  (w.tasks.eraseIdx i).flatMap Task.handles ++ w.table.flatMap Row.handles

theorem split_tasks {β : Type} (f : Task → List β) (tasks : List Task) (i : Nat) (task : Task)
    (here : tasks[i]? = some task) : (tasks.flatMap f).Perm (f task ++ (tasks.eraseIdx i).flatMap f) := by
  obtain ⟨bound, same⟩ := List.getElem?_eq_some_iff.mp here
  have apart := (List.getElem_cons_eraseIdx_perm bound).symm.flatMap_right f
  rwa [same, List.flatMap_cons] at apart

theorem split_set {β : Type} (f : Task → List β) (tasks : List Task) (i : Nat) (task task' : Task)
    (here : tasks[i]? = some task) : ((tasks.set i task').flatMap f).Perm (f task' ++ (tasks.eraseIdx i).flatMap f) := by
  obtain ⟨bound, _⟩ := List.getElem?_eq_some_iff.mp here
  have apart := split_tasks f (tasks.set i task') i task' (List.getElem?_set_self bound)
  rwa [List.eraseIdx_set_eq] at apart

theorem split_owned (w : World) (i : Nat) (task : Task) (here : w.tasks[i]? = some task) :
    w.owned.Perm (task.custody.held ++ (task.kept ++ w.others i)) := by
  have apart := (split_tasks Task.handles w.tasks i task here).append_right (w.table.flatMap Row.handles)
  refine apart.trans ?_
  simp only [Task.handles, World.others, List.append_assoc]
  exact List.perm_append_comm_assoc _ _ _

theorem mem_reach_iff (c : Custody) (handle : Handle) :
    handle ∈ c.reach ↔ handle ∈ c.held ∨ ∃ sessionId entry, c.entry = some (sessionId, entry, .use) ∧ handle ∈ entry.handles := by
  unfold Custody.reach
  split
  · rename_i sessionId entry found
    simp [found]
  · rename_i other
    constructor
    · exact .inl
    · rintro (held | ⟨sessionId, entry, found, _⟩)
      · exact held
      · exact absurd found (other sessionId entry)

theorem reach_held (c : Custody) (unused : ∀ sessionId entry, c.entry ≠ some (sessionId, entry, .use)) (handle : Handle)
    (reached : handle ∈ c.reach) : handle ∈ c.held := by
  rcases (mem_reach_iff c handle).mp reached with held | ⟨sessionId, entry, found, _⟩
  · exact held
  · exact absurd found (unused sessionId entry)

theorem reach_cases (w : World) (i : Nat) (task : Task) (holds : task.Holds w i) (handle : Handle)
    (reached : handle ∈ task.custody.reach) :
    handle ∈ task.custody.held ∨ handle ∈ w.table.flatMap Row.handles := by
  rcases (mem_reach_iff task.custody handle).mp reached with held | ⟨sessionId, entry, found, inside⟩
  · exact .inl held
  · refine .inr (List.mem_flatMap.mpr ⟨_, (holds.entry sessionId entry .use found).2, ?_⟩)
    simpa [Row.handles] using inside

theorem reach_owned (w : World) (i : Nat) (task : Task) (here : w.tasks[i]? = some task) (holds : task.Holds w i)
    (handle : Handle) (reached : handle ∈ task.custody.reach) : handle ∈ w.owned := by
  rw [(split_owned w i task here).mem_iff]
  rcases reach_cases w i task holds handle reached with held | row
  · simp [held]
  · simp only [World.others, List.mem_append, row, or_true]

theorem keeps_tickets (operation : Operation) (result : Result) (handle : Handle)
    (inside : handle ∈ operation.keeps result) : ∃ sessionId, handle = .ticket sessionId := by
  unfold Operation.keeps at inside
  split at inside
  · exact ⟨_, List.mem_singleton.mp inside⟩
  · split at inside
    · simp at inside
    · exact ⟨_, List.mem_singleton.mp inside⟩
  · simp at inside

theorem kept_handles (task : Task) (keeps : task.Keeps) (handle : Handle) (inside : handle ∈ task.kept) :
    (∃ deferred, handle = .promise deferred) ∨ ∃ sessionId, handle = .ticket sessionId := by
  unfold Task.Keeps at keeps
  split at keeps
  · rename_i data result _ _
    rcases keeps with none | kept
    · simp [none] at inside
    · rw [kept] at inside
      rcases List.mem_cons.mp inside with same | later
      · exact .inl ⟨_, same⟩
      · exact .inr (keeps_tickets _ result handle later)
  all_goals first
    | exact keeps.elim
    | (rw [keeps] at inside
       simp only [List.mem_cons, List.not_mem_nil, or_false] at inside
       exact .inl ⟨_, inside⟩)
    | simp [keeps] at inside

theorem others_nested (w : World) (owns : w.Owns) (i : Nat) (task : Task) (here : w.tasks[i]? = some task)
    (channel : Channel) (theirs : .channel channel ∈ task.kept ++ w.others i) :
    .session channel.session ∈ task.kept ++ w.others i := by
  have row : ∀ row ∈ w.table, .channel channel ∈ row.handles → .session channel.session ∈ w.table.flatMap Row.handles := by
    intro row member inside
    refine List.mem_flatMap.mpr ⟨row, member, ?_⟩
    unfold Row.handles at inside ⊢
    split at inside
    · simp at inside
    · simp only [KesshSession.handles, List.mem_cons, Handle.channel.injEq, reduceCtorEq, List.not_mem_nil, or_false] at inside
      simp [KesshSession.handles, row.entry.nested, *]
  simp only [World.others, List.mem_append] at theirs ⊢
  rcases theirs with kept | tasks | table
  · rcases kept_handles task (owns.tasks i task here).keeps _ kept with ⟨_, same⟩ | ⟨_, same⟩ <;> cases same
  · obtain ⟨other, member, inside⟩ := List.mem_flatMap.mp tasks
    obtain ⟨j, _, there⟩ := List.mem_eraseIdx_iff_getElem?.mp member
    have holds := owns.tasks j other there
    rcases List.mem_append.mp inside with kept | held
    · rcases kept_handles other holds.keeps _ kept with ⟨_, same⟩ | ⟨_, same⟩ <;> cases same
    · rcases reach_cases w j other holds _ (holds.nested channel held) with mine | shared
      · exact .inr (.inl (List.mem_flatMap.mpr ⟨other, member, List.mem_append_right _ mine⟩))
      · exact .inr (.inr shared)
  · obtain ⟨found, member, inside⟩ := List.mem_flatMap.mp table
    exact .inr (.inr (row found member inside))

theorem frees_others (w : World) (owns : w.Owns) (i : Nat) (task : Task) (here : w.tasks[i]? = some task) (call : Call)
    (reply : Reply call) (permits : task.custody.permits call) (handle : Handle)
    (theirs : handle ∈ task.kept ++ w.others i) : frees call reply handle = false := by
  have distinct := balanced_owner_nodup _ _ (balanced_perm _ _ _ owns.balanced (split_owned w i task here))
  have apart : ∀ held ∈ task.custody.held, held ∉ task.kept ++ w.others i := List.nodup_append.mp distinct |>.2.2 |>
    fun disjoint held mine both => disjoint held mine held both rfl
  refine Bool.eq_false_iff.mpr fun freed => ?_
  unfold frees at freed
  split at freed
  · exact apart _ permits (beq_iff_eq.mp freed ▸ theirs)
  · exact apart _ permits (beq_iff_eq.mp freed ▸ theirs)
  · exact apart _ permits (beq_iff_eq.mp (Bool.and_eq_true_iff.mp freed).2 ▸ theirs)
  · rename_i session rc
    obtain ⟨_, inside⟩ := Bool.and_eq_true_iff.mp freed
    cases handle with
    | session other => exact apart _ permits (beq_iff_eq.mp inside ▸ theirs)
    | channel channel =>
        exact apart _ permits (beq_iff_eq.mp inside ▸ others_nested w owns i task here channel theirs)
    | socket _ => cases inside
    | addresses _ => cases inside
    | promise _ => cases inside
    | ticket _ => cases inside
  · obtain ⟨promised, ticketed⟩ := permits
    rcases Bool.or_eq_true_iff.mp freed with same | same
    · exact apart _ promised (beq_iff_eq.mp same ▸ theirs)
    · obtain ⟨valid, same⟩ := Bool.and_eq_true_iff.mp same
      exact apart _ (ticketed (of_decide_eq_true valid)) (beq_iff_eq.mp same ▸ theirs)
  · cases freed

theorem gains_nodup (call : Call) (reply : Reply call) : (gains call reply).Nodup := by
  unfold gains
  split <;> simp

theorem uses_owned (w : World) (i : Nat) (task : Task) (here : w.tasks[i]? = some task) (holds : task.Holds w i)
    (call : Call) (allowed : task.custody.allowed call) : ∀ handle ∈ call.uses, handle ∈ w.owned :=
  fun handle used => reach_owned w i task here holds handle (allowed.1 handle used)

theorem record_balanced (w : World) (owns : w.Owns) (i : Nat) (task : Task) (here : w.tasks[i]? = some task)
    (call : Call) (reply : Reply call) (allowed : task.custody.allowed call)
    (fresh : ∀ handle ∈ gains call reply, handle ∉ acquired w.ledger) :
    Balanced (record call.uses (frees call reply) (gains call reply) w.ledger)
      ((gains call reply ++ task.custody.held.filter fun handle => !frees call reply handle) ++
        (task.kept ++ w.others i)) := by
  have recorded := balanced_record call.uses (frees call reply) (gains call reply) w.ledger w.owned owns.balanced
    (uses_owned w i task here (owns.tasks i task here) call allowed) (gains_nodup call reply) fresh
  have stay : (task.kept ++ w.others i).filter (fun handle => !frees call reply handle) = task.kept ++ w.others i :=
    List.filter_eq_self.mpr fun handle theirs => by
      rw [frees_others w owns i task here call reply allowed.2 handle theirs, Bool.not_false]
  have remaining := (split_owned w i task here).filter fun handle => !frees call reply handle
  rw [List.filter_append, stay] at remaining
  rw [List.append_assoc]
  exact balanced_perm _ _ _ recorded (remaining.append_left _)

theorem holds_frame (w w' : World) (i : Nat) (task : Task) (holds : task.Holds w i)
    (holder : w.holder .session = some i → w'.holder .session = some i)
    (table : w.holder .session = some i → w'.table = w.table)
    (gone : ∀ handle ∈ released w.ledger, handle ∈ released w'.ledger) : task.Holds w' i where
  mutex locked := holder (holds.mutex locked)
  entry sessionId entry purpose found := by
    obtain ⟨locked, member⟩ := holds.entry sessionId entry purpose found
    exact ⟨locked, (table (holds.mutex locked)).symm ▸ member⟩
  nested := holds.nested
  staged := holds.staged
  keeps := holds.keeps
  gained open' handle mine := (holds.gained open' handle mine).imp_right (gone handle)
  foreign := holds.foreign
  changed := holds.changed

theorem owns_update (w w' : World) (i : Nat) (task task' : Task) (spawned : List Task) (owns : w.Owns)
    (here : w.tasks[i]? = some task) (tasks : w'.tasks = w.tasks.set i task' ++ spawned)
    (balanced : Balanced w'.ledger ((task'.custody.held ++ (task'.kept ++ spawned.flatMap Task.handles)) ++
      ((w.tasks.eraseIdx i).flatMap Task.handles ++ w'.table.flatMap Row.handles)))
    (holder : ∀ j, j ≠ i → w.holder .session = some j → w'.holder .session = some j)
    (table : w.holder .session = some i ∨ w'.table = w.table)
    (gone : ∀ handle ∈ released w.ledger, handle ∈ released w'.ledger) (mine : task'.Holds w' i)
    (new : ∀ (j : Nat) (other : Task), spawned[j]? = some other → other.Holds w' (w.tasks.length + j))
    (numbered : w'.Numbered) (resolved : w'.Resolved) (claimed : w'.Claimed) : w'.Owns where
  balanced := by
    refine balanced_perm _ _ _ balanced ?_
    have apart := split_set Task.handles w.tasks i task task' here
    simp only [World.owned, tasks, List.flatMap_append, List.append_assoc, Task.handles] at apart ⊢
    rw [List.perm_iff_count] at apart ⊢
    intro handle
    have counted := apart handle
    simp only [List.count_append] at counted ⊢
    omega
  numbered := numbered
  resolved := resolved
  claimed := claimed
  tasks j other there := by
    rw [tasks] at there
    rcases Nat.lt_or_ge j w.tasks.length with old | later
    · rw [List.getElem?_append_left (by simpa using old)] at there
      by_cases same : j = i
      · subst same
        rw [List.getElem?_set_self old] at there
        cases there
        exact mine
      · rw [List.getElem?_set_ne (Ne.symm same)] at there
        refine holds_frame w w' j other (owns.tasks j other there) (holder j same) (fun holding => ?_) gone
        exact table.resolve_left fun held => same (Option.some.inj (holding.symm.trans held))
    · rw [List.getElem?_append_right (by simpa using later), List.length_set] at there
      have holds := new _ other there
      rwa [Nat.add_sub_cancel' later] at holds

end Kessh.Native
