import Kessh.Native.TableErrands

set_option autoImplicit false

-- Which sessions the table has along the runs of the native module.
namespace Kessh.Native

open Interaction Ledger

def World.sessions (w : World) : List Int := w.table.map Row.id

def Task.carried (task : Task) : List Int := ticketsOf task.handles

def World.carried (w : World) : List Int := w.tasks.flatMap Task.carried

-- A close that has been started and has not returned.
def Task.closing (task : Task) : Bool :=
  task.operation.closes.isSome && match task.stage with
    | .finished _ => false
    | _ => true

def World.settled (w : World) : Bool := w.tasks.all fun task => !task.closing

-- An operation does its errand; the session that it closes is there until it is gone.
def Task.OnErrand (w : World) (task : Task) : Prop :=
  match task.stage with
  | .waiting => task.operation.isWork = true ∧ task.custody = {}
  | .running program => ∃ gone,
      Obeys (errands task.operation) task.operation.Delivers program { drawn := ticketsOf task.custody.held, gone } ∧
        ∀ sessionId, task.operation.closes = some sessionId → (sessionId ∈ w.sessions ↔ gone = false)
  | .finished _ => ticketsOf task.custody.held = [] ∧
      ∀ sessionId, task.operation.closes = some sessionId → sessionId ∉ w.sessions
  | .cancelled => ticketsOf task.custody.held = []

-- The sessions drawn are in the table, except those whose close has been started and is through with them.
structure World.Tabled (w : World) (closed : List Int) : Prop where
  numbered : w.Numbered
  distinct : (tickets w.ledger).Nodup
  shares : ∀ sessionId, w.returned.count sessionId + w.carried.count sessionId = (tickets w.ledger).count sessionId
  errand : ∀ task ∈ w.tasks, task.OnErrand w
  keeps : ∀ task ∈ w.tasks, task.Keeps
  once : ∀ (i j : Nat) (task other : Task) (sessionId : Int), w.tasks[i]? = some task → w.tasks[j]? = some other →
    task.operation.closes = some sessionId → other.operation.closes = some sessionId → i = j
  kept : ∀ sessionId ∈ tickets w.ledger, sessionId ∉ closed → sessionId ∈ w.sessions
  closing : ∀ task ∈ w.tasks, ∀ sessionId, task.operation.closes = some sessionId →
    sessionId ∈ closed ∧ sessionId ∈ tickets w.ledger
  closers : ∀ sessionId ∈ closed, ∃ task ∈ w.tasks, task.operation.closes = some sessionId

theorem tabled_initial : World.Tabled {} [] where
  numbered := owns_initial.numbered
  distinct := by simp [tickets, acquired]
  shares := fun _ => rfl
  errand := by simp
  keeps := by simp
  once := by simp
  kept := by simp [tickets, acquired]
  closing := by simp
  closers := by simp

theorem settled_closing (w : World) (settled : w.settled = true) (task : Task) (member : task ∈ w.tasks) :
    task.closing = false := by
  simpa using List.all_eq_true.mp settled task member

/-- When no close is in progress, the table has the sessions drawn whose close has not been started. -/
theorem tabled_sessions (w : World) (closed : List Int) (tabled : w.Tabled closed) (settled : w.settled = true) (sessionId : Int) :
    sessionId ∈ w.sessions ↔ sessionId ∈ tickets w.ledger ∧ sessionId ∉ closed := by
  refine ⟨fun there => ⟨?_, fun gone => ?_⟩, fun ⟨drawn, left⟩ => tabled.kept sessionId drawn left⟩
  · obtain ⟨row, member, rfl⟩ := List.mem_map.mp there
    exact tabled.numbered.drawn row member
  · obtain ⟨task, member, closes⟩ := tabled.closers sessionId gone
    have ended := settled_closing w settled task member
    have errand := tabled.errand task member
    simp only [Task.closing, closes, Option.isSome_some, Bool.true_and] at ended
    unfold Task.OnErrand at errand
    split at ended
    · rename_i result finished
      rw [finished] at errand
      exact errand.2 sessionId closes there
    · cases ended

-- How a call changes which sessions there are.
inductive Alters (w after : World) : (call : Call) → Reply call → Prop where
  | drawn (entry : KesshSession) (table : after.table = { id := w.nextSessionId, entry } :: w.table.filter (·.id != w.nextSessionId))
      (next : after.nextSessionId = increment w.nextSessionId)
      (ledger : after.ledger = .acquire (.ticket w.nextSessionId) :: w.ledger) :
      Alters w after (.insertSession entry) w.nextSessionId
  | erased (sessionId : Int) (reply : Unit) (sessions : after.sessions = w.sessions.filter (· != sessionId))
      (next : after.nextSessionId = w.nextSessionId) (ledger : after.ledger = w.ledger) :
      Alters w after (.eraseSession sessionId) reply
  | nothing (call : Call) (reply : Reply call) (other : ∀ entry, call ≠ .insertSession entry)
      (keeps : ∀ sessionId, call ≠ .eraseSession sessionId) (sessions : after.sessions = w.sessions)
      (next : after.nextSessionId = w.nextSessionId) (ledger : after.ledger = w.ledger) : Alters w after call reply

theorem without_sessions (sessionId : Int) (table : List Row) :
    (table.filter (·.id != sessionId)).map Row.id = (table.map Row.id).filter (· != sessionId) := by
  rw [List.filter_map]
  rfl

theorem respond_alters (w after : World) (i : Nat) (call : Call) (reply : Reply call)
    (respond : w.respond i call reply = some after) : Alters w after call reply := by
  cases plain : call.plain reply with
  | true =>
      obtain ⟨table, next, _, _, ledger, _⟩ := respond_plain w after i call reply plain respond
      refine .nothing call reply (fun entry same => ?_) (fun sessionId same => ?_) (congrArg (List.map Row.id) table) next ledger
      · subst same
        cases plain
      · subst same
        cases plain
  | false =>
      cases call with
      | lock mutex =>
          simp only [World.respond] at respond
          split at respond <;> cases respond
          exact .nothing _ _ (fun _ other => by cases other) (fun _ other => by cases other) rfl rfl rfl
      | unlock mutex =>
          simp only [World.respond] at respond
          split at respond <;> cases respond
          exact .nothing _ _ (fun _ other => by cases other) (fun _ other => by cases other) rfl rfl rfl
      | findSession sessionId purpose =>
          simp only [World.respond] at respond
          split at respond <;> cases respond
          refine .nothing _ _ (fun _ other => by cases other) (fun _ other => by cases other) ?_ rfl rfl
          cases purpose with
          | use => rfl
          | close => exact claim_ids sessionId w.table
      | insertSession entry =>
          simp only [World.respond] at respond
          split at respond <;> cases respond
          rename_i drawn
          subst drawn
          exact .drawn entry rfl rfl rfl
      | eraseSession sessionId =>
          cases respond
          exact .erased sessionId reply (without_sessions sessionId w.table) rfl rfl
      | setKeepaliveFailures sessionId failures =>
          cases respond
          refine .nothing _ _ (fun _ other => by cases other) (fun _ other => by cases other) ?_ rfl rfl
          exact setFailures_ids sessionId failures w.table
      | queueAsyncWork data =>
          cases reply with
          | true =>
              cases respond
              exact .nothing _ _ (fun _ other => by cases other) (fun _ other => by cases other) rfl rfl rfl
          | false => cases plain
      | _ => cases plain

theorem drawn_new (w : World) (numbered : w.Numbered) : w.nextSessionId ∉ tickets w.ledger := fun drawn =>
  absurd (numbered.range _ drawn).2 (Int.lt_irrefl _)

theorem sessions_drawn (w : World) (numbered : w.Numbered) (sessionId : Int) (there : sessionId ∈ w.sessions) :
    sessionId ∈ tickets w.ledger := by
  obtain ⟨row, member, rfl⟩ := List.mem_map.mp there
  exact numbered.drawn row member

theorem drawn_rows (w : World) (numbered : w.Numbered) : w.table.filter (·.id != w.nextSessionId) = w.table :=
  List.filter_eq_self.mpr fun row member =>
    bne_iff_ne.mpr fun same => drawn_new w numbered (same ▸ numbered.drawn row member)

@[simp] def Call.draw : (call : Call) → Reply call → List Int
  | .insertSession _, sessionId => [sessionId]
  | _, _ => []

section

variable {w after : World} {call : Call} {reply : Reply call}

theorem alters_tickets (alters : Alters w after call reply) : tickets after.ledger = call.draw reply ++ tickets w.ledger := by
  cases alters with
  | drawn entry sessions next ledger =>
      rw [ledger]
      rfl
  | erased sessionId reply sessions next ledger => rw [ledger]; rfl
  | nothing call reply other keeps sessions next ledger =>
      rw [ledger]
      cases call with
      | insertSession entry => exact (other entry rfl).elim
      | _ => rfl

theorem alters_draw (alters : Alters w after call reply) (sessionId : Int) (drawn : sessionId ∈ call.draw reply) :
    sessionId = w.nextSessionId ∧ sessionId ∈ after.sessions := by
  cases alters with
  | drawn entry table next ledger =>
      obtain rfl := List.mem_singleton.mp drawn
      refine ⟨rfl, ?_⟩
      rw [World.sessions, table]
      exact List.mem_cons_self
  | erased => cases drawn
  | nothing call reply other =>
      cases call with
      | insertSession entry => exact (other entry rfl).elim
      | _ => cases drawn

theorem alters_fewer (alters : Alters w after call reply) (sessionId : Int) (there : sessionId ∈ after.sessions) :
    sessionId ∈ w.sessions ∨ sessionId ∈ call.draw reply := by
  cases alters with
  | drawn entry table =>
      rw [World.sessions, table, List.map_cons] at there
      rcases List.mem_cons.mp there with rfl | old
      · exact .inr List.mem_cons_self
      · exact .inl (List.map_subset _ (List.filter_subset_self _) old)
  | erased other reply sessions => exact .inl (List.mem_filter.mp (sessions ▸ there)).1
  | nothing call reply other keeps sessions => exact .inl (sessions ▸ there)

theorem alters_stays (numbered : w.Numbered) (alters : Alters w after call reply) (sessionId : Int)
    (there : sessionId ∈ w.sessions) : sessionId ∈ after.sessions ∨ call = .eraseSession sessionId := by
  cases alters with
  | drawn entry table =>
      rw [World.sessions, table, drawn_rows w numbered]
      exact .inl (List.mem_cons_of_mem _ there)
  | erased other reply sessions =>
      by_cases same : sessionId = other
      · exact .inr (congrArg _ same.symm)
      · exact .inl (sessions ▸ List.mem_filter.mpr ⟨there, bne_iff_ne.mpr same⟩)
  | nothing call reply other keeps sessions => exact .inl (sessions ▸ there)

theorem alters_numbered (numbered : w.Numbered) (alters : Alters w after call reply)
    (bounded : (tickets after.ledger).length < 2147483647) : after.Numbered := by
  have drawn := alters_tickets alters
  cases alters with
  | drawn entry table next ledger =>
      rw [drawn, List.length_append] at bounded
      have count := numbered.next
      have number : increment w.nextSessionId = w.nextSessionId + 1 := if_neg (by simp at bounded; omega)
      rw [drawn_rows w numbered] at table
      exact insert_numbered entry w after numbered (drawn_new w numbered) table (next.trans number) drawn
  | erased sessionId reply sessions next ledger =>
      refine numbered_same w after numbered ?_ next (congrArg tickets ledger)
      change after.sessions.Sublist w.sessions
      rw [sessions]
      exact List.filter_sublist
  | nothing call reply other keeps sessions next ledger =>
      refine numbered_same w after numbered ?_ next (congrArg tickets ledger)
      change after.sessions.Sublist w.sessions
      rw [sessions]

end

def Call.hands (call : Call) : List Int := (call.resolves.map Prod.snd).filter (· != -1)

theorem errand_shares (operation : Operation) (e : Errand) (call : Call) (reply : Reply call) (allowed : e.allowed operation call)
    (sessionId : Int) :
    call.hands.count sessionId + (e.after call reply).drawn.count sessionId =
      (call.draw reply).count sessionId + e.drawn.count sessionId := by
  cases call with
  | insertSession entry => simp [Call.hands, List.count_cons, Nat.add_comm]
  | resolveDeferred deferred value =>
      by_cases failed : value = -1
      · simp [Call.hands, failed]
      · have mine : e.drawn = [value] := allowed failed
        simp [Call.hands, failed, mine]
  | findSession other purpose => cases purpose <;> cases reply <;> simp [Call.hands]
  | _ => simp [Call.hands]

theorem counted_update (f : Task → List Int) (tasks : List Task) (i : Nat) (task task' : Task) (spawned : List Task)
    (here : tasks[i]? = some task) (sessionId : Int) :
    ((tasks.set i task' ++ spawned).flatMap f).count sessionId + (f task).count sessionId =
      (tasks.flatMap f).count sessionId + (f task').count sessionId + (spawned.flatMap f).count sessionId := by
  have before := (split_tasks f tasks i task here).count_eq sessionId
  have after := (split_set f tasks i task task' here).count_eq sessionId
  rw [List.flatMap_append]
  rw [List.count_append] at before after ⊢
  omega

theorem carried_count (task : Task) (sessionId : Int) :
    task.carried.count sessionId = (ticketsOf task.kept).count sessionId + (ticketsOf task.custody.held).count sessionId := by
  rw [Task.carried, Task.handles, ticketsOf_append, List.count_append]

theorem onErrand_frame (w w' : World) (task : Task) (errand : task.OnErrand w)
    (fewer : ∀ sessionId, task.operation.closes = some sessionId → sessionId ∈ w'.sessions → sessionId ∈ w.sessions)
    (stays : ∀ sessionId, task.operation.closes = some sessionId → sessionId ∈ w.sessions → sessionId ∈ w'.sessions) :
    task.OnErrand w' := by
  unfold Task.OnErrand at errand ⊢
  split at errand
  · exact errand
  · rename_i program running
    obtain ⟨gone, obeys, there⟩ := errand
    refine ⟨gone, obeys, fun sessionId closes => ?_⟩
    exact ⟨fun here => (there sessionId closes).mp (fewer sessionId closes here), fun left =>
      stays sessionId closes ((there sessionId closes).mpr left)⟩
  · exact ⟨errand.1, fun sessionId closes here => errand.2 sessionId closes (fewer sessionId closes here)⟩
  · exact errand

theorem once_update (w : World) (i : Nat) (task task' : Task) (spawned : List Task)
    (once : ∀ (i j : Nat) (task other : Task) (sessionId : Int), w.tasks[i]? = some task → w.tasks[j]? = some other →
      task.operation.closes = some sessionId → other.operation.closes = some sessionId → i = j)
    (here : w.tasks[i]? = some task) (operation : task'.operation = task.operation)
    (quiet : ∀ other ∈ spawned, other.operation.closes = none) (j k : Nat) (first second : Task) (sessionId : Int)
    (at' : (w.tasks.set i task' ++ spawned)[j]? = some first) (there : (w.tasks.set i task' ++ spawned)[k]? = some second)
    (closes : first.operation.closes = some sessionId) (also : second.operation.closes = some sessionId) : j = k := by
  have before : ∀ (j : Nat) (other : Task), (w.tasks.set i task' ++ spawned)[j]? = some other →
      other.operation.closes = some sessionId →
      ∃ old, w.tasks[j]? = some old ∧ old.operation.closes = some sessionId := by
    intro j other found closing
    rcases Nat.lt_or_ge j w.tasks.length with bound | bound
    · rw [List.getElem?_append_left (by simpa using bound), List.getElem?_set] at found
      split at found
      · rename_i same
        subst same
        obtain rfl : task' = other := by simpa [bound] using found
        exact ⟨task, here, operation ▸ closing⟩
      · exact ⟨other, found, closing⟩
    · rw [List.getElem?_append_right (by simpa using bound)] at found
      rw [quiet other (List.mem_of_getElem? found)] at closing
      cases closing
  obtain ⟨old, stood, closed⟩ := before j first at' closes
  obtain ⟨prior, found, shut⟩ := before k second there also
  exact once j k old prior sessionId stood found closed shut

theorem update_cases (tasks : List Task) (i : Nat) (task' other : Task) (spawned : List Task)
    (member : other ∈ tasks.set i task' ++ spawned) :
    (∃ j, j ≠ i ∧ tasks[j]? = some other) ∨ other = task' ∨ other ∈ spawned := by
  rcases List.mem_append.mp member with old | new
  · obtain ⟨j, found⟩ := List.getElem?_of_mem old
    rw [List.getElem?_set] at found
    split at found
    · split at found
      · exact .inr (.inl (Option.some.inj found).symm)
      · cases found
    · rename_i other
      exact .inl ⟨j, fun same => other same.symm, found⟩
  · exact .inr (.inr new)

-- One task moves on: it may draw an id, it may erase the session that it closes, and it may leave work for others.
structure Advance (w w' : World) (i : Nat) (task task' : Task) (spawned : List Task) (new : List Int) : Prop where
  here : w.tasks[i]? = some task
  tasks : w'.tasks = w.tasks.set i task' ++ spawned
  operation : task'.operation = task.operation
  drawn : tickets w'.ledger = new ++ tickets w.ledger
  distinct : new.Nodup
  unknown : ∀ sessionId ∈ new, sessionId ∉ tickets w.ledger ∧ sessionId ∈ w'.sessions
  fewer : ∀ sessionId ∈ w'.sessions, sessionId ∈ w.sessions ∨ sessionId ∈ new
  stays : ∀ sessionId ∈ w.sessions, sessionId ∈ w'.sessions ∨ task.operation.closes = some sessionId
  numbered : w'.Numbered
  shares : ∀ sessionId, w'.returned.count sessionId + w'.carried.count sessionId =
    new.count sessionId + (w.returned.count sessionId + w.carried.count sessionId)
  errand : task'.OnErrand w'
  keeps : task'.Keeps
  others : ∀ other ∈ spawned, other.OnErrand w' ∧ other.Keeps ∧ other.operation.closes = none

theorem advance_tabled {w w' : World} {i : Nat} {task task' : Task} {spawned : List Task} {new : List Int} {closed : List Int}
    (tabled : w.Tabled closed) (advance : Advance w w' i task task' spawned new) : w'.Tabled closed := by
  have members : ∀ other ∈ w'.tasks, (∃ j, j ≠ i ∧ w.tasks[j]? = some other) ∨ other = task' ∨ other ∈ spawned :=
    fun other member => update_cases w.tasks i task' other spawned (advance.tasks ▸ member)
  have mine : task ∈ w.tasks := List.mem_of_getElem? advance.here
  exact
    { numbered := advance.numbered
      distinct := by
        rw [advance.drawn]
        refine List.nodup_append.mpr ⟨advance.distinct, tabled.distinct, fun first inside second known same => ?_⟩
        exact (advance.unknown first inside).1 (same ▸ known)
      shares := fun sessionId => by
        rw [advance.shares, tabled.shares, advance.drawn, List.count_append]
      errand := fun other member => by
        rcases members other member with ⟨j, apart, there⟩ | rfl | new
        · refine onErrand_frame w w' other (tabled.errand other (List.mem_of_getElem? there)) ?_ ?_
          · intro sessionId closes stands
            refine (advance.fewer sessionId stands).resolve_right fun fresh => ?_
            exact (advance.unknown sessionId fresh).1 (tabled.closing other (List.mem_of_getElem? there) sessionId closes).2
          · intro sessionId closes stood
            exact (advance.stays sessionId stood).resolve_right fun mine =>
              apart (tabled.once j i other task sessionId there advance.here closes mine)
        · exact advance.errand
        · exact (advance.others other new).1
      keeps := fun other member => by
        rcases members other member with ⟨_, _, there⟩ | rfl | new
        · exact tabled.keeps other (List.mem_of_getElem? there)
        · exact advance.keeps
        · exact (advance.others other new).2.1
      once := by
        rw [advance.tasks]
        exact once_update w i task task' spawned tabled.once advance.here advance.operation fun other new =>
          (advance.others other new).2.2
      kept := fun sessionId drawn left => by
        rw [advance.drawn] at drawn
        rcases List.mem_append.mp drawn with fresh | old
        · exact (advance.unknown sessionId fresh).2
        · refine (advance.stays sessionId (tabled.kept sessionId old left)).resolve_right fun closes => ?_
          exact left (tabled.closing task mine sessionId closes).1
      closing := fun other member sessionId closes => by
        have known : sessionId ∈ closed ∧ sessionId ∈ tickets w.ledger := by
          rcases members other member with ⟨_, _, there⟩ | rfl | new
          · exact tabled.closing other (List.mem_of_getElem? there) sessionId closes
          · exact tabled.closing task mine sessionId (advance.operation ▸ closes)
          · rw [(advance.others other new).2.2] at closes
            cases closes
        exact ⟨known.1, advance.drawn ▸ List.mem_append_right _ known.2⟩
      closers := fun sessionId gone => by
        obtain ⟨other, member, closes⟩ := tabled.closers sessionId gone
        obtain ⟨j, there⟩ := List.getElem?_of_mem member
        rw [advance.tasks]
        by_cases same : j = i
        · subst same
          obtain rfl := Option.some.inj (there.symm.trans advance.here)
          obtain ⟨bound, _⟩ := List.getElem?_eq_some_iff.mp there
          exact ⟨task', List.mem_append_left _ (List.mem_set bound task'), advance.operation ▸ closes⟩
        · refine ⟨other, List.mem_append_left _ (List.mem_of_getElem? (i := j) ?_), closes⟩
          rw [List.getElem?_set_ne fun equal => same equal.symm, there] }

def queued (data : OpenSessionAsyncData) : Task :=
  { operation := .executeOpenSessionAsync data, stage := .waiting, custody := {}, kept := [.promise data.deferred] }

theorem respond_tasks (w after : World) (i : Nat) (call : Call) (reply : Reply call)
    (respond : w.respond i call reply = some after) :
    ∃ spawned, after.tasks = w.tasks ++ spawned ∧ ∀ other ∈ spawned, ∃ data, other = queued data := by
  have none : ∃ spawned, w.tasks = w.tasks ++ spawned ∧ ∀ other ∈ spawned, ∃ data, other = queued data := ⟨[], by simp⟩
  cases plain : call.plain reply with
  | true =>
      obtain ⟨_, _, _, tasks, _⟩ := respond_plain w after i call reply plain respond
      rw [tasks]
      exact none
  | false =>
      cases call with
      | queueAsyncWork data =>
          cases reply with
          | true =>
              cases respond
              exact ⟨[queued data], rfl, fun other member => ⟨data, List.mem_singleton.mp member⟩⟩
          | false => cases plain
      | eraseSession sessionId =>
          cases respond
          exact none
      | setKeepaliveFailures sessionId failures =>
          cases respond
          exact none
      | lock mutex =>
          simp only [World.respond] at respond
          split at respond <;> cases respond
          exact none
      | unlock mutex =>
          simp only [World.respond] at respond
          split at respond <;> cases respond
          exact none
      | findSession sessionId purpose =>
          simp only [World.respond] at respond
          split at respond <;> cases respond
          exact none
      | insertSession entry =>
          simp only [World.respond] at respond
          split at respond <;> cases respond
          exact none
      | _ => cases plain

theorem alters_draws {w after : World} {call : Call} {reply : Reply call} (numbered : w.Numbered)
    (alters : Alters w after call reply) : draws call reply := by
  cases alters with
  | drawn entry table next ledger =>
      have count := numbered.next
      change 0 < w.nextSessionId
      omega
  | erased => trivial
  | nothing call reply other =>
      cases call with
      | insertSession entry => exact (other entry rfl).elim
      | _ => trivial

theorem errand_gone {w after : World} {call : Call} {reply : Reply call} (i : Nat) (numbered : w.Numbered)
    (respond : w.respond i call reply = some after) (alters : Alters w after call reply) (operation : Operation) (e : Errand)
    (allowed : e.allowed operation call) (sessionId : Int) (closes : operation.closes = some sessionId)
    (there : sessionId ∈ w.sessions ↔ e.gone = false) (known : sessionId ∈ tickets w.ledger) :
    sessionId ∈ after.sessions ↔ (e.after call reply).gone = false := by
  cases alters with
  | drawn entry table next ledger =>
      have other : sessionId ≠ w.nextSessionId := fun same => drawn_new w numbered (same ▸ known)
      rw [World.sessions, table, drawn_rows w numbered, List.map_cons, List.mem_cons, or_iff_right other]
      exact there
  | erased other reply sessions =>
      obtain rfl := Option.some.inj (closes.symm.trans allowed)
      rw [sessions]
      simp
  | nothing call reply other keeps sessions =>
      rw [sessions]
      cases call with
      | insertSession entry => exact (other entry rfl).elim
      | eraseSession erased => exact (keeps erased rfl).elim
      | findSession found purpose =>
          cases purpose with
          | use => exact there
          | close =>
              cases reply with
              | some entry => exact there
              | none =>
                  obtain rfl := Option.some.inj (closes.symm.trans allowed.1)
                  simp only [World.respond] at respond
                  split at respond
                  · rename_i missing
                    have absent := List.find?_eq_none.mp (Option.map_eq_none_iff.mp missing.symm)
                    have gone : sessionId ∉ w.sessions := fun inside => by
                      obtain ⟨row, member, same⟩ := List.mem_map.mp inside
                      exact absent row member (by simpa using same)
                    exact iff_of_false gone (Bool.not_eq_false _ ▸ rfl)
                  · cases respond
      | _ => exact there

theorem queued_apart (w : World) (data : OpenSessionAsyncData) :
    (queued data).OnErrand w ∧ (queued data).Keeps ∧ (queued data).operation.closes = none := ⟨⟨rfl, rfl⟩, rfl, rfl⟩

theorem queued_none (f : Task → List Int) (spawned : List Task) (queues : ∀ other ∈ spawned, ∃ data, other = queued data)
    (none : ∀ data, f (queued data) = []) : spawned.flatMap f = [] := by
  refine List.flatMap_eq_nil_iff.mpr fun other member => ?_
  obtain ⟨data, rfl⟩ := queues other member
  exact none data

theorem answered_shares (w after : World) (i : Nat) (task : Task) (next : Routine Result) (call : Call) (reply : Reply call)
    (gone : Bool) (here : w.tasks[i]? = some task) (running : ∃ program, task.stage = .running program)
    (allowed : Errand.allowed task.operation { drawn := ticketsOf task.custody.held, gone } call)
    (respond : w.respond i call reply = some after) (sessionId : Int) :
    (w.answered after i task next call reply).returned.count sessionId +
        (w.answered after i task next call reply).carried.count sessionId =
      (call.draw reply).count sessionId + (w.returned.count sessionId + w.carried.count sessionId) := by
  obtain ⟨spawned, tasks, queues⟩ := respond_tasks w after i call reply respond
  have answered := answered_tasks w after i task next call reply spawned here tasks
  have resolutions : (w.answered after i task next call reply).resolutions = call.resolves ++ w.resolutions :=
    (respond_beside w after i call reply respond).resolutions
  have handed := counted_update Task.returned w.tasks i task (task.resumed w after next call reply) spawned here sessionId
  have carried := counted_update Task.carried w.tasks i task (task.resumed w after next call reply) spawned here sessionId
  have balance := errand_shares task.operation { drawn := ticketsOf task.custody.held, gone } call reply allowed sessionId
  have drawn := after_drawn task.custody gone call reply
  have held : (task.resumed w after next call reply).carried.count sessionId =
      (ticketsOf task.kept).count sessionId + (ticketsOf (task.custody.after call reply).held).count sessionId :=
    carried_count (task.resumed w after next call reply) sessionId
  rw [running_returned task running, running_returned (task.resumed w after next call reply) ⟨next, rfl⟩,
    queued_none Task.returned spawned queues fun _ => rfl, List.count_nil] at handed
  rw [held, carried_count task, queued_none Task.carried spawned queues fun _ => rfl, List.count_nil, drawn] at carried
  rw [World.returned, World.returned, World.carried, World.carried, answered, resolutions, List.map_append,
    List.filter_append, List.count_append, List.count_append, List.count_append]
  change call.hands.count sessionId + _ = _ at balance
  unfold Call.hands at balance
  dsimp only at balance carried
  omega

theorem call_tabled (w w' : World) (i : Nat) (event : Interaction.Event Call Reply) (closed : List Int)
    (tabled : w.Tabled closed) (move : w.call i event = some w') (bounded : (tickets w'.ledger).length < 2147483647) :
    w'.Tabled closed := by
  obtain ⟨task, program, next, after, here, running, resumed, respond, _, rfl⟩ := call_cases w w' i event move
  obtain ⟨call, reply⟩ := event
  have member := List.mem_of_getElem? here
  have errand := tabled.errand task member
  rw [Task.OnErrand, running] at errand
  obtain ⟨gone, obeys, there⟩ := errand
  obtain ⟨allowed, later⟩ := obeys_resume (errands task.operation) _ program next _ _ obeys resumed
  have alters := respond_alters w after i call reply respond
  have recorded : tickets (w.answered after i task next call reply).ledger = tickets after.ledger := tickets_record _ _ _
  obtain ⟨spawned, tasks, queues⟩ := respond_tasks w after i call reply respond
  refine advance_tabled tabled
    { here
      tasks := answered_tasks w after i task next call reply spawned here tasks
      operation := rfl
      drawn := recorded.trans (alters_tickets alters)
      distinct := ?_
      unknown := fun sessionId drawn => ?_
      fewer := fun sessionId (stood : sessionId ∈ after.sessions) => alters_fewer alters sessionId stood
      stays := fun sessionId stood => (alters_stays tabled.numbered alters sessionId stood).imp_right fun erased => ?_
      numbered := ?_
      shares := answered_shares w after i task next call reply gone here ⟨program, running⟩ allowed respond
      errand := ?_
      keeps := running_keeps task (tabled.keeps task member) ⟨program, running⟩ next
      others := fun other new => ?_ }
  · cases call <;> simp
  · obtain ⟨rfl, inside⟩ := alters_draw alters sessionId drawn
    exact ⟨drawn_new w tabled.numbered, inside⟩
  · subst erased
    exact allowed
  · exact numbered_same after _ (alters_numbered tabled.numbered alters (recorded ▸ bounded)) (.refl _) rfl recorded
  · refine ⟨(Errand.after { drawn := ticketsOf task.custody.held, gone } call reply).gone, ?_, fun sessionId closes => ?_⟩
    · change Obeys (errands task.operation) _ next { drawn := ticketsOf (task.custody.after call reply).held, gone := _ }
      rw [after_drawn task.custody gone call reply]
      exact later (alters_draws tabled.numbered alters)
    · exact errand_gone i tabled.numbered respond alters task.operation _ allowed sessionId closes (there sessionId closes)
        (tabled.closing task member sessionId closes).2
  · obtain ⟨data, rfl⟩ := queues other new
    exact queued_apart _ data

theorem steady_tabled {w w' : World} {i : Nat} {task task' : Task} {closed : List Int} (spawned : List Task)
    (tabled : w.Tabled closed) (here : w.tasks[i]? = some task) (tasks : w'.tasks = w.tasks.set i task' ++ spawned)
    (same : w'.table = w.table ∧ w'.nextSessionId = w.nextSessionId ∧ w'.resolutions = w.resolutions)
    (drawn : tickets w'.ledger = tickets w.ledger) (operation : task'.operation = task.operation)
    (shares : ∀ sessionId, task'.returned.count sessionId + (spawned.flatMap Task.returned).count sessionId +
      (task'.carried.count sessionId + (spawned.flatMap Task.carried).count sessionId) =
        task.returned.count sessionId + task.carried.count sessionId)
    (errand : task'.OnErrand w') (keeps : task'.Keeps)
    (others : ∀ other ∈ spawned, other.OnErrand w' ∧ other.Keeps ∧ other.operation.closes = none) : w'.Tabled closed := by
  have sessions : w'.sessions = w.sessions := congrArg (List.map Row.id) same.1
  suffices advance : Advance w w' i task task' spawned [] from advance_tabled tabled advance
  refine
    { here, tasks, operation, drawn, errand, keeps, others
      distinct := List.nodup_nil
      unknown := fun sessionId none => by cases none
      fewer := fun sessionId stands => .inl (sessions ▸ stands)
      stays := fun sessionId stands => .inl (sessions.symm ▸ stands)
      numbered := numbered_same w w' tabled.numbered (same.1 ▸ List.Sublist.refl _) same.2.1 drawn
      shares := fun sessionId => ?_ }
  have handed := counted_update Task.returned w.tasks i task task' spawned here sessionId
  have carried := counted_update Task.carried w.tasks i task task' spawned here sessionId
  have balance := shares sessionId
  rw [World.returned, World.returned, World.carried, World.carried, tasks, same.2.2, List.count_append, List.count_append,
    List.count_nil]
  omega

theorem finished_returned (task : Task) (result : Result) (finished : task.stage = .finished result)
    (notWork : task.operation.isWork = false) : task.returned = ticketsOf (task.operation.keeps result) := by
  unfold Task.returned
  rw [finished]
  cases operation : task.operation with
  | openSession host port user pass => cases result <;> rfl
  | executeOpenSessionAsync data =>
      rw [operation] at notWork
      cases notWork
  | _ => rfl

theorem work_returned (task : Task) (work : task.operation.isWork = true) : task.returned = [] := by
  unfold Task.returned
  cases operation : task.operation with
  | openSession host port user pass =>
      rw [operation] at work
      cases work
  | _ => rfl

theorem work_closes (operation : Operation) (work : operation.isWork = true) : operation.closes = none := by
  cases operation <;> first | rfl | cases work

theorem finish_keeps (task : Task) (result : Result) (keeps : task.Keeps) (running : task.stage = .running (.done result))
    (c : Custody) :
    (task.operation.isWork = true →
      Task.Keeps { task with stage := .finished result, custody := c, kept := task.kept ++ task.operation.keeps result }) ∧
      (task.operation.isWork = false → Task.Keeps { task with stage := .finished result, custody := c }) := by
  unfold Task.Keeps at keeps ⊢
  rw [running] at keeps
  cases operation : task.operation with
  | executeOpenSessionAsync data =>
      simp only [operation] at keeps
      exact ⟨fun _ => .inr (by simp [keeps]), fun other => by cases other⟩
  | _ =>
      simp only [operation] at keeps
      exact ⟨fun other => (by cases other), fun _ => keeps⟩

theorem finish_tabled (w w' : World) (i : Nat) (closed : List Int) (tabled : w.Tabled closed)
    (move : w.finish i = some w') : w'.Tabled closed := by
  obtain ⟨task, here, move⟩ := Option.bind_eq_some_iff.mp move
  split at move
  case h_2 => cases move
  rename_i result running
  have member := List.mem_of_getElem? here
  have errand := tabled.errand task member
  rw [Task.OnErrand, running] at errand
  obtain ⟨gone, delivers, there⟩ := errand
  have delivered : ticketsOf task.custody.held = ticketsOf (task.operation.keeps result) := delivers.drawn
  have closes : ∀ sessionId, task.operation.closes = some sessionId → sessionId ∉ w.sessions := fun sessionId closing inside => by
    have still := (there sessionId closing).mp inside
    have ended : gone = true := delivers.gone (by rw [closing]; rfl)
    rw [ended] at still
    cases still
  obtain ⟨workKeeps, plainKeeps⟩ := finish_keeps task result (tabled.keeps task member) running
    { task.custody with held := [] }
  split at move <;> cases move
  · rename_i work
    refine steady_tabled [] tabled here (List.append_nil _).symm ⟨rfl, rfl, rfl⟩ rfl rfl (fun sessionId => ?_) ⟨rfl, closes⟩
      (workKeeps work) (by simp)
    rw [work_returned task work, work_returned _ (by exact work), carried_count task, carried_count, delivered, ticketsOf_append,
      List.count_append]
    simp [ticketsOf]
  · rename_i notWork
    rw [Bool.not_eq_true] at notWork
    refine steady_tabled [] tabled here (List.append_nil _).symm ⟨rfl, rfl, rfl⟩ ?_ rfl (fun sessionId => ?_) ⟨rfl, closes⟩
      (plainKeeps notWork) (by simp)
    · unfold tickets
      rw [(releases_same _ _).1]
    · rw [running_returned task ⟨_, running⟩, finished_returned _ result rfl (by exact notWork), carried_count task, carried_count,
        delivered]
      simp [ticketsOf, Nat.add_comm]

theorem begun_errand (w : World) (task : Task) (running : task.stage = .running task.operation.program)
    (custody : task.custody = task.operation.start) (there : ∀ sessionId, task.operation.closes = some sessionId →
      sessionId ∈ w.sessions) : task.OnErrand w := by
  unfold Task.OnErrand
  rw [running, custody]
  exact ⟨false, operation_delivers task.operation, fun sessionId closes => iff_of_true (there sessionId closes) rfl⟩

theorem begin_tabled (w w' : World) (i : Nat) (closed : List Int) (tabled : w.Tabled closed) (move : w.begin i = some w') :
    w'.Tabled closed := by
  obtain ⟨task, here, move⟩ := Option.bind_eq_some_iff.mp move
  split at move <;> cases move
  rename_i waiting
  have member := List.mem_of_getElem? here
  have errand := tabled.errand task member
  have keeps := tabled.keeps task member
  rw [Task.OnErrand, waiting] at errand
  obtain ⟨work, idle⟩ := errand
  have start : task.operation.start = {} := by
    cases operation : task.operation with
    | executeOpenSessionAsync data => rfl
    | _ =>
        rw [operation] at work
        cases work
  refine steady_tabled [] tabled here (List.append_nil _).symm ⟨rfl, rfl, rfl⟩ rfl rfl (fun sessionId => ?_)
    (begun_errand _ _ rfl rfl fun sessionId closes => ?_) ?_ (by simp)
  · rw [work_returned task work, work_returned _ (by exact work), carried_count task, carried_count, idle]
    simp [start]
  · rw [work_closes _ work] at closes
    cases closes
  · unfold Task.Keeps at keeps ⊢
    rw [waiting] at keeps
    cases operation : task.operation with
    | executeOpenSessionAsync data =>
        rw [operation] at keeps
        exact keeps
    | _ =>
        rw [operation] at work
        cases work

theorem completion_apart (w : World) (statusOk : Bool) (data : OpenSessionAsyncData) (sessionId : Int) :
    ∀ other ∈ [(Operation.completeOpenSessionAsync statusOk data sessionId).task],
      other.OnErrand w ∧ other.Keeps ∧ other.operation.closes = none := by
  intro other member
  obtain rfl := List.mem_singleton.mp member
  refine ⟨begun_errand w _ rfl rfl fun other closes => ?_, rfl, rfl⟩
  cases closes

theorem completion_carried (statusOk : Bool) (data : OpenSessionAsyncData) (sessionId : Int) :
    (Operation.completeOpenSessionAsync statusOk data sessionId).task.carried =
      if statusOk = true ∧ sessionId ≠ -1 then [sessionId] else [] := by
  change ticketsOf (.promise data.deferred :: if statusOk = true ∧ sessionId ≠ -1 then [.ticket sessionId] else []) = _
  split <;> rfl

theorem complete_tabled (w w' : World) (i : Nat) (closed : List Int) (tabled : w.Tabled closed)
    (move : w.complete i = some w') : w'.Tabled closed := by
  obtain ⟨task, here, move⟩ := Option.bind_eq_some_iff.mp move
  have member := List.mem_of_getElem? here
  have errand := tabled.errand task member
  have keeps := tabled.keeps task member
  unfold Task.OnErrand at errand
  unfold Task.Keeps at keeps
  split at move
  case h_1 data operation waiting =>
    rw [operation, waiting] at keeps
    rw [waiting] at errand
    obtain ⟨work, empty⟩ := errand
    cases move
    refine steady_tabled _ tabled here rfl ⟨rfl, rfl, rfl⟩ rfl rfl (fun sessionId => ?_) ?_ ?_
      (completion_apart _ false data (-1))
    · rw [work_returned task work, work_returned _ (by exact work), List.flatMap_singleton, List.flatMap_singleton,
        completion_carried, running_returned _ ⟨_, rfl⟩, carried_count task, carried_count, empty, keeps]
      rfl
    · change ticketsOf task.custody.held = []
      rw [empty]
      rfl
    · unfold Task.Keeps
      rw [operation]
  case h_2 data sessionId error operation finished =>
    rw [operation, finished] at keeps
    rw [finished] at errand
    have work : task.operation.isWork = true := by rw [operation]; rfl
    split at move
    · cases move
    · rename_i pending
      have kept := keeps.resolve_left pending
      cases move
      refine steady_tabled _ tabled here rfl ⟨rfl, rfl, rfl⟩ rfl rfl (fun other => ?_) ?_ ?_
        (completion_apart _ true data sessionId)
      · rw [work_returned task work, work_returned _ (by exact work), List.flatMap_singleton, List.flatMap_singleton,
          completion_carried, running_returned _ ⟨_, rfl⟩, carried_count task, carried_count, errand.1, kept]
        by_cases failed : sessionId = -1 <;> simp [failed, ticketsOf_cons, Handle.ticketOf]
      · unfold Task.OnErrand
        rw [finished]
        exact errand
      · unfold Task.Keeps
        rw [operation, finished]
        exact .inl rfl
  case h_3 => cases move

theorem started_keeps (operation : Operation) (fromJs : operation.fromJs = true) : operation.task.Keeps := by
  cases operation with
  | executeOpenSessionAsync data => cases fromJs
  | _ => rfl

theorem started_none (operation : Operation) (fromJs : operation.fromJs = true) :
    operation.task.carried = [] ∧ operation.task.returned = [] := by
  refine ⟨?_, running_returned operation.task ⟨_, rfl⟩⟩
  cases operation <;> first | rfl | cases fromJs

theorem start_tabled (w : World) (operation : Operation) (closed : List Int) (tabled : w.Tabled closed)
    (fromJs : operation.fromJs = true)
    (there : ∀ sessionId, operation.closes = some sessionId → sessionId ∈ w.sessions ∧ sessionId ∉ closed) :
    World.Tabled { w with tasks := w.tasks ++ [operation.task] } (operation.closes.toList ++ closed) where
  numbered := numbered_same w _ tabled.numbered (.refl _) rfl rfl
  distinct := tabled.distinct
  shares := fun sessionId => by
    obtain ⟨carried, returned⟩ := started_none operation fromJs
    simpa [World.returned, World.carried, carried, returned] using tabled.shares sessionId
  errand := fun task member => by
    rcases List.mem_append.mp member with old | new
    · exact onErrand_frame w _ task (tabled.errand task old) (fun _ _ => id) fun _ _ => id
    · obtain rfl := List.mem_singleton.mp new
      exact begun_errand _ _ rfl rfl fun sessionId closes => (there sessionId closes).1
  keeps := fun task member => by
    rcases List.mem_append.mp member with old | new
    · exact tabled.keeps task old
    · obtain rfl := List.mem_singleton.mp new
      exact started_keeps operation fromJs
  once := fun i j task other sessionId here also closes shuts => by
    have new : ∀ (k : Nat) (one : Task), (w.tasks ++ [operation.task])[k]? = some one → one.operation.closes = some sessionId →
        w.tasks[k]? = some one ∨ k = w.tasks.length ∧ operation.closes = some sessionId := by
      intro k one found closing
      rcases Nat.lt_trichotomy k w.tasks.length with old | rfl | past
      · exact .inl (List.getElem?_append_left old ▸ found)
      · obtain rfl : operation.task = one := by simpa using found
        exact .inr ⟨rfl, closing⟩
      · rw [List.getElem?_eq_none (by simp; omega)] at found
        cases found
    have fresh : ∀ (k : Nat) (one : Task), w.tasks[k]? = some one → one.operation.closes = some sessionId →
        operation.closes ≠ some sessionId := fun k one found closing mine =>
      (there sessionId mine).2 (tabled.closing one (List.mem_of_getElem? found) sessionId closing).1
    rcases new i task here closes with first | ⟨rfl, mine⟩ <;> rcases new j other also shuts with second | ⟨rfl, yours⟩
    · exact tabled.once i j task other sessionId first second closes shuts
    · exact absurd yours (fresh i task first closes)
    · exact absurd mine (fresh j other second shuts)
    · rfl
  kept := fun sessionId drawn left => tabled.kept sessionId drawn fun gone => left (List.mem_append_right _ gone)
  closing := fun task member sessionId closes => by
    rcases List.mem_append.mp member with old | new
    · exact (tabled.closing task old sessionId closes).imp_left (List.mem_append_right _)
    · obtain rfl := List.mem_singleton.mp new
      have mine : operation.closes = some sessionId := closes
      exact ⟨List.mem_append_left _ (by simp [mine]), sessions_drawn w tabled.numbered sessionId (there sessionId mine).1⟩
  closers := fun sessionId gone => by
    rcases List.mem_append.mp gone with mine | old
    · exact ⟨operation.task, List.mem_append_right _ (List.mem_singleton_self _), Option.mem_toList.mp mine⟩
    · obtain ⟨task, member, closes⟩ := tabled.closers sessionId old
      exact ⟨task, List.mem_append_left _ member, closes⟩

def Event.proceeds : Event → Bool
  | .start _ => false
  | _ => true

theorem step_tabled (w w' : World) (event : Event) (closed : List Int) (tabled : w.Tabled closed)
    (proceeds : event.proceeds = true) (move : step w event = some w')
    (bounded : (tickets w'.ledger).length < 2147483647) : w'.Tabled closed := by
  cases event with
  | start operation => cases proceeds
  | call i event => exact call_tabled w w' i event closed tabled move bounded
  | finish i => exact finish_tabled w w' i closed tabled move
  | begin i => exact begin_tabled w w' i closed tabled move
  | complete i => exact complete_tabled w w' i closed tabled move

theorem session_found (w : World) (i : Nat) (sessionId : Int) (purpose : Purpose) (there : sessionId ∈ w.sessions) :
    w.call i ⟨.findSession sessionId purpose, none⟩ = none := by
  refine Option.eq_none_iff_forall_ne_some.mpr fun w' move => ?_
  obtain ⟨task, program, next, after, here, running, resumed, respond, _, _⟩ := call_cases w w' i _ move
  obtain ⟨row, member, same⟩ := List.mem_map.mp there
  simp only [World.respond] at respond
  split at respond
  · rename_i missing
    exact List.find?_eq_none.mp (Option.map_eq_none_iff.mp missing.symm) row member (by simpa using same)
  · cases respond

/-- A close never looks for a session that is not there. -/
theorem close_found (w : World) (i : Nat) (sessionId : Int) (closed : List Int) (tabled : w.Tabled closed) :
    w.call i ⟨.findSession sessionId .close, none⟩ = none := by
  refine Option.eq_none_iff_forall_ne_some.mpr fun w' move => ?_
  obtain ⟨task, program, next, after, here, running, resumed, _, _, _⟩ := call_cases w w' i _ move
  have errand := tabled.errand task (List.mem_of_getElem? here)
  rw [Task.OnErrand, running] at errand
  obtain ⟨gone, obeys, there⟩ := errand
  obtain ⟨⟨closes, left⟩, _⟩ := obeys_resume (errands task.operation) _ program next _ _ obeys resumed
  rw [session_found w i sessionId .close ((there sessionId closes).mpr left)] at move
  cases move

theorem tabled_closed (w : World) (closed closed' : List Int) (same : ∀ sessionId, sessionId ∈ closed ↔ sessionId ∈ closed')
    (tabled : w.Tabled closed) : w.Tabled closed' :=
  { tabled with
    kept := fun sessionId drawn left => tabled.kept sessionId drawn fun gone => left ((same sessionId).mp gone)
    closing := fun task member sessionId closes =>
      (tabled.closing task member sessionId closes).imp_left (same sessionId).mp
    closers := fun sessionId gone => tabled.closers sessionId ((same sessionId).mpr gone) }

theorem returned_grows {w w' : World} {i : Nat} {task task' : Task} {spawned : List Task} (here : w.tasks[i]? = some task)
    (tasks : w'.tasks = w.tasks.set i task' ++ spawned) (none : task.returned = [])
    (resolutions : w.resolutions <:+ w'.resolutions) (sessionId : Int) :
    w.returned.count sessionId ≤ w'.returned.count sessionId := by
  obtain ⟨new, same⟩ := resolutions
  have counted := counted_update Task.returned w.tasks i task task' spawned here sessionId
  rw [none, List.count_nil] at counted
  rw [World.returned, World.returned, tasks, ← same, List.map_append, List.filter_append, List.count_append, List.count_append,
    List.count_append]
  omega

theorem step_given (w w' : World) (event : Event) (move : step w event = some w') (sessionId : Int) :
    w.returned.count sessionId ≤ w'.returned.count sessionId := by
  cases event with
  | start operation =>
      obtain ⟨_, same⟩ := Option.ite_none_right_eq_some.mp move
      obtain rfl := Option.some.inj same
      unfold World.returned
      rw [List.flatMap_append, List.count_append, List.count_append, List.count_append]
      exact Nat.add_le_add_right (Nat.le_add_right _ _) _
  | call i event =>
      obtain ⟨task, program, next, after, here, running, _, respond, _, rfl⟩ := call_cases w w' i event move
      obtain ⟨spawned, tasks, _⟩ := respond_tasks w after i event.request event.reply respond
      have resolutions := (respond_beside w after i event.request event.reply respond).resolutions
      exact returned_grows here (answered_tasks w after i task next _ _ spawned here tasks)
        (running_returned task ⟨program, running⟩) ⟨_, resolutions.symm⟩ sessionId
  | finish i =>
      obtain ⟨task, here, move⟩ := Option.bind_eq_some_iff.mp move
      split at move
      case h_2 => cases move
      rename_i result running
      have none := running_returned task ⟨_, running⟩
      split at move
      · have same := Option.some.inj move
        exact returned_grows here ((congrArg World.tasks same).symm.trans (List.append_nil _).symm) none
          (congrArg World.resolutions same ▸ List.suffix_refl _) sessionId
      · have same := Option.some.inj move
        exact returned_grows here ((congrArg World.tasks same).symm.trans (List.append_nil _).symm) none
          (congrArg World.resolutions same ▸ List.suffix_refl _) sessionId
  | begin i =>
      obtain ⟨task, here, move⟩ := Option.bind_eq_some_iff.mp move
      split at move
      case h_2 => cases move
      rename_i waiting
      have none : task.returned = [] := by
        unfold Task.returned
        rw [waiting]
        cases task.operation <;> rfl
      have same := Option.some.inj move
      exact returned_grows here ((congrArg World.tasks same).symm.trans (List.append_nil _).symm) none
        (congrArg World.resolutions same ▸ List.suffix_refl _) sessionId
  | complete i =>
      obtain ⟨task, here, move⟩ := Option.bind_eq_some_iff.mp move
      split at move
      case h_1 data operation waiting =>
        have same := Option.some.inj move
        exact returned_grows here (congrArg World.tasks same).symm (work_returned task (by rw [operation]; rfl))
          (congrArg World.resolutions same ▸ List.suffix_refl _) sessionId
      case h_2 data sessionId' error operation finished =>
        split at move
        · cases move
        · have same := Option.some.inj move
          exact returned_grows here (congrArg World.tasks same).symm (work_returned task (by rw [operation]; rfl))
            (congrArg World.resolutions same ▸ List.suffix_refl _) sessionId
      case h_3 => cases move

end Kessh.Native
