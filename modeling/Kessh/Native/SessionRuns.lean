import Kessh.Native.SessionOwnership

set_option autoImplicit false

namespace Kessh.Native

open Interaction Ledger

-- The ids that reached JavaScript: from OpenSession, and through resolved promises.
def Task.returned (task : Task) : List Int :=
  match task.operation, task.stage with
  | .openSession _ _ _ _, .finished (.int32 sessionId) => [sessionId]
  | _, _ => []

def World.returned (w : World) : List Int :=
  w.tasks.flatMap Task.returned ++ (w.resolutions.map Prod.snd).filter (· != -1)

-- An id is returned when its ticket is handed out.
def World.Returned (w : World) : Prop :=
  ∀ sessionId, w.returned.count sessionId = (released w.ledger).count (.ticket sessionId)

theorem running_returned (task : Task) (running : ∃ program, task.stage = .running program) : task.returned = [] := by
  obtain ⟨program, running⟩ := running
  unfold Task.returned
  rw [running]
  cases task.operation <;> rfl

theorem returned_update (tasks : List Task) (i : Nat) (task task' : Task) (spawned : List Task)
    (here : tasks[i]? = some task) (new : ∀ other ∈ spawned, other.returned = []) (sessionId : Int) :
    ((tasks.set i task' ++ spawned).flatMap Task.returned).count sessionId + task.returned.count sessionId =
      (tasks.flatMap Task.returned).count sessionId + task'.returned.count sessionId := by
  have before := (split_tasks Task.returned tasks i task here).count_eq sessionId
  have after := (split_set Task.returned tasks i task task' here).count_eq sessionId
  have none : spawned.flatMap Task.returned = [] := List.flatMap_eq_nil_iff.mpr new
  rw [List.flatMap_append, none, List.append_nil]
  rw [List.count_append] at before after
  omega

-- What any call does beside the table: a queued open, the resolutions, and a new ticket.
structure Beside (w after : World) (call : Call) : Prop where
  tasks : ∃ spawned, after.tasks = w.tasks ++ spawned ∧ ∀ other ∈ spawned, other.returned = []
  resolutions : after.resolutions = call.resolves ++ w.resolutions
  ledger : after.ledger = w.ledger ∨
    ∃ entry sessionId, call = .insertSession entry ∧ after.ledger = .acquire (.ticket sessionId) :: w.ledger

theorem respond_beside (w after : World) (i : Nat) (call : Call) (reply : Reply call)
    (respond : w.respond i call reply = some after) : Beside w after call := by
  have none : ∃ spawned, w.tasks = w.tasks ++ spawned ∧ ∀ other ∈ spawned, other.returned = [] := ⟨[], by simp⟩
  cases plain : call.plain reply with
  | true =>
      obtain ⟨_, _, _, tasks, ledger, resolutions⟩ := respond_plain w after i call reply plain respond
      exact ⟨⟨[], by simpa using tasks, by simp⟩, resolutions, .inl ledger⟩
  | false =>
      cases call with
      | lock mutex =>
          simp only [World.respond] at respond
          split at respond <;> cases respond
          exact ⟨none, rfl, .inl rfl⟩
      | unlock mutex =>
          simp only [World.respond] at respond
          split at respond <;> cases respond
          exact ⟨none, rfl, .inl rfl⟩
      | findSession sessionId purpose =>
          simp only [World.respond] at respond
          split at respond <;> cases respond
          exact ⟨none, rfl, .inl rfl⟩
      | insertSession entry =>
          simp only [World.respond] at respond
          split at respond <;> cases respond
          exact ⟨none, rfl, .inr ⟨entry, reply, rfl, rfl⟩⟩
      | eraseSession sessionId =>
          cases respond
          exact ⟨none, rfl, .inl rfl⟩
      | setKeepaliveFailures sessionId failures =>
          cases respond
          exact ⟨none, rfl, .inl rfl⟩
      | queueAsyncWork data =>
          cases reply with
          | true =>
              cases respond
              exact ⟨⟨_, rfl, fun other member => by rw [List.mem_singleton.mp member]; rfl⟩, rfl, .inl rfl⟩
          | false => cases plain
      | _ => cases plain

theorem answered_released (w after : World) (i : Nat) (task : Task) (next : Routine Result) (call : Call)
    (reply : Reply call) (beside : Beside w after call) :
    released (w.answered after i task next call reply).ledger =
      (live w.ledger).filter (frees call reply) ++ released w.ledger := by
  change released (record _ _ _ after.ledger) = _
  rw [(record_same _ _ _ _).2]
  rcases beside.ledger with same | ⟨entry, sessionId, rfl, same⟩
  · rw [same]
  · rw [same]
    have nothing : frees (.insertSession entry) reply = fun _ => false := rfl
    rw [nothing, List.filter_false, List.filter_false]
    rfl

theorem ticket_released (call : Call) (reply : Reply call) (ledger : List (Entry Handle)) (sound : Sound ledger)
    (alive : ∀ resolution ∈ call.resolves, resolution.2 ≠ -1 → .ticket resolution.2 ∈ live ledger) (sessionId : Int) :
    ((live ledger).filter (frees call reply)).count (.ticket sessionId) =
      ((call.resolves.map Prod.snd).filter (· != -1)).count sessionId := by
  cases call with
  | resolveDeferred deferred value =>
      have freed : frees (.resolveDeferred deferred value) reply (.ticket sessionId) =
          (decide (value ≠ -1) && decide (sessionId = value)) := by
        have promise : (Handle.ticket sessionId == Handle.promise deferred) = false := rfl
        simp only [frees, promise, Bool.false_or]
        exact congrArg _ (decide_eq_decide.mpr ⟨fun same => Handle.ticket.inj same, congrArg _⟩)
      by_cases handed : value ≠ -1 ∧ sessionId = value
      · obtain ⟨valid, rfl⟩ := handed
        rw [List.count_filter (by rw [freed]; simp [valid]),
          List.count_eq_one_of_mem (sound_nodup ledger sound).2.1 (alive (deferred, sessionId) (by simp) valid)]
        simp [valid]
      · rw [List.count_eq_zero.mpr fun inside => ?_, List.count_eq_zero.mpr ?_]
        · intro inside
          obtain ⟨member, valid⟩ := List.mem_filter.mp inside
          have same : sessionId = value := by simpa using member
          subst same
          exact handed ⟨by simpa using valid, rfl⟩
        · have frees := (List.mem_filter.mp inside).2
          rw [freed] at frees
          exact handed (by simpa using frees)
  | _ =>
      have freed : ∀ handle ∈ live ledger, frees _ reply handle = true → handle ≠ .ticket sessionId := by
        intro handle _ freed same
        subst same
        simp [Handle.within] at freed
      rw [List.count_eq_zero.mpr fun inside =>
        freed _ (List.mem_filter.mp inside).1 (List.mem_filter.mp inside).2 rfl]
      simp

theorem call_returned (w w' : World) (i : Nat) (event : Interaction.Event Call Reply) (owns : w.Owns)
    (returned : w.Returned) (move : w.call i event = some w') : w'.Returned := by
  obtain ⟨task, program, next, after, here, running, resumed, respond, _, rfl⟩ := call_cases w w' i event move
  obtain ⟨call, reply⟩ := event
  have staged := (owns.tasks i task here).staged
  rw [Task.Staged, running] at staged
  obtain ⟨allowed, _⟩ := obeys_resume (discipline task.operation.strict) _ program next _ _ staged resumed
  have beside := respond_beside w after i call reply respond
  obtain ⟨spawned, tasks, new⟩ := beside.tasks
  have alive : ∀ resolution ∈ call.resolves, resolution.2 ≠ -1 → .ticket resolution.2 ∈ live w.ledger := by
    intro resolution resolving valid
    cases call <;> simp at resolving
    subst resolving
    have owned := (split_owned w i task here).mem_iff.mpr (List.mem_append_left _ (allowed.2.2 valid))
    exact owns.balanced.2.mem_iff.mpr owned
  intro sessionId
  have before := returned sessionId
  have counted := returned_update w.tasks i task (task.resumed w after next call reply) spawned here new sessionId
  rw [running_returned task ⟨program, running⟩, running_returned (task.resumed w after next call reply) ⟨next, rfl⟩,
    List.count_nil] at counted
  rw [answered_released w after i task next call reply beside, List.count_append,
    ticket_released call reply w.ledger owns.balanced.1 alive sessionId, ← before]
  have resolutions : (w.answered after i task next call reply).resolutions = call.resolves ++ w.resolutions :=
    beside.resolutions
  rw [World.returned, World.returned, answered_tasks w after i task next call reply spawned here tasks, resolutions,
    List.map_append, List.filter_append, List.count_append, List.count_append, List.count_append]
  omega

theorem finish_returned (w w' : World) (i : Nat) (returned : w.Returned) (move : w.finish i = some w') : w'.Returned := by
  obtain ⟨task, here, move⟩ := Option.bind_eq_some_iff.mp move
  split at move
  case h_2 => cases move
  rename_i result running
  have before := running_returned task ⟨_, running⟩
  have counted := fun task' sessionId => returned_update w.tasks i task task' [] here (by simp) sessionId
  simp only [before, List.count_nil, List.append_nil, Nat.add_zero] at counted
  intro sessionId
  have same := returned sessionId
  rw [World.returned, List.count_append] at same ⊢
  split at move <;> cases move
  · rename_i work
    rw [counted]
    cases operation : task.operation with
    | executeOpenSessionAsync data => simpa [Task.returned, operation] using same
    | _ => rw [operation] at work; cases work
  · rename_i work
    rw [counted, (releases_same _ _).2, List.count_append]
    have handed : ({ task with stage := .finished result, custody := { task.custody with held := [] } } :
        Task).returned.count sessionId = (task.operation.keeps result).count (.ticket sessionId) := by
      cases operation : task.operation with
      | openSession host port user pass =>
          cases result with
          | int32 value => simp [Task.returned, List.count_cons]
          | _ => simp [Task.returned]
      | executeOpenSessionAsync data => exact (work (by rw [operation]; rfl)).elim
      | _ => simp [Task.returned]
    dsimp only at handed ⊢
    omega

theorem quiet_returned (w w' : World) (i : Nat) (task task' : Task) (spawned : List Task) (here : w.tasks[i]? = some task)
    (returned : w.Returned) (same : w' = { w with tasks := w.tasks.set i task' ++ spawned })
    (kept : task'.returned = task.returned) (new : ∀ other ∈ spawned, other.returned = []) : w'.Returned := by
  intro sessionId
  have counted := returned_update w.tasks i task task' spawned here new sessionId
  have before := returned sessionId
  rw [kept] at counted
  rw [World.returned, List.count_append] at before ⊢
  rw [same]
  dsimp only
  omega

theorem begin_returned (w w' : World) (i : Nat) (returned : w.Returned) (move : w.begin i = some w') : w'.Returned := by
  obtain ⟨task, here, move⟩ := Option.bind_eq_some_iff.mp move
  split at move <;> cases move
  rename_i waiting
  refine quiet_returned w _ i task _ [] here returned (by rw [List.append_nil]) ?_ (by simp)
  rw [running_returned _ ⟨_, rfl⟩]
  unfold Task.returned
  rw [waiting]
  cases task.operation <;> rfl

theorem complete_returned (w w' : World) (i : Nat) (returned : w.Returned) (move : w.complete i = some w') :
    w'.Returned := by
  obtain ⟨task, here, move⟩ := Option.bind_eq_some_iff.mp move
  split at move
  case h_1 data operation waiting =>
    refine quiet_returned w w' i task _ _ here returned (Option.some.inj move).symm ?_ (by simp; rfl)
    simp [Task.returned, operation]
  case h_2 data sessionId error operation finished =>
    split at move
    · cases move
    · refine quiet_returned w w' i task _ _ here returned (Option.some.inj move).symm ?_ (by simp; rfl)
      simp [Task.returned, operation]
  case h_3 => cases move

theorem start_returned (w : World) (operation : Operation) (returned : w.Returned) :
    World.Returned { w with tasks := w.tasks ++ [operation.task] } := by
  intro sessionId
  have none : operation.task.returned = [] := running_returned _ ⟨_, rfl⟩
  simpa [World.returned, none] using returned sessionId

theorem step_tickets (w w' : World) (event : Event) (move : step w event = some w') :
    (tickets w.ledger).length ≤ (tickets w'.ledger).length := by
  cases event with
  | start operation =>
      simp only [step] at move
      split at move <;> cases move
      exact Nat.le_refl _
  | call i event =>
      obtain ⟨task, _, next, after, _, _, _, respond, _, rfl⟩ := call_cases w w' i event move
      change _ ≤ (tickets (record _ _ _ after.ledger)).length
      rw [tickets_record]
      rcases (respond_beside w after i _ _ respond).ledger with same | ⟨_, sessionId, _, same⟩
      · rw [same]
      · rw [same]
        exact Nat.le_succ _
  | finish i =>
      obtain ⟨task, _, move⟩ := Option.bind_eq_some_iff.mp move
      split at move
      · split at move <;> cases move
        · exact Nat.le_refl _
        · simp only [tickets, (releases_same _ _).1]
          exact Nat.le_refl _
      · cases move
  | begin i =>
      obtain ⟨task, _, move⟩ := Option.bind_eq_some_iff.mp move
      split at move <;> cases move
      exact Nat.le_refl _
  | complete i =>
      obtain ⟨task, _, move⟩ := Option.bind_eq_some_iff.mp move
      split at move
      · cases move
        exact Nat.le_refl _
      · split at move <;> cases move
        exact Nat.le_refl _
      · cases move

-- libssh2 frees what it is asked to: a session, and the channel that a command ran on.
def Completes (w : World) : Event → Prop
  | .call i event => ∀ task, w.tasks[i]? = some task → completes task.operation.strict event.request event.reply
  | _ => True

theorem step_owns (w w' : World) (event : Event) (owns : w.Owns) (move : step w event = some w')
    (completed : Completes w event) (bounded : (tickets w'.ledger).length < 2147483647) : w'.Owns := by
  cases event with
  | start operation =>
      simp only [step] at move
      split at move <;> cases move
      rename_i fromJs
      exact start_owns w operation owns fromJs
  | call i event => exact call_owns w w' i event owns move completed bounded
  | finish i => exact finish_owns w w' i owns move
  | begin i => exact begin_owns w w' i owns move
  | complete i => exact complete_owns w w' i owns move

theorem step_returned (w w' : World) (event : Event) (owns : w.Owns) (returned : w.Returned)
    (move : step w event = some w') : w'.Returned := by
  cases event with
  | start operation =>
      simp only [step] at move
      split at move <;> cases move
      exact start_returned w operation returned
  | call i event => exact call_returned w w' i event owns returned move
  | finish i => exact finish_returned w w' i returned move
  | begin i => exact begin_returned w w' i returned move
  | complete i => exact complete_returned w w' i returned move

-- An operation is ended when it has returned and nothing waits for its completion.
def Task.ended (task : Task) : Bool :=
  match task.stage with
  | .finished _ => task.kept.isEmpty
  | .cancelled => true
  | _ => false

structure World.SessionOwnership (w : World) : Prop where
  ids : w.returned.Nodup ∧ ∀ sessionId ∈ w.returned, 0 < sessionId ∧ sessionId ∈ tickets w.ledger
  entered : (tickets w.ledger).Nodup ∧ (w.table.map Row.id).Nodup ∧ ∀ row ∈ w.table, row.id ∈ tickets w.ledger
  owned : ∀ handle ∈ acquired w.ledger,
    (w.owned.count handle = 1 ∧ (released w.ledger).count handle = 0) ∨
      (w.owned.count handle = 0 ∧ (released w.ledger).count handle = 1)
  owners : ∀ task ∈ w.tasks, task.ended = true → task.handles = []
  used : ∀ later earlier handle, w.ledger = later ++ .use handle :: earlier →
    handle ∈ acquired earlier ∧ handle ∉ released earlier
  failed : ∀ task ∈ w.tasks, ∀ result, task.stage = .finished result → task.operation.failedOpen result = true →
    task.changed = false ∧ ∀ handle ∈ task.gained, handle ∈ released w.ledger
  promises : ∀ deferred, .promise deferred ∈ acquired w.ledger →
    (deferred ∉ w.resolutions.map Prod.fst ∧ ∃ task ∈ w.tasks, task.ended = false ∧ .promise deferred ∈ task.handles) ∨
      ((w.resolutions.map Prod.fst).count deferred = 1 ∧
        ∃ value, (deferred, value) ∈ w.resolutions ∧ (value = -1 ∨ value ∈ tickets w.ledger))

theorem ended_empty (w : World) (i : Nat) (task : Task) (holds : task.Holds w i) (ended : task.ended = true) :
    task.handles = [] := by
  have staged := holds.staged
  have keeps := holds.keeps
  unfold Task.ended at ended
  unfold Task.Staged at staged
  split at ended
  case h_1 result finished =>
    rw [finished] at staged
    simp [Task.handles, staged.1, List.isEmpty_iff.mp ended]
  case h_2 cancelled =>
    unfold Task.Keeps at keeps
    rw [cancelled] at staged keeps
    cases operation : task.operation <;> simp [operation] at keeps
    simp [Task.handles, staged, keeps]
  case h_3 => cases ended

theorem used_live (ledger later earlier : List (Entry Handle)) (handle : Handle) (sound : Sound ledger)
    (same : ledger = later ++ .use handle :: earlier) : handle ∈ acquired earlier ∧ handle ∉ released earlier := by
  subst same
  have alive := sound_used later earlier handle sound
  have soundEarlier : Sound earlier := by
    induction later with
    | nil => exact sound.2
    | cons entry rest ih => cases entry <;> exact ih sound.2
  exact ⟨balanced_owned_acquired _ _ ⟨soundEarlier, .refl _⟩ handle alive,
    balanced_owned_not_released _ _ ⟨soundEarlier, .refl _⟩ handle alive⟩

theorem drawn_distinct (w : World) (sound : Sound w.ledger) : (tickets w.ledger).Nodup := by
  refine List.Nodup.filterMap (fun left right sessionId first second => ?_) (sound_nodup w.ledger sound).1
  cases left <;> cases right <;> simp_all [Handle.ticketOf]

theorem owns_ownership (w : World) (owns : w.Owns) (returned : w.Returned) : w.SessionOwnership where
  ids := by
    have distinct := (sound_nodup w.ledger owns.balanced.1).2.2
    refine ⟨List.nodup_iff_count.mpr fun sessionId => ?_, fun sessionId member => ?_⟩
    · rw [returned sessionId]
      exact List.nodup_iff_count.mp distinct _
    · have counts := sound_count w.ledger owns.balanced.1 (.ticket sessionId)
      have positive := List.count_pos_iff.mpr member
      rw [returned sessionId] at positive
      have drawn : sessionId ∈ tickets w.ledger :=
        List.mem_filterMap.mpr ⟨.ticket sessionId, List.count_pos_iff.mp (by omega), rfl⟩
      exact ⟨(owns.numbered.range sessionId drawn).1, drawn⟩
  entered := ⟨drawn_distinct w owns.balanced.1, owns.numbered.keys, owns.numbered.drawn⟩
  owned := balanced_exclusive w.ledger w.owned owns.balanced
  owners task member ended := by
    obtain ⟨i, there⟩ := List.getElem?_of_mem member
    exact ended_empty w i task (owns.tasks i task there) ended
  used later earlier handle := used_live w.ledger later earlier handle owns.balanced.1
  failed task member result finished failing := by
    obtain ⟨i, there⟩ := List.getElem?_of_mem member
    have holds := owns.tasks i task there
    have staged := holds.staged
    rw [Task.Staged, finished] at staged
    have uncommitted := staged.2.2.2 failing
    refine ⟨Bool.eq_false_iff.mpr fun changed => ?_, fun handle gained => ?_⟩
    · rw [holds.changed changed] at uncommitted
      cases uncommitted
    · refine (holds.gained uncommitted handle gained).resolve_left fun held => ?_
      rw [staged.1] at held
      cases held
  promises deferred known := by
    have once := owns.resolved.once deferred
    rcases balanced_exclusive w.ledger w.owned owns.balanced _ known with ⟨owned, pending⟩ | ⟨_, resolved⟩
    · refine .inl ⟨List.count_eq_zero.mp (once.trans pending), ?_⟩
      have member : .promise deferred ∈ w.owned := List.count_pos_iff.mp (by omega)
      rcases List.mem_append.mp member with tasks | table
      · obtain ⟨task, inside, held⟩ := List.mem_flatMap.mp tasks
        obtain ⟨i, there⟩ := List.getElem?_of_mem inside
        refine ⟨task, inside, Bool.eq_false_iff.mpr fun ended => ?_, held⟩
        rw [ended_empty w i task (owns.tasks i task there) ended] at held
        cases held
      · obtain ⟨row, _, held⟩ := List.mem_flatMap.mp table
        unfold Row.handles at held
        split at held <;> simp [KesshSession.handles] at held
    · refine .inr ⟨once.trans resolved, ?_⟩
      have member := List.count_pos_iff.mp (by omega : 0 < (w.resolutions.map Prod.fst).count deferred)
      obtain ⟨⟨_, value⟩, inside, rfl⟩ := List.mem_map.mp member
      exact ⟨value, inside, owns.resolved.value _ inside⟩

def Moves (w : World) (event : Event) (w' : World) : Prop := Labelled.Moves step w event w'

def CompletingMoves (w : World) (event : Event) (w' : World) : Prop := Moves w event w' ∧ Completes w event

/-- In every run in which libssh2 frees what it is asked to free, and with fewer than
2^31 - 1 successful opens, session ids, handles, failed opens and promises are in order
at each moment. -/
theorem session_ownership (events : List Event) (w : World) (run : Labelled.Run CompletingMoves {} events w)
    (bounded : (tickets w.ledger).length < 2147483647) : w.SessionOwnership := by
  have kept := Labelled.run_invariant CompletingMoves
    (fun w => (tickets w.ledger).length < 2147483647 → w.Owns ∧ w.Returned)
    (fun before event after invariant ⟨move, completed⟩ short => by
      obtain ⟨owns, returned⟩ := invariant (Nat.lt_of_le_of_lt (step_tickets before after event move) short)
      exact ⟨step_owns before after event owns move completed short,
        step_returned before after event owns returned move⟩)
    {} events w (fun _ => ⟨owns_initial, fun _ => rfl⟩) run
  obtain ⟨owns, returned⟩ := kept bounded
  exact owns_ownership w owns returned

-- A session is opened by the first operation, read from by the second and closed by the third.
def answer (task : Nat) (call : Call) (reply : Reply call) : Event := .call task ⟨call, reply⟩

def exampleAddress : Address := { family := 2, socktype := 1, protocol := 6, addr := [127, 0, 0, 1] }

def exampleEntry : KesshSession := .opened 0 0 0

def openRun : List Event :=
  [.start (.openSession (bytes "h") 22 (bytes "u") (bytes "p")),
    answer 0 (.getaddrinfo (bytes "h") (bytes "22")) (.ok { handle := 0, addresses := [exampleAddress] }),
    answer 0 (.socket exampleAddress) (.ok 0), answer 0 (.setSocketTimeouts 0 10) true,
    answer 0 (.connect 0 exampleAddress) none, answer 0 (.freeaddrinfo 0) (),
    answer 0 (.lock .init) (), answer 0 .libssh2Initialized false, answer 0 .libssh2Init (0 : Int),
    answer 0 .setLibssh2Initialized (), answer 0 (.unlock .init) (), answer 0 .sessionInit (some 0),
    answer 0 (.sessionSetTimeout 0 5000) (), answer 0 (.sessionHandshake 0 0) (0 : Int),
    answer 0 (.lock .keepaliveConfig) (), answer 0 .keepaliveIntervalSeconds (30 : Int),
    answer 0 (.unlock .keepaliveConfig) (), answer 0 (.keepaliveConfig 0 30) (),
    answer 0 (.userauthPassword 0 (bytes "u") (bytes "p")) (0 : Int), answer 0 (.channelOpenSession 0) (some 0),
    answer 0 (.channelRequestPty exampleEntry.channel (bytes "vt100")) (0 : Int),
    answer 0 (.channelShell exampleEntry.channel) (0 : Int), answer 0 (.lock .session) (),
    answer 0 (.insertSession exampleEntry) (1 : Int), answer 0 (.unlock .session) (), .finish 0]

def readRun : List Event :=
  [.start (.read 1), answer 1 (.lock .session) (), answer 1 (.findSession 1 .use) (some exampleEntry),
    answer 1 (.channelSetBlocking exampleEntry.channel false) (),
    answer 1 (.channelRead exampleEntry.channel 4096) (.error LIBSSH2_ERROR_EAGAIN), answer 1 (.unlock .session) (), .finish 1]

def closeRun (freed : Int) : List Event :=
  [.start (.closeSession 1), answer 2 (.lock .session) (), answer 2 (.findSession 1 .close) (some exampleEntry),
    answer 2 (.channelFree exampleEntry.channel) freed, answer 2 (.sessionDisconnect 0 (bytes "Normal Shutdown")) (0 : Int),
    answer 2 (.sessionFree 0) freed, answer 2 (.close 0) (), answer 2 (.eraseSession 1) (), answer 2 (.unlock .session) (),
    .finish 2]

theorem completing_run (events : List Event) (w : World) (run : Labelled.Run Moves {} events w)
    (completed : ∀ event ∈ events, ∀ before, Completes before event) : Labelled.Run CompletingMoves {} events w := by
  induction run with
  | nil => exact .nil
  | snoc labels state next label _ last ih =>
      refine .snoc labels state next label (ih fun event member => completed event (by simp [member])) ⟨last, ?_⟩
      exact completed label (by simp) state

theorem closed_completes : ∀ event ∈ openRun ++ readRun ++ closeRun 0, ∀ before, Completes before event := by
  simp only [openRun, readRun, closeRun, List.cons_append, List.nil_append, List.forall_mem_cons]
  and_intros
  all_goals first
    | exact fun _ => trivial
    | exact fun _ _ _ => trivial
    | exact fun _ _ _ => rfl
    | exact fun _ _ _ _ => rfl
    | exact fun _ member => by cases member

theorem session_ownership_closed :
    ∃ w, Labelled.Run CompletingMoves {} (openRun ++ readRun ++ closeRun 0) w ∧ (tickets w.ledger).length < 2147483647 ∧
      w.SessionOwnership := by
  have computed : ((openRun ++ readRun ++ closeRun 0).foldlM step {}).map
      (fun w => decide ((tickets w.ledger).length < 2147483647)) = some true := by decide +kernel
  obtain ⟨w, moved, bounded⟩ := Option.map_eq_some_iff.mp computed
  have run := completing_run _ w (Labelled.moves_run step {} w _ moved) closed_completes
  have short := of_decide_eq_true bounded
  exact ⟨w, run, short, session_ownership _ w run short⟩

-- After a read the session does not block, and closing it gives up when the socket is full:
-- the session is not freed, and nobody has it any more.
theorem closed_session_unfreed :
    ∃ w, Labelled.Run Moves {} (openRun ++ readRun ++ closeRun LIBSSH2_ERROR_EAGAIN) w ∧
      (tickets w.ledger).length < 2147483647 ∧ ¬ w.SessionOwnership := by
  have computed : ((openRun ++ readRun ++ closeRun LIBSSH2_ERROR_EAGAIN).foldlM step {}).map
      (fun w => decide ((tickets w.ledger).length < 2147483647 ∧ .session 0 ∈ acquired w.ledger ∧
        w.owned.count (.session 0) = 0 ∧ (released w.ledger).count (.session 0) = 0)) = some true := by decide +kernel
  obtain ⟨w, moved, facts⟩ := Option.map_eq_some_iff.mp computed
  obtain ⟨short, known, unowned, unreleased⟩ := of_decide_eq_true facts
  refine ⟨w, Labelled.moves_run step {} w _ moved, short, fun ownership => ?_⟩
  have counts := ownership.owned _ known
  omega

end Kessh.Native
