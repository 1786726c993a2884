set_option autoImplicit false

-- Programs that reach the world outside only by requests, each answered by a reply.
namespace Interaction

variable {C : Type} {R : C → Type} {α β : Type}

-- A loop makes one request a round; the reply gives the next state or leaves the loop.
inductive Program (C : Type) (R : C → Type) (α : Type) : Type 1 where
  | done (value : α)
  | call (request : C) (proceed : R request → Program C R α)
  | loop {σ : Type} (state : σ) (request : σ → C) (again : (s : σ) → R (request s) → Option σ)
      (leave : (s : σ) → R (request s) → Program C R α)

namespace Program

def bind : Program C R α → (α → Program C R β) → Program C R β
  | .done value, rest => rest value
  | .call request proceed, rest => .call request fun reply => (proceed reply).bind rest
  | .loop state request again leave, rest => .loop state request again fun s reply => (leave s reply).bind rest

instance : Monad (Program C R) where
  pure := .done
  bind := .bind

def ask (request : C) : Program C R (R request) := .call request .done

@[simp] theorem pure_eq (value : α) : (pure value : Program C R α) = .done value := rfl

@[simp] theorem bind_eq (program : Program C R α) (rest : α → Program C R β) : program >>= rest = program.bind rest := rfl

@[simp] theorem map_eq (f : α → β) (program : Program C R α) : f <$> program = program.bind fun v => .done (f v) := rfl

@[simp] theorem done_bind (value : α) (rest : α → Program C R β) : (done value).bind rest = rest value := rfl

@[simp] theorem call_bind (request : C) (proceed : R request → Program C R α) (rest : α → Program C R β) :
    (call request proceed).bind rest = call request fun reply => (proceed reply).bind rest := rfl

@[simp] theorem ask_bind (request : C) (rest : R request → Program C R β) : (ask request).bind rest = call request rest := rfl

theorem bind_assoc {γ : Type} (program : Program C R α) (first : α → Program C R β) (second : β → Program C R γ) :
    (program.bind first).bind second = program.bind fun value => (first value).bind second := by
  induction program with
  | done value => rfl
  | call request proceed ih => exact congrArg (Program.call request) (funext ih)
  | loop state request again leave ih =>
      exact congrArg (Program.loop state request again) (funext fun s => funext fun reply => ih s reply)

end Program

structure Event (C : Type) (R : C → Type) where
  request : C
  reply : R request

section

variable [DecidableEq C]

def resume : Program C R α → Event C R → Option (Program C R α)
  | .done _, _ => none
  | .call request proceed, event =>
      if same : event.request = request then some (proceed (same ▸ event.reply)) else none
  | .loop state request again leave, event =>
      if same : event.request = request state then
        match again state (same ▸ event.reply) with
        | some next => some (.loop next request again leave)
        | none => some (leave state (same ▸ event.reply))
      else none

def Trace (program : Program C R α) (events : List (Event C R)) (result : α) : Prop :=
  events.foldlM resume program = some (.done result)

theorem trace_unique (program : Program C R α) (events : List (Event C R)) (left right : α)
    (first : Trace program events left) (second : Trace program events right) : left = right :=
  Program.done.inj (Option.some.inj (first.symm.trans second))

def outcome : Program C R α → Option α
  | .done value => some value
  | _ => none

theorem trace_outcome (program : Program C R α) (events : List (Event C R)) (result : α)
    (ended : (events.foldlM resume program).bind outcome = some result) : Trace program events result := by
  obtain ⟨last, run, value⟩ := Option.bind_eq_some_iff.mp ended
  cases last with
  | done value' =>
      obtain rfl := Option.some.inj value
      exact run
  | call request proceed => cases value
  | loop state request again leave => cases value

theorem resume_call (request : C) (proceed : R request → Program C R α) (reply : R request) :
    resume (.call request proceed) ⟨request, reply⟩ = some (proceed reply) := by
  simp [resume]

theorem resume_call_some (request : C) (proceed : R request → Program C R α) (event : Event C R)
    (next : Program C R α) (move : resume (.call request proceed) event = some next) :
    ∃ reply, event = ⟨request, reply⟩ ∧ next = proceed reply := by
  obtain ⟨asked, reply⟩ := event
  simp only [resume] at move
  split at move
  · rename_i same
    subst same
    exact ⟨reply, rfl, (Option.some.inj move).symm⟩
  · exact absurd move (by simp)

theorem resume_loop_some {σ : Type} (state : σ) (request : σ → C) (again : (s : σ) → R (request s) → Option σ)
    (leave : (s : σ) → R (request s) → Program C R α) (event : Event C R) (next : Program C R α)
    (move : resume (.loop state request again leave) event = some next) :
    ∃ reply, event = ⟨request state, reply⟩ ∧
      ((∃ following, again state reply = some following ∧ next = .loop following request again leave) ∨
        again state reply = none ∧ next = leave state reply) := by
  obtain ⟨asked, reply⟩ := event
  simp only [resume] at move
  split at move
  · rename_i same
    subst same
    refine ⟨reply, rfl, ?_⟩
    split at move
    · rename_i following continues
      exact .inl ⟨following, continues, (Option.some.inj move).symm⟩
    · rename_i ends
      exact .inr ⟨ends, (Option.some.inj move).symm⟩
  · exact absurd move (by simp)

def pending : Program C R α → Option C
  | .done _ => none
  | .call request _ => some request
  | .loop state request _ _ => some (request state)

theorem resume_pending (program next : Program C R α) (event : Event C R) (move : resume program event = some next) :
    pending program = some event.request := by
  cases program with
  | done value => cases move
  | call request proceed =>
      obtain ⟨reply, rfl, _⟩ := resume_call_some request proceed event next move
      rfl
  | loop state request again leave =>
      obtain ⟨reply, rfl, _⟩ := resume_loop_some state request again leave event next move
      rfl

theorem run_point (program next : Program C R α) (before after : List (Event C R)) (event : Event C R)
    (run : (before ++ event :: after).foldlM resume program = some next) :
    ∃ point, before.foldlM resume program = some point ∧ pending point = some event.request := by
  simp only [List.foldlM_append, List.foldlM_cons, Option.bind_eq_bind, Option.bind_eq_some_iff] at run
  obtain ⟨point, reached, between, move, _⟩ := run
  exact ⟨point, reached, resume_pending point between event move⟩

theorem trace_done (value result : α) (events : List (Event C R)) :
    Trace (.done value) events result ↔ events = [] ∧ value = result := by
  cases events with
  | nil => simp [Trace]
  | cons event rest => simp [Trace, resume]

theorem trace_call (request : C) (proceed : R request → Program C R α) (events : List (Event C R)) (result : α) :
    Trace (.call request proceed) events result ↔
      ∃ reply rest, events = ⟨request, reply⟩ :: rest ∧ Trace (proceed reply) rest result := by
  constructor
  · intro trace
    cases events with
    | nil => simp [Trace] at trace
    | cons event rest =>
        simp only [Trace, List.foldlM_cons, Option.bind_eq_bind, Option.bind_eq_some_iff] at trace
        obtain ⟨next, move, later⟩ := trace
        obtain ⟨reply, rfl, rfl⟩ := resume_call_some request proceed event next move
        exact ⟨reply, rest, rfl, later⟩
  · rintro ⟨reply, rest, rfl, later⟩
    simpa [Trace, resume_call] using later

theorem trace_loop {σ : Type} (state : σ) (request : σ → C) (again : (s : σ) → R (request s) → Option σ)
    (leave : (s : σ) → R (request s) → Program C R α) (events : List (Event C R)) (result : α)
    (trace : Trace (.loop state request again leave) events result) :
    ∃ reply rest, events = ⟨request state, reply⟩ :: rest ∧
      ((∃ following, again state reply = some following ∧ Trace (.loop following request again leave) rest result) ∨
        again state reply = none ∧ Trace (leave state reply) rest result) := by
  cases events with
  | nil => simp [Trace] at trace
  | cons event rest =>
      simp only [Trace, List.foldlM_cons, Option.bind_eq_bind, Option.bind_eq_some_iff] at trace
      obtain ⟨next, move, later⟩ := trace
      obtain ⟨reply, rfl, ⟨following, continues, rfl⟩ | ⟨ends, rfl⟩⟩ :=
        resume_loop_some state request again leave event next move
      · exact ⟨reply, rest, rfl, .inl ⟨following, continues, later⟩⟩
      · exact ⟨reply, rest, rfl, .inr ⟨ends, later⟩⟩

theorem trace_bind (program : Program C R α) (rest : α → Program C R β) (events : List (Event C R)) (result : β)
    (trace : Trace (program.bind rest) events result) :
    ∃ first second value, events = first ++ second ∧ Trace program first value ∧ Trace (rest value) second result := by
  induction events generalizing program with
  | nil =>
      cases program with
      | done value => exact ⟨[], [], value, rfl, by simp [Trace], trace⟩
      | call request proceed => simp [Trace] at trace
      | loop state request again leave => simp [Trace, Program.bind] at trace
  | cons event later ih =>
      cases program with
      | done value => exact ⟨[], event :: later, value, rfl, by simp [Trace], trace⟩
      | call request proceed =>
          rw [Program.call_bind, trace_call] at trace
          obtain ⟨reply, remaining, same, continued⟩ := trace
          obtain ⟨rfl, rfl⟩ := List.cons.inj same
          obtain ⟨first, second, value, rfl, here, there⟩ := ih (proceed reply) continued
          exact ⟨⟨request, reply⟩ :: first, second, value, rfl,
            (trace_call _ _ _ _).mpr ⟨reply, first, rfl, here⟩, there⟩
      | loop state request again leave =>
          obtain ⟨reply, remaining, same, outcome⟩ := trace_loop _ _ _ _ _ _ trace
          obtain ⟨rfl, rfl⟩ := List.cons.inj same
          rcases outcome with ⟨following, continues, continued⟩ | ⟨ends, continued⟩
          · obtain ⟨first, second, value, rfl, here, there⟩ :=
              ih (.loop following request again leave) continued
            refine ⟨⟨request state, reply⟩ :: first, second, value, rfl, ?_, there⟩
            simpa [Trace, resume, continues] using here
          · obtain ⟨first, second, value, rfl, here, there⟩ := ih (leave state reply) continued
            refine ⟨⟨request state, reply⟩ :: first, second, value, rfl, ?_, there⟩
            simpa [Trace, resume, ends] using here

theorem trace_then (program : Program C R α) (rest : α → Program C R β) (ends : ∀ value, ∃ result, rest value = .done result)
    (events : List (Event C R)) (result : β) (trace : Trace (program.bind rest) events result) :
    ∃ value, Trace program events value ∧ rest value = .done result := by
  obtain ⟨first, second, value, rfl, here, there⟩ := trace_bind program rest events result trace
  obtain ⟨last, done⟩ := ends value
  rw [done] at there
  obtain ⟨rfl, rfl⟩ := (trace_done _ _ _).mp there
  exact ⟨value, by rw [List.append_nil]; exact here, done⟩

theorem then_trace (program : Program C R α) (rest : α → Program C R β) (events : List (Event C R)) (value : α) (result : β)
    (trace : Trace program events value) (last : rest value = .done result) : Trace (program.bind rest) events result := by
  induction events generalizing program with
  | nil =>
      obtain rfl := Option.some.inj trace
      exact (congrArg some last :)
  | cons event later ih =>
      cases program with
      | done other => cases ((trace_done _ _ _).mp trace).1
      | call request proceed =>
          obtain ⟨reply, remaining, same, continued⟩ := (trace_call _ _ _ _).mp trace
          obtain ⟨rfl, rfl⟩ := List.cons.inj same
          exact (trace_call _ _ _ _).mpr ⟨reply, later, rfl, ih (proceed reply) continued⟩
      | loop state request again leave =>
          obtain ⟨reply, remaining, same, outcome⟩ := trace_loop _ _ _ _ _ _ trace
          obtain ⟨rfl, rfl⟩ := List.cons.inj same
          rcases outcome with ⟨following, continues, continued⟩ | ⟨ends, continued⟩
          · have onward := ih (.loop following request again leave) continued
            simpa [Trace, resume, continues, Program.bind] using onward
          · have onward := ih (leave state reply) continued
            simpa [Trace, resume, ends, Program.bind] using onward

end

-- A discipline keeps a state along the requests of a program: which requests it allows,
-- which replies it counts on, and what a reply changes.
structure Discipline (C : Type) (R : C → Type) where
  State : Type
  allowed : State → C → Prop
  expected : (request : C) → R request → Prop
  after : State → (request : C) → R request → State

/-- Every request of the program is allowed, whatever expected replies it gets, and when it
is done the state satisfies the postcondition. A loop keeps the state. -/
def Obeys (d : Discipline C R) (post : α → d.State → Prop) : Program C R α → d.State → Prop
  | .done value, s => post value s
  | .call request proceed, s =>
      d.allowed s request ∧ ∀ reply, d.expected request reply → Obeys d post (proceed reply) (d.after s request reply)
  | .loop _ request again leave, s =>
      ∀ state, d.allowed s (request state) ∧ ∀ reply, d.expected (request state) reply →
        d.after s (request state) reply = s ∧ (again state reply = none → Obeys d post (leave state reply) s)

theorem obeys_bind (d : Discipline C R) (post : β → d.State → Prop) (program : Program C R α)
    (rest : α → Program C R β) (s : d.State)
    (first : Obeys d (fun value t => Obeys d post (rest value) t) program s) : Obeys d post (program.bind rest) s := by
  induction program generalizing s with
  | done value => exact first
  | call request proceed ih => exact ⟨first.1, fun reply expected => ih reply _ (first.2 reply expected)⟩
  | loop state request again leave ih =>
      intro state
      refine ⟨(first state).1, fun reply expected => ⟨((first state).2 reply expected).1, fun ends => ?_⟩⟩
      exact ih state reply s (((first state).2 reply expected).2 ends)

theorem obeys_mono (d : Discipline C R) (weak strong : α → d.State → Prop)
    (implies : ∀ value t, strong value t → weak value t) (program : Program C R α) (s : d.State)
    (obeys : Obeys d strong program s) : Obeys d weak program s := by
  induction program generalizing s with
  | done value => exact implies value s obeys
  | call request proceed ih => exact ⟨obeys.1, fun reply expected => ih reply _ (obeys.2 reply expected)⟩
  | loop state request again leave ih =>
      intro state
      refine ⟨(obeys state).1, fun reply expected => ⟨((obeys state).2 reply expected).1, fun ends => ?_⟩⟩
      exact ih state reply s (((obeys state).2 reply expected).2 ends)

/-- What one answered request leaves of a program that obeys a discipline. -/
theorem obeys_resume [DecidableEq C] (d : Discipline C R) (post : α → d.State → Prop) (program next : Program C R α)
    (s : d.State) (event : Event C R) (obeys : Obeys d post program s) (move : resume program event = some next) :
    d.allowed s event.request ∧
      (d.expected event.request event.reply → Obeys d post next (d.after s event.request event.reply)) := by
  cases program with
  | done value => simp [resume] at move
  | call request proceed =>
      obtain ⟨reply, rfl, rfl⟩ := resume_call_some request proceed event next move
      exact ⟨obeys.1, obeys.2 reply⟩
  | loop state request again leave =>
      obtain ⟨reply, rfl, outcome⟩ := resume_loop_some state request again leave event next move
      refine ⟨(obeys state).1, fun expected => ?_⟩
      obtain ⟨kept, leaves⟩ := (obeys state).2 reply expected
      simp only [kept]
      rcases outcome with ⟨following, _, rfl⟩ | ⟨ends, rfl⟩
      · exact obeys
      · exact leaves ends

abbrev only (allowed : C → Prop) : Discipline C R where
  State := Unit
  allowed := fun _ request => allowed request
  expected := fun _ _ => True
  after := fun _ _ _ => ()

def Makes (allowed : C → Prop) (program : Program C R α) : Prop := Obeys (only allowed) (fun _ _ => True) program ()

@[simp] theorem makes_done (allowed : C → Prop) (value : α) : Makes allowed (.done value : Program C R α) := trivial

@[simp] theorem makes_call (allowed : C → Prop) (request : C) (proceed : R request → Program C R α) :
    Makes allowed (.call request proceed) ↔ allowed request ∧ ∀ reply, Makes allowed (proceed reply) :=
  ⟨fun makes => ⟨makes.1, fun reply => makes.2 reply trivial⟩, fun ⟨here, rest⟩ => ⟨here, fun reply _ => rest reply⟩⟩

theorem makes_bind (allowed : C → Prop) (program : Program C R α) (rest : α → Program C R β)
    (first : Makes allowed program) (later : ∀ value, Makes allowed (rest value)) : Makes allowed (program.bind rest) :=
  obeys_bind (only allowed) _ program rest () (obeys_mono (only allowed) _ _ (fun value _ _ => later value) program () first)

theorem makes_obeys (d : Discipline C R) (allowed : C → Prop) (s : d.State) (here : ∀ request, allowed request → d.allowed s request)
    (same : ∀ request reply, allowed request → d.after s request reply = s) (program : Program C R α)
    (makes : Makes allowed program) : Obeys d (fun _ t => t = s) program s := by
  induction program with
  | done value => rfl
  | call request proceed ih =>
      refine ⟨here request makes.1, fun reply _ => ?_⟩
      rw [same request reply makes.1]
      exact ih reply (makes.2 reply trivial)
  | loop state request again leave ih =>
      intro state
      refine ⟨here _ (makes state).1, fun reply _ => ⟨same _ reply (makes state).1, fun ends => ?_⟩⟩
      exact ih state reply (((makes state).2 reply trivial).2 ends)

theorem makes_trace [DecidableEq C] (allowed : C → Prop) (program : Program C R α) (events : List (Event C R)) (result : α)
    (makes : Makes allowed program) (trace : Trace program events result) : ∀ event ∈ events, allowed event.request := by
  induction events generalizing program with
  | nil => simp
  | cons event rest ih =>
      simp only [Trace, List.foldlM_cons, Option.bind_eq_bind, Option.bind_eq_some_iff] at trace
      obtain ⟨next, move, later⟩ := trace
      obtain ⟨here, remaining⟩ := obeys_resume (only allowed) _ program next () event makes move
      exact List.forall_mem_cons.mpr ⟨here, ih next (remaining trivial) later⟩

-- Whatever the replies, the program comes to the value, and no loop is on the way.
inductive Ends (value : α) : Program C R α → Prop where
  | done : Ends value (.done value)
  | call (request : C) (proceed : R request → Program C R α) (later : ∀ reply, Ends value (proceed reply)) :
      Ends value (.call request proceed)

section

variable [DecidableEq C]

/-- In all runs of the program with fitting replies the condition holds, at every point, of the
events so far (those of the history come first) and of what is left of the program. -/
def Throughout (fits : Event C R → Prop) (condition : List (Event C R) → Program C R α → Prop)
    (history : List (Event C R)) (program : Program C R α) : Prop :=
  ∀ events next, (∀ event ∈ events, fits event) → events.foldlM resume program = some next →
    condition (history ++ events) next

variable (fits : Event C R → Prop) (condition : List (Event C R) → Program C R α → Prop)

theorem throughout_first (history : List (Event C R)) (program : Program C R α) (here : condition history program)
    (later : ∀ event next, fits event → resume program event = some next →
      Throughout fits condition (history ++ [event]) next) :
    Throughout fits condition history program := by
  intro events next fitting run
  cases events with
  | nil =>
      obtain rfl := Option.some.inj run
      rw [List.append_nil]
      exact here
  | cons event rest =>
      simp only [List.foldlM_cons, Option.bind_eq_bind, Option.bind_eq_some_iff] at run
      obtain ⟨between, move, run⟩ := run
      obtain ⟨first, others⟩ := List.forall_mem_cons.mp fitting
      rw [List.append_cons]
      exact later event between first move rest next others run

theorem throughout_done (history : List (Event C R)) (value : α) (here : condition history (.done value)) :
    Throughout fits condition history (.done value) :=
  throughout_first fits condition history _ here fun _ _ _ move => by cases move

theorem throughout_call (history : List (Event C R)) (request : C) (proceed : R request → Program C R α)
    (here : condition history (.call request proceed))
    (later : ∀ reply, fits ⟨request, reply⟩ → Throughout fits condition (history ++ [⟨request, reply⟩]) (proceed reply)) :
    Throughout fits condition history (.call request proceed) := by
  refine throughout_first fits condition history _ here fun event next fitting move => ?_
  obtain ⟨reply, rfl, rfl⟩ := resume_call_some request proceed event next move
  exact later reply fitting

theorem throughout_loop {σ : Type} (invariant : σ → List (Event C R) → Prop) (request : σ → C)
    (again : (s : σ) → R (request s) → Option σ) (leave : (s : σ) → R (request s) → Program C R α)
    (here : ∀ state history, invariant state history → condition history (.loop state request again leave))
    (stays : ∀ state history reply following, invariant state history → fits ⟨request state, reply⟩ →
      again state reply = some following → invariant following (history ++ [⟨request state, reply⟩]))
    (leaves : ∀ state history reply, invariant state history → fits ⟨request state, reply⟩ →
      again state reply = none → Throughout fits condition (history ++ [⟨request state, reply⟩]) (leave state reply))
    (state : σ) (history : List (Event C R)) (holds : invariant state history) :
    Throughout fits condition history (.loop state request again leave) := by
  intro events next fitting run
  induction events generalizing state history with
  | nil =>
      obtain rfl := Option.some.inj run
      rw [List.append_nil]
      exact here state history holds
  | cons event rest ih =>
      simp only [List.foldlM_cons, Option.bind_eq_bind, Option.bind_eq_some_iff] at run
      obtain ⟨between, move, run⟩ := run
      obtain ⟨first, others⟩ := List.forall_mem_cons.mp fitting
      obtain ⟨reply, rfl, ⟨following, continues, rfl⟩ | ⟨ends, rfl⟩⟩ :=
        resume_loop_some state request again leave event between move
      · rw [List.append_cons]
        exact ih following _ (stays state history reply following holds first continues) others run
      · rw [List.append_cons]
        exact leaves state history reply holds first ends rest next others run

end

end Interaction
