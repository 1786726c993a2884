import Kessh.Lib.Ecma
import Kessh.Lib.Labelled

set_option autoImplicit false

-- The hook that loads what the screens show.
namespace Kessh.UseAsync

open Ecma (JsString)
open Labelled

-- What a promise is rejected with: an Error, or a value that String makes a text of.
inductive Rejection (E : Type) where
  | error (err : E)
  | other (text : JsString)

variable {T D E : Type} (newError : JsString → E)

def Rejection.toError : Rejection E → E
  | .error err => err
  | .other text => newError text

structure Values (T E : Type) where
  data : Option T := none
  loading : Bool := true
  error : Option E := none
  token : Nat := 0

inductive Update (T E : Type) where
  | setData (value : T)
  | setLoading (value : Bool)
  | setError (error : Option E)
  | nextToken

def Update.apply (v : Values T E) : Update T E → Values T E
  | .setData value => { v with data := some value }
  | .setLoading value => { v with loading := value }
  | .setError error => { v with error }
  | .nextToken => { v with token := v.token + 1 }

-- How far a load is: a handler of then or catch answers it, and that of finally finishes it.
inductive Stage (T E : Type) where
  | waiting
  | answered (outcome : Except (Rejection E) T)
  | finished (outcome : Except (Rejection E) T)

-- `found` is ghost: the data when the load began.
structure Load (T E : Type) where
  cancelled : Bool := false
  stage : Stage T E := .waiting
  found : Option T

-- Updates wait in `queue` for the next render. `cleanup` is the load whose flag the cleanup of the
-- latest effect sets, and `due` says that the latest render is to be followed by the effect.
structure Hook (T D E : Type) where
  mounted : Bool := true
  shown : Values T E := {}
  queue : List (Update T E) := []
  rendered : Option (Nat × D) := none
  due : Bool := false
  cleanup : Option Nat := none
  loads : List (Load T E) := []

inductive Event (T D E : Type) where
  | render (deps : D)
  | effect
  | reload
  | settled (index : Nat) (outcome : Except (Rejection E) T)
  | completed (index : Nat)
  | unmount

def Hook.current (h : Hook T D E) : Values T E := h.queue.foldl Update.apply h.shown

-- An unmounted component takes no updates.
def Hook.set (h : Hook T D E) (updates : List (Update T E)) : Hook T D E :=
  if h.mounted then { h with queue := h.queue ++ updates } else h

def Hook.render [DecidableEq D] (h : Hook T D E) (deps : D) : Hook T D E :=
  { h with
    shown := h.current
    queue := []
    rendered := some (h.current.token, deps)
    due := decide (h.rendered ≠ some (h.current.token, deps)) }

def Hook.clean (h : Hook T D E) : Hook T D E :=
  match h.cleanup with
  | some index => { h with loads := h.loads.modify index fun load => { load with cancelled := true }, cleanup := none }
  | none => h

def Hook.effect (h : Hook T D E) : Hook T D E :=
  let h := h.clean.set [.setLoading true]
  { h with due := false, cleanup := some h.loads.length, loads := h.loads ++ [{ found := h.current.data }] }

-- A handler does nothing once its load is cancelled.
def Hook.handler (h : Hook T D E) (index : Nat) (load : Load T E) (stage : Stage T E) (updates : List (Update T E)) :
    Hook T D E :=
  let h := { h with loads := h.loads.set index { load with stage } }
  if load.cancelled then h else h.set updates

def answer : Except (Rejection E) T → List (Update T E)
  | .ok value => [.setData value, .setError none]
  | .error err => [.setError (some (err.toError newError))]

def step [DecidableEq D] (h : Hook T D E) : Event T D E → Option (Hook T D E)
  | .render deps => if h.mounted ∧ ¬ h.due then some (h.render deps) else none
  | .effect => if h.mounted ∧ h.due then some h.effect else none
  | .reload => some (h.set [.nextToken])
  | .settled index outcome =>
      match h.loads[index]? with
      | some load =>
          match load.stage with
          | .waiting => some (h.handler index load (.answered outcome) (answer newError outcome))
          | _ => none
      | none => none
  | .completed index =>
      match h.loads[index]? with
      | some load =>
          match load.stage with
          | .answered outcome => some (h.handler index load (.finished outcome) [.setLoading false])
          | _ => none
      | none => none
  | .unmount => if h.mounted then some { h.clean with mounted := false } else none

theorem current_set (h : Hook T D E) (updates : List (Update T E)) (mounted : h.mounted = true) :
    (h.set updates).current = updates.foldl Update.apply h.current := by
  rw [Hook.set, if_pos mounted, Hook.current, List.foldl_append]
  rfl

@[simp] theorem set_fields (h : Hook T D E) (updates : List (Update T E)) :
    (h.set updates).mounted = h.mounted ∧ (h.set updates).loads = h.loads ∧ (h.set updates).cleanup = h.cleanup := by
  unfold Hook.set
  split <;> exact ⟨rfl, rfl, rfl⟩

@[simp] theorem clean_fields (h : Hook T D E) : h.clean.mounted = h.mounted ∧ h.clean.current = h.current := by
  unfold Hook.clean
  split <;> exact ⟨rfl, rfl⟩

def Answered (found : Option T) (v : Values T E) : Except (Rejection E) T → Prop
  | .ok value => v.data = some value ∧ v.error = none
  | .error err => v.data = found ∧ v.error = some (err.toError newError)

def Shows (load : Load T E) (v : Values T E) : Prop :=
  match load.stage with
  | .waiting => v.loading = true ∧ v.data = load.found
  | .answered outcome => v.loading = true ∧ Answered newError load.found v outcome
  | .finished outcome => v.loading = false ∧ Answered newError load.found v outcome

-- All loads but the latest are cancelled, and the next cleanup cancels that one.
structure Follows (h : Hook T D E) : Prop where
  older : ∀ index load, h.loads[index]? = some load → index + 1 < h.loads.length → load.cancelled = true
  cleanup : h.mounted = true → ∀ index, index + 1 = h.loads.length → h.cleanup = some index
  idle : h.mounted = true → h.loads = [] → h.current.loading = true
  latest : h.mounted = true → ∀ index load, h.loads[index]? = some load → index + 1 = h.loads.length →
    load.cancelled = false ∧ Shows newError load h.current

-- A handler of a load moves it on by a stage, and makes the updates of that stage.
structure Moved (h : Hook T D E) (index : Nat) (next : Hook T D E) (load : Load T E) (stage : Stage T E)
    (updates : List (Update T E)) : Prop where
  found : h.loads[index]? = some load
  moved : next = h.handler index load stage updates
  advanced : ∀ v, Shows newError load v → Shows newError { load with stage } (updates.foldl Update.apply v)

theorem answer_shows (load : Load T E) (outcome : Except (Rejection E) T) (waiting : load.stage = .waiting)
    (v : Values T E) (shows : Shows newError load v) :
    Shows newError { load with stage := .answered outcome } ((answer newError outcome).foldl Update.apply v) := by
  rw [Shows, waiting] at shows
  cases outcome with
  | ok value => exact ⟨shows.1, rfl, rfl⟩
  | error err => exact ⟨shows.1, shows.2, rfl⟩

theorem completed_shows (load : Load T E) (outcome : Except (Rejection E) T) (answered : load.stage = .answered outcome)
    (v : Values T E) (shows : Shows newError load v) :
    Shows newError { load with stage := .finished outcome } ([Update.setLoading false].foldl Update.apply v) := by
  rw [Shows, answered] at shows
  refine ⟨rfl, ?_⟩
  cases outcome with
  | ok value => exact shows.2
  | error err => exact shows.2

theorem settled_moved [DecidableEq D] (h next : Hook T D E) (index : Nat) (outcome : Except (Rejection E) T)
    (move : step newError h (.settled index outcome) = some next) :
    ∃ load stage updates, Moved newError h index next load stage updates := by
  simp only [step] at move
  split at move
  · rename_i load known
    split at move
    · rename_i waiting
      exact ⟨load, _, _, known, (Option.some.inj move).symm, answer_shows newError load outcome waiting⟩
    · cases move
  · cases move

theorem completed_moved [DecidableEq D] (h next : Hook T D E) (index : Nat)
    (move : step newError h (.completed index) = some next) :
    ∃ load stage updates, Moved newError h index next load stage updates := by
  simp only [step] at move
  split at move
  · rename_i load known
    split at move
    · rename_i outcome answered
      exact ⟨load, _, _, known, (Option.some.inj move).symm, completed_shows newError load outcome answered⟩
    · cases move
  · cases move

@[simp] theorem clean_length (h : Hook T D E) : h.clean.loads.length = h.loads.length := by
  unfold Hook.clean
  split
  · exact List.length_modify _ _ _
  · rfl

theorem clean_cancelled (h : Hook T D E) (follows : Follows newError h) (mounted : h.mounted = true) (index : Nat)
    (load : Load T E) (known : h.clean.loads[index]? = some load) : load.cancelled = true := by
  have bound : index < h.loads.length := by
    rw [← clean_length]
    exact (List.getElem?_eq_some_iff.mp known).1
  have cleaned := follows.cleanup mounted (h.loads.length - 1) (by omega)
  simp only [Hook.clean, cleaned, List.getElem?_modify] at known
  obtain ⟨before, found, rfl⟩ := Option.map_eq_some_iff.mp known
  by_cases last : h.loads.length - 1 = index
  · rw [if_pos last]
  · rw [if_neg last]
    exact follows.older index before found (by omega)

theorem effect_follows (h : Hook T D E) (follows : Follows newError h) (mounted : h.mounted = true) :
    Follows newError h.effect := by
  have whole : h.effect.loads.length = h.loads.length + 1 := by simp [Hook.effect]
  have shown : h.effect.current = { h.current with loading := true } := by
    show (h.clean.set [.setLoading true]).current = _
    rw [current_set _ _ ((clean_fields h).1.trans mounted), (clean_fields h).2]
    rfl
  have loads : h.effect.loads = h.clean.loads ++ [{ found := h.current.data }] := by
    show (h.clean.set [.setLoading true]).loads ++ [{ found := (h.clean.set [.setLoading true]).current.data }] = _
    rw [(set_fields _ _).2.1, current_set _ _ ((clean_fields h).1.trans mounted), (clean_fields h).2]
    rfl
  constructor
  · intro index load known inside
    have before : index < h.clean.loads.length := by rw [clean_length]; omega
    rw [loads, List.getElem?_append_left before] at known
    exact clean_cancelled newError h follows mounted index load known
  · intro _ index last
    show some (h.clean.set [.setLoading true]).loads.length = some index
    rw [(set_fields _ _).2.1, clean_length]
    exact congrArg some (by omega)
  · intro _ _
    rw [shown]
  · intro _ index load known last
    obtain rfl : index = h.clean.loads.length := by rw [clean_length]; omega
    rw [loads, List.getElem?_concat_length] at known
    obtain rfl := Option.some.inj known
    rw [shown]
    exact ⟨rfl, rfl, rfl⟩

theorem reload_follows (h : Hook T D E) (follows : Follows newError h) : Follows newError (h.set [.nextToken]) := by
  obtain ⟨mounts, loads, cleans⟩ := set_fields h [.nextToken]
  have kept : h.mounted = true → (h.set [.nextToken]).current = { h.current with token := h.current.token + 1 } :=
    fun mounted => current_set h _ mounted
  constructor
  · rw [loads]
    exact follows.older
  · rw [mounts, loads, cleans]
    exact follows.cleanup
  · intro mounted none
    rw [mounts] at mounted
    rw [loads] at none
    rw [kept mounted]
    exact follows.idle mounted none
  · intro mounted index load known last
    rw [mounts] at mounted
    rw [loads] at known last
    rw [kept mounted]
    exact follows.latest mounted index load known last

theorem unmount_follows (h : Hook T D E) (follows : Follows newError h) (mounted : h.mounted = true) :
    Follows newError { h.clean with mounted := false } where
  older := fun index load known _ => clean_cancelled newError h follows mounted index load known
  cleanup := fun absurd => by cases absurd
  idle := fun absurd => by cases absurd
  latest := fun absurd => by cases absurd

@[simp] theorem handler_loads (h : Hook T D E) (index : Nat) (load : Load T E) (stage : Stage T E)
    (updates : List (Update T E)) : (h.handler index load stage updates).loads = h.loads.set index { load with stage } := by
  unfold Hook.handler
  split
  · rfl
  · exact (set_fields _ _).2.1

@[simp] theorem handler_fields (h : Hook T D E) (index : Nat) (load : Load T E) (stage : Stage T E)
    (updates : List (Update T E)) : (h.handler index load stage updates).mounted = h.mounted ∧
      (h.handler index load stage updates).cleanup = h.cleanup := by
  unfold Hook.handler
  split
  · exact ⟨rfl, rfl⟩
  · exact ⟨(set_fields _ _).1, (set_fields _ _).2.2⟩

theorem handler_cancelled (h : Hook T D E) (index : Nat) (load : Load T E) (stage : Stage T E)
    (updates : List (Update T E)) (cancelled : load.cancelled = true) :
    (h.handler index load stage updates).shown = h.shown ∧ (h.handler index load stage updates).queue = h.queue := by
  simp only [Hook.handler, if_pos cancelled, and_self]

theorem moved_follows (h next : Hook T D E) (index : Nat) (load : Load T E) (stage : Stage T E)
    (updates : List (Update T E)) (follows : Follows newError h) (moved : Moved newError h index next load stage updates) :
    Follows newError next := by
  obtain ⟨found, rfl, advanced⟩ := moved
  have bound := (List.getElem?_eq_some_iff.mp found).1
  obtain ⟨mounts, cleans⟩ := handler_fields h index load stage updates
  have loads := handler_loads h index load stage updates
  have whole : (h.handler index load stage updates).loads.length = h.loads.length := by rw [loads, List.length_set]
  constructor
  · intro other after known inside
    rw [whole] at inside
    rw [loads, List.getElem?_set] at known
    by_cases same : index = other
    · subst same
      rw [if_pos rfl, if_pos bound] at known
      obtain rfl := Option.some.inj known
      exact follows.older index load found inside
    · rw [if_neg same] at known
      exact follows.older other after known inside
  · rw [mounts, cleans, whole]
    exact follows.cleanup
  · intro _ none
    rw [loads, List.set_eq_nil_iff] at none
    rw [none] at bound
    exact absurd bound (Nat.not_lt_zero index)
  · intro mounted other after known last
    rw [mounts] at mounted
    rw [whole] at last
    rw [loads, List.getElem?_set] at known
    by_cases same : index = other
    · subst same
      rw [if_pos rfl, if_pos bound] at known
      obtain rfl := Option.some.inj known
      obtain ⟨active, shows⟩ := follows.latest mounted index load found last
      refine ⟨active, ?_⟩
      have shown : (h.handler index load stage updates).current = updates.foldl Update.apply h.current := by
        rw [Hook.handler, if_neg (by rw [active]; exact Bool.false_ne_true)]
        exact current_set _ _ mounted
      rw [shown]
      exact advanced _ shows
    · rw [if_neg same] at known
      obtain ⟨active, shows⟩ := follows.latest mounted other after known last
      have cancelled := follows.older index load found (by omega)
      obtain ⟨shown, queue⟩ := handler_cancelled h index load stage updates cancelled
      refine ⟨active, ?_⟩
      rw [Hook.current, shown, queue]
      exact shows

theorem step_follows [DecidableEq D] (h : Hook T D E) (event : Event T D E) (next : Hook T D E)
    (follows : Follows newError h) (move : step newError h event = some next) : Follows newError next := by
  cases event with
  | render deps =>
      obtain ⟨_, same⟩ := Option.ite_none_right_eq_some.mp move
      obtain rfl := Option.some.inj same
      exact ⟨follows.older, follows.cleanup, follows.idle, follows.latest⟩
  | effect =>
      obtain ⟨⟨mounted, _⟩, same⟩ := Option.ite_none_right_eq_some.mp move
      obtain rfl := Option.some.inj same
      exact effect_follows newError h follows mounted
  | reload =>
      obtain rfl := Option.some.inj move
      exact reload_follows newError h follows
  | settled index outcome =>
      obtain ⟨load, stage, updates, moved⟩ := settled_moved newError h next index outcome move
      exact moved_follows newError h next index load stage updates follows moved
  | completed index =>
      obtain ⟨load, stage, updates, moved⟩ := completed_moved newError h next index move
      exact moved_follows newError h next index load stage updates follows moved
  | unmount =>
      obtain ⟨mounted, same⟩ := Option.ite_none_right_eq_some.mp move
      obtain rfl := Option.some.inj same
      exact unmount_follows newError h follows mounted

theorem run_follows [DecidableEq D] (events : List (Event T D E)) (h : Hook T D E)
    (run : Run (Moves (step newError)) {} events h) : Follows newError h := by
  refine run_invariant _ (Follows newError) (fun before event after known move => step_follows newError before event after
    known move) _ events h ⟨?_, ?_, ?_, ?_⟩ run
  · intro index load known
    cases known
  · intro _ index last
    cases last
  · intro _ _
    rfl
  · intro _ index load known
    cases known

def Event.completes (index : Nat) : Event T D E → Prop
  | .settled other _ => other = index
  | .completed other => other = index
  | _ => False

theorem completes_moved [DecidableEq D] (h next : Hook T D E) (index : Nat) (event : Event T D E)
    (completes : event.completes index) (move : step newError h event = some next) :
    ∃ load stage updates, Moved newError h index next load stage updates := by
  cases event with
  | settled other outcome =>
      obtain rfl := completes
      exact settled_moved newError h next other outcome move
  | completed other =>
      obtain rfl := completes
      exact completed_moved newError h next other move
  | _ => exact completes.elim

-- The latest load has completed, with what it came to.
def Hook.completed (h : Hook T D E) (load : Load T E) (outcome : Except (Rejection E) T) : Prop :=
  h.loads.getLast? = some load ∧ load.stage = .finished outcome

theorem completed_answered (h : Hook T D E) (follows : Follows newError h) (mounted : h.mounted = true) (load : Load T E)
    (outcome : Except (Rejection E) T) (completed : h.completed load outcome) :
    h.current.loading = false ∧ Answered newError load.found h.current outcome := by
  obtain ⟨last, finished⟩ := completed
  rw [List.getLast?_eq_getElem?] at last
  have bound := (List.getElem?_eq_some_iff.mp last).1
  obtain ⟨_, shows⟩ := follows.latest mounted _ load last (by omega)
  rw [Shows, finished] at shows
  exact shows

theorem loading_completed (h : Hook T D E) (follows : Follows newError h) (mounted : h.mounted = true) :
    h.current.loading = false ↔ ∃ load outcome, h.completed load outcome := by
  constructor
  · intro done
    by_cases none : h.loads = []
    · exact absurd (follows.idle mounted none) (by rw [done]; exact Bool.false_ne_true)
    · have bound := List.length_pos_of_ne_nil none
      have found := List.getElem?_eq_getElem (Nat.sub_lt bound Nat.one_pos)
      obtain ⟨_, shows⟩ := follows.latest mounted _ _ found (by omega)
      rw [Shows] at shows
      split at shows
      · exact absurd (shows.1.symm.trans done) (Ne.symm Bool.false_ne_true)
      · exact absurd (shows.1.symm.trans done) (Ne.symm Bool.false_ne_true)
      · rename_i outcome finished
        exact ⟨_, outcome, by rw [List.getLast?_eq_getElem?, found], finished⟩
  · rintro ⟨load, outcome, completed⟩
    exact (completed_answered newError h follows mounted load outcome completed).1

/-- A load that has a newer one changes nothing when it completes. While mounted, nothing is loading exactly when the
latest load has completed, and then its value is the data, or its error is the error beside the data it began with. -/
theorem latest_load_shown [DecidableEq D] (events : List (Event T D E)) (h : Hook T D E)
    (run : Run (Moves (step newError)) {} events h) :
    (∀ index event next, index + 1 < h.loads.length → event.completes index → step newError h event = some next →
      next.shown = h.shown ∧ next.queue = h.queue) ∧
    (h.mounted = true → (h.current.loading = false ↔ ∃ load outcome, h.completed load outcome)) ∧
    (h.mounted = true → ∀ load outcome, h.completed load outcome → match outcome with
      | .ok value => h.current.data = some value ∧ h.current.error = none
      | .error err => h.current.data = load.found ∧ h.current.error = some (err.toError newError)) := by
  have follows := run_follows newError events h run
  refine ⟨?_, loading_completed newError h follows, ?_⟩
  · intro index event next newer completes move
    obtain ⟨load, stage, updates, found, rfl, _⟩ := completes_moved newError h next index event completes move
    exact handler_cancelled h index load stage updates (follows.older index load found newer)
  · intro mounted load outcome completed
    have answered := (completed_answered newError h follows mounted load outcome completed).2
    cases outcome with
    | ok value => exact answered
    | error err => exact answered

def overlapping : List (Event Nat Unit JsString) :=
  [.render (), .effect, .reload, .render (), .effect, .settled 1 (.ok 2), .completed 1, .settled 0 (.ok 1), .completed 0]

theorem latest_load_shown_overlapping :
    ∃ h, overlapping.foldlM (step id) ({} : Hook Nat Unit JsString) = some h ∧ h.current.data = some 2 ∧
      h.current.error = none := by
  refine ⟨_, rfl, ?_⟩
  exact (latest_load_shown id overlapping _ (moves_run _ _ _ _ rfl)).2.2 rfl _ (.ok 2) ⟨rfl, rfl⟩

end Kessh.UseAsync
