import Mathlib.Data.List.Forall2

set_option autoImplicit false

-- Labelled transition systems: finite runs, the invariant rule, and the rule for
-- two runs of a machine whose answers must not depend on part of its input.
namespace Labelled

variable {σ ε ω : Type*}

inductive Run (step : σ → ε → σ → Prop) (start : σ) : List ε → σ → Prop where
  | nil : Run step start [] start
  | snoc (labels : List ε) (state next : σ) (label : ε) (before : Run step start labels state)
      (last : step state label next) : Run step start (labels ++ [label]) next

theorem run_invariant (step : σ → ε → σ → Prop) (Inv : σ → Prop)
    (preserved : ∀ state label next, Inv state → step state label next → Inv next)
    (start : σ) (labels : List ε) (state : σ) (initial : Inv start) (run : Run step start labels state) : Inv state := by
  induction run with
  | nil => exact initial
  | snoc labels state next label _ last ih => exact preserved state label next ih last

theorem run_trans (step : σ → ε → σ → Prop) (start middle finish : σ) (first second : List ε)
    (left : Run step start first middle) (right : Run step middle second finish) :
    Run step start (first ++ second) finish := by
  induction right with
  | nil => simpa using left
  | snoc labels state next label _ last ih =>
      rw [← List.append_assoc]
      exact .snoc _ state next label ih last

theorem run_single (step : σ → ε → σ → Prop) (state next : σ) (label : ε) (move : step state label next) :
    Run step state [label] next := .snoc [] state next label .nil move

def Moves (step : σ → ε → Option σ) (state : σ) (label : ε) (next : σ) : Prop := step state label = some next

theorem moves_run (step : σ → ε → Option σ) (start finish : σ) (labels : List ε)
    (computed : labels.foldlM step start = some finish) : Run (Moves step) start labels finish := by
  induction labels generalizing start with
  | nil =>
      obtain rfl : start = finish := by simpa using computed
      exact .nil
  | cons label rest ih =>
      rw [List.foldlM_cons, Option.bind_eq_bind, Option.bind_eq_some_iff] at computed
      obtain ⟨next, move, later⟩ := computed
      exact run_trans _ start next finish [label] rest (run_single _ start next label move) (ih next later)

theorem run_moves (step : σ → ε → Option σ) (start finish : σ) (labels : List ε)
    (run : Run (Moves step) start labels finish) : labels.foldlM step start = some finish := by
  induction run with
  | nil => rfl
  | snoc labels state next label _ last ih =>
      rw [List.foldlM_append, ih]
      have move : step state label = some next := last
      simp [move]

theorem moves_unique (step : σ → ε → Option σ) (start left right : σ) (labels : List ε)
    (first : Run (Moves step) start labels left) (second : Run (Moves step) start labels right) : left = right :=
  Option.some.inj ((run_moves step start left labels first).symm.trans (run_moves step start right labels second))

def Steps (step : σ → ε → Option σ) (start : σ) (labels : List ε) (holds : σ → ε → σ → Prop) : Prop :=
  ∀ prior label later before after, labels = prior ++ label :: later → Run (Moves step) start prior before →
    step before label = some after → holds before label after

theorem steps_nil (step : σ → ε → Option σ) (start : σ) (holds : σ → ε → σ → Prop) : Steps step start [] holds :=
  fun prior label later _ _ split => by simp at split

theorem steps_cons (step : σ → ε → Option σ) (start next : σ) (label : ε) (rest : List ε) (holds : σ → ε → σ → Prop)
    (move : step start label = some next) :
    Steps step start (label :: rest) holds ↔ holds start label next ∧ Steps step next rest holds := by
  constructor
  · intro every
    refine ⟨every [] label rest start next rfl .nil move, fun prior other later before after split run moved => ?_⟩
    exact every (label :: prior) other later before after (congrArg (label :: ·) split)
      (run_trans (Moves step) start next before [label] prior (run_single (Moves step) start next label move) run) moved
  · rintro ⟨first, others⟩ prior other later before after split run moved
    rcases List.cons_eq_append_iff.mp split with ⟨rfl, same⟩ | ⟨front, rfl, same⟩
    · obtain ⟨rfl, rfl⟩ := List.cons.inj same
      obtain rfl := moves_unique step start start before [] .nil run
      exact Option.some.inj (move.symm.trans moved) ▸ first
    · have reached := run_moves step start before (label :: front) run
      rw [List.foldlM_cons, move] at reached
      exact others front other later before after same (moves_run step next before front reached) moved

def checked (step : σ → ε → Option σ) (check : σ → ε → Bool) : σ → List ε → Bool
  | _, [] => true
  | state, label :: rest =>
      match step state label with
      | none => true
      | some next => check state label && checked step check next rest

theorem checked_steps (step : σ → ε → Option σ) (check : σ → ε → Bool) (holds : σ → ε → σ → Prop)
    (right : ∀ before label after, check before label = true → holds before label after) (start : σ) (labels : List ε)
    (passes : checked step check start labels = true) : Steps step start labels holds := by
  induction labels generalizing start with
  | nil => exact steps_nil step start holds
  | cons label rest ih =>
      rw [checked] at passes
      cases move : step start label with
      | some next =>
          rw [move] at passes
          obtain ⟨here, later⟩ := Bool.and_eq_true_iff.mp passes
          exact (steps_cons step start next label rest holds move).mpr ⟨right start label next here, ih next later⟩
      | none =>
          intro prior other later before after split run moved
          have reached := run_moves step start before prior run
          cases prior with
          | nil =>
              obtain ⟨rfl, _⟩ := List.cons.inj split
              obtain rfl : start = before := Option.some.inj reached
              rw [move] at moved
              cases moved
          | cons first others =>
              obtain ⟨rfl, _⟩ := List.cons.inj split
              rw [List.foldlM_cons, move] at reached
              cases reached

/-- Two properties that agree on the steps from every state with the invariant agree on runs. -/
theorem steps_iff (step : σ → ε → Option σ) (start : σ) (labels : List ε) (Inv : σ → Prop) (initial : Inv start)
    (preserved : ∀ before label after, Inv before → step before label = some after → Inv after)
    (left right : σ → ε → σ → Prop) (agree : ∀ before label after, Inv before → step before label = some after →
      (left before label after ↔ right before label after)) :
    Steps step start labels left ↔ Steps step start labels right := by
  have known : ∀ prior before, Run (Moves step) start prior before → Inv before := fun prior before run =>
    run_invariant (Moves step) Inv preserved start prior before initial run
  constructor
  · intro holds prior label later before after split run move
    exact (agree before label after (known prior before run) move).mp (holds prior label later before after split run move)
  · intro holds prior label later before after split run move
    exact (agree before label after (known prior before run) move).mpr (holds prior label later before after split run move)

theorem run_split (step : σ → ε → σ → Prop) (start finish : σ) (first second : List ε)
    (run : Run step start (first ++ second) finish) :
    ∃ middle, Run step start first middle ∧ Run step middle second finish := by
  generalize whole : first ++ second = labels at run
  induction run generalizing second with
  | nil =>
      obtain ⟨rfl, rfl⟩ := List.append_eq_nil_iff.mp whole
      exact ⟨start, .nil, .nil⟩
  | snoc labels state next label before last ih =>
      rcases List.eq_nil_or_concat second with rfl | ⟨earlier, final, rfl⟩
      · rw [List.append_nil] at whole
        exact ⟨next, whole ▸ .snoc labels state next label before last, .nil⟩
      · rw [List.concat_eq_append, ← List.append_assoc] at whole
        obtain ⟨prior, same⟩ := List.append_inj' whole rfl
        obtain rfl := List.singleton_inj.mp same
        obtain ⟨middle, here, there⟩ := ih earlier prior
        rw [List.concat_eq_append]
        exact ⟨middle, here, .snoc earlier state next final there last⟩

def Always (step : σ → ε → Option σ) (start : σ) (labels : List ε) (holds : σ → Prop) : Prop :=
  ∀ prior later state, labels = prior ++ later → Run (Moves step) start prior state → holds state

/-- An invariant that all fitting steps preserve holds throughout the runs whose steps fit. -/
theorem steps_always (step : σ → ε → Option σ) (start : σ) (labels : List ε) (Inv : σ → Prop) (initial : Inv start)
    (fits : σ → ε → Prop) (preserved : ∀ before label after, Inv before → fits before label →
      step before label = some after → Inv after)
    (fitting : Steps step start labels fun before label _ => fits before label) : Always step start labels Inv := by
  intro prior later state split run
  induction run generalizing later with
  | nil => exact initial
  | snoc earlier before after label reached last ih =>
      rw [List.append_assoc] at split
      exact preserved before label after (ih _ split) (fitting earlier label later before after split reached last) last

/-- If no step that does not fit is possible in a run where the invariant has held so far,
then all its steps fit. -/
theorem always_steps (step : σ → ε → Option σ) (start : σ) (labels : List ε) (Inv : σ → Prop) (initial : Inv start)
    (fits : σ → ε → Prop) (preserved : ∀ before label after, Inv before → fits before label →
      step before label = some after → Inv after)
    (breaks : ∀ prior label later before after, labels = prior ++ label :: later →
      Run (Moves step) start (prior ++ [label]) after → Inv before → step before label = some after →
      ¬ fits before label → False) :
    Steps step start labels fun before label _ => fits before label := by
  have fitting : ∀ prior label later before after, labels = prior ++ label :: later →
      Run (Moves step) start prior before → step before label = some after → Inv before → fits before label := by
    intro prior label later before after split reached move known
    by_contra unfit
    exact breaks prior label later before after split (.snoc prior before after label reached move) known move unfit
  have known : ∀ prior later before, labels = prior ++ later → Run (Moves step) start prior before → Inv before := by
    intro prior later before split reached
    induction reached generalizing later with
    | nil => exact initial
    | snoc earlier state next label before last ih =>
        rw [List.append_assoc] at split
        have here := ih _ split
        exact preserved state label next here (fitting earlier label later state next split before last here) last
  intro prior label later before after split reached move
  exact fitting prior label later before after split reached move (known prior _ before split reached)

theorem fits_always (step : σ → ε → Option σ) (start : σ) (labels : List ε) (Sound Kept : σ → Prop) (initial : Sound start)
    (fits : σ → ε → Prop) (preserved : ∀ before label after, Sound before → fits before label →
      step before label = some after → Sound after)
    (kept : ∀ state, Sound state → Kept state) (fitting : Steps step start labels fun before label _ => fits before label) :
    Always step start labels Kept := fun prior later state split run =>
  kept state (steps_always step start labels Sound initial fits preserved fitting prior later state split run)

/-- Where fitting steps keep the invariant and the others break the property that it implies, the property holds
throughout the runs whose steps fit, and only those. -/
theorem fits_iff (step : σ → ε → Option σ) (start : σ) (labels : List ε) (Sound Kept : σ → Prop) (initial : Sound start)
    (fits : σ → ε → Prop) (preserved : ∀ before label after, Sound before → fits before label →
      step before label = some after → Sound after)
    (kept : ∀ state, Sound state → Kept state)
    (breaks : ∀ before label after, Sound before → ¬ fits before label → step before label = some after → ¬ Kept after) :
    Always step start labels Kept ↔ Steps step start labels fun before label _ => fits before label := by
  constructor
  · intro always
    refine always_steps step start labels Sound initial fits preserved ?_
    intro prior label later before after split run sound move unfit
    have whole : labels = (prior ++ [label]) ++ later := by simpa using split
    exact breaks before label after sound unfit move (always _ later after whole run)
  · exact fits_always step start labels Sound Kept initial fits preserved kept

/-- A property that a step keeps exactly when it fits holds throughout the runs whose steps fit, and
only those. -/
theorem always_iff (step : σ → ε → Option σ) (start : σ) (labels : List ε) (Sound Kept : σ → Prop) (initial : Sound start)
    (begins : Kept start) (fits : σ → ε → Prop)
    (sound : ∀ before label after, Sound before → step before label = some after → Sound after)
    (agree : ∀ before label after, Sound before → Kept before → step before label = some after →
      (Kept after ↔ fits before label)) :
    Always step start labels Kept ↔ Steps step start labels fun before label _ => fits before label := by
  refine fits_iff step start labels (fun state => Sound state ∧ Kept state) Kept ⟨initial, begins⟩ fits ?_
    (fun _ known => known.2) ?_
  · intro before label after known fit move
    exact ⟨sound before label after known.1 move, (agree before label after known.1 known.2 move).mpr fit⟩
  · intro before label after known unfit move kept
    exact unfit ((agree before label after known.1 known.2 move).mp kept)

theorem spoiled_end (step : σ → ε → Option σ) (start middle finish : σ) (first second : List ε)
    (run : Run (Moves step) start (first ++ second) finish) (reached : Run (Moves step) start first middle)
    (Spoiled : σ → Prop) (stays : ∀ before label after, Spoiled before → step before label = some after → Spoiled after)
    (spoiled : Spoiled middle) : Spoiled finish := by
  obtain ⟨state, same, rest⟩ := run_split (Moves step) start finish first second run
  obtain rfl := moves_unique step start middle state first reached same
  exact run_invariant (Moves step) Spoiled stays middle second finish spoiled rest

/-- Where a step that does not fit may also spoil the state for good, the property holds throughout a run that
ends where a spoiled state cannot have it only if all steps fit. -/
theorem ended_fits (step : σ → ε → Option σ) (start last : σ) (labels : List ε) (Sound Kept Spoiled : σ → Prop)
    (initial : Sound start) (fits : σ → ε → Prop)
    (preserved : ∀ before label after, Sound before → fits before label → step before label = some after → Sound after)
    (breaks : ∀ before label after, Sound before → ¬ fits before label → step before label = some after →
      ¬ Kept after ∨ Spoiled after)
    (stays : ∀ before label after, Spoiled before → step before label = some after → Spoiled after)
    (run : Run (Moves step) start labels last) (lost : Spoiled last → ¬ Kept last)
    (always : Always step start labels Kept) : Steps step start labels fun before label _ => fits before label := by
  refine always_steps step start labels Sound initial fits preserved ?_
  intro prior label later before after split reached sound move unfit
  have whole : labels = (prior ++ [label]) ++ later := by simpa using split
  rcases breaks before label after sound unfit move with broken | spoiled
  · exact broken (always _ later after whole reached)
  · have ended := spoiled_end step start after last (prior ++ [label]) later (whole ▸ run) reached Spoiled stays spoiled
    exact lost ended (always labels [] last (List.append_nil _).symm run)

def emitted (step : σ → ε → Option σ) (emits : σ → ε → σ → List ω) : σ → List ε → List ω
  | _, [] => []
  | state, label :: rest =>
      match step state label with
      | some next => emits state label next ++ emitted step emits next rest
      | none => []

theorem emitted_concat (step : σ → ε → Option σ) (emits : σ → ε → σ → List ω) (start state next : σ) (labels : List ε)
    (label : ε) (reached : labels.foldlM step start = some state) (move : step state label = some next) :
    emitted step emits start (labels ++ [label]) = emitted step emits start labels ++ emits state label next := by
  induction labels generalizing start with
  | nil =>
      obtain rfl : start = state := by simpa using reached
      simp [emitted, move]
  | cons first rest ih =>
      rw [List.foldlM_cons, Option.bind_eq_bind, Option.bind_eq_some_iff] at reached
      obtain ⟨middle, here, later⟩ := reached
      rw [List.cons_append, emitted, emitted, here]
      dsimp only
      rw [ih middle later, List.append_assoc]

/-- The invariant rule for a state together with what has been emitted up to it. -/
theorem emitted_invariant (step : σ → ε → Option σ) (emits : σ → ε → σ → List ω) (Inv : List ω → σ → Prop) (start : σ)
    (initial : Inv [] start) (preserved : ∀ log before label after, Inv log before → step before label = some after →
      Inv (log ++ emits before label after) after) (labels : List ε) (state : σ) (run : Run (Moves step) start labels state) :
    Inv (emitted step emits start labels) state := by
  induction run with
  | nil => exact initial
  | snoc labels before after label reached last ih =>
      rw [emitted_concat step emits start before after labels label (run_moves step start before labels reached) last]
      exact preserved _ before label after ih last

def states (perform : σ → ε → σ × ω) (start : σ) (inputs : List ε) : σ :=
  inputs.foldl (fun state input => (perform state input).1) start

def answers (perform : σ → ε → σ × ω) : σ → List ε → List ω
  | _, [] => []
  | state, input :: rest => (perform state input).2 :: answers perform (perform state input).1 rest

/-- Unwinding: if related inputs in related states give the same answer and related states,
two runs on related inputs give the same answers. -/
theorem answers_unwinding (perform : σ → ε → σ × ω) (Same : σ → σ → Prop) (Alike : ε → ε → Prop)
    (unwinds : ∀ left right first second, Same left right → Alike first second →
      (perform left first).2 = (perform right second).2 ∧ Same (perform left first).1 (perform right second).1)
    (left right : σ) (first second : List ε) (related : Same left right) (inputs : List.Forall₂ Alike first second) :
    answers perform left first = answers perform right second := by
  induction inputs generalizing left right with
  | nil => rfl
  | cons alike _ ih =>
      obtain ⟨answer, next⟩ := unwinds left right _ _ related alike
      rw [answers, answers, answer, ih _ _ next]

end Labelled
