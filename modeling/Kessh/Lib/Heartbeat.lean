import Kessh.Lib.Labelled
import Mathlib.Data.List.DropRight

set_option autoImplicit false

-- Sessions that are kept alive by beats and dropped when too many beats in a row have failed.
namespace Heartbeat

open Labelled

variable {ι ν σ ε : Type} [DecidableEq ι]

-- The session that beats go to, the failures counted for it, and the sessions that are closed.
structure Heart (ι : Type) where
  beating : Option ι
  failures : Nat
  gone : List ι

-- A beat has the limit of its time, and whether its session was dropped at it.
inductive Beat (ι ν : Type) where
  | started (session : ι)
  | sent (session : ι) (answered : Bool) (limit : ν) (dropped : Bool)
deriving DecidableEq

def Beat.session : Beat ι ν → ι
  | .started session => session
  | .sent session _ _ _ => session

def Beat.failed : Beat ι ν → Bool
  | .started _ => false
  | .sent _ answered _ _ => !answered

-- The length of the run of failures in which the beats of a session end.
def failing (session : ι) (beats : List (Beat ι ν)) : Nat :=
  ((beats.filter fun beat => beat.session = session).rtakeWhile Beat.failed).length

@[simp] theorem failing_nil (session : ι) : failing session ([] : List (Beat ι ν)) = 0 := rfl

theorem failing_failed (session : ι) (beats : List (Beat ι ν)) (beat : Beat ι ν) (own : beat.session = session)
    (failed : beat.failed = true) : failing session (beats ++ [beat]) = failing session beats + 1 := by
  simp [failing, own, List.rtakeWhile_concat_pos _ _ _ failed]

theorem failing_cleared (session : ι) (beats : List (Beat ι ν)) (beat : Beat ι ν) (own : beat.session = session)
    (cleared : beat.failed = false) : failing session (beats ++ [beat]) = 0 := by
  simp [failing, own, List.rtakeWhile_concat_neg, cleared]

variable (reached : ν → Nat → Bool)

/-- A session is dropped at exactly those failed beats at which the failures in a row reach the limit, and no
beat follows on a session that has been dropped. -/
def Law (beats : List (Beat ι ν)) : Prop :=
  ∀ prior session answered limit dropped later, beats = prior ++ .sent session answered limit dropped :: later →
    (dropped = true ↔ answered = false ∧ reached limit (failing session prior + 1) = true) ∧
      (dropped = true → ∀ beat ∈ later, beat.session ≠ session)

inductive Step (before after : Heart ι) : List (Beat ι ν) → Prop where
  | quiet (still : after.beating = none ∨ after.beating = before.beating ∧ after.failures = before.failures) :
      Step before after []
  | started (session : ι) (beats : after.beating = some session) (zero : after.failures = 0) :
      Step before after [.started session]
  | answered (session : ι) (limit : ν) (held : before.beating = some session) (kept : after.beating = some session)
      (zero : after.failures = 0) : Step before after [.sent session true limit false]
  | missed (session : ι) (limit : ν) (held : before.beating = some session) (kept : after.beating = some session)
      (counted : after.failures = before.failures + 1) (spared : reached limit (before.failures + 1) = false) :
      Step before after [.sent session false limit false]
  | dropped (session : ι) (limit : ν) (held : before.beating = some session) (stopped : after.beating = none)
      (gone : session ∈ after.gone) (enough : reached limit (before.failures + 1) = true) :
      Step before after [.sent session false limit true]

structure Closing (before after : Heart ι) : Prop where
  gone : before.gone ⊆ after.gone
  alive : ∀ session, after.beating = some session → session ∉ after.gone

structure Matches (beats : List (Beat ι ν)) (heart : Heart ι) : Prop where
  law : Law reached beats
  counted : ∀ session, heart.beating = some session → heart.failures = failing session beats
  closed : ∀ session answered limit, .sent session answered limit true ∈ beats → session ∈ heart.gone
  alive : ∀ session, heart.beating = some session → session ∉ heart.gone

theorem law_concat (beats : List (Beat ι ν)) (beat : Beat ι ν) (law : Law reached beats)
    (open' : ∀ answered limit, .sent beat.session answered limit true ∉ beats)
    (here : ∀ session answered limit dropped, beat = .sent session answered limit dropped →
      (dropped = true ↔ answered = false ∧ reached limit (failing session beats + 1) = true)) :
    Law reached (beats ++ [beat]) := by
  intro prior session answered limit dropped later split
  rcases List.eq_nil_or_concat later with rfl | ⟨earlier, last, rfl⟩
  · obtain ⟨rfl, same⟩ := List.append_inj' split rfl
    exact ⟨here session answered limit dropped (List.singleton_inj.mp same), fun _ _ member => by cases member⟩
  · rw [List.concat_eq_append, ← List.cons_append, ← List.append_assoc] at split
    obtain ⟨rfl, same⟩ := List.append_inj' split rfl
    obtain rfl := List.singleton_inj.mp same
    obtain ⟨exactly, alone⟩ := law prior session answered limit dropped earlier rfl
    refine ⟨exactly, fun closed other member => ?_⟩
    rcases List.mem_append.mp (List.concat_eq_append ▸ member) with before | now
    · exact alone closed other before
    · obtain rfl := List.mem_singleton.mp now
      rintro rfl
      exact open' answered limit (by simp [closed])

/-- What a step does agrees with the beats it emits. -/
theorem step_matches (beats more : List (Beat ι ν)) (before after : Heart ι) (known : Matches reached beats before)
    (step : Step reached before after more) (closing : Closing before after) : Matches reached (beats ++ more) after := by
  have closed : ∀ session answered limit, .sent session answered limit true ∈ beats → session ∈ after.gone :=
    fun session answered limit member => closing.gone (known.closed session answered limit member)
  have unclosed : ∀ session, before.beating = some session → ∀ answered limit, .sent session answered limit true ∉ beats :=
    fun session held answered limit member => known.alive session held (known.closed session answered limit member)
  cases step with
  | quiet still =>
      rw [List.append_nil]
      refine ⟨known.law, fun session beating => ?_, closed, closing.alive⟩
      rcases still with none | ⟨same, failures⟩
      · rw [none] at beating
        cases beating
      · rw [failures]
        exact known.counted session (same ▸ beating)
  | started session begun zero =>
      have fresh : ∀ answered limit, .sent session answered limit true ∉ beats := fun answered limit member =>
        closing.alive session begun (closed session answered limit member)
      refine ⟨law_concat reached beats _ known.law fresh fun _ _ _ _ same => (by cases same), fun other beating => ?_,
        fun other answered limit member => closed other answered limit (by simpa using member), closing.alive⟩
      obtain rfl := Option.some.inj (begun.symm.trans beating)
      rw [zero, failing_cleared session beats (.started session) rfl rfl]
  | answered session limit held kept zero =>
      refine ⟨law_concat reached beats _ known.law (unclosed session held) ?_, fun other beating => ?_,
        fun other answered limit member => closed other answered limit (by simpa using member), closing.alive⟩
      · rintro _ _ _ _ ⟨⟩
        simp
      · obtain rfl := Option.some.inj (kept.symm.trans beating)
        rw [zero, failing_cleared session beats (.sent session true limit false) rfl rfl]
  | missed session limit held kept counted spared =>
      have failures := known.counted session held
      refine ⟨law_concat reached beats _ known.law (unclosed session held) ?_, fun other beating => ?_,
        fun other answered limit member => closed other answered limit (by simpa using member), closing.alive⟩
      · rintro _ _ _ _ ⟨⟩
        simp [← failures, spared]
      · obtain rfl := Option.some.inj (kept.symm.trans beating)
        rw [counted, failures, failing_failed session beats (.sent session false limit false) rfl rfl]
  | dropped session limit held stopped gone enough =>
      have failures := known.counted session held
      refine ⟨law_concat reached beats _ known.law (unclosed session held) ?_, fun other beating => ?_, ?_, closing.alive⟩
      · rintro _ _ _ _ ⟨⟩
        simp [← failures, enough]
      · rw [stopped] at beating
        cases beating
      · intro other answered limit member
        rcases List.mem_append.mp member with earlier | now
        · exact closed other answered limit earlier
        · obtain ⟨⟩ := List.mem_singleton.mp now
          exact gone

/-- A machine whose steps are those of a heart obeys the law. -/
theorem law_run (step : σ → ε → Option σ) (emits : σ → ε → σ → List (Beat ι ν)) (heart : σ → Heart ι) (Inv : σ → Prop)
    (start : σ) (initial : Inv start) (resting : (heart start).beating = none)
    (preserved : ∀ before label after, Inv before → step before label = some after → Inv after)
    (simulates : ∀ before label after, Inv before → Inv after → step before label = some after →
      Step reached (heart before) (heart after) (emits before label after) ∧ Closing (heart before) (heart after))
    (labels : List ε) (state : σ) (run : Run (Moves step) start labels state) :
    Law reached (emitted step emits start labels) := by
  refine (emitted_invariant step emits (fun beats state => Inv state ∧ Matches reached beats (heart state)) start
    ⟨initial, ?_⟩ (fun beats before label after known move => ?_) labels state run).2.law
  · refine ⟨fun prior _ _ _ _ later split => ?_, ?_, fun _ _ _ member => (by cases member), ?_⟩
    · simp at split
    all_goals
      intro session beating
      rw [resting] at beating
      cases beating
  · have next := preserved before label after known.1 move
    obtain ⟨stepped, closing⟩ := simulates before label after known.1 next move
    exact ⟨next, step_matches reached beats _ _ _ known.2 stepped closing⟩

end Heartbeat
