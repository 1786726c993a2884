import Kessh.Lib.Interaction

set_option autoImplicit false

-- Programs that come to an end with the allowed replies to their requests, and what holds of what they return.
namespace Interaction

variable {C : Type} {R : C → Type} {α β : Type}

-- Every request has an allowed reply, and whatever it is, the rest ends with the postcondition.
inductive Terminates (allowed : Event C R → Prop) (post : α → Prop) : Program C R α → Prop
  | done (value : α) (holds : post value) : Terminates allowed post (.done value)
  | call (request : C) (proceed : R request → Program C R α) (answered : ∃ reply, allowed ⟨request, reply⟩)
      (later : ∀ reply, allowed ⟨request, reply⟩ → Terminates allowed post (proceed reply)) :
      Terminates allowed post (.call request proceed)
  | loop {σ : Type} (state : σ) (request : σ → C) (again : (s : σ) → R (request s) → Option σ)
      (leave : (s : σ) → R (request s) → Program C R α) (answered : ∃ reply, allowed ⟨request state, reply⟩)
      (stays : ∀ reply following, allowed ⟨request state, reply⟩ → again state reply = some following →
        Terminates allowed post (.loop following request again leave))
      (leaves : ∀ reply, allowed ⟨request state, reply⟩ → again state reply = none →
        Terminates allowed post (leave state reply)) :
      Terminates allowed post (.loop state request again leave)

theorem terminates_bind (allowed : Event C R → Prop) (middle : α → Prop) (post : β → Prop) (program : Program C R α)
    (rest : α → Program C R β) (first : Terminates allowed middle program)
    (second : ∀ value, middle value → Terminates allowed post (rest value)) :
    Terminates allowed post (program.bind rest) := by
  induction first with
  | done value holds => exact second value holds
  | call request proceed answered later ih => exact .call request _ answered ih
  | loop state request again leave answered stays leaves ihStays ihLeaves =>
      exact .loop state request again _ answered ihStays ihLeaves

variable [DecidableEq C]

-- What a program can return where the replies are allowed ones.
def Returns (allowed : Event C R → Prop) (program : Program C R α) (result : α) : Prop :=
  ∃ events, (∀ event ∈ events, allowed event) ∧ Trace program events result

theorem returns_resume (allowed : Event C R → Prop) (program next : Program C R α) (event : Event C R) (result : α)
    (fits : allowed event) (move : resume program event = some next) (later : Returns allowed next result) :
    Returns allowed program result := by
  obtain ⟨events, fitting, trace⟩ := later
  refine ⟨event :: events, List.forall_mem_cons.mpr ⟨fits, fitting⟩, ?_⟩
  rw [Trace, List.foldlM_cons, move]
  exact trace

theorem terminates_exists (allowed : Event C R → Prop) (post : α → Prop) (program : Program C R α)
    (ends : Terminates allowed post program) : ∃ result, Returns allowed program result := by
  induction ends with
  | done value holds => exact ⟨value, [], by simp, rfl⟩
  | call request proceed answered later ih =>
      obtain ⟨reply, fits⟩ := answered
      obtain ⟨result, returns⟩ := ih reply fits
      exact ⟨result, returns_resume allowed _ _ _ result fits (resume_call request proceed reply) returns⟩
  | loop state request again leave answered stays leaves ihStays ihLeaves =>
      obtain ⟨reply, fits⟩ := answered
      cases goes : again state reply with
      | some following =>
          obtain ⟨result, returns⟩ := ihStays reply following fits goes
          exact ⟨result, returns_resume allowed _ _ ⟨request state, reply⟩ result fits (by simp [resume, goes]) returns⟩
      | none =>
          obtain ⟨result, returns⟩ := ihLeaves reply fits goes
          exact ⟨result, returns_resume allowed _ _ ⟨request state, reply⟩ result fits (by simp [resume, goes]) returns⟩

theorem terminates_returns (allowed : Event C R → Prop) (post : α → Prop) (program : Program C R α)
    (ends : Terminates allowed post program) (result : α) (returns : Returns allowed program result) : post result := by
  obtain ⟨events, fitting, trace⟩ := returns
  induction ends generalizing events with
  | done value holds =>
      obtain ⟨_, rfl⟩ := (trace_done _ _ _).mp trace
      exact holds
  | call request proceed answered later ih =>
      obtain ⟨reply, rest, rfl, remaining⟩ := (trace_call _ _ _ _).mp trace
      obtain ⟨fits, fitting⟩ := List.forall_mem_cons.mp fitting
      exact ih reply fits rest fitting remaining
  | loop state request again leave answered stays leaves ihStays ihLeaves =>
      obtain ⟨reply, rest, rfl, outcome⟩ := trace_loop _ _ _ _ _ _ trace
      obtain ⟨fits, fitting⟩ := List.forall_mem_cons.mp fitting
      rcases outcome with ⟨following, goes, remaining⟩ | ⟨leaving, remaining⟩
      · exact ihStays reply following fits goes rest fitting remaining
      · exact ihLeaves reply fits leaving rest fitting remaining

end Interaction
