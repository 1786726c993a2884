import Kessh.Lynx.TerminalPage
import Kessh.Pages.KeepaliveTimers

set_option autoImplicit false

-- The terminal page in its two versions, when keepalives fail.
namespace Kessh.KeepaliveParity

open Ecma Ledger Labelled KeepaliveTimers
open Terminal (Keepalive)

structure Outcome where
  ok : Bool
  settings : Keepalive

structure Reaction where
  closed : Bool
  told : Bool
deriving DecidableEq

-- Where there is no interval no tick comes.
def arktsReactions (lessEq less : JsNumber → JsNumber → Bool) (intervalId : Int) :
    Terminal.World → List Outcome → List Reaction
  | _, [] => []
  | w, outcome :: rest =>
      match Terminal.step lessEq less w (.keepaliveTick intervalId outcome.ok outcome.settings) with
      | some next =>
          { closed := decide ((released next.ledger).length ≠ (released w.ledger).length)
            told := decide (next.page.lines ≠ w.page.lines) } :: arktsReactions lessEq less intervalId next rest
      | none => ⟨false, false⟩ :: arktsReactions lessEq less intervalId w rest

def closes (log : List TerminalPage.Entry) : Nat :=
  log.countP fun
    | .closed _ _ => true
    | _ => false

-- The interval sends a keepalive, and what comes back is not looked at.
def lynxReactions (less : JsNumber → JsNumber → Bool) (intervalId : Nat) (sid : Int) :
    TerminalPage.Page → List Outcome → List Reaction
  | _, [] => []
  | page, _ :: rest =>
      match [.intervalTick intervalId, .keptAlive sid].foldlM (TerminalPage.step less) page with
      | some next =>
          { closed := decide (closes next.log ≠ closes page.log)
            told := decide (next.lines ≠ page.lines) } :: lynxReactions less intervalId sid next rest
      | none => ⟨false, false⟩ :: lynxReactions less intervalId sid page rest

def failures (outcomes : List Outcome) : Nat := (outcomes.rtakeWhile fun outcome => !outcome.ok).length

variable (other : JsString → Option Value)

-- No run of failures after an earlier sequence reaches max(attempts, 1).
def Spared (earlier outcomes : List Outcome) : Prop :=
  ∀ prior settings later, outcomes = prior ++ ⟨false, settings⟩ :: later →
    reached other settings.attempts (failures (earlier ++ prior) + 1) = false

theorem lynx_quiet (less : JsNumber → JsNumber → Bool) (intervalId : Nat) (sid : Int) (page : TerminalPage.Page)
    (outcomes : List Outcome) : lynxReactions less intervalId sid page outcomes = outcomes.map fun _ => ⟨false, false⟩ := by
  induction outcomes generalizing page with
  | nil => rfl
  | cons outcome rest ih =>
      rw [lynxReactions, List.map_cons]
      split
      · rename_i next moved
        rw [ih]
        simp only [List.foldlM_cons, List.foldlM_nil, Option.bind_eq_bind, Option.bind_eq_some_iff] at moved
        obtain ⟨sent, ticked, answered, back, same⟩ := moved
        obtain rfl := Option.some.inj same
        obtain ⟨interval, _, rfl⟩ := Option.map_eq_some_iff.mp ticked
        obtain ⟨_, same⟩ := Option.ite_none_right_eq_some.mp back
        obtain rfl := Option.some.inj same
        simp [closes]
      · rw [ih]

@[simp] theorem failures_nil : failures [] = 0 := rfl

theorem failures_answered (earlier : List Outcome) (settings : Keepalive) : failures (earlier ++ [⟨true, settings⟩]) = 0 := by
  simp [failures, List.rtakeWhile_concat_neg]

theorem failures_missed (earlier : List Outcome) (settings : Keepalive) :
    failures (earlier ++ [⟨false, settings⟩]) = failures earlier + 1 := by
  simp [failures, List.rtakeWhile_concat_pos]

theorem spared_cons (earlier rest : List Outcome) (outcome : Outcome) :
    Spared other earlier (outcome :: rest) ↔
      (outcome.ok = false → reached other outcome.settings.attempts (failures earlier + 1) = false) ∧
        Spared other (earlier ++ [outcome]) rest := by
  constructor
  · intro spared
    refine ⟨fun lost => ?_, fun prior settings later split => ?_⟩
    · obtain ⟨ok, settings⟩ := outcome
      subst lost
      exact List.append_nil earlier ▸ spared [] settings rest rfl
    · have here := spared (outcome :: prior) settings later (congrArg (outcome :: ·) split)
      rwa [List.append_cons] at here
  · rintro ⟨first, later⟩ prior settings tail split
    rcases List.cons_eq_append_iff.mp split with ⟨rfl, same⟩ | ⟨front, rfl, same⟩
    · obtain ⟨rfl, rfl⟩ := List.cons.inj same
      exact (List.append_nil earlier).symm ▸ first rfl
    · rw [List.append_cons]
      exact later front settings tail same

theorem keepaliveTick_lines (ok : Bool) (settings : Keepalive) (w : Terminal.World)
    (spared : ok = false → reached other settings.attempts (w.page.keepaliveFailures + 1) = false) :
    (Terminal.keepaliveTick (lessEq other) (less other) ok settings w).page.lines = w.page.lines := by
  unfold Terminal.keepaliveTick
  split
  · unfold Terminal.stopKeepalive
    dsimp only
    split <;> rfl
  · dsimp only
    rw [attempts_reached other settings.attempts (w.page.keepaliveFailures + 1) (Nat.succ_pos _)]
    cases ok with
    | true => rfl
    | false =>
        rw [if_neg Bool.false_ne_true, if_neg (by rw [spared rfl]; exact Bool.false_ne_true)]

theorem arkts_quiet (intervalId : Int) (w : Terminal.World) (earlier outcomes : List Outcome) (good : Terminal.Good w)
    (pending : w.intervals = [intervalId]) (counted : w.page.keepaliveFailures = failures earlier) :
    (arktsReactions (lessEq other) (less other) intervalId w outcomes = outcomes.map fun _ => ⟨false, false⟩) ↔
      Spared other earlier outcomes := by
  induction outcomes generalizing w earlier with
  | nil => exact iff_of_true rfl fun prior _ _ split => by simp at split
  | cons outcome rest ih =>
      obtain ⟨ok, settings⟩ := outcome
      have set : w.intervals ≠ [] := by simp [pending]
      have ticks : Terminal.step (lessEq other) (less other) w (.keepaliveTick intervalId ok settings) =
          some (Terminal.keepaliveTick (lessEq other) (less other) ok settings w) := if_pos (by simp [pending])
      have next := Terminal.step_good (lessEq other) (less other) w _ _ good ticks
      have ticked := Terminal.keepaliveTick_ticked other ok settings w good set
      have unseen := keepaliveTick_lines other ok settings w
      rw [arktsReactions, ticks, List.map_cons, spared_cons]
      generalize Terminal.keepaliveTick (lessEq other) (less other) ok settings w = after at *
      dsimp only
      cases ticked with
      | answered kept same =>
          have ledger : after.ledger = .use w.page.sessionId :: w.ledger := congrArg Timer.ledger same
          have lines := unseen fun lost => by rw [kept] at lost; cases lost
          have later := ih after (earlier ++ [⟨ok, settings⟩]) next
            ((congrArg Timer.intervals same).trans pending) ?_
          · rw [← later, ledger, lines]
            simp [released, kept]
          · rw [kept, failures_answered]
            exact congrArg Timer.keepaliveFailures same
      | missed lost spared same =>
          have ledger : after.ledger = .use w.page.sessionId :: w.ledger := congrArg Timer.ledger same
          have lines := unseen fun _ => spared
          have later := ih after (earlier ++ [⟨ok, settings⟩]) next
            ((congrArg Timer.intervals same).trans pending) ?_
          · rw [← later, ledger, lines, ← counted]
            simp [released, lost, show reached other settings.attempts (w.page.keepaliveFailures + 1) = false from spared]
          · rw [lost, failures_missed, ← counted]
            exact congrArg Timer.keepaliveFailures same
      | dropped lost enough stopped closed =>
          have ledger : after.ledger = .release w.page.sessionId :: .use w.page.sessionId :: w.ledger := closed
          have limit : reached other settings.attempts (failures earlier + 1) = true := counted ▸ enough
          refine iff_of_false (fun same => ?_) fun spared => ?_
          · have first := congrArg Reaction.closed (List.cons.inj same).1
            simp [ledger, released] at first
          · rw [spared.1 lost] at limit
            cases limit

theorem arkts_still (intervalId : Int) (w : Terminal.World) (outcomes : List Outcome) (none : w.intervals = []) :
    arktsReactions (lessEq other) (less other) intervalId w outcomes = outcomes.map fun _ => ⟨false, false⟩ := by
  induction outcomes with
  | nil => rfl
  | cons outcome rest ih =>
      have refused : Terminal.step (lessEq other) (less other) w (.keepaliveTick intervalId outcome.ok outcome.settings) =
          Option.none := if_neg (by simp [none])
      rw [arktsReactions, refused, List.map_cons, ih]

/-- From the opening of their sessions on the two pages react alike to a sequence of keepalives exactly when
the ArkTS page sends none, or none of the runs of failures reaches max(attempts, 1). -/
theorem keepalive_closes_alike (events : List Terminal.Event) (w opened : Terminal.World)
    (run : Run (Moves (Terminal.step (lessEq other) (less other))) {} events w) (shown : w.page.disposed = false)
    (sid : Int) (positive : 0 < sid) (settings : Keepalive) (timeoutId intervalId : Int)
    (opens : Terminal.step (lessEq other) (less other) w (.openDone w.page.openToken sid settings timeoutId intervalId) =
      some opened)
    (page : TerminalPage.Page) (handle : Nat) (lynxSid : Int) (outcomes : List Outcome) :
    lynxReactions (less other) handle lynxSid page outcomes =
        arktsReactions (lessEq other) (less other) intervalId opened outcomes ↔
      lessEq other settings.interval (.int 0) = true ∨ Spared other [] outcomes := by
  have good := Terminal.run_reaches_good (lessEq other) (less other) events w run
  have after := Terminal.step_good (lessEq other) (less other) w _ opened good opens
  obtain ⟨enabled, done⟩ := Option.ite_none_right_eq_some.mp opens
  simp only [Bool.and_eq_true, Bool.or_eq_true, decide_eq_true_eq, Bool.not_eq_true', List.contains_eq_mem,
    decide_eq_false_iff_not] at enabled
  obtain ⟨_, _, zero, set⟩ := Terminal.openDone_live other sid settings timeoutId intervalId w opened good shown enabled.1
    positive (enabled.2.resolve_left (Int.not_le.mpr positive)) done
  rw [lynx_quiet, eq_comm]
  by_cases off : lessEq other settings.interval (.int 0) = true
  · rw [if_pos off] at set
    exact iff_of_true (arkts_still other intervalId opened outcomes set) (.inl off)
  · rw [if_neg off] at set
    rw [arkts_quiet other intervalId opened [] outcomes after set zero]
    exact (or_iff_right off).symm

-- A page of each version that has just opened its session, with an interval of a minute and one attempt.
def draft : ConnectionDraft := { host := js "a", port := .text (js "22"), username := js "u", password := some (js "p") }

def minutely : Keepalive := { interval := .int 60, attempts := .int 1 }

def noOthers : JsString → Option Value := fun _ => none

def mounting : List TerminalPage.Event :=
  [.mount ⟨some (.int 1), none⟩, .gotSettings ⟨1, .int 1, []⟩ (some (.int 60)),
    .opened ⟨1, TerminalPage.draft (.int 1) [], some (.int 60)⟩ (.ok 7) 5]

-- Two failures in a row are too many, and there are none.
def twice : Keepalive := { interval := .int 60, attempts := .int 2 }

theorem keepalive_closes_alike_answered :
    let w := (Terminal.step (lessEq noOthers) (less noOthers) {} (.aboutToAppear (some draft))).get (by decide)
    let opened := (Terminal.step (lessEq noOthers) (less noOthers) w (.openDone 1 7 twice 1 2)).get (by decide)
    let page := (mounting.foldlM (TerminalPage.step (less noOthers)) {}).get (by decide)
    lynxReactions (less noOthers) 5 7 page [⟨false, twice⟩, ⟨true, twice⟩, ⟨false, twice⟩] =
      arktsReactions (lessEq noOthers) (less noOthers) 2 opened [⟨false, twice⟩, ⟨true, twice⟩, ⟨false, twice⟩] := by
  intro w opened page
  have appears : Moves (Terminal.step (lessEq noOthers) (less noOthers)) {} (.aboutToAppear (some draft)) w :=
    (Option.some_get _).symm
  refine (keepalive_closes_alike noOthers _ w opened (run_single _ _ _ _ appears) (by decide) 7 (by decide) twice 1 2
    (Option.some_get _).symm page 5 7 _).mpr (.inr fun prior settings later split => ?_)
  rcases prior with _ | ⟨first, _ | ⟨second, _ | ⟨third, rest⟩⟩⟩
  · obtain ⟨⟨⟩, _⟩ := List.cons.inj split
    decide
  · cases split
  · obtain ⟨⟨⟩, _⟩ := List.cons.inj (List.cons.inj (List.cons.inj split).2).2
    cases split
    decide
  · simp at split

-- One failed keepalive: the ArkTS page closes the session and tells the user, the Lynx page keeps it.
theorem lost_session_kept :
    let w := (Terminal.step (lessEq noOthers) (less noOthers) {} (.aboutToAppear (some draft))).get (by decide)
    let opened := (Terminal.step (lessEq noOthers) (less noOthers) w (.openDone 1 7 minutely 1 2)).get (by decide)
    let page := (mounting.foldlM (TerminalPage.step (less noOthers)) {}).get (by decide)
    arktsReactions (lessEq noOthers) (less noOthers) 2 opened [⟨false, minutely⟩] = [⟨true, true⟩] ∧
      lynxReactions (less noOthers) 5 7 page [⟨false, minutely⟩] = [⟨false, false⟩] ∧
      page.intervals.map (·.handle) = [5] := by decide

end Kessh.KeepaliveParity
