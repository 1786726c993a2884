import Kessh.Lynx.HostSessions

set_option autoImplicit false

-- The Lynx page for SCP: an effect that runs again when the hosts are there, and connect, which shares
-- a flag with its clean-up.
namespace Kessh.LynxSCPPage

open Ledger Labelled
open HostSessions
open ConnectionStore (findInternal)

-- A call of connect by its number in the order of their starts.
structure Connect where
  number : Nat
  record : ConnectionRecord
deriving DecidableEq

-- The hosts that useConnections has, the length of the hosts that the effect has run for last, and
-- the refs. Ghost: the calls started, and the id that the open of the last one has returned.
structure Page where
  mounted : Bool := true
  hosts : Option (List ConnectionRecord) := none
  effectLength : Option Nat := none
  connected : Bool := false
  shownConnected : Bool := false
  sessionRef : Int := -1
  disposedRef : Bool := false
  checks : List Connect := []
  opens : List PendingOpen := []
  started : Nat := 0
  lastReturned : Option Int := none
  ledger : List (Entry Int) := []

-- The list of hosts is loaded, an effect runs after a render, and an open that is rejected returns none.
inductive Event where
  | loaded (hosts : List ConnectionRecord)
  | effect
  | render
  | tap (record : ConnectionRecord)
  | passwordChecked (call : Connect) (hasPwd : Bool)
  | opened (pending : PendingOpen) (sid : Option Int)
  | unmount

def connect (record : ConnectionRecord) (page : Page) : Page :=
  let number := page.started + 1
  let page := { page with started := number, lastReturned := none }
  if record.authType = .key then page else { page with checks := ⟨number, record⟩ :: page.checks }

def cleanup (page : Page) : Page :=
  { page with disposedRef := true, ledger := closeSession page.sessionRef page.ledger }

def effect (recordId : Option JsNumber) (page : Page) : Page :=
  match recordId, page.hosts with
  | some recordId, some hosts =>
      match findInternal recordId hosts with
      | some record => connect record page
      | none => page
  | _, _ => page

-- The effect depends on hosts?.length: when it has changed the clean-up comes first.
def runEffect (recordId : Option JsNumber) (page : Page) : Page :=
  let length := page.hosts.map List.length
  if length = page.effectLength then page else effect recordId { cleanup page with effectLength := length }

def passwordChecked (call : Connect) (hasPwd : Bool) (page : Page) : Page :=
  if !hasPwd then page else { page with opens := ⟨call.number, draft call.record⟩ :: page.opens }

def opened (sid : Int) (page : Page) : Page :=
  if page.disposedRef then { page with ledger := closeSession sid page.ledger }
  else if sid ≤ 0 then page
  else { page with sessionRef := sid, connected := true }

-- The hosts are listed when they are loaded, and as long as the last render has not seen the page connected.
def step (recordId : Option JsNumber) (page : Page) : Event → Option Page
  | .loaded hosts => if page.mounted && page.hosts.isNone then some { page with hosts := some hosts } else none
  | .effect => if page.mounted then some (runEffect recordId page) else none
  | .render => if page.mounted then some { page with shownConnected := page.connected } else none
  | .tap record =>
      if page.mounted && !page.shownConnected && (page.hosts.getD []).contains record then some (connect record page)
      else none
  | .passwordChecked call hasPwd =>
      if call ∈ page.checks then some (passwordChecked call hasPwd { page with checks := page.checks.erase call })
      else none
  | .opened pending sid =>
      if pending ∈ page.opens then
        let page := { page with opens := page.opens.erase pending }
        sid.elim (some page) fun sid =>
          if fresh sid page.ledger then
            some (opened sid { page with
              lastReturned := if pending.number = page.started then some sid else page.lastReturned
              ledger := returned sid page.ledger })
          else none
      else none
  | .unmount => if page.mounted then some { cleanup page with mounted := false } else none

-- The session of the connect that was started last is the current one and open as long as the page is
-- there; every session is the current one or was closed once; none is left in the end.
structure Kept (page : Page) : Prop where
  latest : page.mounted = true → ∀ sid ∈ page.lastReturned, sid > 0 →
    sid = page.sessionRef ∧ (released page.ledger).count sid = 0
  owned : Owned page.sessionRef page.ledger
  left : page.mounted = false → page.checks = [] → page.opens = [] → Closed page.ledger

-- The effect does not run again with a session there. As long as it has not, no open brings a session in
-- the place of another one; after that, the last connect gets none while the page is there.
def Fits (page : Page) : Event → Prop
  | .effect => page.hosts.map List.length ≠ page.effectLength → page.sessionRef ≤ 0
  | .opened pending (some sid) =>
      sid > 0 → page.mounted = true →
        if page.disposedRef then pending.number ≠ page.started else page.sessionRef ≤ 0
  | _ => True

-- While the page is there and its effect has not run again, the session is the only one returned.
structure Fresh (page : Page) : Prop where
  disposed : page.disposedRef = false
  balanced : Balanced page.ledger (held page.sessionRef)
  latest : ∀ sid ∈ page.lastReturned, sid > 0 → sid = page.sessionRef

structure Disposed (page : Page) : Prop where
  disposed : page.disposedRef = true
  balanced : Balanced page.ledger []
  latest : page.mounted = true → page.sessionRef ≤ 0 ∧ ∀ sid ∈ page.lastReturned, sid ≤ 0

def Sound (page : Page) : Prop := page.mounted = true ∧ Fresh page ∨ Disposed page

theorem sound_kept (page : Page) (sound : Sound page) : Kept page := by
  rcases sound with ⟨mounted, fresh⟩ | disposed
  · refine ⟨fun _ sid here positive => ?_, balanced_owned _ _ fresh.balanced, fun gone => ?_⟩
    · obtain rfl := fresh.latest sid here positive
      exact ⟨rfl, (balanced_known _ _ fresh.balanced positive).2⟩
    · rw [mounted] at gone
      cases gone
  · have closed := balanced_closed page.ledger disposed.balanced
    refine ⟨fun mounted sid here positive => ?_, closed_owned _ _ closed, fun _ _ _ => closed⟩
    have none := (disposed.latest mounted).2 sid here
    omega

structure SameSession (page next : Page) : Prop where
  mounted : next.mounted = page.mounted
  disposed : next.disposedRef = page.disposedRef
  session : next.sessionRef = page.sessionRef
  ledger : next.ledger = page.ledger
  latest : next.lastReturned = none ∨ next.lastReturned = page.lastReturned

theorem sound_frame (page next : Page) (same : SameSession page next) (sound : Sound page) : Sound next := by
  have latest : ∀ sid ∈ next.lastReturned, sid ∈ page.lastReturned := fun sid here => by
    rcases same.latest with none | unchanged
    · rw [none] at here
      cases here
    · exact unchanged ▸ here
  rcases sound with ⟨mounted, fresh⟩ | disposed
  · refine .inl ⟨same.mounted.trans mounted, same.disposed.trans fresh.disposed, ?_, fun sid here positive => ?_⟩
    · rw [same.ledger, same.session]
      exact fresh.balanced
    · rw [same.session]
      exact fresh.latest sid (latest sid here) positive
  · refine .inr ⟨same.disposed.trans disposed.disposed, same.ledger ▸ disposed.balanced, fun mounted => ?_⟩
    obtain ⟨idle, none⟩ := disposed.latest (same.mounted ▸ mounted)
    exact ⟨same.session ▸ idle, fun sid here => none sid (latest sid here)⟩

theorem connect_same (record : ConnectionRecord) (page : Page) : SameSession page (connect record page) := by
  unfold connect
  dsimp only
  split <;> exact ⟨rfl, rfl, rfl, rfl, .inl rfl⟩

theorem effect_same (recordId : Option JsNumber) (page : Page) : SameSession page (effect recordId page) := by
  unfold effect
  split
  · split
    · exact connect_same _ page
    · exact ⟨rfl, rfl, rfl, rfl, .inr rfl⟩
  · exact ⟨rfl, rfl, rfl, rfl, .inr rfl⟩

inductive Moved (recordId : Option JsNumber) (before : Page) : Event → Page → Prop where
  | same (event : Event) (after : Page) (fits : Fits before event) (same : SameSession before after) :
      Moved recordId before event after
  | effect (mounted : before.mounted = true) : Moved recordId before .effect (runEffect recordId before)
  | opened (pending : PendingOpen) (sid : Int) (new : fresh sid before.ledger = true) :
      Moved recordId before (.opened pending (some sid)) (opened sid { before with
        opens := before.opens.erase pending
        lastReturned := if pending.number = before.started then some sid else before.lastReturned
        ledger := returned sid before.ledger })
  | unmount (mounted : before.mounted = true) :
      Moved recordId before .unmount { cleanup before with mounted := false }

theorem step_moved (recordId : Option JsNumber) (before : Page) (event : Event) (after : Page)
    (move : step recordId before event = some after) : Moved recordId before event after := by
  cases event with
  | effect =>
      simp only [step, Option.ite_none_right_eq_some, Option.some.injEq] at move
      obtain ⟨mounted, rfl⟩ := move
      exact .effect mounted
  | tap record =>
      simp only [step, Option.ite_none_right_eq_some, Option.some.injEq] at move
      obtain ⟨_, rfl⟩ := move
      exact .same _ _ trivial (connect_same record before)
  | passwordChecked call hasPwd =>
      simp only [step, Option.ite_none_right_eq_some, Option.some.injEq] at move
      obtain ⟨_, rfl⟩ := move
      cases hasPwd with
      | false => exact .same _ _ trivial ⟨rfl, rfl, rfl, rfl, .inr rfl⟩
      | true => exact .same _ _ trivial ⟨rfl, rfl, rfl, rfl, .inr rfl⟩
  | opened pending sid =>
      simp only [step, Option.ite_none_right_eq_some] at move
      obtain ⟨_, done⟩ := move
      cases sid with
      | none =>
          obtain rfl := Option.some.inj done
          exact .same _ _ trivial ⟨rfl, rfl, rfl, rfl, .inr rfl⟩
      | some sid =>
          simp only [Option.elim_some, Option.ite_none_right_eq_some, Option.some.injEq] at done
          obtain ⟨new, rfl⟩ := done
          exact .opened pending sid new
  | unmount =>
      simp only [step, Option.ite_none_right_eq_some, Option.some.injEq] at move
      obtain ⟨mounted, rfl⟩ := move
      exact .unmount mounted
  | _ =>
      simp only [step, Option.ite_none_right_eq_some, Option.some.injEq] at move
      obtain ⟨_, rfl⟩ := move
      exact .same _ _ trivial ⟨rfl, rfl, rfl, rfl, .inr rfl⟩

theorem cleanup_idle (page : Page) (sound : Sound page) (idle : page.sessionRef ≤ 0) :
    Balanced (cleanup page).ledger [] := by
  unfold cleanup
  rw [closeSession_none page.sessionRef page.ledger idle]
  rcases sound with ⟨_, fresh⟩ | disposed
  · have balanced := fresh.balanced
    rwa [held_none page.sessionRef idle] at balanced
  · exact disposed.balanced

theorem rerun_sound (page : Page) (sound : Sound page) (length : Option Nat) (idle : page.sessionRef ≤ 0) :
    Sound { cleanup page with effectLength := length } := by
  refine .inr ⟨rfl, cleanup_idle page sound idle, fun mounted => ⟨idle, fun sid here => ?_⟩⟩
  rcases sound with ⟨_, fresh⟩ | disposed
  · by_contra positive
    have same := fresh.latest sid here (by omega)
    omega
  · exact (disposed.latest mounted).2 sid here

theorem unmount_sound (page : Page) (sound : Sound page) (mounted : page.mounted = true) :
    Sound { cleanup page with mounted := false } := by
  refine .inr ⟨rfl, ?_, fun there => by cases there⟩
  rcases sound with ⟨_, fresh⟩ | disposed
  · exact balanced_let_go page.ledger page.sessionRef fresh.balanced
  · exact cleanup_idle page (.inr disposed) (disposed.latest mounted).1

theorem opened_sound (page : Page) (sound : Sound page) (pending : PendingOpen) (sid : Int)
    (new : fresh sid page.ledger = true) (fits : Fits page (.opened pending (some sid))) :
    Sound (opened sid { page with
      lastReturned := if pending.number = page.started then some sid else page.lastReturned
      ledger := returned sid page.ledger }) := by
  rcases sound with ⟨mounted, before⟩ | before
  · have open' : page.disposedRef = false := before.disposed
    have balanced := before.balanced
    unfold opened
    dsimp only
    rw [open', if_neg Bool.false_ne_true]
    by_cases failed : sid ≤ 0
    · rw [if_pos failed, returned_none sid page.ledger failed]
      refine .inl ⟨mounted, rfl, balanced, fun other here positive => ?_⟩
      · split at here
        · obtain rfl := Option.some.inj here
          omega
        · exact before.latest other here positive
    · rw [if_neg failed]
      have idle : page.sessionRef ≤ 0 := by
        have alone := fits (by omega) mounted
        rw [open', if_neg Bool.false_ne_true] at alone
        exact alone
      rw [held_none page.sessionRef idle] at balanced
      refine .inl ⟨mounted, rfl, balanced_returned page.ledger sid balanced new, fun other here positive => ?_⟩
      split at here
      · exact (Option.some.inj here).symm
      · have same := before.latest other here positive
        omega
  · unfold opened
    dsimp only
    rw [if_pos before.disposed]
    refine .inr ⟨before.disposed, balanced_dropped page.ledger [] sid before.balanced new, fun mounted => ?_⟩
    obtain ⟨idle, none⟩ := before.latest mounted
    refine ⟨idle, fun other here => ?_⟩
    split at here
    · rename_i last
      obtain rfl := Option.some.inj here
      by_contra positive
      have stale := fits (by omega) mounted
      rw [if_pos before.disposed] at stale
      exact stale last
    · exact none other here

section

variable (recordId : Option JsNumber)

theorem runEffect_sound (page : Page) (sound : Sound page) (fits : Fits page .effect) : Sound (runEffect recordId page) := by
  unfold runEffect
  dsimp only
  by_cases same : page.hosts.map List.length = page.effectLength
  · rw [if_pos same]
    exact sound
  · rw [if_neg same]
    exact sound_frame _ _ (effect_same recordId _) (rerun_sound page sound _ (fits same))

theorem step_sound (before : Page) (event : Event) (after : Page) (sound : Sound before) (fits : Fits before event)
    (move : step recordId before event = some after) : Sound after := by
  cases step_moved recordId before event after move with
  | same _ _ _ same => exact sound_frame before after same sound
  | effect _ => exact runEffect_sound recordId before sound fits
  | opened pending sid new =>
      exact opened_sound { before with opens := before.opens.erase pending } (sound_frame before _
        ⟨rfl, rfl, rfl, rfl, .inr rfl⟩ sound) pending sid new fits
  | unmount mounted => exact unmount_sound before sound mounted

-- The effect has closed the session that the page still has: unmounting closes it once more.
structure Spoiled (page : Page) : Prop where
  disposed : page.disposedRef = true
  session : page.sessionRef > 0
  closed : ClosedTimes (if page.mounted then 1 else 2) page.sessionRef page.ledger

theorem spoiled_frame (page next : Page) (same : SameSession page next) (spoiled : Spoiled page) : Spoiled next := by
  refine ⟨same.disposed.trans spoiled.disposed, same.session ▸ spoiled.session, ?_⟩
  rw [same.session, same.ledger, same.mounted]
  exact spoiled.closed

theorem step_spoiled (before : Page) (event : Event) (after : Page) (spoiled : Spoiled before)
    (move : step recordId before event = some after) : Spoiled after := by
  cases step_moved recordId before event after move with
  | same _ _ _ same => exact spoiled_frame before after same spoiled
  | effect _ =>
      unfold runEffect
      dsimp only
      split
      · exact spoiled
      · refine spoiled_frame _ _ (effect_same recordId _) ⟨rfl, spoiled.session, ?_⟩
        exact closedTimes_close _ _ before.sessionRef before.ledger spoiled.closed
  | opened pending sid new =>
      unfold opened
      dsimp only
      rw [if_pos spoiled.disposed]
      exact ⟨spoiled.disposed, spoiled.session,
        closedTimes_close _ _ sid _ (closedTimes_returned _ _ sid before.ledger spoiled.closed)⟩
  | unmount mounted =>
      have closed := spoiled.closed
      rw [if_pos mounted] at closed
      exact ⟨rfl, spoiled.session, closedTimes_again 1 before.sessionRef before.ledger spoiled.session closed⟩

-- A session that comes in vain is lost at once, and one that the effect closes is closed again in the end.
theorem unfit_breaks (before : Page) (event : Event) (after : Page) (sound : Sound before) (unfit : ¬ Fits before event)
    (move : step recordId before event = some after) : ¬ Kept after ∨ Spoiled after := by
  cases step_moved recordId before event after move with
  | same _ _ fits _ => exact absurd fits unfit
  | effect mounted =>
      simp only [Fits, Classical.not_imp, Int.not_le] at unfit
      obtain ⟨changed, session⟩ := unfit
      right
      unfold runEffect
      dsimp only
      rw [if_neg changed]
      refine spoiled_frame _ _ (effect_same recordId _) ⟨rfl, session, ?_⟩
      rcases sound with ⟨_, fresh⟩ | disposed
      · have known := (balanced_known before.ledger before.sessionRef fresh.balanced session).1
        have closed := closedTimes_again 0 before.sessionRef before.ledger session ⟨known, Nat.zero_le _⟩
        unfold cleanup
        rw [if_pos mounted]
        exact closed
      · have idle := (disposed.latest mounted).1
        omega
  | opened pending sid new =>
      simp only [Fits, Classical.not_imp] at unfit
      obtain ⟨positive, mounted, wrong⟩ := unfit
      refine .inl fun kept => ?_
      unfold opened at kept
      rcases sound with ⟨_, fresh⟩ | disposed
      · rw [fresh.disposed, if_neg Bool.false_ne_true, Int.not_le] at wrong
        obtain ⟨known, open'⟩ := balanced_known before.ledger before.sessionRef fresh.balanced wrong
        dsimp only at kept
        rw [fresh.disposed, if_neg Bool.false_ne_true, if_neg (by omega)] at kept
        exact replaced_unowned before.ledger before.sessionRef sid positive known open' new kept.owned
      · rw [if_pos disposed.disposed, not_not] at wrong
        dsimp only at kept
        rw [if_pos disposed.disposed] at kept
        have same := (kept.latest mounted sid (by simp [wrong]) positive).1
        have idle := (disposed.latest mounted).1
        dsimp only at same
        omega
  | unmount _ => exact absurd trivial unfit

theorem spoiled_lost (page : Page) (spoiled : Spoiled page) (gone : page.mounted = false) : ¬ Kept page := by
  have closed := spoiled.closed
  rw [gone, if_neg Bool.false_ne_true] at closed
  exact fun kept => closedTimes_unowned page.sessionRef page.sessionRef page.ledger closed kept.owned

end

/-- With a route for a record or without, the sessions are kept in every run whose steps all
fit; and a run that ends after the page is gone keeps them only if its steps do. -/
theorem scp_sessions_kept (recordId : Option JsNumber) (events : List Event) :
    ((Steps (step recordId) {} events fun before event _ => Fits before event) → Always (step recordId) {} events Kept) ∧
      ∀ last, Run (Moves (step recordId)) {} events last → last.mounted = false →
        Always (step recordId) {} events Kept → Steps (step recordId) {} events fun before event _ => Fits before event := by
  have initial : Sound {} := .inl ⟨rfl, rfl, balanced_nil, fun sid here => by cases here⟩
  have preserved : ∀ before event after, Sound before → Fits before event → step recordId before event = some after →
      Sound after := fun before event after sound fits move => step_sound recordId before event after sound fits move
  constructor
  · exact fits_always (step recordId) {} events Sound Kept initial Fits preserved sound_kept
  · intro last run gone
    exact ended_fits (step recordId) {} last events Sound Kept Spoiled initial Fits preserved (unfit_breaks recordId)
      (step_spoiled recordId) run fun spoiled => spoiled_lost last spoiled gone

-- One host is loaded and tapped: its session is closed when it comes.
def tapped : List Event :=
  [.loaded [savedHost 1], .effect, .tap (savedHost 1), .passwordChecked ⟨1, savedHost 1⟩ true,
    .opened ⟨1, draft (savedHost 1)⟩ (some 7)]

theorem session_not_kept : ¬ Always (step none) {} tapped Kept := by
  intro always
  have run : Run (Moves (step none)) {} tapped _ := moves_run (step none) _ _ _ rfl
  have kept := always tapped [] _ (List.append_nil _).symm run
  exact absurd (kept.latest rfl 7 rfl (by decide)).1 (by decide)

end Kessh.LynxSCPPage
