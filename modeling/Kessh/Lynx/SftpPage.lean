import Kessh.Lynx.HostSessions

set_option autoImplicit false

-- The Lynx page for SFTP: the sessions of its overlapping calls of connect.
namespace Kessh.SFTPPage

open Ledger Labelled
open HostSessions

-- The refs and the state of the page, with what its calls of connect wait for: hasPassword, openSession
-- with the token of the call, or the last await in front of finally.
structure Page where
  mounted : Bool := true
  connecting : Bool := false
  connected : Bool := false
  shownConnecting : Bool := false
  shownConnected : Bool := false
  sessionRef : Int := -1
  tokenRef : Nat := 0
  disposedRef : Bool := false
  checks : List ConnectionRecord := []
  opens : List PendingOpen := []
  finishing : Nat := 0
  ledger : List (Entry Int) := []

-- An open that is rejected returns none.
inductive Event where
  | render
  | tap (record : ConnectionRecord)
  | passwordChecked (record : ConnectionRecord) (hasPwd : Bool)
  | opened (pending : PendingOpen) (sid : Option Int)
  | finished
  | unmount

-- connect up to its first await. The two flags are those of the render that the tap was on.
def connect (record : ConnectionRecord) (page : Page) : Page :=
  if page.shownConnecting || page.shownConnected then page
  else if record.authType = .key then page
  else { page with checks := record :: page.checks }

def passwordChecked (record : ConnectionRecord) (hasPwd : Bool) (page : Page) : Page :=
  if !hasPwd then page
  else
    let token := page.tokenRef + 1
    { page with tokenRef := token, connecting := true, opens := ⟨token, draft record⟩ :: page.opens }

def opened (token : Nat) (sid : Int) (page : Page) : Page :=
  if page.disposedRef || token != page.tokenRef then
    if sid > 0 then { page with ledger := closeSession sid page.ledger, finishing := page.finishing + 1 }
    else { page with connecting := false }
  else if sid ≤ 0 then { page with connecting := false }
  else { page with sessionRef := sid, connected := true, finishing := page.finishing + 1 }

def unmount (page : Page) : Page :=
  { page with
    mounted := false
    disposedRef := true
    tokenRef := page.tokenRef + 1
    ledger := closeSession page.sessionRef page.ledger }

-- The hosts are listed as long as the last render has not seen the page connected.
def step (page : Page) : Event → Option Page
  | .render =>
      if page.mounted then some { page with shownConnecting := page.connecting, shownConnected := page.connected } else none
  | .tap record => if page.mounted && !page.shownConnected then some (connect record page) else none
  | .passwordChecked record hasPwd =>
      if record ∈ page.checks then some (passwordChecked record hasPwd { page with checks := page.checks.erase record })
      else none
  | .opened pending sid =>
      if pending ∈ page.opens then
        let page := { page with opens := page.opens.erase pending }
        sid.elim (some { page with connecting := false }) fun sid =>
          if fresh sid page.ledger then some (opened pending.number sid { page with ledger := returned sid page.ledger })
          else none
      else none
  | .finished =>
      if page.finishing > 0 then some { page with finishing := page.finishing - 1, connecting := false } else none
  | .unmount => if page.mounted then some (unmount page) else none

-- Every session is the current one or was closed once, and none is left when the page is gone
-- and everything is done.
structure Kept (page : Page) : Prop where
  owned : Owned page.sessionRef page.ledger
  left : page.mounted = false → page.checks = [] → page.opens = [] → Closed page.ledger

-- No open of the last token brings a session while there is one.
def Fits (page : Page) : Event → Prop
  | .opened pending (some sid) =>
      sid > 0 → page.disposedRef = false → pending.number = page.tokenRef → page.sessionRef ≤ 0
  | _ => True

structure Sound (page : Page) : Prop where
  disposed : page.disposedRef = !page.mounted
  balanced : Balanced page.ledger (if page.mounted then held page.sessionRef else [])

theorem sound_kept (page : Page) (sound : Sound page) : Kept page := by
  have balanced := sound.balanced
  by_cases mounted : page.mounted = true
  · rw [if_pos mounted] at balanced
    refine ⟨balanced_owned page.sessionRef page.ledger balanced, fun gone => ?_⟩
    rw [mounted] at gone
    cases gone
  · rw [if_neg mounted] at balanced
    have closed := balanced_closed page.ledger balanced
    exact ⟨closed_owned page.sessionRef page.ledger closed, fun _ _ _ => closed⟩

theorem sound_mounted (page : Page) (sound : Sound page) (open' : page.disposedRef = false) : page.mounted = true := by
  simpa [open'] using sound.disposed

theorem sound_frame (page next : Page) (sound : Sound page) (mounted : next.mounted = page.mounted)
    (disposed : next.disposedRef = page.disposedRef) (session : next.sessionRef = page.sessionRef)
    (ledger : next.ledger = page.ledger) : Sound next :=
  ⟨by rw [disposed, mounted, sound.disposed], by rw [ledger, mounted, session]; exact sound.balanced⟩

inductive Completes (page next : Page) (token : Nat) (sid : Int) : Prop where
  | late (stale : page.disposedRef = true ∨ token ≠ page.tokenRef) (session : next.sessionRef = page.sessionRef)
      (ledger : next.ledger = closeSession sid page.ledger)
  | failed (none : sid ≤ 0) (session : next.sessionRef = page.sessionRef) (ledger : next.ledger = page.ledger)
  | brought (current : page.disposedRef = false ∧ token = page.tokenRef) (some : sid > 0) (session : next.sessionRef = sid)
      (ledger : next.ledger = page.ledger)

theorem opened_completes (token : Nat) (sid : Int) (page : Page) : Completes page (opened token sid page) token sid := by
  unfold opened
  by_cases late : (page.disposedRef || token != page.tokenRef) = true
  · rw [if_pos late]
    simp only [Bool.or_eq_true, bne_iff_ne] at late
    by_cases positive : sid > 0
    · rw [if_pos positive]
      exact .late late rfl rfl
    · rw [if_neg positive]
      exact .late late rfl (if_neg positive).symm
  · rw [if_neg late]
    simp only [Bool.or_eq_true, bne_iff_ne, not_or, Bool.not_eq_true, not_not] at late
    by_cases failed : sid ≤ 0
    · rw [if_pos failed]
      exact .failed failed rfl rfl
    · rw [if_neg failed]
      exact .brought late (by omega) rfl rfl

theorem opened_frame (token : Nat) (sid : Int) (page : Page) :
    (opened token sid page).mounted = page.mounted ∧ (opened token sid page).disposedRef = page.disposedRef := by
  unfold opened
  split
  · split <;> exact ⟨rfl, rfl⟩
  · split <;> exact ⟨rfl, rfl⟩

theorem opened_sound (page : Page) (sound : Sound page) (token : Nat) (sid : Int) (new : fresh sid page.ledger = true)
    (alone : sid > 0 → page.disposedRef = false → token = page.tokenRef → page.sessionRef ≤ 0) :
    Sound (opened token sid { page with ledger := returned sid page.ledger }) := by
  have frame := opened_frame token sid { page with ledger := returned sid page.ledger }
  have balanced := sound.balanced
  refine ⟨by rw [frame.1, frame.2]; exact sound.disposed, ?_⟩
  rw [frame.1]
  rcases opened_completes token sid { page with ledger := returned sid page.ledger } with
    ⟨_, session, ledger⟩ | ⟨none, session, ledger⟩ | ⟨current, some, session, ledger⟩
  · rw [session, ledger]
    exact balanced_dropped page.ledger _ sid balanced new
  · rw [session, ledger]
    dsimp only
    rw [returned, if_neg (by omega)]
    exact balanced
  · have mounted := sound_mounted page sound current.1
    have idle : ¬ page.sessionRef > 0 := Int.not_lt.mpr (alone some current.1 current.2)
    rw [if_pos mounted, held, if_neg idle] at balanced
    rw [session, ledger]
    dsimp only
    rw [if_pos mounted]
    exact balanced_returned page.ledger sid balanced new

theorem step_sound (before : Page) (event : Event) (after : Page) (sound : Sound before) (fits : Fits before event)
    (move : step before event = some after) : Sound after := by
  cases event with
  | render =>
      simp only [step, Option.ite_none_right_eq_some, Option.some.injEq] at move
      obtain ⟨_, rfl⟩ := move
      exact sound_frame before _ sound rfl rfl rfl rfl
  | tap record =>
      simp only [step, Option.ite_none_right_eq_some, Option.some.injEq] at move
      obtain ⟨_, rfl⟩ := move
      unfold connect
      split
      · exact sound
      · split
        · exact sound
        · exact sound_frame before _ sound rfl rfl rfl rfl
  | passwordChecked record hasPwd =>
      simp only [step, Option.ite_none_right_eq_some, Option.some.injEq] at move
      obtain ⟨_, rfl⟩ := move
      cases hasPwd with
      | false => exact sound_frame before _ sound rfl rfl rfl rfl
      | true => exact sound_frame before _ sound rfl rfl rfl rfl
  | opened pending sid =>
      simp only [step, Option.ite_none_right_eq_some] at move
      obtain ⟨_, done⟩ := move
      cases sid with
      | none =>
          obtain rfl := Option.some.inj done
          exact sound_frame before _ sound rfl rfl rfl rfl
      | some sid =>
          simp only [Option.elim_some, Option.ite_none_right_eq_some, Option.some.injEq] at done
          obtain ⟨new, rfl⟩ := done
          exact opened_sound { before with opens := before.opens.erase pending }
            (sound_frame before _ sound rfl rfl rfl rfl) pending.number sid new fits
  | finished =>
      simp only [step, Option.ite_none_right_eq_some, Option.some.injEq] at move
      obtain ⟨_, rfl⟩ := move
      exact sound_frame before _ sound rfl rfl rfl rfl
  | unmount =>
      simp only [step, Option.ite_none_right_eq_some, Option.some.injEq] at move
      obtain ⟨mounted, rfl⟩ := move
      have balanced := sound.balanced
      rw [if_pos mounted] at balanced
      exact ⟨rfl, balanced_let_go before.ledger before.sessionRef balanced⟩

-- A session that replaces another one leaves that one open.
theorem unfit_breaks (before : Page) (event : Event) (after : Page) (sound : Sound before) (unfit : ¬ Fits before event)
    (move : step before event = some after) : ¬ Kept after := by
  cases event with
  | opened pending sid =>
      cases sid with
      | none => exact absurd trivial unfit
      | some sid =>
          simp only [Fits, Classical.not_imp, Int.not_le] at unfit
          obtain ⟨positive, there, current, open'⟩ := unfit
          simp only [step, Option.elim_some, Option.ite_none_right_eq_some, Option.some.injEq] at move
          obtain ⟨_, new, rfl⟩ := move
          have mounted := sound_mounted before sound there
          have balanced := sound.balanced
          rw [if_pos mounted] at balanced
          obtain ⟨known, unreleased⟩ := balanced_known before.ledger before.sessionRef balanced open'
          intro kept
          have owned := kept.owned
          rcases opened_completes pending.number sid { before with
            opens := before.opens.erase pending, ledger := returned sid before.ledger } with
            ⟨stale, _⟩ | ⟨none, _⟩ | ⟨_, _, session, ledger⟩
          · rcases stale with gone | other
            · exact absurd (there.symm.trans gone) (by simp)
            · exact other current
          · omega
          · rw [session, ledger] at owned
            exact replaced_unowned before.ledger before.sessionRef sid positive known unreleased new owned
  | _ => exact absurd trivial unfit

/-- In the run over any list of events every session is the current one or is closed exactly
once, and none is left in the end, if and only if no open of the last token brings a session
while there is one. -/
theorem sftp_sessions_owned (events : List Event) :
    Always step {} events Kept ↔ Steps step {} events fun before event _ => Fits before event := by
  have initial : Sound {} := ⟨rfl, balanced_nil⟩
  have preserved : ∀ before event after, Sound before → Fits before event → step before event = some after →
      Sound after := fun before event after sound fits move => step_sound before event after sound fits move
  exact fits_iff step {} events Sound Kept initial Fits preserved sound_kept unfit_breaks

-- Two hosts are tapped before the page is drawn again. The second password check comes back after the
-- first session is there, and the second session replaces it.
def secondTap : List Event :=
  [.tap (savedHost 1), .tap (savedHost 2), .passwordChecked (savedHost 1) true, .opened ⟨1, draft (savedHost 1)⟩ (some 7),
    .passwordChecked (savedHost 2) true, .opened ⟨2, draft (savedHost 2)⟩ (some 8)]

theorem replaced_session_left : ¬ Always step {} secondTap Kept := by
  intro always
  have run : Run (Moves step) {} secondTap _ := moves_run step _ _ _ rfl
  have kept := always secondTap [] _ (List.append_nil _).symm run
  exact absurd (kept.owned 7 (by decide)) (by decide)

end Kessh.SFTPPage
