import Kessh.Lib.Labelled
import Kessh.Lib.Ledger
import Kessh.Store.Connections

set_option autoImplicit false

-- The sessions that the Lynx pages for files and for the monitor open for a saved host. The ledger
-- has the positive ids that openSession returned and the calls of closeSession, newest first.
namespace Kessh.HostSessions

open Ledger

def draft (record : ConnectionRecord) : ConnectionDraft :=
  { host := record.host
    port := .number (.int record.port)
    username := record.username
    editingId := some (.int record.id)
    isEditing := some true }

-- An open that is waited for, by the number of its call or by its token.
structure PendingOpen where
  number : Nat
  draft : ConnectionDraft
deriving DecidableEq

def savedHost (id : Nat) : ConnectionRecord :=
  { id, name := [], host := Ecma.js "h", port := 22, username := Ecma.js "u", authType := .password, time := [] }

-- What openSession may return: a value that is not positive, or an id that it has not returned yet.
def fresh (sid : Int) (ledger : List (Entry Int)) : Bool := decide (sid ≤ 0) || !(acquired ledger).contains sid

def returned (sid : Int) (ledger : List (Entry Int)) : List (Entry Int) :=
  if sid > 0 then .acquire sid :: ledger else ledger

def closeSession (sid : Int) (ledger : List (Entry Int)) : List (Entry Int) :=
  if sid > 0 then .release sid :: ledger else ledger

def Closed (ledger : List (Entry Int)) : Prop := ∀ sid ∈ acquired ledger, (released ledger).count sid = 1

-- Every session is the one that sessionRef has, or was closed exactly once.
def Owned (sessionRef : Int) (ledger : List (Entry Int)) : Prop :=
  ∀ sid ∈ acquired ledger, (sid = sessionRef ∧ (released ledger).count sid = 0) ∨ (released ledger).count sid = 1

def held (sessionRef : Int) : List Int := if sessionRef > 0 then [sessionRef] else []

theorem closeSession_none (sid : Int) (ledger : List (Entry Int)) (none : sid ≤ 0) : closeSession sid ledger = ledger :=
  if_neg (by omega)

theorem returned_none (sid : Int) (ledger : List (Entry Int)) (none : sid ≤ 0) : returned sid ledger = ledger :=
  if_neg (by omega)

theorem held_none (sid : Int) (none : sid ≤ 0) : held sid = [] := if_neg (by omega)

@[simp] theorem acquired_closeSession (sid : Int) (ledger : List (Entry Int)) :
    acquired (closeSession sid ledger) = acquired ledger := by
  unfold closeSession
  split <;> rfl

@[simp] theorem released_returned (sid : Int) (ledger : List (Entry Int)) :
    released (returned sid ledger) = released ledger := by
  unfold returned
  split <;> rfl

theorem released_closeSession (sid : Int) (ledger : List (Entry Int)) (positive : sid > 0) :
    released (closeSession sid ledger) = sid :: released ledger := by
  rw [closeSession, if_pos positive, released]

theorem acquired_returned (sid other : Int) (ledger : List (Entry Int)) (known : other ∈ acquired ledger) :
    other ∈ acquired (returned sid ledger) := by
  unfold returned
  split
  · exact List.mem_cons_of_mem _ known
  · exact known

def ClosedTimes (times : Nat) (sid : Int) (ledger : List (Entry Int)) : Prop :=
  sid ∈ acquired ledger ∧ times ≤ (released ledger).count sid

theorem closedTimes_close (times : Nat) (sid other : Int) (ledger : List (Entry Int))
    (closed : ClosedTimes times sid ledger) : ClosedTimes times sid (closeSession other ledger) := by
  refine ⟨(acquired_closeSession other ledger).symm ▸ closed.1, closed.2.trans ?_⟩
  unfold closeSession
  split
  · exact List.count_le_count_cons
  · exact Nat.le_refl _

theorem closedTimes_again (times : Nat) (sid : Int) (ledger : List (Entry Int)) (positive : sid > 0)
    (closed : ClosedTimes times sid ledger) : ClosedTimes (times + 1) sid (closeSession sid ledger) := by
  refine ⟨(acquired_closeSession sid ledger).symm ▸ closed.1, ?_⟩
  rw [released_closeSession sid ledger positive, List.count_cons_self]
  exact Nat.succ_le_succ closed.2

theorem closedTimes_returned (times : Nat) (sid other : Int) (ledger : List (Entry Int))
    (closed : ClosedTimes times sid ledger) : ClosedTimes times sid (returned other ledger) :=
  ⟨acquired_returned other sid ledger closed.1, (released_returned other ledger).symm ▸ closed.2⟩

theorem closedTimes_unowned (sessionRef sid : Int) (ledger : List (Entry Int)) (closed : ClosedTimes 2 sid ledger) :
    ¬ Owned sessionRef ledger := by
  intro owned
  have twice := closed.2
  rcases owned sid closed.1 with ⟨_, none⟩ | once
  · omega
  · omega

theorem balanced_known (ledger : List (Entry Int)) (sid : Int) (balanced : Balanced ledger (held sid)) (positive : sid > 0) :
    sid ∈ acquired ledger ∧ (released ledger).count sid = 0 := by
  rw [held, if_pos positive] at balanced
  exact ⟨balanced_owned_acquired ledger [sid] balanced sid (List.mem_singleton_self sid), List.count_eq_zero.mpr
    (balanced_owned_not_released ledger [sid] balanced sid (List.mem_singleton_self sid))⟩

theorem fresh_absent (sid : Int) (ledger : List (Entry Int)) (new : fresh sid ledger = true) (positive : sid > 0) :
    sid ∉ acquired ledger := by
  simp only [fresh, Bool.or_eq_true, decide_eq_true_eq, Bool.not_eq_true', List.contains_eq_mem,
    decide_eq_false_iff_not] at new
  exact new.resolve_left (by omega)

theorem balanced_closed (ledger : List (Entry Int)) (balanced : Balanced ledger []) : Closed ledger := by
  intro sid known
  rcases balanced_exclusive ledger [] balanced sid known with ⟨owned, _⟩ | ⟨_, closed⟩
  · exact absurd owned (by simp)
  · exact closed

theorem closed_owned (sessionRef : Int) (ledger : List (Entry Int)) (closed : Closed ledger) : Owned sessionRef ledger :=
  fun sid known => .inr (closed sid known)

theorem balanced_owned (sessionRef : Int) (ledger : List (Entry Int)) (balanced : Balanced ledger (held sessionRef)) :
    Owned sessionRef ledger := by
  intro sid known
  rcases balanced_exclusive ledger _ balanced sid known with ⟨owned, unreleased⟩ | ⟨_, closed⟩
  · have member : sid ∈ held sessionRef := List.count_pos_iff.mp (by omega)
    unfold held at member
    split at member
    · exact .inl ⟨List.mem_singleton.mp member, unreleased⟩
    · cases member
  · exact .inr closed

theorem balanced_dropped (ledger : List (Entry Int)) (owners : List Int) (sid : Int) (balanced : Balanced ledger owners)
    (new : fresh sid ledger = true) : Balanced (closeSession sid (returned sid ledger)) owners := by
  unfold closeSession returned
  by_cases positive : sid > 0
  · rw [if_pos positive, if_pos positive]
    have opened := balanced_acquire ledger owners sid balanced (fresh_absent sid ledger new positive)
    have closed := balanced_release _ _ sid opened (by simp)
    rwa [List.erase_cons_head] at closed
  · rw [if_neg positive, if_neg positive]
    exact balanced

theorem balanced_returned (ledger : List (Entry Int)) (sid : Int) (balanced : Balanced ledger [])
    (new : fresh sid ledger = true) : Balanced (returned sid ledger) (held sid) := by
  unfold returned held
  by_cases positive : sid > 0
  · rw [if_pos positive, if_pos positive]
    exact balanced_acquire ledger [] sid balanced (fresh_absent sid ledger new positive)
  · rw [if_neg positive, if_neg positive]
    exact balanced

theorem balanced_let_go (ledger : List (Entry Int)) (sessionRef : Int) (balanced : Balanced ledger (held sessionRef)) :
    Balanced (closeSession sessionRef ledger) [] := by
  unfold held at balanced
  unfold closeSession
  by_cases positive : sessionRef > 0
  · rw [if_pos positive] at balanced ⊢
    have closed := balanced_release ledger _ sessionRef balanced (by simp)
    rwa [List.erase_cons_head] at closed
  · rw [if_neg positive] at balanced ⊢
    exact balanced

theorem replaced_unowned (ledger : List (Entry Int)) (old sid : Int) (positive : sid > 0) (known : old ∈ acquired ledger)
    (open' : (released ledger).count old = 0) (new : fresh sid ledger = true) : ¬ Owned sid (returned sid ledger) := by
  intro owned
  have absent := fresh_absent sid ledger new positive
  unfold returned at owned
  rw [if_pos positive] at owned
  rcases owned old (List.mem_cons_of_mem _ known) with ⟨same, _⟩ | closed
  · exact absent (same ▸ known)
  · rw [released, open'] at closed
    cases closed

end Kessh.HostSessions
