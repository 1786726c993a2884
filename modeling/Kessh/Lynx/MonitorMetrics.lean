import Kessh.Lynx.MonitorPage

set_option autoImplicit false

namespace Kessh

open Ecma

-- A value with the session that the commands ran on which it was made of, if any.
structure Sourced (α : Type) where
  value : α
  source : Option Int := none

end Kessh

-- What the Lynx page of the monitor shows of its host.
namespace Kessh.LynxMonitorPage

open Ecma Ledger Labelled
open HostSessions

structure SystemMetrics (V : Type) where
  cpuUsage : V
  cpuDetail : JsString
  memoryUsage : V
  memoryDetail : JsString
  diskUsage : V
  diskDetail : JsString
  lastUpdate : JsString

structure Shown (V : Type) where
  metrics : Option (Sourced (SystemMetrics V)) := none
  cpuHistory : List (Sourced V) := []
  memHistory : List (Sourced V) := []
  diskHistory : List (Sourced V) := []

-- The page with what it shows, and the drafts that its sessions were opened for.
structure Monitor (V : Type) where
  page : Page := {}
  selected : Option ConnectionRecord := none
  shown : Shown V := {}
  sessions : List (Int × ConnectionDraft) := []

variable {V : Type} (clamp : V → V)

def historyLimit : Nat := 20

def push (history : List (Sourced V)) (sid : Int) (usage : V) : List (Sourced V) :=
  let next := history ++ [{ value := clamp usage, source := some sid }]
  next.drop (next.length - historyLimit)

def ticked (sid : Int) (next : SystemMetrics V) (shown : Shown V) : Shown V where
  metrics := some { value := next, source := some sid }
  cpuHistory := push clamp shown.cpuHistory sid next.cpuUsage
  memHistory := push clamp shown.memHistory sid next.memoryUsage
  diskHistory := push clamp shown.diskHistory sid next.diskUsage

-- The record that pickHost selects when it goes on to open its session.
def picks (page : Page) : Event → Option ConnectionRecord
  | .passwordChecked record hasPwd => if hasPwd && decide (page.sessionRef ≤ 0) then some record else none
  | .previousClosed record => some record
  | _ => none

def fetchedFrom : Event → Option Int
  | .firstTicked sid _ => some sid
  | .fetched sid => some sid
  | _ => none

def obtained : Event → Option (Int × ConnectionDraft)
  | .opened pending (some sid) => if sid > 0 then some (sid, pending.draft) else none
  | _ => none

def picked (record : ConnectionRecord) (m : Monitor V) : Monitor V :=
  { m with selected := some record, shown := { m.shown with cpuHistory := [], memHistory := [], diskHistory := [] } }

-- A fetch that fails shows its error only.
def fetched (sid : Int) (result : Except JsString (SystemMetrics V)) (m : Monitor V) : Monitor V :=
  match result with
  | .ok next => if m.page.disposedRef then m else { m with shown := ticked clamp sid next m.shown }
  | .error _ => m

-- A fetch that ends comes with its result.
def monitorStep (m : Monitor V) (event : Event × Except JsString (SystemMetrics V)) : Option (Monitor V) :=
  (step m.page event.1).map fun page =>
    let m := (picks m.page event.1).elim m fun record => picked record m
    let m := (fetchedFrom event.1).elim m fun sid => fetched clamp sid event.2 m
    { m with page, sessions := (obtained event.1).toList ++ m.sessions }

structure Shown.All (shown : Shown V) (holds : Option Int → Prop) : Prop where
  metrics : ∀ metrics ∈ shown.metrics, holds metrics.source
  cpu : ∀ sample ∈ shown.cpuHistory, holds sample.source
  mem : ∀ sample ∈ shown.memHistory, holds sample.source
  disk : ∀ sample ∈ shown.diskHistory, holds sample.source

def Monitor.Of (m : Monitor V) (record : ConnectionRecord) (source : Option Int) : Prop :=
  ∀ sid ∈ source, (sid, draft record) ∈ m.sessions

-- As long as the page is there, everything it shows is from sessions of the host it has selected.
def Attributed (m : Monitor V) : Prop :=
  m.page.disposedRef = false → m.shown.All fun source => ∃ record ∈ m.selected, m.Of record source

-- The metrics that are left when a host is selected are of it, and so is a session that a fetch succeeds on.
def Attributes (m : Monitor V) (event : Event × Except JsString (SystemMetrics V)) : Prop :=
  m.page.disposedRef = false →
    (∀ record ∈ picks m.page event.1, ∀ metrics ∈ m.shown.metrics, m.Of record metrics.source) ∧
    ∀ sid ∈ fetchedFrom event.1, ∀ next, event.2 = .ok next → ∃ record ∈ m.selected, m.Of record (some sid)

theorem all_imp (shown : Shown V) (first second : Option Int → Prop) (known : shown.All first)
    (all : ∀ source, first source → second source) : shown.All second :=
  ⟨fun metrics member => all _ (known.metrics metrics member), fun sample member => all _ (known.cpu sample member),
    fun sample member => all _ (known.mem sample member), fun sample member => all _ (known.disk sample member)⟩

theorem push_all (holds : Option Int → Prop) (history : List (Sourced V)) (sid : Int) (usage : V)
    (known : ∀ sample ∈ history, holds sample.source) (new : holds (some sid)) :
    ∀ sample ∈ push clamp history sid usage, holds sample.source := by
  intro sample member
  rcases List.mem_append.mp (List.mem_of_mem_drop member) with old | last
  · exact known sample old
  · obtain rfl := List.mem_singleton.mp last
    exact new

theorem ticked_all (holds : Option Int → Prop) (sid : Int) (next : SystemMetrics V) (shown : Shown V)
    (known : shown.All holds) : (ticked clamp sid next shown).All holds ↔ holds (some sid) := by
  constructor
  · exact fun all => all.metrics _ rfl
  · intro new
    refine ⟨fun metrics same => ?_, push_all clamp holds _ sid _ known.cpu new, push_all clamp holds _ sid _ known.mem new,
      push_all clamp holds _ sid _ known.disk new⟩
    obtain rfl := Option.some.inj same
    exact new

theorem clearTimer_disposed (page : Page) : (clearTimer page).disposedRef = page.disposedRef := by
  unfold clearTimer
  split <;> rfl

theorem step_disposed (page next : Page) (event : Event) (move : step page event = some next) :
    next.disposedRef = page.disposedRef ∨ event = .unmount ∧ next.disposedRef = true := by
  cases step_moved page event next move with
  | same _ _ _ same => exact .inl same.disposed
  | checked record =>
      have cleared := clearTimer_disposed { page with checks := page.checks.erase record }
      unfold passwordChecked
      dsimp only
      split
      · exact .inl rfl
      · split <;> exact .inl cleared
  | opened pending sid _ =>
      unfold opened
      split
      · exact .inl rfl
      · split <;> exact .inl rfl
  | firstTicked => exact .inl rfl
  | unmount mounted =>
      refine .inr ⟨rfl, ?_⟩
      exact clearTimer_disposed { page with mounted := false, disposedRef := true, tokenRef := page.tokenRef + 1 }

theorem fetched_shown (sid : Int) (next : SystemMetrics V) (m : Monitor V) (there : m.page.disposedRef = false) :
    fetched clamp sid (.ok next) m = { m with shown := ticked clamp sid next m.shown } := by
  simp [fetched, there]

theorem step_kinds (page : Page) (event : Event) :
    (∃ record, picks page event = some record ∧ fetchedFrom event = none ∧ obtained event = none) ∨
      (∃ sid, picks page event = none ∧ fetchedFrom event = some sid ∧ obtained event = none) ∨
      picks page event = none ∧ fetchedFrom event = none := by
  cases event with
  | passwordChecked record hasPwd =>
      by_cases goes : (hasPwd && decide (page.sessionRef ≤ 0)) = true
      · exact .inl ⟨record, if_pos goes, rfl, rfl⟩
      · exact .inr (.inr ⟨if_neg goes, rfl⟩)
  | previousClosed record => exact .inl ⟨record, rfl, rfl, rfl⟩
  | firstTicked sid intervalId => exact .inr (.inl ⟨sid, rfl, rfl, rfl⟩)
  | fetched sid => exact .inr (.inl ⟨sid, rfl, rfl, rfl⟩)
  | _ => exact .inr (.inr ⟨rfl, rfl⟩)

/-- A step of a page that shows nothing of another host shows nothing of another host exactly when what is
left of the metrics, and the session that a fetch succeeds on, are of the host selected. -/
theorem step_attributed (m : Monitor V) (event : Event × Except JsString (SystemMetrics V)) (next : Monitor V)
    (known : Attributed m) (move : monitorStep clamp m event = some next) : Attributed next ↔ Attributes m event := by
  obtain ⟨event, result⟩ := event
  obtain ⟨page, moved, rfl⟩ := Option.map_eq_some_iff.mp move
  rcases step_disposed m.page page event moved with same | ⟨rfl, gone⟩
  · unfold Attributed Attributes
    dsimp only
    rw [same]
    refine forall_congr' fun there => ?_
    have now := known there
    rcases step_kinds m.page event with ⟨record, picks, none, nothing⟩ | ⟨sid, none, ended, nothing⟩ | ⟨none, nothing⟩
    · simp only [picks, none, nothing, Option.elim, Option.toList_none, List.nil_append]
      constructor
      · intro all
        refine ⟨fun _ same metrics member => ?_, fun _ member => by cases member⟩
        obtain ⟨_, selected, own⟩ := all.metrics metrics member
        obtain rfl := Option.some.inj selected
        obtain rfl := Option.some.inj same
        exact own
      · intro fits
        refine ⟨fun metrics member => ⟨record, rfl, fits.1 record rfl metrics member⟩, ?_, ?_, ?_⟩ <;> intro _ member <;> cases member
    · simp only [none, ended, nothing, Option.elim, Option.toList_none, List.nil_append]
      cases result with
      | error message => exact iff_of_true now ⟨fun _ member => (by cases member), fun _ _ _ same => by cases same⟩
      | ok metrics =>
          rw [fetched_shown clamp sid metrics m there]
          refine (ticked_all clamp _ sid metrics m.shown now).trans ⟨fun own => ⟨fun _ member => (by cases member), ?_⟩, fun fits => ?_⟩
          · intro _ same _ _
            obtain rfl := Option.some.inj same
            exact own
          · exact fits.2 sid rfl metrics rfl
    · simp only [none, nothing, Option.elim]
      refine iff_of_true (all_imp _ _ _ now fun source => ?_) ⟨fun _ member => (by cases member), fun _ member => by cases member⟩
      rintro ⟨record, selected, own⟩
      exact ⟨record, selected, fun sid member => List.mem_append_right _ (own sid member)⟩
  · refine iff_of_true (fun there => absurd (gone.symm.trans there) Bool.false_ne_true.symm) fun _ => ?_
    exact ⟨fun _ none => (by cases none), fun _ none => by cases none⟩

end Kessh.LynxMonitorPage
