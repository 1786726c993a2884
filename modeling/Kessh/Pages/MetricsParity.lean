import Kessh.Host.Metrics
import Kessh.Pages.MonitorMetrics

set_option autoImplicit false

-- The usages that the ArkTS page of the monitor holds, beside those that the bridge returns.
namespace Kessh.MonitorPage

open Ecma
open KesshHost (idlePattern usagePattern)

variable (rounding : Rounding) (shown : Number → JsString)

def clampUsage (value : Number) : Number :=
  if value.lt (.finite 0) then .finite 0
  else if (Number.finite 100).lt value then .finite 100
  else value

def cpuUsage (output : JsString) : Number :=
  match idlePattern.search output with
  | some groups =>
      let idle := rounding.parseFloat (groups.getD 0 [])
      rounding.sub (.finite 100) idle
  | none => match usagePattern.search output with
    | some groups => rounding.add (rounding.parseFloat (groups.getD 0 [])) (rounding.parseFloat (groups.getD 1 []))
    | none => .finite 0

def numbers : Numbers Number where
  zero := .finite 0
  cpuUsage := cpuUsage rounding
  parseFloat := rounding.parseFloat
  positive := fun value => (Number.finite 0).lt value
  percent := fun used total => rounding.mul (rounding.div used total) (.finite 100)
  clampUsage
  text := shown

def processed (sid : Int) (outputs : List Outputs) : Shown Number :=
  outputs.foldl (fun before next => showMetrics (numbers rounding shown) sid next before) (numbers rounding shown).unknown

structure Agrees (answer : LynxMonitorPage.SystemMetrics Number) (held : Shown Number) : Prop where
  cpu : answer.cpuUsage = held.cpuUsage.value
  memory : answer.memoryUsage = held.memoryUsage.value
  disk : answer.diskUsage = held.diskUsage.value

theorem orZero_same (value : Number) : value.orZero = value ↔ value ≠ .nan := by
  cases value with
  | nan => simp [Number.orZero]
  | _ => simp [Number.orZero]

-- A row of free that the page takes a usage from, and one of df.
def MemoryRow (output : JsString) : Prop :=
  output ≠ [] ∧ (columns output).length ≥ 4 ∧ (Number.finite 0).lt (rounding.parseFloat ((columns output).getD 1 [])) = true

def DiskRow (output : JsString) : Prop := output ≠ [] ∧ (columns output).length ≥ 5

def diskPercent (output : JsString) : Number := rounding.parseFloat (((columns output).getD 4 []).erase 0x25)

def memoryPercent (output : JsString) : Number :=
  rounding.mul (rounding.div (rounding.parseFloat ((columns output).getD 2 [])) (rounding.parseFloat ((columns output).getD 1 [])))
    (.finite 100)

theorem parseMemory_usage (source : Option Int) (output : JsString) (held : Shown Number) :
    (output = [] ∧ (parseMemory (numbers rounding shown) source output held).memoryUsage.value = .finite 0) ∨
      (MemoryRow rounding output ∧
        (parseMemory (numbers rounding shown) source output held).memoryUsage.value = memoryPercent rounding output) ∨
      (output ≠ [] ∧ ¬ MemoryRow rounding output ∧
        (parseMemory (numbers rounding shown) source output held).memoryUsage = held.memoryUsage) := by
  unfold parseMemory MemoryRow
  by_cases empty : output = []
  · exact .inl ⟨empty, by rw [if_pos (by simpa using empty)]; rfl⟩
  · rw [if_neg (by simpa using empty)]
    by_cases long : (columns output).length ≥ 4
    · rw [if_pos long]
      by_cases positive : (numbers rounding shown).positive ((numbers rounding shown).parseFloat ((columns output).getD 1 [])) =
          true
      · refine .inr (.inl ⟨⟨empty, long, positive⟩, ?_⟩)
        dsimp only
        rw [if_pos positive]
        rfl
      · refine .inr (.inr ⟨empty, fun row => positive row.2.2, ?_⟩)
        dsimp only
        rw [if_neg positive]
    · rw [if_neg long]
      exact .inr (.inr ⟨empty, fun row => long row.2.1, rfl⟩)

theorem parseDisk_usage (source : Option Int) (output : JsString) (held : Shown Number) :
    (output = [] ∧ (parseDisk (numbers rounding shown) source output held).diskUsage.value = .finite 0) ∨
      (DiskRow output ∧
        (parseDisk (numbers rounding shown) source output held).diskUsage.value = diskPercent rounding output) ∨
      (output ≠ [] ∧ ¬ DiskRow output ∧
        (parseDisk (numbers rounding shown) source output held).diskUsage = held.diskUsage) := by
  unfold parseDisk DiskRow
  by_cases empty : output = []
  · exact .inl ⟨empty, by rw [if_pos (by simpa using empty)]; rfl⟩
  · rw [if_neg (by simpa using empty)]
    by_cases long : (columns output).length ≥ 5
    · rw [if_pos long]
      exact .inr (.inl ⟨⟨empty, long⟩, rfl⟩)
    · rw [if_neg long]
      exact .inr (.inr ⟨empty, fun row => long row.2, rfl⟩)

theorem bridge_memory (output : JsString) :
    (MemoryRow rounding output ∧ (KesshHost.parseMemory rounding shown output).usage = memoryPercent rounding output) ∨
      (¬ MemoryRow rounding output ∧ (KesshHost.parseMemory rounding shown output).usage = .finite 0) := by
  unfold KesshHost.parseMemory MemoryRow
  by_cases empty : output = []
  · exact .inr ⟨fun row => row.1 empty, by rw [if_pos (by simpa using empty)]⟩
  · rw [if_neg (by simpa using empty)]
    by_cases long : (columns output).length ≥ 4
    · rw [if_pos (show (KesshHost.columns output).length ≥ 4 from long)]
      by_cases positive : (Number.finite 0).lt (rounding.parseFloat ((columns output).getD 1 [])) = true
      · exact .inl ⟨⟨empty, long, positive⟩, if_pos positive⟩
      · exact .inr ⟨fun row => positive row.2.2, if_neg positive⟩
    · rw [if_neg (show ¬ (KesshHost.columns output).length ≥ 4 from long)]
      exact .inr ⟨fun row => long row.2.1, rfl⟩

theorem bridge_disk (output : JsString) :
    (DiskRow output ∧ (KesshHost.parseDisk rounding output).usage = (diskPercent rounding output).orZero) ∨
      (¬ DiskRow output ∧ (KesshHost.parseDisk rounding output).usage = .finite 0) := by
  unfold KesshHost.parseDisk DiskRow
  by_cases empty : output = []
  · exact .inr ⟨fun row => row.1 empty, by rw [if_pos (by simpa using empty)]⟩
  · rw [if_neg (by simpa using empty)]
    by_cases long : (columns output).length ≥ 5
    · rw [if_pos (show (KesshHost.columns output).length ≥ 5 from long)]
      exact .inl ⟨⟨empty, long⟩, rfl⟩
    · rw [if_neg (show ¬ (KesshHost.columns output).length ≥ 5 from long)]
      exact .inr ⟨fun row => long row.2, rfl⟩

theorem cpu_agrees (source : Option Int) (output : JsString) (held : Shown Number) :
    (KesshHost.parseCpu rounding output).usage =
      (parseCpu (numbers rounding shown) source output held).cpuUsage.value := by
  unfold KesshHost.parseCpu parseCpu
  by_cases empty : output.isEmpty = true
  · rw [if_pos empty, if_pos empty]
    rfl
  · rw [if_neg empty, if_neg empty]
    show _ = cpuUsage rounding output
    unfold cpuUsage
    cases idlePattern.search output with
    | some groups => rfl
    | none =>
        cases usagePattern.search output with
        | some groups => rfl
        | none => rfl

theorem memory_agrees (source : Option Int) (output : JsString) (held : Shown Number) :
    (KesshHost.parseMemory rounding shown output).usage =
        (parseMemory (numbers rounding shown) source output held).memoryUsage.value ↔
      output = [] ∨ MemoryRow rounding output ∨ held.memoryUsage.value = .finite 0 := by
  rcases bridge_memory rounding shown output with ⟨row, returned⟩ | ⟨none, returned⟩
  · rcases parseMemory_usage rounding shown source output held with ⟨empty, _⟩ | ⟨_, taken⟩ | ⟨_, none, _⟩
    · exact absurd empty row.1
    · exact iff_of_true (returned.trans taken.symm) (.inr (.inl row))
    · exact absurd row none
  · rcases parseMemory_usage rounding shown source output held with ⟨empty, zero⟩ | ⟨row, _⟩ | ⟨some, _, kept⟩
    · exact iff_of_true (returned.trans zero.symm) (.inl empty)
    · exact absurd row none
    · rw [returned, kept]
      simp only [some, none, false_or]
      exact eq_comm

theorem disk_agrees (source : Option Int) (output : JsString) (held : Shown Number) :
    (KesshHost.parseDisk rounding output).usage =
        (parseDisk (numbers rounding shown) source output held).diskUsage.value ↔
      output = [] ∨ (DiskRow output ∧ diskPercent rounding output ≠ .nan) ∨
        (¬ DiskRow output ∧ held.diskUsage.value = .finite 0) := by
  rcases bridge_disk rounding output with ⟨row, returned⟩ | ⟨none, returned⟩
  · rcases parseDisk_usage rounding shown source output held with ⟨empty, _⟩ | ⟨_, taken⟩ | ⟨_, none, _⟩
    · exact absurd empty row.1
    · rw [returned, taken, orZero_same]
      simp only [row.1, row, true_and, false_or, not_true_eq_false, false_and, or_false]
    · exact absurd row none
  · rcases parseDisk_usage rounding shown source output held with ⟨empty, zero⟩ | ⟨row, _⟩ | ⟨some, _, kept⟩
    · exact iff_of_true (returned.trans zero.symm) (.inl empty)
    · exact absurd row none
    · rw [returned, kept]
      simp only [some, none, false_and, not_false_eq_true, true_and, false_or]
      exact eq_comm

theorem parseCpu_frame {V : Type} (numbers : Numbers V) (source : Option Int) (output : JsString) (held : Shown V) :
    parseCpu numbers source output held = { held with
      cpuUsage := (parseCpu numbers source output held).cpuUsage
      cpuDetail := (parseCpu numbers source output held).cpuDetail } := by
  unfold parseCpu
  split <;> rfl

theorem parseMemory_frame {V : Type} (numbers : Numbers V) (source : Option Int) (output : JsString) (held : Shown V) :
    parseMemory numbers source output held = { held with
      memoryUsage := (parseMemory numbers source output held).memoryUsage
      memoryDetail := (parseMemory numbers source output held).memoryDetail } := by
  unfold parseMemory
  split
  · rfl
  · split
    · dsimp only
      split <;> rfl
    · rfl

theorem parseDisk_frame {V : Type} (numbers : Numbers V) (source : Option Int) (output : JsString) (held : Shown V) :
    parseDisk numbers source output held = { held with
      diskUsage := (parseDisk numbers source output held).diskUsage
      diskDetail := (parseDisk numbers source output held).diskDetail } := by
  unfold parseDisk
  split
  · rfl
  · split <;> rfl

theorem showMetrics_cpu {V : Type} (numbers : Numbers V) (sid : Int) (outputs : Outputs) (held : Shown V) :
    (showMetrics numbers sid outputs held).cpuUsage = (parseCpu numbers (some sid) outputs.cpu held).cpuUsage := by
  rw [showMetrics]
  dsimp only
  rw [parseDisk_frame, parseMemory_frame]

theorem showMetrics_memory {V : Type} (numbers : Numbers V) (sid : Int) (outputs : Outputs) (held : Shown V) :
    ∃ before : Shown V, before.memoryUsage = held.memoryUsage ∧
      (showMetrics numbers sid outputs held).memoryUsage =
        (parseMemory numbers (some sid) outputs.memory before).memoryUsage := by
  refine ⟨parseCpu numbers (some sid) outputs.cpu held, by rw [parseCpu_frame], ?_⟩
  rw [showMetrics]
  dsimp only
  rw [parseDisk_frame]

theorem showMetrics_disk {V : Type} (numbers : Numbers V) (sid : Int) (outputs : Outputs) (held : Shown V) :
    ∃ before : Shown V, before.diskUsage = held.diskUsage ∧
      (showMetrics numbers sid outputs held).diskUsage = (parseDisk numbers (some sid) outputs.disk before).diskUsage :=
  ⟨parseMemory numbers (some sid) outputs.memory (parseCpu numbers (some sid) outputs.cpu held),
    by rw [parseMemory_frame, parseCpu_frame], rfl⟩

structure Settled (before : Shown Number) (last : Outputs) : Prop where
  memory : last.memory = [] ∨ MemoryRow rounding last.memory ∨ before.memoryUsage.value = .finite 0
  disk : last.disk = [] ∨ (DiskRow last.disk ∧ diskPercent rounding last.disk ≠ .nan) ∨
    (¬ DiskRow last.disk ∧ before.diskUsage.value = .finite 0)

theorem processed_concat (sid : Int) (before : List Outputs) (last : Outputs) :
    processed rounding shown sid (before ++ [last]) =
      showMetrics (numbers rounding shown) sid last (processed rounding shown sid before) := by
  rw [processed, List.foldl_append]
  rfl

/-- After any outputs the bridge returns for the last ones what the page holds exactly when each of them is
empty, or a row that the page takes, or comes when the page holds zero. The CPU usages are always the same. -/
theorem usages_agree_iff (sid : Int) (before : List Outputs) (last : Outputs) :
    Agrees (KesshHost.fetchMetrics rounding shown last.cpu last.memory last.disk last.time)
        (processed rounding shown sid (before ++ [last])) ↔
      Settled rounding (processed rounding shown sid before) last := by
  obtain ⟨middle, memoryHeld, memory⟩ :=
    showMetrics_memory (numbers rounding shown) sid last (processed rounding shown sid before)
  obtain ⟨late, diskHeld, disk⟩ := showMetrics_disk (numbers rounding shown) sid last (processed rounding shown sid before)
  have memoryAgrees := memory_agrees rounding shown (some sid) last.memory middle
  have diskAgrees := disk_agrees rounding shown (some sid) last.disk late
  rw [← memory, memoryHeld] at memoryAgrees
  rw [← disk, diskHeld] at diskAgrees
  rw [processed_concat]
  constructor
  · exact fun agrees => ⟨memoryAgrees.mp agrees.memory, diskAgrees.mp agrees.disk⟩
  · refine fun settled => ⟨?_, memoryAgrees.mpr settled.memory, diskAgrees.mpr settled.disk⟩
    rw [showMetrics_cpu]
    exact cpu_agrees rounding shown (some sid) last.cpu _

theorem all_used : memoryPercent rounding (js "Mem: 1 1 0") = .finite 100 := by
  have unit := rounding.round_natCast 1 (by decide)
  have hundred := rounding.round_natCast 100 (by decide)
  rw [Nat.cast_one] at unit
  rw [Nat.cast_ofNat] at hundred
  have one : rounding.parseFloat (js "1") = .finite 1 := by
    rw [rounding.parseFloat_numeral _ (by decide), show digitsFrom 0 (js "1") = 1 by decide, Nat.cast_one, unit]
  have total : (columns (js "Mem: 1 1 0")).getD 1 [] = js "1" := by decide
  have used : (columns (js "Mem: 1 1 0")).getD 2 [] = js "1" := by decide
  rw [memoryPercent, total, used, one, Rounding.div, if_neg (show (1 : ℚ) ≠ 0 from one_ne_zero), div_one, unit, Rounding.mul, one_mul, hundred]

theorem all_used_row : MemoryRow rounding (js "Mem: 1 1 0") := by
  have unit := rounding.round_natCast 1 (by decide)
  rw [Nat.cast_one] at unit
  refine ⟨by decide, by decide, ?_⟩
  rw [show (columns (js "Mem: 1 1 0")).getD 1 [] = js "1" by decide, rounding.parseFloat_numeral _ (by decide),
    show digitsFrom 0 (js "1") = 1 by decide, Nat.cast_one, unit]
  exact decide_eq_true (show (0 : ℚ) < 1 from one_pos)

theorem held_percent (sid : Int) (outputs : Outputs) (held : Shown Number) (row : MemoryRow rounding outputs.memory) :
    (showMetrics (numbers rounding shown) sid outputs held).memoryUsage.value = memoryPercent rounding outputs.memory := by
  obtain ⟨before, _, memory⟩ := showMetrics_memory (numbers rounding shown) sid outputs held
  rw [memory]
  rcases parseMemory_usage rounding shown (some sid) outputs.memory before with ⟨empty, _⟩ | ⟨_, taken⟩ | ⟨_, none, _⟩
  · exact absurd empty row.1
  · exact taken
  · exact absurd row none

-- Behind it comes a line that is no row: the page holds all of it, and the bridge returns zero.
theorem usages_stale :
    ¬ Agrees (KesshHost.fetchMetrics .double (fun _ => []) [] (js "Mem:") [] [])
      (processed .double (fun _ => []) 1
        [{ cpu := [], memory := js "Mem: 1 1 0", disk := [], time := [] },
          { cpu := [], memory := js "Mem:", disk := [], time := [] }]) := by
  intro agrees
  obtain ⟨before, held, memory⟩ := showMetrics_memory (numbers .double fun _ => []) 1
    { cpu := [], memory := js "Mem:", disk := [], time := [] }
    (processed .double (fun _ => []) 1 [{ cpu := [], memory := js "Mem: 1 1 0", disk := [], time := [] }])
  have full : before.memoryUsage.value = .finite 100 := by
    rw [held]
    exact (held_percent .double _ 1 _ _ (all_used_row .double)).trans (all_used .double)
  have settled := (memory_agrees .double (fun _ => []) (some 1) (js "Mem:") before).mp
    (agrees.memory.trans (congrArg Sourced.value memory))
  rcases settled with empty | row | zero
  · exact absurd empty (by decide)
  · exact absurd row.2.1 (by decide)
  · exact absurd (full.symm.trans zero) (by decide)

end Kessh.MonitorPage
