import Kessh.Pages.MetricsParity

set_option autoImplicit false

-- The histories that the ArkTS page of the monitor draws its charts from.
namespace Kessh.MonitorPage

open Ecma Labelled
open KesshHost (idlePattern usagePattern numberPattern)

structure Fetch where
  sid : Int
  result : Except JsString Outputs

section Recent

variable {V : Type} (numbers : Numbers V)

def fetchEnds (held : Shown V) (fetch : Fetch) : Option (Shown V) :=
  match fetch.result with
  | .ok outputs => some (showMetrics numbers fetch.sid outputs held)
  | .error _ => some held

structure Sample (V : Type) where
  cpu : V
  memory : V
  disk : V

def sampled (_ : Shown V) (fetch : Fetch) (after : Shown V) : List (Sample V) :=
  match fetch.result with
  | .ok _ =>
      [{ cpu := numbers.clampUsage after.cpuUsage.value
         memory := numbers.clampUsage after.memoryUsage.value
         disk := numbers.clampUsage after.diskUsage.value }]
  | .error _ => []

def recent (log : List V) : List V := log.drop (log.length - historyLimit)

def values (history : List (Sourced V)) : List V := history.map Sourced.value

structure Recent (log : List (Sample V)) (held : Shown V) : Prop where
  cpu : values held.cpuHistory = recent (log.map Sample.cpu)
  memory : values held.memoryHistory = recent (log.map Sample.memory)
  disk : values held.diskHistory = recent (log.map Sample.disk)
  cpu_bound : held.cpuHistory.length ≤ historyLimit
  memory_bound : held.memoryHistory.length ≤ historyLimit
  disk_bound : held.diskHistory.length ≤ historyLimit

theorem recent_length (log : List V) : (recent log).length = min log.length historyLimit := by
  rw [recent, List.length_drop]
  omega

theorem pushHistory_recent (history : List (Sourced V)) (value : Sourced V) (log : List V)
    (known : values history = recent log) :
    values (pushHistory numbers history value) = recent (log ++ [numbers.clampUsage value.value]) ∧
      (pushHistory numbers history value).length ≤ historyLimit := by
  have length : history.length = min log.length historyLimit := by
    have same := congrArg List.length known
    rwa [values, List.length_map, recent_length] at same
  have pushed : values (pushHistory numbers history value) = recent (log ++ [numbers.clampUsage value.value]) := by
    unfold pushHistory
    dsimp only
    rw [List.length_append, List.length_singleton, recent, List.length_append, List.length_singleton]
    split
    · rename_i full
      have long : historyLimit ≤ log.length := by omega
      rw [values, List.map_tail, List.map_append, ← values, known, recent, ← List.drop_one,
        show log.length + 1 - historyLimit = log.length - historyLimit + 1 by omega, ← List.drop_drop,
        List.drop_append_of_le_length (by omega : log.length - historyLimit ≤ log.length)]
      rfl
    · rename_i room
      have short : log.length - historyLimit = 0 := by omega
      rw [show log.length + 1 - historyLimit = 0 by omega, List.drop_zero, values, List.map_append, ← values, known, recent,
        short, List.drop_zero]
      rfl
  refine ⟨pushed, ?_⟩
  have size := congrArg List.length pushed
  rw [values, List.length_map, recent_length] at size
  omega

theorem showMetrics_histories (sid : Int) (outputs : Outputs) (held : Shown V) :
    (showMetrics numbers sid outputs held).cpuHistory =
        pushHistory numbers held.cpuHistory (showMetrics numbers sid outputs held).cpuUsage ∧
      (showMetrics numbers sid outputs held).memoryHistory =
        pushHistory numbers held.memoryHistory (showMetrics numbers sid outputs held).memoryUsage ∧
      (showMetrics numbers sid outputs held).diskHistory =
        pushHistory numbers held.diskHistory (showMetrics numbers sid outputs held).diskUsage := by
  have kept : ∀ output : Outputs, ∀ before : Shown V,
      (parseDisk numbers (some sid) output.disk (parseMemory numbers (some sid) output.memory
          (parseCpu numbers (some sid) output.cpu before))).cpuHistory = before.cpuHistory ∧
        (parseDisk numbers (some sid) output.disk (parseMemory numbers (some sid) output.memory
          (parseCpu numbers (some sid) output.cpu before))).memoryHistory = before.memoryHistory ∧
        (parseDisk numbers (some sid) output.disk (parseMemory numbers (some sid) output.memory
          (parseCpu numbers (some sid) output.cpu before))).diskHistory = before.diskHistory := fun output before => by
    rw [parseDisk_frame, parseMemory_frame, parseCpu_frame]
    exact ⟨rfl, rfl, rfl⟩
  obtain ⟨cpu, memory, disk⟩ := kept outputs held
  exact ⟨congrArg (pushHistory numbers · _) cpu, congrArg (pushHistory numbers · _) memory,
    congrArg (pushHistory numbers · _) disk⟩

theorem fetchEnds_recent (log : List (Sample V)) (held : Shown V) (fetch : Fetch) (after : Shown V)
    (known : Recent log held) (move : fetchEnds numbers held fetch = some after) :
    Recent (log ++ sampled numbers held fetch after) after := by
  unfold fetchEnds at move
  unfold sampled
  cases result : fetch.result with
  | error message =>
      rw [result] at move
      obtain rfl := Option.some.inj move
      dsimp only
      rwa [List.append_nil]
  | ok outputs =>
      rw [result] at move
      obtain rfl := Option.some.inj move
      obtain ⟨cpu, memory, disk⟩ := showMetrics_histories numbers fetch.sid outputs held
      obtain ⟨cpuRecent, cpuBound⟩ := pushHistory_recent numbers held.cpuHistory
        (showMetrics numbers fetch.sid outputs held).cpuUsage _ known.cpu
      obtain ⟨memoryRecent, memoryBound⟩ := pushHistory_recent numbers held.memoryHistory
        (showMetrics numbers fetch.sid outputs held).memoryUsage _ known.memory
      obtain ⟨diskRecent, diskBound⟩ := pushHistory_recent numbers held.diskHistory
        (showMetrics numbers fetch.sid outputs held).diskUsage _ known.disk
      rw [← cpu] at cpuRecent cpuBound
      rw [← memory] at memoryRecent memoryBound
      rw [← disk] at diskRecent diskBound
      refine ⟨?_, ?_, ?_, cpuBound, memoryBound, diskBound⟩
      · rw [List.map_append]
        exact cpuRecent
      · rw [List.map_append]
        exact memoryRecent
      · rw [List.map_append]
        exact diskRecent

theorem unknown_recent : Recent [] numbers.unknown :=
  ⟨rfl, rfl, rfl, Nat.zero_le _, Nat.zero_le _, Nat.zero_le _⟩

def ended (event : Event × Outputs) : Option Fetch :=
  (fetchedFrom event.1).map fun sid => { sid, result := .ok event.2 }

/-- Whatever happens to the page, what it shows comes of the fetches that have ended. -/
theorem page_fetches (m : Monitor V) (events : List (Event × Outputs)) (last : Monitor V)
    (run : Run (Moves (monitorStep numbers)) m events last) :
    Run (Moves (fetchEnds numbers)) m.shown (events.filterMap ended) last.shown := by
  induction run with
  | nil => exact .nil
  | snoc before state next event _ move ih =>
      obtain ⟨page, _, rfl⟩ := Option.map_eq_some_iff.mp move
      rw [List.filterMap_append]
      cases fetched : fetchedFrom event.1 with
      | none =>
          have nothing : [event].filterMap ended = [] := by simp [ended, fetched]
          rw [nothing, List.append_nil]
          exact ih
      | some sid =>
          have fetch : [event].filterMap ended = [{ sid, result := .ok event.2 }] := by simp [ended, fetched]
          rw [fetch]
          exact .snoc _ _ _ _ ih rfl

end Recent

section Range

variable (rounding : Rounding) (shown : Number → JsString)

def Percentage (value : Number) : Prop := ∃ q : ℚ, value = .finite q ∧ 0 ≤ q ∧ q ≤ 100

-- Every entry is a number that a bar can have as its height.
def InRange (held : Shown Number) : Prop :=
  ∀ sample ∈ held.cpuHistory ++ held.memoryHistory ++ held.diskHistory, Percentage sample.value

-- The outputs of a fetch leave no usage that is not a number: a row of free has a number as its used column, and not
-- two infinities, and a row of df has a number as its fifth.
structure Numeric (outputs : Outputs) : Prop where
  memory : MemoryRow rounding outputs.memory → rounding.parseFloat ((columns outputs.memory).getD 2 []) ≠ .nan ∧
    ¬ ∃ negative, rounding.parseFloat ((columns outputs.memory).getD 2 []) = .infinite negative ∧
      rounding.parseFloat ((columns outputs.memory).getD 1 []) = .infinite false
  disk : DiskRow outputs.disk → diskPercent rounding outputs.disk ≠ .nan

def Fetch.Fits (fetch : Fetch) : Prop := ∀ outputs, fetch.result = .ok outputs → Numeric rounding outputs

theorem clampUsage_range (value : Number) : Percentage (clampUsage value) ↔ value ≠ .nan := by
  unfold clampUsage
  cases value with
  | nan => simp [Number.lt, Percentage]
  | infinite negative =>
      cases negative with
      | true => exact iff_of_true ⟨0, rfl, le_rfl, by norm_num⟩ (by simp)
      | false => exact iff_of_true ⟨100, rfl, by norm_num, le_rfl⟩ (by simp)
  | finite q =>
      refine iff_of_true ?_ (by simp)
      by_cases low : q < 0
      · rw [if_pos (by simpa [Number.lt] using low)]
        exact ⟨0, rfl, le_rfl, by norm_num⟩
      · rw [if_neg (by simpa [Number.lt] using low)]
        by_cases high : 100 < q
        · rw [if_pos (by simpa [Number.lt] using high)]
          exact ⟨100, rfl, by norm_num, le_rfl⟩
        · rw [if_neg (by simpa [Number.lt] using high)]
          exact ⟨q, rfl, not_lt.mp low, not_lt.mp high⟩

theorem mul_hundred (value : Number) : rounding.mul value (.finite 100) = .nan ↔ value = .nan := by
  cases value with
  | nan => exact iff_of_true rfl rfl
  | infinite negative => simp [Rounding.mul]
  | finite q => simp [Rounding.mul, rounding.ordered]

theorem div_positive (used total : Number) (positive : (Number.finite 0).lt total = true) :
    rounding.div used total = .nan ↔
      used = .nan ∨ ∃ negative, used = .infinite negative ∧ total = .infinite false := by
  cases total with
  | nan => cases positive
  | infinite sign =>
      have above : sign = false := by simpa [Number.lt] using positive
      subst above
      cases used with
      | nan => exact iff_of_true rfl (.inl rfl)
      | infinite negative => exact iff_of_true rfl (.inr ⟨negative, rfl, rfl⟩)
      | finite p => simp [Rounding.div]
  | finite q =>
      have nonzero : q ≠ 0 := (of_decide_eq_true positive : 0 < q).ne'
      cases used with
      | nan => exact iff_of_true rfl (.inl rfl)
      | infinite negative => simp [Rounding.div]
      | finite p => simp [Rounding.div, nonzero, rounding.ordered]

theorem number_takes (piece : JsString) (groups : RegExpSearch.Groups UInt16) (takes : numberPattern.Takes piece groups) :
    groups = [piece] ∧ ∃ q : ℚ, 0 ≤ q ∧ rounding.parseFloat piece = rounding.round q := by
  obtain ⟨_, rfl, whole, fraction, _, _, rfl, rfl, ⟨rfl, long, digits⟩, decimals⟩ := takes
  have numeral : isDecimal whole = true := by
    rw [isDecimal, List.all_eq_true.mpr digits, Bool.and_true, Bool.not_eq_true', List.isEmpty_eq_false_iff,
      ← List.length_pos_iff]
    exact long
  rcases decimals with ⟨rfl, rfl⟩ | ⟨_, decimals, _, _, rfl, rfl, ⟨rfl, dot, isDot, rfl⟩, rfl, some, digits⟩
  · refine ⟨rfl, digitsFrom 0 whole, Nat.cast_nonneg _, ?_⟩
    rw [List.append_nil, rounding.parseFloat_numeral whole numeral]
  · obtain rfl : dot = 0x2E := by simpa using isDot
    refine ⟨rfl, digitsFrom 0 whole + digitsFrom 0 decimals / 10 ^ decimals.length, by positivity, ?_⟩
    rw [← rounding.parseFloat_decimal whole decimals numeral digits, point, if_neg (by simpa using List.length_pos_iff.mp some)]
    rfl

theorem round_nonnegative (q : ℚ) (nonnegative : 0 ≤ q) :
    rounding.round q = .infinite false ∨ ∃ value, rounding.round q = .finite value := by
  have above := rounding.above q 0 (by decide) (by simpa using nonnegative)
  cases rounded : rounding.round q with
  | nan => exact absurd rounded (rounding.ordered q)
  | finite value => exact .inr ⟨value, rfl⟩
  | infinite negative =>
      rw [rounded] at above
      exact .inl (congrArg Number.infinite above)

theorem cpuUsage_number (output : JsString) : cpuUsage rounding output ≠ .nan := by
  unfold cpuUsage
  cases idle : idlePattern.search output with
  | some groups =>
      obtain ⟨piece, _, number, tail, captured, others, rfl, rfl, takes, _⟩ :=
        RegExpSearch.Pattern.search_takes idlePattern output groups idle
      obtain ⟨rfl, q, nonnegative, parsed⟩ := number_takes rounding number captured takes
      simp only [List.cons_append, List.getD_cons_zero, parsed]
      rcases round_nonnegative rounding q nonnegative with infinite | ⟨value, finite⟩
      · simp [infinite, Rounding.sub, Rounding.add]
      · simp [finite, Rounding.sub, Rounding.add, rounding.ordered]
  | none =>
      cases usage : usagePattern.search output with
      | none => simp
      | some groups =>
          obtain ⟨_, _, first, _, captured, others, rfl, rfl, takesFirst, takesRest⟩ :=
            RegExpSearch.Pattern.search_takes usagePattern output groups usage
          obtain ⟨_, _, _, _, rfl, rfl, ⟨rfl, _⟩, _, _, _, _, rfl, rfl, ⟨rfl, _⟩, _, _, _, _, rfl, rfl, ⟨rfl, _⟩, _, _, _, _, rfl,
            rfl, ⟨rfl, _⟩, second, _, behind, _, rfl, rfl, takesSecond, _⟩ := takesRest
          obtain ⟨rfl, p, positive, user⟩ := number_takes rounding first captured takesFirst
          obtain ⟨rfl, q, nonnegative, system⟩ := number_takes rounding second behind takesSecond
          simp only [List.cons_append, List.nil_append, List.getD_cons_zero, List.getD_cons_succ, user, system]
          rcases round_nonnegative rounding p positive with infinite | ⟨value, finite⟩
          · rcases round_nonnegative rounding q nonnegative with other | ⟨other, same⟩
            · simp [infinite, other, Rounding.add]
            · simp [infinite, same, Rounding.add]
          · rcases round_nonnegative rounding q nonnegative with other | ⟨other, same⟩
            · simp [finite, other, Rounding.add]
            · simp [finite, same, Rounding.add, rounding.ordered]

structure Numbered (held : Shown Number) : Prop where
  cpu : held.cpuUsage.value ≠ .nan
  memory : held.memoryUsage.value ≠ .nan
  disk : held.diskUsage.value ≠ .nan
  range : InRange held

theorem memoryPercent_number (output : JsString) (row : MemoryRow rounding output) :
    memoryPercent rounding output ≠ .nan ↔
      rounding.parseFloat ((columns output).getD 2 []) ≠ .nan ∧
        ¬ ∃ negative, rounding.parseFloat ((columns output).getD 2 []) = .infinite negative ∧
          rounding.parseFloat ((columns output).getD 1 []) = .infinite false := by
  rw [memoryPercent, Ne, mul_hundred, div_positive rounding _ _ row.2.2, not_or]

theorem cpu_number (sid : Int) (outputs : Outputs) (held : Shown Number) :
    (showMetrics (numbers rounding shown) sid outputs held).cpuUsage.value ≠ .nan := by
  rw [showMetrics_cpu]
  unfold parseCpu
  split
  · simp [numbers]
  · exact cpuUsage_number rounding outputs.cpu

theorem memory_number (sid : Int) (outputs : Outputs) (held : Shown Number) (known : held.memoryUsage.value ≠ .nan) :
    (showMetrics (numbers rounding shown) sid outputs held).memoryUsage.value ≠ .nan ↔
      (MemoryRow rounding outputs.memory → memoryPercent rounding outputs.memory ≠ .nan) := by
  obtain ⟨before, kept, memory⟩ := showMetrics_memory (numbers rounding shown) sid outputs held
  rw [memory]
  rcases parseMemory_usage rounding shown (some sid) outputs.memory before with ⟨empty, zero⟩ | ⟨row, taken⟩ | ⟨_, none, same⟩
  · exact iff_of_true (by simp [zero]) fun row => absurd empty row.1
  · rw [taken]
    exact ⟨fun number _ => number, fun number => number row⟩
  · rw [same, kept]
    exact iff_of_true known fun row => absurd row none

theorem disk_number (sid : Int) (outputs : Outputs) (held : Shown Number) (known : held.diskUsage.value ≠ .nan) :
    (showMetrics (numbers rounding shown) sid outputs held).diskUsage.value ≠ .nan ↔
      (DiskRow outputs.disk → diskPercent rounding outputs.disk ≠ .nan) := by
  obtain ⟨before, kept, disk⟩ := showMetrics_disk (numbers rounding shown) sid outputs held
  rw [disk]
  rcases parseDisk_usage rounding shown (some sid) outputs.disk before with ⟨empty, zero⟩ | ⟨row, taken⟩ | ⟨_, none, same⟩
  · exact iff_of_true (by simp [zero]) fun row => absurd empty row.1
  · rw [taken]
    exact ⟨fun number _ => number, fun number => number row⟩
  · rw [same, kept]
    exact iff_of_true known fun row => absurd row none

theorem numeric_iff (outputs : Outputs) :
    Numeric rounding outputs ↔
      (MemoryRow rounding outputs.memory → memoryPercent rounding outputs.memory ≠ .nan) ∧
        (DiskRow outputs.disk → diskPercent rounding outputs.disk ≠ .nan) := by
  constructor
  · exact fun fits => ⟨fun row => (memoryPercent_number rounding _ row).mpr (fits.memory row), fits.disk⟩
  · exact fun fits => ⟨fun row => (memoryPercent_number rounding _ row).mp (fits.1 row), fits.2⟩

theorem pushHistory_members (history : List (Sourced Number)) (value : Sourced Number) :
    (∀ sample ∈ pushHistory (numbers rounding shown) history value,
        sample ∈ history ∨ sample.value = clampUsage value.value) ∧
      ∃ sample ∈ pushHistory (numbers rounding shown) history value, sample.value = clampUsage value.value := by
  have newest : ({ value with value := clampUsage value.value } : Sourced Number) ∈
      pushHistory (numbers rounding shown) history value := by
    unfold pushHistory
    dsimp only
    split
    · cases history with
      | nil => rename_i full; exact absurd full (by simp [historyLimit])
      | cons first rest => exact List.mem_append_right rest (List.mem_singleton.mpr rfl)
    · exact List.mem_append_right history (List.mem_singleton.mpr rfl)
  refine ⟨fun sample member => ?_, _, newest, rfl⟩
  have pushed : sample ∈ history ++ [({ value with value := clampUsage value.value } : Sourced Number)] := by
    unfold pushHistory at member
    dsimp only at member
    split at member
    · exact List.mem_of_mem_tail member
    · exact member
  rcases List.mem_append.mp pushed with old | last
  · exact .inl old
  · exact .inr (by rw [List.mem_singleton.mp last])

theorem pushHistory_range (history : List (Sourced Number)) (value : Sourced Number)
    (known : ∀ sample ∈ history, Percentage sample.value) :
    (∀ sample ∈ pushHistory (numbers rounding shown) history value, Percentage sample.value) ↔ value.value ≠ .nan := by
  obtain ⟨members, newest, last, same⟩ := pushHistory_members rounding shown history value
  constructor
  · intro all
    have clamped := all newest last
    rwa [same, clampUsage_range] at clamped
  · intro number sample member
    rcases members sample member with old | new
    · exact known sample old
    · rw [new, clampUsage_range]
      exact number

theorem inRange_iff (held : Shown Number) :
    InRange held ↔ (∀ sample ∈ held.cpuHistory, Percentage sample.value) ∧
      (∀ sample ∈ held.memoryHistory, Percentage sample.value) ∧ ∀ sample ∈ held.diskHistory, Percentage sample.value := by
  simp only [InRange, List.append_assoc, List.forall_mem_append]

theorem showMetrics_range (sid : Int) (outputs : Outputs) (held : Shown Number) (known : Numbered held) :
    InRange (showMetrics (numbers rounding shown) sid outputs held) ↔ Numeric rounding outputs := by
  obtain ⟨cpu, memory, disk⟩ := showMetrics_histories (numbers rounding shown) sid outputs held
  obtain ⟨cpuKnown, memoryKnown, diskKnown⟩ := (inRange_iff held).mp known.range
  rw [inRange_iff, cpu, memory, disk, pushHistory_range rounding shown _ _ cpuKnown,
    pushHistory_range rounding shown _ _ memoryKnown, pushHistory_range rounding shown _ _ diskKnown, numeric_iff,
    memory_number rounding shown sid outputs held known.memory, disk_number rounding shown sid outputs held known.disk]
  exact and_iff_right (cpu_number rounding shown sid outputs held)

theorem fetchEnds_numbered (held : Shown Number) (fetch : Fetch) (after : Shown Number) (known : Numbered held)
    (move : fetchEnds (numbers rounding shown) held fetch = some after) :
    InRange after ↔ fetch.Fits rounding := by
  unfold fetchEnds at move
  unfold Fetch.Fits
  cases result : fetch.result with
  | error message =>
      rw [result] at move
      obtain rfl := Option.some.inj move
      exact iff_of_true known.range fun _ none => by cases none
  | ok outputs =>
      rw [result] at move
      obtain rfl := Option.some.inj move
      rw [showMetrics_range rounding shown fetch.sid outputs held known]
      exact ⟨fun fits _ same => Except.ok.inj same ▸ fits, fun fits => fits outputs rfl⟩

theorem fetchEnds_preserved (held : Shown Number) (fetch : Fetch) (after : Shown Number) (known : Numbered held)
    (fits : fetch.Fits rounding) (move : fetchEnds (numbers rounding shown) held fetch = some after) : Numbered after := by
  have range := (fetchEnds_numbered rounding shown held fetch after known move).mpr fits
  unfold fetchEnds at move
  cases result : fetch.result with
  | error message =>
      rw [result] at move
      obtain rfl := Option.some.inj move
      exact known
  | ok outputs =>
      rw [result] at move
      obtain rfl := Option.some.inj move
      have numeric := (numeric_iff rounding outputs).mp (fits outputs result)
      exact ⟨cpu_number rounding shown fetch.sid outputs held,
        (memory_number rounding shown fetch.sid outputs held known.memory).mpr numeric.1,
        (disk_number rounding shown fetch.sid outputs held known.disk).mpr numeric.2, range⟩

theorem unknown_numbered : Numbered (numbers rounding shown).unknown :=
  ⟨by simp [Numbers.unknown, numbers], by simp [Numbers.unknown, numbers], by simp [Numbers.unknown, numbers],
    fun _ member => by cases member⟩

/-- The histories are the clamped usages of the last twenty fetches that succeeded, whatever they print, and their
entries are percentages in every state of a run exactly when no row that is taken lacks its number. -/
theorem histories_recent (fetches : List Fetch) :
    (∀ held, Run (Moves (fetchEnds (numbers rounding shown))) (numbers rounding shown).unknown fetches held →
      Recent (emitted (fetchEnds (numbers rounding shown)) (sampled (numbers rounding shown))
        (numbers rounding shown).unknown fetches) held) ∧
      (Always (fetchEnds (numbers rounding shown)) (numbers rounding shown).unknown fetches InRange ↔
        Steps (fetchEnds (numbers rounding shown)) (numbers rounding shown).unknown fetches fun _ fetch _ =>
          fetch.Fits rounding) := by
  constructor
  · intro held run
    exact emitted_invariant _ _ Recent _ (unknown_recent (numbers rounding shown))
      (fetchEnds_recent (numbers rounding shown)) fetches held run
  · refine fits_iff _ _ fetches Numbered InRange (unknown_numbered rounding shown) (fun _ fetch => fetch.Fits rounding)
      (fetchEnds_preserved rounding shown) (fun _ known => known.range) ?_
    intro before fetch after known unfit move range
    exact unfit ((fetchEnds_numbered rounding shown before fetch after known move).mp range)

end Range

-- The file system is shown without sizes: the fifth column is no number, and neither is the height of its bar.
theorem histories_without_number :
    ∃ held, Run (Moves (fetchEnds (numbers .double fun _ => []))) (numbers .double fun _ => []).unknown
      [{ sid := 1, result := .ok { cpu := [], memory := [], disk := js "overlay - - - - /", time := [] } }] held ∧
      ¬ InRange held := by
  refine ⟨_, run_single _ _ _ _ rfl, fun range => ?_⟩
  have numeric := (showMetrics_range .double (fun _ => []) 1 _ _ (unknown_numbered .double fun _ => [])).mp range
  exact numeric.disk ⟨by decide, by decide⟩ (by
    rw [diskPercent, show ((columns (js "overlay - - - - /")).getD 4 []).erase 0x25 = js "-" by decide]
    rfl)

end Kessh.MonitorPage
