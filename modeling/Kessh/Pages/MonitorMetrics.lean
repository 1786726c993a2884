import Kessh.Lib.Columns
import Kessh.Lynx.MonitorMetrics
import Kessh.Pages.MonitorPage

set_option autoImplicit false

-- What the ArkTS page of the monitor shows of its host.
namespace Kessh.MonitorPage

open Ecma Ledger Labelled
open HostSessions (fresh returned)

-- The numbers of the page: cpuUsage is what the regular expressions of parseCpu find in an output.
structure Numbers (V : Type) where
  zero : V
  cpuUsage : JsString → V
  parseFloat : JsString → V
  positive : V → Bool
  percent : V → V → V
  clampUsage : V → V
  text : V → JsString

structure Shown (V : Type) where
  cpuUsage : Sourced V
  cpuDetail : Sourced JsString := { value := js "--" }
  memoryUsage : Sourced V
  memoryDetail : Sourced JsString := { value := js "--" }
  diskUsage : Sourced V
  diskDetail : Sourced JsString := { value := js "--" }
  lastUpdate : Sourced JsString := { value := [] }
  cpuHistory : List (Sourced V) := []
  memoryHistory : List (Sourced V) := []
  diskHistory : List (Sourced V) := []

-- What the three commands print, and the time when all have ended.
structure Outputs where
  cpu : JsString
  memory : JsString
  disk : JsString
  time : JsString

variable {V : Type} (numbers : Numbers V)

def Numbers.unknown : Shown V where
  cpuUsage := { value := numbers.zero }
  memoryUsage := { value := numbers.zero }
  diskUsage := { value := numbers.zero }

def parseCpu (source : Option Int) (output : JsString) (shown : Shown V) : Shown V :=
  if output.isEmpty then
    { shown with cpuUsage := ⟨numbers.zero, source⟩, cpuDetail := ⟨js "--", source⟩ }
  else { shown with cpuUsage := ⟨numbers.cpuUsage output, source⟩, cpuDetail := ⟨output, source⟩ }

def columns (output : JsString) : List JsString := split (trim output)

def parseMemory (source : Option Int) (output : JsString) (shown : Shown V) : Shown V :=
  if output.isEmpty then
    { shown with memoryUsage := ⟨numbers.zero, source⟩, memoryDetail := ⟨js "--", source⟩ }
  else if (columns output).length ≥ 4 then
    let total := numbers.parseFloat ((columns output).getD 1 [])
    let used := numbers.parseFloat ((columns output).getD 2 [])
    let free := numbers.parseFloat ((columns output).getD 3 [])
    let shown :=
      if numbers.positive total then { shown with memoryUsage := ⟨numbers.percent used total, source⟩ } else shown
    let detail := js "?? " ++ numbers.text total ++ js "MB ? ?? " ++ numbers.text used ++ js "MB ? ?? " ++
      numbers.text free ++ js "MB"
    { shown with memoryDetail := ⟨detail, source⟩ }
  else { shown with memoryDetail := ⟨output, source⟩ }

def parseDisk (source : Option Int) (output : JsString) (shown : Shown V) : Shown V :=
  if output.isEmpty then
    { shown with diskUsage := ⟨numbers.zero, source⟩, diskDetail := ⟨js "--", source⟩ }
  else if (columns output).length ≥ 5 then
    let percent := ((columns output).getD 4 []).erase 0x25
    let detail := js "?? " ++ (columns output).getD 1 [] ++ js " ? ?? " ++ (columns output).getD 2 [] ++ js " ? ?? " ++
      (columns output).getD 3 []
    { shown with diskUsage := ⟨numbers.parseFloat percent, source⟩, diskDetail := ⟨detail, source⟩ }
  else { shown with diskDetail := ⟨output, source⟩ }

def historyLimit : Nat := 20

def pushHistory (history : List (Sourced V)) (value : Sourced V) : List (Sourced V) :=
  let next := history ++ [{ value with value := numbers.clampUsage value.value }]
  if next.length > historyLimit then next.tail else next

-- fetchMetrics after its await.
def showMetrics (sid : Int) (outputs : Outputs) (shown : Shown V) : Shown V :=
  let shown := parseCpu numbers (some sid) outputs.cpu shown
  let shown := parseMemory numbers (some sid) outputs.memory shown
  let shown := parseDisk numbers (some sid) outputs.disk shown
  { shown with
    cpuHistory := pushHistory numbers shown.cpuHistory shown.cpuUsage
    memoryHistory := pushHistory numbers shown.memoryHistory shown.memoryUsage
    diskHistory := pushHistory numbers shown.diskHistory shown.diskUsage
    lastUpdate := ⟨outputs.time, some sid⟩ }

structure Shown.All (shown : Shown V) (holds : Option Int → Prop) : Prop where
  cpuUsage : holds shown.cpuUsage.source
  cpuDetail : holds shown.cpuDetail.source
  memoryUsage : holds shown.memoryUsage.source
  memoryDetail : holds shown.memoryDetail.source
  diskUsage : holds shown.diskUsage.source
  diskDetail : holds shown.diskDetail.source
  lastUpdate : holds shown.lastUpdate.source
  cpuHistory : ∀ sample ∈ shown.cpuHistory, holds sample.source
  memoryHistory : ∀ sample ∈ shown.memoryHistory, holds sample.source
  diskHistory : ∀ sample ∈ shown.diskHistory, holds sample.source

theorem parseCpu_all (holds : Option Int → Prop) (source : Option Int) (output : JsString) (shown : Shown V)
    (known : shown.All holds) (new : holds source) : (parseCpu numbers source output shown).All holds := by
  unfold parseCpu
  split <;> exact { known with cpuUsage := new, cpuDetail := new }

theorem parseMemory_all (holds : Option Int → Prop) (source : Option Int) (output : JsString) (shown : Shown V)
    (known : shown.All holds) (new : holds source) : (parseMemory numbers source output shown).All holds := by
  unfold parseMemory
  split
  · exact { known with memoryUsage := new, memoryDetail := new }
  · split
    · dsimp only
      split
      · exact { known with memoryUsage := new, memoryDetail := new }
      · exact { known with memoryDetail := new }
    · exact { known with memoryDetail := new }

theorem parseDisk_all (holds : Option Int → Prop) (source : Option Int) (output : JsString) (shown : Shown V)
    (known : shown.All holds) (new : holds source) : (parseDisk numbers source output shown).All holds := by
  unfold parseDisk
  split
  · exact { known with diskUsage := new, diskDetail := new }
  · split
    · exact { known with diskUsage := new, diskDetail := new }
    · exact { known with diskDetail := new }

theorem pushHistory_all (holds : Option Int → Prop) (history : List (Sourced V)) (value : Sourced V)
    (known : ∀ sample ∈ history, holds sample.source) (new : holds value.source) :
    ∀ sample ∈ pushHistory numbers history value, holds sample.source := by
  have pushed : ∀ sample ∈ history ++ [{ value with value := numbers.clampUsage value.value }], holds sample.source := by
    intro sample member
    rcases List.mem_append.mp member with old | last
    · exact known sample old
    · obtain rfl := List.mem_singleton.mp last
      exact new
  unfold pushHistory
  dsimp only
  split
  · exact fun sample member => pushed sample (List.mem_of_mem_tail member)
  · exact pushed

/-- All that a fetch leaves to be shown is as what was shown, if its session is. -/
theorem showMetrics_all (holds : Option Int → Prop) (sid : Int) (outputs : Outputs) (shown : Shown V)
    (known : shown.All holds) : (showMetrics numbers sid outputs shown).All holds ↔ holds (some sid) := by
  constructor
  · exact fun all => all.lastUpdate
  · intro new
    have cpu := parseCpu_all numbers holds (some sid) outputs.cpu shown known new
    have memory := parseMemory_all numbers holds (some sid) outputs.memory _ cpu new
    have disk := parseDisk_all numbers holds (some sid) outputs.disk _ memory new
    exact { disk with
      lastUpdate := new
      cpuHistory := pushHistory_all numbers holds _ _ disk.cpuHistory disk.cpuUsage
      memoryHistory := pushHistory_all numbers holds _ _ disk.memoryHistory disk.memoryUsage
      diskHistory := pushHistory_all numbers holds _ _ disk.diskHistory disk.diskUsage }

-- The page with what it shows, and the records that its sessions were opened for.
structure Monitor (V : Type) where
  page : Page := {}
  shown : Shown V
  sessions : List (Int × ConnectionRecord) := []

def obtained (page : Page) : Event → List (Int × ConnectionRecord)
  | .aboutToAppear _ session => opened session
  | .handleHostSelect _ _ session => opened session
  | _ => []
where
  opened (session : Int) : List (Int × ConnectionRecord) :=
    if session > 0 ∧ session ∈ acquired page.ledger then (page.selectedHost.map fun record => (session, record)).toList else []

def fetchedFrom : Event → Option Int
  | .firstFetched sid (.ok _) _ => some sid
  | .fetched sid (.ok _) => some sid
  | _ => none

-- A fetch that succeeds comes with its outputs.
def monitorStep (m : Monitor V) (event : Event × Outputs) : Option (Monitor V) :=
  (step m.page event.1).map fun page =>
    { page
      shown := (fetchedFrom event.1).elim m.shown fun sid => showMetrics numbers sid event.2 m.shown
      sessions := obtained page event.1 ++ m.sessions }

def Monitor.Of (m : Monitor V) (record : ConnectionRecord) (source : Option Int) : Prop :=
  ∀ sid ∈ source, (sid, record) ∈ m.sessions

-- As long as the page is there, everything it shows is from sessions of the host it has selected.
def Attributed (m : Monitor V) : Prop :=
  m.page.present = true → m.shown.All fun source => source = none ∨ ∃ record ∈ m.page.selectedHost, m.Of record source

def picks : Event → Option ConnectionRecord
  | .handleHostSelect record stores _ => if truthy (ConnectionStore.getPassword (some record) stores) then some record else none
  | _ => none

-- What is shown when a host is selected is of it, and so is a session that a fetch succeeds on.
def Attributes (m : Monitor V) (event : Event × Outputs) : Prop :=
  m.page.present = true →
    (∀ record ∈ picks event.1, m.shown.All (m.Of record)) ∧
    ∀ sid ∈ fetchedFrom event.1, ∃ record ∈ m.page.selectedHost, m.Of record (some sid)

theorem all_imp (shown : Shown V) (first second third : Option Int → Prop) (known : shown.All first) (more : shown.All second)
    (all : ∀ source, first source → second source → third source) : shown.All third where
  cpuUsage := all _ known.cpuUsage more.cpuUsage
  cpuDetail := all _ known.cpuDetail more.cpuDetail
  memoryUsage := all _ known.memoryUsage more.memoryUsage
  memoryDetail := all _ known.memoryDetail more.memoryDetail
  diskUsage := all _ known.diskUsage more.diskUsage
  diskDetail := all _ known.diskDetail more.diskDetail
  lastUpdate := all _ known.lastUpdate more.lastUpdate
  cpuHistory := fun sample member => all _ (known.cpuHistory sample member) (more.cpuHistory sample member)
  memoryHistory := fun sample member => all _ (known.memoryHistory sample member) (more.memoryHistory sample member)
  diskHistory := fun sample member => all _ (known.diskHistory sample member) (more.diskHistory sample member)

structure Selected (before after : Page) (record : Option ConnectionRecord) : Prop where
  present : after.present = before.present
  acquired : acquired before.ledger ⊆ acquired after.ledger
  selected : after.selectedHost = record.or before.selectedHost

theorem cleanupSession_selectedHost (page : Page) : (cleanupSession page).selectedHost = page.selectedHost := by
  unfold cleanupSession clearTimer
  dsimp only
  split <;> split <;> rfl

theorem openSession_selected (session : Int) (page : Page) : Selected page (openSession session page) none := by
  obtain ⟨present, known⟩ := cleanupSession_kept { page with isLoading := true, sessionError := [] }
  have selected := cleanupSession_selectedHost { page with isLoading := true, sessionError := [] }
  unfold openSession
  generalize cleanupSession { page with isLoading := true, sessionError := [] } = cleaned at present known selected
  have obtained : acquired page.ledger ⊆ acquired (returned session cleaned.ledger) := fun sid member =>
    HostSessions.acquired_returned session sid cleaned.ledger (known ▸ member)
  dsimp only
  split
  · exact ⟨present, obtained, selected⟩
  · exact ⟨present, obtained, selected⟩

theorem handleHostSelect_selected (record : ConnectionRecord) (stores : Stores) (session : Int) (page : Page) :
    Selected page (handleHostSelect record stores session page)
      (if truthy (ConnectionStore.getPassword (some record) stores) then some record else none) := by
  unfold handleHostSelect
  cases saved : ConnectionStore.getPassword (some record) stores with
  | none => exact ⟨rfl, List.Subset.refl _, rfl⟩
  | some password =>
      dsimp only
      by_cases empty : password.isEmpty = true
      · rw [if_pos empty, if_neg (by simp [truthy, empty])]
        exact ⟨rfl, List.Subset.refl _, rfl⟩
      · rw [if_neg empty, if_pos (by simpa [truthy] using empty)]
        obtain ⟨present, known, selected⟩ := openSession_selected session { page with
          showHostPicker := false, selectedHost := some record, currentPassword := password }
        exact ⟨present, known, selected⟩

theorem refreshHosts_selected (stores : Stores) (session : Int) (page : Page) :
    ∃ record, Selected page (refreshHosts stores session page) record ∧ (record = none ∨ page.selectedHost = none) := by
  unfold refreshHosts
  dsimp only
  split
  · rename_i first _ none _
    obtain ⟨present, known, selected⟩ := handleHostSelect_selected first stores session { page with hostList := _ }
    exact ⟨_, ⟨present, known, selected⟩, .inr none⟩
  · exact ⟨none, ⟨rfl, List.Subset.refl _, rfl⟩, .inl rfl⟩

inductive Stepped (before after : Page) (event : Event) : Prop where
  | selected (record : ConnectionRecord) (picked : picks event = some record) (ended : fetchedFrom event = none)
      (changed : Selected before after (some record))
  | fetched (sid : Int) (picked : picks event = none) (ended : fetchedFrom event = some sid)
      (nothing : obtained after event = []) (changed : Selected before after none)
  | neither (record : Option ConnectionRecord) (picked : picks event = none) (ended : fetchedFrom event = none)
      (present : after.present = true → before.present = true) (acquired : acquired before.ledger ⊆ acquired after.ledger)
      (selected : after.selectedHost = record.or before.selectedHost) (idle : record = none ∨ before.selectedHost = none)

theorem neither_same (before after : Page) (event : Event) (picked : picks event = none) (ended : fetchedFrom event = none)
    (changed : Selected before after none) : Stepped before after event :=
  .neither none picked ended (fun there => changed.present ▸ there) changed.acquired changed.selected (.inl rfl)

theorem fetchMetrics_selected (page : Page) : Selected page (fetchMetrics page) none := by
  unfold fetchMetrics
  split <;> exact ⟨rfl, List.Subset.refl _, rfl⟩

theorem step_stepped (before : Page) (event : Event) (after : Page) (move : step before event = some after) :
    Stepped before after event := by
  cases event with
  | aboutToAppear stores session =>
      obtain ⟨_, same⟩ := Option.ite_none_right_eq_some.mp move
      obtain rfl := Option.some.inj same
      obtain ⟨record, changed, idle⟩ := refreshHosts_selected stores session before
      exact .neither record rfl rfl (fun there => changed.present ▸ there) changed.acquired changed.selected idle
  | handleHostSelect record stores session =>
      obtain ⟨_, same⟩ := Option.ite_none_right_eq_some.mp move
      obtain rfl := Option.some.inj same
      have changed := handleHostSelect_selected record stores session before
      by_cases saved : truthy (ConnectionStore.getPassword (some record) stores) = true
      · rw [if_pos saved] at changed
        exact .selected record (if_pos saved) rfl changed
      · rw [if_neg saved] at changed
        exact neither_same before _ _ (if_neg saved) rfl changed
  | showPicker shown =>
      obtain ⟨_, same⟩ := Option.ite_none_right_eq_some.mp move
      obtain rfl := Option.some.inj same
      exact neither_same before _ _ rfl rfl ⟨rfl, List.Subset.refl _, rfl⟩
  | refresh =>
      obtain ⟨_, same⟩ := Option.ite_none_right_eq_some.mp move
      obtain rfl := Option.some.inj same
      exact neither_same before _ _ rfl rfl (fetchMetrics_selected before)
  | intervalTick id =>
      obtain ⟨_, same⟩ := Option.ite_none_right_eq_some.mp move
      obtain rfl := Option.some.inj same
      exact neither_same before _ _ rfl rfl (fetchMetrics_selected before)
  | firstFetched sid result intervalId =>
      obtain ⟨_, same⟩ := Option.ite_none_right_eq_some.mp move
      obtain rfl := Option.some.inj same
      cases result with
      | ok => exact .fetched sid rfl rfl rfl ⟨rfl, List.Subset.refl _, rfl⟩
      | error message => exact neither_same before _ _ rfl rfl ⟨rfl, List.Subset.refl _, rfl⟩
  | fetched sid result =>
      obtain ⟨_, same⟩ := Option.ite_none_right_eq_some.mp move
      obtain rfl := Option.some.inj same
      cases result with
      | ok => exact .fetched sid rfl rfl rfl ⟨rfl, List.Subset.refl _, rfl⟩
      | error message => exact neither_same before _ _ rfl rfl ⟨rfl, List.Subset.refl _, rfl⟩
  | aboutToDisappear =>
      obtain ⟨_, same⟩ := Option.ite_none_right_eq_some.mp move
      obtain rfl := Option.some.inj same
      obtain ⟨present, known⟩ := cleanupSession_kept { before with present := false }
      have selected := cleanupSession_selectedHost { before with present := false }
      refine .neither none rfl rfl (fun there => ?_) (fun _ member => ?_) selected (.inl rfl)
      · exact absurd (present.symm.trans there) Bool.false_ne_true
      · exact known.symm ▸ member

theorem obtained_new (before : Page) (event : Event) (after : Page) (move : step before event = some after) :
    ∀ entry ∈ obtained after event, entry.1 ∉ acquired before.ledger ∧ entry.1 ∈ acquired after.ledger := by
  have unknown : ∀ session, fresh session before.ledger = true → ∀ entry ∈ obtained.opened after session,
      entry.1 ∉ acquired before.ledger ∧ entry.1 ∈ acquired after.ledger := by
    intro session new entry member
    unfold obtained.opened at member
    split at member
    · rename_i opened
      obtain ⟨record, _, rfl⟩ := Option.map_eq_some_iff.mp (Option.mem_toList.mp member)
      simp only [fresh, Bool.or_eq_true, decide_eq_true_eq, Bool.not_eq_true', List.contains_eq_mem,
        decide_eq_false_iff_not] at new
      exact ⟨new.resolve_left (Int.not_le.mpr opened.1), opened.2⟩
    · cases member
  cases event with
  | aboutToAppear stores session =>
      obtain ⟨enabled, _⟩ := Option.ite_none_right_eq_some.mp move
      simp only [Bool.and_eq_true] at enabled
      exact unknown session enabled.2
  | handleHostSelect record stores session =>
      obtain ⟨enabled, _⟩ := Option.ite_none_right_eq_some.mp move
      simp only [Bool.and_eq_true] at enabled
      exact unknown session enabled.2
  | _ => exact fun _ member => by cases member

def Known (m : Monitor V) : Prop := ∀ entry ∈ m.sessions, entry.1 ∈ acquired m.page.ledger

theorem stepped_acquired (before after : Page) (event : Event) (stepped : Stepped before after event) :
    acquired before.ledger ⊆ acquired after.ledger := by
  cases stepped with
  | selected _ _ _ changed => exact changed.acquired
  | fetched _ _ _ _ changed => exact changed.acquired
  | neither _ _ _ _ acquired _ _ => exact acquired

theorem step_known (m : Monitor V) (event : Event × Outputs) (next : Monitor V) (known : Known m)
    (move : monitorStep numbers m event = some next) : Known next := by
  obtain ⟨page, moved, rfl⟩ := Option.map_eq_some_iff.mp move
  intro entry member
  rcases List.mem_append.mp member with new | old
  · exact (obtained_new m.page event.1 page moved entry new).2
  · exact stepped_acquired m.page page event.1 (step_stepped m.page event.1 page moved) (known entry old)

/-- A step of a page that shows nothing of another host shows nothing of another host exactly when what is
shown at a selection, and the session that a fetch succeeds on, are of the host selected. -/
theorem step_attributed (m : Monitor V) (event : Event × Outputs) (next : Monitor V) (known : Known m)
    (attributed : Attributed m) (move : monitorStep numbers m event = some next) : Attributed next ↔ Attributes m event := by
  obtain ⟨event, outputs⟩ := event
  obtain ⟨page, moved, rfl⟩ := Option.map_eq_some_iff.mp move
  have new := obtained_new m.page event page moved
  unfold Attributed Attributes
  dsimp only
  cases step_stepped m.page event page moved with
  | selected record picked ended changed =>
      rw [picked, ended, changed.present]
      refine forall_congr' fun there => ?_
      have selected : page.selectedHost = some record := changed.selected
      constructor
      · intro all
        refine ⟨fun _ same => ?_, fun _ member => by cases member⟩
        obtain rfl := Option.some.inj same
        refine all_imp m.shown _ _ _ (attributed there) all fun source before after sid member => ?_
        obtain ⟨_, _, own⟩ := before.resolve_left fun none => by rw [none] at member; cases member
        obtain ⟨_, same, owned⟩ := after.resolve_left fun none => by rw [none] at member; cases member
        obtain rfl := Option.some.inj (selected.symm.trans same)
        -- What is shown is older than the session that the selection has obtained.
        have old : sid ∈ acquired m.page.ledger := known _ (own sid member)
        exact (List.mem_append.mp (owned sid member)).resolve_left fun fresh => (new _ fresh).1 old
      · intro fits
        have own := fits.1 record rfl
        exact all_imp m.shown _ _ _ own own fun source mine _ =>
          .inr ⟨record, selected, fun sid member => List.mem_append_right _ (mine sid member)⟩
  | fetched sid picked ended nothing changed =>
      rw [picked, ended, nothing, changed.present, show page.selectedHost = m.page.selectedHost from changed.selected]
      refine forall_congr' fun there => (showMetrics_all numbers _ sid outputs m.shown (attributed there)).trans ?_
      constructor
      · intro own
        refine ⟨fun _ member => (by cases member), fun _ same => ?_⟩
        obtain rfl := Option.some.inj same
        exact own.resolve_left fun none => by cases none
      · exact fun fits => .inr (fits.2 sid rfl)
  | neither record picked ended present _ selected idle =>
      rw [picked, ended]
      refine iff_of_true (fun there => ?_) fun _ => ⟨fun _ member => (by cases member), fun _ member => by cases member⟩
      have all := attributed (present there)
      refine all_imp m.shown _ _ _ all all fun source mine _ => mine.imp_right fun ⟨host, same, own⟩ => ?_
      have none := idle.resolve_right fun unselected => by
        rw [unselected] at same
        cases same
      rw [none] at selected
      exact ⟨host, selected ▸ same, fun sid member => List.mem_append_right _ (own sid member)⟩

theorem unknown_all (holds : Option Int → Prop) (nothing : holds none) : numbers.unknown.All holds := by
  refine ⟨nothing, nothing, nothing, nothing, nothing, nothing, nothing, ?_, ?_, ?_⟩ <;> intro _ member <;> cases member

end Kessh.MonitorPage

namespace Kessh.MonitorMetrics

open Ecma Labelled

/-- In the runs of both pages everything shown is from sessions of the host selected exactly when each
selection finds only what is of its host, and each fetch that succeeds ends while its host is selected. -/
theorem metrics_attributed {V : Type} (clamp : V → V) (numbers : MonitorPage.Numbers V) :
    (∀ events, Always (LynxMonitorPage.monitorStep clamp) {} events LynxMonitorPage.Attributed ↔
      Steps (LynxMonitorPage.monitorStep clamp) {} events fun before event _ => LynxMonitorPage.Attributes before event) ∧
    ∀ events, Always (MonitorPage.monitorStep numbers) { shown := numbers.unknown } events MonitorPage.Attributed ↔
      Steps (MonitorPage.monitorStep numbers) { shown := numbers.unknown } events fun before event _ =>
        MonitorPage.Attributes before event := by
  constructor <;> intro events
  · refine always_iff _ _ events (fun _ => True) LynxMonitorPage.Attributed trivial (fun _ => ?_) LynxMonitorPage.Attributes
      (fun _ _ _ _ _ => trivial) fun before event after _ known move =>
        LynxMonitorPage.step_attributed clamp before event after known move
    refine ⟨fun _ none => (by cases none), ?_, ?_, ?_⟩ <;> intro _ member <;> cases member
  · exact always_iff _ _ events MonitorPage.Known MonitorPage.Attributed (fun _ member => by cases member)
      (fun _ => MonitorPage.unknown_all numbers _ (.inl rfl)) MonitorPage.Attributes
      (MonitorPage.step_known numbers) (MonitorPage.step_attributed numbers)

def plain : MonitorPage.Numbers Int where
  zero := 0
  cpuUsage := fun output => output.length
  parseFloat := fun text => text.length
  positive := fun n => decide (n > 0)
  percent := fun used total => used * 100 / total
  clampUsage := id
  text := decimalInt

def metrics : LynxMonitorPage.SystemMetrics Int where
  cpuUsage := 5
  cpuDetail := js "5 id"
  memoryUsage := 1
  memoryDetail := []
  diskUsage := 2
  diskDetail := []
  lastUpdate := []

def host (id : Nat) : ConnectionRecord := { HostSessions.savedHost id with host := js "h" ++ decimalInt id }

-- Two hosts are tapped, and the password of the second is found when the metrics of the first are shown.
def tappedTwice : List (LynxMonitorPage.Event × Except JsString (LynxMonitorPage.SystemMetrics Int)) :=
  [(.pickHost (host 1), .ok metrics), (.pickHost (host 2), .ok metrics), (.passwordChecked (host 1) true, .ok metrics),
    (.opened ⟨1, HostSessions.draft (host 1)⟩ (some 7), .ok metrics), (.firstTicked 7 1, .ok metrics),
    (.passwordChecked (host 2) true, .ok metrics), (.previousClosed (host 2), .ok metrics)]

-- A second host is selected when the metrics of the first are shown.
def reselected : List (MonitorPage.Event × MonitorPage.Outputs) :=
  let connections : ConnectionStore := { history := [host 1, host 2], passwords := fun _ => some (js "p") }
  let stores : Stores := { initialStores noon { available := false } with connections }
  let outputs : MonitorPage.Outputs := { cpu := js "5 id", memory := [], disk := [], time := [] }
  [(.aboutToAppear stores 7, outputs), (.firstFetched 7 (.ok ()) 3, outputs), (.showPicker true, outputs),
    (.handleHostSelect (host 2) stores 8, outputs)]

theorem other_host_shown :
    ¬ Always (LynxMonitorPage.monitorStep id) {} tappedTwice LynxMonitorPage.Attributed ∧
      ¬ Always (MonitorPage.monitorStep plain) { shown := plain.unknown } reselected MonitorPage.Attributed := by
  constructor <;> intro always
  · have attributed := always _ [] _ (List.append_nil _).symm (moves_run (LynxMonitorPage.monitorStep id) _ _ _ rfl) rfl
    obtain ⟨record, selected, own⟩ := attributed.metrics _ rfl
    obtain rfl := Option.some.inj selected
    exact absurd (own 7 rfl) (by decide)
  · have attributed := always _ [] _ (List.append_nil _).symm (moves_run (MonitorPage.monitorStep plain) _ _ _ rfl) rfl
    rcases attributed.cpuUsage with none | ⟨record, selected, own⟩
    · cases none
    · obtain rfl := Option.some.inj selected
      exact absurd (own 7 rfl) (by decide)

end Kessh.MonitorMetrics
