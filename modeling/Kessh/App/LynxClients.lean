import Kessh.App.PageClients
import Kessh.Lynx.MonitorPage
import Kessh.Lynx.ScpPage
import Kessh.Lynx.SftpPage
import Kessh.Lynx.TerminalPage

set_option autoImplicit false

-- The Lynx pages as clients of the native module.
namespace Kessh

open Ecma Labelled Clients

namespace SFTPPage

open HostSessions

theorem opened_grows (token : Nat) (sid : Int) (page : Page) : page.ledger <:+ (opened token sid page).ledger := by
  rcases opened_completes token sid page with ⟨_, _, ledger⟩ | ⟨_, _, ledger⟩ | ⟨_, _, _, ledger⟩
  · exact ledger ▸ closeSession_grows sid page.ledger
  · exact ledger ▸ List.suffix_refl _
  · exact ledger ▸ List.suffix_refl _

theorem step_grows (page : Page) (event : Event) (next : Page) (move : step page event = some next) :
    page.ledger <:+ next.ledger := by
  cases event with
  | tap record =>
      obtain ⟨_, same⟩ := Option.ite_none_right_eq_some.mp move
      obtain rfl := Option.some.inj same
      unfold connect
      split
      · exact List.suffix_refl _
      split
      · exact List.suffix_refl _
      · exact List.suffix_refl _
  | passwordChecked record hasPwd =>
      obtain ⟨_, same⟩ := Option.ite_none_right_eq_some.mp move
      obtain rfl := Option.some.inj same
      cases hasPwd <;> exact List.suffix_refl _
  | opened pending sid =>
      obtain ⟨_, done⟩ := Option.ite_none_right_eq_some.mp move
      cases sid with
      | none => exact Option.some.inj done ▸ List.suffix_refl _
      | some sid =>
          simp only [Option.elim_some] at done
          obtain ⟨_, same⟩ := Option.ite_none_right_eq_some.mp done
          obtain rfl := Option.some.inj same
          exact (returned_grows sid page.ledger).trans (opened_grows pending.number sid
            { page with opens := page.opens.erase pending, ledger := returned sid page.ledger })
  | unmount =>
      obtain ⟨_, same⟩ := Option.ite_none_right_eq_some.mp move
      obtain rfl := Option.some.inj same
      exact closeSession_grows page.sessionRef page.ledger
  | _ =>
      obtain ⟨_, same⟩ := Option.ite_none_right_eq_some.mp move
      exact Option.some.inj same ▸ List.suffix_refl _

def client : Client Int where
  State := Page
  Event := Event
  initial := {}
  step := step
  ledger := Page.ledger
  gone := fun page => !page.mounted
  Fits := Fits
  Good := Sound
  good_initial := ⟨rfl, Ledger.balanced_nil⟩
  good_step := step_sound
  grows := fun page event next _ => step_grows page event next
  sound := fun page sound => sound.balanced.1
  left := fun page sound gone => by
    have absent : ¬ page.mounted = true := by simpa using gone
    have balanced := sound.balanced
    rw [if_neg absent] at balanced
    exact balanced.2.eq_nil

end SFTPPage

namespace LynxSCPPage

open HostSessions

theorem opened_grows (sid : Int) (page : Page) : page.ledger <:+ (opened sid page).ledger := by
  unfold opened
  split
  · exact closeSession_grows sid page.ledger
  split
  · exact List.suffix_refl _
  · exact List.suffix_refl _

theorem step_grows (recordId : Option JsNumber) (page : Page) (event : Event) (next : Page)
    (move : step recordId page event = some next) : page.ledger <:+ next.ledger := by
  cases step_moved recordId page event next move with
  | same _ _ _ same => exact same.ledger ▸ List.suffix_refl _
  | effect mounted =>
      unfold runEffect
      dsimp only
      split
      · exact List.suffix_refl _
      · rw [(effect_same recordId _).ledger]
        exact closeSession_grows page.sessionRef page.ledger
  | opened pending sid new =>
      refine (returned_grows sid page.ledger).trans ?_
      exact opened_grows sid { page with
        opens := page.opens.erase pending
        lastReturned := if pending.number = page.started then some sid else page.lastReturned
        ledger := returned sid page.ledger }
  | unmount mounted => exact closeSession_grows page.sessionRef page.ledger

def client (recordId : Option JsNumber) : Client Int where
  State := Page
  Event := Event
  initial := {}
  step := step recordId
  ledger := Page.ledger
  gone := fun page => !page.mounted
  Fits := Fits
  Good := Sound
  good_initial := .inl ⟨rfl, rfl, Ledger.balanced_nil, fun sid here => by cases here⟩
  good_step := step_sound recordId
  grows := fun page event next _ => step_grows recordId page event next
  sound := fun page sound => by
    rcases sound with ⟨_, fresh⟩ | disposed
    · exact fresh.balanced.1
    · exact disposed.balanced.1
  left := fun page sound gone => by
    rcases sound with ⟨mounted, _⟩ | disposed
    · simp [mounted] at gone
    · exact disposed.balanced.2.eq_nil

end LynxSCPPage

namespace LynxMonitorPage

open HostSessions

theorem passwordChecked_grows (record : ConnectionRecord) (hasPwd : Bool) (page : Page) :
    page.ledger <:+ (passwordChecked record hasPwd page).ledger := by
  have cleared : (clearTimer page).ledger = page.ledger := (clearTimer_fields page).2.2.2.2
  unfold passwordChecked
  split
  · exact List.suffix_refl _
  dsimp only
  split
  · exact cleared ▸ closeSession_grows _ _
  · exact cleared ▸ List.suffix_refl _

theorem opened_grows (token : Nat) (sid : Int) (page : Page) : page.ledger <:+ (opened token sid page).ledger := by
  unfold opened
  split
  · exact closeSession_grows sid page.ledger
  split
  · exact List.suffix_refl _
  · exact List.suffix_refl _

theorem step_grows (page : Page) (event : Event) (next : Page) (move : step page event = some next) :
    page.ledger <:+ next.ledger := by
  cases step_moved page event next move with
  | same _ _ _ same => exact same.ledger ▸ List.suffix_refl _
  | checked record => exact passwordChecked_grows record true { page with checks := page.checks.erase record }
  | opened pending sid new =>
      exact (returned_grows sid page.ledger).trans (opened_grows pending.number sid
        { page with opens := page.opens.erase pending, ledger := returned sid page.ledger })
  | firstTicked sid intervalId ticked => exact List.suffix_refl _
  | unmount mounted =>
      have cleared := (clearTimer_fields
        { page with mounted := false, disposedRef := true, tokenRef := page.tokenRef + 1 }).2.2.2.2
      unfold unmount
      dsimp only
      rw [cleared]
      exact closeSession_grows _ page.ledger

def client : Client Int where
  State := Page
  Event := Event
  initial := {}
  step := step
  ledger := Page.ledger
  gone := fun page => !page.mounted
  Fits := Fits
  Good := Sound
  good_initial := ⟨rfl, .inl Ledger.balanced_nil, fun session => absurd session (by decide), .inl rfl, fun ticking =>
    absurd rfl ticking⟩
  good_step := step_sound
  grows := fun page event next _ => step_grows page event next
  sound := fun page sound => sound.balanced.elim And.left fun some => some.2.1
  left := fun page sound gone => by
    rcases sound.balanced with none | ⟨mounted, _⟩
    · exact none.2.eq_nil
    · simp [mounted] at gone

end LynxMonitorPage

namespace TerminalPage

open Ledger (acquired released live)

def Entry.asks : Entry → List (Ledger.Entry Int)
  | .opened _ sid => if sid > 0 then [.acquire sid] else []
  | .closed _ sid => [.release sid]
  | .termRead _ sid => [.use sid]
  | .sendKeepalive _ sid => [.use sid]
  | .cleaned _ => []

def asked (log : List Entry) : List (Ledger.Entry Int) := log.flatMap Entry.asks

def Page.ledger (page : Page) : List (Ledger.Entry Int) := asked page.log

theorem asked_grows (log later : List Entry) (grown : log <:+ later) : asked log <:+ asked later := by
  obtain ⟨new, rfl⟩ := grown
  exact ⟨asked new, List.flatMap_append.symm⟩

theorem asked_opened (token : Nat) (sid : Int) (earlier : List Entry) (positive : 0 < sid) :
    asked (.opened token sid :: earlier) = .acquire sid :: asked earlier := by
  simp [asked, Entry.asks, positive]

theorem asked_failed (token : Nat) (sid : Int) (earlier : List Entry) (failed : ¬ 0 < sid) :
    asked (.opened token sid :: earlier) = asked earlier := by
  simp [asked, Entry.asks, failed]

theorem mem_acquired (log : List Entry) (sid : Int) :
    sid ∈ acquired (asked log) ↔ 0 < sid ∧ ∃ token, .opened token sid ∈ log := by
  induction log with
  | nil => simp [asked, acquired]
  | cons entry earlier ih =>
      cases entry with
      | opened token other =>
          by_cases positive : 0 < other
          · rw [asked_opened token other earlier positive, acquired, List.mem_cons, ih]
            constructor
            · rintro (rfl | ⟨some, run, there⟩)
              · exact ⟨positive, token, List.mem_cons_self⟩
              · exact ⟨some, run, List.mem_cons_of_mem _ there⟩
            · rintro ⟨some, run, there⟩
              rcases List.mem_cons.mp there with same | old
              · exact .inl (Entry.opened.inj same).2
              · exact .inr ⟨some, run, old⟩
          · rw [asked_failed token other earlier positive, ih]
            refine and_congr_right fun some => exists_congr fun run => ?_
            have different : ¬ (.opened run sid : Entry) = .opened token other := fun same =>
              positive ((Entry.opened.inj same).2 ▸ some)
            simp [different]
      | _ => simpa [asked, Entry.asks, acquired] using ih

theorem mem_released (log : List Entry) (sid : Int) : sid ∈ released (asked log) ↔ ∃ token, .closed token sid ∈ log := by
  induction log with
  | nil => simp [asked, released]
  | cons entry earlier ih =>
      cases entry with
      | closed token other =>
          have here : released (asked (.closed token other :: earlier)) = other :: released (asked earlier) := rfl
          rw [here, List.mem_cons, ih]
          constructor
          · rintro (rfl | ⟨run, there⟩)
            · exact ⟨token, List.mem_cons_self⟩
            · exact ⟨run, List.mem_cons_of_mem _ there⟩
          · rintro ⟨run, there⟩
            rcases List.mem_cons.mp there with same | old
            · exact .inl (Entry.closed.inj same).2
            · exact .inr ⟨run, old⟩
      | opened token other => by_cases positive : 0 < other <;> simpa [asked, Entry.asks, released, positive] using ih
      | _ => simpa [asked, Entry.asks, released] using ih

theorem distinct_earlier (entry : Entry) (earlier : List Entry) (distinct : (acquired (asked (entry :: earlier))).Nodup) :
    (acquired (asked earlier)).Nodup := by
  cases entry with
  | opened token sid =>
      by_cases positive : 0 < sid
      · rw [asked_opened token sid earlier positive, acquired] at distinct
        exact distinct.of_cons
      · rwa [asked_failed token sid earlier positive] at distinct
  | _ => exact distinct

theorem opened_token (log : List Entry) (distinct : (acquired (asked log)).Nodup) (sid : Int) (positive : 0 < sid)
    (token other : Nat) (mine : .opened token sid ∈ log) (theirs : .opened other sid ∈ log) : token = other := by
  induction log with
  | nil => cases mine
  | cons entry earlier ih =>
      have once : ∀ run, entry = .opened run sid → ∀ run, .opened run sid ∉ earlier := by
        rintro run rfl run there
        rw [asked_opened _ sid earlier positive, acquired] at distinct
        exact (List.nodup_cons.mp distinct).1 ((mem_acquired earlier sid).mpr ⟨positive, run, there⟩)
      rcases List.mem_cons.mp mine with here | old
      · rcases List.mem_cons.mp theirs with also | later
        · exact (Entry.opened.inj (here.trans also.symm)).1
        · exact (once token here.symm other later).elim
      · rcases List.mem_cons.mp theirs with also | later
        · exact (once other also.symm token old).elim
        · exact ih (distinct_earlier entry earlier distinct) old later

theorem open_live (log : List Entry) (orderly : Orderly log) (distinct : (acquired (asked log)).Nodup)
    (sound : Ledger.Sound (asked log)) (token : Nat) (sid : Int) (positive : 0 < sid) (opened : .opened token sid ∈ log)
    (unclosed : .closed token sid ∉ log) : sid ∈ live (asked log) := by
  have known : 0 < (acquired (asked log)).count sid :=
    List.count_pos_iff.mpr ((mem_acquired log sid).mpr ⟨positive, token, opened⟩)
  have kept : (released (asked log)).count sid = 0 := by
    refine List.count_eq_zero.mpr fun gone => ?_
    obtain ⟨other, closed⟩ := (mem_released log sid).mp gone
    have theirs := (orderly_closed log orderly other sid closed).1
    exact unclosed (opened_token log distinct sid positive token other opened theirs ▸ closed)
  have counts := Ledger.sound_count (asked log) sound sid
  exact List.count_pos_iff.mp (by omega)

-- A run reads from the session that it was opened for and keeps that one alive, and what it closes is a session.
def Used : List Entry → Prop
  | [] => True
  | .closed _ sid :: earlier => 0 < sid ∧ Used earlier
  | .termRead token sid :: earlier => (0 < sid ∧ .opened token sid ∈ earlier) ∧ Used earlier
  | .sendKeepalive token sid :: earlier => (0 < sid ∧ .opened token sid ∈ earlier) ∧ Used earlier
  | _ :: earlier => Used earlier

theorem log_sound (log : List Entry) (orderly : Orderly log) (used : Used log) (distinct : (acquired (asked log)).Nodup)
    (once : ∀ token sid, log.count (.closed token sid) ≤ 1) : Ledger.Sound (asked log) := by
  induction log with
  | nil => trivial
  | cons entry earlier ih =>
      have fewer : ∀ token sid, earlier.count (.closed token sid) ≤ 1 := fun token sid =>
        List.count_le_count_cons.trans (once token sid)
      have before := distinct_earlier entry earlier distinct
      -- A run that is not cleaned up has not closed its session.
      have uses : ∀ token sid, (.cleaned token ∉ earlier ∧ Orderly earlier) →
          (0 < sid ∧ .opened token sid ∈ earlier) ∧ Used earlier → Ledger.Sound (.use sid :: asked earlier) := by
        intro token sid ⟨uncleaned, orderly⟩ ⟨⟨positive, opened⟩, used⟩
        have sound := ih orderly used before fewer
        refine ⟨open_live earlier orderly before sound token sid positive opened fun closed => ?_, sound⟩
        exact uncleaned (orderly_closed earlier orderly token sid closed).2
      cases entry with
      | opened token sid =>
          have sound := ih orderly used before fewer
          by_cases positive : 0 < sid
          · rw [asked_opened token sid earlier positive] at distinct ⊢
            exact ⟨(List.nodup_cons.mp distinct).1, sound⟩
          · rwa [asked_failed token sid earlier positive]
      | closed token sid =>
          obtain ⟨positive, usedEarlier⟩ := used
          have sound := ih orderly.2 usedEarlier before fewer
          refine ⟨open_live earlier orderly.2 before sound token sid positive orderly.1.1 fun closed => ?_, sound⟩
          have twice := once token sid
          have known := List.count_pos_iff.mpr closed
          rw [List.count_cons_self] at twice
          omega
      | termRead token sid => exact uses token sid orderly used
      | sendKeepalive token sid => exact uses token sid orderly used
      | cleaned token => exact ih orderly used before fewer

structure Traces (page : Page) : Prop where
  distinct : (acquired page.ledger).Nodup
  used : Used page.log
  ticking : ∀ interval ∈ page.intervals, 0 < interval.sid

theorem traces_same (page next : Page) (log : next.log = page.log)
    (intervals : ∀ interval ∈ next.intervals, interval ∈ page.intervals) (traces : Traces page) : Traces next where
  distinct := by
    rw [Page.ledger, log]
    exact traces.distinct
  used := log ▸ traces.used
  ticking := fun interval member => traces.ticking interval (intervals interval member)

theorem closeSession_traces (token : Nat) (sid : Int) (page : Page) (traces : Traces page) :
    Traces (closeSession token sid page) := by
  unfold closeSession
  split
  · rename_i positive
    exact ⟨traces.distinct, ⟨positive, traces.used⟩, traces.ticking⟩
  · exact traces

theorem cleanup_traces (token : Nat) (page : Page) (traces : Traces page) : Traces (cleanup token page) := by
  obtain ⟨timeouts, intervals, same, _, kept⟩ := cleanup_fields token page
  rw [same]
  refine closeSession_traces _ _ _ ⟨traces.distinct, traces.used, fun interval member => ?_⟩
  exact traces.ticking interval (kept interval member).1

theorem effect_log (params : TerminalParams) (page : Page) :
    (effect params page).log = page.log ∧ (effect params page).intervals = page.intervals := by
  unfold effect
  dsimp only
  split <;> exact ⟨rfl, rfl⟩

theorem poll_traces (token : Nat) (page : Page) (traces : Traces page)
    (active : 0 < (page.runs token).activeSession → .opened token (page.runs token).activeSession ∈ page.log) :
    Traces (poll token page) ∧ page.log <:+ (poll token page).log := by
  unfold poll
  dsimp only
  split
  · exact ⟨traces, List.suffix_refl _⟩
  · rename_i going
    simp only [Bool.or_eq_true, decide_eq_true_eq, not_or, Int.not_le] at going
    exact ⟨⟨traces.distinct, ⟨⟨going.2, active going.2⟩, traces.used⟩, traces.ticking⟩, List.suffix_cons _ _⟩

theorem logged_traces (token : Nat) (sid : Int) (page : Page) (traces : Traces page)
    (fresh : HostSessions.fresh sid page.ledger = true) : Traces { page with log := .opened token sid :: page.log } := by
  refine ⟨?_, traces.used, traces.ticking⟩
  by_cases positive : 0 < sid
  · rw [Page.ledger, asked_opened token sid page.log positive, acquired]
    exact List.nodup_cons.mpr ⟨HostSessions.fresh_absent sid page.ledger fresh positive, traces.distinct⟩
  · rw [Page.ledger, asked_failed token sid page.log positive]
    exact traces.distinct

theorem closeSession_log (token : Nat) (sid : Int) (page : Page) : page.log <:+ (closeSession token sid page).log := by
  unfold closeSession
  split
  · exact List.suffix_cons _ _
  · exact List.suffix_refl _

theorem cleanup_log (token : Nat) (page : Page) : page.log <:+ (cleanup token page).log := by
  obtain ⟨timeouts, intervals, same, _, _⟩ := cleanup_fields token page
  rw [same]
  refine List.IsSuffix.trans ?_ (closeSession_log _ _ _)
  exact List.suffix_cons _ _

section

variable (less : JsNumber → JsNumber → Bool)

theorem startKeepalive_traces (token : Nat) (sid : Int) (interval : JsNumber) (intervalId : Nat) (page : Page)
    (traces : Traces page) (positive : 0 < sid) : Traces (startKeepalive less token sid interval intervalId page) := by
  unfold startKeepalive
  split
  · exact ⟨traces.distinct, traces.used, List.forall_mem_cons.mpr ⟨positive, traces.ticking⟩⟩
  · exact traces

theorem startKeepalive_kept (token : Nat) (sid : Int) (interval : JsNumber) (intervalId : Nat) (page : Page) :
    (startKeepalive less token sid interval intervalId page).log = page.log ∧
      ((startKeepalive less token sid interval intervalId page).runs token).activeSession = (page.runs token).activeSession := by
  unfold startKeepalive
  split
  · exact ⟨rfl, by simp⟩
  · exact ⟨rfl, rfl⟩

theorem opened_traces (pending : PendingOpen) (sid : Int) (intervalId : Nat) (page : Page) (traces : Traces page)
    (logged : .opened pending.token sid ∈ page.log) : Traces (opened less pending (.ok sid) intervalId page) ∧
      page.log <:+ (opened less pending (.ok sid) intervalId page).log := by
  unfold opened
  dsimp only
  split
  · exact ⟨closeSession_traces _ _ _ traces, closeSession_log _ _ _⟩
  split
  · exact ⟨traces_same page _ rfl (fun _ => id) traces, List.suffix_refl _⟩
  · rename_i positive
    have brought : Traces (appendLine (js "连接成功") { page with
        runs := Function.update page.runs pending.token { page.runs pending.token with activeSession := sid } }) :=
      traces_same page _ rfl (fun _ => id) traces
    have active : (((appendLine (js "连接成功") { page with
        runs := Function.update page.runs pending.token { page.runs pending.token with activeSession := sid } }).runs
          pending.token).activeSession) = sid := by
      simp [appendLine]
    have kept := startKeepalive_kept less pending.token sid (pending.keepaliveInterval.getD (.int 60)) intervalId
      (appendLine (js "连接成功") { page with
        runs := Function.update page.runs pending.token { page.runs pending.token with activeSession := sid } })
    have ticking := startKeepalive_traces less pending.token sid (pending.keepaliveInterval.getD (.int 60)) intervalId _ brought
      (Int.not_le.mp positive)
    obtain ⟨polled, grown⟩ := poll_traces pending.token _ ticking fun _ => by
      rw [kept.1, kept.2, active]
      exact logged
    exact ⟨polled, List.IsSuffix.trans ⟨[], kept.1.symm⟩ grown⟩

-- openSession returns a value that is not positive, or an id that it has not returned yet.
def sessionStep (page : Page) (event : Event) : Option Page :=
  match event with
  | .opened _ (.ok sid) _ => if HostSessions.fresh sid page.ledger then step less page event else none
  | _ => step less page event

theorem sessionStep_step (page : Page) (event : Event) (next : Page) (move : sessionStep less page event = some next) :
    step less page event = some next := by
  unfold sessionStep at move
  split at move
  · exact (Option.ite_none_right_eq_some.mp move).2
  · exact move

theorem step_traces (page : Page) (event : Event) (next : Page) (sound : Sound page) (traces : Traces page)
    (move : sessionStep less page event = some next) : Traces next ∧ page.log <:+ next.log := by
  have quiet : ∀ later : Page, later.log = page.log → (∀ interval ∈ later.intervals, interval ∈ page.intervals) →
      Traces later ∧ page.log <:+ later.log := fun later log intervals =>
    ⟨traces_same page later log intervals traces, log ▸ List.suffix_refl _⟩
  cases event with
  | mount params =>
      obtain ⟨_, ⟨⟩⟩ := Option.ite_none_right_eq_some.mp move
      obtain ⟨log, intervals⟩ := effect_log params page
      exact quiet _ log fun _ member => intervals ▸ member
  | render params =>
      obtain ⟨mounted, _, rfl⟩ := Option.map_eq_some_iff.mp move
      split
      · exact ⟨traces, List.suffix_refl _⟩
      · obtain ⟨log, intervals⟩ := effect_log params (cleanup mounted.1 page)
        refine ⟨traces_same _ _ log (fun _ member => intervals ▸ member) (cleanup_traces mounted.1 page traces), ?_⟩
        exact log ▸ cleanup_log mounted.1 page
  | unmount =>
      obtain ⟨mounted, _, rfl⟩ := Option.map_eq_some_iff.mp move
      exact ⟨cleanup_traces mounted.1 page traces, cleanup_log mounted.1 page⟩
  | gotSettings pending keepaliveInterval =>
      obtain ⟨_, ⟨⟩⟩ := Option.ite_none_right_eq_some.mp move
      exact quiet _ rfl fun _ => id
  | opened pending id intervalId =>
      cases id with
      | error message =>
          obtain ⟨_, ⟨⟩⟩ := Option.ite_none_right_eq_some.mp move
          exact quiet _ rfl fun _ => id
      | ok sid =>
          obtain ⟨fresh, moved⟩ := Option.ite_none_right_eq_some.mp move
          obtain ⟨_, ⟨⟩⟩ := Option.ite_none_right_eq_some.mp moved
          have waited := traces_same page { page with opens := page.opens.erase pending } rfl (fun _ => id) traces
          have logged := logged_traces pending.token sid _ waited fresh
          obtain ⟨done, grown⟩ := opened_traces less pending sid intervalId _ logged List.mem_cons_self
          exact ⟨done, (List.suffix_cons _ _).trans grown⟩
  | read token chunk timeoutId =>
      obtain ⟨⟨there, _⟩, ⟨⟩⟩ := Option.ite_none_right_eq_some.mp move
      have same := read_same token chunk timeoutId page there
      exact quiet _ same.log fun _ member => same.intervals ▸ member
  | timeout timeoutId token =>
      obtain ⟨_, ⟨⟩⟩ := Option.ite_none_right_eq_some.mp move
      have fired := traces_same page { page with timeouts := page.timeouts.erase (timeoutId, token) } rfl (fun _ => id) traces
      exact poll_traces token _ fired (sound.active token)
  | intervalTick intervalId =>
      obtain ⟨interval, found, rfl⟩ := Option.map_eq_some_iff.mp move
      have member := List.mem_of_find?_eq_some found
      have opened := (sound.intervals interval member).2.2.2
      exact ⟨⟨traces.distinct, ⟨⟨traces.ticking interval member, opened⟩, traces.used⟩, traces.ticking⟩, List.suffix_cons _ _⟩
  | keptAlive sid =>
      obtain ⟨_, ⟨⟩⟩ := Option.ite_none_right_eq_some.mp move
      exact quiet _ rfl fun _ => id

end

theorem used_positive (log : List Entry) (used : Used log) (token : Nat) (sid : Int) (there : .closed token sid ∈ log) : 0 < sid := by
  induction log with
  | nil => cases there
  | cons entry earlier ih =>
      rcases List.mem_cons.mp there with rfl | old
      · exact used.1
      · cases entry with
        | opened => exact ih used old
        | cleaned => exact ih used old
        | closed => exact ih used.2 old
        | termRead => exact ih used.2 old
        | sendKeepalive => exact ih used.2 old

structure Known (page : Page) : Prop where
  sound : Sound page
  traces : Traces page

theorem known_once (page : Page) (known : Known page) (token : Nat) (sid : Int) : page.log.count (.closed token sid) ≤ 1 := by
  by_cases there : .closed token sid ∈ page.log
  · have positive := used_positive page.log known.traces.used token sid there
    have opened := (orderly_closed page.log known.sound.orderly token sid there).1
    rcases known.sound.settled token sid positive opened with ⟨_, once⟩ | ⟨_, none, _⟩
    · exact Nat.le_of_eq once
    · exact none.trans_le (Nat.zero_le 1)
  · exact (List.count_eq_zero.mpr there).trans_le (Nat.zero_le 1)

theorem known_sound (page : Page) (known : Known page) : Ledger.Sound page.ledger :=
  log_sound page.log known.sound.orderly known.traces.used known.traces.distinct (known_once page known)

theorem known_left (page : Page) (known : Known page) (gone : page.mounted = none) : live page.ledger = [] := by
  refine List.eq_nil_iff_forall_not_mem.mpr fun sid alive => ?_
  have counts := Ledger.sound_count page.ledger (known_sound page known) sid
  have positive := List.count_pos_iff.mpr alive
  obtain ⟨session, token, opened⟩ := (mem_acquired page.log sid).mp (List.count_pos_iff.mp (by
    change 0 < (acquired page.ledger).count sid
    omega))
  have started : Started page token := known.sound.started _ opened
  have cleaned := (known.sound.cleaned token started).mpr (known.sound.unmounted gone token started.1)
  obtain ⟨_, once⟩ := (known.sound.settled token sid session opened).resolve_right fun open' => open'.1 cleaned
  have closed : .closed token sid ∈ page.log := List.count_pos_iff.mp (by omega)
  have released := List.count_pos_iff.mpr ((mem_released page.log sid).mpr ⟨token, closed⟩)
  change 0 < (Ledger.released page.ledger).count sid at released
  omega

def client (less : JsNumber → JsNumber → Bool) : Client Int where
  State := Page
  Event := Event
  initial := {}
  step := sessionStep less
  ledger := Page.ledger
  gone := fun page => page.mounted.isNone
  Fits := fun _ _ => True
  Good := Known
  good_initial := ⟨initial_sound, ⟨.nil, trivial, fun _ member => by cases member⟩⟩
  good_step := fun before event after known _ move =>
    ⟨step_sound less before after event (sessionStep_step less before event after move) known.sound,
      (step_traces less before event after known.sound known.traces move).1⟩
  grows := fun before event after known move =>
    asked_grows before.log after.log (step_traces less before event after known.sound known.traces move).2
  sound := known_sound
  left := fun page known gone => known_left page known (Option.isNone_iff_eq_none.mp gone)

end TerminalPage

end Kessh
