import Kessh.Host.KesshHost
import Kessh.Lib.Labelled

set_option autoImplicit false

-- Calls of setSessionSettings that are interleaved at their awaits.
namespace Kessh.SettingsPatches

open Ecma Labelled

-- The writes that a patch asks for, one before each await.
inductive SettingsWrite where
  | keepaliveInterval (v : JsNumber)
  | keepaliveAttempts (v : JsNumber)
  | terminalFontFamily (family : JsString)
  | terminalFontSize (size : JsNumber)
deriving DecidableEq, Repr

def SettingsWrite.apply : SettingsWrite → Stores → Stores
  | .keepaliveInterval v => SettingsStore.setSessionKeepaliveInterval v
  | .keepaliveAttempts v => SettingsStore.setSessionKeepaliveAttempts v
  | .terminalFontFamily family => SettingsStore.setTerminalFontFamily family
  | .terminalFontSize size => SettingsStore.setTerminalFontSize size

def writes (patch : SessionSettingsPatch) : List SettingsWrite :=
  (patch.keepaliveInterval.map .keepaliveInterval).toList ++ (patch.keepaliveAttempts.map .keepaliveAttempts).toList ++
    (patch.terminalFontFamily.map .terminalFontFamily).toList ++ (patch.terminalFontSize.map .terminalFontSize).toList

theorem writes_parts (patch : SessionSettingsPatch) :
    KesshHost.sessionSettingsParts patch = (writes patch).map SettingsWrite.apply := by
  obtain ⟨interval, attempts, family, size⟩ := patch
  cases interval <;> cases attempts <;> cases family <;> cases size <;> rfl

-- keepalive_interval_seconds and keepalive_max_attempts.
structure KeepaliveConfig where
  interval : Int
  attempts : Int
deriving DecidableEq, Repr

-- What napi_get_value_int32 makes of a number that is no integer.
variable (truncated : JsString → Int)

def int32 : JsNumber → Int
  | .int n => (BitVec.ofInt 32 n).toInt
  | .other text => truncated text

def setKeepaliveConfig (interval attempts : JsNumber) : KeepaliveConfig where
  interval := if int32 truncated interval < 0 then 0 else int32 truncated interval
  attempts := if int32 truncated attempts < 0 then 0 else int32 truncated attempts

-- Calls in progress are known by the writes they have left; `started` is ghost.
structure Bridge where
  stores : Stores
  native : KeepaliveConfig
  calls : List (List SettingsWrite) := []
  started : List SessionSettingsPatch := []

inductive Event where
  | setSessionSettings (patch : SessionSettingsPatch)
  | resumed (left : List SettingsWrite)

def configureKeepalive (s : Stores) : KeepaliveConfig :=
  setKeepaliveConfig truncated s.settings.keepaliveInterval s.settings.keepaliveAttempts

def proceed (b : Bridge) : List SettingsWrite → Bridge
  | [] => { b with native := configureKeepalive truncated b.stores }
  | write :: later => { b with stores := write.apply b.stores, calls := b.calls ++ [later] }

def step (b : Bridge) : Event → Option Bridge
  | .setSessionSettings patch => some (proceed truncated { b with started := b.started ++ [patch] } (writes patch))
  | .resumed left => if left ∈ b.calls then some (proceed truncated { b with calls := b.calls.erase left } left) else none

theorem proceed_alone (left : List SettingsWrite) (b : Bridge) (only : b.calls = []) :
    ∃ events, Run (Moves (step truncated)) (proceed truncated b left) events
      { b with
        stores := (left.map SettingsWrite.apply).foldl (fun s part => part s) b.stores
        native := configureKeepalive truncated ((left.map SettingsWrite.apply).foldl (fun s part => part s) b.stores) } := by
  induction left generalizing b with
  | nil => exact ⟨[], .nil⟩
  | cons write later ih =>
      obtain ⟨events, run⟩ := ih { b with stores := write.apply b.stores } only
      refine ⟨.resumed later :: events, run_trans _ _ _ _ [.resumed later] events (run_single _ _ _ _ ?_) run⟩
      show step truncated (proceed truncated b (write :: later)) (.resumed later) = _
      simp [step, proceed, only]

/-- A call with no other beside it does what the host's setSessionSettings does. -/
theorem setSessionSettings_alone (patch : SessionSettingsPatch) (b : Bridge) (only : b.calls = []) :
    ∃ events, Run (Moves (step truncated)) b (.setSessionSettings patch :: events)
      { b with
        stores := (KesshHost.setSessionSettings patch b.stores).1
        native := configureKeepalive truncated (KesshHost.setSessionSettings patch b.stores).1
        started := b.started ++ [patch] } := by
  obtain ⟨events, run⟩ := proceed_alone truncated (writes patch) { b with started := b.started ++ [patch] } only
  rw [← writes_parts] at run
  exact ⟨events, run_trans _ _ _ _ [.setSessionSettings patch] events (run_single _ _ _ _ rfl) run⟩

-- A setting: where the store has it, and what gives it a value.
structure Setting (α : Type) where
  stored : SettingsStore → α
  mentioned : SessionSettingsPatch → Option α
  written : SettingsWrite → Option α
  stored_apply : ∀ write s, stored (write.apply s).settings = (written write).getD (stored s.settings)
  mentioned_iff : ∀ patch v, mentioned patch = some v ↔ ∃ write ∈ writes patch, written write = some v

theorem mem_writes (patch : SessionSettingsPatch) (write : SettingsWrite) :
    write ∈ writes patch ↔ match write with
      | .keepaliveInterval v => patch.keepaliveInterval = some v
      | .keepaliveAttempts v => patch.keepaliveAttempts = some v
      | .terminalFontFamily family => patch.terminalFontFamily = some family
      | .terminalFontSize size => patch.terminalFontSize = some size := by
  obtain ⟨interval, attempts, family, size⟩ := patch
  cases write <;> simp [writes]

theorem mentioned_writes {α : Type} (mentioned : SessionSettingsPatch → Option α) (write : α → SettingsWrite)
    (written : SettingsWrite → Option α) (gives : ∀ v, written (write v) = some v)
    (only : ∀ other v, written other = some v → other = write v)
    (member : ∀ patch v, write v ∈ writes patch ↔ mentioned patch = some v) (patch : SessionSettingsPatch) (v : α) :
    mentioned patch = some v ↔ ∃ write ∈ writes patch, written write = some v := by
  rw [← member]
  constructor
  · exact fun inside => ⟨write v, inside, gives v⟩
  · rintro ⟨other, inside, same⟩
    exact only other v same ▸ inside

def keepaliveInterval : Setting JsNumber where
  stored := SettingsStore.keepaliveInterval
  mentioned := SessionSettingsPatch.keepaliveInterval
  written := fun
    | .keepaliveInterval v => some v
    | _ => none
  stored_apply := fun write _ => by cases write <;> rfl
  mentioned_iff := mentioned_writes _ .keepaliveInterval _ (fun _ => rfl) (fun other _ same => by cases other <;> cases same; rfl)
    fun patch v => mem_writes patch (.keepaliveInterval v)

def keepaliveAttempts : Setting JsNumber where
  stored := SettingsStore.keepaliveAttempts
  mentioned := SessionSettingsPatch.keepaliveAttempts
  written := fun
    | .keepaliveAttempts v => some v
    | _ => none
  stored_apply := fun write _ => by cases write <;> rfl
  mentioned_iff := mentioned_writes _ .keepaliveAttempts _ (fun _ => rfl) (fun other _ same => by cases other <;> cases same; rfl)
    fun patch v => mem_writes patch (.keepaliveAttempts v)

def terminalFontFamily : Setting JsString where
  stored := SettingsStore.terminalFontFamilyValue
  mentioned := SessionSettingsPatch.terminalFontFamily
  written := fun
    | .terminalFontFamily family => some family
    | _ => none
  stored_apply := fun write _ => by cases write <;> rfl
  mentioned_iff := mentioned_writes _ .terminalFontFamily _ (fun _ => rfl) (fun other _ same => by cases other <;> cases same; rfl)
    fun patch family => mem_writes patch (.terminalFontFamily family)

def terminalFontSize : Setting JsNumber where
  stored := SettingsStore.terminalFontSizeValue
  mentioned := SessionSettingsPatch.terminalFontSize
  written := fun
    | .terminalFontSize size => some size
    | _ => none
  stored_apply := fun write _ => by cases write <;> rfl
  mentioned_iff := mentioned_writes _ .terminalFontSize _ (fun _ => rfl) (fun other _ same => by cases other <;> cases same; rfl)
    fun patch size => mem_writes patch (.terminalFontSize size)

section Values

variable {α : Type} (setting : Setting α)

def Waiting (calls : List (List SettingsWrite)) : Prop :=
  ∃ left ∈ calls, ∃ write ∈ left, setting.written write ≠ none

-- The value is one that a patch gives, or the old one while every patch that gives one is still to be written.
structure Given (old : α) (calls : List (List SettingsWrite)) (started : List SessionSettingsPatch) (stores : Stores) : Prop where
  pending : ∀ left ∈ calls, ∀ write ∈ left, ∃ patch ∈ started, write ∈ writes patch
  value : (∃ patch ∈ started, setting.mentioned patch = some (setting.stored stores.settings)) ∨
    setting.stored stores.settings = old ∧
      ∀ patch ∈ started, setting.mentioned patch ≠ none → Waiting setting calls

theorem given_calls (old : α) (calls others : List (List SettingsWrite)) (started : List SessionSettingsPatch)
    (stores : Stores) (known : Given setting old calls started stores) (same : ∀ left, left ∈ others ↔ left ∈ calls) :
    Given setting old others started stores where
  pending := fun left member => known.pending left ((same left).mp member)
  value := known.value.imp_right fun ⟨kept, waiting⟩ => ⟨kept, fun patch member asks => by
    obtain ⟨left, inside, write, holds⟩ := waiting patch member asks
    exact ⟨left, (same left).mpr inside, write, holds⟩⟩

theorem given_started (old : α) (calls : List (List SettingsWrite)) (started : List SessionSettingsPatch)
    (stores : Stores) (patch : SessionSettingsPatch) (known : Given setting old calls started stores) :
    Given setting old (writes patch :: calls) (started ++ [patch]) stores where
  pending := by
    intro left member write inside
    rcases List.mem_cons.mp member with rfl | member
    · exact ⟨patch, by simp, inside⟩
    · obtain ⟨other, before, asked⟩ := known.pending left member write inside
      exact ⟨other, List.mem_append_left _ before, asked⟩
  value := by
    rcases known.value with ⟨other, before, same⟩ | ⟨kept, waiting⟩
    · exact .inl ⟨other, List.mem_append_left _ before, same⟩
    · refine .inr ⟨kept, fun other member asks => ?_⟩
      rcases List.mem_append.mp member with before | last
      · obtain ⟨left, inside, holds⟩ := waiting other before asks
        exact ⟨left, List.mem_cons_of_mem _ inside, holds⟩
      · obtain rfl := List.mem_singleton.mp last
        obtain ⟨v, mentioned⟩ := Option.ne_none_iff_exists'.mp asks
        obtain ⟨write, asked, gives⟩ := (setting.mentioned_iff other v).mp mentioned
        exact ⟨writes other, List.mem_cons_self, write, asked, by rw [gives]; exact Option.some_ne_none v⟩

theorem given_proceed (old : α) (b : Bridge) (left : List SettingsWrite)
    (known : Given setting old (left :: b.calls) b.started b.stores) :
    Given setting old (proceed truncated b left).calls (proceed truncated b left).started
      (proceed truncated b left).stores := by
  cases left with
  | nil =>
      refine ⟨fun other member => known.pending other (List.mem_cons_of_mem _ member), ?_⟩
      refine known.value.imp_right fun ⟨kept, waiting⟩ => ⟨kept, fun patch member asks => ?_⟩
      obtain ⟨other, inside, write, asked, gives⟩ := waiting patch member asks
      rcases List.mem_cons.mp inside with rfl | inside
      · cases asked
      · exact ⟨other, inside, write, asked, gives⟩
  | cons write later =>
      have moved : (proceed truncated b (write :: later)).calls = b.calls ++ [later] := rfl
      have stored := setting.stored_apply write b.stores
      rw [moved]
      constructor
      · intro other member asked inside
        rcases List.mem_append.mp member with before | last
        · exact known.pending other (List.mem_cons_of_mem _ before) asked inside
        · obtain rfl := List.mem_singleton.mp last
          exact known.pending (write :: other) List.mem_cons_self asked (List.mem_cons_of_mem _ inside)
      · show (∃ patch ∈ b.started, setting.mentioned patch = some (setting.stored (write.apply b.stores).settings)) ∨
          setting.stored (write.apply b.stores).settings = old ∧ _
        cases gives : setting.written write with
        | some v =>
            obtain ⟨patch, member, asked⟩ := known.pending (write :: later) List.mem_cons_self write List.mem_cons_self
            refine .inl ⟨patch, member, (setting.mentioned_iff patch _).mpr ⟨write, asked, ?_⟩⟩
            rw [stored, gives, Option.getD_some]
        | none =>
            rw [stored, gives, Option.getD_none]
            refine known.value.imp_right fun ⟨kept, waiting⟩ => ⟨kept, fun patch member asks => ?_⟩
            obtain ⟨other, inside, asked, here, gave⟩ := waiting patch member asks
            rcases List.mem_cons.mp inside with rfl | before
            · rcases List.mem_cons.mp here with rfl | behind
              · exact absurd gives gave
              · exact ⟨later, List.mem_append_right _ (List.mem_singleton.mpr rfl), asked, behind, gave⟩
            · exact ⟨other, List.mem_append_left _ before, asked, here, gave⟩

theorem step_given (old : α) (b : Bridge) (event : Event) (next : Bridge) (known : Given setting old b.calls b.started b.stores)
    (move : step truncated b event = some next) : Given setting old next.calls next.started next.stores := by
  cases event with
  | setSessionSettings patch =>
      obtain rfl := Option.some.inj move
      exact given_proceed truncated setting old { b with started := b.started ++ [patch] } _
        (given_started setting old b.calls b.started b.stores patch known)
  | resumed left =>
      obtain ⟨member, same⟩ := Option.ite_none_right_eq_some.mp move
      obtain rfl := Option.some.inj same
      refine given_proceed truncated setting old { b with calls := b.calls.erase left } left ?_
      exact given_calls setting old b.calls _ b.started b.stores known fun other => (List.perm_cons_erase member).symm.mem_iff

-- The old value where no patch gives one, and else the value of one that does.
structure Converged (old : α) (b : Bridge) : Prop where
  unmentioned : (∀ patch ∈ b.started, setting.mentioned patch = none) → setting.stored b.stores.settings = old
  mentioned : (∃ patch ∈ b.started, setting.mentioned patch ≠ none) →
    ∃ patch ∈ b.started, setting.mentioned patch = some (setting.stored b.stores.settings)

theorem given_converged (old : α) (b : Bridge) (known : Given setting old b.calls b.started b.stores) (done : b.calls = []) :
    Converged setting old b := by
  rcases known.value with ⟨patch, member, same⟩ | ⟨kept, waiting⟩
  · refine ⟨fun silent => ?_, fun _ => ⟨patch, member, same⟩⟩
    exact absurd (same.symm.trans (silent patch member)) (Option.some_ne_none _)
  · refine ⟨fun _ => kept, fun ⟨patch, member, asks⟩ => ?_⟩
    obtain ⟨left, inside, _⟩ := waiting patch member asks
    rw [done] at inside
    cases inside

def idle (s : Stores) (native : KeepaliveConfig) : Bridge := { stores := s, native }

theorem run_converged (s : Stores) (native : KeepaliveConfig) (events : List Event) (b : Bridge)
    (run : Run (Moves (step truncated)) (idle s native) events b) (done : b.calls = []) :
    Converged setting (setting.stored s.settings) b := by
  refine given_converged setting _ b ?_ done
  refine run_invariant _ (fun b : Bridge => Given setting (setting.stored s.settings) b.calls b.started b.stores)
    (fun before event after known move => step_given truncated setting _ before event after known move) _ events b ?_ run
  show Given setting (setting.stored s.settings) [] [] s
  exact ⟨fun _ member => absurd member List.not_mem_nil, .inr ⟨rfl, fun _ member => absurd member List.not_mem_nil⟩⟩

end Values

-- A number that int32_t has, and that is not negative.
def Word (number : JsNumber) : Prop := ∃ n : Int, number = .int n ∧ 0 ≤ n ∧ n < 0x80000000

structure Words (patch : SessionSettingsPatch) : Prop where
  interval : ∀ v ∈ patch.keepaliveInterval, Word v
  attempts : ∀ v ∈ patch.keepaliveAttempts, Word v

theorem word_int32 (number : JsNumber) (word : Word number) :
    number = .int (if int32 truncated number < 0 then 0 else int32 truncated number) := by
  obtain ⟨n, rfl, lower, upper⟩ := word
  have value : int32 truncated (.int n) = n := by
    rw [int32, BitVec.toInt_ofInt, Int.bmod_eq_of_le (by omega) (by omega)]
  rw [value, if_neg (by omega)]

theorem step_native (b : Bridge) (event : Event) (next : Bridge) (move : step truncated b event = some next) :
    next.calls ≠ [] ∨ next.native = configureKeepalive truncated next.stores := by
  have proceeds : ∀ (b : Bridge) (left : List SettingsWrite), (proceed truncated b left).calls ≠ [] ∨
      (proceed truncated b left).native = configureKeepalive truncated (proceed truncated b left).stores := by
    intro b left
    cases left with
    | nil => exact .inr rfl
    | cons write later => exact .inl (by simp [proceed])
  cases event with
  | setSessionSettings patch =>
      obtain rfl := Option.some.inj move
      exact proceeds _ _
  | resumed left =>
      obtain ⟨_, same⟩ := Option.ite_none_right_eq_some.mp move
      obtain rfl := Option.some.inj same
      exact proceeds _ _

theorem converged_word (setting : Setting JsNumber) (old : JsNumber) (b : Bridge) (converged : Converged setting old b)
    (start : Word old) (words : ∀ patch ∈ b.started, ∀ v ∈ setting.mentioned patch, Word v) :
    Word (setting.stored b.stores.settings) := by
  by_cases any : ∃ patch ∈ b.started, setting.mentioned patch ≠ none
  · obtain ⟨patch, member, same⟩ := converged.mentioned any
    exact words patch member _ same
  · rw [converged.unmentioned fun patch member => by
      by_contra asks
      exact any ⟨patch, member, asks⟩]
    exact start

/-- However the calls are interleaved, when none is in progress the native module has the keepalive of the store, and
every setting is the old one, or what a patch that mentions it gives. -/
theorem settings_converge (s : Stores) (native : KeepaliveConfig) (events : List Event) (b : Bridge)
    (interval : Word s.settings.keepaliveInterval) (attempts : Word s.settings.keepaliveAttempts)
    (run : Run (Moves (step truncated)) (idle s native) events b) (words : ∀ patch ∈ b.started, Words patch)
    (done : b.calls = []) (called : b.started ≠ []) :
    (b.stores.settings.keepaliveInterval = .int b.native.interval ∧
        b.stores.settings.keepaliveAttempts = .int b.native.attempts) ∧
      Converged keepaliveInterval s.settings.keepaliveInterval b ∧
      Converged keepaliveAttempts s.settings.keepaliveAttempts b ∧
      Converged terminalFontFamily s.settings.terminalFontFamilyValue b ∧
      Converged terminalFontSize s.settings.terminalFontSizeValue b := by
  have intervals := run_converged truncated keepaliveInterval s native events b run done
  have counts := run_converged truncated keepaliveAttempts s native events b run done
  refine ⟨?_, intervals, counts, run_converged truncated terminalFontFamily s native events b run done,
    run_converged truncated terminalFontSize s native events b run done⟩
  have configured : b.native = configureKeepalive truncated b.stores := by
    cases run with
    | nil => exact absurd rfl called
    | snoc before state next event _ last => exact (step_native truncated state event b last).resolve_left (fun busy => busy done)
  rw [configured]
  exact ⟨word_int32 truncated _ (converged_word _ _ b intervals interval fun patch member => (words patch member).interval),
    word_int32 truncated _ (converged_word _ _ b counts attempts fun patch member => (words patch member).attempts)⟩

-- Of two calls the second one ends first.
def crossing : List Event :=
  [.setSessionSettings { keepaliveInterval := some (.int 5), keepaliveAttempts := some (.int 7) },
    .setSessionSettings { keepaliveInterval := some (.int 9) }, .resumed [], .resumed [.keepaliveAttempts (.int 7)],
    .resumed []]

theorem crossing_words (b : Bridge) (patches : b.started =
      [{ keepaliveInterval := some (.int 5), keepaliveAttempts := some (.int 7) }, { keepaliveInterval := some (.int 9) }]) :
    ∀ patch ∈ b.started, Words patch := by
  rw [patches]
  intro patch member
  rcases List.mem_pair.mp member with rfl | rfl
  · exact ⟨fun v given => ⟨5, (Option.some.inj given).symm, by decide, by decide⟩,
      fun v given => ⟨7, (Option.some.inj given).symm, by decide, by decide⟩⟩
  · exact ⟨fun v given => ⟨9, (Option.some.inj given).symm, by decide, by decide⟩, fun v given => by cases given⟩

theorem settings_converge_crossing :
    ∃ b, crossing.foldlM (step fun _ => 0) (idle (initialStores noon { available := true }) ⟨30, 3⟩) = some b ∧
      b.native = ⟨9, 7⟩ ∧ b.stores.settings.keepaliveInterval = .int b.native.interval := by
  refine ⟨_, rfl, rfl, ?_⟩
  exact (settings_converge (fun _ => 0) (initialStores noon { available := true }) ⟨30, 3⟩ crossing _
    ⟨60, rfl, by decide, by decide⟩ ⟨3, rfl, by decide, by decide⟩ (moves_run _ _ _ _ rfl) (crossing_words _ rfl) rfl
    (List.cons_ne_nil _ _)).1.1

end Kessh.SettingsPatches
