import Kessh.Native.Diagnostics

set_option autoImplicit false

-- What PingHost and TestPort obtain, and what they have given back when they return.
namespace Kessh.Native

open Utf8 (Bytes)
open Interaction

abbrev Probed := Interaction.Event ProbeCall ProbeReply

def socketMade : Probed → Option Nat
  | ⟨.native (.socket _), reply⟩ => Except.toOption reply
  | _ => none

def closedOf : Probed → Option Nat
  | ⟨.native (.close sock), _⟩ => some sock
  | _ => none

def listOf : Probed → Option Nat
  | ⟨.native (.getaddrinfo _ _), reply⟩ => (Except.toOption reply).map AddressList.handle
  | _ => none

def freedOf : Probed → Option Nat
  | ⟨.native (.freeaddrinfo list), _⟩ => some list
  | _ => none

-- In the order in which they were obtained, and given back.
def socketsOpened (events : List Probed) : List Nat := events.filterMap socketMade

def socketsClosed (events : List Probed) : List Nat := events.filterMap closedOf

def listsResolved (events : List Probed) : List Nat := events.filterMap listOf

def listsFreed (events : List Probed) : List Nat := events.filterMap freedOf

structure Attempts (events : List Probed) (most : Nat) : Prop where
  returned : socketsOpened events = socketsClosed events
  bounded : (socketsOpened events).length ≤ most
  unresolved : listsResolved events = []
  unfreed : listsFreed events = []

theorem attempts_nil (most : Nat) : Attempts [] most := ⟨rfl, Nat.zero_le _, rfl, rfl⟩

theorem attempts_append (first second : List Probed) (most more : Nat) (here : Attempts first most)
    (there : Attempts second more) : Attempts (first ++ second) (most + more) where
  returned := by
    have opens : socketsOpened (first ++ second) = socketsOpened first ++ socketsOpened second := List.filterMap_append
    have closes : socketsClosed (first ++ second) = socketsClosed first ++ socketsClosed second := List.filterMap_append
    rw [opens, closes, here.returned, there.returned]
  bounded := by
    have parts : socketsOpened (first ++ second) = socketsOpened first ++ socketsOpened second := List.filterMap_append
    rw [parts, List.length_append]
    exact Nat.add_le_add here.bounded there.bounded
  unresolved := by
    have parts : listsResolved (first ++ second) = listsResolved first ++ listsResolved second := List.filterMap_append
    rw [parts, here.unresolved, there.unresolved]
    rfl
  unfreed := by
    have parts : listsFreed (first ++ second) = listsFreed first ++ listsFreed second := List.filterMap_append
    rw [parts, here.unfreed, there.unfreed]
    rfl

structure Released (events : List Probed) : Prop where
  sockets : socketsOpened events = socketsClosed events
  lists : listsResolved events = listsFreed events

theorem released_around (host port : Bytes) (list : AddressList) (attempts : List Probed) (most : Nat)
    (inside : Attempts attempts most) (before after : List Probed) (quiet : Attempts before 0) (last : Attempts after 0) :
    Released (⟨.native (.getaddrinfo host port), Except.ok list⟩ ::
        (before ++ (attempts ++ ⟨.native (.freeaddrinfo list.handle), ()⟩ :: after))) ∧
      socketsOpened (⟨.native (.getaddrinfo host port), Except.ok list⟩ ::
        (before ++ (attempts ++ ⟨.native (.freeaddrinfo list.handle), ()⟩ :: after))) = socketsOpened attempts := by
  have nothing : socketsOpened before = [] ∧ socketsOpened after = [] :=
    ⟨List.length_eq_zero_iff.mp (Nat.le_zero.mp quiet.bounded), List.length_eq_zero_iff.mp (Nat.le_zero.mp last.bounded)⟩
  have opens : socketsOpened (⟨.native (.getaddrinfo host port), Except.ok list⟩ ::
      (before ++ (attempts ++ ⟨.native (.freeaddrinfo list.handle), ()⟩ :: after))) =
      socketsOpened before ++ (socketsOpened attempts ++ socketsOpened after) := by
    simp [socketsOpened, List.filterMap_append, List.filterMap_cons, socketMade]
  have closes : socketsClosed (⟨.native (.getaddrinfo host port), Except.ok list⟩ ::
      (before ++ (attempts ++ ⟨.native (.freeaddrinfo list.handle), ()⟩ :: after))) =
      socketsClosed before ++ (socketsClosed attempts ++ socketsClosed after) := by
    simp [socketsClosed, List.filterMap_append, List.filterMap_cons, closedOf]
  have lists : listsResolved (⟨.native (.getaddrinfo host port), Except.ok list⟩ ::
      (before ++ (attempts ++ ⟨.native (.freeaddrinfo list.handle), ()⟩ :: after))) =
      list.handle :: (listsResolved before ++ (listsResolved attempts ++ listsResolved after)) := by
    simp [listsResolved, List.filterMap_append, List.filterMap_cons, listOf, Except.toOption]
  have frees : listsFreed (⟨.native (.getaddrinfo host port), Except.ok list⟩ ::
      (before ++ (attempts ++ ⟨.native (.freeaddrinfo list.handle), ()⟩ :: after))) =
      listsFreed before ++ (listsFreed attempts ++ list.handle :: listsFreed after) := by
    simp [listsFreed, List.filterMap_append, List.filterMap_cons, freedOf]
  refine ⟨⟨?_, ?_⟩, ?_⟩
  · rw [opens, closes, quiet.returned, inside.returned, last.returned]
  · rw [lists, frees, quiet.unresolved, inside.unresolved, last.unresolved, quiet.unfreed, inside.unfreed, last.unfreed]
    rfl
  · rw [opens, nothing.1, nothing.2, List.append_nil]
    rfl

variable (fixed : (decimals : Nat) → (numerator denominator : Int) → Bytes)

theorem pingAttempt_trace (host : Bytes) (first : Address) (pause : Bool) (ping after : Ping) (events : List Probed)
    (trace : Trace (pingAttempt fixed host first pause ping) events after) :
    Attempts events 1 ∧ after.success + after.failed = ping.success + ping.failed + 1 ∧
      after.success ≤ ping.success + (socketsOpened events).length := by
  unfold pingAttempt at trace
  simp only [probe, Program.bind_eq, Program.ask_bind, trace_call] at trace
  obtain ⟨made, rest, rfl, trace⟩ := trace
  cases made with
  | error errno =>
      obtain ⟨rfl, rfl⟩ := (trace_done _ _ _).mp trace
      exact ⟨⟨rfl, Nat.zero_le _, rfl, rfl⟩, rfl, Nat.le_add_right _ _⟩
  | ok sock =>
      simp only [trace_call] at trace
      obtain ⟨_, _, rfl, start, _, rfl, connResult, _, rfl, finish, _, rfl, _, rest, rfl, trace⟩ := trace
      -- The pause asks for nothing that has to be given back.
      have paused : Attempts rest 0 ∧ after.success + after.failed = ping.success + ping.failed + 1 ∧
          after.success ≤ ping.success + 1 := by
        have counted : ∀ next : Ping, (next = if isConnected connResult then
              { stream := ping.stream ++ (bytes "Reply from " ++ host ++ bytes ": time=" ++
                  fixed 2 (finish - start) milliseconds ++ bytes "ms\n")
                success := ping.success + 1, failed := ping.failed, totalTime := ping.totalTime + (finish - start)
                minTime := if finish - start < ping.minTime then finish - start else ping.minTime
                maxTime := if finish - start > ping.maxTime then finish - start else ping.maxTime }
            else { ping with stream := ping.stream ++ bytes "Request timeout\n", failed := ping.failed + 1 }) →
            next.success + next.failed = ping.success + ping.failed + 1 ∧ next.success ≤ ping.success + 1 := by
          rintro next rfl
          split
          · exact ⟨Nat.add_right_comm ping.success 1 ping.failed, Nat.le_refl _⟩
          · exact ⟨rfl, Nat.le_succ _⟩
        cases pause with
        | false =>
            obtain ⟨rfl, same⟩ := (trace_done _ _ _).mp trace
            exact ⟨attempts_nil 0, counted after same.symm⟩
        | true =>
            simp only [if_true, trace_call] at trace
            obtain ⟨_, _, rfl, trace⟩ := trace
            obtain ⟨rfl, same⟩ := (trace_done _ _ _).mp trace
            exact ⟨⟨rfl, Nat.zero_le _, rfl, rfl⟩, counted after same.symm⟩
      obtain ⟨quiet, total, most⟩ := paused
      have one : Attempts _ (1 + 0) := attempts_append
        [⟨.native (.socket { first with socktype := SOCK_STREAM, protocol := 0 }), Except.ok sock⟩,
          ⟨.setTimeouts sock 2 0, ()⟩, ⟨.steadyClock, start⟩, ⟨.native (.connect sock first), connResult⟩,
          ⟨.steadyClock, finish⟩, ⟨.native (.close sock), ()⟩] rest 1 0 ⟨rfl, Nat.le_refl _, rfl, rfl⟩ quiet
      refine ⟨one, total, Nat.le_trans most (Nat.add_le_add_left ?_ _)⟩
      exact Nat.succ_le_succ (Nat.zero_le _)

theorem pingRounds_trace (host : Bytes) (first : Address) (more : Nat) (ping last : Ping) (events : List Probed)
    (trace : Trace (pingRounds fixed host first more ping) events last) :
    Attempts events more ∧ last.success + last.failed = ping.success + ping.failed + more ∧
      last.success ≤ ping.success + (socketsOpened events).length := by
  induction more generalizing ping events with
  | zero =>
      obtain ⟨rfl, rfl⟩ := (trace_done _ _ _).mp trace
      exact ⟨attempts_nil 0, rfl, Nat.le_add_right _ _⟩
  | succ more ih =>
      rw [pingRounds, Program.bind_eq] at trace
      obtain ⟨earlier, later, next, rfl, here, there⟩ := trace_bind _ _ _ _ trace
      obtain ⟨one, total, most⟩ := pingAttempt_trace fixed host first _ ping next earlier here
      obtain ⟨others, totals, mosts⟩ := ih next later there
      have parts : socketsOpened (earlier ++ later) = socketsOpened earlier ++ socketsOpened later := List.filterMap_append
      refine ⟨Nat.add_comm 1 more ▸ attempts_append earlier later 1 more one others, by omega, ?_⟩
      rw [parts, List.length_append]
      omega

theorem pingCount_range (count : Option Int) : 1 ≤ pingCount count ∧ pingCount count ≤ 10 := by
  unfold pingCount
  dsimp only
  split <;> split <;> omega

-- The attempts of a ping: four unless a positive number is asked for, and ten at most.
structure Attempted (count : Option Int) (attempts : Nat) : Prop where
  asked : ∀ number, count = some number → 0 < number → (attempts : Int) = min number 10
  otherwise : (∀ number, count = some number → number ≤ 0) → attempts = 4

theorem pingCount_attempted (count : Option Int) : Attempted count (pingCount count) where
  asked := by
    rintro number rfl positive
    simp only [pingCount, Option.getD_some, if_neg (Int.not_le.mpr positive)]
    split <;> omega
  otherwise := by
    intro unasked
    cases count with
    | none => rfl
    | some number =>
        simp only [pingCount, Option.getD_some, if_pos (unasked number rfl)]
        rfl

/-- Whatever the system answers: a ping that returns has closed every socket it opened and freed the list it resolved,
it opened at most one socket for each attempt, and if the name was resolved every attempt counts as received or lost. -/
theorem pingHost_released (host : Bytes) (count : Option Int) (events : List Probed) (last : Ping)
    (trace : Trace (pingHost fixed host count) events (.returned last)) :
    Released events ∧ Attempted count (pingCount count) ∧ (1 ≤ pingCount count ∧ pingCount count ≤ 10) ∧
      last.success ≤ (socketsOpened events).length ∧ (socketsOpened events).length ≤ pingCount count ∧
      (listsResolved events = [] ∨ last.success + last.failed = pingCount count) := by
  have attempted := pingCount_attempted count
  have range := pingCount_range count
  unfold pingHost at trace
  by_cases accepted : isValidHost host = true
  · simp only [accepted, Bool.not_true, Bool.false_eq_true, if_false, probe, Program.bind_eq, Program.ask_bind, trace_call] at trace
    obtain ⟨answer, rest, rfl, trace⟩ := trace
    cases answer with
    | error status =>
        obtain ⟨rfl, same⟩ := (trace_done _ _ _).mp trace
        obtain rfl := Diagnosis.returned.inj same
        exact ⟨⟨rfl, rfl⟩, attempted, range, Nat.zero_le _, Nat.zero_le _, .inl rfl⟩
    | ok list =>
        cases found : list.addresses with
        | nil =>
            simp only [found] at trace
            obtain ⟨_, same⟩ := (trace_done _ _ _).mp trace
            cases same
        | cons first others =>
            simp only [found] at trace
            obtain ⟨attempts, after, ping, rfl, rounds, freeing⟩ := trace_bind _ _ _ _ trace
            obtain ⟨_, _, rfl, ended⟩ := (trace_call _ _ _ _).mp freeing
            obtain ⟨rfl, same⟩ := (trace_done _ _ _).mp ended
            obtain rfl := Diagnosis.returned.inj same
            obtain ⟨inside, total, most⟩ := pingRounds_trace fixed host first (pingCount count) _ ping attempts rounds
            obtain ⟨released, opens⟩ := released_around host (bytes "80") list attempts _ inside [] [] (attempts_nil 0)
              (attempts_nil 0)
            refine ⟨released, attempted, range, ?_, ?_, .inr (total.trans (Nat.zero_add _))⟩
            · exact Nat.le_trans most (Nat.le_of_eq ((Nat.zero_add _).trans (congrArg List.length opens.symm)))
            · exact Nat.le_trans (Nat.le_of_eq (congrArg List.length opens)) inside.bounded
  · simp only [Bool.not_eq_true] at accepted
    simp only [accepted, Bool.not_false, if_true] at trace
    obtain ⟨_, same⟩ := (trace_done _ _ _).mp trace
    cases same

def localhost : Address := { family := 2, socktype := 1, protocol := 6, addr := [127, 0, 0, 1] }

def oncePinged : List Probed :=
  [⟨.native (.getaddrinfo (bytes "a") (bytes "80")), Except.ok ⟨3, [localhost]⟩⟩,
    ⟨.native (.socket { localhost with socktype := SOCK_STREAM, protocol := 0 }), Except.ok 5⟩, ⟨.setTimeouts 5 2 0, ()⟩,
    ⟨.steadyClock, (100 : Int)⟩, ⟨.native (.connect 5 localhost), none⟩, ⟨.steadyClock, (107 : Int)⟩, ⟨.native (.close 5), ()⟩,
    ⟨.native (.freeaddrinfo 3), ()⟩]

theorem pingHost_released_once :
    ∃ last : Ping, Released oncePinged ∧ Attempted (some 1) (pingCount (some 1)) ∧
      (1 ≤ pingCount (some 1) ∧ pingCount (some 1) ≤ 10) ∧
      last.success ≤ (socketsOpened oncePinged).length ∧ (socketsOpened oncePinged).length ≤ pingCount (some 1) ∧
      (listsResolved oncePinged = [] ∨ last.success + last.failed = pingCount (some 1)) :=
  ⟨_, pingHost_released (fun _ _ _ => []) (bytes "a") (some 1) oncePinged _ rfl⟩

def timeoutOf : Probed → Option Int
  | ⟨.setTimeouts _ seconds microseconds, _⟩ => some (seconds * 1000000 + microseconds)
  | _ => none

def answered : Probed → Bool
  | ⟨.native (.connect _ _), reply⟩ => isConnected reply
  | _ => false

end Kessh.Native
