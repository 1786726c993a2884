import Kessh.Lib.Labelled
import Kessh.Lib.Ledger
import Kessh.Native.Obedience

set_option autoImplicit false

-- The native module as a whole: what its operations share, and the operations in progress.
namespace Kessh.Native

open Utf8 (Bytes)
open Interaction Ledger

-- Ghost: an operation that closes the session has claimed the row.
structure Row where
  id : Int
  entry : KesshSession
  claimed : Bool := false
deriving DecidableEq, Repr

def Row.handles (row : Row) : List Handle := if row.claimed then [] else row.entry.handles

-- Work waits in the queue until the pool runs it.
inductive Stage where
  | waiting
  | running (program : Routine Result)
  | finished (result : Result)
  | cancelled

-- An operation in progress or ended. What a queued open keeps for its completion is its promise
-- and, once it ran, the id; custody, gained (what its calls acquired) and changed (whether they
-- changed the table or the next id) are ghost.
structure Task where
  operation : Operation
  stage : Stage
  custody : Custody
  kept : List Handle := []
  gained : List Handle := []
  changed : Bool := false

def Task.handles (task : Task) : List Handle := task.kept ++ task.custody.held

structure World where
  table : List Row := []
  nextSessionId : Int := 1
  libssh2Initialized : Bool := false
  keepaliveIntervalSeconds : Int := 30
  keepaliveMaxAttempts : Int := 3
  holder : Mutex → Option Nat := fun _ => none
  tasks : List Task := []
  ledger : List (Entry Handle) := []
  resolutions : List (Nat × Int) := []

def Operation.task (operation : Operation) : Task :=
  { operation, stage := .running operation.program, custody := operation.start }

-- An int that wraps around at 2^31.
def increment (n : Int) : Int := if n = 2147483647 then -2147483648 else n + 1

def claim (id : Int) (table : List Row) : List Row :=
  table.map fun row => if row.id = id then { row with claimed := true } else row

def setFailures (id failures : Int) (table : List Row) : List Row :=
  table.map fun row => if row.id = id then { row with entry := { row.entry with keepaliveFailures := failures } } else row

-- How the shared state answers the i-th task; what is left to the surroundings is answered freely.
def World.respond (w : World) (i : Nat) : (call : Call) → Reply call → Option World
  | .lock mutex, _ =>
      if w.holder mutex = none then
        some { w with holder := fun other => if other = mutex then some i else w.holder other }
      else none
  | .unlock mutex, _ =>
      if w.holder mutex = some i then
        some { w with holder := fun other => if other = mutex then none else w.holder other }
      else none
  | .libssh2Initialized, value => if value = w.libssh2Initialized then some w else none
  | .setLibssh2Initialized, _ => some { w with libssh2Initialized := true }
  | .keepaliveIntervalSeconds, value => if value = w.keepaliveIntervalSeconds then some w else none
  | .setKeepaliveConfig interval attempts, _ =>
      some { w with keepaliveIntervalSeconds := interval, keepaliveMaxAttempts := attempts }
  | .findSession sessionId purpose, found =>
      if found = (w.table.find? (·.id == sessionId)).map (·.entry) then
        some { w with table := if purpose = .close then claim sessionId w.table else w.table }
      else none
  | .insertSession entry, sessionId =>
      if sessionId = w.nextSessionId then
        some { w with
          table := { id := sessionId, entry } :: w.table.filter (·.id != sessionId)
          nextSessionId := increment w.nextSessionId
          ledger := .acquire (.ticket sessionId) :: w.ledger }
      else none
  | .eraseSession sessionId, _ => some { w with table := w.table.filter (·.id != sessionId) }
  | .setKeepaliveFailures sessionId failures, _ => some { w with table := setFailures sessionId failures w.table }
  | .queueAsyncWork data, true =>
      some { w with tasks := w.tasks ++ [{
        operation := .executeOpenSessionAsync data, stage := .waiting, custody := {}, kept := [.promise data.deferred] }] }
  | .resolveDeferred deferred value, _ => some { w with resolutions := (deferred, value) :: w.resolutions }
  | _, _ => some w

inductive Event where
  | start (operation : Operation)
  | call (task : Nat) (event : Interaction.Event Call Reply)
  | finish (task : Nat)
  | begin (task : Nat)
  | complete (task : Nat)

def Operation.fromJs : Operation → Bool
  | .executeOpenSessionAsync _ => false
  | .completeOpenSessionAsync _ _ _ => false
  | _ => true

def Operation.isWork : Operation → Bool
  | .executeOpenSessionAsync _ => true
  | _ => false

def Task.resumed (task : Task) (w after : World) (next : Routine Result) (call : Call) (reply : Reply call) : Task :=
  { task with
    stage := .running next
    custody := task.custody.after call reply
    gained := gains call reply ++ task.gained
    changed := task.changed || decide (after.table ≠ w.table ∨ after.nextSessionId ≠ w.nextSessionId) }

def World.answered (w after : World) (i : Nat) (task : Task) (next : Routine Result) (call : Call) (reply : Reply call) :
    World :=
  { after with
    ledger := record call.uses (frees call reply) (gains call reply) after.ledger
    tasks := after.tasks.set i (task.resumed w after next call reply) }

-- Handles that come back from a call are new: pointers and descriptors in use are not handed out again.
def World.call (w : World) (i : Nat) (event : Interaction.Event Call Reply) : Option World :=
  w.tasks[i]?.bind fun task =>
    match task.stage with
    | .running program =>
        (resume program event).bind fun next =>
          (w.respond i event.request event.reply).bind fun after =>
            if (gains event.request event.reply).any (acquired w.ledger).contains then none
            else some (w.answered after i task next event.request event.reply)
    | _ => none

-- The id an open returns goes to its caller; that of queued work waits for the completion.
def World.finish (w : World) (i : Nat) : Option World :=
  w.tasks[i]?.bind fun task =>
    match task.stage with
    | .running (.done result) =>
        let returned := task.operation.keeps result
        let ended := { task with stage := .finished result, custody := { task.custody with held := [] } }
        if task.operation.isWork then some { w with tasks := w.tasks.set i { ended with kept := task.kept ++ returned } }
        else some { w with tasks := w.tasks.set i ended, ledger := returned.map .release ++ w.ledger }
    | _ => none

def World.begin (w : World) (i : Nat) : Option World :=
  w.tasks[i]?.bind fun task =>
    match task.stage with
    | .waiting => some { w with tasks := w.tasks.set i { task with
        stage := .running task.operation.program, custody := task.operation.start } }
    | _ => none

-- N-API completes queued work once: with status ok after it ran, or cancelled before it ran.
def World.complete (w : World) (i : Nat) : Option World :=
  w.tasks[i]?.bind fun task =>
    match task.operation, task.stage with
    | .executeOpenSessionAsync data, .waiting =>
        some { w with tasks := w.tasks.set i { task with stage := .cancelled, kept := [] } ++
          [(Operation.completeOpenSessionAsync false data (-1)).task] }
    | .executeOpenSessionAsync data, .finished (.ran sessionId _) =>
        if task.kept = [] then none
        else
          some { w with tasks := w.tasks.set i { task with kept := [] } ++
            [(Operation.completeOpenSessionAsync true data sessionId).task] }
    | _, _ => none

def step (w : World) : Event → Option World
  | .start operation => if operation.fromJs then some { w with tasks := w.tasks ++ [operation.task] } else none
  | .call i event => w.call i event
  | .finish i => w.finish i
  | .begin i => w.begin i
  | .complete i => w.complete i

end Kessh.Native
