import Kessh.Native.SessionRuns
import Kessh.Native.Traces

set_option autoImplicit false

-- What an operation has to do with the session table, whatever libssh2 answers: an open draws an id and hands it on,
-- a close finds its own session and erases it, and nothing else changes which sessions there are.
namespace Kessh.Native

open Utf8 (Bytes)
open Interaction

def Operation.closes : Operation → Option Int
  | .closeSession sessionId => some sessionId
  | _ => none

def ticketsOf (handles : List Handle) : List Int := handles.filterMap Handle.ticketOf

-- The ids that were drawn and not handed on, and whether the session to be closed is gone.
structure Errand where
  drawn : List Int := []
  gone : Bool := false
deriving DecidableEq

@[simp] def Errand.allowed (operation : Operation) (e : Errand) : Call → Prop
  | .findSession sessionId .close => operation.closes = some sessionId ∧ e.gone = false
  | .eraseSession sessionId => operation.closes = some sessionId
  | .resolveDeferred _ value => value ≠ -1 → e.drawn = [value]
  | _ => True

@[simp] def Errand.after (e : Errand) : (call : Call) → Reply call → Errand
  | .insertSession _, sessionId => { e with drawn := sessionId :: e.drawn }
  | .findSession _ .close, none => { e with gone := true }
  | .eraseSession _, _ => { e with gone := true }
  | .resolveDeferred _ value, _ => { e with drawn := e.drawn.filter fun sessionId => !(decide (value ≠ -1) && sessionId == value) }
  | _, _ => e

@[simp] def draws : (call : Call) → Reply call → Prop
  | .insertSession _, sessionId => 0 < sessionId
  | _, _ => True

abbrev errands (operation : Operation) : Discipline Call Reply where
  State := Errand
  allowed := Errand.allowed operation
  expected := draws
  after := Errand.after

-- An open ends with the id it returns, and a close with its session gone.
structure Operation.Delivers (operation : Operation) (result : Result) (e : Errand) : Prop where
  drawn : e.drawn = ticketsOf (operation.keeps result)
  gone : operation.closes.isSome = true → e.gone = true

@[simp] def Call.aside : Call → Bool
  | .insertSession _ => false
  | .findSession _ .close => false
  | .eraseSession _ => false
  | .resolveDeferred _ _ => false
  | _ => true

abbrev Aside {α : Type} (program : Routine α) : Prop := Makes (fun call => call.aside = true) program

theorem aside_allowed (operation : Operation) (e : Errand) (call : Call) (aside : call.aside = true) :
    e.allowed operation call := by
  unfold Errand.allowed
  split <;> trivial

theorem aside_after (e : Errand) (call : Call) (reply : Reply call) (aside : call.aside = true) : e.after call reply = e := by
  unfold Errand.after
  split <;> first | rfl | cases aside

theorem aside_errands {α : Type} (operation : Operation) (program : Routine α) (aside : Aside program) (e : Errand) :
    Obeys (errands operation) (fun _ after => after = e) program e :=
  makes_obeys (errands operation) _ e (aside_allowed operation e) (aside_after e) program aside

theorem connectAttempts_aside (sock : Nat) (address : Address) (retries : Nat) : Aside (connectAttempts sock address retries) := by
  induction retries with
  | zero =>
      rw [connectAttempts]
      refine makes_ask _ _ _ rfl fun reply => ?_
      cases reply with
      | none => exact makes_pure _ _
      | some errno => exact makes_ite _ _ _ _ (makes_pure _ _) (makes_pure _ _)
  | succ more ih =>
      rw [connectAttempts]
      refine makes_ask _ _ _ rfl fun reply => ?_
      cases reply with
      | none => exact makes_pure _ _
      | some errno => exact makes_ite _ _ _ _ (makes_pure _ _) (makes_ite _ _ _ _ ih (makes_pure _ _))

theorem connectAny_aside (list : Nat) (addresses : List Address) (lastError : Option Errno) :
    Aside (connectAny list addresses lastError) := by
  induction addresses generalizing lastError with
  | nil => exact makes_ask _ _ _ rfl fun _ => makes_pure _ _
  | cons address rest ih =>
      refine makes_ask _ _ _ rfl fun reply => ?_
      cases reply with
      | error errno => exact ih (some errno)
      | ok sock =>
          refine makes_ask _ _ _ rfl fun _ => makes_seq _ _ _ (connectAttempts_aside sock address 2) fun outcome => ?_
          cases outcome with
          | none => exact makes_ask _ _ _ rfl fun _ => makes_pure _ _
          | some errno => exact makes_ask _ _ _ rfl fun _ => ih (some errno)

theorem connectTcpSocket_aside (host : Bytes) (port : Int) : Aside (connectTcpSocket host port) := by
  refine makes_ite _ _ _ _ (makes_pure _ _) (makes_ite _ _ _ _ (makes_pure _ _) ?_)
  refine makes_ask _ _ _ rfl fun reply => ?_
  cases reply with
  | error status => exact makes_pure _ _
  | ok list =>
      refine makes_seq _ _ _ (connectAny_aside list.handle list.addresses none) fun outcome => ?_
      cases outcome <;> exact makes_pure _ _

theorem ensureLibssh2Initialized_aside : Aside ensureLibssh2Initialized := by
  refine makes_lock _ _ _ rfl rfl (makes_ask _ _ _ rfl fun initialized => makes_ite _ _ _ _ (makes_pure _ _) ?_)
  refine makes_ask _ _ _ rfl fun rc => makes_ite _ _ _ _ (makes_pure _ _) ?_
  exact makes_ask _ _ _ rfl fun _ => makes_pure _ _

-- What an open that has come to an end leaves its caller with.
def Drew (outcome : Fallible Int) (e : Errand) : Prop :=
  e = { drawn := outcome.toOption.toList } ∧ ∀ sessionId, outcome = .ok sessionId → 0 < sessionId

theorem drew_error (error : Bytes) : Drew (.error error) {} := ⟨rfl, fun _ same => by cases same⟩

section

variable (operation : Operation)

theorem errands_aside {α β : Type} (post : β → Errand → Prop) (program : Routine α) (rest : α → Routine β) (e : Errand)
    (aside : Aside program) (later : ∀ value, Obeys (errands operation) post (rest value) e) :
    Obeys (errands operation) post (program >>= rest) e := by
  refine obeys_bind (errands operation) post program rest e ?_
  refine obeys_mono (errands operation) _ _ ?_ program e (aside_errands operation program aside e)
  rintro value _ rfl
  exact later value

theorem errands_ask {β : Type} (post : β → Errand → Prop) (call : Call) (rest : Reply call → Routine β) (e : Errand)
    (aside : call.aside = true) (later : ∀ reply, Obeys (errands operation) post (rest reply) e) :
    Obeys (errands operation) post (ask call >>= rest) e :=
  errands_aside operation post (ask call) rest e (makes_ask _ _ _ aside fun _ => makes_pure _ _) later

theorem openFailure_drew (session : Nat) (channel : Option Channel) (sock : Nat) (reason : Option String) (fallback : String) :
    Obeys (errands operation) Drew (openFailure session channel sock reason fallback) {} := by
  refine errands_aside operation Drew _ _ _ (makes_ask _ _ _ rfl fun _ => makes_pure _ _) fun error => ?_
  refine errands_aside operation Drew _ _ _ ?_ fun _ => drew_error error
  cases channel <;> cases reason <;> simp [cleanupOpenFailure, ask, Program.ask]

theorem openShell_drew (session sock : Nat) : Obeys (errands operation) Drew (openShell session sock) {} := by
  refine errands_ask operation Drew _ _ _ rfl fun reply => ?_
  cases reply with
  | none => exact openFailure_drew operation _ _ _ _ _
  | some number =>
      refine errands_ask operation Drew _ _ _ rfl fun pty => ?_
      by_cases refused : pty ≠ 0
      · rw [if_pos refused]
        exact openFailure_drew operation _ _ _ _ _
      rw [if_neg refused]
      refine errands_ask operation Drew _ _ _ rfl fun shell => ?_
      by_cases refused : shell ≠ 0
      · rw [if_pos refused]
        exact openFailure_drew operation _ _ _ _ _
      rw [if_neg refused]
      refine errands_ask operation Drew _ _ _ rfl fun _ => ⟨trivial, fun sessionId drawn => ?_⟩
      refine errands_ask operation Drew _ _ _ rfl fun _ => ⟨rfl, fun other same => ?_⟩
      exact Except.ok.inj same ▸ drawn

theorem openSessionInternal_drew (host : Bytes) (port : Int) (user pass : Bytes) :
    Obeys (errands operation) Drew (openSessionInternal host port user pass) {} := by
  unfold openSessionInternal
  by_cases noHost : host.isEmpty = true
  · rw [if_pos noHost]
    exact drew_error _
  rw [if_neg noHost]
  by_cases noUser : user.isEmpty = true
  · rw [if_pos noUser]
    exact drew_error _
  rw [if_neg noUser]
  refine errands_aside operation Drew _ _ _ (connectTcpSocket_aside host port) fun socket => ?_
  cases socket with
  | error error => exact drew_error error
  | ok sock =>
  refine errands_aside operation Drew _ _ _ ensureLibssh2Initialized_aside fun ready => ?_
  cases ready with
  | error error => exact errands_ask operation Drew _ _ _ rfl fun _ => drew_error error
  | ok _ =>
  refine errands_ask operation Drew _ _ _ rfl fun reply => ?_
  cases reply with
  | none => exact errands_ask operation Drew _ _ _ rfl fun _ => drew_error _
  | some session =>
      refine errands_ask operation Drew _ _ _ rfl fun _ => errands_ask operation Drew _ _ _ rfl fun handshake => ?_
      by_cases failed : handshake ≠ 0
      · rw [if_pos failed]
        exact openFailure_drew operation _ _ _ _ _
      rw [if_neg failed]
      refine errands_aside operation Drew _ _ _ ?_ fun configured => ?_
      · exact makes_lock _ _ _ rfl rfl (makes_ask _ _ _ rfl fun _ => makes_pure _ _)
      refine errands_ask operation Drew _ _ _ rfl fun _ => errands_ask operation Drew _ _ _ rfl fun auth => ?_
      by_cases failed : auth ≠ 0
      · rw [if_pos failed]
        exact openFailure_drew operation _ _ _ _ _
      rw [if_neg failed]
      exact openShell_drew operation session sock

end

theorem aside_delivers (operation : Operation) (aside : Aside operation.program) (plain : operation.closes = none)
    (keeps : ∀ result, operation.keeps result = []) :
    Obeys (errands operation) operation.Delivers operation.program {} := by
  refine obeys_mono (errands operation) _ _ ?_ _ _ (aside_errands operation operation.program aside {})
  rintro result _ rfl
  refine ⟨by rw [keeps]; rfl, fun closing => ?_⟩
  rw [plain] at closing
  cases closing

theorem openSession_delivers (host : Bytes) (port : Int) (user pass : Bytes) :
    Obeys (errands (.openSession host port user pass)) (Operation.openSession host port user pass).Delivers
      (openSession host port user pass) {} := by
  refine obeys_bind (errands _) _ _ _ _ (obeys_mono (errands _) _ _ ?_ _ _ (openSessionInternal_drew _ host port user pass))
  rintro (error | sessionId) _ ⟨rfl, positive⟩
  · exact ⟨rfl, fun closing => by cases closing⟩
  · have valid : ¬ sessionId ≤ 0 := Int.not_le.mpr (positive sessionId rfl)
    simp only [valid, if_false]
    exact ⟨rfl, fun closing => by cases closing⟩

theorem executeOpenSessionAsync_delivers (data : OpenSessionAsyncData) :
    Obeys (errands (.executeOpenSessionAsync data)) (Operation.executeOpenSessionAsync data).Delivers
      (executeOpenSessionAsync data) {} := by
  refine obeys_bind (errands _) _ _ _ _
    (obeys_mono (errands _) _ _ ?_ _ _ (openSessionInternal_drew _ data.host data.port data.user data.pass))
  rintro (error | sessionId) _ ⟨rfl, positive⟩
  · exact ⟨rfl, fun closing => by cases closing⟩
  · have valid : ¬ sessionId = -1 := fun same => absurd (same ▸ positive sessionId rfl) (by decide)
    refine ⟨?_, fun closing => by cases closing⟩
    rw [Operation.keeps, if_neg valid]
    rfl

theorem closeSession_delivers (sessionId : Int) :
    Obeys (errands (.closeSession sessionId)) (Operation.closeSession sessionId).Delivers (closeSession sessionId) {} := by
  refine errands_ask _ _ _ _ _ rfl fun _ => ?_
  refine ⟨⟨rfl, rfl⟩, fun found _ => ?_⟩
  cases found with
  | none => exact errands_ask _ _ _ _ _ rfl fun _ => ⟨rfl, fun _ => rfl⟩
  | some entry =>
      refine errands_ask _ _ _ _ _ rfl fun _ => errands_ask _ _ _ _ _ rfl fun _ => errands_ask _ _ _ _ _ rfl fun _ => ?_
      refine errands_ask _ _ _ _ _ rfl fun _ => ⟨rfl, fun _ _ => ?_⟩
      exact errands_ask _ _ _ _ _ rfl fun _ => ⟨rfl, fun _ => rfl⟩

theorem openSessionAsync_delivers (host : Bytes) (port : Int) (user pass : Bytes) :
    Obeys (errands (.openSessionAsync host port user pass)) (Operation.openSessionAsync host port user pass).Delivers
      (openSessionAsync host port user pass) {} := by
  have done : ∀ deferred, Operation.Delivers (.openSessionAsync host port user pass) (.promise deferred) {} :=
    fun deferred => ⟨rfl, fun closing => by cases closing⟩
  refine errands_ask _ _ _ _ _ rfl fun deferred => errands_ask _ _ _ _ _ rfl fun created => ?_
  cases created with
  | false => exact ⟨fun valid => absurd rfl valid, fun _ _ => done deferred⟩
  | true =>
      refine errands_ask _ _ _ _ _ rfl fun queued => ?_
      cases queued with
      | false => exact errands_ask _ _ _ _ _ rfl fun _ => ⟨fun valid => absurd rfl valid, fun _ _ => done deferred⟩
      | true => exact done deferred

theorem completeOpenSessionAsync_delivers (statusOk : Bool) (data : OpenSessionAsyncData) (sessionId : Int) :
    Obeys (errands (.completeOpenSessionAsync statusOk data sessionId))
      (Operation.completeOpenSessionAsync statusOk data sessionId).Delivers
      (completeOpenSessionAsync statusOk data sessionId)
      { drawn := ticketsOf (Operation.completeOpenSessionAsync statusOk data sessionId).start.held } := by
  cases statusOk with
  | false => exact ⟨fun valid => absurd rfl valid, fun _ _ => errands_ask _ _ _ _ _ rfl fun _ => ⟨rfl, fun closing => by cases closing⟩⟩
  | true =>
      by_cases failed : sessionId = -1
      · subst failed
        exact ⟨fun valid => absurd rfl valid, fun _ _ => errands_ask _ _ _ _ _ rfl fun _ => ⟨rfl, fun closing => by cases closing⟩⟩
      · have carried : ticketsOf (Operation.completeOpenSessionAsync true data sessionId).start.held = [sessionId] := by
          rw [Operation.start, if_pos ⟨rfl, failed⟩]
          rfl
        rw [carried]
        refine ⟨fun _ => rfl, fun _ _ => errands_ask _ _ _ _ _ rfl fun _ => ⟨?_, fun closing => by cases closing⟩⟩
        simp [failed, ticketsOf]

theorem found_aside (sessionId : Int) (missing : Result) (found : KesshSession → Routine Result)
    (aside : ∀ entry, Aside (found entry)) :
    Aside (withLock .session do
      match ← ask (.findSession sessionId .use) with
      | none => return missing
      | some entry => found entry) := by
  refine makes_lock _ _ _ rfl rfl (makes_ask _ _ _ rfl fun reply => ?_)
  cases reply with
  | none => exact makes_pure _ _
  | some entry => exact aside entry

theorem sendKeepalive_aside (sessionId : Int) : Aside (sendKeepalive sessionId) := by
  refine makes_seq _ _ _ (makes_lock _ _ _ rfl rfl (makes_ask _ _ _ rfl fun found => ?_)) fun _ => makes_pure _ _
  cases found with
  | none => exact makes_pure _ _
  | some entry =>
      refine makes_ask _ _ _ rfl fun rc => makes_ite _ _ _ _ ?_ ?_
      · exact makes_ask _ _ _ rfl fun _ => makes_pure _ _
      · exact makes_ask _ _ _ rfl fun _ => makes_pure _ _

theorem executeCommand_aside (sessionId : Int) (command : Bytes) : Aside (executeCommand sessionId command) := by
  refine found_aside sessionId _ _ fun entry => makes_ask _ _ _ rfl fun opened => ?_
  cases opened with
  | none => exact makes_ask _ _ _ rfl fun _ => makes_pure _ _
  | some number =>
      refine makes_ask _ _ _ rfl fun rc => makes_ite _ _ _ _ ?_ ?_
      · exact makes_ask _ _ _ rfl fun _ => makes_ask _ _ _ rfl fun _ => makes_pure _ _
      · refine makes_seq _ _ _ (makes_drain _ _ _ _ rfl) fun _ => makes_seq _ _ _ (makes_drain _ _ _ _ rfl) fun _ => ?_
        exact makes_ask _ _ _ rfl fun _ => makes_ask _ _ _ rfl fun _ => makes_pure _ _

theorem withCommand_aside (sessionId : Int) (remotePath : Bytes) (line : Bytes → Bytes) (rest : Channel → Routine Result)
    (aside : ∀ channel, Aside (rest channel)) : Aside (withCommand sessionId remotePath line rest) := by
  refine found_aside sessionId _ _ fun entry => ?_
  split
  · exact makes_pure _ _
  refine makes_ask _ _ _ rfl fun opened => ?_
  cases opened with
  | none => exact makes_pure _ _
  | some number =>
      exact makes_ask _ _ _ rfl fun rc => makes_ite _ _ _ _ (makes_ask _ _ _ rfl fun _ => makes_pure _ _) (aside _)

theorem readText_aside (channel : Channel) : Aside (readText channel) := by
  refine makes_seq _ _ _ (makes_drain _ _ _ _ rfl) fun _ => ?_
  exact makes_ask _ _ _ rfl fun _ => makes_ask _ _ _ rfl fun _ => makes_pure _ _

theorem writeContent_aside (content : Bytes) (channel : Channel) : Aside (writeContent content channel) := by
  refine makes_seq _ _ _ (makes_writeAll _ _ _ fun _ => rfl) fun written => ?_
  cases written with
  | none => exact makes_ask _ _ _ rfl fun _ => makes_pure _ _
  | some total =>
      refine makes_ask _ _ _ rfl fun _ => ?_
      exact makes_ask _ _ _ rfl fun _ => makes_ask _ _ _ rfl fun _ => makes_pure _ _

theorem operation_delivers (operation : Operation) :
    Obeys (errands operation) operation.Delivers operation.program { drawn := ticketsOf operation.start.held } := by
  cases operation with
  | openSession host port user pass => exact openSession_delivers host port user pass
  | openSessionAsync host port user pass => exact openSessionAsync_delivers host port user pass
  | executeOpenSessionAsync data => exact executeOpenSessionAsync_delivers data
  | completeOpenSessionAsync statusOk data sessionId => exact completeOpenSessionAsync_delivers statusOk data sessionId
  | closeSession sessionId => exact closeSession_delivers sessionId
  | setKeepaliveConfig interval attempts =>
      refine aside_delivers _ (makes_seq _ _ _ ?_ fun _ => makes_pure _ _) rfl fun _ => rfl
      exact makes_lock _ _ _ rfl rfl (makes_ask _ _ _ rfl fun _ => makes_pure _ _)
  | sendKeepalive sessionId => exact aside_delivers _ (sendKeepalive_aside sessionId) rfl fun _ => rfl
  | write sessionId data =>
      exact aside_delivers _ (found_aside sessionId _ _ fun entry => makes_ask _ _ _ rfl fun _ => makes_pure _ _) rfl
        fun _ => rfl
  | read sessionId =>
      refine aside_delivers _ (found_aside sessionId _ _ fun entry => makes_ask _ _ _ rfl fun _ => ?_) rfl fun _ => rfl
      exact makes_seq _ _ _ (makes_drain _ _ _ _ rfl) fun _ => makes_pure _ _
  | executeCommand sessionId command => exact aside_delivers _ (executeCommand_aside sessionId command) rfl fun _ => rfl
  | downloadFile sessionId remotePath =>
      exact aside_delivers _ (withCommand_aside sessionId remotePath downloadCommand readText readText_aside) rfl fun _ => rfl
  | uploadFile sessionId remotePath content =>
      exact aside_delivers _ (withCommand_aside sessionId remotePath uploadCommand (writeContent content)
        (writeContent_aside content)) rfl fun _ => rfl

@[simp] theorem ticketsOf_nil : ticketsOf [] = [] := rfl

@[simp] theorem ticketsOf_append (left right : List Handle) : ticketsOf (left ++ right) = ticketsOf left ++ ticketsOf right :=
  List.filterMap_append

theorem ticketsOf_cons (handle : Handle) (rest : List Handle) :
    ticketsOf (handle :: rest) = handle.ticketOf.toList ++ ticketsOf rest := by
  cases handle <;> rfl

theorem ticketsOf_filter (keep : Handle → Bool) (held : List Handle) :
    ticketsOf (held.filter keep) = (ticketsOf held).filter fun sessionId => keep (.ticket sessionId) := by
  induction held with
  | nil => rfl
  | cons handle rest ih =>
      rw [ticketsOf_cons, List.filter_append, ← ih, List.filter_cons]
      cases handle with
      | ticket sessionId => by_cases kept : keep (.ticket sessionId) = true <;> simp [kept, ticketsOf_cons, Handle.ticketOf]
      | _ => split <;> simp [ticketsOf_cons, Handle.ticketOf]

theorem ticketsOf_kept (keep : Handle → Bool) (held : List Handle) (all : ∀ sessionId, keep (.ticket sessionId) = true) :
    ticketsOf (held.filter keep) = ticketsOf held := by
  rw [ticketsOf_filter]
  exact List.filter_eq_self.mpr fun sessionId _ => all sessionId

theorem gains_ticketless (call : Call) (reply : Reply call) : ticketsOf (gains call reply) = [] := by
  refine List.filterMap_eq_nil_iff.mpr fun handle member => ?_
  cases handle with
  | ticket sessionId => exact (gains_no_ticket call reply sessionId member).elim
  | _ => rfl

theorem entry_ticketless (entry : KesshSession) (sessionId : Int) : .ticket sessionId ∉ entry.handles := by
  simp [KesshSession.handles]

theorem frees_ticket (call : Call) (reply : Reply call) (sessionId : Int) (quiet : call.resolves = []) :
    frees call reply (.ticket sessionId) = false := by
  cases call with
  | resolveDeferred deferred value => cases quiet
  | _ => simp [Handle.within]

theorem after_ticketsOf (c : Custody) (call : Call) (reply : Reply call) (quiet : call.resolves = [])
    (other : ∀ entry, call ≠ .insertSession entry) : ticketsOf (c.after call reply).held = ticketsOf c.held := by
  cases plain : call.plain reply with
  | true =>
      rw [after_plain c call reply plain, ticketsOf_append, gains_ticketless, List.nil_append]
      exact ticketsOf_kept _ _ fun sessionId => by rw [frees_ticket call reply sessionId quiet, Bool.not_false]
  | false =>
      cases call with
      | insertSession entry => exact (other entry rfl).elim
      | findSession sessionId purpose =>
          cases reply with
          | none => cases plain
          | some entry => cases purpose <;> simp [KesshSession.handles, ticketsOf_cons, Handle.ticketOf]
      | queueAsyncWork data =>
          cases reply with
          | false => cases plain
          | true => exact ticketsOf_kept _ _ fun sessionId => rfl
      | lock mutex => cases mutex <;> first | rfl | cases plain
      | unlock mutex => cases mutex <;> first | rfl | cases plain
      | _ => first | rfl | cases plain

theorem after_drawn (c : Custody) (gone : Bool) (call : Call) (reply : Reply call) :
    ticketsOf (c.after call reply).held = (Errand.after { drawn := ticketsOf c.held, gone } call reply).drawn := by
  cases call with
  | insertSession entry =>
      refine (ticketsOf_cons _ _).trans (congrArg (reply :: ·) (ticketsOf_kept _ _ fun sessionId => ?_))
      simpa using entry_ticketless entry sessionId
  | resolveDeferred deferred value =>
      have custody := after_plain c (.resolveDeferred deferred value) reply rfl
      rw [custody, ticketsOf_append, gains_ticketless, List.nil_append, ticketsOf_filter]
      refine List.filter_congr fun sessionId _ => ?_
      have promise : (Handle.ticket sessionId == .promise deferred) = false := rfl
      have ticket : (Handle.ticket sessionId == .ticket value) = (sessionId == value) :=
        decide_eq_decide.mpr ⟨Handle.ticket.inj, congrArg _⟩
      simp only [frees, promise, ticket, Bool.false_or]
  | findSession sessionId purpose => cases purpose <;> cases reply <;> exact after_ticketsOf c _ _ rfl fun _ other => by cases other
  | _ => exact after_ticketsOf c _ _ rfl fun _ other => by cases other

end Kessh.Native
