import Kessh.Native.Traces

set_option autoImplicit false

-- What UploadFile hands to libssh2_channel_write, whatever the results.
namespace Kessh.Native

open Utf8 (Bytes)
open Interaction

def Fits (event : Exchange) : Prop :=
  match event with
  | ⟨.channelWrite _ buffer, written⟩ => (written : Int) ≤ buffer.length
  | _ => True

def acceptedBytes (history : List Exchange) : Bytes := history.flatMap accepted

def Started (history : List Exchange) : Prop :=
  ∃ channel line, (⟨.channelExec channel line, (0 : Int)⟩ : Exchange) ∈ history

@[simp] def Call.closing : Call → Bool
  | .channelWrite _ _ => false
  | .channelExec _ _ => false
  | _ => true

def Closing (program : Routine Result) : Prop := Makes (fun call => call.closing = true) program

def writeFailed : Result := .thrown (bytes "Failed to write file content")

def FailedWrite : Exchange → Prop
  | ⟨.channelWrite _ _, written⟩ => (written : Int) ≤ 0 ∧ written ≠ LIBSSH2_ERROR_EAGAIN
  | _ => False

-- There is nothing left to write, or no way to.
def Exhausted (content : Bytes) (history : List Exchange) : Prop :=
  acceptedBytes history = content ∨ ∃ event ∈ history, FailedWrite event

structure WriteAnswered (history : List Exchange) (next : Routine Result) : Prop where
  again : ∀ channel buffer, history.getLast? = some ⟨.channelWrite channel buffer, LIBSSH2_ERROR_EAGAIN⟩ →
    pending next = some (.channelWrite channel buffer)
  failed : ∀ channel buffer (written : Int), history.getLast? = some ⟨.channelWrite channel buffer, written⟩ →
    written ≤ 0 → written ≠ LIBSSH2_ERROR_EAGAIN →
      pending next = some (.channelFree channel) ∧ Closing next ∧ Ends writeFailed next

/-- A point of a run of UploadFile: the events so far, and what is left of the program. -/
structure Uploading (content : Bytes) (history : List Exchange) (next : Routine Result) : Prop where
  offered : ∀ channel buffer, pending next = some (.channelWrite channel buffer) →
    buffer = content.drop (acceptedBytes history).length ∧ (acceptedBytes history).length < content.length
  continues : ∀ channel line, (⟨.channelExec channel line, (0 : Int)⟩ : Exchange) ∈ history → ¬ Exhausted content history →
    pending next = some (.channelWrite channel (content.drop (acceptedBytes history).length))
  answered : WriteAnswered history next
  complete : Started history → acceptedBytes history = content → Ends (.int32 content.length) next
  returned : ∀ result, next = .done result → (∀ message, result ≠ .thrown message) →
    Started history ∧ acceptedBytes history = content ∧ result = .int32 content.length
  ordered : acceptedBytes history <+: content

theorem acceptedBytes_append (history : List Exchange) (event : Exchange) :
    acceptedBytes (history ++ [event]) = acceptedBytes history ++ accepted event := by
  simp [acceptedBytes]

theorem other_accepted (event : Exchange) (other : ∀ channel buffer, event.request ≠ .channelWrite channel buffer) :
    accepted event = [] := by
  obtain ⟨request, reply⟩ := event
  cases request <;> first | rfl | exact absurd rfl (other _ _)

def Idle (event : Exchange) : Prop := ∀ channel line, event ≠ ⟨.channelExec channel line, (0 : Int)⟩

theorem closing_idle (event : Exchange) (closing : event.request.closing = true) : Idle event := by
  rintro channel line rfl
  cases closing

theorem started_append (history : List Exchange) (event : Exchange) (idle : Idle event) :
    Started (history ++ [event]) ↔ Started history := by
  constructor
  · rintro ⟨channel, line, member⟩
    rcases List.mem_append.mp member with before | last
    · exact ⟨channel, line, before⟩
    · exact absurd (List.mem_singleton.mp last).symm (idle channel line)
  · rintro ⟨channel, line, member⟩
    exact ⟨channel, line, List.mem_append_left _ member⟩

theorem last_request (history : List Exchange) (event : Exchange) (channel : Channel) (buffer : Bytes) (written : Int)
    (last : (history ++ [event]).getLast? = some ⟨.channelWrite channel buffer, written⟩) :
    event.request = .channelWrite channel buffer := by
  rw [List.getLast?_concat] at last
  exact congrArg Event.request (Option.some.inj last)

theorem answered_none (history : List Exchange) (next : Routine Result)
    (last : ∀ channel buffer written, history.getLast? ≠ some ⟨.channelWrite channel buffer, written⟩) :
    WriteAnswered history next where
  again := fun channel buffer here => absurd here (last channel buffer _)
  failed := fun channel buffer written here => absurd here (last channel buffer written)

theorem answered_other (history : List Exchange) (event : Exchange) (next : Routine Result)
    (other : ∀ channel buffer, event.request ≠ .channelWrite channel buffer) :
    WriteAnswered (history ++ [event]) next :=
  answered_none _ _ fun channel buffer written last => other channel buffer (last_request history event channel buffer written last)

theorem uploading_call (content : Bytes) (history : List Exchange) (request : Call) (proceed : Reply request → Routine Result)
    (other : ∀ channel buffer, request ≠ .channelWrite channel buffer)
    (answered : WriteAnswered history (.call request proceed))
    (complete : Started history → acceptedBytes history = content → Ends (.int32 content.length) (.call request proceed))
    (exhausted : Started history → Exhausted content history) (ordered : acceptedBytes history <+: content) :
    Uploading content history (.call request proceed) where
  offered := fun channel buffer waits => absurd (Option.some.inj waits) (other channel buffer)
  continues := fun channel line member left => absurd (exhausted ⟨channel, line, member⟩) left
  answered := answered
  complete := complete
  returned := fun _ done => by cases done
  ordered := ordered

theorem closing_other (request : Call) (closing : request.closing = true) (channel : Channel) (buffer : Bytes) :
    request ≠ .channelWrite channel buffer := by
  rintro rfl
  cases closing

theorem exhausted_more (content : Bytes) (history : List Exchange) (event : Exchange) (none : accepted event = [])
    (exhausted : Exhausted content history) : Exhausted content (history ++ [event]) := by
  rcases exhausted with all | ⟨failed, member, stuck⟩
  · exact .inl (by rw [acceptedBytes_append, none, List.append_nil, all])
  · exact .inr ⟨failed, List.mem_append_left _ member, stuck⟩

theorem uploading_ends (content : Bytes) (value : Result) (program : Routine Result) (ends : Ends value program)
    (closing : Closing program) (history : List Exchange) (answered : WriteAnswered history program)
    (complete : Started history → acceptedBytes history = content → value = .int32 content.length)
    (returned : (∀ message, value ≠ .thrown message) →
      Started history ∧ acceptedBytes history = content ∧ value = .int32 content.length)
    (exhausted : Started history → Exhausted content history) (ordered : acceptedBytes history <+: content) :
    Throughout Fits (Uploading content) history program := by
  induction ends generalizing history with
  | done =>
      refine throughout_done Fits _ history value ⟨?_, ?_, answered, ?_, ?_, ordered⟩
      · rintro _ _ ⟨⟩
      · exact fun channel line member left => absurd (exhausted ⟨channel, line, member⟩) left
      · intro started all
        rw [complete started all]
        exact .done
      · rintro _ ⟨⟩
        exact returned
  | call request proceed later ih =>
      obtain ⟨here, rest⟩ := (makes_call _ _ _).mp closing
      refine throughout_call Fits _ history request proceed ?_ fun reply _ => ?_
      · refine uploading_call content history request proceed (closing_other request here) answered ?_ exhausted ordered
        intro started all
        rw [← complete started all]
        exact .call request proceed later
      · have none := other_accepted ⟨request, reply⟩ (closing_other request here)
        have same : acceptedBytes (history ++ [⟨request, reply⟩]) = acceptedBytes history := by
          rw [acceptedBytes_append, none, List.append_nil]
        have before := started_append history ⟨request, reply⟩ (closing_idle _ here)
        rw [← same, ← before] at complete returned
        rw [← same] at ordered
        refine ih reply (rest reply) _ (answered_other _ _ _ (closing_other request here)) complete returned ?_ ordered
        exact fun started => exhausted_more content history ⟨request, reply⟩ none (exhausted (before.mp started))

theorem started_more (history : List Exchange) (event : Exchange) (started : Started history) :
    Started (history ++ [event]) := by
  obtain ⟨channel, line, member⟩ := started
  exact ⟨channel, line, List.mem_append_left _ member⟩

theorem accepted_more (content : Bytes) (total : Nat) (channel : Channel) (written : Int) (history : List Exchange)
    (taken : acceptedBytes history = content.take total) :
    acceptedBytes (history ++ [⟨.channelWrite channel (content.drop total), written⟩]) =
      content.take (total + written.toNat) := by
  rw [acceptedBytes_append, taken, List.take_add]
  rfl

-- In the loop of writes: it has accepted so many bytes, in order, and offers the others.
structure Writing (content : Bytes) (channel : Channel) (totalWritten : Nat) (history : List Exchange) : Prop where
  started : Started history
  only : ∀ other line, (⟨.channelExec other line, (0 : Int)⟩ : Exchange) ∈ history → other = channel
  taken : acceptedBytes history = content.take totalWritten
  short : totalWritten < content.length
  last : ∀ same buffer (written : Int), history.getLast? = some ⟨.channelWrite same buffer, written⟩ →
    same = channel ∧ (0 < written ∨ written = LIBSSH2_ERROR_EAGAIN ∧ buffer = content.drop totalWritten)

theorem writing_uploading (content : Bytes) (channel : Channel) (totalWritten : Nat) (history : List Exchange)
    (writing : Writing content channel totalWritten history) (next : Routine Result)
    (waits : pending next = some (.channelWrite channel (content.drop totalWritten))) : Uploading content history next := by
  have length : (acceptedBytes history).length = totalWritten := by
    have short := writing.short
    rw [writing.taken, List.length_take]
    omega
  refine ⟨?_, ?_, ⟨?_, ?_⟩, ?_, ?_, ?_⟩
  · intro other buffer offers
    obtain ⟨⟨⟩⟩ := waits.symm.trans offers
    rw [length]
    exact ⟨rfl, writing.short⟩
  · intro other line member _
    rw [writing.only other line member, length]
    exact waits
  · intro same buffer here
    obtain ⟨rfl, progress | ⟨_, rfl⟩⟩ := writing.last same buffer _ here
    · exact absurd progress (by decide)
    · exact waits
  · intro same buffer written here stuck other
    obtain ⟨_, progress | ⟨eagain, _⟩⟩ := writing.last same buffer written here
    · exact absurd progress (Int.not_lt.mpr stuck)
    · exact absurd eagain other
  · intro _ all
    rw [all] at length
    exact absurd length.symm writing.short.ne
  · rintro _ rfl
    cases waits
  · rw [writing.taken]
    exact List.take_prefix _ _

theorem last_write (history : List Exchange) (channel same : Channel) (buffer other : Bytes) (written result : Int)
    (here : (history ++ [(⟨.channelWrite channel buffer, written⟩ : Exchange)]).getLast? =
      some ⟨.channelWrite same other, result⟩) :
    same = channel ∧ other = buffer ∧ result = written := by
  rw [List.getLast?_concat] at here
  simp only [Option.some.injEq, Event.mk.injEq, Call.channelWrite.injEq] at here
  obtain ⟨⟨rfl, rfl⟩, equal⟩ := here
  exact ⟨rfl, rfl, (eq_of_heq equal).symm⟩

theorem writing_again (content : Bytes) (channel : Channel) (totalWritten : Nat) (history : List Exchange)
    (writing : Writing content channel totalWritten history) (written : Int) (following : Nat)
    (short : following < content.length) (count : totalWritten + written.toNat = following)
    (good : 0 < written ∨ written = LIBSSH2_ERROR_EAGAIN) :
    Writing content channel following (history ++ [⟨.channelWrite channel (content.drop totalWritten), written⟩]) where
  started := started_more _ _ writing.started
  only := fun other line member => by
    rcases List.mem_append.mp member with before | last
    · exact writing.only other line before
    · cases List.mem_singleton.mp last
  taken := count ▸ accepted_more content totalWritten channel written history writing.taken
  short := short
  last := by
    intro same buffer other here
    obtain ⟨rfl, rfl, rfl⟩ := last_write history channel same _ buffer written other here
    refine ⟨rfl, good.imp_right fun eagain => ⟨eagain, ?_⟩⟩
    subst eagain
    exact congrArg content.drop count

theorem writing_whole (content : Bytes) (channel : Channel) (totalWritten : Nat) (history : List Exchange)
    (writing : Writing content channel totalWritten history) (written : Int)
    (fits : written ≤ (content.drop totalWritten).length) (enough : ¬ totalWritten + written.toNat < content.length) :
    totalWritten + written.toNat = content.length := by
  have short := writing.short
  rw [List.length_drop] at fits
  omega

structure Leaving (content : Bytes) (channel : Channel) (rest : Option Nat → Routine Result) : Prop where
  failed : Ends writeFailed (rest none) ∧ Closing (rest none) ∧ pending (rest none) = some (.channelFree channel)
  written : Ends (.int32 content.length) (rest (some content.length)) ∧ Closing (rest (some content.length))

theorem uploading_written (content : Bytes) (channel : Channel) (rest : Option Nat → Routine Result)
    (leaving : Leaving content channel rest) (history : List Exchange) (started : Started history)
    (all : acceptedBytes history = content) (answered : WriteAnswered history (rest (some content.length))) :
    Throughout Fits (Uploading content) history (rest (some content.length)) := by
  obtain ⟨ends, closing⟩ := leaving.written
  exact uploading_ends content _ _ ends closing history answered (fun _ _ => rfl) (fun _ => ⟨started, all, rfl⟩)
    (fun _ => .inl all) (all ▸ List.prefix_rfl)

theorem uploading_failed (content : Bytes) (channel : Channel) (rest : Option Nat → Routine Result)
    (leaving : Leaving content channel rest) (totalWritten : Nat) (history : List Exchange)
    (writing : Writing content channel totalWritten history) (written : Int) (stuck : written ≤ 0)
    (other : written ≠ LIBSSH2_ERROR_EAGAIN) :
    Throughout Fits (Uploading content)
      (history ++ [⟨.channelWrite channel (content.drop totalWritten), written⟩]) (rest none) := by
  obtain ⟨ends, closing, frees⟩ := leaving.failed
  have taken := accepted_more content totalWritten channel written history writing.taken
  rw [Int.toNat_eq_zero.mpr stuck, Nat.add_zero] at taken
  refine uploading_ends content writeFailed _ ends closing _ ⟨?_, ?_⟩ ?_ ?_ ?_ ?_
  · intro same buffer here
    obtain ⟨_, _, eagain⟩ := last_write _ _ _ _ _ _ _ here
    exact absurd eagain.symm other
  · intro same buffer result here _ _
    obtain ⟨rfl, _, _⟩ := last_write _ _ _ _ _ _ _ here
    exact ⟨frees, closing, ends⟩
  · intro _ all
    have short := writing.short
    have length := congrArg List.length (taken.symm.trans all)
    rw [List.length_take] at length
    omega
  · intro returns
    exact absurd rfl (returns _)
  · exact fun _ => .inr ⟨_, List.mem_append_right _ (List.mem_singleton_self _), stuck, other⟩
  · rw [taken]
    exact List.take_prefix _ _

theorem writing_leaves (content : Bytes) (channel : Channel) (rest : Option Nat → Routine Result)
    (leaving : Leaving content channel rest) (totalWritten : Nat) (history : List Exchange)
    (writing : Writing content channel totalWritten history) (written : Int)
    (fits : written ≤ (content.drop totalWritten).length)
    (leaves : (if written > 0 then
        if totalWritten + written.toNat < content.length then some (totalWritten + written.toNat) else none
      else if written = LIBSSH2_ERROR_EAGAIN then some totalWritten else none) = none) :
    Throughout Fits (Uploading content) (history ++ [⟨.channelWrite channel (content.drop totalWritten), written⟩])
      (rest (if written > 0 then some (totalWritten + written.toNat) else none)) := by
  by_cases progress : written > 0
  · rw [if_pos progress] at leaves ⊢
    have enough : ¬ totalWritten + written.toNat < content.length := fun short => by
      rw [if_pos short] at leaves
      cases leaves
    have whole := writing_whole content channel totalWritten history writing written fits enough
    have all := accepted_more content totalWritten channel written history writing.taken
    rw [whole, List.take_length] at all
    rw [whole]
    refine uploading_written content channel rest leaving _ (started_more _ _ writing.started) all ⟨?_, ?_⟩
    · intro same buffer here
      obtain ⟨_, _, rfl⟩ := last_write _ _ _ _ _ _ _ here
      exact absurd progress (by decide)
    · intro same buffer result here stuck _
      obtain ⟨_, _, rfl⟩ := last_write _ _ _ _ _ _ _ here
      exact absurd progress (Int.not_lt.mpr stuck)
  · rw [if_neg progress] at leaves ⊢
    have other : written ≠ LIBSSH2_ERROR_EAGAIN := fun eagain => by
      rw [if_pos eagain] at leaves
      cases leaves
    exact uploading_failed content channel rest leaving totalWritten history writing written (Int.not_lt.mp progress) other

structure Preparing (history : List Exchange) : Prop where
  waiting : ¬ Started history
  nothing : acceptedBytes history = []
  last : ∀ channel buffer written, history.getLast? ≠ some ⟨.channelWrite channel buffer, written⟩

theorem preparing_more (history : List Exchange) (request : Call) (reply : Reply request) (idle : Idle ⟨request, reply⟩)
    (other : ∀ channel buffer, request ≠ .channelWrite channel buffer) (preparing : Preparing history) :
    Preparing (history ++ [⟨request, reply⟩]) where
  waiting := fun started => preparing.waiting ((started_append history ⟨request, reply⟩ idle).mp started)
  nothing := by rw [acceptedBytes_append, other_accepted ⟨request, reply⟩ other, preparing.nothing]; rfl
  last := by
    intro channel buffer written here
    exact other channel buffer (last_request history _ channel buffer written here)

theorem preparing_start : Preparing [] where
  waiting := by
    rintro ⟨channel, line, member⟩
    cases member
  nothing := rfl
  last := by
    intro channel buffer written here
    cases here

theorem uploading_writes (content : Bytes) (channel : Channel) (rest : Option Nat → Routine Result)
    (leaving : Leaving content channel rest) (line : Bytes) (history : List Exchange) (preparing : Preparing history) :
    Throughout Fits (Uploading content) (history ++ [⟨.channelExec channel line, (0 : Int)⟩])
      ((writeAll channel content).bind rest) := by
  have started : Started (history ++ [⟨.channelExec channel line, (0 : Int)⟩]) := ⟨channel, line, by simp⟩
  have nothing : acceptedBytes (history ++ [⟨.channelExec channel line, (0 : Int)⟩]) = [] := by
    rw [acceptedBytes_append, preparing.nothing]
    rfl
  have last : ∀ other buffer (written : Int),
      (history ++ [(⟨.channelExec channel line, (0 : Int)⟩ : Exchange)]).getLast? ≠
        some ⟨.channelWrite other buffer, written⟩ := fun other buffer written here => by
    cases last_request history _ other buffer written here
  unfold writeAll
  by_cases empty : content.length = 0
  · obtain rfl := List.length_eq_zero_iff.mp empty
    rw [if_pos empty]
    exact uploading_written [] channel rest leaving _ started nothing (answered_none _ _ last)
  rw [if_neg empty]
  refine throughout_loop Fits (Uploading content) (Writing content channel) _ _ _ ?_ ?_ ?_ 0 _ ?_
  · exact fun totalWritten history writing => writing_uploading content channel totalWritten history writing _ rfl
  · intro totalWritten history written following writing fits continues
    by_cases progress : written > 0
    · rw [if_pos progress] at continues
      obtain ⟨short, ⟨⟩⟩ := Option.ite_none_right_eq_some.mp continues
      exact writing_again content channel totalWritten history writing written _ short rfl (.inl progress)
    · rw [if_neg progress] at continues
      obtain ⟨eagain, ⟨⟩⟩ := Option.ite_none_right_eq_some.mp continues
      have none : totalWritten + written.toNat = totalWritten := by
        rw [Int.toNat_eq_zero.mpr (Int.not_lt.mp progress), Nat.add_zero]
      exact writing_again content channel totalWritten history writing written _ writing.short none (.inr eagain)
  · intro totalWritten history written writing fits leaves
    exact writing_leaves content channel rest leaving totalWritten history writing written fits leaves
  · refine ⟨started, ?_, by simpa using nothing, by omega, fun same buffer written here =>
      absurd here (last same buffer written)⟩
    intro other command member
    rcases List.mem_append.mp member with before | here
    · exact absurd ⟨other, command, before⟩ preparing.waiting
    · cases List.mem_singleton.mp here
      rfl

theorem uploading_refused (content : Bytes) (message : Bytes) (program : Routine Result)
    (ends : Ends (.thrown message) program) (closing : Closing program) (history : List Exchange)
    (preparing : Preparing history) : Throughout Fits (Uploading content) history program := by
  refine uploading_ends content _ program ends closing history (answered_none _ _ preparing.last) ?_ ?_ ?_ ?_
  · exact fun started => absurd started preparing.waiting
  · exact fun returns => absurd rfl (returns message)
  · exact fun started => absurd started preparing.waiting
  · rw [preparing.nothing]
    exact List.nil_prefix

theorem uploading_prepares (content : Bytes) (history : List Exchange) (request : Call)
    (proceed : Reply request → Routine Result) (other : ∀ channel buffer, request ≠ .channelWrite channel buffer)
    (preparing : Preparing history) : Uploading content history (.call request proceed) := by
  refine uploading_call content history request proceed other (answered_none _ _ preparing.last) ?_ ?_ ?_
  · exact fun started => absurd started preparing.waiting
  · exact fun started => absurd started preparing.waiting
  · rw [preparing.nothing]
    exact List.nil_prefix

theorem int32_length (content : Bytes) (short : content.length < 0x80000000) :
    Result.int32 (Int.bmod content.length 0x100000000) = .int32 content.length := by
  rw [Int.bmod_eq_of_le (by omega) (by omega)]

theorem uploadFile_uploading (sessionId : Int) (remotePath content : Bytes) (short : content.length < 0x80000000) :
    Throughout Fits (Uploading content) [] (uploadFile sessionId remotePath content) := by
  refine throughout_call Fits _ [] (.lock .session) _ (uploading_prepares _ _ _ _ (by simp) preparing_start) fun _ _ => ?_
  have locked := preparing_more [] (.lock .session) () (closing_idle _ rfl) (by simp) preparing_start
  refine throughout_call Fits _ _ (.findSession sessionId .use) _ (uploading_prepares _ _ _ _ (by simp) locked) fun found _ => ?_
  have asked := preparing_more _ (.findSession sessionId .use) found (closing_idle _ rfl) (by simp) locked
  cases found with
  | none => exact uploading_refused content _ _ (.call _ _ fun _ => .done) (by simp [Closing]) _ asked
  | some entry =>
      cases shellQuoteArg remotePath with
      | error quoteError => exact uploading_refused content _ _ (.call _ _ fun _ => .done) (by simp [Closing]) _ asked
      | ok quotedPath =>
          refine throughout_call Fits _ _ (.channelOpenSession entry.session) _
            (uploading_prepares _ _ _ _ (by simp) asked) fun opened _ => ?_
          have asked := preparing_more _ (.channelOpenSession entry.session) opened (closing_idle _ rfl) (by simp) asked
          cases opened with
          | none => exact uploading_refused content _ _ (.call _ _ fun _ => .done) (by simp [Closing]) _ asked
          | some number =>
              refine throughout_call Fits _ _ (.channelExec { session := entry.session, number }
                (cStr (uploadCommand quotedPath))) _ (uploading_prepares _ _ _ _ (by simp) asked) fun rc _ => ?_
              by_cases failed : rc ≠ (0 : Int)
              · have asked := preparing_more _ (.channelExec _ _) rc (fun channel line same => by cases same; exact failed rfl)
                  (by simp) asked
                simp only [Program.done_bind, if_pos failed]
                exact uploading_refused content _ _ (.call _ _ fun _ => .call _ _ fun _ => .done) (by simp [Closing]) _ asked
              · simp only [Program.done_bind, if_neg failed]
                obtain rfl := not_not.mp failed
                simp only [Program.bind_eq, Program.bind_assoc]
                refine uploading_writes content _ _ ⟨⟨?_, ?_, rfl⟩, ?_, ?_⟩ _ _ asked
                · exact .call _ _ fun _ => .call _ _ fun _ => .done
                · simp [Closing, ask]
                · rw [← int32_length content short]
                  exact .call _ _ fun _ => .call _ _ fun _ => .call _ _ fun _ => .call _ _ fun _ => .done
                · simp [Closing, ask]

-- Each write starts where the accepted bytes before it end.
def Consecutive (content : Bytes) (history : List Exchange) : Prop :=
  ∀ before channel buffer (written : Int) after, history = before ++ ⟨.channelWrite channel buffer, written⟩ :: after →
    buffer = content.drop (acceptedBytes before).length

/-- However the writes of an upload are answered, at every point of the run: the slices are
consecutive from the start of the content, until all bytes are accepted or a write fails the
rest is offered, what would block is offered again, a failed write is the last one and throws,
and the upload returns exactly when all bytes are accepted. -/
theorem upload_in_order (sessionId : Int) (remotePath content : Bytes) (short : content.length < 0x80000000)
    (history : List Exchange) (next : Routine Result) (fits : ∀ event ∈ history, Fits event)
    (run : history.foldlM resume (uploadFile sessionId remotePath content) = some next) :
    Consecutive content history ∧ Uploading content history next := by
  have every := uploadFile_uploading sessionId remotePath content short
  refine ⟨?_, every history next fits run⟩
  rintro before channel buffer written after rfl
  obtain ⟨point, reached, waits⟩ := run_point _ next before after _ run
  exact ((every before point (fun event member => fits event (List.mem_append_left _ member)) reached).offered
    channel buffer waits).1

def uploadEvents : List Exchange :=
  [⟨.lock .session, ()⟩, ⟨.findSession 1 .use, some (.opened 0 0 0)⟩, ⟨.channelOpenSession 0, some 1⟩,
    ⟨.channelExec ⟨0, 1⟩ (bytes "cat > 'f'"), (0 : Int)⟩, ⟨.channelWrite ⟨0, 1⟩ (bytes "abc"), (2 : Int)⟩,
    ⟨.channelWrite ⟨0, 1⟩ (bytes "c"), LIBSSH2_ERROR_EAGAIN⟩, ⟨.channelWrite ⟨0, 1⟩ (bytes "c"), (1 : Int)⟩,
    ⟨.channelSendEof ⟨0, 1⟩, (0 : Int)⟩, ⟨.channelClose ⟨0, 1⟩, (0 : Int)⟩, ⟨.channelFree ⟨0, 1⟩, (0 : Int)⟩,
    ⟨.unlock .session, ()⟩]

theorem upload_in_order_blocked :
    uploadEvents.foldlM resume (uploadFile 1 (bytes "f") (bytes "abc")) = some (.done (.int32 3)) ∧
      Consecutive (bytes "abc") uploadEvents ∧ Uploading (bytes "abc") uploadEvents (.done (.int32 3)) := by
  have run : uploadEvents.foldlM resume (uploadFile 1 (bytes "f") (bytes "abc")) = some (.done (.int32 3)) := rfl
  refine ⟨run, upload_in_order 1 (bytes "f") (bytes "abc") (by decide) uploadEvents _ ?_ run⟩
  simp only [uploadEvents, List.forall_mem_cons, List.not_mem_nil, false_imp_iff, implies_true, and_true, Fits]
  decide

end Kessh.Native
