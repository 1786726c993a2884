import Kessh.Native.Traces

set_option autoImplicit false

-- What reaches the shell of an open session through Write, and JavaScript through Read.
namespace Kessh.Native

open Utf8 (Bytes)
open Ecma (JsString utf8)
open Interaction

def OnChannel (sessionId : Int) (channel : Channel) (events : List Exchange) : Prop :=
  ∃ entry : KesshSession, entry.channel = channel ∧ ⟨.findSession sessionId .use, some entry⟩ ∈ events

structure WriteCall (sessionId : Int) (channel : Channel) where
  data : JsString
  events : List Exchange
  result : Result
  trace : Trace (write sessionId (utf8 data)) events result
  session : OnChannel sessionId channel events

def offer (event : Exchange) : Option (Bytes × Int) :=
  match event with
  | ⟨.channelWrite _ buffer, written⟩ => some (buffer, written)
  | _ => none

def WriteCall.offers {sessionId : Int} {channel : Channel} (call : WriteCall sessionId channel) : List (Bytes × Int) :=
  call.events.filterMap offer

-- What libssh2_channel_write does over successive calls: the buffer that has to be offered again,
-- the buffers offered with the results, and the bytes accepted. It takes some of the buffer (none
-- where the window is full), or it would block, or it fails. What a different buffer leads to
-- where one has to be offered again is left open.
inductive ChannelWrites : Option Bytes → List (Bytes × Int) → Bytes → Prop where
  | nil (pending : Option Bytes) : ChannelWrites pending [] []
  | accept (pending : Option Bytes) (buffer : Bytes) (written : Int) (rest : List (Bytes × Int)) (bytes : Bytes)
      (same : ∀ again ∈ pending, buffer = again) (range : 0 ≤ written ∧ written ≤ buffer.length ∧ written ≤ 32700)
      (later : ChannelWrites none rest bytes) :
      ChannelWrites pending ((buffer, written) :: rest) (buffer.take written.toNat ++ bytes)
  | again (pending : Option Bytes) (buffer : Bytes) (rest : List (Bytes × Int)) (bytes : Bytes)
      (same : ∀ again ∈ pending, buffer = again) (filled : buffer ≠ [])
      (later : ChannelWrites (some buffer) rest bytes) :
      ChannelWrites pending ((buffer, LIBSSH2_ERROR_EAGAIN) :: rest) bytes
  | fail (pending : Option Bytes) (buffer : Bytes) (written : Int) (rest : List (Bytes × Int)) (bytes : Bytes)
      (same : ∀ again ∈ pending, buffer = again) (failed : written < 0)
      (error : written = LIBSSH2_ERROR_EAGAIN → buffer = []) (later : ChannelWrites none rest bytes) :
      ChannelWrites pending ((buffer, written) :: rest) bytes
  | misuse (again buffer : Bytes) (written : Int) (rest : List (Bytes × Int)) (sent bytes : Bytes)
      (pending : Option Bytes) (other : buffer ≠ again) (later : ChannelWrites pending rest bytes) :
      ChannelWrites (some again) ((buffer, written) :: rest) (sent ++ bytes)

def Whole (offered : Bytes × Int) : Prop := offered.1 ≠ [] → offered.2 = offered.1.length

theorem writes_whole (pending : Option Bytes) (offered : List (Bytes × Int)) (bytes : Bytes)
    (writes : ChannelWrites pending offered bytes) (none : pending = none) (whole : ∀ offer ∈ offered, Whole offer) :
    bytes = offered.flatMap Prod.fst := by
  induction writes with
  | nil => rfl
  | accept pending buffer written rest bytes same range later ih =>
      rw [ih rfl fun offer member => whole offer (by simp [member])]
      by_cases empty : buffer = []
      · simp [empty]
      · have here : written = buffer.length := whole (buffer, written) (by simp) empty
        simp [here]
  | again pending buffer rest bytes same filled later =>
      have here := whole (buffer, LIBSSH2_ERROR_EAGAIN) (by simp) filled
      simp only [LIBSSH2_ERROR_EAGAIN] at here
      omega
  | fail pending buffer written rest bytes same failed error later ih =>
      rw [ih rfl fun offer member => whole offer (by simp [member])]
      by_cases empty : buffer = []
      · simp [empty]
      · have here : written = buffer.length := whole (buffer, written) (by simp) empty
        omega
  | misuse => cases none

-- Where something else than a whole buffer is taken, bytes are missing or arbitrary.
theorem writes_short (pending : Option Bytes) (offered : List (Bytes × Int)) (bytes : Bytes)
    (writes : ChannelWrites pending offered bytes) :
    (∃ other, ChannelWrites pending offered other ∧ other ≠ bytes) ∨
      (bytes.length ≤ (offered.flatMap Prod.fst).length ∧
        ((∃ offer ∈ offered, ¬ Whole offer) → bytes.length < (offered.flatMap Prod.fst).length)) := by
  induction writes with
  | nil => simp
  | accept pending buffer written rest bytes same range later ih =>
      rcases ih with ⟨other, possible, different⟩ | ⟨most, strict⟩
      · exact .inl ⟨_, .accept pending buffer written rest other same range possible, by simpa using different⟩
      · right
        have taken : (buffer.take written.toNat).length = written.toNat := by
          rw [List.length_take]
          omega
        simp only [List.flatMap_cons, List.length_append, taken, List.mem_cons, exists_eq_or_imp]
        refine ⟨by omega, ?_⟩
        rintro (short | later)
        · have other : written ≠ buffer.length := fun all => short fun _ => all
          omega
        · have fewer := strict later
          omega
  | again pending buffer rest bytes same filled later ih =>
      rcases ih with ⟨other, possible, different⟩ | ⟨most, _⟩
      · exact .inl ⟨_, .again pending buffer rest other same filled possible, different⟩
      · right
        have positive := List.length_pos_iff.mpr filled
        simp only [List.flatMap_cons, List.length_append]
        exact ⟨by omega, fun _ => by omega⟩
  | fail pending buffer written rest bytes same failed error later ih =>
      rcases ih with ⟨other, possible, different⟩ | ⟨most, strict⟩
      · exact .inl ⟨_, .fail pending buffer written rest other same failed error possible, different⟩
      · right
        simp only [List.flatMap_cons, List.length_append, List.mem_cons, exists_eq_or_imp]
        refine ⟨by omega, ?_⟩
        rintro (short | later)
        · have filled : buffer ≠ [] := fun empty => short fun nonempty => absurd empty nonempty
          have positive := List.length_pos_iff.mpr filled
          omega
        · have fewer := strict later
          omega
  | misuse again buffer written rest sent bytes pending other later =>
      refine .inl ⟨_, .misuse again buffer written rest (0 :: sent) bytes pending other later, fun same => ?_⟩
      have lengths := congrArg List.length same
      simp only [List.length_append, List.length_cons] at lengths
      omega

theorem write_offers {sessionId : Int} {channel : Channel} (call : WriteCall sessionId channel) :
    (∃ written, call.offers = [(utf8 call.data, written)]) ∧ call.result = .undefined := by
  obtain ⟨data, events, result, trace, session⟩ := call
  obtain ⟨inner, rfl, body⟩ := withLock_trace _ _ _ _ trace
  simp only [ask, Program.bind_eq, Program.ask_bind] at body
  obtain ⟨found, rest, rfl, answered⟩ := (trace_call _ _ _ _).mp body
  cases found with
  | none =>
      obtain ⟨rfl, rfl⟩ := (trace_done _ _ _).mp answered
      obtain ⟨entry, _, there⟩ := session
      simp at there
  | some other =>
      obtain ⟨written, last, rfl, ended⟩ := (trace_call _ _ _ _).mp answered
      obtain ⟨rfl, rfl⟩ := (trace_done _ _ _).mp ended
      exact ⟨⟨written, rfl⟩, rfl⟩

/-- The shell gets the bytes of all Write calls in order, or some call reports a failure,
exactly when each libssh2_channel_write takes all the bytes of its call at once. -/
theorem terminal_input_whole (sessionId : Int) (channel : Channel) (calls : List (WriteCall sessionId channel))
    (possible : ∃ bytes, ChannelWrites none (calls.flatMap WriteCall.offers) bytes) :
    (∀ bytes, ChannelWrites none (calls.flatMap WriteCall.offers) bytes →
        (∃ call ∈ calls, ∃ message, call.result = .thrown message) ∨
          bytes = calls.flatMap fun call => utf8 call.data) ↔
      ∀ call ∈ calls, ∀ offer ∈ call.offers, Whole offer := by
  have buffers : (calls.flatMap WriteCall.offers).flatMap Prod.fst = calls.flatMap fun call => utf8 call.data := by
    rw [List.flatMap_assoc]
    refine List.flatMap_congr fun call _ => ?_
    obtain ⟨⟨written, offers⟩, _⟩ := write_offers call
    simp [offers]
  have silent : ¬ ∃ call ∈ calls, ∃ message, call.result = .thrown message := by
    rintro ⟨call, _, message, thrown⟩
    rw [(write_offers call).2] at thrown
    cases thrown
  constructor
  · intro intact
    have all : ∀ bytes, ChannelWrites none (calls.flatMap WriteCall.offers) bytes →
        bytes = (calls.flatMap WriteCall.offers).flatMap Prod.fst :=
      fun bytes writes => buffers ▸ (intact bytes writes).resolve_left silent
    obtain ⟨bytes, writes⟩ := possible
    rcases writes_short none _ bytes writes with ⟨other, arbitrary, different⟩ | ⟨_, strict⟩
    · exact (different ((all other arbitrary).trans (all bytes writes).symm)).elim
    · intro call member offer offered
      refine Classical.byContradiction fun short => ?_
      have fewer := strict ⟨offer, List.mem_flatMap.mpr ⟨call, member, offered⟩, short⟩
      rw [← all bytes writes] at fewer
      exact Nat.lt_irrefl _ fewer
  · intro whole bytes writes
    refine .inr ((writes_whole none _ bytes writes rfl fun offer offered => ?_).trans buffers)
    obtain ⟨call, member, here⟩ := List.mem_flatMap.mp offered
    exact whole call member offer here

def writeCall (sessionId : Int) (entry : KesshSession) (data : JsString) (written : Int) :
    WriteCall sessionId entry.channel where
  data := data
  events := [⟨.lock .session, ()⟩, ⟨.findSession sessionId .use, some entry⟩,
    ⟨.channelWrite entry.channel (utf8 data), written⟩, ⟨.unlock .session, ()⟩]
  result := .undefined
  trace := by simp [write, withLock, ask, Trace, resume]
  session := ⟨entry, rfl, by simp⟩

def streamEntry : KesshSession := .opened 0 0 0

theorem terminal_input_whole_typed :
    (∃ bytes, ChannelWrites none ([writeCall 1 streamEntry (Ecma.js "ls") 2,
      writeCall 1 streamEntry (Ecma.js "\n") 1].flatMap WriteCall.offers) bytes) ∧
    ∀ bytes, ChannelWrites none ([writeCall 1 streamEntry (Ecma.js "ls") 2,
        writeCall 1 streamEntry (Ecma.js "\n") 1].flatMap WriteCall.offers) bytes →
      (∃ call ∈ [writeCall 1 streamEntry (Ecma.js "ls") 2, writeCall 1 streamEntry (Ecma.js "\n") 1],
        ∃ message, call.result = .thrown message) ∨ bytes = [0x6C, 0x73, 0x0A] := by
  have possible : ∃ bytes, ChannelWrites none ([writeCall 1 streamEntry (Ecma.js "ls") 2,
      writeCall 1 streamEntry (Ecma.js "\n") 1].flatMap WriteCall.offers) bytes :=
    ⟨_, .accept none (utf8 (Ecma.js "ls")) 2 _ _ (by simp) (by decide)
      (.accept none (utf8 (Ecma.js "\n")) 1 [] [] (by simp) (by decide) (.nil none))⟩
  refine ⟨possible, (terminal_input_whole 1 streamEntry.channel _ possible).mpr fun call member offer offered => ?_⟩
  rcases List.mem_cons.mp member with rfl | member
  · rw [List.mem_singleton.mp offered]
    exact fun _ => by decide
  · rw [List.mem_singleton.mp member] at offered
    rw [List.mem_singleton.mp offered]
    exact fun _ => by decide

-- One byte of two is taken, and Write neither offers the other one again nor tells anybody.
theorem short_write_lost :
    ∃ bytes, ChannelWrites none ([writeCall 1 streamEntry (Ecma.js "ab") 1].flatMap WriteCall.offers) bytes ∧
      ¬ ((∃ call ∈ [writeCall 1 streamEntry (Ecma.js "ab") 1], ∃ message, call.result = .thrown message) ∨
        bytes = [writeCall 1 streamEntry (Ecma.js "ab") 1].flatMap fun call => utf8 call.data) := by
  refine ⟨_, .accept none (utf8 (Ecma.js "ab")) 1 [] [] (by simp) (by decide) (.nil none), ?_⟩
  rintro (⟨call, member, message, thrown⟩ | same)
  · rw [List.mem_singleton.mp member] at thrown
    cases thrown
  · exact absurd same (by decide)

structure ReadCall (sessionId : Int) (channel : Channel) where
  events : List Exchange
  text : JsString
  trace : Trace (read sessionId) events (.string text)
  session : OnChannel sessionId channel events

def ReadCall.received {sessionId : Int} {channel : Channel} (call : ReadCall sessionId channel) : Bytes :=
  call.events.flatMap arrived

theorem read_text {sessionId : Int} {channel : Channel} (call : ReadCall sessionId channel) :
    call.text = Utf16.encode (Utf8.decode call.received) := by
  obtain ⟨events, text, trace, session⟩ := call
  obtain ⟨inner, rfl, body⟩ := withLock_trace _ _ _ _ trace
  simp only [ask, Program.bind_eq, Program.ask_bind] at body
  obtain ⟨found, rest, rfl, answered⟩ := (trace_call _ _ _ _).mp body
  cases found with
  | none =>
      obtain ⟨rfl, _⟩ := (trace_done _ _ _).mp answered
      obtain ⟨entry, _, there⟩ := session
      simp at there
  | some entry =>
      obtain ⟨_, reads, rfl, unblocked⟩ := (trace_call _ _ _ _).mp answered
      obtain ⟨drained, last, whole, rfl, draining, ended⟩ := trace_bind _ _ _ _ unblocked
      have received : drained.flatMap arrived = whole :=
        (drain_arrived entry.channel 4096 ReadResult.available (fun _ => rfl) [] drained whole draining).symm
      obtain ⟨rfl, same⟩ := (trace_done _ _ _).mp ended
      have all : ReadCall.received ⟨_, text, trace, session⟩ = whole := by
        simp only [ReadCall.received, List.flatMap_cons, List.flatMap_append, received]
        simp [arrived]
      rw [all]
      simpa [createString] using same.symm

/-- The texts of all Read calls are the text of the whole stream exactly when the bytes of
no call start inside a character. -/
theorem terminal_output_whole (sessionId : Int) (channel : Channel) (calls : List (ReadCall sessionId channel))
    (stream : Bytes) (wellFormed : Utf8.WellFormed stream) (cut : calls.flatMap ReadCall.received = stream) :
    calls.flatMap ReadCall.text = Utf16.encode (Utf8.decode stream) ↔
      ∀ call ∈ calls, Utf8.startsInside call.received = false := by
  obtain ⟨text, rfl⟩ := wellFormed
  have whole : (calls.map ReadCall.received).flatten = Utf8.encode text := by rw [← cut, List.flatMap_def]
  have texts : calls.flatMap ReadCall.text =
      Utf16.encode ((calls.map ReadCall.received).map Utf8.decode).flatten := by
    rw [Utf16.encode_flatten, List.flatMap_def, List.map_map, List.map_map]
    exact congrArg List.flatten (List.map_congr_left fun call _ => read_text call)
  rw [texts, Utf8.decode_encode]
  constructor
  · intro same call member
    exact (Utf8.decode_chunks_iff _ text whole).mp (Utf16.encode_injective _ _ same) _ (List.mem_map_of_mem member)
  · intro aligned
    refine congrArg _ ((Utf8.decode_chunks_iff _ text whole).mpr fun chunk member => ?_)
    obtain ⟨call, there, rfl⟩ := List.mem_map.mp member
    exact aligned call there

def readCall (sessionId : Int) (entry : KesshSession) (data : Bytes) : ReadCall sessionId entry.channel where
  events := [⟨.lock .session, ()⟩, ⟨.findSession sessionId .use, some entry⟩,
    ⟨.channelSetBlocking entry.channel false, ()⟩, ⟨.channelRead entry.channel 4096, .bytes data⟩,
    ⟨.channelRead entry.channel 4096, .error LIBSSH2_ERROR_EAGAIN⟩, ⟨.unlock .session, ()⟩]
  text := Utf16.encode (Utf8.decode data)
  trace := by simp [read, withLock, ask, drain, Program.bind, Trace, resume, ReadResult.available, createString]
  session := ⟨entry, rfl, by simp⟩

theorem terminal_output_whole_accented :
    ([readCall 1 streamEntry [0x61], readCall 1 streamEntry [0xC3, 0xA9]].flatMap ReadCall.text = [0x61, 0xE9]) ∧
      Utf8.WellFormed [0x61, 0xC3, 0xA9] := by
  have wellFormed : Utf8.WellFormed [0x61, 0xC3, 0xA9] := ⟨['a', 'é'], by decide⟩
  refine ⟨((terminal_output_whole 1 streamEntry.channel _ _ wellFormed rfl).mpr fun call member => ?_).trans (by decide),
    wellFormed⟩
  rcases List.mem_cons.mp member with rfl | member
  · rfl
  · rw [List.mem_singleton.mp member]
    rfl

-- The two bytes of one character reach two Read calls: each call makes a replacement character.
theorem cut_character_replaced :
    Utf8.WellFormed [0xC3, 0xA9] ∧
      [readCall 1 streamEntry [0xC3], readCall 1 streamEntry [0xA9]].flatMap ReadCall.received = [0xC3, 0xA9] ∧
      [readCall 1 streamEntry [0xC3], readCall 1 streamEntry [0xA9]].flatMap ReadCall.text ≠
        Utf16.encode (Utf8.decode [0xC3, 0xA9]) :=
  ⟨⟨['é'], by decide⟩, rfl, by decide⟩

end Kessh.Native
