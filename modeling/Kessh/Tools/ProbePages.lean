import Kessh.Lib.Numerals
import Kessh.Native.Diagnostics

set_option autoImplicit false

-- The ping and port pages of both front ends: what they ask the native module for.
namespace Kessh

open Ecma

namespace ProbePages

structure PortRequest where
  host : JsString
  port : Int
  timeoutMs : Int

structure PingRequest where
  host : JsString
  count : Int

-- 0 and NaN are falsy. The comparisons do not tell a large integer from its nearest double.
def timeoutOf (parsed : Option Int) : Int :=
  let timeout := match parsed with
    | none => 1000
    | some timeout => if timeout = 0 ∨ timeout < 1000 then 1000 else timeout
  if timeout > 15000 then 15000 else timeout

def countOf (parsed : Option Int) : Int :=
  let count := match parsed with
    | none => 4
    | some count => if count = 0 then 4 else count
  let count := if count ≤ 0 then 4 else count
  if count > 10 then 10 else count

def portRequest (parse : JsString → Option Int) (host port timeout : JsString) : Option PortRequest :=
  match parse port with
  | none => none
  | some portValue =>
      if (trim host).isEmpty ∨ portValue = 0 ∨ portValue ≤ 0 ∨ portValue > 65535 then none
      else some { host := trim host, port := portValue, timeoutMs := timeoutOf (parse timeout) }

def pingRequest (parse : JsString → Option Int) (host count : JsString) : Option PingRequest :=
  if (trim host).isEmpty then none else some { host := trim host, count := countOf (parse count) }

-- The ArkTS pages call parseInt without a radix, the Lynx pages with 10.
def PortTest.handlePortTest : JsString → JsString → JsString → Option PortRequest := portRequest parseIntAuto

def PortTestPage.run : JsString → JsString → JsString → Option PortRequest := portRequest parseInt

def PingTool.handlePing : JsString → JsString → Option PingRequest := pingRequest parseIntAuto

def PingToolPage.run : JsString → JsString → Option PingRequest := pingRequest parseInt

def PortNumber (value : Int) : Prop := 1 ≤ value ∧ value ≤ 65535

theorem portRequest_iff (parse : JsString → Option Int) (host port timeout : JsString) (request : PortRequest) :
    portRequest parse host port timeout = some request ↔
      trim host ≠ [] ∧ PortNumber request.port ∧ parse port = some request.port ∧ request.host = trim host ∧
        request.timeoutMs = timeoutOf (parse timeout) := by
  unfold portRequest
  cases parse port with
  | none => exact iff_of_false (fun same => nomatch same) fun holds => nomatch holds.2.2.1
  | some value =>
      dsimp only
      rw [Option.ite_none_left_eq_some, Option.some.injEq, Option.some.injEq, List.isEmpty_iff]
      constructor
      · rintro ⟨passes, rfl⟩
        obtain ⟨present, _, lower, upper⟩ := by simpa only [not_or] using passes
        have range : PortNumber value := ⟨by omega, by omega⟩
        exact ⟨present, range, rfl, rfl, rfl⟩
      · rintro ⟨present, ⟨lower, upper⟩, same, target, time⟩
        refine ⟨?_, ?_⟩
        · rintro (none | zero | low | high)
          · exact present none
          · omega
          · omega
          · omega
        · obtain ⟨targets, number, wait⟩ := request
          simp only at same target time
          rw [same, target, time]

theorem timeoutOf_range (parsed : Option Int) : 1000 ≤ timeoutOf parsed ∧ timeoutOf parsed ≤ 15000 := by
  unfold timeoutOf
  cases parsed with
  | none => decide
  | some timeout =>
      dsimp only
      split <;> split <;> omega

theorem countOf_range (parsed : Option Int) : 1 ≤ countOf parsed ∧ countOf parsed ≤ 10 := by
  unfold countOf
  cases parsed with
  | none => decide
  | some count =>
      dsimp only
      split <;> split <;> split <;> omega

theorem timeout_kept (parsed : Option Int) : Native.portTimeout (some (timeoutOf parsed)) = timeoutOf parsed := by
  obtain ⟨lower, upper⟩ := timeoutOf_range parsed
  unfold Native.portTimeout
  dsimp only [Option.getD_some]
  rw [if_neg (by omega), if_neg (by omega)]

theorem count_kept (parsed : Option Int) : (Native.pingCount (some (countOf parsed)) : Int) = countOf parsed := by
  obtain ⟨lower, upper⟩ := countOf_range parsed
  unfold Native.pingCount
  dsimp only [Option.getD_some]
  rw [if_neg (by omega), if_neg (by omega)]
  omega

theorem timeoutOf_least (parsed : Option Int) : timeoutOf parsed = 1000 ↔ ∀ timeout ∈ parsed, timeout ≤ 1000 := by
  unfold timeoutOf
  cases parsed with
  | none => exact iff_of_true rfl fun _ none => (nomatch none)
  | some value =>
      dsimp only
      constructor
      · rintro least timeout same
        obtain rfl := Option.some.inj same
        split at least <;> split at least <;> omega
      · intro low
        have bound := low value rfl
        split <;> split <;> omega

theorem countOf_default (parsed : Option Int) : countOf parsed = 4 ↔ ∀ count ∈ parsed, count ≤ 0 ∨ count = 4 := by
  unfold countOf
  cases parsed with
  | none => exact iff_of_true rfl fun _ none => (nomatch none)
  | some value =>
      dsimp only
      constructor
      · rintro four count same
        obtain rfl := Option.some.inj same
        split at four <;> split at four <;> split at four <;> omega
      · intro low
        have bound := low value rfl
        split <;> split <;> split <;> omega

theorem same_timeout (timeout : JsString) : timeoutOf (parseIntAuto timeout) = timeoutOf (parseInt timeout) ↔
    (isHex timeout = true → ∀ value ∈ parseIntAuto timeout, value ≤ 1000) := by
  cases hex : isHex timeout with
  | false => exact iff_of_true (by rw [parseIntAuto_plain timeout hex]) fun no => (nomatch no)
  | true =>
      rw [parseInt_hex timeout hex, show timeoutOf (some 0) = 1000 from rfl, timeoutOf_least]
      exact ⟨fun low _ => low, fun low => low rfl⟩

theorem same_count (count : JsString) : countOf (parseIntAuto count) = countOf (parseInt count) ↔
    (isHex count = true → ∀ value ∈ parseIntAuto count, value ≤ 0 ∨ value = 4) := by
  cases hex : isHex count with
  | false => exact iff_of_true (by rw [parseIntAuto_plain count hex]) fun no => (nomatch no)
  | true =>
      rw [parseInt_hex count hex, show countOf (some 0) = 4 from rfl, countOf_default]
      exact ⟨fun low _ => low, fun low => low rfl⟩

theorem portRequest_none (parse : JsString → Option Int) (host port timeout : JsString) :
    portRequest parse host port timeout = none ↔ trim host = [] ∨ ∀ value ∈ parse port, ¬ PortNumber value := by
  rw [Option.eq_none_iff_forall_ne_some]
  constructor
  · intro refused
    refine Classical.or_iff_not_imp_left.mpr fun present value parsed range => ?_
    exact refused ⟨trim host, value, timeoutOf (parse timeout)⟩
      ((portRequest_iff parse host port timeout _).mpr ⟨present, range, parsed, rfl, rfl⟩)
  · intro refused request same
    obtain ⟨present, range, parsed, _⟩ := (portRequest_iff parse host port timeout request).mp same
    exact refused.elim present fun every => every request.port parsed range

theorem same_port (host port timeout : JsString) (value : Int) (present : trim host ≠ []) (range : PortNumber value)
    (auto : parseIntAuto port = some value) (decimal : parseInt port = some value) :
    portRequest parseIntAuto host port timeout = portRequest parseInt host port timeout ↔
      timeoutOf (parseIntAuto timeout) = timeoutOf (parseInt timeout) := by
  have one := (portRequest_iff parseIntAuto host port timeout ⟨trim host, value, timeoutOf (parseIntAuto timeout)⟩).mpr
    ⟨present, range, auto, rfl, rfl⟩
  have other := (portRequest_iff parseInt host port timeout ⟨trim host, value, timeoutOf (parseInt timeout)⟩).mpr
    ⟨present, range, decimal, rfl, rfl⟩
  rw [one, other, Option.some.injEq, PortRequest.mk.injEq]
  exact ⟨fun same => same.2.2, fun same => ⟨rfl, rfl, same⟩⟩

/-- The port pages of the two front ends, on any three texts: what either asks the native module for has a port in
range and a timeout that TestPort takes as it is; and both ask for the same, if and only if there is no host, or a port
with 0x is out of range and a timeout with 0x beside a port is at most 1000. -/
theorem port_pages_agree (host port timeout : JsString) :
    (∀ request, PortTest.handlePortTest host port timeout = some request ∨ PortTestPage.run host port timeout = some request →
      PortNumber request.port ∧ Native.portTimeout (some request.timeoutMs) = request.timeoutMs) ∧
      (PortTest.handlePortTest host port timeout = PortTestPage.run host port timeout ↔
        trim host = [] ∨ (isHex port = true → ∀ value ∈ parseIntAuto port, ¬ PortNumber value) ∧
          ((∃ value ∈ parseInt port, PortNumber value) → isHex timeout = true → ∀ value ∈ parseIntAuto timeout, value ≤ 1000)) := by
  constructor
  · have asked : ∀ parse request, portRequest parse host port timeout = some request →
        PortNumber request.port ∧ Native.portTimeout (some request.timeoutMs) = request.timeoutMs := by
      intro parse request same
      obtain ⟨_, range, _, _, time⟩ := (portRequest_iff parse host port timeout request).mp same
      exact ⟨range, by rw [time, timeout_kept]⟩
    exact fun request either => either.elim (asked parseIntAuto request) (asked parseInt request)
  · show portRequest parseIntAuto host port timeout = portRequest parseInt host port timeout ↔ _
    by_cases empty : trim host = []
    · rw [(portRequest_none _ host port timeout).mpr (.inl empty), (portRequest_none _ host port timeout).mpr (.inl empty)]
      exact iff_of_true rfl (.inl empty)
    rw [or_iff_right empty]
    cases hex : isHex port with
    | true =>
        have zero : ∀ value ∈ parseInt port, ¬ PortNumber value := by
          rw [parseInt_hex port hex]
          rintro value ⟨⟩
          exact fun range => absurd range.1 (by decide)
        rw [(portRequest_none parseInt host port timeout).mpr (.inr zero), portRequest_none, or_iff_right empty]
        exact ⟨fun out => ⟨fun _ => out, fun ⟨value, parsed, range⟩ => absurd range (zero value parsed)⟩, fun both => both.1 rfl⟩
    | false =>
        have same := parseIntAuto_plain port hex
        by_cases some : ∃ value ∈ parseInt port, PortNumber value
        · obtain ⟨value, parsed, range⟩ := some
          rw [same_port host port timeout value empty range (same.trans parsed) parsed, same_timeout]
          exact ⟨fun times => ⟨fun no => (nomatch no), fun _ => times⟩, fun both => both.2 ⟨value, parsed, range⟩⟩
        · have out : ∀ value ∈ parseInt port, ¬ PortNumber value := fun value parsed range => some ⟨value, parsed, range⟩
          rw [(portRequest_none parseInt host port timeout).mpr (.inr out),
            (portRequest_none parseIntAuto host port timeout).mpr (.inr (same ▸ out))]
          exact iff_of_true rfl ⟨fun no => (nomatch no), fun holds => absurd holds some⟩

/-- The ping pages: the native module takes the count as it is, and both ask for the same, if and only if there is no
host or a count with 0x is not positive or 4. -/
theorem ping_pages_agree (host count : JsString) :
    (∀ request, PingTool.handlePing host count = some request ∨ PingToolPage.run host count = some request →
      (Native.pingCount (some request.count) : Int) = request.count) ∧
      (PingTool.handlePing host count = PingToolPage.run host count ↔
        trim host = [] ∨ (isHex count = true → ∀ value ∈ parseIntAuto count, value ≤ 0 ∨ value = 4)) := by
  constructor
  · have asked : ∀ parse request, pingRequest parse host count = some request →
        (Native.pingCount (some request.count) : Int) = request.count := by
      intro parse request same
      obtain ⟨_, made⟩ := Option.ite_none_left_eq_some.mp same
      obtain rfl := Option.some.inj made
      exact count_kept (parse count)
    exact fun request either => either.elim (asked parseIntAuto request) (asked parseInt request)
  · show pingRequest parseIntAuto host count = pingRequest parseInt host count ↔ _
    unfold pingRequest
    rw [← same_count]
    by_cases empty : trim host = []
    · rw [if_pos (List.isEmpty_iff.mpr empty), if_pos (List.isEmpty_iff.mpr empty)]
      exact iff_of_true rfl (.inl empty)
    · rw [if_neg (fun none => empty (List.isEmpty_iff.mp none)), if_neg (fun none => empty (List.isEmpty_iff.mp none)),
        or_iff_right empty, Option.some.injEq, PingRequest.mk.injEq]
      exact ⟨fun same => same.2, fun same => ⟨rfl, same⟩⟩

-- Port 0x16 is 22 for the ArkTS page, and no port for the Lynx page.
example : (PortTest.handlePortTest (js "h") (js "0x16") (js "3000")).map PortRequest.port = some 22 ∧
    (PortTestPage.run (js "h") (js "0x16") (js "3000")).isNone := by decide +kernel

end ProbePages

end Kessh
