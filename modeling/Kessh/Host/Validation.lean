import Kessh.Host.KesshHost
import Kessh.Native.Operations

set_option autoImplicit false

-- Which drafts the check of the stores and the checks of the native module agree on.
namespace Kessh.Validation

open Ecma (JsString js utf8 trim isSpace isDecimal digitsFrom)
open Utf8 (Bytes)
open Native (OpenSessionAsyncData executeOpenSessionAsync openSessionInternal connectTcpSocket isHostByte isValidHost)
open ConnectionStore (validateDraft parsePort parsePortText)

-- What the work item of an asynchronous open gets from the arguments.
def workData (deferred : Nat) (host : JsString) (port : Nat) (user pass : JsString) : OpenSessionAsyncData :=
  { deferred, host := utf8 host, port, user := utf8 user, pass := utf8 pass }

-- An argument that fails its check ends the work before it has called anything.
def ArgumentsPass (data : OpenSessionAsyncData) : Prop := ∀ result, executeOpenSessionAsync data ≠ .done result

def requestsOf : HostReply → List NativeRequest
  | .native requests => requests
  | _ => []

-- The native open that openSession asks for passes every check of its arguments.
def OpenPasses (draft : ConnectionDraft) (s : Stores) (deferred : Nat) : Prop :=
  ∃ host port user pass,
    .openSessionAsync host port user pass ∈ requestsOf (KesshHost.openSession draft s).2 ∧
      ArgumentsPass (workData deferred host port user pass)

-- The native open is given the trimmed texts and the port that was parsed.
def OpenNormalized (draft : ConnectionDraft) (s : Stores) : Prop :=
  ∃ port pass, parsePort draft.port.orDefault = .ok (some port) ∧
    .openSessionAsync (trim draft.host) port (trim draft.username) pass ∈
      requestsOf (KesshHost.openSession draft s).2

def Agrees (draft : ConnectionDraft) (s : Stores) (deferred : Nat) : Prop :=
  (validateDraft draft = .ok none ↔ OpenPasses draft s deferred) ∧
    (validateDraft draft = .ok none → OpenNormalized draft s)

-- ASCII letters and digits, '.', '-' and ':'.
def isHostCode (n : Nat) : Bool :=
  (0x30 ≤ n && n ≤ 0x39) || (0x41 ≤ n && n ≤ 0x5A) || (0x61 ≤ n && n ≤ 0x7A) || n == 0x2E || n == 0x2D || n == 0x3A

def PlainHost (host : JsString) : Prop := host ≠ [] ∧ ∀ unit ∈ host, isHostCode unit.toNat = true

def NumericPort (text : JsString) : Prop :=
  isDecimal (trim text) = true ∧ 1 ≤ digitsFrom 0 (trim text) ∧ digitsFrom 0 (trim text) ≤ 65535

-- A host and a user that the native module takes need a trimmed user and a port, if any, in range;
-- what it does not take has to be something that the stores do not take either.
def Alike (host port username : JsString) : Prop :=
  (PlainHost host ∧ username ≠ [] → trim username = username ∧ (port = [] ∨ NumericPort port)) ∧
    (¬ (PlainHost host ∧ username ≠ []) →
      trim host = [] ∨ (∃ unit ∈ trim host, isSpace unit = true) ∨ trim username = [] ∨
        port ≠ [] ∧ ¬ NumericPort port)

theorem hostCode_ordinary (unit : UInt16) (plain : isHostCode unit.toNat = true) : isSpace unit = false := by
  simp only [isHostCode, Bool.or_eq_true, Bool.and_eq_true, decide_eq_true_eq, beq_iff_eq] at plain
  simp only [isSpace, Bool.or_eq_false_iff, Bool.and_eq_false_iff, decide_eq_false_iff_not, beq_eq_false_iff_ne]
  omega

theorem isValidHost_iff (host : JsString) : isValidHost (utf8 host) = true ↔ PlainHost host := by
  have small : ∀ n, isHostCode n = true → n < 0x80 := fun n plain => by
    simp only [isHostCode, Bool.or_eq_true, Bool.and_eq_true, decide_eq_true_eq, beq_iff_eq] at plain
    omega
  have codes : (utf8 host).all isHostByte = true ↔ ∀ unit ∈ host, isHostCode unit.toNat = true := by
    rw [← Ecma.utf8_class host isHostCode small, List.all_eq_true]
    rfl
  have present : (!(utf8 host).isEmpty) = true ↔ host ≠ [] := by
    rw [ne_eq, ← Ecma.utf8_eq_nil host]
    simp
  rw [isValidHost, Bool.and_eq_true, present, codes]
  rfl

theorem openSessionInternal_resolves (host : Bytes) (port : Int) (user pass : Bytes) (valid : isValidHost host = true)
    (range : 1 ≤ port ∧ port ≤ 65535) (present : user ≠ []) :
    ∃ proceed, openSessionInternal host port user pass = .call (.getaddrinfo host (Native.toString port)) proceed := by
  have some : ¬ host.isEmpty = true := by
    rw [isValidHost, Bool.and_eq_true] at valid
    simpa using valid.1
  have inside : ¬ (port < 1 || port > 65535) = true := by
    simp only [Bool.or_eq_true, decide_eq_true_eq]
    omega
  unfold openSessionInternal connectTcpSocket
  rw [if_neg some, if_neg (by simpa using present), if_neg (by simp [valid]), if_neg inside]
  exact ⟨_, rfl⟩

theorem openSessionInternal_refuses (host : Bytes) (port : Int) (user pass : Bytes)
    (fails : ¬ (isValidHost host = true ∧ (1 ≤ port ∧ port ≤ 65535) ∧ user ≠ [])) :
    ∃ error, openSessionInternal host port user pass = .done (.error error) := by
  unfold openSessionInternal
  by_cases noHost : host.isEmpty = true
  · exact ⟨_, if_pos noHost⟩
  rw [if_neg noHost]
  by_cases noUser : user.isEmpty = true
  · exact ⟨_, if_pos noUser⟩
  rw [if_neg noUser]
  unfold connectTcpSocket
  by_cases invalid : (!isValidHost host) = true
  · exact ⟨_, by rw [if_pos invalid]; rfl⟩
  rw [if_neg invalid]
  by_cases outside : (port < 1 || port > 65535) = true
  · exact ⟨_, by rw [if_pos outside]; rfl⟩
  refine absurd ⟨by simpa using invalid, ?_, by simpa using noUser⟩ fails
  simp only [Bool.or_eq_true, decide_eq_true_eq] at outside
  omega

theorem argumentsPass_iff (data : OpenSessionAsyncData) :
    ArgumentsPass data ↔ isValidHost data.host = true ∧ (1 ≤ data.port ∧ data.port ≤ 65535) ∧ data.user ≠ [] := by
  constructor
  · intro passes
    by_contra fails
    obtain ⟨error, refused⟩ := openSessionInternal_refuses data.host data.port data.user data.pass fails
    apply passes (.ran (-1) error)
    rw [executeOpenSessionAsync, refused]
    rfl
  · rintro ⟨valid, range, present⟩ result ended
    obtain ⟨proceed, resolves⟩ := openSessionInternal_resolves data.host data.port data.user data.pass valid range present
    rw [executeOpenSessionAsync, resolves] at ended
    cases ended

theorem workData_passes (deferred : Nat) (host : JsString) (port : Nat) (user pass : JsString)
    (lower : 1 ≤ port) (upper : port ≤ 65535) :
    ArgumentsPass (workData deferred host port user pass) ↔ PlainHost host ∧ user ≠ [] := by
  rw [argumentsPass_iff]
  simp only [workData, isValidHost_iff, ne_eq, Ecma.utf8_eq_nil]
  have range : (1 : Int) ≤ (port : Int) ∧ (port : Int) ≤ 65535 := by omega
  simp [range]

theorem parsePortText_iff (text : JsString) (port : Nat) :
    parsePortText text = some port ↔ NumericPort text ∧ digitsFrom 0 (trim text) = port := by
  unfold parsePortText NumericPort
  by_cases numeral : isDecimal (trim text) = true
  · have value := Ecma.parseInt_decimal_text _ numeral
    simp only [numeral, value, Bool.not_true, Bool.false_eq_true, if_false, true_and]
    by_cases outside : ((digitsFrom 0 (trim text) : Int) < 1 || (digitsFrom 0 (trim text) : Int) > 65535) = true
    · rw [if_pos outside]
      simp only [Bool.or_eq_true, decide_eq_true_eq] at outside
      apply iff_of_false (by simp)
      omega
    · rw [if_neg outside]
      simp only [Bool.or_eq_true, decide_eq_true_eq] at outside
      simp only [Int.toNat_natCast, Option.some.injEq]
      omega
  · simp [numeral]

theorem stored_port (text : JsString) (port : Nat) :
    parsePort (PortField.text text).orDefault = .ok (some port) ↔
      (text = [] ∨ NumericPort text) ∧ (parsePortText text).getD 22 = port := by
  simp only [PortField.orDefault]
  by_cases empty : text = []
  · subst empty
    have default : parsePortText (js "22") = some 22 := by decide
    have none : parsePortText [] = none := by decide
    simp [parsePort, default, none]
  · rw [if_neg (by simpa using empty)]
    simp only [parsePort, Except.ok.injEq, empty, false_or]
    constructor
    · intro parsed
      exact ⟨((parsePortText_iff text port).mp parsed).1, by rw [parsed, Option.getD_some]⟩
    · rintro ⟨numeric, read⟩
      rw [(parsePortText_iff text _).mpr ⟨numeric, rfl⟩, Option.getD_some] at read
      exact (parsePortText_iff text port).mpr ⟨numeric, read⟩

theorem openSession_port (text : JsString) : 1 ≤ (parsePortText text).getD 22 ∧ (parsePortText text).getD 22 ≤ 65535 := by
  cases parsed : parsePortText text with
  | none => decide
  | some port => exact ConnectionStore.parsePortText_bounds text port parsed

theorem openSession_asks (draft : ConnectionDraft) (text : JsString) (port : draft.port = .text text) (s : Stores)
    (host : JsString) (asked : Nat) (user pass : JsString) :
    .openSessionAsync host asked user pass ∈ requestsOf (KesshHost.openSession draft s).2 ↔
      host = draft.host ∧ asked = (parsePortText text).getD 22 ∧ user = draft.username ∧
        pass = KesshHost.resolvePassword draft s := by
  simp [KesshHost.openSession, requestsOf, KesshHost.configureKeepalive, port, PortField.toJsString]

theorem openPasses_iff (draft : ConnectionDraft) (text : JsString) (port : draft.port = .text text) (s : Stores)
    (deferred : Nat) : OpenPasses draft s deferred ↔ PlainHost draft.host ∧ draft.username ≠ [] := by
  obtain ⟨lower, upper⟩ := openSession_port text
  constructor
  · rintro ⟨host, asked, user, pass, sent, passes⟩
    obtain ⟨rfl, rfl, rfl, rfl⟩ := (openSession_asks draft text port s host asked user pass).mp sent
    exact (workData_passes deferred _ _ _ _ lower upper).mp passes
  · intro plain
    exact ⟨_, _, _, _, (openSession_asks draft text port s _ _ _ _).mpr ⟨rfl, rfl, rfl, rfl⟩,
      (workData_passes deferred _ _ _ _ lower upper).mpr plain⟩

theorem openNormalized_iff (draft : ConnectionDraft) (text : JsString) (port : draft.port = .text text) (s : Stores) :
    OpenNormalized draft s ↔
      (text = [] ∨ NumericPort text) ∧ trim draft.host = draft.host ∧ trim draft.username = draft.username := by
  unfold OpenNormalized
  simp only [openSession_asks draft text port, port, stored_port]
  constructor
  · rintro ⟨_, _, ⟨read, _⟩, host, _, username, _⟩
    exact ⟨read, host, username⟩
  · rintro ⟨read, host, username⟩
    exact ⟨_, _, ⟨read, rfl⟩, host, rfl, username, rfl⟩

theorem validateDraft_iff (draft : ConnectionDraft) (text : JsString) (port : draft.port = .text text) :
    validateDraft draft = .ok none ↔ trim draft.host ≠ [] ∧ (∀ unit ∈ trim draft.host, isSpace unit = false) ∧
      trim draft.username ≠ [] ∧ (text = [] ∨ NumericPort text) := by
  rw [ConnectionStore.validateDraft_none]
  constructor
  · rintro ⟨read, valid⟩
    have parsed := valid.port_parsed
    rw [port, stored_port] at parsed
    exact ⟨valid.host_present, valid.host_ordinary, valid.username_present, parsed.1⟩
  · rintro ⟨host, ordinary, username, read⟩
    refine ⟨(parsePortText text).getD 22, host, ordinary, username, ?_⟩
    rw [port]
    exact (stored_port text _).mpr ⟨read, rfl⟩

/-- For a draft with a text as port, the check of the stores and those of the native module
agree, and the native module is given the trimmed texts and the parsed port, exactly when the
draft is alike for both. -/
theorem validation_agrees (draft : ConnectionDraft) (text : JsString) (s : Stores) (deferred : Nat)
    (port : draft.port = .text text) : Agrees draft s deferred ↔ Alike draft.host text draft.username := by
  unfold Agrees Alike
  rw [openPasses_iff draft text port, openNormalized_iff draft text port, validateDraft_iff draft text port]
  by_cases passes : PlainHost draft.host ∧ draft.username ≠ []
  · obtain ⟨plain, username⟩ := passes
    have ordinary : ∀ unit ∈ draft.host, isSpace unit = false := fun unit member =>
      hostCode_ordinary unit (plain.2 unit member)
    have host : trim draft.host = draft.host := Ecma.trim_of_ordinary _ ordinary
    constructor
    · rintro ⟨same, normalized⟩
      refine ⟨fun _ => ?_, fun fails => absurd ⟨plain, username⟩ fails⟩
      obtain ⟨read, _, trimmed⟩ := normalized (same.mpr ⟨plain, username⟩)
      exact ⟨trimmed, read⟩
    · rintro ⟨clean, _⟩
      obtain ⟨trimmed, read⟩ := clean ⟨plain, username⟩
      refine ⟨iff_of_true ⟨host.symm ▸ plain.1, host.symm ▸ ordinary, trimmed.symm ▸ username, read⟩ ⟨plain, username⟩, ?_⟩
      exact fun _ => ⟨read, host, trimmed⟩
  · have refused : (trim draft.host = [] ∨ (∃ unit ∈ trim draft.host, isSpace unit = true) ∨ trim draft.username = [] ∨
        text ≠ [] ∧ ¬ NumericPort text) ↔ ¬ (trim draft.host ≠ [] ∧ (∀ unit ∈ trim draft.host, isSpace unit = false) ∧
          trim draft.username ≠ [] ∧ (text = [] ∨ NumericPort text)) := by
      simp only [not_and_or, not_not, not_forall, not_or, Bool.not_eq_false, exists_prop, ne_eq]
    rw [refused]
    constructor
    · rintro ⟨same, _⟩
      exact ⟨fun both => absurd both passes, fun _ valid => passes (same.mp valid)⟩
    · rintro ⟨_, invalid⟩
      exact ⟨iff_of_false (invalid passes) passes, fun valid => absurd valid (invalid passes)⟩

def draftFor (host port : String) : ConnectionDraft :=
  { host := js host, port := .text (js port), username := js "root", password := some (js "secret") }

theorem validation_agrees_home : Agrees (draftFor "home" " 2222 ") (initialStores noon { available := true }) 0 := by
  refine (validation_agrees (draftFor "home" " 2222 ") (js " 2222 ") _ 0 rfl).mpr ⟨fun _ => ?_, fun refused => ?_⟩
  · exact ⟨by decide, .inr ⟨by decide, by decide, by decide⟩⟩
  · exact absurd ⟨⟨by decide, List.all_eq_true.mp (by decide)⟩, by decide⟩ refused

-- The stores take a host with a blank in front of it, which the native module is given as it is.
theorem untrimmed_host_refused : ¬ Agrees (draftFor " home" "22") (initialStores noon { available := true }) 0 := by
  rintro ⟨same, _⟩
  have passes := same.mp (by decide)
  have plain := ((openPasses_iff (draftFor " home" "22") (js "22") rfl _ 0).mp passes).1
  exact absurd (plain.2 0x20 (by decide)) (by decide)

end Kessh.Validation
