import Kessh.Store.Model

set_option autoImplicit false

namespace Kessh

open Ecma

-- `draft.port || '22'`
def PortField.orDefault : PortField → PortField
  | .text value => if value.isEmpty then .text (js "22") else .text value
  | .number value => if value.falsy then .text (js "22") else .number value

namespace ConnectionStore

def parsePortText (portText : JsString) : Option Nat :=
  let value := trim portText
  if !isDecimal value then none
  else match parseInt value with
    | none => none
    | some port => if port < 1 || port > 65535 then none else some port.toNat

-- A number has no trim; `(portText || '')` saves only the falsy ones.
def parsePort : PortField → Except JsError (Option Nat)
  | .text portText => .ok (parsePortText portText)
  | .number portText => if portText.falsy then .ok (parsePortText []) else .error .typeError

def validateDraft (draft : ConnectionDraft) : Except JsError (Option JsString) :=
  if draft.host.isEmpty || (trim draft.host).length == 0 then .ok (some (js "请填写主机地址"))
  else if (trim draft.host).any isSpace then .ok (some (js "主机地址不能包含空白字符"))
  else if draft.username.isEmpty || (trim draft.username).length == 0 then .ok (some (js "请填写用户名"))
  else do
    let port ← parsePort draft.port.orDefault
    if port.isNone then .ok (some (js "端口必须是 1-65535 的数字")) else .ok none

def normalizeDraft (draft : ConnectionDraft) : Except JsError ConnectionDraft := do
  let port := (← parsePort draft.port.orDefault).getD 22
  .ok { draft with host := trim draft.host, port := .text (decimal port), username := trim draft.username }

def findInternal (id : JsNumber) (history : List ConnectionRecord) : Option ConnectionRecord :=
  history.find? fun record => JsNumber.int record.id == id

-- The record object that findInternal returned is changed where it stands.
def writeInternal (record : ConnectionRecord) : List ConnectionRecord → List ConnectionRecord
  | [] => []
  | first :: rest => if first.id = record.id then record :: rest else first :: writeInternal record rest

def recordName (username host : JsString) (port : Nat) : JsString :=
  username ++ js "@" ++ host ++ js ":" ++ decimal port

def nowLabel (s : Stores) : JsString × Stores :=
  let d := s.clock.now
  (js "Today " ++ padStart2 (decimal d.hours) ++ js ":" ++ padStart2 (decimal d.minutes),
    { s with clock := s.clock.advance })

-- The part of addFromDraft that can throw: it comes before any change.
def checkedDraft (draft : ConnectionDraft) : Except JsError (ConnectionDraft × Nat) := do
  let validation ← validateDraft draft
  if truthy validation then throw (.error (validation.getD []))
  let normalized ← normalizeDraft draft
  let port := (← parsePort normalized.port).getD 22
  return (normalized, port)

def existingRecord (normalized : ConnectionDraft) (history : List ConnectionRecord) : Option ConnectionRecord :=
  if normalized.isEditing = some true then normalized.editingId.bind fun id => findInternal id history else none

def addFromDraft (draft : ConnectionDraft) (authType : AuthType) (s : Stores) :
    Except JsError ConnectionRecord × Stores :=
  match checkedDraft draft with
  | .error problem => (.error problem, s)
  | .ok (normalized, port) =>
      let name := recordName normalized.username normalized.host port
      let (time, s) := nowLabel s
      match existingRecord normalized s.connections.history with
      | some existing =>
          let record := { existing with
            name, host := normalized.host, port, username := normalized.username, authType, time }
          let history := writeInternal record s.connections.history
          (.ok record, Logger.log (js "History: update " ++ record.name)
            { s with connections := { s.connections with history } })
      | none =>
          let record : ConnectionRecord :=
            { id := s.connections.seq, name, host := normalized.host, port, username := normalized.username,
              authType, time }
          (.ok record, Logger.log (js "History: add " ++ record.name)
            { s with connections := { s.connections with
              seq := s.connections.seq + 1, history := record :: s.connections.history } })

def draftFromRecord (record : ConnectionRecord) (password : Option JsString) : ConnectionDraft :=
  { host := record.host
    port := .text (decimal record.port)
    username := record.username
    password := if record.authType = .password then some (password.getD []) else none }

def draftForPasswordInput (record : ConnectionRecord) : ConnectionDraft :=
  { draftFromRecord record (some []) with isEditing := some true, editingId := some (.int record.id) }

def savePassword (record : ConnectionRecord) (password : JsString) (s : Stores) : Stores :=
  if password.length > 0 then
    { s with connections := { s.connections with
        passwords := fun id => if id = record.id then some password else s.connections.passwords id
        saved := { id := record.id, password, records := s.connections.history } :: s.connections.saved } }
  else s

def getPassword (record : Option ConnectionRecord) (s : Stores) : Option JsString :=
  record.bind fun record => s.connections.passwords record.id

def getById (id : JsNumber) (s : Stores) : Option ConnectionRecord := findInternal id s.connections.history

def list (s : Stores) : List ConnectionRecord := s.connections.history

theorem parsePortText_bounds (text : JsString) (port : Nat) (parsed : parsePortText text = some port) :
    1 ≤ port ∧ port ≤ 65535 := by
  simp only [parsePortText] at parsed
  split at parsed
  · simp at parsed
  · split at parsed
    · simp at parsed
    · split at parsed
      · simp at parsed
      · rename_i outside
        simp only [Option.some.injEq] at parsed
        simp only [Bool.or_eq_true, decide_eq_true_eq, not_or] at outside
        omega

theorem parsePortText_decimal (port : Nat) (lower : 1 ≤ port) (upper : port ≤ 65535) :
    parsePortText (decimal port) = some port := by
  have small : ¬ ((port : Int) < 1 || (port : Int) > 65535) = true := by
    simp only [Bool.or_eq_true, decide_eq_true_eq, not_or]
    omega
  simp only [parsePortText, trim_decimal, decimal_isDecimal, parseInt_decimal_text _ (decimal_isDecimal port),
    digits_decimal, Bool.not_true, Bool.false_eq_true, if_false, if_neg small, Int.toNat_natCast]

theorem normalizeDraft_port (draft : ConnectionDraft) (port : Nat)
    (parsed : parsePort draft.port.orDefault = .ok (some port)) :
    normalizeDraft draft = .ok { draft with host := trim draft.host, port := .text (decimal port),
                                            username := trim draft.username } := by
  simp [normalizeDraft, parsed, bind, Except.bind]

structure Valid (draft : ConnectionDraft) (port : Nat) : Prop where
  host_present : trim draft.host ≠ []
  host_ordinary : ∀ unit ∈ trim draft.host, isSpace unit = false
  username_present : trim draft.username ≠ []
  port_parsed : parsePort draft.port.orDefault = .ok (some port)

theorem parsePort_bounds (field : PortField) (port : Nat) (parsed : parsePort field = .ok (some port)) :
    1 ≤ port ∧ port ≤ 65535 := by
  cases field with
  | text value => exact parsePortText_bounds value port (Except.ok.inj parsed)
  | number value =>
      simp only [parsePort] at parsed
      split at parsed
      · exact parsePortText_bounds [] port (Except.ok.inj parsed)
      · exact absurd parsed (by simp)

theorem valid_bounds (draft : ConnectionDraft) (port : Nat) (valid : Valid draft port) : 1 ≤ port ∧ port ≤ 65535 :=
  parsePort_bounds _ port valid.port_parsed

theorem validateDraft_none (draft : ConnectionDraft) :
    validateDraft draft = .ok none ↔ ∃ port, Valid draft port := by
  have blank : ∀ text : JsString, (text.isEmpty || (trim text).length == 0) = false ↔ trim text ≠ [] := by
    intro text
    cases text with
    | nil => decide
    | cons unit rest => simp
  constructor
  · intro passes
    unfold validateDraft at passes
    split at passes
    · simp at passes
    · rename_i host
      split at passes
      · simp at passes
      · rename_i spaces
        split at passes
        · simp at passes
        · rename_i username
          cases parsed : parsePort draft.port.orDefault with
          | error problem => simp [parsed, bind, Except.bind] at passes
          | ok port =>
              cases port with
              | none => simp [parsed, bind, Except.bind] at passes
              | some port =>
                  exact ⟨port, (blank _).mp (by simpa using host), by simpa using spaces,
                    (blank _).mp (by simpa using username), parsed⟩
  · rintro ⟨port, valid⟩
    have spaces : (trim draft.host).any isSpace = false := by simpa using valid.host_ordinary
    simp [validateDraft, (blank _).mpr valid.host_present, (blank _).mpr valid.username_present, spaces,
      valid.port_parsed, bind, Except.bind]

theorem validateDraft_message (draft : ConnectionDraft) (message : JsString)
    (reports : validateDraft draft = .ok (some message)) : message ≠ [] := by
  unfold validateDraft at reports
  split at reports
  · obtain rfl : js "请填写主机地址" = message := by simpa using reports
    decide
  · split at reports
    · obtain rfl : js "主机地址不能包含空白字符" = message := by simpa using reports
      decide
    · split at reports
      · obtain rfl : js "请填写用户名" = message := by simpa using reports
        decide
      · cases parsed : parsePort draft.port.orDefault with
        | error problem => simp [parsed, bind, Except.bind] at reports
        | ok port =>
            cases port with
            | some port => simp [parsed, bind, Except.bind] at reports
            | none =>
                obtain rfl : js "端口必须是 1-65535 的数字" = message := by
                  simpa [parsed, bind, Except.bind] using reports
                decide

theorem validateDraft_text (draft : ConnectionDraft) (text : JsString) (port : draft.port = .text text) :
    ∃ validation, validateDraft draft = .ok validation := by
  obtain ⟨value, same⟩ : ∃ value, draft.port.orDefault = .text value := by
    rw [port]
    simp only [PortField.orDefault]
    split
    · exact ⟨_, rfl⟩
    · exact ⟨_, rfl⟩
  simp only [validateDraft, same, parsePort, bind, Except.bind]
  split
  · exact ⟨_, rfl⟩
  · split
    · exact ⟨_, rfl⟩
    · split
      · exact ⟨_, rfl⟩
      · split
        · exact ⟨_, rfl⟩
        · exact ⟨_, rfl⟩

-- The error addFromDraft throws for what validation reports.
def reported : Except JsError (Option JsString) → Option JsError
  | .error problem => some problem
  | .ok (some message) => some (.error message)
  | .ok none => none

theorem checkedDraft_error (draft : ConnectionDraft) (problem : JsError)
    (reports : reported (validateDraft draft) = some problem) : checkedDraft draft = .error problem := by
  cases validation : validateDraft draft with
  | error thrown =>
      rw [validation] at reports
      obtain rfl : thrown = problem := by simpa [reported] using reports
      simp [checkedDraft, validation, bind, Except.bind]
  | ok message =>
      cases message with
      | none => simp [validation, reported] at reports
      | some message =>
          rw [validation] at reports
          obtain rfl : JsError.error message = problem := by simpa [reported] using reports
          have nonempty := validateDraft_message draft message validation
          simp [checkedDraft, validation, bind, Except.bind, truthy, nonempty, throw, throwThe, MonadExceptOf.throw]

theorem checkedDraft_ok (draft : ConnectionDraft) (port : Nat) (valid : Valid draft port) :
    checkedDraft draft = .ok ({ draft with host := trim draft.host, port := .text (decimal port),
                                           username := trim draft.username }, port) := by
  have passes := (validateDraft_none draft).mpr ⟨port, valid⟩
  obtain ⟨lower, upper⟩ := valid_bounds draft port valid
  simp [checkedDraft, passes, normalizeDraft_port draft port valid.port_parsed, parsePort,
    parsePortText_decimal port lower upper, bind, Except.bind, truthy, pure, Except.pure]

theorem reported_none (draft : ConnectionDraft) :
    reported (validateDraft draft) = none ↔ ∃ port, Valid draft port := by
  rw [← validateDraft_none]
  cases validateDraft draft with
  | error problem => simp [reported]
  | ok message => cases message <;> simp [reported]

theorem findInternal_some (id : JsNumber) (history : List ConnectionRecord) (record : ConnectionRecord)
    (found : findInternal id history = some record) :
    id = .int record.id ∧ ∃ front back, history = front ++ record :: back ∧ ∀ other ∈ front, other.id ≠ record.id := by
  obtain ⟨hit, front, back, rfl, before⟩ := List.find?_eq_some_iff_append.mp found
  have same : JsNumber.int record.id = id := by simpa using hit
  refine ⟨same.symm, front, back, rfl, fun other member equal => ?_⟩
  have missed := before other member
  simp [← same, equal] at missed

theorem findInternal_id (id : JsNumber) (history : List ConnectionRecord) (record : ConnectionRecord)
    (found : findInternal id history = some record) : id = .int record.id ∧ record ∈ history := by
  obtain ⟨same, front, back, rfl, _⟩ := findInternal_some id history record found
  exact ⟨same, by simp⟩

theorem existingRecord_some (draft : ConnectionDraft) (history : List ConnectionRecord) (record : ConnectionRecord)
    (found : existingRecord draft history = some record) :
    draft.isEditing = some true ∧ draft.editingId = some (.int record.id) ∧
      ∃ front back, history = front ++ record :: back ∧ ∀ other ∈ front, other.id ≠ record.id := by
  unfold existingRecord at found
  split at found
  · rename_i editing
    obtain ⟨id, present, hit⟩ := Option.bind_eq_some_iff.mp found
    obtain ⟨same, split⟩ := findInternal_some id history record hit
    exact ⟨editing, by rw [present, same], split⟩
  · exact absurd found (by simp)

theorem writeInternal_split (record old : ConnectionRecord) (front back : List ConnectionRecord)
    (same : old.id = record.id) (before : ∀ other ∈ front, other.id ≠ record.id) :
    writeInternal record (front ++ old :: back) = front ++ record :: back := by
  induction front with
  | nil => rw [List.nil_append, writeInternal, if_pos same, List.nil_append]
  | cons first rest ih =>
      rw [List.cons_append, writeInternal, if_neg (before first (by simp)),
        ih fun other member => before other (by simp [member])]
      rfl

def recordFor (draft : ConnectionDraft) (port : Nat) (authType : AuthType) (id : Nat) (time : JsString) :
    ConnectionRecord :=
  { id, name := recordName (trim draft.username) (trim draft.host) port, host := trim draft.host, port,
    username := trim draft.username, authType, time }

theorem addFromDraft_throws (draft : ConnectionDraft) (authType : AuthType) (s : Stores) (problem : JsError)
    (reports : reported (validateDraft draft) = some problem) : addFromDraft draft authType s = (.error problem, s) := by
  simp [addFromDraft, checkedDraft_error draft problem reports]

theorem addFromDraft_edits (draft : ConnectionDraft) (authType : AuthType) (s : Stores) (port : Nat)
    (existing : ConnectionRecord) (valid : Valid draft port)
    (found : existingRecord draft s.connections.history = some existing) :
    (addFromDraft draft authType s).1 = .ok (recordFor draft port authType existing.id (nowLabel s).1) ∧
      (addFromDraft draft authType s).2.connections = { s.connections with
        history := writeInternal (recordFor draft port authType existing.id (nowLabel s).1) s.connections.history } := by
  have same : ∀ host username text, existingRecord { draft with host, port := .text text, username }
      s.connections.history = some existing := fun _ _ _ => found
  simp [addFromDraft, checkedDraft_ok draft port valid, nowLabel, same, recordFor]

theorem addFromDraft_prepends (draft : ConnectionDraft) (authType : AuthType) (s : Stores) (port : Nat)
    (valid : Valid draft port) (absent : existingRecord draft s.connections.history = none) :
    (addFromDraft draft authType s).1 = .ok (recordFor draft port authType s.connections.seq (nowLabel s).1) ∧
      (addFromDraft draft authType s).2.connections = { s.connections with
        seq := s.connections.seq + 1
        history := recordFor draft port authType s.connections.seq (nowLabel s).1 :: s.connections.history } := by
  have same : ∀ host username text, existingRecord { draft with host, port := .text text, username }
      s.connections.history = none := fun _ _ _ => absent
  simp [addFromDraft, checkedDraft_ok draft port valid, nowLabel, same, recordFor]

theorem addFromDraft_cases (draft : ConnectionDraft) (authType : AuthType) (s : Stores) :
    (∃ problem, reported (validateDraft draft) = some problem ∧ addFromDraft draft authType s = (.error problem, s)) ∨
      ∃ port time, Valid draft port ∧
        ((∃ existing, existingRecord draft s.connections.history = some existing ∧
            (addFromDraft draft authType s).1 = .ok (recordFor draft port authType existing.id time) ∧
            (addFromDraft draft authType s).2.connections = { s.connections with
              history := writeInternal (recordFor draft port authType existing.id time) s.connections.history }) ∨
          existingRecord draft s.connections.history = none ∧
            (addFromDraft draft authType s).1 = .ok (recordFor draft port authType s.connections.seq time) ∧
            (addFromDraft draft authType s).2.connections = { s.connections with
              seq := s.connections.seq + 1
              history := recordFor draft port authType s.connections.seq time :: s.connections.history }) := by
  cases reports : reported (validateDraft draft) with
  | some problem => exact .inl ⟨problem, rfl, addFromDraft_throws draft authType s problem reports⟩
  | none =>
      obtain ⟨port, valid⟩ := (reported_none draft).mp reports
      refine .inr ⟨port, (nowLabel s).1, valid, ?_⟩
      cases found : existingRecord draft s.connections.history with
      | some existing => exact .inl ⟨existing, rfl, addFromDraft_edits draft authType s port existing valid found⟩
      | none => exact .inr ⟨rfl, addFromDraft_prepends draft authType s port valid found⟩

theorem addFromDraft_error (draft : ConnectionDraft) (authType : AuthType) (s : Stores) (problem : JsError) :
    (addFromDraft draft authType s).1 = .error problem ↔ reported (validateDraft draft) = some problem := by
  rcases addFromDraft_cases draft authType s with
    ⟨thrown, reports, same⟩ | ⟨port, time, valid, ⟨_, _, result, _⟩ | ⟨_, result, _⟩⟩
  · rw [same, reports]
    exact ⟨fun equal => congrArg some (Except.error.inj equal), fun equal => congrArg Except.error (Option.some.inj equal)⟩
  · simp [result, (reported_none draft).mpr ⟨port, valid⟩]
  · simp [result, (reported_none draft).mpr ⟨port, valid⟩]

@[simp] theorem addFromDraft_settings (draft : ConnectionDraft) (authType : AuthType) (s : Stores) :
    (addFromDraft draft authType s).2.settings = s.settings := by
  unfold addFromDraft
  split
  · rfl
  · dsimp only [nowLabel]
    split <;> rfl

theorem savePassword_saves (record : ConnectionRecord) (password : JsString) (s : Stores) (present : password ≠ []) :
    (savePassword record password s).connections = { s.connections with
      passwords := fun id => if id = record.id then some password else s.connections.passwords id
      saved := { id := record.id, password, records := s.connections.history } :: s.connections.saved } := by
  rw [savePassword, if_pos (List.length_pos_iff.mpr present)]

theorem savePassword_empty (record : ConnectionRecord) (s : Stores) : savePassword record [] s = s := rfl

end ConnectionStore

end Kessh
