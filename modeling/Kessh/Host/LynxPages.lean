import Kessh.Host.HostInvariant

set_option autoImplicit false

namespace Kessh

open Ecma

namespace AddHostPage

def parsePort (text : JsString) : Option Nat :=
  if !isDecimal (trim text) then none
  else match parseInt text with
    | none => none
    | some value => if value < 1 || value > 65535 then none else some value.toNat

theorem parsePort_bounds (text : JsString) (port : Nat) (parsed : parsePort text = some port) :
    1 ≤ port ∧ port ≤ 65535 := by
  unfold parsePort at parsed
  split at parsed
  · exact absurd parsed (by simp)
  · split at parsed
    · exact absurd parsed (by simp)
    · split at parsed
      · exact absurd parsed (by simp)
      · rename_i inside
        obtain rfl := Option.some.inj parsed
        simp only [Bool.or_eq_true, decide_eq_true_eq, not_or] at inside
        omega

-- The draft that saveAndConnect sends once the form has passed its checks.
def draft (editingId : Option JsNumber) (host port username password : JsString) : Option ConnectionDraft :=
  if (trim host).isEmpty then none
  else if (trim username).isEmpty then none
  else match parsePort (if port.isEmpty then js "22" else port) with
    | none => none
    | some portValue =>
        if password.isEmpty then none
        else some {
          host := trim host
          port := .number (.int portValue)
          username := trim username
          password := some password
          isEditing := some editingId.isSome
          editingId }

theorem draft_port (editingId : Option JsNumber) (host port username password : JsString) (sent : ConnectionDraft)
    (accepted : draft editingId host port username password = some sent) :
    ∃ portValue : Nat, 1 ≤ portValue ∧ sent.port = .number (.int portValue) := by
  unfold draft at accepted
  split at accepted
  · exact absurd accepted (by simp)
  · split at accepted
    · exact absurd accepted (by simp)
    · split at accepted
      · exact absurd accepted (by simp)
      · rename_i portValue parsed
        split at accepted
        · exact absurd accepted (by simp)
        · obtain rfl := Option.some.inj accepted
          exact ⟨portValue, (parsePort_bounds _ portValue parsed).1, rfl⟩

-- What the page relies on: its draft is taken, and the record is listed afterwards.
def Taken (s : Stores) (host port username : JsString) (sent : ConnectionDraft) : Prop :=
  ∃ record, (KesshHost.addConnection sent s).2 = .record record ∧ record.host = trim host ∧
    some record.port = parsePort (if port.isEmpty then js "22" else port) ∧ record.username = trim username ∧
    record ∈ ConnectionStore.list (KesshHost.addConnection sent s).1

-- Validation calls trim on the port, and a number has none.
theorem addConnection_number (sent : ConnectionDraft) (s : Stores) (value : JsNumber) (port : sent.port = .number value)
    (truth : value.falsy = false) : ∃ problem, KesshHost.addConnection sent s = (s, .thrown problem) := by
  rcases KesshHost.addConnection_cases sent s with ⟨problem, _, thrown⟩ | ⟨_, _, _, passes, _, _⟩
  · exact ⟨problem, thrown⟩
  · obtain ⟨parsed, valid⟩ := (ConnectionStore.reported_none sent).mp passes
    have text := valid.port_parsed
    rw [port] at text
    simp [PortField.orDefault, truth, ConnectionStore.parsePort] at text

/-- No form that the page accepts is taken by the bridge, whatever the stores hold. -/
theorem accepted_form_not_taken (s : Stores) (editingId : Option JsNumber) (host port username password : JsString)
    (sent : ConnectionDraft) (accepted : draft editingId host port username password = some sent) :
    ¬ Taken s host port username sent := by
  rintro ⟨record, returned, _⟩
  obtain ⟨value, lower, number⟩ := draft_port editingId host port username password sent accepted
  have truth : (JsNumber.int value).falsy = false := by
    simp only [JsNumber.falsy, beq_eq_false_iff_ne]
    omega
  obtain ⟨problem, thrown⟩ := addConnection_number sent s _ number truth
  rw [thrown] at returned
  exact absurd returned (by simp)

theorem accepted_form_not_taken_new :
    let sent : ConnectionDraft :=
      { host := js "a", port := .number (.int 22), username := js "u", password := some (js "p"),
        isEditing := some false }
    ¬ Taken (initialStores noon { available := true }) (js "a") (js "22") (js "u") sent :=
  accepted_form_not_taken _ none (js "a") (js "22") (js "u") (js "p") _ (by decide)

-- The first host of a fresh installation: the form accepts it and the bridge throws.
theorem first_host_not_taken :
    let s := initialStores noon { available := true }
    ∃ sent, draft none (js "example.com") (js "22") (js "root") (js "secret") = some sent ∧
      (KesshHost.addConnection sent s).2 = .thrown .typeError ∧
      ¬ Taken s (js "example.com") (js "22") (js "root") sent := by
  intro s
  have thrown : (KesshHost.addConnection
      { host := js "example.com", port := .number (.int 22), username := js "root", password := some (js "secret"),
        isEditing := some false } s).2 = .thrown .typeError := by decide
  refine ⟨_, rfl, thrown, ?_⟩
  rintro ⟨record, returned, _⟩
  exact absurd (thrown.symm.trans returned) (by simp)

end AddHostPage

namespace TerminalPage

-- The draft that open sends for a saved host.
def draft (recordId : JsNumber) (password : JsString) : ConnectionDraft :=
  { host := [], port := .number (.int 0), username := [], password := some password, editingId := some recordId,
    isEditing := some true }

-- What the page relies on: the native layer is asked for the endpoint of the record.
def ReachesRecord (s : Stores) (record : ConnectionRecord) (password : JsString) : Prop :=
  ∃ requests, (KesshHost.openSession (draft (.int record.id) password) s).2 = .native requests ∧
    .openSessionAsync record.host record.port record.username
      (if password.isEmpty then (s.connections.passwords record.id).getD [] else password) ∈ requests

/-- No saved host is reached: only the password is looked up by the record's id. -/
theorem saved_host_not_reached (digest : JsString → JsString) (s : Stores) (reachable : Reachable digest s)
    (record : ConnectionRecord) (member : record ∈ s.connections.history) (password : JsString) :
    ¬ ReachesRecord s record password := by
  rintro ⟨requests, asked, wanted⟩
  have present := ((reachable_invariant digest s reachable).wellFormed record member).host_present
  obtain rfl := HostReply.native.inj asked
  rcases List.mem_cons.mp wanted with keepalive | opened
  · exact absurd keepalive (by simp [KesshHost.configureKeepalive])
  · exact present (NativeRequest.openSessionAsync.inj (List.mem_singleton.mp opened)).1

-- A fresh installation where one host was saved through the bridge.
def savedHost : List HostCall :=
  [.addConnection { host := js "example.com", port := .text (js "2222"), username := js "root" }]

def savedHostStores : Stores := Labelled.states (KesshHost.perform id) (initialStores noon { available := true }) savedHost

def savedHostRecord : ConnectionRecord :=
  { id := 1, name := js "root@example.com:2222", host := js "example.com", port := 2222, username := js "root",
    authType := .password, time := js "Today 12:00" }

theorem saved_host_not_reached_first : ¬ ReachesRecord savedHostStores savedHostRecord (js "secret") :=
  saved_host_not_reached id savedHostStores (reachable_calls id noon { available := true } savedHost) savedHostRecord
    (by decide) (js "secret")

-- The native layer is asked for the empty host with the empty user at port 22.
theorem empty_host_asked :
    Reachable id savedHostStores ∧ savedHostRecord ∈ savedHostStores.connections.history ∧
      (KesshHost.openSession (draft (.int savedHostRecord.id) (js "secret")) savedHostStores).2 =
        .native [.setKeepaliveConfig (.int 60) (.int 3), .openSessionAsync [] 22 [] (js "secret")] ∧
      ¬ ReachesRecord savedHostStores savedHostRecord (js "secret") := by
  have asked : (KesshHost.openSession (draft (.int savedHostRecord.id) (js "secret")) savedHostStores).2 =
      .native [.setKeepaliveConfig (.int 60) (.int 3), .openSessionAsync [] 22 [] (js "secret")] := by decide
  refine ⟨reachable_calls id noon { available := true } savedHost, by decide, asked, ?_⟩
  rintro ⟨requests, requested, wanted⟩
  obtain rfl := HostReply.native.inj (asked.symm.trans requested)
  revert wanted
  decide

end TerminalPage

end Kessh
