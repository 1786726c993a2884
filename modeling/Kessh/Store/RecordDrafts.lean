import Kessh.Store.ConnectionInvariant

set_option autoImplicit false

namespace Kessh

open Ecma Labelled

namespace ConnectionStore

theorem decimal_orDefault (port : Nat) : (PortField.text (decimal port)).orDefault = .text (decimal port) := by
  have digits := decimal_isDecimal port
  cases text : decimal port with
  | nil =>
      rw [text] at digits
      exact absurd digits (by decide)
  | cons digit rest => rfl

-- A draft that says what a stored record says: trimmed, with the port printed.
structure Copies (draft : ConnectionDraft) (record : ConnectionRecord) : Prop where
  host : draft.host = record.host
  port : draft.port = .text (decimal record.port)
  username : draft.username = record.username

theorem draftFromRecord_copies (record : ConnectionRecord) (password : Option JsString) :
    Copies (draftFromRecord record password) record := ⟨rfl, rfl, rfl⟩

theorem draftForPasswordInput_copies (record : ConnectionRecord) : Copies (draftForPasswordInput record) record :=
  ⟨rfl, rfl, rfl⟩

theorem copies_valid (draft : ConnectionDraft) (record : ConnectionRecord) (copies : Copies draft record)
    (wellFormed : WellFormedRecord record) : Valid draft record.port where
  host_present := by
    rw [copies.host, wellFormed.host_trimmed]
    exact wellFormed.host_present
  host_ordinary := by
    rw [copies.host, wellFormed.host_trimmed]
    exact wellFormed.host_ordinary
  username_present := by
    rw [copies.username, wellFormed.username_trimmed]
    exact wellFormed.username_present
  port_parsed := by
    rw [copies.port, decimal_orDefault, parsePort,
      parsePortText_decimal record.port wellFormed.port_bounds.1 wellFormed.port_bounds.2]

theorem copies_normalized (draft : ConnectionDraft) (record : ConnectionRecord) (copies : Copies draft record)
    (wellFormed : WellFormedRecord record) : normalizeDraft draft = .ok draft := by
  have host : trim draft.host = draft.host := by rw [copies.host, wellFormed.host_trimmed]
  have username : trim draft.username = draft.username := by rw [copies.username, wellFormed.username_trimmed]
  have parsed := (copies_valid draft record copies wellFormed).port_parsed
  rw [normalizeDraft_port draft record.port parsed, host, username, ← copies.port]

theorem copies_recordFor (draft : ConnectionDraft) (record : ConnectionRecord) (copies : Copies draft record)
    (wellFormed : WellFormedRecord record) (time : JsString) :
    recordFor draft record.port record.authType record.id time = { record with time } := by
  rw [recordFor, copies.host, copies.username, wellFormed.host_trimmed, wellFormed.username_trimmed, recordName,
    ← wellFormed.name_shown]

theorem split_unique (history : List ConnectionRecord) (distinct : (ids history).Nodup) (record : ConnectionRecord)
    (member : record ∈ history) :
    ∃ front back, history = front ++ record :: back ∧ ∀ other ∈ front, other.id ≠ record.id := by
  obtain ⟨front, back, rfl⟩ := List.append_of_mem member
  rw [ids, List.map_append, List.map_cons, List.nodup_append] at distinct
  exact ⟨front, back, rfl, fun other before =>
    distinct.2.2 _ (List.mem_map_of_mem before) _ List.mem_cons_self⟩

theorem findInternal_split (record : ConnectionRecord) (front back : List ConnectionRecord)
    (before : ∀ other ∈ front, other.id ≠ record.id) :
    findInternal (.int record.id) (front ++ record :: back) = some record := by
  refine List.find?_eq_some_iff_append.mpr ⟨by simp, front, back, rfl, fun other member => ?_⟩
  have different : (other.id : Int) ≠ record.id := fun same => before other member (Int.ofNat_inj.mp same)
  simpa using different

theorem editing_finds (record : ConnectionRecord) (front back : List ConnectionRecord)
    (before : ∀ other ∈ front, other.id ≠ record.id) :
    existingRecord (draftForPasswordInput record) (front ++ record :: back) = some record :=
  findInternal_split record front back before

/-- In every reachable state the drafts made of a stored record are valid and already normal, and
adding the one for the password input rewrites that record with what it says, its time apart. -/
theorem record_draft_round_trip (clock : Clock) (appStorage : AppStorage) (calls : List StoreCall) (s : Holding)
    (run : Run Performs ⟨initialStores clock appStorage, []⟩ calls s) (r : ConnectionRecord)
    (member : r ∈ s.stores.connections.history) :
    (∀ draft, (draft = draftForPasswordInput r ∨ ∃ password, draft = draftFromRecord r password) →
      validateDraft draft = .ok none ∧ normalizeDraft draft = .ok draft) ∧
    ∃ time front back, s.stores.connections.history = front ++ r :: back ∧
      (addFromDraft (draftForPasswordInput r) r.authType s.stores).1 = .ok { r with time } ∧
      (addFromDraft (draftForPasswordInput r) r.authType s.stores).2.connections =
        { s.stores.connections with history := front ++ { r with time } :: back } := by
  have held : Held s := run_invariant Performs Held performs_held _ calls s
    ⟨initial_invariant, fun _ member => absurd member (by simp)⟩ run
  have wellFormed := held.1.wellFormed r member
  constructor
  · intro draft made
    have copies : Copies draft r := by
      rcases made with rfl | ⟨password, rfl⟩
      · exact draftForPasswordInput_copies r
      · exact draftFromRecord_copies r password
    exact ⟨(validateDraft_none draft).mpr ⟨r.port, copies_valid draft r copies wellFormed⟩,
      copies_normalized draft r copies wellFormed⟩
  · obtain ⟨front, back, split, before⟩ := split_unique _ (ids_nodup _ held.1) r member
    have copies := draftForPasswordInput_copies r
    have found : existingRecord (draftForPasswordInput r) s.stores.connections.history = some r := by
      rw [split]
      exact editing_finds r front back before
    obtain ⟨result, after⟩ := addFromDraft_edits (draftForPasswordInput r) r.authType s.stores r.port r
      (copies_valid _ r copies wellFormed) found
    rw [copies_recordFor _ r copies wellFormed] at result after
    have written := writeInternal_split { r with time := (nowLabel s.stores).1 } r front back rfl before
    refine ⟨(nowLabel s.stores).1, front, back, split, result, ?_⟩
    rw [after, split, written]

theorem record_draft_round_trip_added :
    let draft : ConnectionDraft := { host := js " 10.0.0.1", port := .text [], username := js "root" }
    let record := recordFor draft 22 .password 1 (js "Today 12:00")
    validateDraft (draftForPasswordInput record) = .ok none := by
  intro draft record
  have run : Run Performs ⟨initialStores noon { available := true }, []⟩ [.addFromDraft draft .password]
      ((StoreCall.addFromDraft draft .password).perform ⟨initialStores noon { available := true }, []⟩) :=
    run_single _ _ _ _ ⟨fun _ _ same => absurd same (by simp), rfl⟩
  exact ((record_draft_round_trip noon { available := true } _ _ run record (by decide)).1 _ (.inl rfl)).1

end ConnectionStore

end Kessh
