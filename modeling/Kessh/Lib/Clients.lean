import Kessh.Lib.Ledger

set_option autoImplicit false

-- Clients of a place that hands things out and takes them back. Each has a ledger of what it asks for, and the
-- place does it for each in order.
namespace Clients

open Ledger

-- What it counts on from its surroundings is in Fits. As long as that holds its ledger is in order, and a client
-- that has gone has asked for everything to be taken back.
structure Client (α : Type) [DecidableEq α] where
  State : Type
  Event : Type
  initial : State
  step : State → Event → Option State
  ledger : State → List (Entry α)
  gone : State → Bool
  Fits : State → Event → Prop
  Good : State → Prop
  good_initial : Good initial
  good_step : ∀ before event after, Good before → Fits before event → step before event = some after → Good after
  grows : ∀ before event after, Good before → step before event = some after → ledger before <:+ ledger after
  sound : ∀ state, Good state → Sound (ledger state)
  left : ∀ state, Good state → gone state = true → live (ledger state) = []

variable {α κ : Type} [DecidableEq α]

-- A client of some kind, with what has been done for it, newest first.
structure Seat (client : κ → Client α) where
  kind : κ
  state : (client kind).State
  done : List (Entry α) := []

variable {client : κ → Client α}

namespace Seat

def ledger (seat : Seat client) : List (Entry α) := (client seat.kind).ledger seat.state

def gone (seat : Seat client) : Bool := (client seat.kind).gone seat.state

def holds (seat : Seat client) : List α := live seat.done

def got (seat : Seat client) : List α := acquired seat.done

def gaveBack (seat : Seat client) : List α := released seat.done

def appear (client : κ → Client α) (kind : κ) : Seat client := { kind, state := (client kind).initial }

def step [DecidableEq κ] (seat : Seat client) (kind : κ) (event : (client kind).Event) : Option (Seat client) :=
  if same : kind = seat.kind then
    ((client seat.kind).step seat.state (same ▸ event)).map fun state => { seat with state }
  else none

def Fits (seat : Seat client) (kind : κ) (event : (client kind).Event) : Prop :=
  ∀ same : kind = seat.kind, (client seat.kind).Fits seat.state (same ▸ event)

def asks (seat : Seat client) (entry : Entry α) : Bool := (entry :: seat.done).isSuffixOf seat.ledger

def serve (seat : Seat client) (entry : Entry α) : Seat client := { seat with done := entry :: seat.done }

structure Kept (seat : Seat client) : Prop where
  good : (client seat.kind).Good seat.state
  behind : seat.done <:+ seat.ledger

theorem appear_kept (kind : κ) : (appear client kind).Kept := ⟨(client kind).good_initial, List.nil_suffix⟩

theorem step_kept [DecidableEq κ] (seat next : Seat client) (kind : κ) (event : (client kind).Event) (kept : seat.Kept)
    (fits : seat.Fits kind event) (move : seat.step kind event = some next) : next.Kept ∧ next.done = seat.done := by
  unfold step at move
  split at move
  · rename_i same
    obtain ⟨state, moved, rfl⟩ := Option.map_eq_some_iff.mp move
    refine ⟨⟨?_, ?_⟩, rfl⟩
    · exact (client seat.kind).good_step seat.state _ state kept.good (fits same) moved
    · exact kept.behind.trans ((client seat.kind).grows seat.state _ state kept.good moved)
  · cases move

theorem serve_kept (seat : Seat client) (entry : Entry α) (kept : seat.Kept) (asked : seat.asks entry = true) :
    (seat.serve entry).Kept := ⟨kept.good, List.isSuffixOf_iff_suffix.mp asked⟩

theorem kept_sound (seat : Seat client) (kept : seat.Kept) : Sound seat.done := by
  obtain ⟨later, same⟩ := kept.behind
  refine sound_earlier later seat.done ?_
  rw [same]
  exact (client seat.kind).sound seat.state kept.good

theorem asks_sound (seat : Seat client) (entry : Entry α) (kept : seat.Kept) (asked : seat.asks entry = true) :
    Sound (entry :: seat.done) := kept_sound (seat.serve entry) (serve_kept seat entry kept asked)

/-- A client that has gone, and for which everything has been done, holds nothing. -/
theorem kept_left (seat : Seat client) (kept : seat.Kept) (gone : seat.gone = true) (settled : seat.done = seat.ledger) :
    seat.holds = [] := by
  rw [holds, settled]
  exact (client seat.kind).left seat.state kept.good gone

theorem kept_count (seat : Seat client) (kept : seat.Kept) (thing : α) :
    seat.holds.count thing + seat.gaveBack.count thing = seat.got.count thing :=
  (sound_count seat.done (kept_sound seat kept) thing).2

end Seat

theorem counted_set {β : Type} (f : β → List α) (items : List β) (i : Nat) (item later : β) (here : items[i]? = some item)
    (thing : α) : ((items.set i later).flatMap f).count thing + (f item).count thing =
      (items.flatMap f).count thing + (f later).count thing := by
  induction items generalizing i with
  | nil => cases here
  | cons first rest ih =>
      cases i with
      | zero =>
          obtain rfl := Option.some.inj here
          simp only [List.set_cons_zero, List.flatMap_cons, List.count_append]
          omega
      | succ i =>
          have earlier := ih i here
          simp only [List.set_cons_succ, List.flatMap_cons, List.count_append]
          omega

theorem seats_count (seats : List (Seat client)) (kept : ∀ seat ∈ seats, seat.Kept) (thing : α) :
    (seats.flatMap Seat.holds).count thing + (seats.flatMap Seat.gaveBack).count thing =
      (seats.flatMap Seat.got).count thing := by
  induction seats with
  | nil => rfl
  | cons seat rest ih =>
      have earlier := ih fun other member => kept other (List.mem_cons_of_mem _ member)
      have here := seat.kept_count (kept seat List.mem_cons_self) thing
      simp only [List.flatMap_cons, List.count_append]
      omega

theorem seats_set (seats : List (Seat client)) (i : Nat) (next : Seat client) (kept : ∀ seat ∈ seats, seat.Kept)
    (later : next.Kept) : ∀ seat ∈ seats.set i next, seat.Kept := by
  intro seat member
  rcases List.mem_or_eq_of_mem_set member with old | rfl
  · exact kept seat old
  · exact later

end Clients
