import Mathlib.Data.List.Basic
import Mathlib.Order.Basic

set_option autoImplicit false

-- A registry gives what it takes in consecutive numbers: entries are rewritten and removed
-- under their number, and a number is never given twice.
structure Registry (α : Type) where
  next : Nat
  entry : Nat → Option α

namespace Registry

variable {α : Type}

def empty (next : Nat) : Registry α := ⟨next, fun _ => none⟩

def add (make : Nat → α) (r : Registry α) : Registry α :=
  ⟨r.next + 1, fun id => if id = r.next then some (make r.next) else r.entry id⟩

def write (id : Nat) (value : α) (r : Registry α) : Registry α :=
  ⟨r.next, fun other => if other = id then some value else r.entry other⟩

def remove (id : Nat) (r : Registry α) : Registry α :=
  ⟨r.next, fun other => if other = id then none else r.entry other⟩

theorem add_last (make : Nat → α) (r : Registry α) : (r.add make).entry r.next = some (make r.next) := if_pos rfl

theorem add_other (make : Nat → α) (r : Registry α) (id : Nat) (other : id ≠ r.next) : (r.add make).entry id = r.entry id :=
  if_neg other

theorem write_same (id : Nat) (value : α) (r : Registry α) : (r.write id value).entry id = some value := if_pos rfl

theorem write_other (id other : Nat) (value : α) (r : Registry α) (different : other ≠ id) :
    (r.write id value).entry other = r.entry other := if_neg different

theorem remove_same (id : Nat) (r : Registry α) : (r.remove id).entry id = none := if_pos rfl

theorem remove_other (id other : Nat) (r : Registry α) (different : other ≠ id) :
    (r.remove id).entry other = r.entry other := if_neg different

def oldest (r : Registry α) : List α := (List.range r.next).filterMap r.entry

def newest (r : Registry α) : List α := r.oldest.reverse

variable (idOf : α → Nat)

structure Sound (r : Registry α) : Prop where
  filed : ∀ id value, r.entry id = some value → idOf value = id
  below : ∀ id value, r.entry id = some value → id < r.next

theorem empty_sound (next : Nat) : Sound idOf (empty next) := ⟨nofun, nofun⟩

theorem add_sound (make : Nat → α) (r : Registry α) (sound : Sound idOf r) (numbered : idOf (make r.next) = r.next) :
    Sound idOf (r.add make) := by
  constructor
  · intro id value present
    by_cases last : id = r.next
    · subst last
      rw [add_last] at present
      rw [← Option.some.inj present, numbered]
    · rw [add_other make r id last] at present
      exact sound.filed id value present
  · intro id value present
    by_cases last : id = r.next
    · exact last ▸ Nat.lt_succ_self r.next
    · rw [add_other make r id last] at present
      exact Nat.lt_succ_of_lt (sound.below id value present)

theorem write_sound (id : Nat) (value : α) (r : Registry α) (sound : Sound idOf r) (numbered : idOf value = id)
    (known : id < r.next) : Sound idOf (r.write id value) := by
  constructor
  · intro other found present
    by_cases same : other = id
    · subst same
      rw [write_same] at present
      rw [← Option.some.inj present, numbered]
    · rw [write_other id other value r same] at present
      exact sound.filed other found present
  · intro other found present
    by_cases same : other = id
    · exact same ▸ known
    · rw [write_other id other value r same] at present
      exact sound.below other found present

theorem remove_entry (id other : Nat) (value : α) (r : Registry α) (present : (r.remove id).entry other = some value) :
    r.entry other = some value := by
  by_cases same : other = id
  · subst same
    rw [remove_same] at present
    exact nomatch present
  · rwa [remove_other id other r same] at present

theorem remove_sound (id : Nat) (r : Registry α) (sound : Sound idOf r) : Sound idOf (r.remove id) :=
  ⟨fun other value present => sound.filed other value (remove_entry id other value r present),
    fun other value present => sound.below other value (remove_entry id other value r present)⟩

theorem mem_oldest (r : Registry α) (sound : Sound idOf r) (value : α) :
    value ∈ r.oldest ↔ r.entry (idOf value) = some value := by
  rw [oldest, List.mem_filterMap]
  constructor
  · rintro ⟨id, _, present⟩
    rwa [sound.filed id value present]
  · intro present
    exact ⟨idOf value, List.mem_range.mpr (sound.below _ value present), present⟩

theorem oldest_ids (r : Registry α) (sound : Sound idOf r) : r.oldest.Pairwise fun a b => idOf a < idOf b := by
  refine List.Pairwise.filterMap r.entry ?_ List.pairwise_lt_range
  intro first second before a one b two
  rw [sound.filed first a one, sound.filed second b two]
  exact before

theorem oldest_add (make : Nat → α) (r : Registry α) : (r.add make).oldest = r.oldest ++ [make r.next] := by
  have earlier : (List.range r.next).filterMap (r.add make).entry = r.oldest := by
    refine List.filterMap_congr fun id member => ?_
    exact add_other make r id (Nat.ne_of_lt (List.mem_range.mp member))
  have range : List.range (r.add make).next = List.range r.next ++ [r.next] := List.range_succ
  rw [oldest, range, List.filterMap_append, earlier, List.filterMap_cons, add_last]
  rfl

theorem oldest_remove (id : Nat) (r : Registry α) (sound : Sound idOf r) :
    (r.remove id).oldest = r.oldest.filter fun value => idOf value != id := by
  rw [oldest, oldest, List.filter_filterMap]
  refine List.filterMap_congr fun other _ => ?_
  by_cases same : other = id
  · rw [same, remove_same]
    cases present : r.entry id with
    | none => rfl
    | some value =>
        rw [Option.filter_some, sound.filed id value present]
        simp
  · rw [remove_other id other r same]
    cases present : r.entry other with
    | none => rfl
    | some value =>
        rw [Option.filter_some, sound.filed other value present]
        simp [same]

theorem oldest_write (id : Nat) (value : α) (r : Registry α) (sound : Sound idOf r) (known : r.entry id ≠ none) :
    (r.write id value).oldest = r.oldest.map fun other => if idOf other = id then value else other := by
  rw [oldest, oldest, List.map_filterMap]
  refine List.filterMap_congr fun other _ => ?_
  by_cases same : other = id
  · rw [same, write_same]
    cases present : r.entry id with
    | none => exact absurd present known
    | some old => rw [Option.map_some, if_pos (sound.filed id old present)]
  · rw [write_other id other value r same]
    cases present : r.entry other with
    | none => rfl
    | some old => rw [Option.map_some, if_neg (sound.filed other old present ▸ same)]

/-- Looking for a number among the entries finds what the registry has under it, in either order. -/
theorem find_listed (entries : List α) (r : Registry α) (sound : Sound idOf r) (listed : ∀ value, value ∈ entries ↔ value ∈ r.oldest)
    (id : Nat) : entries.find? (fun value => idOf value == id) = r.entry id := by
  cases found : entries.find? fun value => idOf value == id with
  | none =>
      cases present : r.entry id with
      | none => rfl
      | some value =>
          have numbered := sound.filed id value present
          have member := (listed value).mpr ((mem_oldest idOf r sound value).mpr (numbered.symm ▸ present))
          exact absurd numbered (by simpa using List.find?_eq_none.mp found value member)
  | some value =>
      have numbered : idOf value = id := by simpa using List.find?_some found
      have present := (mem_oldest idOf r sound value).mp ((listed value).mp (List.mem_of_find?_eq_some found))
      rw [← numbered, present]

-- A list of entries and a counter that stand for a registry.
structure Keeps (r : Registry α) (seq : Nat) (entries : List α) : Prop where
  sound : Sound idOf r
  counted : seq = r.next
  listed : entries = r.oldest

variable {idOf}

theorem keeps_add (make : Nat → α) (r : Registry α) (seq : Nat) (entries : List α) (keeps : Keeps idOf r seq entries)
    (numbered : ∀ id, idOf (make id) = id) : Keeps idOf (r.add make) (seq + 1) (entries ++ [make seq]) where
  sound := add_sound idOf make r keeps.sound (numbered r.next)
  counted := congrArg (· + 1) keeps.counted
  listed := by rw [oldest_add, keeps.listed, keeps.counted]

theorem keeps_remove (id : Nat) (r : Registry α) (seq : Nat) (entries : List α) (keeps : Keeps idOf r seq entries) :
    Keeps idOf (r.remove id) seq (entries.filter fun value => idOf value != id) where
  sound := remove_sound idOf id r keeps.sound
  counted := keeps.counted
  listed := by rw [oldest_remove idOf id r keeps.sound, keeps.listed]

theorem keeps_write (id : Nat) (value old : α) (r : Registry α) (seq : Nat) (entries : List α) (keeps : Keeps idOf r seq entries)
    (numbered : idOf value = id) (present : r.entry id = some old) :
    Keeps idOf (r.write id value) seq (entries.map fun other => if idOf other = id then value else other) where
  sound := write_sound idOf id value r keeps.sound numbered (keeps.sound.below id old present)
  counted := keeps.counted
  listed := by rw [oldest_write idOf id value r keeps.sound (by rw [present]; simp), keeps.listed]

theorem keeps_find (r : Registry α) (seq : Nat) (entries same : List α) (keeps : Keeps idOf r seq entries)
    (listed : ∀ value, value ∈ same ↔ value ∈ entries) (id : Nat) :
    same.find? (fun value => idOf value == id) = r.entry id :=
  find_listed idOf same r keeps.sound (fun value => by rw [listed value, keeps.listed]) id

def Retired (r : Registry α) (id : Nat) : Prop := id < r.next ∧ r.entry id = none

theorem add_retired (make : Nat → α) (r : Registry α) (id : Nat) (retired : Retired r id) : Retired (r.add make) id :=
  ⟨Nat.lt_succ_of_lt retired.1, by rw [add_other make r id (Nat.ne_of_lt retired.1), retired.2]⟩

theorem remove_retired (id other : Nat) (r : Registry α) (retired : Retired r id) : Retired (r.remove other) id := by
  refine ⟨retired.1, ?_⟩
  by_cases same : id = other
  · exact same ▸ remove_same id r
  · rw [remove_other other id r same, retired.2]

theorem retired_unlisted (r : Registry α) (seq : Nat) (entries : List α) (keeps : Keeps idOf r seq entries) (id : Nat)
    (retired : Retired r id) : ∀ value ∈ entries, idOf value ≠ id := by
  intro value member same
  rw [keeps.listed] at member
  have present := (mem_oldest idOf r keeps.sound value).mp member
  rw [same, retired.2] at present
  exact nomatch present

end Registry
