import Mathlib.Data.List.Perm.Basic
import Mathlib.Data.List.Count

set_option autoImplicit false

-- A ledger lists what was done with things that are acquired, used and released, the
-- newest entry first. Owners are counted against it: a thing is held by one owner from
-- its acquisition to its release, and by nobody afterwards.
namespace Ledger

variable {α : Type} [DecidableEq α]

inductive Entry (α : Type) where
  | acquire (thing : α)
  | use (thing : α)
  | release (thing : α)
deriving DecidableEq, Repr

def acquired : List (Entry α) → List α
  | [] => []
  | .acquire thing :: rest => thing :: acquired rest
  | .use _ :: rest => acquired rest
  | .release _ :: rest => acquired rest

def released : List (Entry α) → List α
  | [] => []
  | .acquire _ :: rest => released rest
  | .use _ :: rest => released rest
  | .release thing :: rest => thing :: released rest

def live : List (Entry α) → List α
  | [] => []
  | .acquire thing :: rest => thing :: live rest
  | .use _ :: rest => live rest
  | .release thing :: rest => (live rest).erase thing

def Sound : List (Entry α) → Prop
  | [] => True
  | .acquire thing :: rest => thing ∉ acquired rest ∧ Sound rest
  | .use thing :: rest => thing ∈ live rest ∧ Sound rest
  | .release thing :: rest => thing ∈ live rest ∧ Sound rest

def Balanced (ledger : List (Entry α)) (owners : List α) : Prop := Sound ledger ∧ (live ledger).Perm owners

theorem sound_count (ledger : List (Entry α)) (sound : Sound ledger) (thing : α) :
    (acquired ledger).count thing ≤ 1 ∧
      (live ledger).count thing + (released ledger).count thing = (acquired ledger).count thing := by
  induction ledger with
  | nil => simp [acquired, live, released]
  | cons entry rest ih =>
      cases entry with
      | acquire other =>
          obtain ⟨fresh, soundRest⟩ := sound
          have earlier := ih soundRest
          simp only [acquired, live, released, List.count_cons]
          by_cases same : other = thing
          · subst same
            have none : (acquired rest).count other = 0 := List.count_eq_zero.mpr fresh
            rw [none] at earlier ⊢
            simp only [beq_self_eq_true, if_true]
            omega
          · simp only [beq_iff_eq, same, if_false]
            omega
      | use other => exact ih sound.2
      | release other =>
          obtain ⟨alive, soundRest⟩ := sound
          have earlier := ih soundRest
          simp only [acquired, live, released, List.count_cons, List.count_erase]
          have positive : 0 < (live rest).count other := List.count_pos_iff.mpr alive
          by_cases same : other = thing
          · subst same
            simp only [beq_self_eq_true, if_true]
            omega
          · simp only [beq_iff_eq, same, if_false]
            omega

theorem sound_nodup (ledger : List (Entry α)) (sound : Sound ledger) :
    (acquired ledger).Nodup ∧ (live ledger).Nodup ∧ (released ledger).Nodup := by
  simp only [List.nodup_iff_count]
  refine ⟨fun thing => ?_, fun thing => ?_, fun thing => ?_⟩ <;> have counts := sound_count ledger sound thing <;> omega

theorem sound_earlier (later earlier : List (Entry α)) (sound : Sound (later ++ earlier)) : Sound earlier := by
  induction later with
  | nil => exact sound
  | cons entry rest ih => cases entry <;> exact ih sound.2

theorem sound_used (later earlier : List (Entry α)) (thing : α) (sound : Sound (later ++ .use thing :: earlier)) :
    thing ∈ live earlier := by
  induction later with
  | nil => exact sound.1
  | cons entry rest ih =>
      cases entry with
      | acquire other => exact ih sound.2
      | use other => exact ih sound.2
      | release other => exact ih sound.2

theorem balanced_nil : Balanced ([] : List (Entry α)) [] := ⟨trivial, .refl _⟩

theorem balanced_perm (ledger : List (Entry α)) (owners others : List α) (balanced : Balanced ledger owners)
    (same : owners.Perm others) : Balanced ledger others := ⟨balanced.1, balanced.2.trans same⟩

theorem balanced_acquire (ledger : List (Entry α)) (owners : List α) (thing : α) (balanced : Balanced ledger owners)
    (fresh : thing ∉ acquired ledger) : Balanced (.acquire thing :: ledger) (thing :: owners) :=
  ⟨⟨fresh, balanced.1⟩, balanced.2.cons thing⟩

theorem balanced_use (ledger : List (Entry α)) (owners : List α) (thing : α) (balanced : Balanced ledger owners)
    (owned : thing ∈ owners) : Balanced (.use thing :: ledger) owners :=
  ⟨⟨balanced.2.mem_iff.mpr owned, balanced.1⟩, balanced.2⟩

theorem balanced_release (ledger : List (Entry α)) (owners : List α) (thing : α) (balanced : Balanced ledger owners)
    (owned : thing ∈ owners) : Balanced (.release thing :: ledger) (owners.erase thing) :=
  ⟨⟨balanced.2.mem_iff.mpr owned, balanced.1⟩, balanced.2.erase thing⟩

theorem balanced_uses (ledger : List (Entry α)) (owners things : List α) (balanced : Balanced ledger owners)
    (owned : ∀ thing ∈ things, thing ∈ owners) : Balanced (things.map .use ++ ledger) owners := by
  induction things with
  | nil => exact balanced
  | cons thing rest ih =>
      exact balanced_use _ owners thing (ih fun other member => owned other (by simp [member])) (owned thing (by simp))

theorem balanced_owner_nodup (ledger : List (Entry α)) (owners : List α) (balanced : Balanced ledger owners) :
    owners.Nodup := balanced.2.nodup_iff.mp (sound_nodup ledger balanced.1).2.1

theorem balanced_owned_acquired (ledger : List (Entry α)) (owners : List α) (balanced : Balanced ledger owners)
    (thing : α) (owned : thing ∈ owners) : thing ∈ acquired ledger := by
  have counts := sound_count ledger balanced.1 thing
  have alive : 0 < (live ledger).count thing := List.count_pos_iff.mpr (balanced.2.mem_iff.mpr owned)
  exact List.count_pos_iff.mp (by omega)

theorem balanced_owned_not_released (ledger : List (Entry α)) (owners : List α) (balanced : Balanced ledger owners)
    (thing : α) (owned : thing ∈ owners) : thing ∉ released ledger := by
  have counts := sound_count ledger balanced.1 thing
  have alive : 0 < (live ledger).count thing := List.count_pos_iff.mpr (balanced.2.mem_iff.mpr owned)
  exact List.count_eq_zero.mp (by omega)

-- One step at once: things are used, then some are released, then new ones are acquired.
def record (uses : List α) (frees : α → Bool) (gains : List α) (ledger : List (Entry α)) : List (Entry α) :=
  gains.map .acquire ++ (((live ledger).filter frees).map .release ++ (uses.map .use ++ ledger))

theorem record_nothing (ledger : List (Entry α)) : record [] (fun _ => false) [] ledger = ledger := by
  simp [record]

omit [DecidableEq α] in
theorem uses_same (uses : List α) (ledger : List (Entry α)) :
    acquired (uses.map .use ++ ledger) = acquired ledger ∧ released (uses.map .use ++ ledger) = released ledger := by
  induction uses with
  | nil => exact ⟨rfl, rfl⟩
  | cons thing rest ih => exact ih

omit [DecidableEq α] in
theorem releases_same (things : List α) (ledger : List (Entry α)) :
    acquired (things.map .release ++ ledger) = acquired ledger ∧
      released (things.map .release ++ ledger) = things ++ released ledger := by
  induction things with
  | nil => exact ⟨rfl, rfl⟩
  | cons thing rest ih => exact ⟨ih.1, congrArg (thing :: ·) ih.2⟩

omit [DecidableEq α] in
theorem acquires_same (things : List α) (ledger : List (Entry α)) :
    acquired (things.map .acquire ++ ledger) = things ++ acquired ledger ∧
      released (things.map .acquire ++ ledger) = released ledger := by
  induction things with
  | nil => exact ⟨rfl, rfl⟩
  | cons thing rest ih => exact ⟨congrArg (thing :: ·) ih.1, ih.2⟩

theorem record_same (uses : List α) (frees : α → Bool) (gains : List α) (ledger : List (Entry α)) :
    acquired (record uses frees gains ledger) = gains ++ acquired ledger ∧
      released (record uses frees gains ledger) = (live ledger).filter frees ++ released ledger := by
  unfold record
  rw [(acquires_same gains _).1, (acquires_same gains _).2, (releases_same _ _).1, (releases_same _ _).2,
    (uses_same uses ledger).1, (uses_same uses ledger).2]
  exact ⟨rfl, rfl⟩

theorem balanced_releases (ledger : List (Entry α)) (owners things : List α) (balanced : Balanced ledger owners)
    (distinct : things.Nodup) (owned : ∀ thing ∈ things, thing ∈ owners) :
    Balanced (things.map .release ++ ledger) (owners.filter fun thing => !things.contains thing) := by
  induction things with
  | nil =>
      have all : (owners.filter fun thing => !([] : List α).contains thing) = owners := by simp
      rw [all]
      exact balanced
  | cons thing rest ih =>
      obtain ⟨once, distinctRest⟩ := List.nodup_cons.mp distinct
      have earlier := ih distinctRest fun other member => owned other (by simp [member])
      have here : thing ∈ owners.filter fun other => !rest.contains other := by simp [owned thing (by simp), once]
      have released := balanced_release _ _ thing earlier here
      rw [List.Nodup.erase_eq_filter (balanced_owner_nodup _ _ earlier), List.filter_filter] at released
      refine balanced_perm _ _ _ released (List.Perm.of_eq (List.filter_congr fun other _ => ?_))
      simp only [List.contains_cons, Bool.not_or, bne]

theorem balanced_acquires (ledger : List (Entry α)) (owners things : List α) (balanced : Balanced ledger owners)
    (distinct : things.Nodup) (fresh : ∀ thing ∈ things, thing ∉ acquired ledger) :
    Balanced (things.map .acquire ++ ledger) (things ++ owners) := by
  induction things with
  | nil => exact balanced
  | cons thing rest ih =>
      obtain ⟨once, distinctRest⟩ := List.nodup_cons.mp distinct
      have absent : thing ∉ acquired (rest.map .acquire ++ ledger) := by
        rw [(acquires_same rest ledger).1, List.mem_append, not_or]
        exact ⟨once, fresh thing (by simp)⟩
      exact balanced_acquire _ _ thing (ih distinctRest fun other member => fresh other (by simp [member])) absent

theorem balanced_record (uses : List α) (frees : α → Bool) (gains : List α) (ledger : List (Entry α))
    (owners : List α) (balanced : Balanced ledger owners) (owned : ∀ thing ∈ uses, thing ∈ owners)
    (distinct : gains.Nodup) (fresh : ∀ thing ∈ gains, thing ∉ acquired ledger) :
    Balanced (record uses frees gains ledger) (gains ++ owners.filter fun thing => !frees thing) := by
  have used := balanced_uses ledger owners uses balanced owned
  have gone := balanced_releases _ owners ((live ledger).filter frees) used
    ((sound_nodup ledger balanced.1).2.1.filter frees)
    fun thing member => balanced.2.mem_iff.mp (List.mem_filter.mp member).1
  have kept : (owners.filter fun thing => !((live ledger).filter frees).contains thing) =
      owners.filter fun thing => !frees thing := by
    refine List.filter_congr fun thing member => ?_
    have alive := balanced.2.mem_iff.mpr member
    cases freed : frees thing <;> simp [alive, freed]
  rw [kept] at gone
  refine balanced_acquires _ _ gains gone distinct fun thing member => ?_
  rw [(releases_same _ _).1, (uses_same uses ledger).1]
  exact fresh thing member

/-- What was acquired has exactly one owner and was never released, or was released exactly
once and has no owner left. -/
theorem balanced_exclusive (ledger : List (Entry α)) (owners : List α) (balanced : Balanced ledger owners) (thing : α)
    (known : thing ∈ acquired ledger) :
    (owners.count thing = 1 ∧ (released ledger).count thing = 0) ∨
      (owners.count thing = 0 ∧ (released ledger).count thing = 1) := by
  have counts := sound_count ledger balanced.1 thing
  have some : 0 < (acquired ledger).count thing := List.count_pos_iff.mpr known
  have same := balanced.2.count_eq thing
  omega

end Ledger
