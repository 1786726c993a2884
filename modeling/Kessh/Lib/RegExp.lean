import Mathlib.Data.List.TakeWhile

set_option autoImplicit false

-- Regular expressions ^…$ that are a sequence of single units and of greedy runs of a class,
-- matched by backtracking; the runs in parentheses are captured.
namespace RegExp

variable {α : Type}

inductive Atom (α : Type) where
  | unit (unit : α)
  | run (inClass : α → Bool) (captured : Bool)

def keep (captured : Bool) (piece : List α) (groups : List (List α)) : List (List α) :=
  if captured then piece :: groups else groups

def lengths : Nat → List Nat
  | 0 => []
  | n + 1 => (n + 1) :: lengths n

structure Run (inClass : α → Bool) (text : List α) : Prop where
  nonempty : text ≠ []
  members : ∀ unit ∈ text, inClass unit = true

inductive Matches : List (Atom α) → List α → List (List α) → Prop
  | finish : Matches [] [] []
  | unit (expected : α) (pattern : List (Atom α)) (rest : List α) (groups : List (List α))
      (later : Matches pattern rest groups) : Matches (.unit expected :: pattern) (expected :: rest) groups
  | run (inClass : α → Bool) (captured : Bool) (pattern : List (Atom α)) (piece rest : List α)
      (groups : List (List α)) (piece_run : Run inClass piece) (later : Matches pattern rest groups) :
      Matches (.run inClass captured :: pattern) (piece ++ rest) (keep captured piece groups)

theorem mem_lengths (bound n : Nat) : n ∈ lengths bound ↔ 1 ≤ n ∧ n ≤ bound := by
  induction bound with
  | zero =>
      simp only [lengths, List.not_mem_nil, false_iff]
      omega
  | succ bound ih =>
      rw [lengths, List.mem_cons, ih]
      omega

-- What follows a run cannot belong to it, so a text is cut in one way only.
def Separated : List (Atom α) → Prop
  | .run inClass _ :: .unit expected :: pattern => inClass expected = false ∧ Separated (.unit expected :: pattern)
  | .run inClass _ :: .run other captured :: pattern =>
      (∀ unit, inClass unit = true → other unit = false) ∧ Separated (.run other captured :: pattern)
  | _ :: pattern => Separated pattern
  | [] => True

theorem separated_tail (atom : Atom α) (pattern : List (Atom α)) (separated : Separated (atom :: pattern)) :
    Separated pattern := by
  cases atom with
  | unit expected => exact separated
  | run inClass captured =>
      cases pattern with
      | nil => exact separated
      | cons next pattern =>
          cases next with
          | unit expected => exact separated.2
          | run other captured => exact separated.2

theorem run_ends (inClass : α → Bool) (captured : Bool) (pattern : List (Atom α)) (rest : List α)
    (groups : List (List α)) (separated : Separated (.run inClass captured :: pattern))
    (later : Matches pattern rest groups) : rest.takeWhile inClass = [] := by
  cases later with
  | finish => rfl
  | unit expected pattern rest groups later => simp [separated.1]
  | run other captured pattern piece rest groups piece_run later =>
      cases piece with
      | nil => exact absurd rfl piece_run.nonempty
      | cons unit piece =>
          have outside : inClass unit ≠ true := fun inside => by
            have apart := separated.1 unit inside
            rw [piece_run.members unit List.mem_cons_self] at apart
            cases apart
          simp [outside]

theorem matches_unique (pattern : List (Atom α)) (separated : Separated pattern) (text : List α)
    (groups others : List (List α)) (cut : Matches pattern text groups) (again : Matches pattern text others) :
    groups = others := by
  induction cut generalizing others with
  | finish =>
      cases again
      rfl
  | unit expected pattern rest groups later ih =>
      cases again with
      | unit _ _ _ _ same => exact ih (separated_tail _ _ separated) others same
  | run inClass captured pattern piece rest groups piece_run later ih =>
      have first : (piece ++ rest).takeWhile inClass = piece := by
        rw [List.takeWhile_append_of_pos piece_run.members, run_ends inClass captured pattern rest groups separated later,
          List.append_nil]
      generalize whole : piece ++ rest = text at again first
      cases again with
      | run _ _ _ other tail found other_run same =>
          have second : (other ++ tail).takeWhile inClass = other := by
            rw [List.takeWhile_append_of_pos other_run.members, run_ends inClass captured pattern tail found separated same,
              List.append_nil]
          obtain rfl : piece = other := first.symm.trans second
          obtain rfl : rest = tail := List.append_cancel_left whole
          rw [ih (separated_tail _ _ separated) found same]

def literal (units : List α) : List (Atom α) := units.map .unit

theorem matches_literal (units : List α) (pattern : List (Atom α)) (text : List α) (groups : List (List α)) :
    Matches (literal units ++ pattern) text groups ↔ ∃ rest, text = units ++ rest ∧ Matches pattern rest groups := by
  induction units generalizing text with
  | nil =>
      constructor
      · exact fun cut => ⟨text, rfl, cut⟩
      · rintro ⟨rest, rfl, cut⟩
        exact cut
  | cons expected units ih =>
      constructor
      · intro cut
        cases cut with
        | unit _ _ rest _ later =>
            obtain ⟨tail, rfl, cut⟩ := (ih rest).mp later
            exact ⟨tail, rfl, cut⟩
      · rintro ⟨rest, rfl, cut⟩
        exact .unit expected _ _ groups ((ih _).mpr ⟨rest, rfl, cut⟩)

theorem matches_run (inClass : α → Bool) (captured : Bool) (pattern : List (Atom α)) (text : List α)
    (groups : List (List α)) :
    Matches (.run inClass captured :: pattern) text groups ↔
      ∃ piece rest inner, Run inClass piece ∧ text = piece ++ rest ∧ Matches pattern rest inner ∧
        groups = keep captured piece inner := by
  constructor
  · intro cut
    cases cut with
    | run _ _ _ piece rest inner piece_run later => exact ⟨piece, rest, inner, piece_run, rfl, later, rfl⟩
  · rintro ⟨piece, rest, inner, piece_run, rfl, later, rfl⟩
    exact .run inClass captured pattern piece rest inner piece_run later

theorem matches_nil (text : List α) (groups : List (List α)) :
    Matches ([] : List (Atom α)) text groups ↔ text = [] ∧ groups = [] := by
  constructor
  · intro cut
    cases cut
    exact ⟨rfl, rfl⟩
  · rintro ⟨rfl, rfl⟩
    exact .finish

variable [DecidableEq α]

def exec : List (Atom α) → List α → Option (List (List α))
  | [], text => if text.isEmpty then some [] else none
  | .unit _ :: _, [] => none
  | .unit expected :: pattern, unit :: rest => if unit = expected then exec pattern rest else none
  | .run inClass captured :: pattern, text =>
      (lengths (text.takeWhile inClass).length).findSome? fun n =>
        (exec pattern (text.drop n)).map (keep captured (text.take n))

theorem exec_matches (pattern : List (Atom α)) (text : List α) (groups : List (List α))
    (found : exec pattern text = some groups) : Matches pattern text groups := by
  induction pattern generalizing text groups with
  | nil =>
      rw [exec] at found
      split at found
      · rename_i empty
        obtain rfl := List.isEmpty_iff.mp empty
        cases found
        exact .finish
      · cases found
  | cons atom pattern ih =>
      cases atom with
      | unit expected =>
          cases text with
          | nil => cases found
          | cons unit rest =>
              rw [exec] at found
              split at found
              · rename_i same
                subst same
                exact .unit unit pattern rest groups (ih rest groups found)
              · cases found
      | run inClass captured =>
          rw [exec] at found
          obtain ⟨n, tried, hit⟩ := List.exists_of_findSome?_eq_some found
          obtain ⟨inner, later, rfl⟩ := Option.map_eq_some_iff.mp hit
          obtain ⟨lower, upper⟩ := (mem_lengths _ n).mp tried
          have start : text.take n <+: text.takeWhile inClass :=
            List.prefix_of_prefix_length_le (List.take_prefix n text) (List.takeWhile_prefix inClass)
              (Nat.le_trans (List.length_take_le n text) upper)
          have size : (text.takeWhile inClass).length ≤ text.length := (List.takeWhile_prefix inClass).length_le
          have members : ∀ unit ∈ text.take n, inClass unit = true := fun unit here =>
            List.mem_takeWhile_imp (start.subset here)
          have nonempty : text.take n ≠ [] := fun empty => by
            have none := congrArg List.length empty
            rw [List.length_take, List.length_nil] at none
            omega
          have cut := Matches.run inClass captured pattern _ _ inner ⟨nonempty, members⟩ (ih _ inner later)
          rwa [List.take_append_drop] at cut

theorem matches_exec (pattern : List (Atom α)) (text : List α) (groups : List (List α))
    (cut : Matches pattern text groups) : ∃ found, exec pattern text = some found := by
  induction cut with
  | finish => exact ⟨[], rfl⟩
  | unit expected pattern rest groups later ih =>
      rw [exec, if_pos rfl]
      exact ih
  | run inClass captured pattern piece rest groups piece_run later ih =>
      obtain ⟨found, reached⟩ := ih
      have long : piece.length ≤ ((piece ++ rest).takeWhile inClass).length := by
        rw [List.takeWhile_append_of_pos piece_run.members, List.length_append]
        omega
      have tried : piece.length ∈ lengths ((piece ++ rest).takeWhile inClass).length :=
        (mem_lengths _ _).mpr ⟨List.length_pos_iff.mpr piece_run.nonempty, long⟩
      rw [exec]
      refine Option.isSome_iff_exists.mp (List.findSome?_isSome_iff.mpr ⟨piece.length, tried, ?_⟩)
      rw [List.drop_left, reached]
      rfl

/-- Where the runs of a pattern are separated, `match` finds the one way to cut the text, or there is none. -/
theorem exec_iff (pattern : List (Atom α)) (separated : Separated pattern) (text : List α) (groups : List (List α)) :
    exec pattern text = some groups ↔ Matches pattern text groups := by
  refine ⟨exec_matches pattern text groups, fun cut => ?_⟩
  obtain ⟨found, reached⟩ := matches_exec pattern text groups cut
  rw [reached, matches_unique pattern separated text found groups (exec_matches pattern text found reached) cut]

end RegExp
