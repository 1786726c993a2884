import Mathlib.Data.List.TakeWhile

set_option autoImplicit false

-- Regular expressions without anchors: the first place where one matches, found by backtracking, and
-- the groups that it captures there.
namespace RegExpSearch

variable {α : Type}

-- A run takes as many units as it can, a lazy one as few; what is optional is tried first.
inductive Pattern (α : Type) where
  | unit (accepts : α → Bool)
  | run (accepts : α → Bool) (least : Nat)
  | lazy (accepts : α → Bool)
  | optional (inner : Pattern α)
  | seq (first second : Pattern α)
  | group (inner : Pattern α)

abbrev Groups (α : Type) := List (List α)

namespace Pattern

-- The match goes on with what is left of the text and the groups so far.
def attempt : Pattern α → List α → Groups α → (List α → Groups α → Option (Groups α)) → Option (Groups α)
  | .unit _, [], _, _ => none
  | .unit accepts, first :: rest, groups, next => if accepts first then next rest groups else none
  | .run accepts least, text, groups, next =>
      (List.range' least ((text.takeWhile accepts).length + 1 - least)).reverse.findSome? fun n => next (text.drop n) groups
  | .lazy accepts, text, groups, next =>
      (List.range ((text.takeWhile accepts).length + 1)).findSome? fun n => next (text.drop n) groups
  | .optional inner, text, groups, next => (inner.attempt text groups next).or (next text groups)
  | .seq first second, text, groups, next =>
      first.attempt text groups fun rest groups => second.attempt rest groups next
  | .group inner, text, groups, next =>
      inner.attempt text groups fun rest groups => next rest (groups ++ [text.take (text.length - rest.length)])

def here (pattern : Pattern α) (text : List α) : Option (Groups α) := pattern.attempt text [] fun _ groups => some groups

def search (pattern : Pattern α) : List α → Option (Groups α)
  | [] => pattern.here []
  | first :: rest => (pattern.here (first :: rest)).or (pattern.search rest)

-- What a pattern can take, with the groups in the order in which they close.
def Takes : Pattern α → List α → Groups α → Prop
  | .unit accepts, piece, captured => captured = [] ∧ ∃ unit, accepts unit = true ∧ piece = [unit]
  | .run accepts least, piece, captured => captured = [] ∧ least ≤ piece.length ∧ ∀ unit ∈ piece, accepts unit = true
  | .lazy accepts, piece, captured => captured = [] ∧ ∀ unit ∈ piece, accepts unit = true
  | .optional inner, piece, captured => captured = [] ∧ piece = [] ∨ inner.Takes piece captured
  | .seq first second, piece, captured =>
      ∃ left right before behind, captured = before ++ behind ∧ piece = left ++ right ∧ first.Takes left before ∧
        second.Takes right behind
  | .group inner, piece, captured => ∃ inside, captured = inside ++ [piece] ∧ inner.Takes piece inside

theorem take_accepted (accepts : α → Bool) (text : List α) (n : Nat) (bound : n ≤ (text.takeWhile accepts).length) :
    (text.take n).length = n ∧ ∀ unit ∈ text.take n, accepts unit = true := by
  have size : (text.takeWhile accepts).length ≤ text.length := (List.takeWhile_prefix accepts).length_le
  have length : (text.take n).length = n := by
    rw [List.length_take]
    omega
  have start : text.take n <+: text.takeWhile accepts :=
    List.prefix_of_prefix_length_le (List.take_prefix n text) (List.takeWhile_prefix accepts) (by omega)
  exact ⟨length, fun unit member => List.mem_takeWhile_imp (start.subset member)⟩

theorem attempt_takes (pattern : Pattern α) (text : List α) (groups found : Groups α)
    (next : List α → Groups α → Option (Groups α)) (hit : pattern.attempt text groups next = some found) :
    ∃ piece rest captured, text = piece ++ rest ∧ pattern.Takes piece captured ∧
      next rest (groups ++ captured) = some found := by
  induction pattern generalizing text groups next with
  | unit accepts =>
      cases text with
      | nil => cases hit
      | cons first rest =>
          obtain ⟨accepted, later⟩ := Option.ite_none_right_eq_some.mp hit
          exact ⟨[first], rest, [], rfl, ⟨rfl, first, accepted, rfl⟩, by rwa [List.append_nil]⟩
  | run accepts least =>
      obtain ⟨n, tried, later⟩ := List.exists_of_findSome?_eq_some hit
      obtain ⟨lower, upper⟩ := List.mem_range'_1.mp (List.mem_reverse.mp tried)
      obtain ⟨length, accepted⟩ := take_accepted accepts text n (by omega)
      exact ⟨text.take n, text.drop n, [], (List.take_append_drop n text).symm, ⟨rfl, by omega, accepted⟩,
        by rwa [List.append_nil]⟩
  | lazy accepts =>
      obtain ⟨n, tried, later⟩ := List.exists_of_findSome?_eq_some hit
      have bound := List.mem_range.mp tried
      obtain ⟨_, accepted⟩ := take_accepted accepts text n (by omega)
      exact ⟨text.take n, text.drop n, [], (List.take_append_drop n text).symm, ⟨rfl, accepted⟩, by rwa [List.append_nil]⟩
  | optional inner ih =>
      rcases Option.or_eq_some_iff.mp hit with taken | ⟨_, passed⟩
      · obtain ⟨piece, rest, captured, whole, takes, later⟩ := ih text groups next taken
        exact ⟨piece, rest, captured, whole, .inr takes, later⟩
      · exact ⟨[], text, [], rfl, .inl ⟨rfl, rfl⟩, by rwa [List.append_nil]⟩
  | seq first second ihFirst ihSecond =>
      obtain ⟨left, rest, before, rfl, takesLeft, later⟩ := ihFirst text groups _ hit
      obtain ⟨right, rest, behind, rfl, takesRight, later⟩ := ihSecond rest _ next later
      exact ⟨left ++ right, rest, before ++ behind, (List.append_assoc left right rest).symm,
        ⟨left, right, before, behind, rfl, rfl, takesLeft, takesRight⟩, by rwa [← List.append_assoc]⟩
  | group inner ih =>
      obtain ⟨piece, rest, inside, rfl, takes, later⟩ := ih text groups _ hit
      refine ⟨piece, rest, inside ++ [piece], rfl, ⟨inside, rfl, takes⟩, ?_⟩
      rwa [List.length_append, Nat.add_sub_cancel, List.take_left, List.append_assoc] at later

theorem here_takes (pattern : Pattern α) (text : List α) (found : Groups α) (hit : pattern.here text = some found) :
    ∃ piece rest, text = piece ++ rest ∧ pattern.Takes piece found := by
  obtain ⟨piece, rest, captured, whole, takes, later⟩ := attempt_takes pattern text [] found _ hit
  obtain rfl := Option.some.inj later
  exact ⟨piece, rest, whole, takes⟩

theorem search_takes (pattern : Pattern α) (text : List α) (found : Groups α) (hit : pattern.search text = some found) :
    ∃ piece, piece <:+: text ∧ pattern.Takes piece found := by
  induction text with
  | nil =>
      obtain ⟨piece, rest, whole, takes⟩ := here_takes pattern [] found hit
      exact ⟨piece, ⟨[], rest, whole.symm⟩, takes⟩
  | cons first rest ih =>
      rcases Option.or_eq_some_iff.mp hit with start | ⟨_, later⟩
      · obtain ⟨piece, behind, whole, takes⟩ := here_takes pattern _ found start
        exact ⟨piece, ⟨[], behind, whole.symm⟩, takes⟩
      · obtain ⟨piece, inside, takes⟩ := ih later
        exact ⟨piece, inside.trans (List.suffix_cons first rest).isInfix, takes⟩

theorem search_skip (pattern : Pattern α) (piece rest : List α)
    (none : ∀ tail, tail <:+ piece → tail ≠ [] → pattern.here (tail ++ rest) = none) :
    pattern.search (piece ++ rest) = pattern.search rest := by
  induction piece with
  | nil => rfl
  | cons first piece ih =>
      rw [List.cons_append, search, ← List.cons_append, none _ (List.suffix_refl _) (List.cons_ne_nil _ _), Option.none_or]
      exact ih fun tail suffix some => none tail (suffix.trans (List.suffix_cons first piece)) some

theorem search_here (pattern : Pattern α) (text : List α) (found : Groups α) (hit : pattern.here text = some found) :
    pattern.search text = some found := by
  cases text with
  | nil => exact hit
  | cons first rest => rw [search, hit, Option.some_or]

theorem attempt_run (accepts : α → Bool) (least : Nat) (piece rest : List α) (groups found : Groups α)
    (next : List α → Groups α → Option (Groups α)) (accepted : ∀ unit ∈ piece, accepts unit = true)
    (ends : ∀ unit ∈ rest.head?, accepts unit = false) (long : least ≤ piece.length)
    (later : next rest groups = some found) :
    (Pattern.run accepts least).attempt (piece ++ rest) groups next = some found := by
  have whole : (piece ++ rest).takeWhile accepts = piece := by
    rw [List.takeWhile_append_of_pos accepted]
    cases rest with
    | nil => exact List.append_nil piece
    | cons unit rest => rw [List.takeWhile_cons_of_neg (by simp [ends unit rfl]), List.append_nil]
  obtain ⟨more, length⟩ : ∃ more, piece.length = least + more := ⟨piece.length - least, by omega⟩
  rw [attempt, whole, length, show least + more + 1 - least = more + 1 by omega, List.range'_concat, List.reverse_append,
    List.reverse_singleton, List.singleton_append, Nat.one_mul, ← length, List.findSome?_cons, List.drop_left, later]

theorem attempt_unit (accepts : α → Bool) (first : α) (rest : List α) (groups : Groups α)
    (next : List α → Groups α → Option (Groups α)) (accepted : accepts first = true) :
    (Pattern.unit accepts).attempt (first :: rest) groups next = next rest groups := if_pos accepted

theorem attempt_optional_none (pattern : Pattern α) (text : List α) (groups : Groups α)
    (next : List α → Groups α → Option (Groups α))
    (none : ∀ piece rest captured, text = piece ++ rest → ¬ pattern.Takes piece captured) :
    (Pattern.optional pattern).attempt text groups next = next text groups := by
  rw [attempt]
  cases hit : pattern.attempt text groups next with
  | none => rfl
  | some found =>
      obtain ⟨piece, rest, captured, whole, takes, _⟩ := attempt_takes pattern text groups found next hit
      exact absurd takes (none piece rest captured whole)

theorem attempt_optional_some (pattern : Pattern α) (text : List α) (groups found : Groups α)
    (next : List α → Groups α → Option (Groups α)) (hit : pattern.attempt text groups next = some found) :
    (Pattern.optional pattern).attempt text groups next = some found := by
  rw [attempt, hit, Option.some_or]

end Pattern

end RegExpSearch
