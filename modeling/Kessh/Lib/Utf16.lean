set_option autoImplicit false

namespace Utf16

abbrev CodeUnit := UInt16

def isHigh (unit : CodeUnit) : Bool := 0xD800 ≤ unit.toNat && unit.toNat < 0xDC00

def isLow (unit : CodeUnit) : Bool := 0xDC00 ≤ unit.toNat && unit.toNat < 0xE000

def units (c : Char) : List CodeUnit :=
  if c.toNat < 0x10000 then [UInt16.ofNat c.toNat]
  else
    [UInt16.ofNat (0xD800 + (c.toNat - 0x10000) / 0x400), UInt16.ofNat (0xDC00 + (c.toNat - 0x10000) % 0x400)]

def encode (text : List Char) : List CodeUnit := text.flatMap units

def replacement : Char := '\uFFFD'

-- A code unit on its own: a surrogate that has lost its partner stands for U+FFFD.
def single (unit : CodeUnit) : Char :=
  if isHigh unit || isLow unit then replacement else Char.ofNat unit.toNat

def pair (high low : CodeUnit) : Char :=
  Char.ofNat (0x10000 + (high.toNat - 0xD800) * 0x400 + (low.toNat - 0xDC00))

def scalars : List CodeUnit → List Char
  | [] => []
  | [unit] => [single unit]
  | high :: low :: rest =>
      if isHigh high && isLow low then pair high low :: scalars rest else single high :: scalars (low :: rest)

def WellFormed (text : List CodeUnit) : Prop := ∃ chars, encode chars = text

theorem char_range (c : Char) : c.toNat < 0xD800 ∨ 0xDFFF < c.toNat ∧ c.toNat < 0x110000 := c.valid

@[simp] theorem encode_nil : encode [] = [] := rfl

@[simp] theorem encode_cons (c : Char) (text : List Char) : encode (c :: text) = units c ++ encode text := rfl

@[simp] theorem encode_append (left right : List Char) : encode (left ++ right) = encode left ++ encode right := by
  simp [encode]

theorem encode_flatten (texts : List (List Char)) : encode texts.flatten = (texts.map encode).flatten := by
  induction texts with
  | nil => rfl
  | cons text rest ih => simp [ih]

theorem scalars_cons_ordinary (unit : CodeUnit) (rest : List CodeUnit) (ordinary : isHigh unit = false) :
    scalars (unit :: rest) = single unit :: scalars rest := by
  cases rest with
  | nil => rfl
  | cons next tail => simp [scalars, ordinary]

theorem unit_value (n : Nat) (bound : n < 0x10000) : (UInt16.ofNat n).toNat = n := by
  rw [UInt16.toNat_ofNat', Nat.mod_eq_of_lt bound]

theorem units_basic (c : Char) (basic : c.toNat < 0x10000) :
    ∃ unit, units c = [unit] ∧ unit.toNat = c.toNat ∧ isHigh unit = false ∧ isLow unit = false := by
  have range := char_range c
  have value := unit_value c.toNat basic
  refine ⟨UInt16.ofNat c.toNat, if_pos basic, value, ?_, ?_⟩
  · simp only [isHigh, value, Bool.and_eq_false_iff, decide_eq_false_iff_not]
    omega
  · simp only [isLow, value, Bool.and_eq_false_iff, decide_eq_false_iff_not]
    omega

theorem units_supplementary (c : Char) (beyond : ¬ c.toNat < 0x10000) :
    ∃ high low, units c = [high, low] ∧ high.toNat = 0xD800 + (c.toNat - 0x10000) / 0x400 ∧
      low.toNat = 0xDC00 + (c.toNat - 0x10000) % 0x400 ∧ isHigh high = true ∧ isLow low = true := by
  have range := char_range c
  have highValue := unit_value (0xD800 + (c.toNat - 0x10000) / 0x400) (by omega)
  have lowValue := unit_value (0xDC00 + (c.toNat - 0x10000) % 0x400) (by omega)
  refine ⟨_, _, if_neg beyond, highValue, lowValue, ?_, ?_⟩
  · simp only [isHigh, highValue, Bool.and_eq_true, decide_eq_true_eq]
    omega
  · simp only [isLow, lowValue, Bool.and_eq_true, decide_eq_true_eq]
    omega

theorem high_not_low (unit : CodeUnit) (high : isHigh unit = true) : isLow unit = false := by
  simp only [isHigh, Bool.and_eq_true, decide_eq_true_eq] at high
  simp only [isLow, Bool.and_eq_false_iff, decide_eq_false_iff_not]
  omega

theorem encode_starts (text : List Char) : ∀ unit ∈ (encode text).head?, isLow unit = false := by
  cases text with
  | nil => simp
  | cons c rest =>
      by_cases basic : c.toNat < 0x10000
      · obtain ⟨unit, same, _, _, low⟩ := units_basic c basic
        simp [same, low]
      · obtain ⟨high, low, same, _, _, isHigh, _⟩ := units_supplementary c basic
        simp [same, high_not_low high isHigh]

theorem scalars_units (c : Char) (rest : List CodeUnit) : scalars (units c ++ rest) = c :: scalars rest := by
  by_cases basic : c.toNat < 0x10000
  · obtain ⟨unit, same, value, high, low⟩ := units_basic c basic
    rw [same, List.singleton_append, scalars_cons_ordinary _ _ high, single, high, low, value]
    simp
  · obtain ⟨high, low, same, highValue, lowValue, isHigh, isLow⟩ := units_supplementary c basic
    have value : 0x10000 + (high.toNat - 0xD800) * 0x400 + (low.toNat - 0xDC00) = c.toNat := by omega
    simp only [same, List.cons_append, List.nil_append, scalars, isHigh, isLow, Bool.and_self, if_true, pair, value,
      Char.ofNat_toNat]

theorem scalars_encode_append (text : List Char) (right : List CodeUnit) :
    scalars (encode text ++ right) = text ++ scalars right := by
  induction text with
  | nil => rfl
  | cons c rest ih => rw [encode_cons, List.append_assoc, scalars_units, ih, List.cons_append]

theorem scalars_encode (text : List Char) : scalars (encode text) = text := by
  simpa [scalars] using scalars_encode_append text []

theorem encode_injective (left right : List Char) (same : encode left = encode right) : left = right := by
  rw [← scalars_encode left, same, scalars_encode]

theorem scalars_append (left right : List CodeUnit) (cut : ∀ unit ∈ right.head?, isLow unit = false) :
    scalars (left ++ right) = scalars left ++ scalars right := by
  induction left using scalars.induct with
  | case1 => rfl
  | case2 unit =>
      cases right with
      | nil => rfl
      | cons next tail => simp [scalars, cut next (by simp)]
  | case3 high low rest paired ih => simp [scalars, paired, ih]
  | case4 high low rest unpaired ih =>
      simp only [List.cons_append] at ih
      simp [scalars, unpaired, ih]

theorem toNat_ofNat (n : Nat) (valid : n.isValidChar) : (Char.ofNat n).toNat = n := by
  unfold Char.ofNat
  rw [dif_pos valid]
  rfl

theorem single_ascii (unit : CodeUnit) (n : Nat) (ascii : n < 0x80) : (single unit).toNat = n ↔ unit.toNat = n := by
  have range := unit.toNat_lt
  unfold single
  split
  · rename_i surrogate
    have value : replacement.toNat = 0xFFFD := rfl
    simp only [isHigh, isLow, Bool.or_eq_true, Bool.and_eq_true, decide_eq_true_eq] at surrogate
    rw [value]
    omega
  · rename_i ordinary
    simp only [isHigh, isLow, Bool.or_eq_true, Bool.and_eq_true, decide_eq_true_eq] at ordinary
    rw [toNat_ofNat _ (by unfold Nat.isValidChar; omega)]

theorem pair_beyond (high low : CodeUnit) (paired : (isHigh high && isLow low) = true) : 0x10000 ≤ (pair high low).toNat := by
  simp only [isHigh, isLow, Bool.and_eq_true, decide_eq_true_eq] at paired
  rw [pair, toNat_ofNat _ (by unfold Nat.isValidChar; omega)]
  omega

theorem ascii_not_surrogate (unit : CodeUnit) (ascii : unit.toNat < 0x80) : isHigh unit = false ∧ isLow unit = false := by
  simp only [isHigh, isLow, Bool.and_eq_false_iff, decide_eq_false_iff_not]
  omega

theorem mem_scalars_ascii (text : List CodeUnit) (n : Nat) (ascii : n < 0x80) :
    (∃ c ∈ scalars text, c.toNat = n) ↔ ∃ unit ∈ text, unit.toNat = n := by
  induction text using scalars.induct with
  | case1 => simp [scalars]
  | case2 unit => simp [scalars, single_ascii unit n ascii]
  | case3 high low rest paired ih =>
      have beyond := pair_beyond high low paired
      simp only [isHigh, isLow, Bool.and_eq_true, decide_eq_true_eq] at paired
      have first : ¬ (pair high low).toNat = n := by omega
      have second : ¬ high.toNat = n := by omega
      have third : ¬ low.toNat = n := by omega
      simp [scalars, isHigh, isLow, paired, ih, first, second, third]
  | case4 high low rest unpaired ih =>
      have split : scalars (high :: low :: rest) = single high :: scalars (low :: rest) := by simp [scalars, unpaired]
      simp only [split, List.mem_cons, exists_eq_or_imp, single_ascii high n ascii] at ih ⊢
      exact or_congr Iff.rfl ih

theorem single_small (unit : CodeUnit) : (single unit).toNat < 0x80 ↔ unit.toNat < 0x80 :=
  ⟨fun small => (single_ascii unit _ small).mp rfl ▸ small, fun small => (single_ascii unit _ small).mpr rfl ▸ small⟩

theorem scalars_small (text : List CodeUnit) :
    (∀ c ∈ scalars text, c.toNat < 0x80) ↔ ∀ unit ∈ text, unit.toNat < 0x80 := by
  induction text using scalars.induct with
  | case1 => simp [scalars]
  | case2 unit => simp [scalars, single_small]
  | case3 high low rest paired ih =>
      have beyond := pair_beyond high low paired
      have parts := paired
      simp only [isHigh, isLow, Bool.and_eq_true, decide_eq_true_eq] at parts
      have first : ¬ (pair high low).toNat < 0x80 := by omega
      have second : ¬ high.toNat < 0x80 := by omega
      simp [scalars, paired, first, second]
  | case4 high low rest unpaired ih =>
      have split : scalars (high :: low :: rest) = single high :: scalars (low :: rest) := by simp [scalars, unpaired]
      rw [split, List.forall_mem_cons, List.forall_mem_cons, ih, single_small]

theorem scalars_eq_nil (text : List CodeUnit) : scalars text = [] ↔ text = [] := by
  induction text using scalars.induct with
  | case1 => simp [scalars]
  | case2 unit => simp [scalars]
  | case3 high low rest paired ih => simp [scalars, paired]
  | case4 high low rest unpaired ih => simp [scalars, unpaired]

theorem scalars_replace (unit : CodeUnit) (replacing : List CodeUnit) (ascii : unit.toNat < 0x80)
    (small : ∀ other ∈ replacing, other.toNat < 0x80) (some : replacing ≠ []) (text : List CodeUnit) :
    scalars (text.flatMap fun other => if other = unit then replacing else [other]) =
      (scalars text).flatMap fun c => if c.toNat = unit.toNat then replacing.map single else [c] := by
  have front : ∀ right, scalars (replacing ++ right) = replacing.map single ++ scalars right := by
    intro right
    clear some
    induction replacing with
    | nil => rfl
    | cons first rest ih =>
        rw [List.cons_append, scalars_cons_ordinary _ _ (ascii_not_surrogate first (small first (by simp))).1,
          ih fun other member => small other (by simp [member])]
        rfl
  have alone : ∀ other : CodeUnit, other = unit ↔ (single other).toNat = unit.toNat := fun other =>
    (UInt16.toNat_inj.symm).trans (single_ascii other _ ascii).symm
  induction text using scalars.induct with
  | case1 => rfl
  | case2 other =>
      by_cases same : other = unit
      · have value := (alone other).mp same
        have whole := front []
        rw [List.append_nil] at whole
        simpa [scalars, same, same ▸ value] using whole
      · have value := mt (alone other).mpr same
        simp [scalars, same, value]
  | case3 high low rest paired ih =>
      have beyond := pair_beyond high low paired
      have parts := paired
      simp only [isHigh, isLow, Bool.and_eq_true, decide_eq_true_eq] at parts
      have first : ¬ high = unit := fun same => by rw [same] at parts; omega
      have second : ¬ low = unit := fun same => by rw [same] at parts; omega
      have third : ¬ (pair high low).toNat = unit.toNat := by omega
      simp only [List.flatMap_cons, if_neg first, if_neg second, List.cons_append, List.nil_append, scalars, paired,
        if_true, if_neg third, ih]
  | case4 high low rest unpaired ih =>
      by_cases same : high = unit
      · have value := (alone high).mp same
        rw [List.flatMap_cons, if_pos same, front, ih]
        simp [scalars, unpaired, value]
      · have value := mt (alone high).mpr same
        have next : ∃ other right, (low :: rest).flatMap (fun other => if other = unit then replacing else [other]) =
            other :: right ∧ (isHigh high && isLow other) = false := by
          by_cases lowSame : low = unit
          · obtain ⟨other, right, rfl⟩ := List.exists_cons_of_ne_nil some
            refine ⟨other, _, by rw [List.flatMap_cons, if_pos lowSame, List.cons_append], ?_⟩
            rw [(ascii_not_surrogate other (small other (by simp))).2, Bool.and_false]
          · exact ⟨low, _, by rw [List.flatMap_cons, if_neg lowSame]; rfl, Bool.eq_false_iff.mpr unpaired⟩
        obtain ⟨other, right, shape, apart⟩ := next
        rw [List.flatMap_cons, if_neg same]
        rw [shape] at ih ⊢
        simp only [List.cons_append, List.nil_append]
        rw [scalars, apart]
        simp only [Bool.false_eq_true, if_false, ih]
        simp [scalars, unpaired, value]

end Utf16
