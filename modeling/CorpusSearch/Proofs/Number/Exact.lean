-- The exact values of floating-point numbers. Rounding never passes a value that is held exactly:
-- what is not above such a value is not rounded above it, and what is not below it is not rounded
-- below it. Sums and products are the exact ones, rounded.
import CorpusSearch.Proofs.Number.Whole
import Mathlib.Algebra.Order.Field.Power
import Mathlib.Tactic.Linarith
import Mathlib.Tactic.Ring

namespace CorpusSearch.Double

open Number

/-! ## Values -/

/-- The value of a finite number. -/
def toRat? : Double → Option ℚ
  | .finite negative mantissa exponent => some (signed negative mantissa * 2 ^ exponent)
  | .infinite _ | .nan => none

/-- A value, zero or positive, that is held exactly. -/
def IsExact (value : ℚ) : Prop :=
  ∃ (mantissa : Nat) (exponent : Int), mantissa < 2 ^ 53 ∧ -1074 ≤ exponent ∧ exponent ≤ 971 ∧
    value = mantissa * 2 ^ exponent

theorem cast_twoTo (k : Nat) : ((twoTo k : Nat) : ℚ) = 2 ^ (k : Int) := by
  rw [zpow_natCast]
  exact Nat.cast_pow 2 k

theorem two_zpow_pos (e : Int) : (0 : ℚ) < 2 ^ e := zpow_pos two_pos e

theorem two_zpow_add (d e : Int) : (2 : ℚ) ^ (d + e) = 2 ^ d * 2 ^ e := zpow_add₀ two_ne_zero d e

theorem two_pow_mul (k : Nat) (e : Int) : (2 : ℚ) ^ k * 2 ^ e = 2 ^ ((k : Int) + e) := by
  rw [two_zpow_add, zpow_natCast]

theorem two_zpow_of_le {d e : Int} (h : d ≤ e) :
    (2 : ℚ) ^ e = (twoTo (e - d).toNat : Nat) * 2 ^ d := by
  rw [cast_twoTo, Int.toNat_of_nonneg (Int.sub_nonneg.mpr h), ← two_zpow_add, Int.sub_add_cancel]

theorem scaled_spec (num : Nat) {den : Nat} (hden : 0 < den) (e : Int) :
    0 < (scaled num den e).2 ∧
      ((scaled num den e).1 : ℚ) / (scaled num den e).2 = num / den * 2 ^ e := by
  unfold scaled
  split
  · rename_i he
    refine ⟨hden, ?_⟩
    push_cast
    rw [cast_twoTo, Int.toNat_of_nonneg he]
    ring
  · rename_i he
    refine ⟨Nat.mul_pos hden (twoTo_pos _), ?_⟩
    push_cast
    rw [cast_twoTo, Int.toNat_of_nonneg (by omega), zpow_neg, div_mul_eq_div_div, div_inv_eq_mul]

/-! ## Rounding -/

theorem roundDiv_le {num den bound : Nat} (h : num ≤ bound * den) :
    roundDiv num den ≤ bound := by
  rcases Nat.eq_zero_or_pos den with rfl | hden
  · have hzero : num = 0 := by omega
    subst hzero
    simp [roundDiv]
  · have hwhole : num / den ≤ bound := Nat.div_le_of_le_mul (by rwa [Nat.mul_comm])
    rcases Nat.lt_or_ge (num / den) bound with hlt | hge
    · unfold roundDiv
      dsimp only
      split
      · exact hwhole
      · split <;> omega
    · -- The quotient is the bound itself, without a rest.
      have heq : num / den = bound := Nat.le_antisymm hwhole hge
      have hrest := Nat.div_add_mod num den
      rw [heq, Nat.mul_comm] at hrest
      have hzero : num % den = 0 := by omega
      unfold roundDiv
      simp [hzero, hden, heq]

/-- A mantissa and an exponent that a value is rounded to: the exponent is the least one, or the
mantissa has all bits, and no multiple of the power is passed. -/
structure IsRounding (value : ℚ) (mantissa : Nat) (exponent : Int) : Prop where
  least : -1074 ≤ exponent
  full : exponent = -1074 ∨ 2 ^ 52 * 2 ^ exponent ≤ value
  bounded : value < 2 ^ 53 * 2 ^ exponent
  floor : ∀ k : Nat, k * 2 ^ exponent ≤ value → k ≤ mantissa
  ceil : ∀ k : Nat, value ≤ k * 2 ^ exponent → mantissa ≤ k

variable {value bound : ℚ} {mantissa : Nat} {exponent : Int}

/-- What has at most 53 bits is below a number with all bits and a larger exponent. -/
theorem lt_full {m : Nat} {e : Int} (hm : m < 2 ^ 53) (h : e < exponent) :
    (m : ℚ) * 2 ^ e < 2 ^ 52 * 2 ^ exponent := by
  have hpower : (2 : ℚ) ^ (e + 1) ≤ 2 ^ exponent := zpow_le_zpow_right₀ one_le_two (by omega)
  have hm : (m : ℚ) < 2 ^ 53 := by exact_mod_cast hm
  calc (m : ℚ) * 2 ^ e < 2 ^ 53 * 2 ^ e := mul_lt_mul_of_pos_right hm (two_zpow_pos e)
    _ = 2 ^ 52 * 2 ^ (e + 1) := by rw [two_pow_mul, two_pow_mul]; congr 1; omega
    _ ≤ 2 ^ 52 * 2 ^ exponent := mul_le_mul_of_nonneg_left hpower (by norm_num)

/-- A value that is held exactly and not passed is a multiple of the power. -/
theorem IsRounding.exponent_le (h : IsRounding value mantissa exponent) {m : Nat} {e : Int}
    (hm : m < 2 ^ 53) (he : -1074 ≤ e) (hle : value ≤ m * 2 ^ e) : exponent ≤ e := by
  rcases h.full with hleast | hfull
  · omega
  · by_contra hgt
    have hlow := lt_full hm (Int.not_le.mp hgt)
    linarith

theorem IsRounding.le (h : IsRounding value mantissa exponent) (hbound : IsExact bound)
    (hle : value ≤ bound) : mantissa * 2 ^ exponent ≤ bound ∧
      exponent ≤ 971 ∧ (mantissa < 2 ^ 53 ∨ exponent < 971) := by
  obtain ⟨m, e, hm, hleast, hlast, rfl⟩ := hbound
  have hexponent := h.exponent_le hm hleast hle
  have hpower := two_zpow_of_le hexponent
  have hmantissa : mantissa ≤ m * twoTo (e - exponent).toNat := by
    refine h.ceil _ ?_
    push_cast
    rwa [mul_assoc, ← hpower]
  refine ⟨?_, by omega, ?_⟩
  · rw [hpower, ← mul_assoc]
    refine mul_le_mul_of_nonneg_right ?_ (two_zpow_pos exponent).le
    exact_mod_cast hmantissa
  · rcases Int.lt_or_eq_of_le hexponent with hlt | rfl
    · exact Or.inr (by omega)
    · left
      rw [Int.sub_self, show twoTo (0 : Int).toNat = 1 from rfl] at hmantissa
      omega

theorem IsRounding.ge (h : IsRounding value mantissa exponent) (hbound : IsExact bound)
    (hle : bound ≤ value) : bound ≤ mantissa * 2 ^ exponent := by
  obtain ⟨m, e, hm, hleast, -, rfl⟩ := hbound
  have hpos := two_zpow_pos exponent
  rcases Int.lt_or_le e exponent with hlt | hge
  · -- The value has all bits, and the bound is below the first of them.
    have hfull : (2 : ℚ) ^ 52 * 2 ^ exponent ≤ value := h.full.resolve_left (by omega)
    have hmantissa : 2 ^ 52 ≤ mantissa := h.floor _ (by exact_mod_cast hfull)
    have hmantissa : (2 : ℚ) ^ 52 ≤ mantissa := by exact_mod_cast hmantissa
    exact (lt_full hm hlt).le.trans (mul_le_mul_of_nonneg_right hmantissa hpos.le)
  · have hpower := two_zpow_of_le hge
    have hmantissa : m * twoTo (e - exponent).toNat ≤ mantissa := by
      refine h.floor _ ?_
      push_cast
      rwa [mul_assoc, ← hpower]
    rw [hpower, ← mul_assoc]
    refine mul_le_mul_of_nonneg_right ?_ hpos.le
    exact_mod_cast hmantissa

/-! ## The nearest number -/

variable {num den : Nat}

theorem log2_bounds {n : Nat} (hn : 0 < n) :
    (2 : ℚ) ^ (n.log2 : Int) ≤ n ∧ (n : ℚ) < 2 ^ ((n.log2 : Int) + 1) := by
  have hlow := twoTo_log2_le hn
  have hhigh := lt_twoTo_log2 n
  rw [← Nat.cast_le (α := ℚ), cast_twoTo] at hlow
  rw [← Nat.cast_lt (α := ℚ), cast_twoTo] at hhigh
  exact ⟨hlow, by exact_mod_cast hhigh⟩

theorem quotient_bounds (hnum : 0 < num) (hden : 0 < den) :
    (2 : ℚ) ^ ((num.log2 : Int) - den.log2 - 1) ≤ num / den ∧
      (num : ℚ) / den < 2 ^ ((num.log2 : Int) - den.log2 + 1) := by
  obtain ⟨hlow, hhigh⟩ := log2_bounds hnum
  obtain ⟨hlow', hhigh'⟩ := log2_bounds hden
  have hpos : (0 : ℚ) < den := by exact_mod_cast hden
  constructor
  · rw [le_div_iff₀ hpos]
    calc (2 : ℚ) ^ ((num.log2 : Int) - den.log2 - 1) * den
        ≤ 2 ^ ((num.log2 : Int) - den.log2 - 1) * 2 ^ ((den.log2 : Int) + 1) :=
          mul_le_mul_of_nonneg_left hhigh'.le (two_zpow_pos _).le
      _ = 2 ^ (num.log2 : Int) := by rw [← two_zpow_add]; congr 1; omega
      _ ≤ num := hlow
  · rw [div_lt_iff₀ hpos]
    calc (num : ℚ) < 2 ^ ((num.log2 : Int) + 1) := hhigh
      _ = 2 ^ ((num.log2 : Int) - den.log2 + 1) * 2 ^ (den.log2 : Int) := by
        rw [← two_zpow_add]; congr 1; omega
      _ ≤ 2 ^ ((num.log2 : Int) - den.log2 + 1) * den :=
        mul_le_mul_of_nonneg_left hlow' (two_zpow_pos _).le

theorem scaled_quotient (num : Nat) (hden : 0 < den) (e : Int) :
    (0 : ℚ) < (scaled num den (-e)).2 ∧
      ((scaled num den (-e)).1 : ℚ) / (scaled num den (-e)).2 = num / den / 2 ^ e := by
  obtain ⟨hpos, hquotient⟩ := scaled_spec num hden (-e)
  rw [zpow_neg, ← div_eq_mul_inv] at hquotient
  exact ⟨by exact_mod_cast hpos, hquotient⟩

theorem le_scaled_iff (hden : 0 < den) (e : Int) (k : Nat) :
    k * (scaled num den (-e)).2 ≤ (scaled num den (-e)).1 ↔ (k : ℚ) * 2 ^ e ≤ num / den := by
  obtain ⟨hpos, hquotient⟩ := scaled_quotient num hden e
  rw [← le_div_iff₀ (two_zpow_pos e), ← hquotient, le_div_iff₀ hpos]
  norm_cast

theorem scaled_le_iff (hden : 0 < den) (e : Int) (k : Nat) :
    (scaled num den (-e)).1 ≤ k * (scaled num den (-e)).2 ↔ (num : ℚ) / den ≤ k * 2 ^ e := by
  obtain ⟨hpos, hquotient⟩ := scaled_quotient num hden e
  rw [← div_le_iff₀ (two_zpow_pos e), ← hquotient, div_le_iff₀ hpos]
  norm_cast

/-- The exponent that a quotient is rounded at. -/
def exponentOf (num den : Nat) : Int :=
  let low : Int := max ((num.log2 : Int) - (den.log2 : Int) - 53) (-1074)
  if (scaled num den (-low)).1 / (scaled num den (-low)).2 < twoTo 53 then low else low + 1

/-- The mantissa that it is rounded to; `2 ^ 53` is possible. -/
def roundedAt (num den : Nat) (exponent : Int) : Nat :=
  roundDiv (scaled num den (-exponent)).1 (scaled num den (-exponent)).2

theorem isRounding_nearest (hnum : 0 < num) (hden : 0 < den) :
    IsRounding (num / den) (roundedAt num den (exponentOf num den)) (exponentOf num den) := by
  obtain ⟨hlow, hhigh⟩ := quotient_bounds hnum hden
  obtain ⟨hleast, hfull, hbounded⟩ : -1074 ≤ exponentOf num den ∧
      (exponentOf num den = -1074 ∨ (2 : ℚ) ^ 52 * 2 ^ exponentOf num den ≤ num / den) ∧
      (num : ℚ) / den < 2 ^ 53 * 2 ^ exponentOf num den := by
    have hwide (e : Int) : twoTo 53 ≤ (scaled num den (-e)).1 / (scaled num den (-e)).2 ↔
        (2 : ℚ) ^ 53 * 2 ^ e ≤ num / den := by
      rw [Nat.le_div_iff_mul_le (scaled_spec num hden (-e)).1, le_scaled_iff hden, cast_twoTo]
      norm_cast
    unfold exponentOf
    dsimp only
    generalize hexponent : max ((num.log2 : Int) - (den.log2 : Int) - 53) (-1074) = low
    split
    · rename_i hfits
      rw [← Nat.not_le, hwide, not_le] at hfits
      refine ⟨by omega, ?_, hfits⟩
      rcases (by omega : low = -1074 ∨ low = (num.log2 : Int) - den.log2 - 1 - 52) with h | h
      · exact Or.inl h
      · right
        rw [two_pow_mul, h]
        refine le_of_eq_of_le ?_ hlow
        congr 1
        omega
    · rename_i hfits
      rw [Nat.not_lt, hwide] at hfits
      refine ⟨by omega, Or.inr ?_, ?_⟩
      · rw [two_pow_mul] at hfits ⊢
        refine le_of_eq_of_le ?_ hfits
        congr 1
        omega
      · rw [two_pow_mul]
        exact hhigh.trans_le (zpow_le_zpow_right₀ one_le_two (by omega))
  refine ⟨hleast, hfull, hbounded, fun k hk => ?_, fun k hk => ?_⟩
  · have hle := (le_scaled_iff hden _ k).mpr hk
    exact ((Nat.le_div_iff_mul_le (scaled_spec num hden _).1).mpr hle).trans (le_roundDiv _ _)
  · exact roundDiv_le ((scaled_le_iff hden _ k).mpr hk)

/-- The nearest number has the rounded value, unless that is past the largest number. -/
theorem toRat?_nearest (hnum : 0 < num) (hden : 0 < den) (hlast : exponentOf num den ≤ 971)
    (hfits : roundedAt num den (exponentOf num den) < 2 ^ 53 ∨ exponentOf num den < 971) :
    (nearest false num den).toRat? =
      some ((roundedAt num den (exponentOf num den) : ℚ) * 2 ^ exponentOf num den) := by
  have hround := isRounding_nearest hnum hden
  have hmost : roundedAt num den (exponentOf num den) ≤ 2 ^ 53 := by
    refine hround.ceil _ ?_
    exact_mod_cast hround.bounded.le
  have hnearest : nearest false num den =
      let found := if roundedAt num den (exponentOf num den) < twoTo 53 then
          (roundedAt num den (exponentOf num den), exponentOf num den)
        else (twoTo 52, exponentOf num den + 1)
      if found.2 > 971 then .infinite false else .finite false found.1 found.2 := by
    unfold nearest
    rw [if_neg (by simp [hnum.ne', hden.ne'])]
    rfl
  rw [hnearest]
  by_cases h : roundedAt num den (exponentOf num den) < twoTo 53
  · rw [if_pos h]
    dsimp only
    rw [if_neg (by omega)]
    simp [toRat?, signed]
  · -- The mantissa was rounded up to the next power of two.
    have hcarry : roundedAt num den (exponentOf num den) = twoTo 53 :=
      Nat.le_antisymm hmost (Nat.not_lt.mp h)
    have hbelow : exponentOf num den < 971 := hfits.resolve_left h
    rw [if_neg h]
    dsimp only
    rw [if_neg (by omega), hcarry]
    simp only [toRat?, signed, Bool.false_eq_true, if_false, Int.cast_natCast, cast_twoTo,
      Option.some.injEq]
    rw [← two_zpow_add, ← two_zpow_add]
    congr 1
    omega

variable {lower upper : ℚ} (hlower : IsExact lower) (hupper : IsExact upper)

include hlower hupper

/-- A quotient between two values that are held exactly is rounded to a number between them. -/
theorem nearest_between (hnum : 0 < num) (hden : 0 < den) (hle : lower ≤ num / den)
    (hge : (num : ℚ) / den ≤ upper) :
    ∃ value, (nearest false num den).toRat? = some value ∧ lower ≤ value ∧ value ≤ upper := by
  have hround := isRounding_nearest hnum hden
  obtain ⟨habove, hlast, hfits⟩ := hround.le hupper hge
  exact ⟨_, toRat?_nearest hnum hden hlast hfits, hround.ge hlower hle, habove⟩

theorem ofScaled_between {i e : Int} (negative : Bool) (hi : 0 ≤ i) (hle : lower ≤ i * 2 ^ e)
    (hge : i * 2 ^ e ≤ upper) : ∃ value, (ofScaled negative i e).toRat? = some value ∧
      lower ≤ value ∧ value ≤ upper := by
  unfold ofScaled
  split
  · rename_i hzero
    rw [hzero, Int.cast_zero, zero_mul] at hle hge
    refine ⟨0, ?_, hle, hge⟩
    simp [zero, toRat?, signed]
  · rename_i hne
    obtain ⟨hden, hquotient⟩ := scaled_spec i.natAbs Nat.one_pos e
    have hcast : ((i.natAbs : Nat) : ℚ) = i := by
      rw [← Int.cast_natCast, Int.natAbs_of_nonneg hi]
    rw [hcast, Nat.cast_one, div_one] at hquotient
    have hpositive : (0 : ℚ) < i * 2 ^ e :=
      mul_pos (by exact_mod_cast lt_of_le_of_ne hi (Ne.symm hne)) (two_zpow_pos e)
    have hnum : 0 < (scaled i.natAbs 1 e).1 := by
      rw [← hquotient] at hpositive
      refine Nat.pos_of_ne_zero fun hzero => ?_
      rw [hzero, Nat.cast_zero, zero_div] at hpositive
      exact lt_irrefl _ hpositive
    have hsign : decide (i < 0) = false := decide_eq_false (by omega)
    dsimp only
    rw [hsign]
    exact nearest_between hlower hupper hnum hden (hquotient ▸ hle) (hquotient ▸ hge)

omit hlower hupper

/-! ## Sums and products -/

variable {x y : Double} {a b : ℚ}

theorem IsExact.nonneg (h : IsExact value) : 0 ≤ value := by
  obtain ⟨m, e, -, -, -, rfl⟩ := h
  exact mul_nonneg (Nat.cast_nonneg m) (two_zpow_pos e).le

theorem exists_finite_of_toRat? (hx : x.toRat? = some a) :
    ∃ negative m e, x = .finite negative m e ∧ (signed negative m : ℚ) * 2 ^ e = a := by
  cases x with
  | finite negative m e => exact ⟨negative, m, e, rfl, Option.some.inj hx⟩
  | infinite negative => cases hx
  | nan => cases hx

theorem exists_add_eq (hx : x.toRat? = some a) (hy : y.toRat? = some b) :
    ∃ negative i e, x.add y = ofScaled negative i e ∧ (i : ℚ) * 2 ^ e = a + b := by
  obtain ⟨s, m, e, rfl, rfl⟩ := exists_finite_of_toRat? hx
  obtain ⟨s', m', e', rfl, rfl⟩ := exists_finite_of_toRat? hy
  refine ⟨_, _, _, rfl, ?_⟩
  rw [two_zpow_of_le (min_le_left e e'), two_zpow_of_le (min_le_right e e')]
  push_cast
  ring

theorem exists_mul_eq (hx : x.toRat? = some a) (hy : y.toRat? = some b) :
    ∃ negative i e, x.mul y = ofScaled negative i e ∧ (i : ℚ) * 2 ^ e = a * b := by
  obtain ⟨s, m, e, rfl, rfl⟩ := exists_finite_of_toRat? hx
  obtain ⟨s', m', e', rfl, rfl⟩ := exists_finite_of_toRat? hy
  refine ⟨_, _, _, rfl, ?_⟩
  have hsigned : (signed (s != s') (m * m') : ℚ) = signed s m * signed s' m' := by
    unfold signed
    cases s <;> cases s' <;> simp
  rw [hsigned, two_zpow_add]
  ring

include hlower hupper

/-- The sum of two numbers lies between all values held exactly that the exact sum lies between. -/
theorem add_between (hx : x.toRat? = some a) (hy : y.toRat? = some b) (hle : lower ≤ a + b)
    (hge : a + b ≤ upper) :
    ∃ value, (x.add y).toRat? = some value ∧ lower ≤ value ∧ value ≤ upper := by
  obtain ⟨negative, i, e, hadd, hexact⟩ := exists_add_eq hx hy
  rw [← hexact] at hle hge
  have hi : (0 : ℚ) ≤ i :=
    nonneg_of_mul_nonneg_left (hlower.nonneg.trans hle) (two_zpow_pos e)
  rw [hadd]
  exact ofScaled_between hlower hupper negative (by exact_mod_cast hi) hle hge

omit hlower hupper

theorem toRat?_mul (hx : x.toRat? = some a) (hy : y.toRat? = some b) (hexact : IsExact (a * b)) :
    (x.mul y).toRat? = some (a * b) := by
  obtain ⟨negative, i, e, hmul, hproduct⟩ := exists_mul_eq hx hy
  have hi : (0 : ℚ) ≤ i :=
    nonneg_of_mul_nonneg_left (hproduct ▸ hexact.nonneg) (two_zpow_pos e)
  obtain ⟨value, hvalue, hle, hge⟩ := ofScaled_between hexact hexact negative
    (by exact_mod_cast hi) hproduct.ge hproduct.le
  rw [hmul, hvalue, le_antisymm hge hle]

theorem lt_iff (hx : x.toRat? = some a) (hy : y.toRat? = some b) : x.lt y = true ↔ a < b := by
  obtain ⟨s, m, e, rfl, rfl⟩ := exists_finite_of_toRat? hx
  obtain ⟨s', m', e', rfl, rfl⟩ := exists_finite_of_toRat? hy
  rw [two_zpow_of_le (min_le_left e e'), two_zpow_of_le (min_le_right e e'), ← mul_assoc,
    ← mul_assoc, mul_lt_mul_iff_left₀ (two_zpow_pos _), lt, decide_eq_true_iff]
  norm_cast

/-- A power of two that is not past the largest number is held exactly. -/
theorem toRat?_ofInt?_twoTo {k : Nat} (hk : k ≤ 1023) :
    ∃ d, ofInt? (twoTo k : Nat) = some d ∧ d.toRat? = some (2 ^ k) := by
  have hexact : IsExact (2 ^ k) := by
    refine ⟨twoTo 52, (k : Int) - 52, by decide, by omega, by omega, ?_⟩
    rw [cast_twoTo, ← two_zpow_add, ← zpow_natCast]
    congr 1
    omega
  have hpower : (((twoTo k : Nat) : ℚ)) / (1 : Nat) = 2 ^ k := by
    rw [cast_twoTo, zpow_natCast, Nat.cast_one, div_one]
  obtain ⟨value, hvalue, hle, hge⟩ := nearest_between hexact hexact (twoTo_pos k) Nat.one_pos
    hpower.ge hpower.le
  have hnearest : nearest (decide (((twoTo k : Nat) : Int) < 0)) ((twoTo k : Nat) : Int).natAbs 1 =
      nearest false (twoTo k) 1 := by
    rw [Int.natAbs_natCast, decide_eq_false (by omega)]
  obtain ⟨negative, m, e, hfinite, -⟩ := exists_finite_of_toRat? hvalue
  refine ⟨nearest false (twoTo k) 1, ?_, by rw [hvalue, le_antisymm hge hle]⟩
  unfold ofInt?
  rw [hnearest, hfinite]

end CorpusSearch.Double
