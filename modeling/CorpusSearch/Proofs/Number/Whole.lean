-- Whole numbers, and their quotients by powers of two, as floating-point numbers. Where the
-- absolute value is half a step above the largest floating-point number, or more, there is none;
-- every other whole number has one with its sign.
import CorpusSearch.Number.Double

namespace CorpusSearch

/-! ## Powers of two -/

namespace Number

theorem twoTo_pos (k : Nat) : 0 < twoTo k := Nat.two_pow_pos k

theorem twoTo_add (j k : Nat) : twoTo (j + k) = twoTo j * twoTo k := Nat.pow_add 2 j k

theorem twoTo_le {j k : Nat} (h : j ≤ k) : twoTo j ≤ twoTo k :=
  Nat.pow_le_pow_right Nat.two_pos h

theorem twoTo_log2_le {n : Nat} (h : 0 < n) : twoTo n.log2 ≤ n :=
  Nat.log2_self_le (Nat.ne_of_gt h)

theorem lt_twoTo_log2 (n : Nat) : n < twoTo (n.log2 + 1) := Nat.lt_log2_self

end Number

namespace Double

open Number

/-! ## Rounded quotients -/

theorem le_roundDiv (num den : Nat) : num / den ≤ roundDiv num den := by
  unfold roundDiv
  dsimp only
  split
  · exact Nat.le_refl _
  · split <;> omega

/-- A quotient is rounded below an even bound where it is more than a half below it: half-way below
an even number the tie goes up. -/
theorem roundDiv_lt_iff {num den bound : Nat} (hden : 0 < den) (heven : bound % 2 = 0) :
    roundDiv num den < bound ↔ 2 * num + den < 2 * (bound * den) := by
  have hnum := Nat.div_add_mod num den
  have hmod := Nat.mod_lt num hden
  rw [Nat.mul_comm] at hnum
  unfold roundDiv
  dsimp only
  generalize num / den = whole at *
  generalize num % den = rest at *
  rcases Nat.lt_trichotomy (whole + 1) bound with hlt | heq | hgt
  · obtain ⟨k, rfl⟩ := Nat.exists_eq_add_of_lt hlt
    rw [Nat.add_mul, Nat.add_mul, Nat.add_mul]
    split
    · omega
    · split <;> omega
  · subst heq
    rw [Nat.add_mul]
    split
    · omega
    · split <;> omega
  · obtain ⟨k, rfl⟩ := Nat.exists_eq_add_of_le (Nat.le_of_lt_succ hgt)
    rw [Nat.add_mul] at hnum
    split
    · omega
    · split <;> omega

/-! ## The nearest number -/

variable (num shift : Nat)

theorem scaled_up {low bits : Nat} (h : low ≤ bits) :
    scaled num (twoTo shift) (bits - low) = (num * twoTo (bits - low), twoTo shift) := by
  have hexponent : ((bits : Int) - low).toNat = bits - low := by omega
  rw [scaled, if_pos (by omega), hexponent]

theorem scaled_down {low bits : Nat} (h : bits < low) :
    scaled num (twoTo shift) (bits - low) = (num, twoTo shift * twoTo (low - bits)) := by
  have hexponent : (-((bits : Int) - low)).toNat = low - bits := by omega
  rw [scaled, if_neg (by omega), hexponent]

variable {num} (negative : Bool)

/-- The quotient of a whole number by a power of two, scaled so that its first bit stands for
`2 ^ bits`. -/
theorem scaled_log2 (hnum : 0 < num) (bits : Nat) :
    let scaled := scaled num (twoTo shift) ((bits + shift : Nat) - num.log2)
    0 < scaled.2 ∧ twoTo bits * scaled.2 ≤ scaled.1 := by
  have hlow := twoTo_log2_le hnum
  dsimp only
  rcases Nat.lt_or_ge (bits + shift) num.log2 with h | h
  · have hpower :
        twoTo num.log2 = twoTo bits * (twoTo shift * twoTo (num.log2 - (bits + shift))) := by
      rw [← twoTo_add, ← twoTo_add, ← Nat.add_assoc, Nat.add_sub_cancel' (Nat.le_of_lt h)]
    rw [scaled_down num shift h]
    exact ⟨Nat.mul_pos (twoTo_pos _) (twoTo_pos _), hpower ▸ hlow⟩
  · have hpower : twoTo bits * twoTo shift = twoTo num.log2 * twoTo (bits + shift - num.log2) := by
      rw [← twoTo_add, ← twoTo_add, Nat.add_sub_cancel' h]
    rw [scaled_up num shift h, hpower]
    exact ⟨twoTo_pos _, Nat.mul_le_mul_right _ hlow⟩

variable (num) in
/-- The mantissa of 53 bits that `num / 2 ^ shift` is rounded to; `2 ^ 53` is possible. -/
def mantissaOf : Nat :=
  let scaled := scaled num (twoTo shift) ((52 + shift : Nat) - num.log2)
  roundDiv scaled.1 scaled.2

theorem le_mantissaOf (hnum : 0 < num) : twoTo 52 ≤ mantissaOf num shift := by
  obtain ⟨hden, hle⟩ := scaled_log2 shift hnum 52
  exact Nat.le_trans ((Nat.le_div_iff_mul_le hden).mpr hle) (le_roundDiv _ _)

variable {shift} (hshift : shift ≤ 1021)

include hshift in
/-- The number nearest to the quotient of a whole number that is not zero by a power of two. -/
theorem nearest_twoTo (hnum : 0 < num) :
    nearest negative num (twoTo shift) =
      if mantissaOf num shift < twoTo 53 then
        if num.log2 ≤ 1023 + shift then
          .finite negative (mantissaOf num shift) (num.log2 - (52 + shift : Nat))
        else .infinite negative
      else if num.log2 ≤ 1022 + shift then
        .finite negative (twoTo 52) (num.log2 - (52 + shift : Nat) + 1)
      else .infinite negative := by
  obtain ⟨hden, hle⟩ := scaled_log2 shift hnum 53
  have hlow : max ((num.log2 : Int) - ((twoTo shift).log2 : Int) - 53) (-1074) =
      (num.log2 : Int) - (53 + shift : Nat) := by
    have : (twoTo shift).log2 = shift := Nat.log2_two_pow
    omega
  have hwide : ¬ (scaled num (twoTo shift) (-((num.log2 : Int) - (53 + shift : Nat)))).1 /
      (scaled num (twoTo shift) (-((num.log2 : Int) - (53 + shift : Nat)))).2 < twoTo 53 := by
    rw [Int.neg_sub]
    exact Nat.not_lt.mpr ((Nat.le_div_iff_mul_le hden).mpr hle)
  have hexponent : (num.log2 : Int) - (53 + shift : Nat) + 1 = num.log2 - (52 + shift : Nat) := by
    omega
  have hnonzero : ¬ (decide (num = 0) || decide (twoTo shift = 0)) = true := by
    simp only [Nat.ne_of_gt hnum, Nat.ne_of_gt (twoTo_pos shift), decide_false, Bool.or_self]
    exact Bool.false_ne_true
  have hmantissa : roundDiv (scaled num (twoTo shift) ((52 + shift : Nat) - num.log2)).1
      (scaled num (twoTo shift) ((52 + shift : Nat) - num.log2)).2 = mantissaOf num shift := rfl
  unfold nearest
  rw [if_neg hnonzero]
  simp only [hlow]
  rw [if_neg hwide, hexponent, Int.neg_sub, hmantissa]
  by_cases hfits : mantissaOf num shift < twoTo 53
  · rw [if_pos hfits, if_pos hfits]
    by_cases hlog : num.log2 ≤ 1023 + shift
    · rw [if_pos hlog, if_neg (by dsimp only; omega)]
    · rw [if_neg hlog, if_pos (by dsimp only; omega)]
  · rw [if_neg hfits, if_neg hfits]
    by_cases hlog : num.log2 ≤ 1022 + shift
    · rw [if_pos hlog, if_neg (by dsimp only; omega)]
    · rw [if_neg hlog, if_pos (by dsimp only; omega)]

/-! ## The largest number -/

/-- The least whole number that is past every floating-point number: half a step above
`(2 ^ 53 - 1) * 2 ^ 971`, the largest one. -/
def past : Nat := (twoTo 54 - 1) * twoTo 970

theorem past_bounds : twoTo 53 * twoTo 970 ≤ past ∧ past < twoTo 54 * twoTo 970 :=
  ⟨Nat.mul_le_mul_right _ (by decide), Nat.mul_lt_mul_of_pos_right (by decide) (twoTo_pos 970)⟩

/-- Between the last two powers of two, a mantissa fits up to half a step above the largest
number. -/
theorem mantissaOf_lt_iff (h : num.log2 = 1023 + shift) :
    mantissaOf num shift < twoTo 53 ↔ num < past * twoTo shift := by
  have hscaled : scaled num (twoTo shift) ((52 + shift : Nat) - num.log2) =
      (num, twoTo shift * twoTo (num.log2 - (52 + shift))) :=
    scaled_down num shift (show 52 + shift < num.log2 by omega)
  have hstep : twoTo shift * twoTo (num.log2 - (52 + shift)) = 2 * (twoTo 970 * twoTo shift) := by
    rw [show num.log2 - (52 + shift) = 1 + 970 by omega, twoTo_add, ← Nat.mul_assoc,
      Nat.mul_comm (twoTo shift), Nat.mul_assoc, Nat.mul_comm (twoTo shift)]
    rfl
  have hbits : twoTo 53 = 9007199254740992 ∧ twoTo 54 = 18014398509481984 := by decide
  have hden : 0 < twoTo shift * twoTo (num.log2 - (52 + shift)) :=
    Nat.mul_pos (twoTo_pos _) (twoTo_pos _)
  unfold mantissaOf past
  rw [hscaled, roundDiv_lt_iff hden (by decide), hstep, Nat.mul_assoc, hbits.1, hbits.2]
  omega

include hshift in
theorem nearest_twoTo_of_past_le (h : past * twoTo shift ≤ num) :
    nearest negative num (twoTo shift) = .infinite negative := by
  have hlog : ¬ num.log2 ≤ 1022 + shift := by
    intro hlog
    refine Nat.lt_irrefl num ?_
    calc num < twoTo (num.log2 + 1) := lt_twoTo_log2 num
      _ ≤ twoTo (53 + 970 + shift) := twoTo_le (by omega)
      _ = twoTo 53 * twoTo 970 * twoTo shift := by rw [twoTo_add, twoTo_add 53]
      _ ≤ past * twoTo shift := Nat.mul_le_mul_right _ past_bounds.1
      _ ≤ num := h
  have hpos : 0 < num := Nat.pos_of_ne_zero fun hzero => hlog (by rw [hzero]; simp)
  rw [nearest_twoTo negative hshift hpos, if_neg hlog]
  split
  · rename_i hfits
    refine if_neg fun hlog' => ?_
    exact absurd ((mantissaOf_lt_iff (by omega)).mp hfits) (Nat.not_lt.mpr h)
  · rfl

include hshift in
theorem nearest_twoTo_of_lt_past (hpos : 0 < num) (h : num < past * twoTo shift) :
    ∃ mantissa exponent, 0 < mantissa ∧
      nearest negative num (twoTo shift) = .finite negative mantissa exponent := by
  have hlog : num.log2 < 1024 + shift := by
    refine Nat.lt_of_not_le fun hlog => Nat.lt_irrefl num ?_
    calc num < past * twoTo shift := h
      _ ≤ twoTo 54 * twoTo 970 * twoTo shift :=
        Nat.mul_le_mul_right _ (Nat.le_of_lt past_bounds.2)
      _ = twoTo (54 + 970 + shift) := by rw [twoTo_add (54 + 970), twoTo_add 54]
      _ ≤ twoTo num.log2 := twoTo_le hlog
      _ ≤ num := twoTo_log2_le hpos
  rw [nearest_twoTo negative hshift hpos]
  split
  · exact ⟨mantissaOf num shift, _, Nat.lt_of_lt_of_le (twoTo_pos 52) (le_mantissaOf shift hpos),
      if_pos (by omega)⟩
  · rename_i hfits
    have hlog' : num.log2 ≠ 1023 + shift := fun hlog' => hfits ((mantissaOf_lt_iff hlog').mpr h)
    exact ⟨twoTo 52, _, twoTo_pos 52, if_pos (by omega)⟩

/-! ## Whole numbers -/

include hshift in
/-- The quotients by a power of two that are past the largest floating-point number. -/
theorem quotient?_eq_none_iff (i : Int) :
    quotient? i (twoTo shift) = none ↔ past * twoTo shift ≤ i.natAbs := by
  unfold quotient?
  rcases Nat.lt_or_ge i.natAbs (past * twoTo shift) with h | h
  · rcases Nat.eq_zero_or_pos i.natAbs with hzero | hpos
    · rw [hzero] at h ⊢
      exact ⟨fun h => (nomatch h), fun hle => absurd h (Nat.not_lt.mpr hle)⟩
    · obtain ⟨_, _, -, hnearest⟩ := nearest_twoTo_of_lt_past (i < 0) hshift hpos h
      rw [hnearest]
      exact ⟨fun h => (nomatch h), fun hle => absurd h (Nat.not_lt.mpr hle)⟩
  · rw [nearest_twoTo_of_past_le _ hshift h]
    exact ⟨fun _ => h, fun _ => rfl⟩

/-- The whole numbers that are past the largest floating-point number. -/
theorem ofInt?_eq_none_iff (i : Int) : ofInt? i = none ↔ past ≤ i.natAbs := by
  have hwhole := quotient?_eq_none_iff (Nat.zero_le 1021) i
  rwa [show twoTo 0 = 1 from rfl, Nat.mul_one] at hwhole

/-- A whole number that is not too large becomes a finite number of its sign. -/
theorem exists_finite_of_ofInt? {i : Int} {d : Double} (h : ofInt? i = some d) :
    ∃ mantissa exponent, d = .finite (i < 0) mantissa exponent ∧ (0 < i → 0 < mantissa) := by
  have hlt : i.natAbs < past * twoTo 0 := by
    rw [show twoTo 0 = 1 from rfl, Nat.mul_one, ← Nat.not_le, ← ofInt?_eq_none_iff, h]
    exact nofun
  unfold ofInt? at h
  rcases Nat.eq_zero_or_pos i.natAbs with hzero | hpos
  · rw [hzero] at h
    cases h
    exact ⟨_, _, rfl, fun hi => by omega⟩
  · obtain ⟨mantissa, exponent, hmantissa, hnearest⟩ :=
      nearest_twoTo_of_lt_past (i < 0) (Nat.zero_le 1021) hpos hlt
    rw [show twoTo 0 = 1 from rfl] at hnearest
    rw [hnearest] at h
    cases h
    exact ⟨_, _, rfl, fun _ => hmantissa⟩

theorem isAtMostZero_of_ofInt? {i : Int} {d : Double} (h : ofInt? i = some d) (hi : 0 < i) :
    d.isAtMostZero = false := by
  obtain ⟨mantissa, exponent, rfl, hmantissa⟩ := exists_finite_of_ofInt? h
  have := hmantissa hi
  simp only [isAtMostZero, Bool.or_eq_false_iff, decide_eq_false_iff_not]
  omega

/-- A number is above zero where it is neither zero or less nor `nan`. -/
theorem zero_lt_iff (d : Double) :
    (zero false).lt d = true ↔ d.isAtMostZero = false ∧ d ≠ .nan := by
  cases d with
  | finite negative mantissa exponent =>
    have hpower : 0 < ((twoTo (exponent - min (-1074) exponent).toNat : Nat) : Int) :=
      Int.natCast_pos.mpr (twoTo_pos _)
    have hsigned : 0 < signed negative mantissa ↔ negative = false ∧ mantissa ≠ 0 := by
      unfold signed
      cases negative with
      | false => simp; omega
      | true => simp
    have hzero : signed false 0 = 0 := rfl
    rw [zero, lt, decide_eq_true_iff, hzero, Int.zero_mul]
    refine Iff.trans ⟨fun h => Int.pos_of_mul_pos_left h hpower, fun h => Int.mul_pos h hpower⟩ ?_
    simp [hsigned, isAtMostZero]
  | infinite negative => cases negative <;> decide
  | nan => decide

end Double

end CorpusSearch
