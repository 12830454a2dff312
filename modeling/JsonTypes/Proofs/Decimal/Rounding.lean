import Mathlib.Analysis.Real.Sqrt
import JsonTypes.Decimal.Double

/-!
# Rounding passes no double

The doubles are ordered by their ranks as by their values. A quotient and a square root are taken to
the rank of a nearest double, and no double lies between the exact number and that one
(`le_nearestRank`, `nearestRank_le`, `le_sqrtRank`, `sqrtRank_le`): what the number is at most or at
least is kept by rounding, for every double.

So small counts can be compared as doubles. Below the square root of a count are, among the numbers
up to 512, exactly those whose square is less than the count (`ofNatRank_lt_sqrtRank_iff`): the next
square root above `d` is more than half a thousandth away from `d`.
-/

namespace JsonTypes.Double

/-- The number that a rank stands for. -/
noncomputable def value (rank : Nat) : ℝ := (parts rank).1 * 2 ^ (parts rank).2

/-! ## Numbers in the unit that they are rounded to -/

/-- The number `y * 2 ^ q` is rounded to a multiple of `2 ^ q`: there are 53 binary digits, unless
the unit is the smallest. -/
structure Scaled (q : Int) (y : ℝ) : Prop where
  unit : -1074 ≤ q
  lt : y < 2 ^ 53
  le : -1074 < q → 2 ^ 52 ≤ y

/-- No natural number lies between `y` and `m`. -/
structure Nearby (y : ℝ) (m : Nat) : Prop where
  le : ∀ j : Nat, (j : ℝ) ≤ y → j ≤ m
  ge : ∀ j : Nat, y ≤ j → m ≤ j

theorem Nearby.self (m : Nat) : Nearby m m :=
  ⟨fun _ h => Nat.cast_le.1 h, fun _ h => Nat.cast_le.1 h⟩

/-- A rank tells its unit and how many of it the number has. -/
theorem scaled_parts (k : Nat) :
    Scaled (parts k).2 (parts k).1 ∧ k = ((parts k).2 + 1074).toNat * blockSize + (parts k).1 := by
  have hblock : blockSize = 2 ^ 52 := rfl
  unfold parts
  split_ifs with h
  · refine ⟨⟨le_rfl, ?_, fun hq => absurd hq (lt_irrefl _)⟩, by simp⟩
    exact_mod_cast h.trans (by norm_num [hblock])
  · have hdiv : 1 ≤ k / blockSize := Nat.div_pos (Nat.not_lt.1 h) (by simp [hblock])
    have hmod : k % blockSize < blockSize := Nat.mod_lt _ (by simp [hblock])
    refine ⟨⟨by simp only; omega, ?_, fun _ => ?_⟩, ?_⟩
    · have : blockSize + k % blockSize < 2 ^ 53 := by omega
      exact_mod_cast this
    · have : 2 ^ 52 ≤ blockSize + k % blockSize := by omega
      exact_mod_cast this
    · have hnat : (((k / blockSize : Nat) : Int) - 1075 + 1074).toNat = k / blockSize - 1 := by omega
      have hk := Nat.div_add_mod' k blockSize
      obtain ⟨b, hb⟩ : ∃ b, k / blockSize = b + 1 := ⟨k / blockSize - 1, by omega⟩
      simp only [hnat]
      rw [hb] at hk ⊢
      rw [Nat.add_mul, Nat.one_mul] at hk
      simp only [Nat.add_sub_cancel]
      omega

/-- Numbers of a larger unit are larger. -/
theorem Scaled.lt_of_unit_lt {q q' : Int} {y y' : ℝ} (hy : Scaled q y) (hy' : Scaled q' y')
    (hq : q < q') : y * 2 ^ q < y' * 2 ^ q' := by
  have hle : (2 : ℝ) ^ (q + 1) ≤ 2 ^ q' := zpow_le_zpow_right₀ one_le_two (by omega)
  calc y * 2 ^ q < 2 ^ 53 * 2 ^ q := mul_lt_mul_of_pos_right hy.lt (zpow_pos two_pos q)
    _ = 2 ^ 52 * 2 ^ (q + 1) := by rw [zpow_add_one₀ two_ne_zero]; ring
    _ ≤ 2 ^ 52 * 2 ^ q' := mul_le_mul_of_nonneg_left hle (by norm_num)
    _ ≤ y' * 2 ^ q' :=
      mul_le_mul_of_nonneg_right (hy'.le (hy.unit.trans_lt hq)) (zpow_pos two_pos q').le

section Rounding

variable {q : Int} {y : ℝ} {m k : Nat}

theorem Scaled.bounds (hy : Scaled q y) (hm : Nearby y m) :
    m ≤ 2 ^ 53 ∧ (-1074 < q → 2 ^ 52 ≤ m) :=
  ⟨hm.ge _ (by exact_mod_cast hy.lt.le), fun hq => hm.le _ (by exact_mod_cast hy.le hq)⟩

/-- The double that a number is rounded to is at least every double that the number is at least. -/
theorem Scaled.le_rank (hy : Scaled q y) (hm : Nearby y m) (hk : value k ≤ y * 2 ^ q) :
    k ≤ (q + 1074).toNat * blockSize + m := by
  have hblock : blockSize = 2 ^ 52 := rfl
  obtain ⟨hparts, hrank⟩ := scaled_parts k
  have hlt := hparts.bounds (Nearby.self _)
  have hunit := hparts.unit
  rcases lt_trichotomy (parts k).2 q with hq | hq | hq
  · have hm' := (hy.bounds hm).2 (hunit.trans_lt hq)
    have hstep : ((parts k).2 + 1074).toNat + 1 ≤ (q + 1074).toNat := by omega
    have := Nat.mul_le_mul_right blockSize hstep
    rw [Nat.add_mul] at this
    omega
  · have hle : ((parts k).1 : ℝ) ≤ y := by
      rw [value, hq] at hk
      exact le_of_mul_le_mul_right hk (zpow_pos two_pos q)
    have := hm.le _ hle
    rw [hrank, hq]
    omega
  · exact absurd hk (not_le.2 (hy.lt_of_unit_lt hparts hq))

/-- The double that a number is rounded to is at most every double that the number is at most. -/
theorem Scaled.rank_le (hy : Scaled q y) (hm : Nearby y m) (hk : y * 2 ^ q ≤ value k) :
    (q + 1074).toNat * blockSize + m ≤ k := by
  have hblock : blockSize = 2 ^ 52 := rfl
  obtain ⟨hparts, hrank⟩ := scaled_parts k
  have hunit := hy.unit
  rcases lt_trichotomy q (parts k).2 with hq | hq | hq
  · have hm' := (hparts.bounds (Nearby.self _)).2 (hunit.trans_lt hq)
    have hlt := (hy.bounds hm).1
    have hstep : (q + 1074).toNat + 1 ≤ ((parts k).2 + 1074).toNat := by omega
    have := Nat.mul_le_mul_right blockSize hstep
    rw [Nat.add_mul] at this
    omega
  · have hle : y ≤ (parts k).1 := by
      rw [value, ← hq] at hk
      exact le_of_mul_le_mul_right hk (zpow_pos two_pos q)
    have := hm.ge _ hle
    rw [hrank, ← hq]
    omega
  · exact absurd hk (not_le.2 (hparts.lt_of_unit_lt hy hq))

end Rounding

/-- Ranks are ordered as the numbers that they stand for. -/
theorem value_le_value {k k' : Nat} : value k ≤ value k' ↔ k ≤ k' := by
  obtain ⟨hparts, hrank⟩ := scaled_parts k
  obtain ⟨hparts', hrank'⟩ := scaled_parts k'
  refine ⟨fun h => hrank' ▸ hparts'.le_rank (.self _) h, fun h => ?_⟩
  by_contra hlt
  have hle : k' ≤ k := hrank ▸ hparts.le_rank (.self _) (not_le.1 hlt).le
  exact hlt (le_antisymm h hle ▸ le_rfl)

/-! ## Quotients -/

theorem nearby_roundDiv {num den : Nat} (hden : 0 < den) :
    Nearby (num / den) (roundDiv num den) := by
  have hpos : (0 : ℝ) < den := Nat.cast_pos.2 hden
  have hmod := Nat.mod_lt num hden
  have hsum := Nat.div_add_mod' num den
  refine ⟨fun j hj => ?_, fun j hj => ?_⟩
  · have hj' : j ≤ num / den := by
      rw [le_div_iff₀ hpos] at hj
      exact (Nat.le_div_iff_mul_le hden).2 (by exact_mod_cast hj)
    simp only [roundDiv]
    split_ifs <;> omega
  · have hj' : num ≤ j * den := by
      rw [div_le_iff₀ hpos] at hj
      exact_mod_cast hj
    simp only [roundDiv]
    -- A remainder makes the quotient less than `j`, and without one nothing is added.
    rcases Nat.eq_zero_or_pos (num % den) with hr | hr
    · rw [if_pos (by omega)]
      exact Nat.div_le_of_le_mul (by rwa [Nat.mul_comm])
    · have : num / den < j := (Nat.div_lt_iff_lt_mul hden).2 (lt_of_le_of_ne hj' ?_)
      · split_ifs <;> omega
      · rintro rfl
        simp at hr

theorem scale_two (q : Int) (den num : Nat) :
    ((scale 2 q den num).2 : ℝ) / (scale 2 q den num).1 = num / den / 2 ^ q := by
  obtain ⟨n, rfl | rfl⟩ := q.eq_nat_or_neg
  · have : (-(n : Int)).toNat = 0 := by omega
    simp [scale, this, div_div]
  · have : (-(n : Int)).toNat = 0 := by omega
    simp [scale, this, div_eq_mul_inv, mul_right_comm]

theorem scale_two_pos {q : Int} {den num : Nat} (hden : 0 < den) : 0 < (scale 2 q den num).1 :=
  Nat.mul_pos hden (Nat.pow_pos two_pos)

theorem scale_two_le {q : Int} {den num : Nat} (hden : 0 < den) :
    (scale 2 q den num).1 ≤ (scale 2 q den num).2 ↔ (2 : ℝ) ^ q ≤ num / den := by
  have hpos : (0 : ℝ) < (scale 2 q den num).1 := Nat.cast_pos.2 (scale_two_pos hden)
  rw [← one_le_div₀ (zpow_pos two_pos q), ← scale_two, one_le_div₀ hpos, Nat.cast_le]

theorem log2Quotient_bounds {num den : Nat} (hnum : 0 < num) (hden : 0 < den) :
    (2 : ℝ) ^ log2Quotient num den ≤ num / den ∧
      (num / den : ℝ) < 2 ^ (log2Quotient num den + 1) := by
  have hpos : (0 : ℝ) < den := Nat.cast_pos.2 hden
  have hn : (2 : ℝ) ^ (num.log2 : Int) ≤ num := by exact_mod_cast Nat.log2_self_le hnum.ne'
  have hn' : (num : ℝ) < 2 ^ ((num.log2 : Int) + 1) := by exact_mod_cast Nat.lt_log2_self
  have hd : (2 : ℝ) ^ (den.log2 : Int) ≤ den := by exact_mod_cast Nat.log2_self_le hden.ne'
  have hd' : (den : ℝ) < 2 ^ ((den.log2 : Int) + 1) := by exact_mod_cast Nat.lt_log2_self
  have hlow : (2 : ℝ) ^ ((num.log2 : Int) - den.log2 - 1) ≤ num / den := by
    rw [le_div_iff₀ hpos]
    calc (2 : ℝ) ^ ((num.log2 : Int) - den.log2 - 1) * den
        ≤ 2 ^ ((num.log2 : Int) - den.log2 - 1) * 2 ^ ((den.log2 : Int) + 1) :=
          mul_le_mul_of_nonneg_left hd'.le (zpow_pos two_pos _).le
      _ = 2 ^ (num.log2 : Int) := by rw [← zpow_add₀ two_ne_zero]; congr 1; ring
      _ ≤ num := hn
  have hhigh : (num / den : ℝ) < 2 ^ ((num.log2 : Int) - den.log2 + 1) := by
    rw [div_lt_iff₀ hpos]
    calc (num : ℝ) < 2 ^ ((num.log2 : Int) + 1) := hn'
      _ = 2 ^ ((num.log2 : Int) - den.log2 + 1) * 2 ^ (den.log2 : Int) := by
        rw [← zpow_add₀ two_ne_zero]; congr 1; ring
      _ ≤ 2 ^ ((num.log2 : Int) - den.log2 + 1) * den :=
        mul_le_mul_of_nonneg_left hd (zpow_pos two_pos _).le
  unfold log2Quotient
  simp only
  split_ifs with h
  · exact ⟨(scale_two_le hden).1 h, hhigh⟩
  · refine ⟨hlow, ?_⟩
    rw [sub_add_cancel]
    exact not_le.1 (mt (scale_two_le hden).2 h)

/-- A number between two powers of two, in the unit that it is rounded to. -/
theorem scaled_of_exponent {x : ℝ} {e : Int} (hlow : 2 ^ e ≤ x) (hhigh : x < 2 ^ (e + 1)) :
    Scaled (max (e - 52) (-1074)) (x / 2 ^ max (e - 52) (-1074)) := by
  generalize hq : max (e - 52) (-1074) = q
  have hunit : (0 : ℝ) < 2 ^ q := zpow_pos two_pos q
  refine ⟨by omega, ?_, fun hlt => ?_⟩
  · rw [div_lt_iff₀ hunit]
    calc x < 2 ^ (e + 1) := hhigh
      _ ≤ 2 ^ (53 + q) := zpow_le_zpow_right₀ one_le_two (by omega)
      _ = 2 ^ 53 * 2 ^ q := zpow_add₀ two_ne_zero 53 q
  · rw [le_div_iff₀ hunit]
    calc (2 : ℝ) ^ 52 * 2 ^ q = 2 ^ (52 + q) := (zpow_add₀ two_ne_zero 52 q).symm
      _ = 2 ^ e := by congr 1; omega
      _ ≤ x := hlow

/-- Where the quotient lies in its unit, and what it is rounded to. -/
theorem nearestRank_scaled {num den : Nat} (hnum : 0 < num) (hden : 0 < den) :
    ∃ q y m, Scaled q y ∧ Nearby y m ∧ y * 2 ^ q = num / den ∧
      nearestRank num den = (q + 1074).toNat * blockSize + m := by
  obtain ⟨hlow, hhigh⟩ := log2Quotient_bounds hnum hden
  refine ⟨_, _, _, scaled_of_exponent hlow hhigh, ?_, div_mul_cancel₀ _ (zpow_pos two_pos _).ne',
    by rw [nearestRank, if_neg hnum.ne']⟩
  rw [← scale_two]
  exact nearby_roundDiv (scale_two_pos hden)

@[simp] theorem value_zero : value 0 = 0 := by simp [value, parts, blockSize]

theorem value_pos {k : Nat} (hk : 0 < k) : 0 < value k := by
  rw [← value_zero]
  exact not_le.1 (mt value_le_value.1 (Nat.not_le.2 hk))

theorem value_nonneg (k : Nat) : 0 ≤ value k := by
  rw [← value_zero]
  exact value_le_value.2 k.zero_le

theorem le_nearestRank {k num den : Nat} (hden : 0 < den) (hk : value k ≤ num / den) :
    k ≤ nearestRank num den := by
  rcases num.eq_zero_or_pos with rfl | hnum
  · rw [Nat.cast_zero, zero_div, ← value_zero, value_le_value] at hk
    exact hk.trans (Nat.zero_le _)
  · obtain ⟨q, y, m, hy, hm, hvalue, hrank⟩ := nearestRank_scaled hnum hden
    rw [hrank]
    exact hy.le_rank hm (hvalue ▸ hk)

theorem nearestRank_le {k num den : Nat} (hden : 0 < den) (hk : (num : ℝ) / den ≤ value k) :
    nearestRank num den ≤ k := by
  rcases num.eq_zero_or_pos with rfl | hnum
  · rw [nearestRank, if_pos rfl]
    exact k.zero_le
  · obtain ⟨q, y, m, hy, hm, hvalue, hrank⟩ := nearestRank_scaled hnum hden
    rw [hrank]
    exact hy.rank_le hm (hvalue ▸ hk)

/-! ## Square roots -/

theorem floorSqrt_bounds {digits n : Nat} (hn : n < 4 ^ digits) :
    floorSqrt digits n * floorSqrt digits n ≤ n ∧
      n < (floorSqrt digits n + 1) * (floorSqrt digits n + 1) := by
  induction digits generalizing n with
  | zero => simp_all [floorSqrt]
  | succ digits ih =>
    obtain ⟨hle, hlt⟩ := ih (n := n / 4) (by rw [pow_succ] at hn; omega)
    simp only [floorSqrt]
    generalize floorSqrt digits (n / 4) = r at hle hlt
    -- Twice the root of the quarter, or one more.
    have hlow : 2 * r * (2 * r) ≤ n := by
      have : 2 * r * (2 * r) = 4 * (r * r) := by ring
      omega
    have hhigh : n < (2 * r + 1 + 1) * (2 * r + 1 + 1) := by
      have : (2 * r + 1 + 1) * (2 * r + 1 + 1) = 4 * ((r + 1) * (r + 1)) := by ring
      omega
    split_ifs with h
    · exact ⟨h, hhigh⟩
    · exact ⟨hlow, Nat.not_le.1 h⟩

theorem lt_four_pow (n : Nat) : n < 4 ^ (n.log2 / 2 + 1) :=
  calc n < 2 ^ (n.log2 + 1) := Nat.lt_log2_self
    _ ≤ 2 ^ (2 * (n.log2 / 2 + 1)) := Nat.pow_le_pow_right two_pos (by omega)
    _ = 4 ^ (n.log2 / 2 + 1) := Nat.pow_mul 2 2 _

theorem nearby_roundSqrt {num den : Nat} (hden : 0 < den) :
    Nearby (√(num / den)) (roundSqrt num den) := by
  have hpos : (0 : ℝ) < den := Nat.cast_pos.2 hden
  obtain ⟨hle, hlt⟩ := floorSqrt_bounds (lt_four_pow (num / den))
  simp only [roundSqrt]
  generalize floorSqrt _ (num / den) = root at hle hlt
  refine ⟨fun j hj => ?_, fun j hj => ?_⟩
  · rcases j.eq_zero_or_pos with rfl | hj₀
    · exact Nat.zero_le _
    have hj' : j * j ≤ num / den := by
      rw [Real.le_sqrt' (Nat.cast_pos.2 hj₀), sq, le_div_iff₀ hpos] at hj
      exact (Nat.le_div_iff_mul_le hden).2 (by exact_mod_cast hj)
    have : j < root + 1 := Nat.mul_self_lt_mul_self_iff.1 (hj'.trans_lt hlt)
    split_ifs <;> omega
  · have hj' : num ≤ j * j * den := by
      rw [Real.sqrt_le_left j.cast_nonneg, sq, div_le_iff₀ hpos] at hj
      exact_mod_cast hj
    have hroot : root ≤ j := by
      rw [Nat.le_div_iff_mul_le hden] at hle
      exact Nat.mul_self_le_mul_self_iff.1 (Nat.le_of_mul_le_mul_right (hle.trans hj') hden)
    -- A root that is `j` itself is not half a unit below the number.
    rcases hroot.eq_or_lt with rfl | hroot
    · rw [if_pos]
      calc 4 * num ≤ 2 * root * (2 * root) * den := by nlinarith only [hj']
        _ < (2 * root + 1) * (2 * root + 1) * den :=
          Nat.mul_lt_mul_of_pos_right (Nat.mul_self_lt_mul_self (Nat.lt_succ_self _)) hden
    · split_ifs <;> omega

theorem quotient_pos (k : Nat) : 0 < (quotient k).2 :=
  Nat.mul_pos one_pos (Nat.pow_pos two_pos)

theorem quotient_value (k : Nat) : ((quotient k).1 : ℝ) / (quotient k).2 = value k := by
  have h := congrArg Inv.inv (scale_two (parts k).2 (parts k).1 1)
  rwa [inv_div, Nat.cast_one, one_div, inv_div, div_inv_eq_mul, mul_comm] at h

theorem sqrt_exponent {x : ℝ} {e : Int} (hlow : 2 ^ e ≤ x) (hhigh : x < 2 ^ (e + 1)) :
    2 ^ (e / 2) ≤ √x ∧ √x < 2 ^ (e / 2 + 1) := by
  constructor
  · refine Real.le_sqrt_of_sq_le ?_
    calc ((2 : ℝ) ^ (e / 2)) ^ 2 = 2 ^ (e / 2 * 2) := (zpow_mul 2 (e / 2) 2).symm
      _ ≤ 2 ^ e := zpow_le_zpow_right₀ one_le_two (by omega)
      _ ≤ x := hlow
  · rw [Real.sqrt_lt' (zpow_pos two_pos _)]
    calc x < 2 ^ (e + 1) := hhigh
      _ ≤ 2 ^ ((e / 2 + 1) * 2) := zpow_le_zpow_right₀ one_le_two (by omega)
      _ = ((2 : ℝ) ^ (e / 2 + 1)) ^ 2 := zpow_mul 2 (e / 2 + 1) 2

/-- Where the square root lies in its unit, and what it is rounded to. -/
theorem sqrtRank_scaled {rank : Nat} (hrank : 0 < rank) :
    ∃ q y m, Scaled q y ∧ Nearby y m ∧ y * 2 ^ q = √(value rank) ∧
      sqrtRank rank = (q + 1074).toNat * blockSize + m := by
  have hvalue := quotient_value rank
  have hden := quotient_pos rank
  have hnum : 0 < (quotient rank).1 := by
    refine Nat.pos_of_ne_zero fun h => (value_pos hrank).ne ?_
    rw [← hvalue, h, Nat.cast_zero, zero_div]
  obtain ⟨hlow, hhigh⟩ := log2Quotient_bounds hnum hden
  rw [hvalue] at hlow hhigh
  generalize he : log2Quotient (quotient rank).1 (quotient rank).2 = e at hlow hhigh
  -- No double but zero is so small that its root would have the smallest unit.
  have hsmall : -1074 ≤ e := by
    have hone : value 1 ≤ value rank := value_le_value.2 hrank
    have : (2 : ℝ) ^ (-1074 : Int) < 2 ^ (e + 1) := by
      simpa [value, parts, blockSize] using hone.trans_lt hhigh
    have := (zpow_lt_zpow_iff_right₀ one_lt_two).1 this
    omega
  obtain ⟨hlow', hhigh'⟩ := sqrt_exponent hlow hhigh
  have hscaled := scaled_of_exponent hlow' hhigh'
  rw [max_eq_left (by omega)] at hscaled
  refine ⟨_, _, _, hscaled, ?_, div_mul_cancel₀ _ (zpow_pos two_pos _).ne',
    by rw [sqrtRank, if_neg hrank.ne']; simp only [he]; rfl⟩
  have hunit : (2 : ℝ) ^ (e / 2 - 52) = √(2 ^ (2 * (e / 2 - 52))) := by
    rw [mul_comm, zpow_mul]
    exact (Real.sqrt_sq (zpow_pos two_pos _).le).symm
  rw [hunit, ← Real.sqrt_div (value_nonneg rank), ← hvalue, ← scale_two]
  exact nearby_roundSqrt (scale_two_pos hden)

theorem le_sqrtRank {k rank : Nat} (hk : value k ≤ √(value rank)) : k ≤ sqrtRank rank := by
  rcases rank.eq_zero_or_pos with rfl | hrank
  · rw [value_zero, Real.sqrt_zero, ← value_zero, value_le_value] at hk
    exact hk.trans (Nat.zero_le _)
  · obtain ⟨q, y, m, hy, hm, hvalue, hrank⟩ := sqrtRank_scaled hrank
    rw [hrank]
    exact hy.le_rank hm (hvalue ▸ hk)

theorem sqrtRank_le {k rank : Nat} (hk : √(value rank) ≤ value k) : sqrtRank rank ≤ k := by
  rcases rank.eq_zero_or_pos with rfl | hrank
  · rw [sqrtRank, if_pos rfl]
    exact k.zero_le
  · obtain ⟨q, y, m, hy, hm, hvalue, hrank⟩ := sqrtRank_scaled hrank
    rw [hrank]
    exact hy.rank_le hm (hvalue ▸ hk)

/-! ## Small counts -/

/-- The rank of `m` units, with no digit to spare. -/
theorem parts_block {u m : Nat} (hlow : 2 ^ 52 ≤ m) (hhigh : m < 2 ^ 53) :
    parts (u * blockSize + m) = (m, (u : Int) - 1074) := by
  have hblock : blockSize = 2 ^ 52 := rfl
  have hrank : u * blockSize + m = (m - blockSize) + blockSize * (u + 1) := by
    rw [Nat.mul_add, Nat.mul_comm]
    omega
  have hm : m - blockSize < blockSize := by omega
  rw [hrank, parts, if_neg (by omega), Nat.add_mul_mod_self_left, Nat.mod_eq_of_lt hm,
    Nat.add_mul_div_left _ _ (by omega), Nat.div_eq_of_lt hm]
  refine Prod.ext ?_ ?_
  · simp only
    omega
  · simp only
    omega

/-- Every number of 53 binary digits in a unit that is not too small is a double. -/
theorem exists_value {j : Nat} {q : Int} (hj : 0 < j) (hj' : j < 2 ^ 53) (hq : -1022 ≤ q) :
    ∃ k, value k = j * 2 ^ q := by
  have hlog : j.log2 ≤ 52 := Nat.lt_succ_iff.1 ((Nat.log2_lt hj.ne').2 hj')
  obtain ⟨s, hs⟩ := Nat.exists_eq_add_of_le' hlog
  obtain ⟨u, hu⟩ := Int.eq_ofNat_of_zero_le (show 0 ≤ q - s + 1074 by omega)
  have hlow : 2 ^ 52 ≤ j * 2 ^ s := by
    rw [hs, Nat.add_comm, pow_add]
    exact Nat.mul_le_mul_right _ (Nat.log2_self_le hj.ne')
  have hhigh : j * 2 ^ s < 2 ^ 53 :=
    calc j * 2 ^ s < 2 ^ (j.log2 + 1) * 2 ^ s :=
          Nat.mul_lt_mul_of_pos_right Nat.lt_log2_self (Nat.pow_pos two_pos)
      _ = 2 ^ 53 := by rw [← pow_add]; congr 1; omega
  refine ⟨u * blockSize + j * 2 ^ s, ?_⟩
  have hunit : (u : Int) - 1074 = q - s := by omega
  rw [value, parts_block hlow hhigh, hunit, zpow_sub₀ two_ne_zero, zpow_natCast]
  push_cast
  field_simp

theorem exists_value_natCast {n : Nat} (hn : 0 < n) (hn' : n < 2 ^ 53) :
    ∃ k, value k = n ∧ ofNatRank n = k := by
  obtain ⟨k, hk⟩ := exists_value hn hn' (q := 0) (by omega)
  rw [zpow_zero, mul_one] at hk
  exact ⟨k, hk, le_antisymm (nearestRank_le one_pos (by simp [hk]))
    (le_nearestRank one_pos (by simp [hk]))⟩

/-- A number up to 512 is less than the rounded square root of a rounded count exactly if its square
is less than the count. -/
theorem ofNatRank_lt_sqrtRank_iff {d n : Nat} (hd : 0 < d) (hd' : d ≤ 512) :
    ofNatRank d < sqrtRank (ofNatRank n) ↔ d * d < n := by
  have hsq : d * d ≤ 512 * 512 := Nat.mul_le_mul hd' hd'
  obtain ⟨k, hk, hrank⟩ := exists_value_natCast hd (by omega)
  rw [hrank]
  constructor
  · intro hlt
    by_contra hn
    obtain ⟨k₂, hk₂, -⟩ := exists_value_natCast (Nat.mul_pos hd hd) (by omega)
    have hround : ofNatRank n ≤ k₂ :=
      nearestRank_le one_pos (by rw [hk₂, Nat.cast_one, div_one, Nat.cast_le]; omega)
    refine Nat.not_le.2 hlt (sqrtRank_le ?_)
    calc √(value (ofNatRank n)) ≤ √(value k₂) := Real.sqrt_le_sqrt (value_le_value.2 hround)
      _ = value k := by rw [hk₂, hk, Nat.cast_mul, Real.sqrt_mul_self d.cast_nonneg]
  · intro hn
    -- The double one half thousandth above `d` has a square less than that of `d` and one more.
    obtain ⟨k₁, hk₁⟩ := exists_value (j := 2048 * d + 1) (q := -11) (by omega) (by omega) (by omega)
    obtain ⟨k₂, hk₂, -⟩ := exists_value_natCast (n := d * d + 1) (by omega) (by omega)
    have hvalue : value k₁ = d + 1 / 2048 := by
      rw [hk₁]
      push_cast
      norm_num
      ring
    have hround : k₂ ≤ ofNatRank n :=
      le_nearestRank one_pos (by rw [hk₂, Nat.cast_one, div_one, Nat.cast_le]; omega)
    have hd512 : (d : ℝ) ≤ 512 := by exact_mod_cast hd'
    have hroot : value k₁ ≤ √(value (ofNatRank n)) := by
      refine Real.le_sqrt_of_sq_le ?_
      calc value k₁ ^ 2 = (d : ℝ) * d + ((d : ℝ) / 1024 + 1 / 2048 ^ 2) := by rw [hvalue]; ring
        _ ≤ (d : ℝ) * d + 1 := by linarith only [hd512]
        _ = value k₂ := by rw [hk₂]; push_cast; rfl
        _ ≤ value (ofNatRank n) := value_le_value.2 hround
    have habove : k < k₁ := by
      rw [← not_le, ← value_le_value, hvalue, hk, not_le]
      linarith only
    exact habove.trans_le (le_sqrtRank hroot)

end JsonTypes.Double
