/-
  Us8/Numeric.lean
  ================
  **C++ floating-point values and their conversions to and from integers.**

  A `Double` is a NaN, an infinity or a finite number, the latter as the exact
  rational it stands for (the two zeros compare equal and are one value here).
  Arithmetic is exact; `rounded` brings a result to the 53 bits of the compiled
  program where a start time or a capacity is computed.  Conversions are the ones of
  the compiled program: integers are rounded to the nearest representable value,
  ties to even; a float becomes an integer by truncation, and a value the integer
  type cannot hold becomes the *integer indefinite* value, the smallest one, as the
  x86-64 conversion instructions give.

  Machine integers are Lean's own `Int32` and `Int64`, so sums and differences
  wrap as two's complement does, and so does a count that is returned as an `int`.
-/
import Mathlib.Data.Int.Log
import Mathlib.Data.Rat.Floor
import Mathlib.Tactic.Linarith
import Mathlib.Tactic.Positivity

namespace Us8

/-- A value of a C++ `double`. -/
inductive Double where
  | nan
  | infinity (negative : Bool)
  | finite (value : ℚ)
deriving DecidableEq

/-- A value of a C++ `float`, as the `double` it widens to. -/
structure Single where
  toDouble : Double
deriving DecidableEq

/-- Round a natural number to `bits` significant bits, to nearest, ties to even. -/
def roundToBits (bits n : Nat) : Nat :=
  if n < 2 ^ bits then n
  else
    let unit := 2 ^ (n.log2 + 1 - bits)
    let quotient := n / unit
    let rest := n % unit
    -- compare twice the remainder with the unit: above, below or half way
    if unit < 2 * rest ∨ (2 * rest = unit ∧ quotient % 2 = 1) then (quotient + 1) * unit
    else quotient * unit

/-- The distance between neighbouring values at the magnitude of `q`; subnormal values share
    the spacing `2 ^ least`. -/
def spacing (bits : Nat) (least : Int) (q : ℚ) : ℚ := 2 ^ max (Int.log 2 |q| + 1 - bits) least

/-- Round a rational to `bits` significant bits, to nearest, ties to even. -/
def roundToSpacing (bits : Nat) (least : Int) (q : ℚ) : ℚ :=
  if q = 0 then 0
  else
    let unit := spacing bits least q
    let scaled := |q| / unit
    let low := ⌊scaled⌋
    let mantissa :=
      if 1 / 2 < scaled - low ∨ (scaled - low = 1 / 2 ∧ low % 2 = 1) then low + 1 else low
    let magnitude := mantissa * unit
    if q < 0 then -magnitude else magnitude

section Rounding

variable {bits : Nat} {least : Int} {q : ℚ}

theorem spacing_pos : 0 < spacing bits least q := by
  exact zpow_pos (by norm_num) _

theorem spacing_le (hq : 0 < q) :
    spacing 53 (-1074) q ≤ max (q / 2 ^ 52) (2 ^ (-1074 : Int)) := by
  have hlog : (2 : ℚ) ^ (Int.log 2 |q| + 1 - (53 : Nat)) ≤ q / 2 ^ 52 := by
    have hle := Int.zpow_log_le_self (b := 2) (by decide) (abs_pos.mpr hq.ne')
    have hexponent : Int.log 2 |q| + 1 - (53 : Nat) = Int.log 2 |q| - 52 := by omega
    rw [abs_of_pos hq] at hle hexponent ⊢
    rw [hexponent, zpow_sub₀ (by norm_num)]
    exact div_le_div_of_nonneg_right (by exact_mod_cast hle) (by positivity)
  unfold spacing
  rcases le_total (Int.log 2 |q| + 1 - (53 : Nat)) (-1074) with h | h
  · rw [max_eq_right h]
    exact le_max_right _ _
  · rw [max_eq_left h]
    exact le_max_of_le_left hlog

/-- Below 2^52 the spacing is a half or less, and one of its multiples is one. -/
theorem spacing_eq (hq : 0 < q) (hlt : q < 2 ^ 52) :
    ∃ j : Nat, spacing 53 (-1074) q * 2 ^ (j + 1) = 1 := by
  have hlog : Int.log 2 |q| < 52 := by
    rw [← Int.lt_zpow_iff_log_lt (by decide) (abs_pos.mpr hq.ne'), abs_of_pos hq]
    exact_mod_cast hlt
  obtain ⟨j, hj⟩ := Int.eq_ofNat_of_zero_le (a := -1 - max (Int.log 2 |q| + 1 - (53 : Nat)) (-1074))
    (by omega)
  refine ⟨j, ?_⟩
  have hexponent : max (Int.log 2 |q| + 1 - (53 : Nat)) (-1074) + ((j + 1 : Nat) : Int) = 0 := by
    push_cast at hj ⊢
    omega
  rw [spacing, ← zpow_natCast, ← zpow_add₀ (by norm_num), hexponent, zpow_zero]

/-- What a positive value is rounded to: a multiple of the spacing, at most half of it away
    and not below the last multiple before the value. -/
theorem roundToSpacing_of_pos (hq : 0 < q) : ∃ mantissa : Int,
    roundToSpacing bits least q = mantissa * spacing bits least q ∧
      ⌊q / spacing bits least q⌋ ≤ mantissa ∧
      (mantissa : ℚ) ≤ q / spacing bits least q + 1 / 2 := by
  unfold roundToSpacing
  rw [if_neg hq.ne']
  dsimp only
  rw [if_neg (not_lt.mpr hq.le), abs_of_pos hq]
  have hfloor := Int.floor_le (q / spacing bits least q)
  split_ifs with hup
  · refine ⟨_, rfl, by omega, ?_⟩
    push_cast
    rcases hup with h | ⟨h, -⟩ <;> linarith
  · exact ⟨_, rfl, le_refl _, by linarith⟩

/-- A multiple of the spacing is not changed. -/
theorem roundToSpacing_of_multiple (hq : 0 < q) {n : Int} (hn : q / spacing bits least q = n) :
    roundToSpacing bits least q = q := by
  obtain ⟨mantissa, hround, hlow, hhigh⟩ := @roundToSpacing_of_pos bits least q hq
  rw [hn, Int.floor_intCast] at hlow
  have hle : mantissa ≤ n := by
    by_contra hlt
    have hnext : ((n + 1 : Int) : ℚ) ≤ mantissa := by exact_mod_cast not_le.mp hlt
    push_cast at hnext
    linarith
  rw [hround, le_antisymm hle hlow, ← hn, div_mul_cancel₀ _ spacing_pos.ne']

/-- A half-integer that is not too large is a `double`. -/
theorem roundToSpacing_of_half (hq : 0 ≤ q) (hlt : q < 2 ^ 52) {n : Int} (hn : q = n / 2) :
    roundToSpacing 53 (-1074) q = q := by
  rcases hq.eq_or_lt with rfl | hpos
  · rfl
  · obtain ⟨j, hj⟩ := spacing_eq hpos hlt
    apply roundToSpacing_of_multiple hpos (n := n * 2 ^ j)
    rw [div_eq_iff spacing_pos.ne']
    push_cast
    calc q = n / 2 * 1 := by rw [hn, mul_one]
      _ = n / 2 * (spacing 53 (-1074) q * 2 ^ (j + 1)) := by rw [hj]
      _ = n * 2 ^ j * spacing 53 (-1074) q := by ring

/-- The next integer above a quotient of integers below 2^53 is further away than half the
    spacing. -/
theorem half_spacing_lt (hq : 0 < q) {d n : Int} (hd : 0 < d) (hn : q * d = n)
    (hsmall : q * d < 2 ^ 53) : spacing 53 (-1074) q / 2 < ⌊q⌋ + 1 - q := by
  have hle := spacing_le hq
  have hleast : (2 : ℚ) ^ (-1074 : Int) ≤ 1 / 2 ^ 53 := by
    calc (2 : ℚ) ^ (-1074 : Int) ≤ 2 ^ (-53 : Int) :=
          zpow_le_zpow_right₀ (by norm_num) (by norm_num)
      _ = 1 / 2 ^ 53 := by norm_num
  by_cases hhalf : q < 1 / 2
  · have hfloor : (0 : ℚ) ≤ ⌊q⌋ := by exact_mod_cast Int.floor_nonneg.mpr hq.le
    have hmax : max (q / 2 ^ 52) ((2 : ℚ) ^ (-1074 : Int)) ≤ 1 / 2 := by
      apply max_le
      · linarith
      · linarith
    linarith
  · have hmax : max (q / 2 ^ 52) ((2 : ℚ) ^ (-1074 : Int)) = q / 2 ^ 52 := by
      apply max_eq_left
      linarith
    have hd' : (0 : ℚ) < d := by exact_mod_cast hd
    -- over the denominator the distance is a positive integer
    have hgap : 1 ≤ (⌊q⌋ + 1 - q) * d := by
      have hpos : 0 < (⌊q⌋ + 1 - q) * d :=
        mul_pos (by linarith [Int.lt_floor_add_one q]) hd'
      rw [sub_mul, hn] at hpos ⊢
      have hint : 0 < (⌊q⌋ + 1) * d - n := by exact_mod_cast hpos
      exact_mod_cast hint
    rw [hmax] at hle
    have hhalf' : spacing 53 (-1074) q / 2 * d < 1 := by
      calc spacing 53 (-1074) q / 2 * d ≤ q / 2 ^ 52 / 2 * d := by gcongr
        _ = q * d / 2 ^ 53 := by ring
        _ < 1 := by
            rw [div_lt_one (by norm_num)]
            exact hsmall
    exact lt_of_mul_lt_mul_right (lt_of_lt_of_le hhalf' hgap) hd'.le

/-- So such a quotient is not carried to the next integer, nor below the last one. -/
theorem floor_roundToSpacing (hq : 0 ≤ q) (hlt : q < 2 ^ 52) {d n : Int} (hd : 0 < d)
    (hn : q * d = n) (hsmall : q * d < 2 ^ 53) :
    ⌊roundToSpacing 53 (-1074) q⌋ = ⌊q⌋ := by
  rcases hq.eq_or_lt with rfl | hpos
  · rfl
  · obtain ⟨mantissa, hround, hlow, hhigh⟩ := roundToSpacing_of_pos hpos
    have hspacing : 0 < spacing 53 (-1074) q := spacing_pos
    rw [hround, Int.floor_eq_iff]
    constructor
    · -- the integer part is a multiple of the spacing
      obtain ⟨j, hj⟩ := spacing_eq hpos hlt
      have hmultiple : ⌊q⌋ * 2 ^ (j + 1) ≤ mantissa := by
        refine le_trans (Int.le_floor.mpr ?_) hlow
        rw [le_div_iff₀ hspacing]
        push_cast
        calc (⌊q⌋ : ℚ) * 2 ^ (j + 1) * spacing 53 (-1074) q
            = ⌊q⌋ * (spacing 53 (-1074) q * 2 ^ (j + 1)) := by ring
          _ ≤ q := by rw [hj, mul_one]; exact Int.floor_le q
      calc (⌊q⌋ : ℚ) = ⌊q⌋ * (spacing 53 (-1074) q * 2 ^ (j + 1)) := by rw [hj, mul_one]
        _ = (⌊q⌋ * 2 ^ (j + 1) : Int) * spacing 53 (-1074) q := by push_cast; ring
        _ ≤ mantissa * spacing 53 (-1074) q := by
            apply mul_le_mul_of_nonneg_right _ hspacing.le
            exact_mod_cast hmultiple
    · have hgap := half_spacing_lt hpos hd hn hsmall
      calc (mantissa : ℚ) * spacing 53 (-1074) q
          ≤ (q / spacing 53 (-1074) q + 1 / 2) * spacing 53 (-1074) q :=
            mul_le_mul_of_nonneg_right hhigh hspacing.le
        _ = q + spacing 53 (-1074) q / 2 := by
            rw [add_mul, div_mul_cancel₀ _ hspacing.ne']
            ring
        _ < ⌊q⌋ + 1 := by linarith

end Rounding

/-- `std::round`: the nearest integer, halves away from zero. -/
def roundHalfAway (q : ℚ) : Int :=
  if 0 ≤ q then ⌊q + 1 / 2⌋ else -⌊-q + 1 / 2⌋

@[simp] theorem roundHalfAway_zero : roundHalfAway 0 = 0 := by
  norm_num [roundHalfAway]

theorem roundHalfAway_mono {p q : ℚ} (hp : 0 ≤ p) (hpq : p ≤ q) :
    roundHalfAway p ≤ roundHalfAway q := by
  rw [roundHalfAway, roundHalfAway, if_pos hp, if_pos (le_trans hp hpq)]
  exact Int.floor_le_floor (add_le_add_left hpq _)

theorem roundHalfAway_eq_floor {q : ℚ} (hq : 0 ≤ q) : roundHalfAway q = ⌊q + 1 / 2⌋ :=
  if_pos hq

theorem roundHalfAway_nonneg {q : ℚ} (hq : 0 ≤ q) : 0 ≤ roundHalfAway q := by
  rw [roundHalfAway_eq_floor hq]
  exact Int.floor_nonneg.mpr (by linarith)

theorem roundHalfAway_le {q : ℚ} (hq : 0 ≤ q) : (roundHalfAway q : ℚ) ≤ q + 1 / 2 := by
  rw [roundHalfAway_eq_floor hq]
  exact Int.floor_le _

/-- What is rounded to `z` or more is at least half way from the number before. -/
theorem le_roundHalfAway_iff {q : ℚ} (hq : 0 ≤ q) (z : Int) :
    z ≤ roundHalfAway q ↔ (z : ℚ) - 1 / 2 ≤ q := by
  rw [roundHalfAway_eq_floor hq, Int.le_floor]
  constructor <;> intro h <;> linarith

namespace Double

def ofInt (z : Int) : Double :=
  .finite (if z < 0 then -(roundToBits 53 z.natAbs : ℚ) else roundToBits 53 z.natAbs)

def lt : Double → Double → Bool
  | .nan, _ => false
  | _, .nan => false
  | .infinity s, .infinity t => s && !t
  | .infinity s, .finite _ => s
  | .finite _, .infinity t => !t
  | .finite p, .finite q => decide (p < q)

def max (x y : Double) : Double := if x.lt y then y else x

def positive : Double → Bool
  | .nan => false
  | .infinity negative => !negative
  | .finite q => decide (0 < q)

def nonPositive : Double → Bool
  | .nan => false
  | .infinity negative => negative
  | .finite q => decide (q ≤ 0)

def div : Double → Double → Double
  | .nan, _ => .nan
  | _, .nan => .nan
  | .infinity _, .infinity _ => .nan
  | .infinity negative, .finite q => .infinity (negative ^^ decide (q < 0))
  | .finite _, .infinity _ => .finite 0
  | .finite p, .finite q =>
      if q = 0 then (if p = 0 then .nan else .infinity (decide (p < 0)))
      else .finite (p / q)

def mul : Double → Double → Double
  | .nan, _ => .nan
  | _, .nan => .nan
  | .infinity s, .infinity t => .infinity (s ^^ t)
  | .infinity s, .finite q =>
      if q = 0 then .nan else .infinity (s ^^ decide (q < 0))
  | .finite q, .infinity s =>
      if q = 0 then .nan else .infinity (s ^^ decide (q < 0))
  | .finite p, .finite q => .finite (p * q)

def round : Double → Double
  | .finite q => .finite (roundHalfAway q)
  | x => x

/-- The value that the result of an operation is stored as. -/
def rounded : Double → Double
  | .finite q =>
      if 2 ^ 1024 ≤ |roundToSpacing 53 (-1074) q| then .infinity (decide (q < 0))
      else .finite (roundToSpacing 53 (-1074) q)
  | x => x

/-- Truncation towards zero; `none` for the values that have no integer part. -/
def trunc : Double → Option Int
  | .finite q => some (q.num.tdiv q.den)
  | _ => none

theorem trunc_of_nonneg {q : ℚ} (hq : 0 ≤ q) : (finite q).trunc = some ⌊q⌋ := by
  have hnum : 0 ≤ q.num := Rat.num_nonneg.mpr hq
  rw [trunc, Rat.floor_def', Int.tdiv_eq_ediv_of_nonneg hnum]

theorem rounded_of_small {q : ℚ} (hsmall : |roundToSpacing 53 (-1074) q| < 2 ^ 53) :
    (finite q).rounded = .finite (roundToSpacing 53 (-1074) q) := by
  have hbound : (2 : ℚ) ^ 53 ≤ 2 ^ 1024 := pow_le_pow_right₀ (by norm_num) (by norm_num)
  exact if_neg (not_le.mpr (hsmall.trans_le hbound))

theorem rounded_of_half {q : ℚ} (hq : 0 ≤ q) (hlt : q < 2 ^ 52) {n : Int} (hn : q = n / 2) :
    (finite q).rounded = .finite q := by
  have hround := roundToSpacing_of_half hq hlt hn
  have hsmall : |roundToSpacing 53 (-1074) q| < 2 ^ 53 := by
    rw [hround, abs_of_nonneg hq]
    exact hlt.trans (by norm_num)
  rw [rounded_of_small hsmall, hround]

/-- The integer part of a quotient of integers survives rounding. -/
theorem trunc_rounded {q : ℚ} (hq : 0 ≤ q) (hlt : q < 2 ^ 52) {d n : Int} (hd : 0 < d)
    (hn : q * d = n) (hsmall : q * d < 2 ^ 53) : (finite q).rounded.trunc = some ⌊q⌋ := by
  have hfloor := floor_roundToSpacing hq hlt hd hn hsmall
  have hnonneg : 0 ≤ roundToSpacing 53 (-1074) q := by
    rw [← Int.floor_nonneg, hfloor]
    exact Int.floor_nonneg.mpr hq
  have hbelow : roundToSpacing 53 (-1074) q < 2 ^ 53 := by
    have hnext := Int.lt_floor_add_one (roundToSpacing 53 (-1074) q)
    rw [hfloor] at hnext
    have hle := Int.floor_le q
    linarith
  rw [rounded_of_small (by rwa [abs_of_nonneg hnonneg]), trunc_of_nonneg hnonneg, hfloor]

def toInt32 (x : Double) : Int32 :=
  match x.trunc with
  | some z => if -2 ^ 31 ≤ z ∧ z < 2 ^ 31 then Int32.ofInt z else Int32.minValue
  | none => Int32.minValue

def toInt64 (x : Double) : Int64 :=
  match x.trunc with
  | some z => if -2 ^ 63 ≤ z ∧ z < 2 ^ 63 then Int64.ofInt z else Int64.minValue
  | none => Int64.minValue

/-- `std::to_string`, that is `%f`: six decimals. -/
def toString : Double → String
  | .nan => "nan"
  | .infinity negative => if negative then "-inf" else "inf"
  | .finite q =>
      let scaled := |q| * 1000000
      let low := ⌊scaled⌋
      -- ties to even, as the C library prints exact halves
      let digits :=
        if 1 / 2 < scaled - low ∨ (scaled - low = 1 / 2 ∧ low % 2 = 1) then low + 1 else low
      let decimals := ToString.toString (digits % 1000000)
      (if q < 0 then "-" else "") ++ ToString.toString (digits / 1000000) ++ "." ++
        String.ofList (List.replicate (6 - decimals.length) '0') ++ decimals

/-- Only a NaN is neither positive nor non-positive. -/
theorem positive_eq_not_nonPositive {x : Double} (hx : x ≠ .nan) :
    x.positive = !x.nonPositive := by
  cases x with
  | nan => exact absurd rfl hx
  | infinity negative => rfl
  | finite q =>
    simp only [positive, nonPositive]
    by_cases hq : q ≤ 0
    · simp [hq, not_lt.mpr hq]
    · simp [hq, not_le.mp hq]

theorem not_nonPositive_of_positive {x : Double} (hx : x.positive = true) :
    x.nonPositive = false := by
  have hnan : x ≠ .nan := by rintro rfl; simp [positive] at hx
  simpa [positive_eq_not_nonPositive hnan] using hx

theorem toInt_toInt32_of_trunc {x : Double} {z : Int} (htrunc : x.trunc = some z)
    (hlow : -2 ^ 31 ≤ z) (hhigh : z < 2 ^ 31) : x.toInt32.toInt = z := by
  rw [toInt32, htrunc]
  dsimp only
  rw [if_pos ⟨hlow, hhigh⟩]
  exact Int32.toInt_ofInt_of_le hlow hhigh

theorem ofInt_of_nonneg {z : Int} (hz : 0 ≤ z) (hlt : z < 2 ^ 53) : ofInt z = .finite z := by
  have hbits : roundToBits 53 z.natAbs = z.natAbs := if_pos (by omega)
  have habs : ((z.natAbs : Int) : ℚ) = z := by rw [Int.natAbs_of_nonneg hz]
  rw [ofInt, if_neg (not_lt.mpr hz), hbits, ← habs, Int.cast_natCast]

/-- A whole number becomes an integer unchanged if the integer type can hold it. -/
theorem toInt_toInt64_of_int (z : Int) :
    (finite z).toInt64.toInt = if -2 ^ 63 ≤ z ∧ z < 2 ^ 63 then z else -2 ^ 63 := by
  have htrunc : (finite z).trunc = some z := by simp [trunc]
  unfold toInt64
  rw [htrunc]
  dsimp only
  split_ifs with hfits
  · exact Int64.toInt_ofInt_of_le hfits.1 hfits.2
  · rfl

end Double

/-! ### Counts as an `int` -/

/-- A count is returned as it is below 2^31, and never from there on. -/
theorem toInt_ofNat_iff (n : Nat) : (Int32.ofNat n).toInt = n ↔ n < 2 ^ 31 := by
  constructor
  · intro h
    have hlt := (Int32.ofNat n).toInt_lt
    omega
  · exact fun hlt => Int32.toInt_ofNat_of_lt hlt

theorem toInt_ofNat_le (n : Nat) : (Int32.ofNat n).toInt ≤ n := by
  have hbound : ((2 ^ 31 : Nat) : Int) = 2 ^ 31 := by norm_num
  by_cases hlt : n < 2 ^ 31
  · exact ((toInt_ofNat_iff n).mpr hlt).le
  · have hint := (Int32.ofNat n).toInt_lt
    omega

theorem pos_of_one_le {n : Int32} (h : 1 ≤ n) : 0 < n := by
  rw [Int32.le_iff_toInt_le] at h
  rw [Int32.lt_iff_toInt_lt]
  have hone : Int32.toInt 1 = 1 := rfl
  have hzero : Int32.toInt 0 = 0 := rfl
  omega

theorem one_le_of_pos {n : Int32} (h : 0 < n) : 1 ≤ n := by
  rw [Int32.lt_iff_toInt_lt] at h
  rw [Int32.le_iff_toInt_le]
  have hone : Int32.toInt 1 = 1 := rfl
  have hzero : Int32.toInt 0 = 0 := rfl
  omega

theorem one_le_ofNat {n : Nat} (hpos : 1 ≤ n) (hlt : n < 2 ^ 31) : 1 ≤ Int32.ofNat n := by
  rw [Int32.le_iff_toInt_le, (toInt_ofNat_iff n).mpr hlt]
  have hone : Int32.toInt 1 = 1 := rfl
  omega

/-- A count that is returned as positive fits unless it has been reduced by a multiple of
    2^32. -/
theorem lt_of_toNatClampNeg {n : Nat} (h : n ≤ (Int32.ofNat n).toNatClampNeg) : n < 2 ^ 31 :=
  lt_of_le_of_lt h (Int32.ofNat n).toNatClampNeg_lt

/-! ### Sums and differences of 64-bit values -/

theorem toInt_abs (x : Int64) :
    x.abs.toInt = if x.toInt = -2 ^ 63 then -2 ^ 63 else |x.toInt| := by
  have hbits : x.abs.toInt = x.toBitVec.abs.toInt := rfl
  have hmin : x.toBitVec = BitVec.intMin 64 ↔ x.toInt = -2 ^ 63 := by
    rw [← BitVec.toInt_inj]
    exact Iff.rfl
  rw [hbits, BitVec.toInt_abs_eq_natAbs]
  simp only [hmin, ← Int.abs_eq_natAbs]
  rfl

/-- Where a sum or a difference lands: it fits, or it is too large or too small by
    2^64. -/
theorem bmod_cases {d : Int} (hlow : -2 ^ 64 ≤ d) (hhigh : d < 2 ^ 64) :
    (-2 ^ 63 ≤ d ∧ d < 2 ^ 63 ∧ d.bmod (2 ^ 64) = d) ∨
      (2 ^ 63 ≤ d ∧ d.bmod (2 ^ 64) = d - 2 ^ 64) ∨
      (d < -2 ^ 63 ∧ d.bmod (2 ^ 64) = d + 2 ^ 64) := by
  rw [Int.bmod_def]
  omega

/-- When a sum is not below its first summand: the second one is not negative and the
    sum fits, or the sum has wrapped around from below. -/
theorem le_add_iff (a d : Int64) :
    a ≤ a + d ↔ (0 ≤ d.toInt ∧ a.toInt + d.toInt < 2 ^ 63) ∨ a.toInt + d.toInt < -2 ^ 63 := by
  have ha := a.toInt_lt
  have ha' := a.le_toInt
  have hd := d.toInt_lt
  have hd' := d.le_toInt
  rw [Int64.le_iff_toInt_le, Int64.toInt_add]
  have hcases := @bmod_cases (a.toInt + d.toInt) (by omega) (by omega)
  rcases hcases with ⟨hlow, hhigh, hmod⟩ | ⟨hhigh, hmod⟩ | ⟨hlow, hmod⟩
  all_goals
    rw [hmod]
    omega

/-- When the distance that the program computes between two values is below a limit:
    the true distance is, or it is so large that the difference has wrapped around. -/
theorem wrapped_distance_lt_iff (a b : Int64) {limit : Int64} (hpos : 0 < limit) :
    (a - b).abs < limit ↔
      |a.toInt - b.toInt| < limit.toInt ∨ |a.toInt - b.toInt| = 2 ^ 63 ∨
        2 ^ 64 - limit.toInt < |a.toInt - b.toInt| := by
  have ha := a.toInt_lt
  have ha' := a.le_toInt
  have hb := b.toInt_lt
  have hb' := b.le_toInt
  have hlimit := limit.toInt_lt
  rw [Int64.lt_iff_toInt_lt, Int64.toInt_zero] at hpos
  rw [Int64.lt_iff_toInt_lt, toInt_abs, Int64.toInt_sub]
  obtain ⟨d, hd⟩ : ∃ d, a.toInt - b.toInt = d := ⟨_, rfl⟩
  have hcases := @bmod_cases d (by omega) (by omega)
  simp only [hd, Int.abs_eq_natAbs]
  rcases hcases with ⟨hlow, hhigh, hmod⟩ | ⟨hhigh, hmod⟩ | ⟨hlow, hmod⟩
  all_goals
    rw [hmod]
    split_ifs <;> omega

/-- When neither the difference of two values nor its absolute value wraps around: their
    distance fits. -/
theorem exact_distance_iff (a b : Int64) :
    ((a - b).toInt = a.toInt - b.toInt ∧ (a - b).abs.toInt = |a.toInt - b.toInt|) ↔
      |a.toInt - b.toInt| < 2 ^ 63 := by
  have ha := a.toInt_lt
  have ha' := a.le_toInt
  have hb := b.toInt_lt
  have hb' := b.le_toInt
  rw [toInt_abs, Int64.toInt_sub]
  obtain ⟨d, hd⟩ : ∃ d, a.toInt - b.toInt = d := ⟨_, rfl⟩
  have hcases := @bmod_cases d (by omega) (by omega)
  simp only [hd, Int.abs_eq_natAbs]
  rcases hcases with ⟨hlow, hhigh, hmod⟩ | ⟨hhigh, hmod⟩ | ⟨hlow, hmod⟩
  all_goals
    rw [hmod]
    split_ifs <;> omega

end Us8
