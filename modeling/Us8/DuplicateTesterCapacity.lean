/-
  Us8/DuplicateTesterCapacity.lean
  ================================
  **How much time the buffer of a channel spans.**

  A duplicate tester that is told for how long to remember makes room, with a channel's
  first packet, for one and a half times as many packets of that size as the memory takes
  (`estimateCapacity`).  The size is the time from the packet's first sample to its last,
  rounded to whole seconds, and the quotient is formed in floating point.

  Rounding is what can go wrong.  A packet that is shorter than half a second has the
  duration 0, and the quotient is infinite.  One that is rounded up to one second from
  little more than half of it has its share of the memory counted up to twice.  From one
  and a half seconds on the factor outweighs the rounding.
-/
import Us8.DuplicateTester
import Mathlib.Tactic.FieldSimp

namespace Us8

open DataPacketHeader (forkHeader)

/-! ### The quotient -/

section Quotient

variable {header : DataPacketHeader} {memory : Int64} {d : Int} (hmemory : 1 ≤ memory.toInt)
  (hmax : 3 * memory.toInt < 2 * (2 ^ 31 - 1)) (hd : 1 ≤ d)

include hmemory hd

theorem quotient_nonneg : (0 : ℚ) ≤ 3 / 2 * memory.toInt / d := by
  have hm : (0 : ℚ) ≤ memory.toInt := by exact_mod_cast (by omega : (0 : Int) ≤ _)
  have hd' : (0 : ℚ) ≤ d := by exact_mod_cast (by omega : (0 : Int) ≤ d)
  positivity

include hmax

theorem quotient_lt : 3 / 2 * memory.toInt / d < (2 ^ 31 - 1 : ℚ) := by
  have hm : (0 : ℚ) ≤ memory.toInt := by exact_mod_cast (by omega : (0 : Int) ≤ _)
  have hd' : (1 : ℚ) ≤ d := by exact_mod_cast hd
  have hsmall : 3 * (memory.toInt : ℚ) < 2 * (2 ^ 31 - 1) := by exact_mod_cast hmax
  calc 3 / 2 * (memory.toInt : ℚ) / d
      ≤ 3 / 2 * memory.toInt := div_le_self (by linarith) hd'
    _ < 2 ^ 31 - 1 := by linarith

/-- There is room for the one that is added. -/
theorem floor_quotient_bounds : 0 ≤ ⌊3 / 2 * (memory.toInt : ℚ) / d⌋ ∧
    ⌊3 / 2 * (memory.toInt : ℚ) / d⌋ < 2 ^ 31 - 1 := by
  refine ⟨Int.floor_nonneg.mpr (quotient_nonneg hmemory hd), Int.floor_lt.mpr ?_⟩
  exact_mod_cast quotient_lt hmemory hmax hd

variable (hduration : packetDuration header = .finite d)

include hduration

theorem capacityQuotient_eq :
    capacityQuotient header memory = (Double.finite (3 / 2 * memory.toInt / d)).rounded := by
  have hne : (d : ℚ) ≠ 0 := by exact_mod_cast (by omega : d ≠ 0)
  have hm : (0 : ℚ) ≤ memory.toInt := by exact_mod_cast (by omega : (0 : Int) ≤ _)
  have hlt : 3 * (memory.toInt : ℚ) < 2 * (2 ^ 31 - 1) := by exact_mod_cast hmax
  have hproduct : (Double.finite (3 / 2 * memory.toInt)).rounded =
      .finite (3 / 2 * memory.toInt) := by
    apply Double.rounded_of_half (n := 3 * memory.toInt) (by positivity) (by linarith)
    push_cast
    ring
  rw [capacityQuotient, hduration, Double.ofInt_of_nonneg (by omega) (by omega), Double.mul,
    hproduct, Double.div, if_neg hne]

/-- In `double`s the quotient has the integer part of the exact one. -/
theorem trunc_capacityQuotient : (capacityQuotient header memory).trunc =
    some ⌊3 / 2 * (memory.toInt : ℚ) / d⌋ := by
  have hlt := quotient_lt hmemory hmax hd
  have hd' : (0 : ℚ) < d := by exact_mod_cast (by omega : 0 < d)
  have hcross : 3 / 2 * (memory.toInt : ℚ) / d * (2 * d : Int) = (3 * memory.toInt : Int) := by
    push_cast
    field_simp
  rw [capacityQuotient_eq hmemory hmax hd hduration]
  apply Double.trunc_rounded (quotient_nonneg hmemory hd) (hlt.trans (by norm_num))
    (by omega) hcross
  rw [hcross]
  exact_mod_cast (by omega : 3 * memory.toInt < 2 ^ 53)

theorem toInt_capacityQuotient : (capacityQuotient header memory).toInt32.toInt =
    ⌊3 / 2 * (memory.toInt : ℚ) / d⌋ := by
  have hbounds := floor_quotient_bounds hmemory hmax hd
  exact Double.toInt_toInt32_of_trunc (trunc_capacityQuotient hmemory hmax hd hduration)
    (by omega) (by omega)

theorem quotient_fits : ∃ z, (capacityQuotient header memory).trunc = some z ∧
    -2 ^ 31 ≤ z ∧ z < 2 ^ 31 := by
  have hbounds := floor_quotient_bounds hmemory hmax hd
  exact ⟨_, trunc_capacityQuotient hmemory hmax hd hduration, by omega, by omega⟩

theorem capacityFits_of_duration : CapacityFits header memory := by
  intro hoverflow
  have hquotient := toInt_capacityQuotient hmemory hmax hd hduration
  have hbounds := floor_quotient_bounds hmemory hmax hd
  have hlargest : Int32.maxValue.toInt = 2 ^ 31 - 1 := rfl
  rw [hoverflow] at hquotient
  omega

theorem estimateCapacity_of_duration : (estimateCapacity header memory).toInt =
    max 10 ⌊3 / 2 * (memory.toInt : ℚ) / d⌋ + 1 := by
  rw [toInt_estimateCapacity (capacityFits_of_duration hmemory hmax hd hduration),
    toInt_capacityQuotient hmemory hmax hd hduration]

end Quotient

theorem exists_packetDuration (header : DataPacketHeader) :
    ∃ d : Int, 0 ≤ d ∧ packetDuration header = .finite d := by
  have hne : ((max 1 header.samplingRate.toInt : Int) : ℚ) ≠ 0 := by
    exact_mod_cast (by omega : max 1 header.samplingRate.toInt ≠ 0)
  rw [packetDuration, Double.div, if_neg hne, Double.round, Double.max, Double.lt]
  generalize roundHalfAway _ = seconds
  by_cases hpos : (0 : ℚ) < seconds
  · exact ⟨seconds, by exact_mod_cast hpos.le, by simp [hpos]⟩
  · exact ⟨0, le_refl 0, by simp [hpos]⟩

/-- A quotient without an integer part becomes the smallest `int`. -/
theorem toInt32_div_zero (x : Double) : (x.div (.finite 0)).rounded.toInt32 = Int32.minValue := by
  cases x with
  | nan => rfl
  | infinity negative => rfl
  | finite q =>
    rw [Double.div, if_pos rfl]
    split_ifs <;> rfl

/-- Some forty-five years of memory are not too long for any packet. -/
theorem capacityFits_of_le (header : DataPacketHeader) {memory : Int64}
    (hmemory : 1 ≤ memory.toInt) (hmax : memory.toInt ≤ 1431655764) :
    CapacityFits header memory := by
  obtain ⟨d, hnonneg, hduration⟩ := exists_packetDuration header
  by_cases hzero : d = 0
  · rw [hzero, Int.cast_zero] at hduration
    rw [CapacityFits, capacityQuotient, hduration, toInt32_div_zero]
    decide
  · exact capacityFits_of_duration hmemory (by omega) (by omega) hduration

/-- One second more is too long for packets of a second. -/
example : ¬ CapacityFits (forkHeader 0 1000000 101) 1431655765 := by decide +kernel

/-- The divisor is not zero, the quotient fits, and packets like the first one span the
    memory when the buffer is full. -/
structure CapacityKept (header : DataPacketHeader) (memory : Int64) : Prop where
  divisor : packetDuration header ≠ .finite 0
  fits : ∃ z, (capacityQuotient header memory).trunc = some z ∧ -2 ^ 31 ≤ z ∧ z < 2 ^ 31
  spans : (memory.toInt : ℚ) ≤
    (estimateCapacity header memory).toInt * header.nSamples / header.samplingRate.toInt

/-- The seconds from the first sample of the packet to its last. -/
def secondsBetween (header : DataPacketHeader) : ℚ :=
  ((header.nSamples : ℚ) - 1) / header.samplingRate.toInt

section Capacity

variable {header : DataPacketHeader} {memory : Int64}
  (hn : 1 ≤ header.nSamples) (hrate : 1 ≤ header.samplingRate.toInt)

include hn hrate

theorem secondsBetween_nonneg : 0 ≤ secondsBetween header := by
  have hsamples : (0 : ℚ) ≤ (header.nSamples : ℚ) - 1 := by
    rw [sub_nonneg]
    exact_mod_cast hn
  have hpos : (0 : ℚ) ≤ header.samplingRate.toInt := by exact_mod_cast (by omega : (0 : Int) ≤ _)
  exact div_nonneg hsamples hpos

theorem packetDuration_eq :
    packetDuration header = .finite (roundHalfAway (secondsBetween header)) := by
  have hne : (header.samplingRate.toInt : ℚ) ≠ 0 := by
    exact_mod_cast (by omega : header.samplingRate.toInt ≠ 0)
  have hnonneg : (0 : ℚ) ≤ roundHalfAway (secondsBetween header) := by
    exact_mod_cast roundHalfAway_nonneg (secondsBetween_nonneg hn hrate)
  rw [packetDuration, max_eq_right hrate, Double.div, if_neg hne, Double.round,
    ← secondsBetween, Double.max, Double.lt]
  by_cases hpos : (0 : ℚ) < roundHalfAway (secondsBetween header)
  · simp [hpos]
  · have hzero : (roundHalfAway (secondsBetween header) : ℚ) = 0 :=
      le_antisymm (not_lt.mp hpos) hnonneg
    simp [hzero]

theorem packetDuration_ne_zero_iff :
    packetDuration header ≠ .finite 0 ↔ 1 ≤ roundHalfAway (secondsBetween header) := by
  have hnonneg := roundHalfAway_nonneg (secondsBetween_nonneg hn hrate)
  rw [packetDuration_eq hn hrate, ne_eq, Double.finite.injEq, Int.cast_eq_zero]
  omega

/-- Half a second in samples: where a rounded duration begins. -/
theorem le_duration_iff (z : Int) :
    z ≤ roundHalfAway (secondsBetween header) ↔
      (2 * z - 1) * header.samplingRate.toInt ≤ 2 * ((header.nSamples : Int) - 1) := by
  have hpos : (0 : ℚ) < header.samplingRate.toInt := by
    exact_mod_cast (by omega : 0 < header.samplingRate.toInt)
  rw [le_roundHalfAway_iff (secondsBetween_nonneg hn hrate), secondsBetween, le_div_iff₀ hpos]
  have hcast : ((2 * z - 1) * header.samplingRate.toInt ≤ 2 * ((header.nSamples : Int) - 1)) ↔
      (2 * (z : ℚ) - 1) * header.samplingRate.toInt ≤ 2 * ((header.nSamples : ℚ) - 1) := by
    exact_mod_cast Iff.rfl
  rw [hcast]
  constructor <;> intro h <;> linarith

section Memory

variable (hmemory : 1 ≤ memory.toInt) (hmax : 3 * memory.toInt < 2 * (2 ^ 31 - 1))

include hmemory hmax

/-- From one and a half seconds on the memory is spanned. -/
theorem spans_of_two_le (htwo : 2 ≤ roundHalfAway (secondsBetween header)) :
    (memory.toInt : ℚ) ≤
      (estimateCapacity header memory).toInt * header.nSamples / header.samplingRate.toInt := by
  have hm : (0 : ℚ) < memory.toInt := by exact_mod_cast (by omega : 0 < memory.toInt)
  have hr : (0 : ℚ) < header.samplingRate.toInt := by
    exact_mod_cast (by omega : 0 < header.samplingRate.toInt)
  have hd : (2 : ℚ) ≤ roundHalfAway (secondsBetween header) := by exact_mod_cast htwo
  -- the number of packets is above the quotient
  have hcapacity : 3 / 2 * (memory.toInt : ℚ) / roundHalfAway (secondsBetween header) ≤
      (estimateCapacity header memory).toInt := by
    have hfloor := Int.lt_floor_add_one
      (3 / 2 * (memory.toInt : ℚ) / roundHalfAway (secondsBetween header))
    have hle : ⌊3 / 2 * (memory.toInt : ℚ) / roundHalfAway (secondsBetween header)⌋ + 1 ≤
        (estimateCapacity header memory).toInt := by
      rw [estimateCapacity_of_duration hmemory hmax (by omega) (packetDuration_eq hn hrate)]
      omega
    have hcast : ((⌊3 / 2 * (memory.toInt : ℚ) / roundHalfAway (secondsBetween header)⌋ : ℚ)
        + 1) ≤ ((estimateCapacity header memory).toInt : ℚ) := by exact_mod_cast hle
    linarith
  -- and rounding has added half a second at most
  have hround : (roundHalfAway (secondsBetween header) : ℚ) - 1 / 2 ≤
      header.nSamples / header.samplingRate.toInt := by
    have hle := roundHalfAway_le (secondsBetween_nonneg hn hrate)
    have hlonger : secondsBetween header ≤ header.nSamples / header.samplingRate.toInt := by
      rw [secondsBetween]
      gcongr
      linarith
    linarith
  calc (memory.toInt : ℚ)
      ≤ 3 / 2 * memory.toInt / roundHalfAway (secondsBetween header) *
          (roundHalfAway (secondsBetween header) - 1 / 2) := by
        rw [div_mul_eq_mul_div, le_div_iff₀ (by linarith)]
        nlinarith
    _ ≤ (estimateCapacity header memory).toInt *
          (header.nSamples / header.samplingRate.toInt) :=
        mul_le_mul hcapacity hround (by linarith)
          (le_trans (quotient_nonneg hmemory (by omega)) hcapacity)
    _ = (estimateCapacity header memory).toInt * header.nSamples / header.samplingRate.toInt :=
        mul_div_assoc' _ _ _

/-- A duration of one second leaves the number of packets to be compared with what the
    memory takes. -/
theorem spans_of_one_iff (hone : roundHalfAway (secondsBetween header) = 1) :
    (memory.toInt : ℚ) ≤
        (estimateCapacity header memory).toInt * header.nSamples / header.samplingRate.toInt ↔
      memory.toInt * header.samplingRate.toInt ≤
        (max 10 (3 * memory.toInt / 2) + 1) * header.nSamples := by
  have hr : (0 : ℚ) < header.samplingRate.toInt := by
    exact_mod_cast (by omega : 0 < header.samplingRate.toInt)
  have hfloor : ⌊3 / 2 * (memory.toInt : ℚ) / roundHalfAway (secondsBetween header)⌋ =
      3 * memory.toInt / 2 := by
    rw [hone]
    have := Rat.floor_intCast_div_natCast (3 * memory.toInt) 2
    push_cast at this
    rw [← this]
    congr 1
    ring
  have hcapacity :=
    estimateCapacity_of_duration hmemory hmax (by omega) (packetDuration_eq hn hrate)
  rw [hfloor] at hcapacity
  rw [le_div_iff₀ hr, ← hcapacity]
  exact_mod_cast Iff.rfl

end Memory

end Capacity

/-- **When the estimated capacity keeps the configured memory**: for first packets that
    span one and a half seconds or more from sample to sample, and for those from half a
    second on whose number, one and a half times the memory in seconds or ten, plus one,
    is enough. -/
theorem capacityKept_iff (header : DataPacketHeader) (memory : Int64)
    (hn : 1 ≤ header.nSamples) (hrate : 1 ≤ header.samplingRate.toInt)
    (hmemory : 1 ≤ memory.toInt) (hmax : 2 * memory.toInt < 2 ^ 31) :
    CapacityKept header memory ↔
      3 * header.samplingRate.toInt ≤ 2 * ((header.nSamples : Int) - 1) ∨
        (header.samplingRate.toInt ≤ 2 * ((header.nSamples : Int) - 1) ∧
          memory.toInt * header.samplingRate.toInt ≤
            (max 10 (3 * memory.toInt / 2) + 1) * header.nSamples) := by
  have hhalf := le_duration_iff hn hrate 1
  have hlong := le_duration_iff hn hrate 2
  norm_num at hhalf hlong
  rw [← hlong, ← hhalf]
  constructor
  · intro h
    have hduration := (packetDuration_ne_zero_iff hn hrate).mp h.divisor
    by_cases htwo : 2 ≤ roundHalfAway (secondsBetween header)
    · exact Or.inl htwo
    · have hone : roundHalfAway (secondsBetween header) = 1 := by omega
      exact Or.inr ⟨hduration,
        (spans_of_one_iff hn hrate hmemory (by omega) hone).mp h.spans⟩
  · intro h
    have hduration : 1 ≤ roundHalfAway (secondsBetween header) := by omega
    refine ⟨(packetDuration_ne_zero_iff hn hrate).mpr hduration,
      quotient_fits hmemory (by omega) hduration (packetDuration_eq hn hrate), ?_⟩
    by_cases htwo : 2 ≤ roundHalfAway (secondsBetween header)
    · exact spans_of_two_le hn hrate hmemory (by omega) htwo
    · have hone : roundHalfAway (secondsBetween header) = 1 := by omega
      rw [spans_of_one_iff hn hrate hmemory (by omega) hone]
      exact (h.resolve_left htwo).2

theorem fork_capacityKept :
    CapacityKept (forkHeader 0 2000000 201) 120 ↔
      3 * (100 : Int32).toInt ≤ 2 * (((201 : Nat) : Int) - 1) ∨
        ((100 : Int32).toInt ≤ 2 * (((201 : Nat) : Int) - 1) ∧
          (120 : Int64).toInt * (100 : Int32).toInt ≤
            (max 10 (3 * (120 : Int64).toInt / 2) + 1) * (201 : Nat)) :=
  capacityKept_iff (forkHeader 0 2000000 201) 120 (by decide) (by decide) (by decide) (by decide)

/-- Packets of forty samples at 100 Hz make for a division by zero.  Those of fifty-one are
    taken for a second long: with a memory of a thousand seconds, the room there is for them
    spans some 766 seconds. -/
theorem fork_short_packets_not_kept :
    ¬ CapacityKept (forkHeader 0 390000 40) 60 ∧ ¬ CapacityKept (forkHeader 0 500000 51) 1000 := by
  have hrate : (100 : Int32).toInt = 100 := by decide
  constructor
  · intro h
    have hduration := (packetDuration_ne_zero_iff (by decide) (by decide)).mp h.divisor
    have hseconds : secondsBetween (forkHeader 0 390000 40) = 39 / 100 := by
      norm_num [secondsBetween, forkHeader, hrate]
    rw [hseconds] at hduration
    revert hduration
    decide +kernel
  · intro h
    have hone : roundHalfAway (secondsBetween (forkHeader 0 500000 51)) = 1 := by
      have hseconds : secondsBetween (forkHeader 0 500000 51) = 1 / 2 := by
        norm_num [secondsBetween, forkHeader, hrate]
      rw [hseconds]
      decide +kernel
    have hiff := @spans_of_one_iff (forkHeader 0 500000 51) 1000 (by decide) (by decide)
      (by decide) (by decide) hone
    have hspans := hiff.mp h.spans
    revert hspans
    decide

end Us8
