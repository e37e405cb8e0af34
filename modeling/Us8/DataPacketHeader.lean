/-
  Us8/DataPacketHeader.lean
  =========================
  **What the duplicate tester remembers of a packet**: `toName.hpp` and the
  `DataPacketHeader` of `broadcasts/dataPacket/sanitizer/testDuplicateDataPacket.cpp`.

  A header is a channel name, the times of the first and last sample, the sampling
  rate rounded to an `int` and the number of samples, which `ofPacket` has found to be
  positive.  Two headers are compared by
  an `operator==` that throws when it cannot tell (`DataPacketHeader.equals`), and
  `std::find` runs it over a buffer until it matches or throws (`find`).
  `Comparable` says when it does not throw, and `ComparesExactly` that the distance it
  computes is the true one.
-/
import Us8.DataPacket
import Us8.ClosedInterval

namespace Us8

/-- The location code as `toName` reads it: an unset one is caught and left empty. -/
def locationCodeOrEmpty (packet : DataPacket) : String :=
  match packet.getLocationCode with
  | .ok locationCode => locationCode
  | .error _ => ""

def toName (packet : DataPacket) : Except StdException String := do
  let network ← packet.getNetwork
  let station ← packet.getStation
  let channel ← packet.getChannel
  let locationCode := locationCodeOrEmpty packet
  let name := network ++ "." ++ station ++ "." ++ channel
  return if locationCode.isEmpty then name else name ++ "." ++ locationCode

structure DataPacketHeader where
  name : String
  startTime : Int64
  endTime : Int64
  samplingRate : Int32
  nSamples : Nat
deriving DecidableEq

namespace DataPacketHeader

def ofPacket (packet : DataPacket) : Except StdException DataPacketHeader := do
  let name ← toName packet
  let startTime := packet.getStartTime
  let endTime ← packet.getEndTime
  let samplingRate ← packet.getSamplingRate
  let nSamples := packet.getNumberOfSamples
  if nSamples ≤ 0 then throw (.invalidArgument "No samples in packet")
  return ⟨name, startTime, endTime, samplingRate.round.toInt32, nSamples.toNatClampNeg⟩

/-- The start times of two packets of this rate may differ by less than this many
    microseconds for the packets to count as the same; `none` for a rate that is in
    none of the classes. -/
def tolerance (samplingRate : Int32) : Option Int64 :=
  if samplingRate < 105 then some 15000
  else if samplingRate < 255 then some 4500
  else if samplingRate < 505 then some 2500
  else if samplingRate < 1005 then some 1500
  else none

/-- `operator==`.  The 64-bit difference and its absolute value wrap. -/
def equals (lhs rhs : DataPacketHeader) : Except StdException Bool :=
  if rhs.name ≠ lhs.name then .ok false
  else if rhs.samplingRate - lhs.samplingRate ≠ 0 then
    .error (.runtimeError ("Inconsistent sampling rates for: " ++ lhs.name))
  else if rhs.nSamples ≠ lhs.nSamples then .ok false
  else
    let dStartTime := (rhs.startTime - lhs.startTime).abs
    match tolerance lhs.samplingRate with
    | some limit => .ok (decide (dStartTime < limit))
    | none => .error (.runtimeError ("Could not classify sampling rate: " ++
        toString lhs.samplingRate.toInt ++ " for " ++ lhs.name))

def find (header : DataPacketHeader) : List DataPacketHeader → Except StdException Bool
  | [] => .ok false
  | retained :: rest => do
      if ← retained.equals header then return true
      find header rest

def span (header : DataPacketHeader) : Span Int :=
  ⟨header.startTime.toInt, header.endTime.toInt⟩

/-- The test of the slip check: the new header begins or ends inside the retained
    one. -/
def slips (header retained : DataPacketHeader) : Bool :=
  decide ((header.startTime ≥ retained.startTime ∧ header.startTime ≤ retained.endTime) ∨
    (header.endTime ≥ retained.startTime ∧ header.endTime ≤ retained.endTime))

theorem slips_iff (header retained : DataPacketHeader) :
    header.slips retained = true ↔ header.span.Touches retained.span := by
  simp [slips, span, Span.Touches, Int64.le_iff_toInt_le]

theorem lt_iff_precedes (g h : DataPacketHeader) :
    g.endTime < h.startTime ↔ g.span.Precedes h.span := by
  simp [span, Span.Precedes, Int64.lt_iff_toInt_lt]

theorem le_iff_proper (h : DataPacketHeader) : h.startTime ≤ h.endTime ↔ h.span.Proper := by
  simp [span, Span.Proper, Int64.le_iff_toInt_le]

/-! ### When the comparison throws -/

/-- Comparing the retained header with `header` does not throw: the rates agree, and
    unless the rate is in a tolerance class the sample counts differ. -/
def Comparable (header retained : DataPacketHeader) : Prop :=
  retained.samplingRate = header.samplingRate ∧
    (header.samplingRate < 1005 ∨ retained.nSamples ≠ header.nSamples)

instance (header retained : DataPacketHeader) : Decidable (Comparable header retained) :=
  inferInstanceAs (Decidable (_ ∧ _))

theorem sub_ne_zero_iff (a b : Int32) : a - b ≠ 0 ↔ b ≠ a := by
  rw [ne_eq, Int32.sub_eq_iff_eq_add, Int32.zero_add]
  exact ne_comm

theorem tolerance_eq_none_iff (samplingRate : Int32) :
    tolerance samplingRate = none ↔ ¬ samplingRate < 1005 := by
  unfold tolerance
  split_ifs <;> simp_all [Int32.lt_iff_toInt_lt] <;> omega

theorem tolerance_pos {samplingRate : Int32} {limit : Int64}
    (h : tolerance samplingRate = some limit) : 0 < limit := by
  unfold tolerance at h
  split_ifs at h <;> cases h <;> decide

section Equals

variable {retained header : DataPacketHeader} (hname : retained.name = header.name)
include hname

theorem equals_of_rate_ne (hrate : retained.samplingRate ≠ header.samplingRate) :
    ∃ e, retained.equals header = .error e := by
  rw [equals, if_neg (by simp [hname]), if_pos ((sub_ne_zero_iff _ _).mpr hrate)]
  exact ⟨_, rfl⟩

theorem equals_of_nSamples_ne (hrate : retained.samplingRate = header.samplingRate)
    (hn : retained.nSamples ≠ header.nSamples) : retained.equals header = .ok false := by
  rw [equals, if_neg (by simp [hname]), if_neg (by simp [hrate]), if_pos hn.symm]

theorem equals_of_tolerance (hrate : retained.samplingRate = header.samplingRate)
    (hn : retained.nSamples = header.nSamples) {limit : Int64}
    (hlimit : tolerance header.samplingRate = some limit) :
    retained.equals header =
      .ok (decide ((header.startTime - retained.startTime).abs < limit)) := by
  rw [equals, if_neg (by simp [hname]), if_neg (by simp [hrate]), if_neg (by simp [hn])]
  simp only [hrate, hlimit]

/-- When two headers of one channel and one rate count as the same packet: their counts
    agree and their start times are close, or so far apart that the difference wraps
    around. -/
theorem equals_eq_true_iff (hrate : retained.samplingRate = header.samplingRate) {limit : Int64}
    (hlimit : tolerance header.samplingRate = some limit) :
    retained.equals header = .ok true ↔ retained.nSamples = header.nSamples ∧
      (|retained.startTime.toInt - header.startTime.toInt| < limit.toInt ∨
        |retained.startTime.toInt - header.startTime.toInt| = 2 ^ 63 ∨
        2 ^ 64 - limit.toInt < |retained.startTime.toInt - header.startTime.toInt|) := by
  by_cases hn : retained.nSamples = header.nSamples
  · rw [equals_of_tolerance hname hrate hn hlimit, Except.ok.injEq, decide_eq_true_eq,
      wrapped_distance_lt_iff _ _ (tolerance_pos hlimit), abs_sub_comm header.startTime.toInt]
    exact (and_iff_right hn).symm
  · rw [equals_of_nSamples_ne hname hrate hn]
    simp [hn]

/-- Headers of one channel and one rate can be compared if the rate is in a class. -/
theorem equals_ok_of_tolerance (hrate : retained.samplingRate = header.samplingRate)
    {limit : Int64} (hlimit : tolerance header.samplingRate = some limit) :
    ∃ result, retained.equals header = .ok result := by
  by_cases hn : retained.nSamples = header.nSamples
  · exact ⟨_, equals_of_tolerance hname hrate hn hlimit⟩
  · exact ⟨false, equals_of_nSamples_ne hname hrate hn⟩

theorem equals_of_classified (hrate : retained.samplingRate = header.samplingRate)
    (hclass : header.samplingRate < 1005) : ∃ result, retained.equals header = .ok result := by
  cases hlimit : tolerance header.samplingRate with
  | none => exact absurd hclass ((tolerance_eq_none_iff _).mp hlimit)
  | some limit => exact equals_ok_of_tolerance hname hrate hlimit

theorem equals_of_comparable (h : Comparable header retained) :
    ∃ result, retained.equals header = .ok result := by
  rcases h.2 with hclass | hne
  · exact equals_of_classified hname h.1 hclass
  · exact ⟨false, equals_of_nSamples_ne hname h.1 hne⟩

theorem equals_of_unclassified (hrate : retained.samplingRate = header.samplingRate)
    (hn : retained.nSamples = header.nSamples) (hclass : ¬ header.samplingRate < 1005) :
    ∃ e, retained.equals header = .error e := by
  rw [equals, if_neg (by simp [hname]), if_neg (by simp [hrate]), if_neg (by simp [hn])]
  rw [(tolerance_eq_none_iff retained.samplingRate).mpr (hrate ▸ hclass)]
  exact ⟨_, rfl⟩

end Equals

/-- Matching is symmetric. -/
theorem equals_true_symm {g h : DataPacketHeader} (hmatch : g.equals h = .ok true) :
    h.equals g = .ok true := by
  have hname : g.name = h.name := by
    by_contra hne
    simp [equals, Ne.symm hne] at hmatch
  have hrate : g.samplingRate = h.samplingRate := by
    by_contra hne
    obtain ⟨e, he⟩ := equals_of_rate_ne hname hne
    rw [he] at hmatch
    cases hmatch
  cases hlimit : tolerance h.samplingRate with
  | none =>
    have hclass := (tolerance_eq_none_iff _).mp hlimit
    by_cases hn : g.nSamples = h.nSamples
    · obtain ⟨e, he⟩ := equals_of_unclassified hname hrate hn hclass
      rw [he] at hmatch
      cases hmatch
    · rw [equals_of_nSamples_ne hname hrate hn] at hmatch
      cases hmatch
  | some limit =>
    rw [equals_eq_true_iff hname hrate hlimit] at hmatch
    rw [equals_eq_true_iff hname.symm hrate.symm (hrate ▸ hlimit), abs_sub_comm]
    exact ⟨hmatch.1.symm, hmatch.2⟩

theorem find_cons_of_equals_false {header retained : DataPacketHeader}
    (h : retained.equals header = .ok false) (rest : List DataPacketHeader) :
    find header (retained :: rest) = find header rest := by
  simp [find, h]

theorem find_eq_false_iff {header : DataPacketHeader} {retained : List DataPacketHeader} :
    find header retained = .ok false ↔ ∀ g ∈ retained, g.equals header = .ok false := by
  induction retained with
  | nil => simp [find]
  | cons g rest ih =>
    rw [List.forall_mem_cons, ← ih]
    cases hresult : g.equals header with
    | error e => simp [find, hresult]
    | ok result => cases result <;> simp [find, hresult]

/-- A search that runs into no header it cannot compare finds a match exactly when
    there is one. -/
theorem find_eq_true_iff {header : DataPacketHeader} {retained : List DataPacketHeader}
    (hok : ∀ g ∈ retained, ∃ result, g.equals header = .ok result) :
    find header retained = .ok true ↔ ∃ g ∈ retained, g.equals header = .ok true := by
  induction retained with
  | nil => simp [find]
  | cons g rest ih =>
    obtain ⟨result, hresult⟩ := hok g (by simp)
    have ih := ih fun g' hg' => hok g' (by simp [hg'])
    cases result with
    | true => simp [find, hresult]
    | false =>
      rw [find_cons_of_equals_false hresult, ih]
      simp [hresult]

theorem find_eq_false_of_unmatched {header : DataPacketHeader} {retained : List DataPacketHeader}
    (hok : ∀ g ∈ retained, ∃ result, g.equals header = .ok result)
    (hno : ∀ g ∈ retained, g.equals header ≠ .ok true) : find header retained = .ok false := by
  rw [find_eq_false_iff]
  intro g hg
  obtain ⟨result, hresult⟩ := hok g hg
  cases result with
  | false => exact hresult
  | true => exact absurd hresult (hno g hg)

/-- Over headers of one channel and one rate, the search ends without an exception
    exactly when `header` can be compared with each of them. -/
theorem find_ok_iff {header : DataPacketHeader} {retained : List DataPacketHeader}
    (hname : ∀ g ∈ retained, g.name = header.name)
    (hrate : ∀ g ∈ retained, ∀ g' ∈ retained, g.samplingRate = g'.samplingRate) :
    (∃ result, find header retained = .ok result) ↔ ∀ g ∈ retained, Comparable header g := by
  induction retained with
  | nil => simp [find]
  | cons g rest ih =>
    have hg := hname g (by simp)
    have ih := ih (fun g' hg' => hname g' (by simp [hg']))
      (fun g' hg' g'' hg'' => hrate g' (by simp [hg']) g'' (by simp [hg'']))
    -- a head that throws decides both sides
    have hthrows : (∃ e, g.equals header = .error e) → ¬ Comparable header g →
        ((∃ result, find header (g :: rest) = .ok result) ↔
          ∀ g' ∈ g :: rest, Comparable header g') := by
      rintro ⟨e, he⟩ hnot
      simp only [find, he, error_bind, reduceCtorEq, exists_const, false_iff]
      intro hall
      exact hnot (hall g (by simp))
    by_cases hsame : g.samplingRate = header.samplingRate
    · by_cases hn : g.nSamples = header.nSamples
      · by_cases hclass : header.samplingRate < 1005
        · obtain ⟨result, hresult⟩ := equals_of_classified hg hsame hclass
          cases result with
          | true =>
            simp only [find, hresult, ok_bind, if_true, pure_eq_ok, Except.ok.injEq,
              exists_eq', true_iff]
            intro g' hg'
            exact ⟨(hrate g' hg' g (by simp)).trans hsame, Or.inl hclass⟩
          | false =>
            rw [find_cons_of_equals_false hresult, ih, List.forall_mem_cons]
            exact ⟨fun hrest => ⟨⟨hsame, Or.inl hclass⟩, hrest⟩, fun hall => hall.2⟩
        · apply hthrows (equals_of_unclassified hg hsame hn hclass)
          rintro ⟨-, hclass' | hn'⟩
          · exact hclass hclass'
          · exact hn' hn
      · rw [find_cons_of_equals_false (equals_of_nSamples_ne hg hsame hn), ih,
          List.forall_mem_cons]
        exact ⟨fun hrest => ⟨⟨hsame, Or.inr hn⟩, hrest⟩, fun hall => hall.2⟩
    · exact hthrows (equals_of_rate_ne hg hsame) fun hcomparable => hsame hcomparable.1

def forkHeader (startTime endTime : Int64) (nSamples : Nat) : DataPacketHeader :=
  ⟨"UU.FORK.HHZ.01", startTime, endTime, 100, nSamples⟩

/-! ### When the comparison is exact -/

/-- The comparison answers by the true distance of the start times, and neither the
    64-bit difference nor its absolute value has wrapped around on the way. -/
structure ComparesExactly (lhs rhs : DataPacketHeader) : Prop where
  answer : ∃ limit, tolerance lhs.samplingRate = some limit ∧
    lhs.equals rhs = .ok (decide (|rhs.startTime.toInt - lhs.startTime.toInt| < limit.toInt))
  difference : (rhs.startTime - lhs.startTime).toInt = rhs.startTime.toInt - lhs.startTime.toInt
  absoluteValue : (rhs.startTime - lhs.startTime).abs.toInt =
    |rhs.startTime.toInt - lhs.startTime.toInt|

/-- **The comparison of headers.**  For two headers of one channel, one rate below 1005 Hz
    and one number of samples it is exact if and only if their start times are less than
    2^63 microseconds apart.  The difference of two rates is zero exactly when they are
    equal. -/
theorem comparesExactly_iff {lhs rhs : DataPacketHeader} (hname : lhs.name = rhs.name)
    (hrate : lhs.samplingRate = rhs.samplingRate) (hclass : lhs.samplingRate < 1005)
    (hn : lhs.nSamples = rhs.nSamples) :
    (ComparesExactly lhs rhs ↔ |rhs.startTime.toInt - lhs.startTime.toInt| < 2 ^ 63) ∧
      ∀ rate rate' : Int32, rate - rate' = 0 ↔ rate = rate' := by
  refine ⟨?_, ?_⟩
  · constructor
    · intro h
      exact (exact_distance_iff _ _).mp ⟨h.difference, h.absoluteValue⟩
    · intro hnear
      obtain ⟨hdifference, habs⟩ := (exact_distance_iff _ _).mpr hnear
      refine ⟨?_, hdifference, habs⟩
      cases hlimit : tolerance lhs.samplingRate with
      | none => exact absurd hclass ((tolerance_eq_none_iff _).mp hlimit)
      | some limit =>
        refine ⟨limit, rfl, ?_⟩
        rw [equals_of_tolerance hname hrate hn (hrate ▸ hlimit), Except.ok.injEq, decide_eq_decide,
          Int64.lt_iff_toInt_lt, habs]
  · intro rate rate'
    constructor
    · intro hzero
      by_contra hne
      exact (sub_ne_zero_iff rate rate').mpr (Ne.symm hne) hzero
    · rintro rfl
      exact Int32.sub_self rate

/-- Two packets a second apart are compared exactly. -/
theorem fork_compares_exactly :
    ComparesExactly (forkHeader 0 0 1) (forkHeader 1000000 1000000 1) :=
  (@comparesExactly_iff (forkHeader 0 0 1) (forkHeader 1000000 1000000 1) rfl rfl (by decide)
    rfl).1.mpr (by decide)

/-- Two packets 292 thousand years apart count as the same. -/
theorem fork_far_apart_equal :
    ofPacket (.forkPacket (.double [.finite 1])) = .ok (forkHeader 0 0 1) ∧
    ofPacket ((DataPacket.forkPacket (.double [.finite 1])).setStartTime Int64.minValue) =
      .ok (forkHeader Int64.minValue Int64.minValue 1) ∧
    (forkHeader 0 0 1).equals (forkHeader Int64.minValue Int64.minValue 1) = .ok true ∧
    ¬ ComparesExactly (forkHeader 0 0 1) (forkHeader Int64.minValue Int64.minValue 1) := by
  refine ⟨by decide +kernel, by decide +kernel, by decide +kernel, ?_⟩
  intro h
  have hwrapped := h.absoluteValue
  revert hwrapped
  decide

end DataPacketHeader

end Us8
