/-
  Us8/SanitizerGuarantees.lean
  ============================
  **What a subscriber of the sanitizer can rely on.**

  Two properties of the packets sent, under every interleaving of the threads.  Each was
  in time when it was asked about: it began no earlier than the latency allows and the
  end it reports is no later than the future limit (`sent_in_time`).  And no two of one channel
  overlap in time (`sent_spans_disjoint`), provided the packets that arrive are
  `Regular`: this is what the duplicate tester cannot establish by itself.

  Both are shown for the sequential program, where they are an invariant of the testers
  and of what has been emitted so far, and then hold of the threads because what these
  send is a subsequence of that.
-/
import Us8.SanitizerFilter
import Us8.DuplicateTesterCapacity
import Us8.DuplicateTesterOrder
import Us8.DuplicateTesterRecord

namespace Us8

open DataPacketHeader (ofPacket span)
open TestDuplicateDataPacketImpl

/-! ### The limits of the testers -/

namespace Testers

/-- The time testers have the limits that the options name. -/
structure LimitsOf (programOptions : ProgramOptions) (testers : Testers) : Prop where
  future : ∀ tester, testers.mFutureDataPacketTester = some tester →
    tester.mMaxFutureTime = programOptions.maximumFutureTime * 1000
  expired : ∀ tester, testers.mExpiredDataPacketTester = some tester →
    tester.mMaxExpiredTime = programOptions.maximumLatency * 1000000

variable {programOptions : ProgramOptions} {testers : Testers}

theorem eq_of_makeIf {α : Type} {enabled : Prop} [Decidable enabled]
    {make : Except StdException α} {tester : Option α} (h : makeIf enabled make = .ok tester)
    {made : α} (hsome : tester = some made) : make = .ok made := by
  unfold makeIf at h
  split_ifs at h with henabled
  · cases make with
    | error e => simp at h
    | ok own =>
      rw [map_ok, Except.ok.injEq, hsome, Option.some.injEq] at h
      rw [h]
  · rw [Except.ok.injEq, hsome] at h
    cases h

theorem limitsOf_ofOptions (h : ofOptions programOptions = .ok testers) :
    testers.LimitsOf programOptions := by
  simp only [ofOptions, bind_eq_ok_iff, pure_eq_ok, Except.ok.injEq] at h
  obtain ⟨future, hfuture, expired, hexpired, duplicate, hduplicate, rfl⟩ := h
  constructor
  · intro tester hsome
    have hmade := eq_of_makeIf hfuture hsome
    rw [Except.ok.injEq] at hmade
    rw [← hmade]
    rfl
  · intro tester hsome
    have hmade := eq_of_makeIf hexpired hsome
    unfold TestExpiredDataPacketImpl.new at hmade
    split_ifs at hmade
    rw [Except.ok.injEq] at hmade
    rw [← hmade]

theorem limitsOf_askFuture (h : testers.LimitsOf programOptions) (now : Int64)
    (packet : DataPacket) (allow : Bool) :
    (testers.askFuture now packet allow).1.LimitsOf programOptions := by
  unfold askFuture
  cases hsome : testers.mFutureDataPacketTester with
  | none => exact h
  | some tester =>
    refine ⟨?_, h.expired⟩
    intro next hnext
    obtain rfl := Option.some.inj hnext
    have hlimit := h.future tester hsome
    unfold TestFutureDataPacketImpl.allow
    split <;> exact hlimit

theorem limitsOf_askExpired (h : testers.LimitsOf programOptions) (now : Int64)
    (packet : DataPacket) (allow : Bool) :
    (testers.askExpired now packet allow).1.LimitsOf programOptions := by
  unfold askExpired
  split
  · next tester hsome =>
    refine ⟨h.future, ?_⟩
    intro next hnext
    obtain rfl := Option.some.inj hnext
    exact h.expired tester hsome
  · exact h

theorem limitsOf_askDuplicate (h : testers.LimitsOf programOptions) (now : Int64)
    (packet : DataPacket) (allow : Bool) :
    (testers.askDuplicate now packet allow).1.LimitsOf programOptions := by
  unfold askDuplicate
  split
  · exact ⟨h.future, h.expired⟩
  · exact h

theorem limitsOf_scrutinize (h : testers.LimitsOf programOptions) (packet : DataPacket)
    (readings : Readings) : (testers.scrutinize readings packet).1.LimitsOf programOptions := by
  have hfuture := limitsOf_askFuture h readings.future packet false
  unfold scrutinize
  dsimp only
  split
  · exact hfuture
  · exact limitsOf_askDuplicate (limitsOf_askExpired hfuture _ _ _) _ _ _

end Testers

/-- A file holds its durations as `int`s. -/
theorem durations_of_parseIniFile {iniFile : Option (Except StdException PropertyTree)}
    {programOptions : ProgramOptions} (h : parseIniFile iniFile = .ok programOptions) :
    ∃ future latency : Int32, programOptions.maximumFutureTime = future.toInt64 ∧
      programOptions.maximumLatency = latency.toInt64 := by
  cases iniFile with
  | none =>
    simp only [parseIniFile, Except.ok.injEq] at h
    exact ⟨0, 120, by rw [← h]; decide, by rw [← h]; decide⟩
  | some parsed =>
    simp only [parseIniFile, bind_eq_ok_iff, pure_eq_ok, Except.ok.injEq] at h
    obtain ⟨propertyTree, -, _, -, _, -, rfl⟩ := h
    exact ⟨_, _, rfl, rfl⟩

theorem toInt_int32_mul {n : Int32} {k : Int64} (hk : 0 ≤ k.toInt) (hk' : k.toInt ≤ 1000000) :
    (n.toInt64 * k).toInt = n.toInt * k.toInt := by
  have hlow := n.le_toInt
  have hhigh := n.toInt_lt
  rw [Int64.toInt_mul, Int32.toInt_toInt64]
  have hlower : -2 ^ 31 * 1000000 ≤ n.toInt * k.toInt := by nlinarith
  have hupper : n.toInt * k.toInt ≤ 2 ^ 31 * 1000000 := by nlinarith
  exact Int.bmod_eq_of_le (by omega) (by omega)

/-! ### In time -/

/-- The packet was in time when the clocks showed `readings`: the end it reports, which
    wraps around in 64 bits, and its start. -/
structure InTime (programOptions : ProgramOptions) (readings : Readings) (packet : DataPacket) :
    Prop where
  ended : ∃ endTime, packet.getEndTime = .ok endTime ∧
    endTime.toInt ≤ readings.future.toInt + programOptions.maximumFutureTime.toInt * 1000
  recent : 0 < programOptions.maximumLatency →
    readings.expired.toInt - programOptions.maximumLatency.toInt * 1000000 ≤
      packet.getStartTime.toInt

/-- Readings of a clock that is not before the epoch, nor 146 thousand years after it. -/
def Readings.Plausible (readings : Readings) : Prop :=
  (0 ≤ readings.future.toInt ∧ readings.future.toInt < 2 ^ 62) ∧
    (0 ≤ readings.expired.toInt ∧ readings.expired.toInt < 2 ^ 62)

section InTime

variable {programOptions : ProgramOptions} {testers : Testers} {readings : Readings}
  {packet : DataPacket}

theorem ended_of_future {future : Int32}
    (hfuture : programOptions.maximumFutureTime = future.toInt64)
    (hlimits : testers.LimitsOf programOptions) {tester : TestFutureDataPacketImpl}
    (hsome : testers.mFutureDataPacketTester = some tester)
    (hallowed : (tester.allow readings.future packet).2 = .ok true)
    (hclock : readings.Plausible) :
    ∃ endTime, packet.getEndTime = .ok endTime ∧
      endTime.toInt ≤ readings.future.toInt + programOptions.maximumFutureTime.toInt * 1000 := by
  obtain ⟨endTime, hend⟩ := (tester.allow_ok_iff readings.future packet).mp ⟨true, hallowed⟩
  have hle := (TestFutureDataPacketImpl.allow_eq_true_iff hend tester readings.future).mp hallowed
  have hlimit : tester.mMaxFutureTime.toInt = future.toInt * 1000 := by
    rw [hlimits.future tester hsome, hfuture]
    exact toInt_int32_mul (by decide) (by decide)
  have hlow := future.le_toInt
  have hhigh := future.toInt_lt
  obtain ⟨⟨hepoch, hlate⟩, -⟩ := hclock
  rw [Int64.le_iff_toInt_le, Int64.toInt_add, hlimit,
    Int.bmod_eq_of_le (by omega) (by omega)] at hle
  refine ⟨endTime, hend, ?_⟩
  rw [hfuture, Int32.toInt_toInt64]
  exact hle

theorem recent_of_expired {latency : Int32}
    (hlatency : programOptions.maximumLatency = latency.toInt64)
    (hlimits : testers.LimitsOf programOptions) {tester : TestExpiredDataPacketImpl}
    (hsome : testers.mExpiredDataPacketTester = some tester)
    (hallowed : (tester.allow readings.expired packet).2 = true)
    (hclock : readings.Plausible) :
    readings.expired.toInt - programOptions.maximumLatency.toInt * 1000000 ≤
      packet.getStartTime.toInt := by
  have hle : readings.expired - tester.mMaxExpiredTime ≤ packet.getStartTime :=
    of_decide_eq_true hallowed
  have hlimit : tester.mMaxExpiredTime.toInt = latency.toInt * 1000000 := by
    rw [hlimits.expired tester hsome, hlatency]
    exact toInt_int32_mul (by decide) (by decide)
  have hlow := latency.le_toInt
  have hhigh := latency.toInt_lt
  obtain ⟨-, hepoch, hlate⟩ := hclock
  rw [Int64.le_iff_toInt_le, Int64.toInt_sub, hlimit,
    Int.bmod_eq_of_le (by omega) (by omega)] at hle
  rw [hlatency, Int32.toInt_toInt64]
  exact hle

theorem inTime_of_scrutinize {iniFile : Option (Except StdException PropertyTree)}
    (hparsed : parseIniFile iniFile = .ok programOptions)
    (henabled : testers.EnabledBy programOptions) (hlimits : testers.LimitsOf programOptions)
    (hallowed : (testers.scrutinize readings packet).2 = .ok true)
    (hclock : readings.Plausible) : InTime programOptions readings packet := by
  obtain ⟨future, latency, hfuture, hlatency⟩ := durations_of_parseIniFile hparsed
  have hall := testers.allAllow_of_scrutinize readings packet hallowed
  constructor
  · cases hsome : testers.mFutureDataPacketTester with
    | none => simp [testers.scrutinize_of_no_future readings packet hsome] at hallowed
    | some tester =>
      exact ended_of_future hfuture hlimits hsome (hall.future tester hsome) hclock
  · intro hpos
    obtain ⟨tester, hsome⟩ := Option.isSome_iff_exists.mp (henabled.expired.mpr hpos)
    exact recent_of_expired hlatency hlimits hsome (hall.expired tester hsome) hclock

end InTime

/-- Every packet emitted was asked about, with readings at which it was in time. -/
theorem emitted_in_time {iniFile : Option (Except StdException PropertyTree)}
    {programOptions : ProgramOptions} {testers : Testers}
    (hparsed : parseIniFile iniFile = .ok programOptions)
    (hmade : Testers.ofOptions programOptions = .ok testers)
    (asked : List (Readings × Arrival)) :
    ∀ a ∈ sieve.emitted testers asked, ∃ readings, (readings, a) ∈ asked ∧
      (readings.Plausible → InTime programOptions readings a.packet) := by
  have hrun : (∀ e ∈ sieve.history testers asked, ∀ a, e.2 = some a →
        e.1.2 = a ∧ (e.1.1.Plausible → InTime programOptions e.1.1 a.packet)) ∧
      (sieve.after testers asked).EnabledBy programOptions ∧
      (sieve.after testers asked).LimitsOf programOptions := by
    apply sieve.history_invariant (C := fun _ _ => True) (P := fun past testers =>
      (∀ e ∈ past, ∀ a, e.2 = some a →
        e.1.2 = a ∧ (e.1.1.Plausible → InTime programOptions e.1.1 a.packet)) ∧
      testers.EnabledBy programOptions ∧ testers.LimitsOf programOptions)
    · rintro past testers ⟨readings, arrival⟩ - ⟨hpast, henabled, hlimits⟩
      refine ⟨?_, Testers.enabledBy_scrutinize henabled _ _,
        Testers.limitsOf_scrutinize hlimits _ _⟩
      intro e he a hsome
      rcases List.mem_append.mp he with he | he
      · exact hpast e he a hsome
      · rw [List.mem_singleton] at he
        subst he
        obtain ⟨hallowed, rfl⟩ := passOn_eq_some hsome
        exact ⟨rfl, inTime_of_scrutinize hparsed henabled hlimits hallowed⟩
    · exact ⟨by simp, Testers.enabledBy_ofOptions hmade, Testers.limitsOf_ofOptions hmade⟩
    · exact sieve.always_of_forall_mem (Q := fun _ => True) fun _ _ => trivial
  intro a ha
  obtain ⟨⟨⟨readings, arrival⟩, out⟩, he, hsome⟩ := List.mem_filterMap.mp ha
  obtain ⟨rfl, hintime⟩ := hrun.1 _ he a hsome
  have hmem := List.mem_map_of_mem (f := Prod.fst) he
  rw [Machine.map_fst_history] at hmem
  exact ⟨readings, hmem, hintime⟩

/-! ### Apart -/

/-- What the duplicate check relies on: a channel has one rate, in a tolerance class, and
    its packets end no earlier than they begin and never lie inside one another. -/
structure Regular (arrivals : List DataPacket) : Prop where
  proper : ∀ packet ∈ arrivals, ∀ h, ofPacket packet = .ok h → h.startTime ≤ h.endTime
  classified : ∀ packet ∈ arrivals, ∀ h, ofPacket packet = .ok h → h.samplingRate < 1005
  oneRate : ∀ p ∈ arrivals, ∀ q ∈ arrivals, ∀ g h, ofPacket p = .ok g → ofPacket q = .ok h →
    g.name = h.name → g.samplingRate = h.samplingRate
  unnested : ∀ p ∈ arrivals, ∀ q ∈ arrivals, ∀ g h, ofPacket p = .ok g → ofPacket q = .ok h →
    g.name = h.name → ¬ (g.startTime < h.startTime ∧ h.endTime < g.endTime)

def headersOf (arrivals : List DataPacket) : List DataPacketHeader :=
  arrivals.filterMap fun packet => (ofPacket packet).toOption

theorem mem_headersOf {arrivals : List DataPacket} {header : DataPacketHeader} :
    header ∈ headersOf arrivals ↔ ∃ packet ∈ arrivals, ofPacket packet = .ok header := by
  rw [headersOf, List.mem_filterMap]
  constructor
  · rintro ⟨packet, hmem, hsome⟩
    refine ⟨packet, hmem, ?_⟩
    cases hheader : ofPacket packet with
    | error e => simp [hheader, Except.toOption] at hsome
    | ok own =>
      simp only [hheader, Except.toOption, Option.some.injEq] at hsome
      rw [hsome]
  · rintro ⟨packet, hmem, hheader⟩
    exact ⟨packet, hmem, by simp [hheader, Except.toOption]⟩

/-- The order of a run depends on the buffers only. -/
theorem RunOrder.congr {headers : List DataPacketHeader}
    {past : List (DataPacketHeader × Except StdException Bool)}
    {impl impl' : TestDuplicateDataPacketImpl} (h : RunOrder headers past impl)
    (hbuffers : impl'.mCircularBuffers = impl.mCircularBuffers) : RunOrder headers past impl' := by
  refine ⟨?_, ?_, ?_, h.apart⟩
  · intro name buffer hsome
    exact h.tidy name buffer (hbuffers ▸ hsome)
  · intro name buffer hsome
    exact h.submitted name buffer (hbuffers ▸ hsome)
  · intro e he hallowed
    obtain ⟨buffer, hsome, hmem⟩ := h.remembered e he hallowed
    exact ⟨buffer, hbuffers ▸ hsome, hmem⟩

@[simp] theorem Testers.mDuplicateDataPacketTester_askFuture (testers : Testers) (now : Int64)
    (packet : DataPacket) (allow : Bool) :
    (testers.askFuture now packet allow).1.mDuplicateDataPacketTester =
      testers.mDuplicateDataPacketTester := by
  unfold askFuture
  split <;> rfl

/-- The duplicate tester is not asked, and then nothing is emitted, or it decides. -/
theorem sieve_duplicate {testers : Testers} {impl : TestDuplicateDataPacketImpl}
    (hsome : testers.mDuplicateDataPacketTester = some impl) (readings : Readings)
    (arrival : Arrival) :
    ((sieve.step testers (readings, arrival)).1.mDuplicateDataPacketTester = some impl ∧
      (sieve.step testers (readings, arrival)).2 = none) ∨
    ((sieve.step testers (readings, arrival)).1.mDuplicateDataPacketTester =
        some (TestDuplicateDataPacket.allow impl readings.duplicate arrival.packet).1 ∧
      (sieve.step testers (readings, arrival)).2 =
        passOn (.ok (TestDuplicateDataPacket.allow impl readings.duplicate arrival.packet).2)
          arrival) := by
  simp only [sieve, Testers.scrutinize]
  have hfuture := testers.mDuplicateDataPacketTester_askFuture readings.future arrival.packet false
  generalize testers.askFuture readings.future arrival.packet false = future at hfuture ⊢
  rw [hsome] at hfuture
  obtain ⟨next, e | allow⟩ := future
  · exact Or.inl ⟨hfuture, rfl⟩
  · have hexpired := next.mDuplicateDataPacketTester_askExpired arrival.packet
      readings.expired allow
    dsimp only at hfuture ⊢
    generalize next.askExpired readings.expired arrival.packet allow = expired at hexpired ⊢
    rw [hfuture] at hexpired
    obtain ⟨next, asked⟩ := expired
    dsimp only at hexpired ⊢
    cases asked with
    | false => exact Or.inl ⟨hexpired, rfl⟩
    | true => exact Or.inr (by simp [Testers.askDuplicate, hexpired])

/-- The memory is not so long that a capacity could overflow. -/
def ShortMemory (impl : TestDuplicateDataPacketImpl) : Prop :=
  1 ≤ impl.mCircularBufferDuration.toInt ∧ impl.mCircularBufferDuration.toInt ≤ 1431655764

/-- Of a header that can be compared with all that have been submitted, the check does not
    throw. -/
theorem RunOrder.allow_ok {arrivals : List DataPacket} (hregular : Regular arrivals)
    {calls : List (DataPacketHeader × Except StdException Bool)}
    {impl : TestDuplicateDataPacketImpl} (h : RunOrder (headersOf arrivals) calls impl)
    (hshort : ShortMemory impl) {packet : DataPacket} (hpacket : packet ∈ arrivals)
    {header : DataPacketHeader} (hheader : ofPacket packet = .ok header) :
    ∃ answer, (impl.allow header).2 = .ok answer := by
  cases hbuffer : impl.mCircularBuffers header.name with
  | none =>
    rw [allow_ok_iff_of_none hbuffer]
    exact fun _ => capacityFits_of_le header hshort.1 hshort.2
  | some buffer =>
    have hrates : ∀ g ∈ buffer.items,
        g.name = header.name ∧ g.samplingRate = header.samplingRate := by
      intro g hg
      obtain ⟨hname, hsubmitted⟩ := h.submitted _ _ hbuffer g hg
      obtain ⟨own, hown, hg'⟩ := mem_headersOf.mp hsubmitted
      exact ⟨hname, hregular.oneRate own hown packet hpacket g header hg' hheader hname⟩
    have hclass := hregular.classified packet hpacket header hheader
    apply (allow_ok_iff hbuffer).mpr
    apply (DataPacketHeader.find_ok_iff (fun g hg => (hrates g hg).1) ?_).mpr
    · intro g hg
      exact ⟨(hrates g hg).2, Or.inl hclass⟩
    · intro g hg g' hg'
      exact (hrates g hg).2.trans (hrates g' hg').2.symm

/-- The duplicate tester has run over headers of the arrivals in order, and what has been
    emitted are the packets it allowed. -/
def Witnessed (arrivals : List DataPacket)
    (past : List ((Readings × Arrival) × Option Arrival)) (testers : Testers) : Prop :=
  ∃ impl calls, testers.mDuplicateDataPacketTester = some impl ∧ ShortMemory impl ∧
    RunOrder (headersOf arrivals) calls impl ∧
    (past.filterMap Prod.snd).map (fun a => ofPacket a.packet) =
      (calls.filter fun e => e.2 = .ok true).map fun e => .ok e.1

theorem witnessed_step {arrivals : List DataPacket} (hregular : Regular arrivals)
    {past : List ((Readings × Arrival) × Option Arrival)} {testers : Testers}
    (h : Witnessed arrivals past testers) {readings : Readings} {arrival : Arrival}
    (harrival : arrival.packet ∈ arrivals) :
    Witnessed arrivals
      (past ++ [((readings, arrival), (sieve.step testers (readings, arrival)).2)])
      (sieve.step testers (readings, arrival)).1 := by
  obtain ⟨impl, calls, hsome, hshort, hrun, hemitted⟩ := h
  rcases sieve_duplicate hsome readings arrival with ⟨hnext, hout⟩ | ⟨hnext, hout⟩
  · exact ⟨impl, calls, hnext, hshort, hrun, by simpa [hout] using hemitted⟩
  · cases hheader : ofPacket arrival.packet with
    | error e =>
      -- a packet without a header is kept out, and the tester does not move
      simp only [TestDuplicateDataPacket.allow, hheader] at hnext hout
      exact ⟨impl, calls, hnext, hshort, hrun, by simpa [hout, passOn] using hemitted⟩
    | ok header =>
      obtain ⟨answer, hanswer⟩ := hrun.allow_ok hregular hshort harrival hheader
      simp only [TestDuplicateDataPacket.allow, hheader, hanswer] at hnext hout
      have hproper : ∀ h ∈ headersOf arrivals, h.span.Proper := by
        intro h hh
        obtain ⟨packet, hmem, hown⟩ := mem_headersOf.mp hh
        exact (DataPacketHeader.le_iff_proper h).mp (hregular.proper packet hmem h hown)
      have hnest : ∀ g ∈ headersOf arrivals, ∀ h ∈ headersOf arrivals, g.name = h.name →
          ¬ g.span.Covers h.span := by
        intro g hg h hh hname hcover
        obtain ⟨p, hp, hgp⟩ := mem_headersOf.mp hg
        obtain ⟨q, hq, hhq⟩ := mem_headersOf.mp hh
        apply hregular.unnested p hp q hq g h hgp hhq hname
        simpa [Span.Covers, span, Int64.lt_iff_toInt_lt] using hcover
      have hmem : header ∈ headersOf arrivals := mem_headersOf.mpr ⟨_, harrival, hheader⟩
      refine ⟨_, calls ++ [(header, (impl.allow header).2)], hnext,
        by simpa [ShortMemory] using hshort,
        (runOrder_allow hproper hnest hmem hrun).congr (by simp), ?_⟩
      rw [List.filterMap_append, List.map_append, hemitted, List.filter_append, List.map_append,
        List.append_cancel_left_eq]
      cases answer with
      | true => simp [hout, hanswer, passOn, hheader]
      | false => simp [hout, hanswer, passOn]

theorem witnessed_start {programOptions : ProgramOptions} {testers : Testers}
    (hmade : Testers.ofOptions programOptions = .ok testers)
    (hremember : 0 < programOptions.circularBufferDuration)
    (hshort : programOptions.circularBufferDuration ≤ 1431655764) (arrivals : List DataPacket) :
    Witnessed arrivals [] testers := by
  simp only [Testers.ofOptions, bind_eq_ok_iff, pure_eq_ok, Except.ok.injEq] at hmade
  obtain ⟨future, -, expired, -, duplicate, hduplicate, rfl⟩ := hmade
  obtain ⟨impl, hsome⟩ := Option.isSome_iff_exists.mp
    ((Testers.isSome_of_makeIf hduplicate).mpr hremember)
  have hfresh := Testers.eq_of_makeIf hduplicate hsome
  unfold ofDuration at hfresh
  split_ifs at hfresh
  rw [Except.ok.injEq] at hfresh
  rw [Int64.lt_iff_toInt_lt, Int64.toInt_zero] at hremember
  rw [Int64.le_iff_toInt_le] at hshort
  have hmemory : impl.mCircularBufferDuration = programOptions.circularBufferDuration := by
    rw [← hfresh]
    rfl
  exact ⟨impl, [], hsome, by rw [ShortMemory, hmemory]; exact ⟨by omega, hshort⟩,
    hfresh ▸ runOrder_fresh _ _, rfl⟩

/-- What is emitted for regular packets has headers, and those of one channel are
    apart. -/
theorem emitted_apart {programOptions : ProgramOptions} {testers : Testers}
    (hmade : Testers.ofOptions programOptions = .ok testers)
    (hremember : 0 < programOptions.circularBufferDuration)
    (hshort : programOptions.circularBufferDuration ≤ 1431655764) {arrivals : List DataPacket}
    (hregular : Regular arrivals) {asked : List (Readings × Arrival)}
    (hasked : ∀ call ∈ asked, call.2.packet ∈ arrivals) :
    (∀ a ∈ sieve.emitted testers asked, ∃ header, ofPacket a.packet = .ok header) ∧
    (sieve.emitted testers asked).Pairwise fun a b => ∀ g h, ofPacket a.packet = .ok g →
      ofPacket b.packet = .ok h → g.name = h.name → ¬ h.span.Meets g.span := by
  obtain ⟨impl, calls, -, -, hrun, hemitted⟩ :
      Witnessed arrivals (sieve.history testers asked) (sieve.after testers asked) :=
    sieve.history_invariant (P := Witnessed arrivals)
      (fun past testers call hcall h => witnessed_step hregular h hcall)
      (witnessed_start hmade hremember hshort arrivals) (sieve.always_of_forall_mem hasked)
  constructor
  · intro a ha
    have hmem := List.mem_map_of_mem (f := fun a : Arrival => ofPacket a.packet) ha
    rw [Machine.emitted, hemitted, List.mem_map] at hmem
    obtain ⟨e, -, he⟩ := hmem
    exact ⟨e.1, he.symm⟩
  · have hcalls : (calls.filter fun e => e.2 = .ok true).Pairwise fun e f =>
        e.1.name = f.1.name → ¬ f.1.span.Meets e.1.span := by
      apply (hrun.apart.sublist List.filter_sublist).imp_of_mem
      intro e f he hf hapart
      exact hapart (of_decide_eq_true (List.mem_filter.mp he).2)
        (of_decide_eq_true (List.mem_filter.mp hf).2)
    have hheaders : ((calls.filter fun e => e.2 = .ok true).map fun e =>
        (Except.ok e.1 : Except StdException DataPacketHeader)).Pairwise fun x y =>
          ∀ g h, x = .ok g → y = .ok h → g.name = h.name → ¬ h.span.Meets g.span := by
      rw [List.pairwise_map]
      apply hcalls.imp
      intro e f hapart g h hg hh
      rw [Except.ok.injEq] at hg hh
      rw [← hg, ← hh]
      exact hapart
    rw [← hemitted, List.pairwise_map] at hheaders
    exact hheaders

/-! ### Every interleaving -/

section Run

variable {iniFile : Option (Except StdException PropertyTree)} {programOptions : ProgramOptions}
  {testers : Testers} (checkCapacity publishCapacity : Nat)
  (checkerEntered publisherEntered : Int64) (actions : List Action)

/-- **Whatever is sent was in time.**  For every configuration a file can hold and every
    interleaving, each packet sent was asked about at clock readings at which it lay within
    the future limit and, where a latency is set, within that. -/
theorem sent_in_time (hparsed : parseIniFile iniFile = .ok programOptions)
    (hmade : Testers.ofOptions programOptions = .ok testers) :
    let process := sanitizer.after (Process.start testers checkCapacity publishCapacity
      checkerEntered publisherEntered) actions
    ∀ a ∈ process.history.sends, ∃ readings, (readings, a) ∈ process.asked ∧
      (readings.Plausible → InTime programOptions readings a.packet) := by
  intro process a ha
  obtain ⟨-, -, hsends⟩ := sends_sublist_emitted testers checkCapacity publishCapacity
    checkerEntered publisherEntered actions
  exact emitted_in_time hparsed hmade process.asked a (hsends.subset ha)

theorem fork_packets_sent_in_time :
    let process := sanitizer.after (Process.start defaultTesters 511 511 0 0) forkRun
    process.history.sends.map Arrival.index = [0, 1] ∧
      ∀ a ∈ process.history.sends, ∃ readings, (readings, a) ∈ process.asked ∧
        (readings.Plausible → InTime {} readings a.packet) :=
  ⟨by decide +kernel, @sent_in_time none {} defaultTesters 511 511 0 0 _ rfl rfl⟩

/-- **No two packets sent overlap.**  With a duplicate tester, whose memory is not so long
    that a capacity could overflow, and packets that arrive regular, the spans of any two
    packets of one channel that are sent, in whatever interleaving, have no point of time in
    common. -/
theorem sent_spans_disjoint (hmade : Testers.ofOptions programOptions = .ok testers)
    (hremember : 0 < programOptions.circularBufferDuration)
    (hshort : programOptions.circularBufferDuration ≤ 1431655764)
    (hregular : Regular (actions.filterMap Action.delivered)) :
    let sends := (sanitizer.after (Process.start testers checkCapacity publishCapacity
      checkerEntered publisherEntered) actions).history.sends
    (∀ a ∈ sends, ∃ header, ofPacket a.packet = .ok header) ∧
    sends.Pairwise fun a b => ∀ g h, ofPacket a.packet = .ok g → ofPacket b.packet = .ok h →
      g.name = h.name → Disjoint (Set.Icc g.startTime.toInt g.endTime.toInt)
        (Set.Icc h.startTime.toInt h.endTime.toInt) := by
  intro sends
  obtain ⟨harrived, -, hsends⟩ := sends_sublist_emitted testers checkCapacity publishCapacity
    checkerEntered publisherEntered actions
  have hasked : ∀ call ∈ (sanitizer.after (Process.start testers checkCapacity publishCapacity
      checkerEntered publisherEntered) actions).asked,
      call.2.packet ∈ actions.filterMap Action.delivered := by
    intro call hcall
    have hmem := harrived.subset (List.mem_map_of_mem (f := Prod.snd) hcall)
    exact List.mem_of_getElem? (getElem?_of_mem_numbered hmem)
  obtain ⟨hheaders, hapart⟩ := emitted_apart hmade hremember hshort hregular hasked
  refine ⟨fun a ha => hheaders a (hsends.subset ha), ?_⟩
  have hproper : ∀ a ∈ sends, ∀ h, ofPacket a.packet = .ok h → h.span.Proper := by
    intro a ha h hh
    obtain ⟨readings, hmem⟩ := mem_asked_of_emitted (hsends.subset ha)
    exact (DataPacketHeader.le_iff_proper h).mp (hregular.proper _ (hasked _ hmem) h hh)
  apply (hapart.sublist hsends).imp_of_mem
  intro a b ha hb hmeets g h hg hh hname
  apply (Span.disjoint_points_iff (hproper a ha g hg) (hproper b hb h hh)).mpr
  intro hmeet
  exact hmeets g h hg hh hname hmeet.symm

end Run

/-- A packet, the same again, and one that comes 20 seconds later. -/
def forkArrivals : List DataPacket :=
  [.forkPacket (.double [.finite 1]), .forkPacket (.double [.finite 1]), forkLater]

theorem forkArrivals_regular : Regular forkArrivals := by
  have hheader : ∀ packet ∈ forkArrivals, ∀ h, ofPacket packet = .ok h →
      h = DataPacketHeader.forkHeader 0 0 1 ∨
        h = DataPacketHeader.forkHeader 20000000 20000000 1 := by
    intro packet hpacket h hh
    have hown : ofPacket (.forkPacket (.double [.finite 1])) =
        .ok (DataPacketHeader.forkHeader 0 0 1) := by decide +kernel
    have hlater : ofPacket forkLater =
        .ok (DataPacketHeader.forkHeader 20000000 20000000 1) := by decide +kernel
    have hpacket : packet = .forkPacket (.double [.finite 1]) ∨ packet = forkLater := by
      simpa [forkArrivals] using hpacket
    rcases hpacket with rfl | rfl
    · rw [hown, Except.ok.injEq] at hh
      exact Or.inl hh.symm
    · rw [hlater, Except.ok.injEq] at hh
      exact Or.inr hh.symm
  constructor
  · intro packet hpacket h hh
    rcases hheader packet hpacket h hh with rfl | rfl <;> decide
  · intro packet hpacket h hh
    rcases hheader packet hpacket h hh with rfl | rfl <;> decide
  · intro p hp q hq g h hg hh _
    rcases hheader p hp g hg with rfl | rfl <;> rcases hheader q hq h hh with rfl | rfl <;> rfl
  · intro p hp q hq g h hg hh _
    rcases hheader p hp g hg with rfl | rfl <;>
      rcases hheader q hq h hh with rfl | rfl <;> decide

def deliveredTwice : List Action :=
  forkArrivals.map Action.deliver ++ checks 18 ++ publishes 18

/-- A packet that comes twice is sent once, and the later one too. -/
theorem fork_packet_sent_once :
    let sends := (sanitizer.after (Process.start defaultTesters 511 511 0 0)
      deliveredTwice).history.sends
    sends.map Arrival.index = [0, 2] ∧
      sends.Pairwise fun a b => ∀ g h, ofPacket a.packet = .ok g → ofPacket b.packet = .ok h →
        g.name = h.name → Disjoint (Set.Icc g.startTime.toInt g.endTime.toInt)
          (Set.Icc h.startTime.toInt h.endTime.toInt) :=
  ⟨by decide +kernel, (@sent_spans_disjoint {} defaultTesters 511 511 0 0 deliveredTwice rfl
    (by decide) (by decide) forkArrivals_regular).2⟩

end Us8
