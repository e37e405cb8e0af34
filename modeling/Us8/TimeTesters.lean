/-
  Us8/TimeTesters.lean
  ====================
  **The two testers that compare a packet with the clock**
  (`testFutureDataPacket.cpp`, `testExpiredDataPacket.cpp` of
  `broadcasts/dataPacket/sanitizer`).

  The future tester rejects a packet whose last sample lies further ahead of the
  clock than allowed, the expired tester one whose first sample lies further behind.
  Both keep the set of channels flagged since the last line of the log and write a
  line once an interval; that part is the same code twice and is `BadDataLog` here.
  Only the future tester can throw: it asks for the end time, which a packet without
  samples or rate does not have.

  A clock reading is an argument, in microseconds since the epoch.  Sums and
  differences of times are those of the 64-bit counts.
-/
import Us8.DataPacketHeader
import Mathlib.Data.Finset.Sort
import Mathlib.Data.String.Basic

namespace Us8

/-! ### The log of flagged channels -/

structure LogMessage where
  heading : String
  channels : Finset String
deriving DecidableEq

/-- The text of the line: the channels in order, each after a blank. -/
def LogMessage.text (message : LogMessage) : String :=
  (message.channels.sort (· ≤ ·)).foldl (fun text channel => text ++ " " ++ channel)
    message.heading

/-- The flagged channels and when they were last logged; `logged` is what has been
    written. -/
structure BadDataLog where
  mChannels : Finset String := ∅
  mLastLogTime : Int64 := 0
  mLogBadDataInterval : Int64 := 3600
  mLogBadData : Bool := true
  logged : List LogMessage := []
deriving DecidableEq

namespace BadDataLog

/-- A log that has seen nothing.  A negative interval turns it off. -/
def ofInterval (logBadDataInterval : Int64) : BadDataLog :=
  { mLogBadDataInterval := logBadDataInterval
    mLogBadData := decide (logBadDataInterval ≥ 0) }

/-- The name under which a rejected packet is flagged; a packet whose name cannot be
    built is not flagged. -/
def badName (allow : Bool) (packet : DataPacket) : String :=
  if allow then ""
  else
    match toName packet with
    | .ok name => name
    | .error _ => ""

def logBadData (heading : String) (log : BadDataLog) (allow : Bool) (packet : DataPacket)
    (nowMuSec : Int64) : BadDataLog :=
  if log.mLogBadData = false then log
  else
    let name := badName allow packet
    let nowSeconds := nowMuSec / 1000000
    let log :=
      if name.isEmpty then log else { log with mChannels := insert name log.mChannels }
    if nowSeconds ≥ log.mLastLogTime + log.mLogBadDataInterval then
      if log.mChannels = ∅ then log
      else
        { log with
          logged := log.logged ++ [⟨heading, log.mChannels⟩]
          mChannels := ∅
          mLastLogTime := nowSeconds }
    else log

end BadDataLog

/-! ### Data from the future -/

structure TestFutureDataPacketImpl where
  mMaxFutureTime : Int64
  log : BadDataLog
deriving DecidableEq

namespace TestFutureDataPacketImpl

/-- A negative maximum is accepted: it demands some latency. -/
def new (maxFutureTime logBadDataInterval : Int64) : TestFutureDataPacketImpl :=
  ⟨maxFutureTime, .ofInterval logBadDataInterval⟩

def allow (impl : TestFutureDataPacketImpl) (nowMuSeconds : Int64) (packet : DataPacket) :
    TestFutureDataPacketImpl × Except StdException Bool :=
  match packet.getEndTime with
  | .error e => (impl, .error e)
  | .ok packetEndTime =>
      let latestTime := nowMuSeconds + impl.mMaxFutureTime
      let allow := decide (packetEndTime ≤ latestTime)
      ({ impl with
          log := impl.log.logBadData "Future data detected for: " allow packet nowMuSeconds },
        .ok allow)

/-- The future tester throws exactly on a packet that has no end time. -/
theorem allow_ok_iff (impl : TestFutureDataPacketImpl) (nowMuSeconds : Int64)
    (packet : DataPacket) :
    (∃ allow, (impl.allow nowMuSeconds packet).2 = .ok allow) ↔
      ∃ endTime, packet.getEndTime = .ok endTime := by
  unfold allow
  cases packet.getEndTime <;> simp

/-- The tester lets a packet through exactly when it ends by the latest time. -/
theorem allow_eq_true_iff {packet : DataPacket} {endTime : Int64}
    (hend : packet.getEndTime = .ok endTime) (impl : TestFutureDataPacketImpl)
    (nowMuSeconds : Int64) :
    (impl.allow nowMuSeconds packet).2 = .ok true ↔
      endTime ≤ nowMuSeconds + impl.mMaxFutureTime := by
  unfold allow
  simp [hend]

end TestFutureDataPacketImpl

/-! ### How far a packet reaches -/

/-- The packet does not end before it starts, and no tester lets it through, at whatever
    time, unless it starts and ends by the latest time the tester allows. -/
def KeepsFutureLimit (packet : DataPacket) : Prop :=
  ∃ endTime, packet.getEndTime = .ok endTime ∧ packet.getStartTime ≤ endTime ∧
    ∀ (impl : TestFutureDataPacketImpl) (nowMuSeconds : Int64),
      (impl.allow nowMuSeconds packet).2 = .ok true →
        packet.getStartTime ≤ endTime ∧ endTime ≤ nowMuSeconds + impl.mMaxFutureTime

namespace DataPacket

/-- The microseconds that the samples of the packet span, as many as it says it has. -/
def duration (packet : DataPacket) : Int :=
  DataPacketImpl.exactDuration packet.getNumberOfSamples.toNatClampNeg packet.mSamplingRate

theorem getEndTime_eq {packet : DataPacket} (hrate : packet.haveSamplingRate = true)
    (hsamples : 1 ≤ packet.getNumberOfSamples) :
    packet.getEndTime = .ok (packet.getStartTime +
      DataPacketImpl.traceDuration packet.getNumberOfSamples.toNatClampNeg
        packet.mSamplingRate) := by
  have hpositive : packet.mSamplingRate.positive = true := hrate
  have hsize : 0 < packet.size := pos_of_one_le hsamples
  rw [getEndTime, if_neg (by simp [hrate]), if_neg (Int32.not_lt.mpr hsamples),
    packet.endTimeCurrent, DataPacketImpl.computedEndTime, if_pos ⟨hsize, hpositive⟩]
  rfl

theorem sampled_of_getEndTime {packet : DataPacket} {endTime : Int64}
    (h : packet.getEndTime = .ok endTime) :
    packet.haveSamplingRate = true ∧ 1 ≤ packet.getNumberOfSamples := by
  unfold getEndTime at h
  split_ifs at h with hrate hsamples
  exact ⟨by simpa using hrate, Int32.not_lt.mp hsamples⟩

/-- The sum of the start time and the duration must fit; a duration that does not fit
    itself becomes -2^63, and that takes a negative start time to a later one. -/
theorem startTime_le_endTime_iff {packet : DataPacket}
    (hrate : packet.haveSamplingRate = true) :
    packet.getStartTime ≤ packet.getStartTime +
        DataPacketImpl.traceDuration packet.getNumberOfSamples.toNatClampNeg packet.mSamplingRate ↔
      packet.getStartTime.toInt + packet.duration < 2 ^ 63 ∨
        (2 ^ 63 ≤ packet.duration ∧ packet.getStartTime.toInt < 0) := by
  have hnonneg : 0 ≤ packet.duration := DataPacketImpl.exactDuration_nonneg _ hrate
  have hstart := packet.getStartTime.le_toInt
  have hconverted :
      (DataPacketImpl.traceDuration packet.getNumberOfSamples.toNatClampNeg
          packet.mSamplingRate).toInt =
        if packet.duration < 2 ^ 63 then packet.duration else -2 ^ 63 :=
    DataPacketImpl.toInt_traceDuration _ hrate
  rw [le_add_iff, hconverted]
  split_ifs with hfits <;> omega

end DataPacket

/-- **When no packet reaches past the future limit.**  A packet with a rate ends no earlier
    than it starts, and is let through only if all of it lies before the latest time, if and
    only if it says it has samples and its end fits into 64 bits; a packet that starts before
    the epoch and spans 2^63 microseconds or more also gets an end after its start. -/
theorem keepsFutureLimit_iff (packet : DataPacket) (hrate : packet.haveSamplingRate = true) :
    KeepsFutureLimit packet ↔
      1 ≤ packet.getNumberOfSamples ∧
        (packet.getStartTime.toInt + packet.duration < 2 ^ 63 ∨
          (2 ^ 63 ≤ packet.duration ∧ packet.getStartTime.toInt < 0)) := by
  rw [← DataPacket.startTime_le_endTime_iff hrate]
  constructor
  · rintro ⟨endTime, hok, hle, -⟩
    have hsamples := (DataPacket.sampled_of_getEndTime hok).2
    rw [DataPacket.getEndTime_eq hrate hsamples] at hok
    exact ⟨hsamples, Except.ok.inj hok ▸ hle⟩
  · rintro ⟨hsamples, hle⟩
    have hend := DataPacket.getEndTime_eq hrate hsamples
    refine ⟨_, hend, hle, ?_⟩
    intro impl nowMuSeconds hallowed
    exact ⟨hle, (TestFutureDataPacketImpl.allow_eq_true_iff hend impl nowMuSeconds).mp hallowed⟩

theorem fork_keepsFutureLimit :
    KeepsFutureLimit (.forkPacket (.double [.finite 1, .finite 2])) :=
  (keepsFutureLimit_iff _ (by decide +kernel)).mpr
    ⟨by decide +kernel, Or.inl (by decide +kernel)⟩

/-- Two samples at 100 Hz from the last microsecond of the clock on: the packet ends
    292 thousand years before the epoch, and it passes as data of the past. -/
theorem fork_end_of_time_passes :
    ((DataPacket.forkPacket (.double [.finite 1, .finite 2])).setStartTime
      Int64.maxValue).haveSamplingRate = true ∧
    ((DataPacket.forkPacket (.double [.finite 1, .finite 2])).setStartTime
      Int64.maxValue).getEndTime = .ok (Int64.minValue + 9999) ∧
    ((TestFutureDataPacketImpl.new 0 3600).allow 0
      ((DataPacket.forkPacket (.double [.finite 1, .finite 2])).setStartTime
        Int64.maxValue)).2 = .ok true ∧
    ¬ KeepsFutureLimit
      ((DataPacket.forkPacket (.double [.finite 1, .finite 2])).setStartTime
        Int64.maxValue) := by
  refine ⟨by decide +kernel, by decide +kernel, by decide +kernel, ?_⟩
  rintro ⟨endTime, hok, hle, -⟩
  have hend : ((DataPacket.forkPacket (.double [.finite 1, .finite 2])).setStartTime
      Int64.maxValue).getEndTime = .ok (Int64.minValue + 9999) := by decide +kernel
  rw [hend] at hok
  rw [← Except.ok.inj hok] at hle
  revert hle
  decide +kernel

/-! ### Expired data -/

structure TestExpiredDataPacketImpl where
  mMaxExpiredTime : Int64
  log : BadDataLog
  maxExpiredTime_pos : 0 < mMaxExpiredTime
deriving DecidableEq

namespace TestExpiredDataPacketImpl

def new (maxExpiredTime logBadDataInterval : Int64) :
    Except StdException TestExpiredDataPacketImpl :=
  if h : maxExpiredTime ≤ 0 then
    .error (.invalidArgument "Max expired time must be positive")
  else .ok ⟨maxExpiredTime, .ofInterval logBadDataInterval, Int64.not_le.mp h⟩

theorem defaultLatency_pos : (0 : Int64) < 120000000 := by decide

theorem new_ok {maxExpiredTime : Int64} (h : 0 < maxExpiredTime) (logBadDataInterval : Int64) :
    ∃ impl, new maxExpiredTime logBadDataInterval = .ok impl :=
  ⟨_, dif_neg (Int64.not_le.mpr h)⟩

def allow (impl : TestExpiredDataPacketImpl) (nowMuSeconds : Int64) (packet : DataPacket) :
    TestExpiredDataPacketImpl × Bool :=
  let packetStartTime := packet.getStartTime
  let earliestTime := nowMuSeconds - impl.mMaxExpiredTime
  let allow := decide (packetStartTime ≥ earliestTime)
  ({ impl with
      log := impl.log.logBadData "Expired data detected for: " allow packet nowMuSeconds },
    allow)

end TestExpiredDataPacketImpl

end Us8
