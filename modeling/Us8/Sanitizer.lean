/-
  Us8/Sanitizer.lean
  ==================
  **The sanitizer's configuration and its chain of testers**
  (`broadcasts/dataPacket/sanitizer/sanitizer.cpp`: `parseIniFile`, the part of the
  constructor of `Process` that makes the testers, and the part of `checkPackets`
  that asks them about one packet).

  Each of the three testers is there or not, as the options decide, and keeps its own
  state.  `scrutinize` asks those that are there in turn and carries the verdict in
  one flag.  The flag starts as false and only the future tester can raise it, so
  without a future tester nothing is ever handed on: the chain does what it is for
  exactly in the configurations with a future tester (`chain_correct_iff`).

  The property tree is known by what is looked up in it.  Boost's `get` with a default
  returns the default for a missing entry and for one that does not parse as the type
  asked for, which is `none` here.
-/
import Us8.DuplicateTester

namespace Us8

/-! ### Options -/

/-- `boost::property_tree::ptree` as far as it is read. -/
structure PropertyTree where
  getString : String → Option String
  getInt : String → Option Int32

structure ProgramOptions where
  inputBroadcastAddress : String := "tcp://127.0.0.1:5551"
  outputBroadcastAddress : String := "tcp://127.0.0.1:5552"
  /-- In milliseconds. -/
  maximumFutureTime : Int64 := 0
  /-- This and the next two are in seconds. -/
  maximumLatency : Int64 := 120
  circularBufferDuration : Int64 := 120
  logBadDataInterval : Int64 := 60
deriving DecidableEq

def getAddress (propertyTree : PropertyTree) (path default : String) :
    Except StdException String := do
  let address := (propertyTree.getString path).getD default
  if address.isEmpty then throw (.invalidArgument (path ++ " is empty"))
  if address.startsWith "tcp://" = false then
    throw (.invalidArgument (path ++ " must starts with tcp://"))
  return address

def getDuration (propertyTree : PropertyTree) (path : String) (default : Int64) : Int64 :=
  ((propertyTree.getInt path).getD default.toInt32).toInt64

/-- `none` is a file that does not exist, an error one that `read_ini` refuses. -/
def parseIniFile (iniFile : Option (Except StdException PropertyTree)) :
    Except StdException ProgramOptions :=
  let options : ProgramOptions := {}
  match iniFile with
  | none => .ok options
  | some parsed => do
      let propertyTree ← parsed
      let inputBroadcastAddress ←
        getAddress propertyTree "ZeroMQ.inputBroadcastAddress" options.inputBroadcastAddress
      let outputBroadcastAddress ←
        getAddress propertyTree "ZeroMQ.outputBroadcastAddress" options.outputBroadcastAddress
      return {
        inputBroadcastAddress := inputBroadcastAddress
        outputBroadcastAddress := outputBroadcastAddress
        maximumFutureTime :=
          getDuration propertyTree "Sanitizer.maximumFutureTimeInMilliSeconds"
            options.maximumFutureTime
        maximumLatency :=
          getDuration propertyTree "Sanitizer.maximumLatencyInSeconds" options.maximumLatency
        circularBufferDuration :=
          getDuration propertyTree "Sanitizer.circularBufferDurationInSeconds"
            options.circularBufferDuration
        logBadDataInterval :=
          getDuration propertyTree "Sanitizer.logBadDataIntervalInSeconds"
            options.logBadDataInterval }

/-! ### The testers of a process -/

structure Testers where
  mFutureDataPacketTester : Option TestFutureDataPacketImpl := none
  mExpiredDataPacketTester : Option TestExpiredDataPacketImpl := none
  mDuplicateDataPacketTester : Option TestDuplicateDataPacketImpl := none

structure Readings where
  future : Int64
  expired : Int64
  duplicate : Int64
deriving DecidableEq

namespace Testers

def makeIf {α : Type} (enabled : Prop) [Decidable enabled] (make : Except StdException α) :
    Except StdException (Option α) :=
  if enabled then some <$> make else .ok none

def ofOptions (programOptions : ProgramOptions) : Except StdException Testers := do
  let mFutureDataPacketTester ←
    makeIf (programOptions.maximumFutureTime ≥ 0)
      (.ok (TestFutureDataPacketImpl.new (programOptions.maximumFutureTime * 1000)
        programOptions.logBadDataInterval))
  let mExpiredDataPacketTester ←
    makeIf (programOptions.maximumLatency > 0)
      (TestExpiredDataPacketImpl.new (programOptions.maximumLatency * 1000000)
        programOptions.logBadDataInterval)
  let mDuplicateDataPacketTester ←
    makeIf (programOptions.circularBufferDuration > 0)
      (TestDuplicateDataPacketImpl.ofDuration programOptions.circularBufferDuration
        programOptions.logBadDataInterval)
  return ⟨mFutureDataPacketTester, mExpiredDataPacketTester, mDuplicateDataPacketTester⟩

/-- `if (mFutureDataPacketTester){allow = …}`. -/
def askFuture (testers : Testers) (now : Int64) (packet : DataPacket) (allow : Bool) :
    Testers × Except StdException Bool :=
  match testers.mFutureDataPacketTester with
  | none => (testers, .ok allow)
  | some tester =>
      ({ testers with mFutureDataPacketTester := some (tester.allow now packet).1 },
        (tester.allow now packet).2)

/-- `if (allow && mExpiredDataPacketTester){allow = …}`. -/
def askExpired (testers : Testers) (now : Int64) (packet : DataPacket) (allow : Bool) :
    Testers × Bool :=
  match allow, testers.mExpiredDataPacketTester with
  | true, some tester =>
      ({ testers with mExpiredDataPacketTester := some (tester.allow now packet).1 },
        (tester.allow now packet).2)
  | _, _ => (testers, allow)

/-- `if (allow && mDuplicateDataPacketTester){allow = …}`. -/
def askDuplicate (testers : Testers) (now : Int64) (packet : DataPacket) (allow : Bool) :
    Testers × Bool :=
  match allow, testers.mDuplicateDataPacketTester with
  | true, some tester =>
      ({ testers with
          mDuplicateDataPacketTester :=
            some (TestDuplicateDataPacket.allow tester now packet).1 },
        (TestDuplicateDataPacket.allow tester now packet).2)
  | _, _ => (testers, allow)

/-- What `checkPackets` does with one packet before it may hand it on: the answer is
    the final value of the flag, or the exception that ended the block. -/
def scrutinize (testers : Testers) (readings : Readings) (packet : DataPacket) :
    Testers × Except StdException Bool :=
  let future := testers.askFuture readings.future packet false
  match future.2 with
  | .error e => (future.1, .error e)
  | .ok allow =>
      let expired := future.1.askExpired readings.expired packet allow
      let duplicate := expired.1.askDuplicate readings.duplicate packet expired.2
      (duplicate.1, .ok duplicate.2)

/-- Every tester that is there returns true for the packet. -/
structure AllAllow (testers : Testers) (readings : Readings) (packet : DataPacket) : Prop where
  future : ∀ tester, testers.mFutureDataPacketTester = some tester →
    (tester.allow readings.future packet).2 = .ok true
  expired : ∀ tester, testers.mExpiredDataPacketTester = some tester →
    (tester.allow readings.expired packet).2 = true
  duplicate : ∀ tester, testers.mDuplicateDataPacketTester = some tester →
    (TestDuplicateDataPacket.allow tester readings.duplicate packet).2 = true

/-- The testers that are there are those that the options ask for. -/
structure EnabledBy (programOptions : ProgramOptions) (testers : Testers) : Prop where
  future : testers.mFutureDataPacketTester.isSome = true ↔ 0 ≤ programOptions.maximumFutureTime
  expired : testers.mExpiredDataPacketTester.isSome = true ↔ 0 < programOptions.maximumLatency
  duplicate : testers.mDuplicateDataPacketTester.isSome = true ↔
    0 < programOptions.circularBufferDuration

/-! ### What the chain answers -/

variable (testers : Testers) (readings : Readings) (packet : DataPacket)

theorem scrutinize_of_no_future (hnone : testers.mFutureDataPacketTester = none) :
    scrutinize testers readings packet = (testers, .ok false) := by
  simp [scrutinize, askFuture, hnone, askExpired, askDuplicate]

theorem askDuplicate_eq_true_iff (now : Int64) (allow : Bool) :
    (testers.askDuplicate now packet allow).2 = true ↔
      allow = true ∧ ∀ tester, testers.mDuplicateDataPacketTester = some tester →
        (TestDuplicateDataPacket.allow tester now packet).2 = true := by
  cases allow with
  | false => simp [askDuplicate]
  | true => cases hsome : testers.mDuplicateDataPacketTester <;> simp [askDuplicate, hsome]

theorem askExpired_eq_true_iff (now : Int64) (allow : Bool) :
    (testers.askExpired now packet allow).2 = true ↔
      allow = true ∧ ∀ tester, testers.mExpiredDataPacketTester = some tester →
        (tester.allow now packet).2 = true := by
  cases allow with
  | false => simp [askExpired]
  | true => cases hsome : testers.mExpiredDataPacketTester <;> simp [askExpired, hsome]

@[simp] theorem mDuplicateDataPacketTester_askExpired (now : Int64) (allow : Bool) :
    (testers.askExpired now packet allow).1.mDuplicateDataPacketTester =
      testers.mDuplicateDataPacketTester := by
  unfold askExpired
  split <;> rfl

/-- With a future tester, a packet is handed on exactly when all testers allow it. -/
theorem scrutinize_of_future {tester : TestFutureDataPacketImpl}
    (hsome : testers.mFutureDataPacketTester = some tester) :
    (scrutinize testers readings packet).2 = .ok true ↔ AllAllow testers readings packet := by
  unfold scrutinize
  simp only [askFuture, hsome]
  cases hfuture : (tester.allow readings.future packet).2 with
  | error e =>
    simp only [reduceCtorEq, false_iff]
    intro hall
    have := hall.future tester hsome
    rw [hfuture] at this
    cases this
  | ok allow =>
    simp only [Except.ok.injEq, askDuplicate_eq_true_iff, askExpired_eq_true_iff,
      mDuplicateDataPacketTester_askExpired]
    constructor
    · rintro ⟨⟨rfl, hexpired⟩, hduplicate⟩
      refine ⟨?_, hexpired, hduplicate⟩
      intro tester' hsome'
      rw [hsome, Option.some.injEq] at hsome'
      rw [← hsome', hfuture]
    · intro hall
      have := hall.future tester hsome
      rw [hfuture, Except.ok.injEq] at this
      exact ⟨⟨this, hall.expired⟩, hall.duplicate⟩

theorem allAllow_of_scrutinize (h : (scrutinize testers readings packet).2 = .ok true) :
    AllAllow testers readings packet := by
  cases hfuture : testers.mFutureDataPacketTester with
  | none => simp [scrutinize_of_no_future testers readings packet hfuture] at h
  | some tester => exact (scrutinize_of_future testers readings packet hfuture).mp h

theorem scrutinize_throws_iff :
    (∃ e, (scrutinize testers readings packet).2 = .error e) ↔
      testers.mFutureDataPacketTester.isSome = true ∧ ∃ e, packet.getEndTime = .error e := by
  unfold scrutinize
  cases hfuture : testers.mFutureDataPacketTester with
  | none => simp [askFuture, hfuture]
  | some tester =>
    simp only [askFuture, hfuture, TestFutureDataPacketImpl.allow]
    cases packet.getEndTime <;> simp

/-! ### The testers that the options ask for -/

theorem isSome_of_makeIf {α : Type} {enabled : Prop} [Decidable enabled]
    {make : Except StdException α} {tester : Option α} (h : makeIf enabled make = .ok tester) :
    tester.isSome = true ↔ enabled := by
  unfold makeIf at h
  by_cases henabled : enabled
  · rw [if_pos henabled] at h
    cases make with
    | error e => simp at h
    | ok made =>
      rw [map_ok, Except.ok.injEq] at h
      simp [← h, henabled]
  · rw [if_neg henabled, Except.ok.injEq] at h
    simp [← h, henabled]

theorem makeIf_ok {α : Type} (enabled : Prop) [Decidable enabled] (make : Except StdException α)
    (h : enabled → ∃ made, make = .ok made) : ∃ tester, makeIf enabled make = .ok tester := by
  unfold makeIf
  by_cases henabled : enabled
  · obtain ⟨made, hmade⟩ := h henabled
    exact ⟨some made, by simp [henabled, hmade]⟩
  · exact ⟨none, if_neg henabled⟩

theorem enabledBy_ofOptions {programOptions : ProgramOptions} {testers : Testers}
    (h : ofOptions programOptions = .ok testers) : testers.EnabledBy programOptions := by
  simp only [ofOptions, bind_eq_ok_iff, pure_eq_ok, Except.ok.injEq] at h
  obtain ⟨future, hfuture, expired, hexpired, duplicate, hduplicate, rfl⟩ := h
  exact ⟨isSome_of_makeIf hfuture, isSome_of_makeIf hexpired, isSome_of_makeIf hduplicate⟩

section EnabledBy

variable {programOptions : ProgramOptions} {testers : Testers}
  (h : testers.EnabledBy programOptions) (now : Int64) (packet : DataPacket) (allow : Bool)
include h

theorem enabledBy_askFuture :
    (testers.askFuture now packet allow).1.EnabledBy programOptions := by
  unfold askFuture
  cases hsome : testers.mFutureDataPacketTester with
  | none => exact h
  | some tester => exact ⟨by simpa [hsome] using h.future, h.expired, h.duplicate⟩

theorem enabledBy_askExpired :
    (testers.askExpired now packet allow).1.EnabledBy programOptions := by
  unfold askExpired
  split
  · next tester hsome => exact ⟨h.future, by simpa [hsome] using h.expired, h.duplicate⟩
  · exact h

theorem enabledBy_askDuplicate :
    (testers.askDuplicate now packet allow).1.EnabledBy programOptions := by
  unfold askDuplicate
  split
  · next tester hsome => exact ⟨h.future, h.expired, by simpa [hsome] using h.duplicate⟩
  · exact h

theorem enabledBy_scrutinize (readings : Readings) :
    (scrutinize testers readings packet).1.EnabledBy programOptions := by
  have hfuture := enabledBy_askFuture h readings.future packet false
  unfold scrutinize
  dsimp only
  split
  · exact hfuture
  · exact enabledBy_askDuplicate (enabledBy_askExpired hfuture _ _ _) _ _ _

end EnabledBy

theorem latency_pos {latency : Int32} (h : latency.toInt64 > 0) :
    0 < latency.toInt64 * 1000000 := by
  have hhigh := latency.toInt_lt
  have hmicro : (1000000 : Int64).toInt = 1000000 := by decide
  rw [gt_iff_lt, Int64.lt_iff_toInt_lt, Int32.toInt_toInt64, Int64.toInt_zero] at h
  rw [Int64.lt_iff_toInt_lt, Int64.toInt_mul, Int32.toInt_toInt64, hmicro, Int64.toInt_zero,
    Int.bmod_eq_of_le (by omega) (by omega)]
  omega

/-- The constructor makes the testers for all options that a file can hold. -/
theorem ofOptions_of_parseIniFile {iniFile : Option (Except StdException PropertyTree)}
    {programOptions : ProgramOptions} (h : parseIniFile iniFile = .ok programOptions) :
    ∃ testers, ofOptions programOptions = .ok testers := by
  have hlatency : ∃ latency : Int32, programOptions.maximumLatency = latency.toInt64 := by
    cases iniFile with
    | none =>
      simp only [parseIniFile, Except.ok.injEq] at h
      exact ⟨120, by rw [← h]; decide⟩
    | some parsed =>
      simp only [parseIniFile, bind_eq_ok_iff, pure_eq_ok, Except.ok.injEq] at h
      obtain ⟨propertyTree, -, _, -, _, -, rfl⟩ := h
      exact ⟨_, rfl⟩
  obtain ⟨latency, hlatency⟩ := hlatency
  obtain ⟨future, hfuture⟩ := makeIf_ok (programOptions.maximumFutureTime ≥ 0) _
    fun _ => ⟨TestFutureDataPacketImpl.new (programOptions.maximumFutureTime * 1000)
        programOptions.logBadDataInterval, rfl⟩
  obtain ⟨expired, hexpired⟩ := makeIf_ok (programOptions.maximumLatency > 0) _
    fun hpos => TestExpiredDataPacketImpl.new_ok (hlatency ▸ latency_pos (hlatency ▸ hpos))
      programOptions.logBadDataInterval
  obtain ⟨duplicate, hduplicate⟩ := makeIf_ok (programOptions.circularBufferDuration > 0) _
    fun hpos => TestDuplicateDataPacketImpl.ofDuration_ok hpos programOptions.logBadDataInterval
  exact ⟨⟨future, expired, duplicate⟩, by simp [ofOptions, hfuture, hexpired, hduplicate]⟩

end Testers

def testerChain : Machine Testers (Readings × DataPacket) (Except StdException Bool) where
  step testers call := testers.scrutinize call.1 call.2

theorem enabledBy_after {programOptions : ProgramOptions} {testers : Testers}
    (h : Testers.ofOptions programOptions = .ok testers) (calls : List (Readings × DataPacket)) :
    (testerChain.after testers calls).EnabledBy programOptions :=
  testerChain.after_invariant (I := Testers.EnabledBy programOptions)
    (fun _ call h => Testers.enabledBy_scrutinize h call.2 call.1)
    (Testers.enabledBy_ofOptions h) calls

/-! ### Which configurations work -/

/-- In this configuration the chain does what it is for: whatever state its testers
    are in and whatever they read from the clock, a packet is handed on if and only if
    every tester that is there allows it. -/
def ChainCorrect (programOptions : ProgramOptions) : Prop :=
  ∀ testers : Testers, testers.EnabledBy programOptions →
    ∀ (readings : Readings) (packet : DataPacket),
      (testers.scrutinize readings packet).2 = .ok true ↔ testers.AllAllow readings packet

def defaultExpired : TestExpiredDataPacketImpl :=
  ⟨120000000, .ofInterval 60, TestExpiredDataPacketImpl.defaultLatency_pos⟩

def defaultDuplicate : TestDuplicateDataPacketImpl :=
  .fresh
    { mCircularBufferDuration := 120
      mLogBadDataInterval := 60
      mEstimateCapacity := true
      size_pos := defaultSize_pos }

def silentTesters (programOptions : ProgramOptions) : Testers where
  mExpiredDataPacketTester :=
    if programOptions.maximumLatency > 0 then some defaultExpired else none
  mDuplicateDataPacketTester :=
    if programOptions.circularBufferDuration > 0 then some defaultDuplicate else none

theorem silentTesters_enabledBy {programOptions : ProgramOptions}
    (h : ¬ 0 ≤ programOptions.maximumFutureTime) :
    (silentTesters programOptions).EnabledBy programOptions := by
  refine ⟨by simp [silentTesters, h], ?_, ?_⟩
  · by_cases hpos : programOptions.maximumLatency > 0 <;> simp [silentTesters, hpos]
  · by_cases hpos : programOptions.circularBufferDuration > 0 <;> simp [silentTesters, hpos]

theorem silentTesters_allAllow (programOptions : ProgramOptions) :
    (silentTesters programOptions).AllAllow ⟨0, 0, 0⟩ (.forkPacket (.double [.finite 1])) := by
  constructor
  · intro tester hsome
    cases hsome
  · intro tester hsome
    by_cases hpos : programOptions.maximumLatency > 0
    · simp only [silentTesters, if_pos hpos, Option.some.injEq] at hsome
      subst hsome
      decide +kernel
    · simp [silentTesters, hpos] at hsome
  · intro tester hsome
    by_cases hpos : programOptions.circularBufferDuration > 0
    · simp only [silentTesters, if_pos hpos, Option.some.injEq] at hsome
      subst hsome
      decide +kernel
    · simp [silentTesters, hpos] at hsome

/-- **The chain works exactly with a future tester.** -/
theorem chain_correct_iff (programOptions : ProgramOptions) :
    ChainCorrect programOptions ↔ 0 ≤ programOptions.maximumFutureTime := by
  constructor
  · intro hcorrect
    by_contra hnegative
    have hchain := hcorrect _ (silentTesters_enabledBy hnegative) ⟨0, 0, 0⟩
      (.forkPacket (.double [.finite 1]))
    rw [Testers.scrutinize_of_no_future _ _ _ rfl] at hchain
    have hhanded := hchain.mpr (silentTesters_allAllow programOptions)
    simp at hhanded
  · intro hfuture testers henabled readings packet
    obtain ⟨tester, hsome⟩ := Option.isSome_iff_exists.mp (henabled.future.mpr hfuture)
    exact testers.scrutinize_of_future readings packet hsome

/-- A file that switches the future tester off and leaves the rest as it is. -/
def noFutureFile : PropertyTree where
  getString _ := none
  getInt path := if path = "Sanitizer.maximumFutureTimeInMilliSeconds" then some (-1) else none

def noFutureTesters : Testers where
  mExpiredDataPacketTester := some defaultExpired
  mDuplicateDataPacketTester := some defaultDuplicate

/-- With that file, a packet that both remaining testers allow is not handed on. -/
theorem chain_without_future_tester_drops :
    ∃ programOptions, parseIniFile (some (.ok noFutureFile)) = .ok programOptions ∧
      Testers.ofOptions programOptions = .ok noFutureTesters ∧
      noFutureTesters.AllAllow ⟨0, 0, 0⟩ (.forkPacket (.double [.finite 1])) ∧
      (noFutureTesters.scrutinize ⟨0, 0, 0⟩ (.forkPacket (.double [.finite 1]))).2 = .ok false := by
  refine ⟨{ maximumFutureTime := -1 }, by decide +kernel, by rfl, ⟨?_, ?_, ?_⟩, by decide +kernel⟩
  · intro tester hsome
    cases hsome
  · intro tester hsome
    cases hsome
    decide +kernel
  · intro tester hsome
    cases hsome
    decide +kernel

end Us8
