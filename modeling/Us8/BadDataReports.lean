/-
  Us8/BadDataReports.lean
  =======================
  **What the testers log about the packets they reject** (`logBadData` and `allow` of
  `testFutureDataPacket.cpp`, `testExpiredDataPacket.cpp` and `testDuplicateDataPacket.cpp`).

  Each tester keeps the channels it has flagged and writes them all in one message, at most
  once an interval.  The duplicate tester has two kinds of flags, duplicates and bad timing,
  and one time of the last message for both.

  The calls of a tester are numbered here, each with its clock reading, and what they flag
  and write is a `Journal`: `futureJournal`, `expiredJournal` and `duplicateJournal`.  A flag
  is read off the verdict on the packet and not off the tester's set of flagged channels.
-/
import Us8.DuplicateTester
import Us8.FlagJournal

namespace Us8

/-! ### The time of the last message -/

/-- The interval and the time of the last message, in seconds: their sum does not wrap
    around, for nothing has been logged yet or an interval has passed since the epoch. -/
structure LogTimes (mLogBadDataInterval mLastLogTime : Int64) : Prop where
  interval_nonneg : 0 ≤ mLogBadDataInterval.toInt
  last_nonneg : 0 ≤ mLastLogTime.toInt
  last_le : mLastLogTime.toInt ≤ 2 ^ 63 / 1000000
  interval_le : mLastLogTime.toInt = 0 ∨ mLogBadDataInterval.toInt ≤ mLastLogTime.toInt

namespace LogTimes

variable {mLogBadDataInterval mLastLogTime : Int64}

theorem start (h : 0 ≤ mLogBadDataInterval) : LogTimes mLogBadDataInterval 0 where
  interval_nonneg := by simpa [Int64.le_iff_toInt_le] using h
  last_nonneg := le_refl 0
  last_le := by decide
  interval_le := Or.inl rfl

theorem toInt_add (h : LogTimes mLogBadDataInterval mLastLogTime) :
    (mLastLogTime + mLogBadDataInterval).toInt =
      mLastLogTime.toInt + mLogBadDataInterval.toInt := by
  have hinterval := h.interval_nonneg
  have hlast := h.last_nonneg
  have hle := h.last_le
  have hlt := mLogBadDataInterval.toInt_lt
  rw [Int64.toInt_add, Int.bmod_def]
  rcases h.interval_le with hzero | hpassed
  · omega
  · omega

theorem due_iff (h : LogTimes mLogBadDataInterval mLastLogTime) (nowSeconds : Int64) :
    nowSeconds ≥ mLastLogTime + mLogBadDataInterval ↔
      mLastLogTime.toInt + mLogBadDataInterval.toInt ≤ nowSeconds.toInt := by
  rw [ge_iff_le, Int64.le_iff_toInt_le, h.toInt_add]

theorem seconds_le (now : Int64) : (now / 1000000).toInt ≤ 2 ^ 63 / 1000000 := by
  have hle : now.toInt ≤ 2 ^ 63 := now.toInt_lt.le
  rw [Int64.toInt_div_of_ne_right _ _ (by decide)]
  exact Int.tdiv_le_tdiv (by decide) hle

theorem next (h : LogTimes mLogBadDataInterval mLastLogTime) {now : Int64}
    (hdue : now / 1000000 ≥ mLastLogTime + mLogBadDataInterval) :
    LogTimes mLogBadDataInterval (now / 1000000) := by
  have hinterval := h.interval_nonneg
  have hlast := h.last_nonneg
  have hwaited := (h.due_iff _).mp hdue
  exact ⟨hinterval, by omega, seconds_le now, Or.inr (by omega)⟩

end LogTimes

/-- The messages of a kind among those that have been added to the log. -/
def newMessages (heading : String) (before after : List LogMessage) : List (Set String) :=
  ((after.drop before.length).filter fun message => message.heading = heading).map
    fun message => (message.channels : Set String)

@[simp] theorem newMessages_same (heading : String) (logged : List LogMessage) :
    newMessages heading logged logged = [] := by
  simp [newMessages]

@[simp] theorem newMessages_append (heading : String) (logged added : List LogMessage) :
    newMessages heading logged (logged ++ added) =
      (added.filter fun message => message.heading = heading).map
        fun message => (message.channels : Set String) := by
  simp [newMessages]

/-! ### The log of the future tester and of the expired tester -/

theorem toName_ne_empty {packet : DataPacket} {name : String} (h : toName packet = .ok name) :
    name.isEmpty = false := by
  simp only [toName, bind_eq_ok_iff, pure_eq_ok, Except.ok.injEq] at h
  obtain ⟨network, -, station, -, channel, -, rfl⟩ := h
  split_ifs <;> simp

namespace BadDataLog

/-- The channels that a verdict flags. -/
def badChannels (allow : Bool) (packet : DataPacket) : Finset String :=
  if (badName allow packet).isEmpty then ∅ else {badName allow packet}

theorem mem_badChannels_iff {allow : Bool} {packet : DataPacket} {name : String} :
    name ∈ badChannels allow packet ↔ allow = false ∧ toName packet = .ok name := by
  unfold badChannels badName
  cases allow with
  | true => simp
  | false =>
    cases hname : toName packet with
    | error e => simp
    | ok name' => simp [toName_ne_empty hname, eq_comm]

/-- What `logBadData` does where logging is on: it keeps the flags or writes them. -/
theorem logBadData_cases (heading : String) {log : BadDataLog} (hon : log.mLogBadData = true)
    (allow : Bool) (packet : DataPacket) (nowMuSec : Int64) :
    (log.logBadData heading allow packet nowMuSec =
        { log with mChannels := log.mChannels ∪ badChannels allow packet } ∧
      (nowMuSec / 1000000 ≥ log.mLastLogTime + log.mLogBadDataInterval →
        log.mChannels ∪ badChannels allow packet = ∅)) ∨
      (nowMuSec / 1000000 ≥ log.mLastLogTime + log.mLogBadDataInterval ∧
        log.logBadData heading allow packet nowMuSec =
          { log with
            logged := log.logged ++ [⟨heading, log.mChannels ∪ badChannels allow packet⟩]
            mChannels := ∅
            mLastLogTime := nowMuSec / 1000000 }) := by
  have hchannels : (if (badName allow packet).isEmpty then log
      else { log with mChannels := insert (badName allow packet) log.mChannels }) =
        { log with mChannels := log.mChannels ∪ badChannels allow packet } := by
    unfold badChannels
    split_ifs
    · simp
    · rw [Finset.union_singleton]
  unfold logBadData
  rw [if_neg (by simp [hon])]
  dsimp only
  rw [hchannels]
  split_ifs with hdue hnone
  · exact Or.inl ⟨rfl, fun _ => hnone⟩
  · exact Or.inr ⟨hdue, rfl⟩
  · exact Or.inl ⟨rfl, fun h => absurd h hdue⟩

/-- The log is on, with this interval. -/
structure Running (logBadDataInterval : Int64) (log : BadDataLog) : Prop where
  on : log.mLogBadData = true
  interval : log.mLogBadDataInterval = logBadDataInterval
  times : LogTimes logBadDataInterval log.mLastLogTime

theorem running_ofInterval {logBadDataInterval : Int64} (h : 0 ≤ logBadDataInterval) :
    (ofInterval logBadDataInterval).Running logBadDataInterval where
  on := by simpa [ofInterval] using h
  interval := rfl
  times := LogTimes.start h

section Calls

variable (heading : String) (calls : Nat → Int64 × DataPacket) (logs rejects : Nat → Prop)
  (log : Nat → BadDataLog)

/-- What is seen of the calls of a tester with such a log: `logs` are those that do not throw,
    `rejects` those that do not let the packet pass, and `log` is the log before each. -/
def journal : Journal Unit String where
  time n := ((calls n).1 / 1000000).toInt
  logs := logs
  flagged n _ := {name | rejects n ∧ toName (calls n).2 = .ok name}
  messages n _ := newMessages heading (log n).logged (log (n + 1)).logged
  pending n _ := (log n).mChannels

/-- A call that throws logs nothing, every other one its verdict. -/
def LogsVerdicts : Prop :=
  ∀ n, (log (n + 1) = log n ∧ ¬ logs n ∧ ¬ rejects n) ∨
    ∃ allow : Bool, (rejects n ↔ allow = false) ∧
      log (n + 1) = (log n).logBadData heading allow (calls n).2 (calls n).1

variable {heading calls logs rejects log} {logBadDataInterval : Int64}

/-- One call: its flags are kept, or written with all others. -/
theorem LogsVerdicts.cases (h : LogsVerdicts heading calls logs rejects log) {n : Nat}
    (hon : (log n).mLogBadData = true) :
    ∃ flags : Finset String,
      (flags : Set String) = (journal heading calls logs rejects log).flagged n () ∧
      ((log (n + 1) = { log n with mChannels := (log n).mChannels ∪ flags } ∧
          (logs n → (calls n).1 / 1000000 ≥ (log n).mLastLogTime + (log n).mLogBadDataInterval →
            (log n).mChannels ∪ flags = ∅)) ∨
        ((calls n).1 / 1000000 ≥ (log n).mLastLogTime + (log n).mLogBadDataInterval ∧
          log (n + 1) =
            { log n with
              logged := (log n).logged ++ [⟨heading, (log n).mChannels ∪ flags⟩]
              mChannels := ∅
              mLastLogTime := (calls n).1 / 1000000 })) := by
  rcases h n with ⟨hsame, hthrows, hpasses⟩ | ⟨allow, hrejects, hlog⟩
  · refine ⟨∅, ?_, Or.inl ⟨?_, fun hlogs => absurd hlogs hthrows⟩⟩
    · ext name
      simp [journal, hpasses]
    · rw [hsame, Finset.union_empty]
  · refine ⟨badChannels allow (calls n).2, ?_, ?_⟩
    · ext name
      simp [journal, mem_badChannels_iff, hrejects]
    · rw [hlog]
      rcases logBadData_cases heading hon allow (calls n).2 (calls n).1 with
        ⟨hkept, hnothing⟩ | hwritten
      · exact Or.inl ⟨hkept, fun _ => hnothing⟩
      · exact Or.inr hwritten

theorem LogsVerdicts.running (h : LogsVerdicts heading calls logs rejects log)
    (hstart : (log 0).Running logBadDataInterval) (n : Nat) :
    (log n).Running logBadDataInterval := by
  induction n with
  | zero => exact hstart
  | succ n ih =>
    obtain ⟨flags, -, ⟨hkept, -⟩ | ⟨hdue, hwritten⟩⟩ := h.cases ih.on
    · rw [hkept]
      exact ⟨ih.on, ih.interval, ih.times⟩
    · rw [hwritten]
      rw [ih.interval] at hdue
      exact ⟨ih.on, ih.interval, ih.times.next hdue⟩

theorem LogsVerdicts.collects (h : LogsVerdicts heading calls logs rejects log)
    (hstart : (log 0).Running logBadDataInterval) (hnone : (log 0).mChannels = ∅)
    (hepoch : (log 0).mLastLogTime = 0) :
    (journal heading calls logs rejects log).Collects logBadDataInterval.toInt
      fun n => (log n).mLastLogTime.toInt where
  start := by
    intro kind
    simp [journal, hnone]
  epoch := by rw [hepoch, Int64.toInt_zero]
  call := by
    intro n
    have hrunning := h.running hstart n
    obtain ⟨flags, hflags, ⟨hkept, hnothing⟩ | ⟨hdue, hwritten⟩⟩ := h.cases hrunning.on
    · refine .kept ?_ ?_ ?_ ?_
      · intro kind
        simp [journal, hkept]
      · intro kind
        rw [← hflags]
        simp [journal, hkept]
      · rw [hkept]
      · intro hlogs hdue kind
        rw [← hflags]
        rw [hrunning.interval] at hnothing
        have hempty := hnothing hlogs ((hrunning.times.due_iff _).mpr hdue)
        exact (Finset.coe_union _ _).symm.trans (by rw [hempty, Finset.coe_empty])
    · rw [hrunning.interval] at hdue
      have hmessages : (journal heading calls logs rejects log).messages n () =
          [(journal heading calls logs rejects log).pending n () ∪ flags] := by
        simp [journal, hwritten]
      refine .written ((hrunning.times.due_iff _).mp hdue) ⟨(), by simp [hmessages]⟩ ?_ ?_ ?_
      · intro kind
        rw [← hflags]
        exact Or.inl hmessages
      · intro kind
        simp [journal, hwritten]
      · rw [hwritten]
        rfl

/-- A fresh log that gets all verdicts reports all rejections. -/
theorem LogsVerdicts.reports (h : LogsVerdicts heading calls logs rejects log)
    (hstart : log 0 = .ofInterval logBadDataInterval) (hinterval : 0 ≤ logBadDataInterval) :
    (journal heading calls logs rejects log).Reports logBadDataInterval.toInt := by
  have hrunning : (log 0).Running logBadDataInterval := by
    rw [hstart]
    exact running_ofInterval hinterval
  have hnone : (log 0).mChannels = ∅ := by
    rw [hstart]
    rfl
  have hepoch : (log 0).mLastLogTime = 0 := by
    rw [hstart]
    rfl
  exact Journal.reports_of_collects (h.collects hrunning hnone hepoch)
    hrunning.times.interval_nonneg

end Calls

end BadDataLog

/-! ### The two testers that compare with the clock -/

def futureTester :
    Machine TestFutureDataPacketImpl (Int64 × DataPacket) (Except StdException Bool) where
  step impl call := impl.allow call.1 call.2

def expiredTester : Machine TestExpiredDataPacketImpl (Int64 × DataPacket) Bool where
  step impl call := impl.allow call.1 call.2

def futureJournal (impl : TestFutureDataPacketImpl) (calls : Nat → Int64 × DataPacket) :
    Journal Unit String :=
  BadDataLog.journal "Future data detected for: " calls
    (fun n => ∃ allow, futureTester.outputAt impl calls n = .ok allow)
    (fun n => futureTester.outputAt impl calls n = .ok false)
    (fun n => (futureTester.stateAt impl calls n).log)

def expiredJournal (impl : TestExpiredDataPacketImpl) (calls : Nat → Int64 × DataPacket) :
    Journal Unit String :=
  BadDataLog.journal "Expired data detected for: " calls (fun _ => True)
    (fun n => expiredTester.outputAt impl calls n = false)
    (fun n => (expiredTester.stateAt impl calls n).log)

theorem reports_futureJournal {impl : TestFutureDataPacketImpl} {logBadDataInterval : Int64}
    (hfresh : impl.log = .ofInterval logBadDataInterval) (hinterval : 0 ≤ logBadDataInterval)
    (calls : Nat → Int64 × DataPacket) :
    (futureJournal impl calls).Reports logBadDataInterval.toInt := by
  refine BadDataLog.LogsVerdicts.reports ?_ hfresh hinterval
  intro n
  simp only [Machine.outputAt, Machine.stateAt]
  generalize futureTester.stateAt impl calls n = before
  simp only [futureTester, TestFutureDataPacketImpl.allow]
  cases (calls n).2.getEndTime with
  | error e => exact Or.inl ⟨rfl, by simp, by simp⟩
  | ok packetEndTime =>
    refine Or.inr ⟨decide (packetEndTime ≤ (calls n).1 + before.mMaxFutureTime), ?_, rfl⟩
    exact ⟨Except.ok.inj, congrArg Except.ok⟩

theorem reports_expiredJournal {impl : TestExpiredDataPacketImpl} {logBadDataInterval : Int64}
    (hfresh : impl.log = .ofInterval logBadDataInterval) (hinterval : 0 ≤ logBadDataInterval)
    (calls : Nat → Int64 × DataPacket) :
    (expiredJournal impl calls).Reports logBadDataInterval.toInt := by
  refine BadDataLog.LogsVerdicts.reports ?_ hfresh hinterval
  intro n
  exact Or.inr ⟨_, Iff.rfl, rfl⟩

/-! ### The duplicate tester -/

inductive DuplicateKind where
  | duplicate
  | badTiming
deriving DecidableEq

def DuplicateKind.heading : DuplicateKind → String
  | .duplicate => "Duplicate packets detected for:"
  | .badTiming => "Bad timing detected for:"

namespace TestDuplicateDataPacketImpl

def channels (impl : TestDuplicateDataPacketImpl) : DuplicateKind → Finset String
  | .duplicate => impl.mDuplicateChannels
  | .badTiming => impl.mBadTimingChannels

def pending (impl : TestDuplicateDataPacketImpl) (kind : DuplicateKind) : Set String :=
  impl.channels kind

/-- The header matches one that is retained, or it matches none, lies neither behind nor
    before all of them, and begins or ends inside one. -/
def Detects (impl : TestDuplicateDataPacketImpl) (header : DataPacketHeader) :
    DuplicateKind → Prop
  | .duplicate => ∃ buffer, impl.mCircularBuffers header.name = some buffer ∧
      header.find buffer.items = .ok true
  | .badTiming => ∃ buffer, impl.mCircularBuffers header.name = some buffer ∧
      header.find buffer.items = .ok false ∧ ¬ buffer.back.endTime < header.startTime ∧
      ¬ header.endTime < buffer.front.startTime ∧
      ∃ g ∈ buffer.items, header.slips g = true

variable {impl : TestDuplicateDataPacketImpl} {header : DataPacketHeader}

/-- `allow` flags the channel of the header for what it detects, and nothing else. -/
theorem mem_channels_allow (hon : impl.mLogBadData = true) (kind : DuplicateKind)
    (name : String) :
    name ∈ (impl.allow header).1.channels kind ↔
      name ∈ impl.channels kind ∨ header.name = name ∧ impl.Detects header kind := by
  have hcase := impl.allow_case header
  generalize (impl.allow header).1 = after at hcase ⊢
  generalize (impl.allow header).2 = answer at hcase
  cases hcase with
  | created hnone => cases kind <;> simp [channels, store, Detects, hnone]
  | overflowed hnone => cases kind <;> simp [Detects, hnone]
  | threw buffer hsome e hfind => cases kind <;> simp [Detects, hsome, hfind]
  | duplicate buffer hsome hfind =>
    cases kind with
    | duplicate => simp [channels, flagDuplicate, hon, Detects, hsome, hfind, or_comm, eq_comm]
    | badTiming => simp [channels, flagDuplicate, hon, Detects, hsome, hfind]
  | appended buffer hsome hfind hback =>
    cases kind <;> simp [channels, store, Detects, hsome, hfind, hback]
  | expired buffer hsome hfind hback hfront hfull =>
    cases kind <;> simp [Detects, hsome, hfind, hfront]
  | prepended buffer hsome hfind hback hfront hroom =>
    cases kind <;> simp [channels, store, Detects, hsome, hfind, hfront]
  | slipped buffer hsome hfind hback hfront hslips =>
    have hdetects : impl.Detects header .badTiming := ⟨buffer, hsome, hfind, hback, hfront, hslips⟩
    cases kind with
    | duplicate => simp [channels, flagBadTiming, hon, Detects, hsome, hfind]
    | badTiming => simp [channels, flagBadTiming, hon, hdetects, or_comm, eq_comm]
  | backfilled buffer hsome hfind hback hfront hslips =>
    have hdetects : ¬ impl.Detects header .badTiming := by
      rintro ⟨buffer', hsome', -, -, -, g, hg, hslip⟩
      obtain rfl : buffer = buffer' := Option.some.inj (hsome.symm.trans hsome')
      exact absurd hslip (by simp [hslips g hg])
    cases kind with
    | duplicate => simp [channels, store, Detects, hsome, hfind]
    | badTiming => simp [channels, store, hdetects]

/-- The check itself writes nothing. -/
theorem log_allow (impl : TestDuplicateDataPacketImpl) (header : DataPacketHeader) :
    (impl.allow header).1.logged = impl.logged ∧
      (impl.allow header).1.mLastLogTime = impl.mLastLogTime := by
  have hcase := impl.allow_case header
  generalize (impl.allow header).1 = after at hcase ⊢
  generalize (impl.allow header).2 = answer at hcase
  cases hcase with
  | duplicate => unfold flagDuplicate; split_ifs <;> exact ⟨rfl, rfl⟩
  | slipped => unfold flagBadTiming; split_ifs <;> exact ⟨rfl, rfl⟩
  | _ => exact ⟨rfl, rfl⟩

/-- The message of a kind, where there is something to write. -/
def message (impl : TestDuplicateDataPacketImpl) (kind : DuplicateKind) : List LogMessage :=
  if impl.channels kind = ∅ then [] else [⟨kind.heading, impl.channels kind⟩]

/-- What `logBadData` does where logging is on: nothing before a message is due, and then it
    empties both sets. -/
theorem logBadData_cases (hon : impl.mLogBadData = true) (now : Int64) :
    (impl.logBadData now = impl ∧
      ¬ now / 1000000 ≥ impl.mLastLogTime + impl.mLogBadDataInterval) ∨
    (now / 1000000 ≥ impl.mLastLogTime + impl.mLogBadDataInterval ∧
      (∀ kind, (impl.logBadData now).channels kind = ∅) ∧
      (impl.logBadData now).logged =
        impl.logged ++ (impl.message .duplicate ++ impl.message .badTiming) ∧
      (impl.logBadData now).mLastLogTime =
        if impl.message .duplicate ++ impl.message .badTiming = [] then impl.mLastLogTime
        else now / 1000000) := by
  unfold logBadData
  rw [if_neg (by simp [hon])]
  dsimp only
  by_cases hdue : now / 1000000 ≥ impl.mLastLogTime + impl.mLogBadDataInterval
  · rw [if_pos hdue]
    refine Or.inr ⟨hdue, ?_⟩
    by_cases hduplicate : impl.mDuplicateChannels = ∅ <;>
      by_cases hbadTiming : impl.mBadTimingChannels = ∅
    all_goals
      simp only [hduplicate, hbadTiming, if_true, if_false, message, channels]
      refine ⟨?_, ?_, ?_⟩
      · rintro (_ | _) <;> rfl
      · simp [DuplicateKind.heading]
      · simp
  · rw [if_neg hdue]
    exact Or.inl ⟨rfl, hdue⟩

/-- The tester is on, with this interval. -/
structure Running (logBadDataInterval : Int64) (impl : TestDuplicateDataPacketImpl) : Prop where
  on : impl.mLogBadData = true
  interval : impl.mLogBadDataInterval = logBadDataInterval
  times : LogTimes logBadDataInterval impl.mLastLogTime

/-- What the three constructors make, with the interval. -/
inductive Constructed : TestDuplicateDataPacketImpl → Int64 → Prop where
  | default : Constructed (fresh { size_pos := defaultSize_pos }) 3600
  | ofSize {circularBufferSize : Int32} {logBadDataInterval : Int64}
      {impl : TestDuplicateDataPacketImpl}
      (h : ofSize circularBufferSize logBadDataInterval = .ok impl) :
      Constructed impl logBadDataInterval
  | ofDuration {circularBufferDuration logBadDataInterval : Int64}
      {impl : TestDuplicateDataPacketImpl}
      (h : ofDuration circularBufferDuration logBadDataInterval = .ok impl) :
      Constructed impl logBadDataInterval

theorem Constructed.fresh {impl : TestDuplicateDataPacketImpl} {logBadDataInterval : Int64}
    (h : Constructed impl logBadDataInterval) (hinterval : 0 ≤ logBadDataInterval) :
    impl.Running logBadDataInterval ∧ (∀ kind, impl.channels kind = ∅) ∧
      impl.mLastLogTime = 0 := by
  have htimes := LogTimes.start hinterval
  cases h with
  | default => exact ⟨⟨rfl, rfl, htimes⟩, fun kind => by cases kind <;> rfl, rfl⟩
  | ofSize h =>
    unfold TestDuplicateDataPacketImpl.ofSize at h
    split_ifs at h
    obtain rfl := Except.ok.inj h
    exact ⟨⟨decide_eq_true hinterval, rfl, htimes⟩, fun kind => by cases kind <;> rfl, rfl⟩
  | ofDuration h =>
    unfold TestDuplicateDataPacketImpl.ofDuration at h
    split_ifs at h
    obtain rfl := Except.ok.inj h
    exact ⟨⟨decide_eq_true hinterval, rfl, htimes⟩, fun kind => by cases kind <;> rfl, rfl⟩

/-- What a call flags; a packet without a header is not looked at. -/
def flags (impl : TestDuplicateDataPacketImpl) (packet : DataPacket) (kind : DuplicateKind) :
    Set String :=
  {name | ∃ header, DataPacketHeader.ofPacket packet = .ok header ∧ header.name = name ∧
    impl.Detects header kind}

/-- The state between the check of a packet and the logging. -/
structure Checked (impl : TestDuplicateDataPacketImpl) (packet : DataPacket)
    (checked : TestDuplicateDataPacketImpl) : Prop where
  settings : checked.toDuplicateSettings = impl.toDuplicateSettings
  logged : checked.logged = impl.logged
  lastLogTime : checked.mLastLogTime = impl.mLastLogTime
  pending : ∀ kind, checked.pending kind = impl.pending kind ∪ impl.flags packet kind

/-- A call checks the packet; then it logs, unless the packet has no header. -/
theorem exists_checked (hon : impl.mLogBadData = true) (now : Int64) (packet : DataPacket) :
    ∃ checked, impl.Checked packet checked ∧
      (((TestDuplicateDataPacket.allow impl now packet).1 = checked ∧
          ¬ ∃ header, DataPacketHeader.ofPacket packet = .ok header) ∨
        (TestDuplicateDataPacket.allow impl now packet).1 = checked.logBadData now) := by
  cases hheader : DataPacketHeader.ofPacket packet with
  | error e =>
    refine ⟨impl, ⟨rfl, rfl, rfl, ?_⟩, Or.inl ?_⟩
    · intro kind
      simp [flags, hheader]
    · simp [TestDuplicateDataPacket.allow, hheader]
  | ok header =>
    obtain ⟨hlogged, hlast⟩ := impl.log_allow header
    refine ⟨(impl.allow header).1, ⟨impl.toDuplicateSettings_allow header, hlogged, hlast, ?_⟩,
      Or.inr ?_⟩
    · intro kind
      ext name
      have hname := @mem_channels_allow impl header hon kind name
      simpa [pending, flags, hheader] using hname
    · exact (TestDuplicateDataPacket.allow_of_header hheader impl now).1

theorem message_eq_nil_iff (kind : DuplicateKind) :
    impl.message kind = [] ↔ impl.channels kind = ∅ := by
  unfold message
  split_ifs with hnone <;> simp [hnone]

theorem messages_eq_nil_iff :
    impl.message .duplicate ++ impl.message .badTiming = [] ↔
      ∀ kind, impl.channels kind = ∅ := by
  rw [List.append_eq_nil_iff, message_eq_nil_iff, message_eq_nil_iff]
  constructor
  · rintro ⟨hduplicate, hbadTiming⟩ (_ | _)
    · exact hduplicate
    · exact hbadTiming
  · exact fun hnone => ⟨hnone .duplicate, hnone .badTiming⟩

/-- Of what is written together, the messages of one kind. -/
theorem newMessages_message (logged : List LogMessage) (kind : DuplicateKind) :
    newMessages kind.heading logged
        (logged ++ (impl.message .duplicate ++ impl.message .badTiming)) =
      if impl.channels kind = ∅ then [] else [impl.pending kind] := by
  rw [newMessages_append]
  cases kind <;> by_cases hduplicate : impl.channels .duplicate = ∅ <;>
    by_cases hbadTiming : impl.channels .badTiming = ∅ <;>
    simp [message, DuplicateKind.heading, hduplicate, hbadTiming, pending]

/-- One call of a tester that is on: what was pending and what it flags are kept, or a
    message is due and all of it is written. -/
theorem call_cases {logBadDataInterval : Int64} (h : impl.Running logBadDataInterval)
    (now : Int64) (packet : DataPacket) :
    let after := (TestDuplicateDataPacket.allow impl now packet).1
    after.toDuplicateSettings = impl.toDuplicateSettings ∧
    ∃ checked, impl.Checked packet checked ∧
      (after.logged = impl.logged ∧ after.mLastLogTime = impl.mLastLogTime ∧
        (∀ kind, after.pending kind = checked.pending kind) ∧
        ((∃ header, DataPacketHeader.ofPacket packet = .ok header) →
          ¬ now / 1000000 ≥ impl.mLastLogTime + logBadDataInterval) ∨
      now / 1000000 ≥ impl.mLastLogTime + logBadDataInterval ∧
        (∀ kind, after.pending kind = ∅) ∧
        after.logged = impl.logged ++ (checked.message .duplicate ++ checked.message .badTiming) ∧
        after.mLastLogTime =
          if checked.message .duplicate ++ checked.message .badTiming = [] then impl.mLastLogTime
          else now / 1000000) := by
  intro after
  obtain ⟨checked, hchecked, ⟨hsame, hnoHeader⟩ | hlogs⟩ := exists_checked h.on now packet
  · have hafter : after = checked := hsame
    rw [hafter]
    exact ⟨hchecked.settings, checked, hchecked, Or.inl ⟨hchecked.logged, hchecked.lastLogTime,
      fun _ => rfl, fun hheader => absurd hheader hnoHeader⟩⟩
  · have hafter : after = checked.logBadData now := hlogs
    have hon : checked.mLogBadData = true := by rw [hchecked.settings, h.on]
    have hinterval : checked.mLogBadDataInterval = logBadDataInterval := by
      rw [hchecked.settings, h.interval]
    rw [hafter, toDuplicateSettings_logBadData]
    refine ⟨hchecked.settings, checked, hchecked, ?_⟩
    rcases logBadData_cases hon now with ⟨hquiet, hearly⟩ | ⟨hdue, hnone, hlogged, hlast⟩
    · rw [hchecked.lastLogTime, hinterval] at hearly
      rw [hquiet]
      exact Or.inl ⟨hchecked.logged, hchecked.lastLogTime, fun _ => rfl, fun _ => hearly⟩
    · rw [hchecked.lastLogTime, hinterval] at hdue
      rw [hchecked.logged] at hlogged
      rw [hchecked.lastLogTime] at hlast
      refine Or.inr ⟨hdue, ?_, hlogged, hlast⟩
      intro kind
      rw [pending, hnone, Finset.coe_empty]

theorem Running.allow {logBadDataInterval : Int64} (h : impl.Running logBadDataInterval)
    (now : Int64) (packet : DataPacket) :
    (TestDuplicateDataPacket.allow impl now packet).1.Running logBadDataInterval := by
  obtain ⟨hsettings, checked, -, hcase⟩ := call_cases h now packet
  refine ⟨by rw [hsettings, h.on], by rw [hsettings, h.interval], ?_⟩
  rcases hcase with ⟨-, hlast, -, -⟩ | ⟨hdue, -, -, hlast⟩
  · rw [hlast]
    exact h.times
  · rw [hlast]
    split_ifs
    · exact h.times
    · exact h.times.next hdue

end TestDuplicateDataPacketImpl

def duplicateJournal (impl : TestDuplicateDataPacketImpl) (calls : Nat → Int64 × DataPacket) :
    Journal DuplicateKind String where
  time n := ((calls n).1 / 1000000).toInt
  logs n := ∃ header, DataPacketHeader.ofPacket (calls n).2 = .ok header
  flagged n kind := (packetTester.stateAt impl calls n).flags (calls n).2 kind
  messages n kind := newMessages kind.heading (packetTester.stateAt impl calls n).logged
    (packetTester.stateAt impl calls (n + 1)).logged
  pending n kind := (packetTester.stateAt impl calls n).pending kind

section DuplicateJournal

variable {impl : TestDuplicateDataPacketImpl} {logBadDataInterval : Int64}
  {calls : Nat → Int64 × DataPacket}

theorem running_stateAt (hrunning : impl.Running logBadDataInterval) (n : Nat) :
    (packetTester.stateAt impl calls n).Running logBadDataInterval :=
  packetTester.stateAt_invariant (fun _ call h => h.allow call.1 call.2) hrunning calls n

theorem collects_duplicateJournal (hrunning : impl.Running logBadDataInterval)
    (hnone : ∀ kind, impl.channels kind = ∅) (hepoch : impl.mLastLogTime = 0) :
    (duplicateJournal impl calls).Collects logBadDataInterval.toInt
      fun n => (packetTester.stateAt impl calls n).mLastLogTime.toInt where
  start := by
    intro kind
    simp [duplicateJournal, Machine.stateAt, TestDuplicateDataPacketImpl.pending, hnone]
  epoch := congrArg Int64.toInt hepoch
  call := by
    intro n
    have hrunning := @running_stateAt impl logBadDataInterval calls hrunning n
    obtain ⟨-, checked, hchecked, hcase⟩ := TestDuplicateDataPacketImpl.call_cases hrunning
      (calls n).1 (calls n).2
    have hpending : ∀ kind, (duplicateJournal impl calls).pending n kind ∪
        (duplicateJournal impl calls).flagged n kind = checked.pending kind :=
      fun kind => (hchecked.pending kind).symm
    rcases hcase with ⟨hlogged, hlast, hkept, hearly⟩ | ⟨hdue, hempty, hlogged, hlast⟩
    · refine .kept ?_ ?_ (congrArg Int64.toInt hlast) ?_
      · intro kind
        exact (congrArg _ hlogged).trans (newMessages_same _ _)
      · intro kind
        rw [hpending]
        exact hkept kind
      · intro hlogs hdue
        exact absurd ((hrunning.times.due_iff _).mpr hdue) (hearly hlogs)
    · have hmessages : ∀ kind, (duplicateJournal impl calls).messages n kind =
          if checked.channels kind = ∅ then [] else [checked.pending kind] := by
        intro kind
        exact (congrArg _ hlogged).trans (TestDuplicateDataPacketImpl.newMessages_message _ kind)
      by_cases hnothing : checked.message .duplicate ++ checked.message .badTiming = []
      · -- a message is due, but there is nothing to write
        have hchannels := TestDuplicateDataPacketImpl.messages_eq_nil_iff.mp hnothing
        refine .kept ?_ ?_ ?_ ?_
        · intro kind
          rw [hmessages, if_pos (hchannels kind)]
        · intro kind
          rw [hpending, TestDuplicateDataPacketImpl.pending, hchannels, Finset.coe_empty]
          exact hempty kind
        · rw [if_pos hnothing] at hlast
          exact congrArg Int64.toInt hlast
        · intro _ _ kind
          rw [hpending, TestDuplicateDataPacketImpl.pending, hchannels, Finset.coe_empty]
      · obtain ⟨kind, hsome⟩ : ∃ kind, checked.channels kind ≠ ∅ :=
          not_forall.mp (mt TestDuplicateDataPacketImpl.messages_eq_nil_iff.mpr hnothing)
        rw [if_neg hnothing] at hlast
        refine .written ((hrunning.times.due_iff _).mp hdue) ⟨kind, ?_⟩ ?_ hempty
          (congrArg Int64.toInt hlast)
        · rw [hmessages, if_neg hsome]
          exact List.cons_ne_nil _ _
        · intro kind
          rw [hpending, hmessages]
          by_cases hchannels : checked.channels kind = ∅
          · refine Or.inr ⟨if_pos hchannels, ?_⟩
            rw [TestDuplicateDataPacketImpl.pending, hchannels, Finset.coe_empty]
          · exact Or.inl (if_neg hchannels)

/-- A tester as it is constructed reports everything it flags. -/
theorem reports_duplicateJournal
    (hconstructed : TestDuplicateDataPacketImpl.Constructed impl logBadDataInterval)
    (hinterval : 0 ≤ logBadDataInterval) :
    (duplicateJournal impl calls).Reports logBadDataInterval.toInt := by
  obtain ⟨hrunning, hnone, hepoch⟩ := hconstructed.fresh hinterval
  exact Journal.reports_of_collects (collects_duplicateJournal hrunning hnone hepoch)
    hrunning.times.interval_nonneg

end DuplicateJournal

/-! ### All three -/

/-- **The logs of the testers.**  For each of the three with a non-negative interval and any
    sequence of calls: a channel that is flagged stays pending until the next message of its
    kind and is in that message, a message has only channels that were flagged since the
    message before it, two calls that write messages are an interval apart, and what is pending
    is written at the first call after the interval that does not throw. -/
theorem rejections_reported (logBadDataInterval : Int64) (hinterval : 0 ≤ logBadDataInterval)
    (calls : Nat → Int64 × DataPacket) :
    (∀ maxFutureTime,
      (futureJournal (.new maxFutureTime logBadDataInterval) calls).Reports
        logBadDataInterval.toInt) ∧
    (∀ maxExpiredTime impl,
      TestExpiredDataPacketImpl.new maxExpiredTime logBadDataInterval = .ok impl →
        (expiredJournal impl calls).Reports logBadDataInterval.toInt) ∧
    ∀ impl, TestDuplicateDataPacketImpl.Constructed impl logBadDataInterval →
      (duplicateJournal impl calls).Reports logBadDataInterval.toInt := by
  refine ⟨?_, ?_, ?_⟩
  · intro maxFutureTime
    exact reports_futureJournal rfl hinterval calls
  · intro maxExpiredTime impl hnew
    apply reports_expiredJournal _ hinterval calls
    unfold TestExpiredDataPacketImpl.new at hnew
    split_ifs at hnew
    obtain rfl := Except.ok.inj hnew
    rfl
  · intro impl hconstructed
    exact reports_duplicateJournal hconstructed hinterval

/-- A packet from the end of time, again every half hour. -/
def forkFutureCalls (n : Nat) : Int64 × DataPacket :=
  (Int64.ofNat n * 1800000000,
    (DataPacket.forkPacket (.double [.finite 1])).setStartTime Int64.maxValue)

/-- The first call is too early for a message, so the channel is pending. -/
theorem fork_rejections_reported :
    "UU.FORK.HHZ.01" ∈ (futureJournal (.new 0 3600) forkFutureCalls).pending 1 () ∧
    (∃ impl, TestExpiredDataPacketImpl.new 120000000 3600 = .ok impl ∧
      (expiredJournal impl forkFutureCalls).Reports (3600 : Int64).toInt) ∧
    (duplicateJournal (.fresh { size_pos := defaultSize_pos }) forkFutureCalls).Reports
      (3600 : Int64).toInt := by
  obtain ⟨hfuture, hexpired, hduplicate⟩ :=
    rejections_reported 3600 (by decide) forkFutureCalls
  refine ⟨?_, ?_, hduplicate _ .default⟩
  · have hquiet : (futureJournal (.new 0 3600) forkFutureCalls).messages 0 () = [] := by
      have hlogged : (futureTester.stateAt (.new 0 3600) forkFutureCalls 1).log.logged = [] := by
        decide +kernel
      exact (congrArg _ hlogged).trans (newMessages_same _ _)
    have hflag : "UU.FORK.HHZ.01" ∈ (futureJournal (.new 0 3600) forkFutureCalls).flagged 0 () :=
      ⟨by decide +kernel, by decide +kernel⟩
    rcases (hfuture 0).reported () 0 _ hflag 0 (le_refl 0) (fun k _ hk => absurd hk (by omega)) with
      ⟨-, hpending⟩ | ⟨hsome, -⟩
    · exact hpending
    · exact absurd hquiet hsome
  · have hpos : (0 : Int64) < 120000000 := by decide
    obtain ⟨impl, hnew⟩ := TestExpiredDataPacketImpl.new_ok hpos 3600
    exact ⟨impl, hnew, hexpired _ impl hnew⟩

end Us8
