/-
  Us8/SEEDLinkPublisher.lean
  ==========================
  **The thread that sends the SEEDLink packets** (`Process::sendPacketsViaZeroMQ` and
  `addPacketsFromAcquisitionCallback` of `broadcasts/dataPacket/seedLink/publisher.cpp`).

  The SEEDLink client's callback puts packets in a bounded queue.  The publisher thread
  shortens the queue when it looks too long, sends the oldest packet and then removes it.
  It counts what it has sent and what it has not in two pairs of counters: one that is
  logged, by default every ten minutes, and one that two gauges get every minute.  The
  handler of a failed send raises a counter of the first pair only.

  As for the sanitizer, each access to the queue is one step, and what the thread gets
  from outside (the result of `size_approx`, how `send` ends, the clock) is part of the
  step's input.  With each pair of counters goes a tally of what has really happened since
  it was last reset, which no step reads.
-/
import Us8.BoundedQueue
import Us8.DataPacket
import Us8.Machine

namespace Us8.SEEDLink

/-! ### The counters -/

/-- What has happened since a report: packets removed from the queue, and for what reason. -/
structure Tally where
  removed : Nat := 0
  trimmed : Nat := 0
  sent : Nat := 0
  threw : Nat := 0
deriving DecidableEq

structure Report where
  nSentPackets : Nat
  nNotSentPackets : Nat
  tally : Tally
deriving DecidableEq

/-- The report accounts for every packet that was removed. -/
structure Report.Accounts (report : Report) : Prop where
  total : report.nSentPackets + report.nNotSentPackets = report.tally.removed
  sent : report.nSentPackets = report.tally.sent
  notSent : report.nNotSentPackets = report.tally.trimmed + report.tally.threw

/-- A pair of counters, and the reports made of them. -/
structure Counters where
  nSentPackets : Nat := 0
  nNotSentPackets : Nat := 0
  tally : Tally := {}
  reports : List Report := []

namespace Counters

def countSent (counters : Counters) : Counters :=
  { counters with nSentPackets := counters.nSentPackets + 1 }

def countNotSent (counters : Counters) (n : Nat) : Counters :=
  { counters with nNotSentPackets := counters.nNotSentPackets + n }

def note (counters : Counters) (happened : Tally → Tally) : Counters :=
  { counters with tally := happened counters.tally }

/-- Log or record the counters, and reset them. -/
def report (counters : Counters) : Counters :=
  { reports := counters.reports ++
      [⟨counters.nSentPackets, counters.nNotSentPackets, counters.tally⟩] }

end Counters

def Tally.trim (nRemoved : Nat) (tally : Tally) : Tally :=
  { tally with removed := tally.removed + nRemoved, trimmed := tally.trimmed + nRemoved }

def Tally.remove (nRemoved : Nat) (tally : Tally) : Tally :=
  { tally with removed := tally.removed + nRemoved }

def Tally.send (sendOutcome : Except StdException Unit) (tally : Tally) : Tally :=
  match sendOutcome with
  | .ok _ => { tally with sent := tally.sent + 1 }
  | .error _ => { tally with threw := tally.threw + 1 }

/-! ### States and steps -/

/-- Where `sendPacketsViaZeroMQ` stands. -/
inductive PublisherPc where
  | loopTop
  | trimming (trim : Trim)
  | peek
  | send (packet : DataPacket)
  | pop
  | bottom
  | left

/-- `performance` are the counters that are logged and `lastMinute` those for the gauges. -/
structure Process where
  mKeepRunning : Bool := true
  mLogPublishingPerformanceInterval : Int64 := 600
  mQueue : BoundedQueue DataPacket
  publisher : PublisherPc := .loopTop
  performance : Counters := {}
  lastMinute : Counters := {}
  lastLogTime : Int64
  nextSendMetricTime : Int64

structure PublishInput where
  sizeApprox : Nat
  sendOutcome : Except StdException Unit
  nowMuSeconds : Int64

inductive Action where
  | deliver (packet : DataPacket)
  | publish (input : PublishInput)
  | stop

def MAX_QUEUE_SIZE : Nat := 1024

namespace Process

/-- The thread about to enter its loop, with what is in the queue and the clock's reading. -/
def start (mLogPublishingPerformanceInterval : Int64) (mQueue : BoundedQueue DataPacket)
    (nowMuSeconds : Int64) : Process where
  mLogPublishingPerformanceInterval := mLogPublishingPerformanceInterval
  mQueue := mQueue
  lastLogTime := nowMuSeconds / 1000000
  nextSendMetricTime := nowMuSeconds / 1000000 + 60

/-- The client gets what this throws; the result of `try_enqueue` is only logged. -/
def addPacketsFromAcquisitionCallback (process : Process) (packet : DataPacket) :
    Except StdException Process :=
  if packet.haveNetwork = false then
    .error (.invalidArgument "Packet does not have network code")
  else if packet.haveStation = false then
    .error (.invalidArgument "Packet does nto have station name")
  else if packet.haveChannel = false then
    .error (.invalidArgument "Packet does not have channel code")
  else if packet.haveSamplingRate = false then
    .error (.invalidArgument "Packet does not have sampling rate")
  else if packet.getNumberOfSamples < 1 then .error (.invalidArgument "Packet has no data")
  else if packet.getDataType = .unknown then
    .error (.runtimeError "Data type not correctly set")
  else .ok { process with mQueue := process.mQueue.tryEnqueue packet }

def note (process : Process) (happened : Tally → Tally) : Process :=
  { process with
    performance := process.performance.note happened
    lastMinute := process.lastMinute.note happened }

def publisherTrim (process : Process) (sizeApprox : Nat) (trim : Trim) : Process :=
  let trimmed := trim.step MAX_QUEUE_SIZE sizeApprox process.mQueue
  let nRemoved := process.mQueue.items.length - trimmed.1.items.length
  let process := { process with mQueue := trimmed.1 }.note (Tally.trim nRemoved)
  match trimmed.2 with
  | .next trim => { process with publisher := .trimming trim }
  | .done nDeleted =>
      { process with
        performance := process.performance.countNotSent nDeleted
        lastMinute := process.lastMinute.countNotSent nDeleted
        publisher := .peek }

def publisherPeek (process : Process) : Process :=
  match process.mQueue.peek with
  | some packet => { process with publisher := .send packet }
  | none => { process with publisher := .bottom }

/-- A send that throws is not counted for the gauges. -/
def publisherSend (process : Process) (sendOutcome : Except StdException Unit) : Process :=
  let process := process.note (Tally.send sendOutcome)
  match sendOutcome with
  | .ok _ =>
      { process with
        performance := process.performance.countSent
        lastMinute := process.lastMinute.countSent
        publisher := .pop }
  | .error _ =>
      { process with
        performance := process.performance.countNotSent 1
        publisher := .pop }

def publisherPop (process : Process) : Process :=
  let nRemoved := process.mQueue.items.length - process.mQueue.pop.items.length
  { process with mQueue := process.mQueue.pop, publisher := .bottom }.note (Tally.remove nRemoved)

def logPerformance (process : Process) (nowSeconds : Int64) : Process :=
  if 0 < process.mLogPublishingPerformanceInterval ∧
      nowSeconds ≥ process.lastLogTime + process.mLogPublishingPerformanceInterval then
    { process with performance := process.performance.report, lastLogTime := nowSeconds }
  else process

def recordGauges (process : Process) (nowSeconds : Int64) : Process :=
  if nowSeconds ≥ process.nextSendMetricTime then
    { process with
      lastMinute := process.lastMinute.report
      nextSendMetricTime := nowSeconds + 60 }
  else process

def sendPacketsViaZeroMQ (process : Process) (input : PublishInput) : Process :=
  match process.publisher with
  | .loopTop =>
      { process with publisher := if process.mKeepRunning then .trimming .first else .left }
  | .trimming trim => process.publisherTrim input.sizeApprox trim
  | .peek => process.publisherPeek
  | .send _ => process.publisherSend input.sendOutcome
  | .pop => process.publisherPop
  | .bottom =>
      let nowSeconds := input.nowMuSeconds / 1000000
      { (process.logPerformance nowSeconds).recordGauges nowSeconds with publisher := .loopTop }
  | .left => process

def act (process : Process) : Action → Process
  | .deliver packet =>
      match process.addPacketsFromAcquisitionCallback packet with
      | .ok process => process
      | .error _ => process
  | .publish input => process.sendPacketsViaZeroMQ input
  | .stop => { process with mKeepRunning := false }

end Process

def publisher : Machine Process Action Unit where
  step process action := (process.act action, ())

/-! ### What a pair of counters keeps -/

namespace Counters

/-- The counters are right up to `pending` packets that have been trimmed and not counted
    yet, `held` packets that have been counted and not removed yet, and those sends that
    threw which the pair misses. -/
structure Kept (missed : Nat → Nat) (pending held : Nat) (counters : Counters) : Prop where
  sent : counters.nSentPackets = counters.tally.sent
  notSent : counters.nNotSentPackets + pending + missed counters.tally.threw =
    counters.tally.trimmed + counters.tally.threw
  removed : counters.tally.removed + held =
    counters.tally.trimmed + counters.tally.sent + counters.tally.threw
  reports : ∀ report ∈ counters.reports, (report.Accounts ↔ missed report.tally.threw = 0)

variable {missed : Nat → Nat} {pending held : Nat} {counters : Counters}

theorem kept_start (hzero : missed 0 = 0) : Kept missed 0 0 {} where
  sent := rfl
  notSent := by simp [hzero]
  removed := rfl
  reports := by simp

theorem Kept.trim (h : counters.Kept missed pending held) {nRemoved nDeleted : Nat}
    (hdeleted : pending + nRemoved = nDeleted) :
    (counters.note (Tally.trim nRemoved)).Kept missed nDeleted held := by
  refine ⟨h.sent, ?_, ?_, h.reports⟩
  · have hnotSent := h.notSent
    simp only [note, Tally.trim]
    omega
  · have hremoved := h.removed
    simp only [note, Tally.trim]
    omega

theorem Kept.countTrimmed (h : counters.Kept missed pending held) :
    (counters.countNotSent pending).Kept missed 0 held :=
  ⟨h.sent, h.notSent, h.removed, h.reports⟩

theorem Kept.send (h : counters.Kept missed 0 0) :
    (counters.note (Tally.send (.ok ()))).countSent.Kept missed 0 1 := by
  refine ⟨?_, h.notSent, ?_, h.reports⟩
  · simp only [note, Tally.send, countSent, h.sent]
  · have hremoved := h.removed
    simp only [note, Tally.send, countSent]
    omega

/-- A send that throws: the pair counts `n` packets and misses the rest. -/
theorem Kept.threw (h : counters.Kept missed 0 0) (e : StdException) {n : Nat}
    (hn : n + missed (counters.tally.threw + 1) = missed counters.tally.threw + 1) :
    ((counters.note (Tally.send (.error e))).countNotSent n).Kept missed 0 1 := by
  refine ⟨h.sent, ?_, ?_, h.reports⟩
  · have hnotSent := h.notSent
    simp only [note, Tally.send, countNotSent]
    omega
  · have hremoved := h.removed
    simp only [note, Tally.send, countNotSent]
    omega

theorem Kept.pop (h : counters.Kept missed 0 1) :
    (counters.note (Tally.remove 1)).Kept missed 0 0 := by
  refine ⟨h.sent, h.notSent, ?_, h.reports⟩
  have hremoved := h.removed
  simp only [note, Tally.remove]
  omega

/-- A report accounts for everything exactly if the pair has missed nothing. -/
theorem Kept.accounts_iff (h : counters.Kept missed 0 0) :
    (Report.mk counters.nSentPackets counters.nNotSentPackets counters.tally).Accounts ↔
      missed counters.tally.threw = 0 := by
  have hnotSent := h.notSent
  have hremoved := h.removed
  have hsent := h.sent
  constructor
  · intro haccounts
    have hcounted := haccounts.notSent
    dsimp only at hcounted
    omega
  · intro hnone
    refine ⟨?_, hsent, ?_⟩
    · dsimp only
      omega
    · dsimp only
      omega

theorem Kept.report (h : counters.Kept missed 0 0) (hzero : missed 0 = 0) :
    counters.report.Kept missed 0 0 := by
  refine ⟨rfl, by simp [Counters.report, hzero], rfl, ?_⟩
  intro report hreport
  rcases List.mem_append.mp hreport with hold | hnew
  · exact h.reports report hold
  · rw [List.mem_singleton.mp hnew]
    exact h.accounts_iff

end Counters

/-! ### What the thread keeps -/

namespace Process

variable {process : Process}

/-- Packets that have been trimmed in this turn of the loop and not counted yet. -/
def pending (process : Process) : Nat :=
  match process.publisher with
  | .trimming trim => trim.nDeleted
  | _ => 0

/-- The packet that has been counted and not removed yet. -/
def held (process : Process) : Nat :=
  match process.publisher with
  | .pop => 1
  | _ => 0

/-- The packet that is being sent stays in front until it is removed. -/
def FrontHeld (process : Process) : Prop :=
  match process.publisher with
  | .send packet => process.mQueue.peek = some packet
  | .pop => ∃ packet, process.mQueue.peek = some packet
  | _ => True

/-- The logged counters miss nothing; those for the gauges miss the sends that threw. -/
structure Kept (process : Process) : Prop where
  front : process.FrontHeld
  performance : process.performance.Kept (fun _ => 0) process.pending process.held
  lastMinute : process.lastMinute.Kept id process.pending process.held

theorem kept_start (interval : Int64) (mQueue : BoundedQueue DataPacket) (nowMuSeconds : Int64) :
    (start interval mQueue nowMuSeconds).Kept where
  front := trivial
  performance := Counters.kept_start rfl
  lastMinute := Counters.kept_start rfl

/-- The two pairs of counters where the thread is known to stand. -/
theorem Kept.counters (h : process.Kept) {pc : PublisherPc} (hpc : process.publisher = pc) :
    process.performance.Kept (fun _ => 0) { process with publisher := pc }.pending
        { process with publisher := pc }.held ∧
      process.lastMinute.Kept id { process with publisher := pc }.pending
        { process with publisher := pc }.held := by
  subst hpc
  exact ⟨h.performance, h.lastMinute⟩

theorem Kept.deliver (h : process.Kept) (packet : DataPacket) :
    { process with mQueue := process.mQueue.tryEnqueue packet }.Kept := by
  refine ⟨?_, h.performance, h.lastMinute⟩
  have hfront := h.front
  unfold FrontHeld at hfront ⊢
  cases hpc : process.publisher with
  | send oldest =>
    simp only [hpc] at hfront ⊢
    exact BoundedQueue.peek_tryEnqueue hfront packet
  | pop =>
    simp only [hpc] at hfront ⊢
    obtain ⟨oldest, hpeek⟩ := hfront
    exact ⟨oldest, BoundedQueue.peek_tryEnqueue hpeek packet⟩
  | _ => trivial

theorem Kept.publisherTrim (h : process.Kept) {trim : Trim}
    (hpc : process.publisher = .trimming trim) (sizeApprox : Nat) :
    (process.publisherTrim sizeApprox trim).Kept := by
  have hcount := trim.count_step MAX_QUEUE_SIZE sizeApprox process.mQueue
  have hfewer := (trim.items_step MAX_QUEUE_SIZE sizeApprox process.mQueue).length_le
  obtain ⟨hperformance, hlastMinute⟩ := h.counters hpc
  unfold Process.publisherTrim
  rcases hstep : trim.step MAX_QUEUE_SIZE sizeApprox process.mQueue with ⟨queue, next | nDeleted⟩
  · simp only [hstep, TrimResult.nDeleted] at hcount hfewer ⊢
    have hdeleted : trim.nDeleted + (process.mQueue.items.length - queue.items.length) =
        next.nDeleted := by omega
    exact ⟨trivial, hperformance.trim hdeleted, hlastMinute.trim hdeleted⟩
  · simp only [hstep, TrimResult.nDeleted] at hcount hfewer ⊢
    have hdeleted : trim.nDeleted + (process.mQueue.items.length - queue.items.length) =
        nDeleted := by omega
    exact ⟨trivial, (hperformance.trim hdeleted).countTrimmed,
      (hlastMinute.trim hdeleted).countTrimmed⟩

theorem Kept.publisherPeek (h : process.Kept) (hpc : process.publisher = .peek) :
    process.publisherPeek.Kept := by
  obtain ⟨hperformance, hlastMinute⟩ := h.counters hpc
  unfold Process.publisherPeek
  cases hpeek : process.mQueue.peek with
  | none => exact ⟨trivial, hperformance, hlastMinute⟩
  | some packet => exact ⟨hpeek, hperformance, hlastMinute⟩

theorem Kept.publisherSend (h : process.Kept) {packet : DataPacket}
    (hpc : process.publisher = .send packet) (sendOutcome : Except StdException Unit) :
    (process.publisherSend sendOutcome).Kept := by
  obtain ⟨hperformance, hlastMinute⟩ := h.counters hpc
  have hfront : process.mQueue.peek = some packet := by
    have hfront := h.front
    simpa only [FrontHeld, hpc] using hfront
  rcases sendOutcome with e | _
  · exact ⟨⟨packet, hfront⟩, hperformance.threw e rfl, @Counters.Kept.threw id _ hlastMinute e 0
      (Nat.zero_add _)⟩
  · exact ⟨⟨packet, hfront⟩, hperformance.send, hlastMinute.send⟩

theorem Kept.publisherPop (h : process.Kept) (hpc : process.publisher = .pop) :
    process.publisherPop.Kept := by
  obtain ⟨hperformance, hlastMinute⟩ := h.counters hpc
  have hfront := h.front
  simp only [FrontHeld, hpc] at hfront
  obtain ⟨packet, hpeek⟩ := hfront
  have hone : process.mQueue.items.length - process.mQueue.pop.items.length = 1 := by
    rw [BoundedQueue.items_of_peek hpeek, List.length_cons]
    omega
  unfold Process.publisherPop
  rw [hone]
  exact ⟨trivial, hperformance.pop, hlastMinute.pop⟩

/-- The end of a turn of the loop: everything has been counted and removed. -/
theorem Kept.bottom (h : process.Kept) (hpc : process.publisher = .bottom) (nowSeconds : Int64) :
    { (process.logPerformance nowSeconds).recordGauges nowSeconds with
      publisher := .loopTop }.Kept := by
  obtain ⟨hperformance, hlastMinute⟩ := h.counters hpc
  have hlogged : (process.logPerformance nowSeconds).performance.Kept (fun _ => 0) 0 0 := by
    unfold logPerformance
    split_ifs
    · exact hperformance.report rfl
    · exact hperformance
  have hsame : (process.logPerformance nowSeconds).lastMinute = process.lastMinute := by
    unfold logPerformance
    split_ifs <;> rfl
  unfold recordGauges
  split_ifs
  · exact ⟨trivial, hlogged, (hsame ▸ hlastMinute).report rfl⟩
  · exact ⟨trivial, hlogged, hsame ▸ hlastMinute⟩

theorem Kept.publish (h : process.Kept) (input : PublishInput) :
    (process.sendPacketsViaZeroMQ input).Kept := by
  unfold sendPacketsViaZeroMQ
  cases hpc : process.publisher with
  | loopTop =>
    obtain ⟨hperformance, hlastMinute⟩ := h.counters hpc
    cases process.mKeepRunning <;> exact ⟨trivial, hperformance, hlastMinute⟩
  | trimming trim => exact h.publisherTrim hpc input.sizeApprox
  | peek => exact h.publisherPeek hpc
  | send packet => exact h.publisherSend hpc input.sendOutcome
  | pop => exact h.publisherPop hpc
  | bottom => exact h.bottom hpc _
  | left => exact h

theorem Kept.act (h : process.Kept) (action : Action) : (process.act action).Kept := by
  cases action with
  | deliver packet =>
    simp only [Process.act, addPacketsFromAcquisitionCallback]
    split_ifs
    all_goals first | exact h | exact h.deliver packet
  | publish input => exact h.publish input
  | stop => exact ⟨h.front, h.performance, h.lastMinute⟩

end Process

/-- **The reports.**  Whatever the queue holds, however the threads interleave and whichever
    sends throw, what is logged accounts for every packet removed since the last time it was
    logged, and what the gauges get accounts for every packet removed since they were last
    given something if and only if no send has thrown since then. -/
theorem reports_account (mLogPublishingPerformanceInterval : Int64)
    (mQueue : BoundedQueue DataPacket) (nowMuSeconds : Int64) (actions : List Action) :
    let process := publisher.after
      (Process.start mLogPublishingPerformanceInterval mQueue nowMuSeconds) actions
    (∀ report ∈ process.performance.reports, report.Accounts) ∧
    ∀ report ∈ process.lastMinute.reports, (report.Accounts ↔ report.tally.threw = 0) := by
  intro process
  have hkept : process.Kept := by
    refine publisher.after_invariant ?_
      (Process.kept_start mLogPublishingPerformanceInterval mQueue nowMuSeconds) actions
    exact fun _ action h => Process.Kept.act h action
  exact ⟨fun report hreport => (hkept.performance.reports report hreport).mpr rfl,
    hkept.lastMinute.reports⟩

/-- One turn of the loop on a single packet, a minute after the start. -/
def forkTurn (sendOutcome : Except StdException Unit) : List Action :=
  .deliver (.forkPacket (.double [.finite 1])) ::
    List.replicate 6 (.publish ⟨1, sendOutcome, 60000000⟩)

/-- The send throws: the packet is gone, and the gauges get two zeros. -/
theorem fork_failed_send_not_in_gauges :
    ∃ report ∈ (publisher.after (Process.start 600 (.empty 1024) 0)
      (forkTurn (.error (.runtimeError "Resource temporarily unavailable")))).lastMinute.reports,
      ¬ report.Accounts := by
  refine ⟨⟨0, 0, { removed := 1, trimmed := 0, sent := 0, threw := 1 }⟩, by decide +kernel, ?_⟩
  intro haccounts
  exact absurd haccounts.total (by decide)

end Us8.SEEDLink
