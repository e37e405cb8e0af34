/-
  Us8/SanitizerThreads.lean
  =========================
  **The sanitizer's threads as one machine** (`Process` of
  `broadcasts/dataPacket/sanitizer/sanitizer.cpp`: `inputPacketsToQueueCallback`,
  `checkPackets`, `publishGoodPackets` and `stop`).

  Three threads share two bounded queues and the flag `mKeepRunning`.  The callback of
  the subscriber puts packets in the first queue; `checkPackets` takes them out, asks
  the testers and puts the good ones in the second; `publishGoodPackets` looks at the
  oldest of these, sends it and only then removes it.  Both consumers first shorten
  their queue when it looks too long.

  Each access to something shared is one step, so a thread has a program counter, and
  an interleaving is a list of actions saying which thread moves next.  What a thread
  gets from outside is part of its action: the result of `size_approx`, which need not
  be the length of the queue, the readings of the clock, and how `Publisher::send`
  ends.

  Packets carry their position among the arrivals, and `History` records what happened.
  Neither is read by any step; they are there to state what the threads achieve.
-/
import Us8.BoundedQueue
import Us8.Sanitizer

namespace Us8

structure Arrival where
  index : Nat
  packet : DataPacket

/-! ### The counters of a consumer -/

/-- The counters of one consumer thread: `nPackets` is `nCheckedPackets` or
    `nSentPackets`, `nNotPackets` is `nNotCheckedPackets` or `nNotSentPackets`, and
    `reported` are the values that have been logged and reset. -/
structure PerformanceLog where
  nPackets : Nat := 0
  nNotPackets : Nat := 0
  lastLogTime : Int64
  reported : List (Nat × Nat) := []

namespace PerformanceLog

def interval : Int64 := 3600

def count (log : PerformanceLog) : PerformanceLog :=
  { log with nPackets := log.nPackets + 1 }

def countNot (log : PerformanceLog) (n : Nat) : PerformanceLog :=
  { log with nNotPackets := log.nNotPackets + n }

/-- The end of an iteration: once an interval, log the counters and reset them. -/
def report (log : PerformanceLog) (nowMuSeconds : Int64) : PerformanceLog :=
  let nowSeconds := nowMuSeconds / 1000000
  if nowSeconds ≥ log.lastLogTime + interval then
    { nPackets := 0
      nNotPackets := 0
      lastLogTime := nowSeconds
      reported := log.reported ++ [(log.nPackets, log.nNotPackets)] }
  else log

/-- The two counters, had they never been reset. -/
def total (log : PerformanceLog) : Nat := (log.reported.map Prod.fst).sum + log.nPackets

def totalNot (log : PerformanceLog) : Nat := (log.reported.map Prod.snd).sum + log.nNotPackets

@[simp] theorem total_count (log : PerformanceLog) : log.count.total = log.total + 1 := by
  simp only [total, count]
  omega

@[simp] theorem totalNot_count (log : PerformanceLog) : log.count.totalNot = log.totalNot := rfl

@[simp] theorem total_countNot (log : PerformanceLog) (n : Nat) :
    (log.countNot n).total = log.total := rfl

@[simp] theorem totalNot_countNot (log : PerformanceLog) (n : Nat) :
    (log.countNot n).totalNot = log.totalNot + n := by
  simp only [totalNot, countNot]
  omega

@[simp] theorem total_report (log : PerformanceLog) (now : Int64) :
    (log.report now).total = log.total := by
  unfold report
  dsimp only
  split_ifs
  · simp [total]
  · rfl

@[simp] theorem totalNot_report (log : PerformanceLog) (now : Int64) :
    (log.report now).totalNot = log.totalNot := by
  unfold report
  dsimp only
  split_ifs
  · simp [totalNot]
  · rfl

end PerformanceLog

/-! ### States and actions -/

/-- Where `checkPackets` stands. -/
inductive CheckerPc where
  | loopTop
  | trimming (trim : Trim)
  | dequeue
  | scrutinize (arrival : Arrival)
  | enqueue (arrival : Arrival)
  | bottom
  | left

inductive PublisherPc where
  | loopTop
  | trimming (trim : Trim)
  | peek
  | send (arrival : Arrival)
  | pop
  | bottom
  | left

/-- A packet was scrutinized by testers in this state, with these clock readings. -/
structure CheckRecord where
  testers : Testers
  readings : Readings
  arrival : Arrival

def CheckRecord.verdict (record : CheckRecord) : Except StdException Bool :=
  (record.testers.scrutinize record.readings record.arrival.packet).2

/-- What has happened: the packets delivered to the callback, the packets scrutinized,
    and the packets passed to `Publisher::send`, whether it threw or not. -/
structure History where
  arrivals : List DataPacket := []
  checks : List CheckRecord := []
  sends : List Arrival := []

def History.check (history : History) (record : CheckRecord) : History :=
  { history with checks := history.checks ++ [record] }

def History.send (history : History) (arrival : Arrival) : History :=
  { history with sends := history.sends ++ [arrival] }

structure Process where
  mKeepRunning : Bool := true
  testers : Testers
  mPacketsToCheckQueue : BoundedQueue Arrival
  mMessagesToPublishQueue : BoundedQueue Arrival
  checker : CheckerPc := .loopTop
  publisher : PublisherPc := .loopTop
  checkLog : PerformanceLog
  publishLog : PerformanceLog
  history : History := {}

structure CheckInput where
  sizeApprox : Nat
  readings : Readings
  nowMuSeconds : Int64

structure PublishInput where
  sizeApprox : Nat
  sendOutcome : Except StdException Unit
  nowMuSeconds : Int64

inductive Action where
  | deliver (packet : DataPacket)
  | check (input : CheckInput)
  | publish (input : PublishInput)
  | stop

def Action.delivered : Action → Option DataPacket
  | .deliver packet => some packet
  | .check _ => none
  | .publish _ => none
  | .stop => none

/-! ### The threads -/

def MAX_QUEUE_SIZE : Nat := 256

namespace Process

/-- The threads about to start, with the clock readings at which they enter. -/
def start (testers : Testers) (checkCapacity publishCapacity : Nat)
    (checkerEntered publisherEntered : Int64) : Process where
  testers := testers
  mPacketsToCheckQueue := .empty checkCapacity
  mMessagesToPublishQueue := .empty publishCapacity
  checkLog := { lastLogTime := checkerEntered / 1000000 }
  publishLog := { lastLogTime := publisherEntered / 1000000 }

/-- The result of `try_enqueue` is not looked at. -/
def inputPacketsToQueueCallback (process : Process) (packet : DataPacket) : Process :=
  { process with
    mPacketsToCheckQueue :=
      process.mPacketsToCheckQueue.tryEnqueue ⟨process.history.arrivals.length, packet⟩
    history := { process.history with arrivals := process.history.arrivals ++ [packet] } }

def checkerTrim (process : Process) (input : CheckInput) (trim : Trim) : Process :=
  let trimmed := trim.step MAX_QUEUE_SIZE input.sizeApprox process.mPacketsToCheckQueue
  match trimmed.2 with
  | .next trim =>
      { process with mPacketsToCheckQueue := trimmed.1, checker := .trimming trim }
  | .done nDeleted =>
      { process with
        mPacketsToCheckQueue := trimmed.1
        checkLog := process.checkLog.countNot nDeleted
        checker := .dequeue }

def checkerDequeue (process : Process) : Process :=
  match process.mPacketsToCheckQueue.peek with
  | some arrival =>
      { process with
        mPacketsToCheckQueue := process.mPacketsToCheckQueue.pop
        checker := .scrutinize arrival }
  | none => { process with checker := .bottom }

/-- Asking the testers.  A packet on which one throws is dropped and not counted. -/
def checkerScrutinize (process : Process) (input : CheckInput) (arrival : Arrival) : Process :=
  let asked := process.testers.scrutinize input.readings arrival.packet
  let process : Process :=
    { process with
      testers := asked.1
      history := process.history.check ⟨process.testers, input.readings, arrival⟩ }
  match asked.2 with
  | .error _ => { process with checker := .bottom }
  | .ok true => { process with checker := .enqueue arrival }
  | .ok false => { process with checkLog := process.checkLog.count, checker := .bottom }

def checkerEnqueue (process : Process) (arrival : Arrival) : Process :=
  { process with
    mMessagesToPublishQueue := process.mMessagesToPublishQueue.tryEnqueue arrival
    checkLog := process.checkLog.count
    checker := .bottom }

def checkPackets (process : Process) (input : CheckInput) : Process :=
  match process.checker with
  | .loopTop =>
      { process with checker := if process.mKeepRunning then .trimming .first else .left }
  | .trimming trim => process.checkerTrim input trim
  | .dequeue => process.checkerDequeue
  | .scrutinize arrival => process.checkerScrutinize input arrival
  | .enqueue arrival => process.checkerEnqueue arrival
  | .bottom =>
      { process with
        checkLog := process.checkLog.report input.nowMuSeconds
        checker := .loopTop }
  | .left => process

def publisherTrim (process : Process) (input : PublishInput) (trim : Trim) : Process :=
  let trimmed := trim.step MAX_QUEUE_SIZE input.sizeApprox process.mMessagesToPublishQueue
  match trimmed.2 with
  | .next trim =>
      { process with mMessagesToPublishQueue := trimmed.1, publisher := .trimming trim }
  | .done nDeleted =>
      { process with
        mMessagesToPublishQueue := trimmed.1
        publishLog := process.publishLog.countNot nDeleted
        publisher := .peek }

def publisherPeek (process : Process) : Process :=
  match process.mMessagesToPublishQueue.peek with
  | some arrival => { process with publisher := .send arrival }
  | none => { process with publisher := .bottom }

def publisherSend (process : Process) (input : PublishInput) (arrival : Arrival) : Process :=
  { process with
    publishLog :=
      match input.sendOutcome with
      | .ok _ => process.publishLog.count
      | .error _ => process.publishLog.countNot 1
    history := process.history.send arrival
    publisher := .pop }

def publishGoodPackets (process : Process) (input : PublishInput) : Process :=
  match process.publisher with
  | .loopTop =>
      { process with publisher := if process.mKeepRunning then .trimming .first else .left }
  | .trimming trim => process.publisherTrim input trim
  | .peek => process.publisherPeek
  | .send arrival => process.publisherSend input arrival
  | .pop =>
      { process with
        mMessagesToPublishQueue := process.mMessagesToPublishQueue.pop
        publisher := .bottom }
  | .bottom =>
      { process with
        publishLog := process.publishLog.report input.nowMuSeconds
        publisher := .loopTop }
  | .left => process

def stop (process : Process) : Process := { process with mKeepRunning := false }

def act (process : Process) : Action → Process
  | .deliver packet => process.inputPacketsToQueueCallback packet
  | .check input => process.checkPackets input
  | .publish input => process.publishGoodPackets input
  | .stop => process.stop

end Process

def sanitizer : Machine Process Action Unit where
  step process action := (process.act action, ())

/-! ### The steps of the two consumers -/

namespace Process

/-- What one step of `checkPackets` can do: where the thread stands before, what it
    finds, and the state after. -/
inductive CheckCase (process : Process) (input : CheckInput) : Process → Prop where
  | entered (hpc : process.checker = .loopTop) (hrunning : process.mKeepRunning = true) :
      CheckCase process input { process with checker := .trimming .first }
  | exited (hpc : process.checker = .loopTop) (hrunning : process.mKeepRunning = false) :
      CheckCase process input { process with checker := .left }
  | trimming (trim next : Trim) (queue : BoundedQueue Arrival)
      (hpc : process.checker = .trimming trim)
      (htrim : trim.step MAX_QUEUE_SIZE input.sizeApprox process.mPacketsToCheckQueue =
        (queue, .next next)) :
      CheckCase process input
        { process with mPacketsToCheckQueue := queue, checker := .trimming next }
  | trimmed (trim : Trim) (nDeleted : Nat) (queue : BoundedQueue Arrival)
      (hpc : process.checker = .trimming trim)
      (htrim : trim.step MAX_QUEUE_SIZE input.sizeApprox process.mPacketsToCheckQueue =
        (queue, .done nDeleted)) :
      CheckCase process input
        { process with
          mPacketsToCheckQueue := queue
          checkLog := process.checkLog.countNot nDeleted
          checker := .dequeue }
  | dequeued (arrival : Arrival) (hpc : process.checker = .dequeue)
      (hpeek : process.mPacketsToCheckQueue.peek = some arrival) :
      CheckCase process input
        { process with
          mPacketsToCheckQueue := process.mPacketsToCheckQueue.pop
          checker := .scrutinize arrival }
  | idle (hpc : process.checker = .dequeue) (hpeek : process.mPacketsToCheckQueue.peek = none) :
      CheckCase process input { process with checker := .bottom }
  | threw (arrival : Arrival) (testers : Testers) (e : StdException)
      (hpc : process.checker = .scrutinize arrival)
      (hasked : process.testers.scrutinize input.readings arrival.packet = (testers, .error e)) :
      CheckCase process input
        { process with
          testers := testers
          history := process.history.check ⟨process.testers, input.readings, arrival⟩
          checker := .bottom }
  | allowed (arrival : Arrival) (testers : Testers)
      (hpc : process.checker = .scrutinize arrival)
      (hasked : process.testers.scrutinize input.readings arrival.packet = (testers, .ok true)) :
      CheckCase process input
        { process with
          testers := testers
          history := process.history.check ⟨process.testers, input.readings, arrival⟩
          checker := .enqueue arrival }
  | rejected (arrival : Arrival) (testers : Testers)
      (hpc : process.checker = .scrutinize arrival)
      (hasked : process.testers.scrutinize input.readings arrival.packet = (testers, .ok false)) :
      CheckCase process input
        { process with
          testers := testers
          history := process.history.check ⟨process.testers, input.readings, arrival⟩
          checkLog := process.checkLog.count
          checker := .bottom }
  | enqueued (arrival : Arrival) (hpc : process.checker = .enqueue arrival) :
      CheckCase process input
        { process with
          mMessagesToPublishQueue := process.mMessagesToPublishQueue.tryEnqueue arrival
          checkLog := process.checkLog.count
          checker := .bottom }
  | reported (hpc : process.checker = .bottom) :
      CheckCase process input
        { process with
          checkLog := process.checkLog.report input.nowMuSeconds
          checker := .loopTop }
  | gone (hpc : process.checker = .left) : CheckCase process input process

theorem checkPackets_case (process : Process) (input : CheckInput) :
    CheckCase process input (process.checkPackets input) := by
  unfold checkPackets
  cases hpc : process.checker with
  | loopTop =>
    dsimp only
    split_ifs with hrunning
    · exact .entered hpc hrunning
    · exact .exited hpc (by simpa using hrunning)
  | trimming trim =>
    dsimp only
    unfold checkerTrim
    rcases htrim : trim.step MAX_QUEUE_SIZE input.sizeApprox process.mPacketsToCheckQueue with
      ⟨queue, next | nDeleted⟩
    · exact .trimming trim next queue hpc htrim
    · exact .trimmed trim nDeleted queue hpc htrim
  | dequeue =>
    dsimp only
    unfold checkerDequeue
    cases hpeek : process.mPacketsToCheckQueue.peek with
    | none => exact .idle hpc hpeek
    | some arrival => exact .dequeued arrival hpc hpeek
  | scrutinize arrival =>
    dsimp only
    unfold checkerScrutinize
    rcases hasked : process.testers.scrutinize input.readings arrival.packet with
      ⟨testers, e | (_ | _)⟩
    · exact .threw arrival testers e hpc hasked
    · exact .rejected arrival testers hpc hasked
    · exact .allowed arrival testers hpc hasked
  | enqueue arrival => exact .enqueued arrival hpc
  | bottom => exact .reported hpc
  | left => exact .gone hpc

inductive PublishCase (process : Process) (input : PublishInput) : Process → Prop where
  | entered (hpc : process.publisher = .loopTop) (hrunning : process.mKeepRunning = true) :
      PublishCase process input { process with publisher := .trimming .first }
  | exited (hpc : process.publisher = .loopTop) (hrunning : process.mKeepRunning = false) :
      PublishCase process input { process with publisher := .left }
  | trimming (trim next : Trim) (queue : BoundedQueue Arrival)
      (hpc : process.publisher = .trimming trim)
      (htrim : trim.step MAX_QUEUE_SIZE input.sizeApprox process.mMessagesToPublishQueue =
        (queue, .next next)) :
      PublishCase process input
        { process with mMessagesToPublishQueue := queue, publisher := .trimming next }
  | trimmed (trim : Trim) (nDeleted : Nat) (queue : BoundedQueue Arrival)
      (hpc : process.publisher = .trimming trim)
      (htrim : trim.step MAX_QUEUE_SIZE input.sizeApprox process.mMessagesToPublishQueue =
        (queue, .done nDeleted)) :
      PublishCase process input
        { process with
          mMessagesToPublishQueue := queue
          publishLog := process.publishLog.countNot nDeleted
          publisher := .peek }
  | peeked (arrival : Arrival) (hpc : process.publisher = .peek)
      (hpeek : process.mMessagesToPublishQueue.peek = some arrival) :
      PublishCase process input { process with publisher := .send arrival }
  | idle (hpc : process.publisher = .peek)
      (hpeek : process.mMessagesToPublishQueue.peek = none) :
      PublishCase process input { process with publisher := .bottom }
  | sent (arrival : Arrival) (hpc : process.publisher = .send arrival)
      (houtcome : input.sendOutcome = .ok ()) :
      PublishCase process input
        { process with
          publishLog := process.publishLog.count
          history := process.history.send arrival
          publisher := .pop }
  | failed (arrival : Arrival) (e : StdException) (hpc : process.publisher = .send arrival)
      (houtcome : input.sendOutcome = .error e) :
      PublishCase process input
        { process with
          publishLog := process.publishLog.countNot 1
          history := process.history.send arrival
          publisher := .pop }
  | popped (hpc : process.publisher = .pop) :
      PublishCase process input
        { process with
          mMessagesToPublishQueue := process.mMessagesToPublishQueue.pop
          publisher := .bottom }
  | reported (hpc : process.publisher = .bottom) :
      PublishCase process input
        { process with
          publishLog := process.publishLog.report input.nowMuSeconds
          publisher := .loopTop }
  | gone (hpc : process.publisher = .left) : PublishCase process input process

theorem publishGoodPackets_case (process : Process) (input : PublishInput) :
    PublishCase process input (process.publishGoodPackets input) := by
  unfold publishGoodPackets
  cases hpc : process.publisher with
  | loopTop =>
    dsimp only
    split_ifs with hrunning
    · exact .entered hpc hrunning
    · exact .exited hpc (by simpa using hrunning)
  | trimming trim =>
    dsimp only
    unfold publisherTrim
    rcases htrim : trim.step MAX_QUEUE_SIZE input.sizeApprox process.mMessagesToPublishQueue with
      ⟨queue, next | nDeleted⟩
    · exact .trimming trim next queue hpc htrim
    · exact .trimmed trim nDeleted queue hpc htrim
  | peek =>
    dsimp only
    unfold publisherPeek
    cases hpeek : process.mMessagesToPublishQueue.peek with
    | none => exact .idle hpc hpeek
    | some arrival => exact .peeked arrival hpc hpeek
  | send arrival =>
    dsimp only
    unfold publisherSend
    cases houtcome : input.sendOutcome with
    | error e => exact .failed arrival e hpc houtcome
    | ok _ => exact .sent arrival hpc houtcome
  | pop => exact .popped hpc
  | bottom => exact .reported hpc
  | left => exact .gone hpc

end Process

end Us8
