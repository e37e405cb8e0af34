/-
  Us8/SanitizerAccounting.lean
  ============================
  **Which packets the sanitizer's counters lose.**

  Each consumer counts the packets it has dealt with and those it failed to deal with.
  Between iterations every arrival should be in the check queue or in one of the
  checker's counters, and every packet that the testers allowed in the publish queue
  or in one of the publisher's.  The deficit is what is missing.  Two deficits cover
  the whole program: `arrivalDeficit` and `allowedDeficit`, corrected for the packets
  that a thread holds in the middle of an iteration.

  A step raises a deficit by one exactly when it loses a packet, and no step lowers it
  again (`arrivalDeficit_act`, `allowedDeficit_act`).  The steps that lose one are an
  offer to a full queue, whose refusal is not looked at, and a tester that throws,
  whose handler counts nothing.
-/
import Us8.SanitizerStream

namespace Us8

namespace Process

/-! ### The deficits -/

/-- The packets that `checkPackets` has taken out of its queue and not yet counted. -/
def checkerPending (process : Process) : Nat :=
  match process.checker with
  | .trimming trim => trim.nDeleted
  | .scrutinize _ => 1
  | .enqueue _ => 1
  | _ => 0

def arrivalDeficit (process : Process) : Int :=
  process.history.arrivals.length -
    (process.mPacketsToCheckQueue.items.length + process.checkLog.total +
      process.checkLog.totalNot + process.checkerPending)

def nAllowed (process : Process) : Nat :=
  process.history.checks.countP fun record => record.verdict = .ok true

/-- The packets on their way into the publish queue, or out of it and not counted. -/
def publisherPending (process : Process) : Nat :=
  (match process.checker with
    | .enqueue _ => 1
    | _ => 0) +
  (match process.publisher with
    | .trimming trim => trim.nDeleted
    | _ => 0)

def countedTwice (process : Process) : Nat :=
  match process.publisher with
  | .pop => 1
  | _ => 0

/-- The allowed packets that are nowhere. -/
def allowedDeficit (process : Process) : Int :=
  process.nAllowed + process.countedTwice -
    (process.mMessagesToPublishQueue.items.length + process.publishLog.total +
      process.publishLog.totalNot + process.publisherPending)

/-! ### The steps that lose a packet -/

/-- The action delivers a packet to a full check queue, or scrutinizes a packet that has
    no end time with a future tester. -/
def LosesArrival (process : Process) : Action → Prop
  | .deliver _ => process.mPacketsToCheckQueue.Full
  | .check _ => ∃ arrival e, process.checker = .scrutinize arrival ∧
      process.testers.mFutureDataPacketTester.isSome = true ∧
      arrival.packet.getEndTime = .error e
  | .publish _ => False
  | .stop => False

/-- The action hands an allowed packet to a full publish queue. -/
def LosesAllowed (process : Process) : Action → Prop
  | .deliver _ => False
  | .check _ => process.mMessagesToPublishQueue.Full ∧
      ∃ arrival, process.checker = .enqueue arrival
  | .publish _ => False
  | .stop => False

theorem losesArrival_iff_throws {process : Process} {arrival : Arrival}
    (hpc : process.checker = .scrutinize arrival) (input : CheckInput) :
    process.LosesArrival (.check input) ↔
      ∃ e, (process.testers.scrutinize input.readings arrival.packet).2 = .error e := by
  rw [Testers.scrutinize_throws_iff]
  constructor
  · rintro ⟨own, e, hown, hfuture, hend⟩
    rw [hpc, CheckerPc.scrutinize.injEq] at hown
    exact ⟨hfuture, e, hown ▸ hend⟩
  · rintro ⟨hfuture, e, hend⟩
    exact ⟨arrival, e, hpc, hfuture, hend⟩

/-- Outside the block that asks the testers no arrival is lost. -/
theorem not_losesArrival (process : Process) (input : CheckInput)
    (hpc : ∀ arrival, process.checker ≠ .scrutinize arrival) :
    ¬ process.LosesArrival (.check input) := by
  rintro ⟨arrival, -, hscrutinize, -⟩
  exact hpc arrival hscrutinize

theorem arrivalDeficit_checkPackets (process : Process) (input : CheckInput) :
    (process.LosesArrival (.check input) ∧
      (process.checkPackets input).arrivalDeficit = process.arrivalDeficit + 1) ∨
    (¬ process.LosesArrival (.check input) ∧
      (process.checkPackets input).arrivalDeficit = process.arrivalDeficit) := by
  have hcase := process.checkPackets_case input
  generalize process.checkPackets input = after at hcase ⊢
  have hkept := process.not_losesArrival input
  have htrim := fun trim : Trim =>
    trim.count_step MAX_QUEUE_SIZE input.sizeApprox process.mPacketsToCheckQueue
  cases hcase with
  | entered hpc =>
    refine Or.inr ⟨hkept (by simp [hpc]), ?_⟩
    simp [arrivalDeficit, checkerPending, hpc, Trim.nDeleted]
  | exited hpc =>
    refine Or.inr ⟨hkept (by simp [hpc]), ?_⟩
    simp [arrivalDeficit, checkerPending, hpc]
  | trimming trim next queue hpc hstep =>
    refine Or.inr ⟨hkept (by simp [hpc]), ?_⟩
    have hcount := htrim trim
    simp only [hstep, TrimResult.nDeleted] at hcount
    simp only [arrivalDeficit, checkerPending, hpc]
    omega
  | trimmed trim nDeleted queue hpc hstep =>
    refine Or.inr ⟨hkept (by simp [hpc]), ?_⟩
    have hcount := htrim trim
    simp only [hstep, TrimResult.nDeleted] at hcount
    simp only [arrivalDeficit, checkerPending, hpc, PerformanceLog.total_countNot,
      PerformanceLog.totalNot_countNot]
    omega
  | dequeued arrival hpc hpeek =>
    refine Or.inr ⟨hkept (by simp [hpc]), ?_⟩
    simp only [arrivalDeficit, checkerPending, hpc, BoundedQueue.items_of_peek hpeek,
      List.length_cons]
    omega
  | idle hpc =>
    refine Or.inr ⟨hkept (by simp [hpc]), ?_⟩
    simp [arrivalDeficit, checkerPending, hpc]
  | threw arrival testers e hpc hasked =>
    refine Or.inl ⟨(losesArrival_iff_throws hpc input).mpr ⟨e, by rw [hasked]⟩, ?_⟩
    simp only [arrivalDeficit, checkerPending, hpc, History.check]
    omega
  | allowed arrival testers hpc hasked =>
    refine Or.inr ⟨by simp [losesArrival_iff_throws hpc input, hasked], ?_⟩
    simp [arrivalDeficit, checkerPending, hpc, History.check]
  | rejected arrival testers hpc hasked =>
    refine Or.inr ⟨by simp [losesArrival_iff_throws hpc input, hasked], ?_⟩
    simp only [arrivalDeficit, checkerPending, hpc, History.check, PerformanceLog.total_count,
      PerformanceLog.totalNot_count]
    omega
  | enqueued arrival hpc =>
    refine Or.inr ⟨hkept (by simp [hpc]), ?_⟩
    simp only [arrivalDeficit, checkerPending, hpc, PerformanceLog.total_count,
      PerformanceLog.totalNot_count]
    omega
  | reported hpc =>
    refine Or.inr ⟨hkept (by simp [hpc]), ?_⟩
    simp [arrivalDeficit, checkerPending, hpc]
  | gone hpc => exact Or.inr ⟨hkept (by simp [hpc]), rfl⟩

theorem arrivalDeficit_act (process : Process) (action : Action) :
    (process.LosesArrival action ∧
      (process.act action).arrivalDeficit = process.arrivalDeficit + 1) ∨
    (¬ process.LosesArrival action ∧
      (process.act action).arrivalDeficit = process.arrivalDeficit) := by
  cases action with
  | deliver packet =>
    by_cases hfull : process.mPacketsToCheckQueue.Full
    · refine Or.inl ⟨hfull, ?_⟩
      simp only [act, inputPacketsToQueueCallback, arrivalDeficit, checkerPending,
        BoundedQueue.tryEnqueue_of_full hfull, List.length_append, List.length_singleton]
      omega
    · refine Or.inr ⟨hfull, ?_⟩
      simp only [act, inputPacketsToQueueCallback, arrivalDeficit, checkerPending,
        BoundedQueue.items_tryEnqueue hfull, List.length_append, List.length_singleton]
      omega
  | check input => exact process.arrivalDeficit_checkPackets input
  | publish input =>
    refine Or.inr ⟨id, ?_⟩
    have hcase := process.publishGoodPackets_case input
    rw [act]
    generalize process.publishGoodPackets input = after at hcase ⊢
    cases hcase <;> rfl
  | stop => exact Or.inr ⟨id, rfl⟩

theorem not_losesAllowed (process : Process) (input : CheckInput)
    (hpc : ∀ arrival, process.checker ≠ .enqueue arrival) :
    ¬ process.LosesAllowed (.check input) := by
  rintro ⟨-, arrival, henqueue⟩
  exact hpc arrival henqueue

/-- A step that allows nothing and hands nothing on leaves the publisher's account
    alone. -/
theorem allowedDeficit_of_quiet {process : Process} {input : CheckInput} (next : Process)
    (hpc : ∀ arrival, process.checker ≠ .enqueue arrival)
    (hallowed : next.nAllowed = process.nAllowed)
    (hpending : next.publisherPending = process.publisherPending)
    (hpublisher : next.publisher = process.publisher)
    (hqueue : next.mMessagesToPublishQueue = process.mMessagesToPublishQueue)
    (hlog : next.publishLog = process.publishLog) :
    (process.LosesAllowed (.check input) ∧ next.allowedDeficit = process.allowedDeficit + 1) ∨
      (¬ process.LosesAllowed (.check input) ∧
        next.allowedDeficit = process.allowedDeficit) := by
  refine Or.inr ⟨process.not_losesAllowed input hpc, ?_⟩
  simp only [allowedDeficit, countedTwice, hallowed, hpending, hpublisher, hqueue, hlog]

theorem verdict_of_scrutinize {testers asked : Testers} {readings : Readings}
    {arrival : Arrival} {verdict : Except StdException Bool}
    (hasked : testers.scrutinize readings arrival.packet = (asked, verdict)) :
    (⟨testers, readings, arrival⟩ : CheckRecord).verdict = verdict := by
  rw [CheckRecord.verdict, hasked]

theorem allowedDeficit_checkPackets (process : Process) (input : CheckInput) :
    (process.LosesAllowed (.check input) ∧
      (process.checkPackets input).allowedDeficit = process.allowedDeficit + 1) ∨
    (¬ process.LosesAllowed (.check input) ∧
      (process.checkPackets input).allowedDeficit = process.allowedDeficit) := by
  have hcase := process.checkPackets_case input
  generalize process.checkPackets input = after at hcase ⊢
  have hkept := process.not_losesAllowed input
  have hquiet := @allowedDeficit_of_quiet process input
  cases hcase with
  | entered hpc =>
    exact hquiet _ (by simp [hpc]) rfl (by simp [publisherPending, hpc]) rfl rfl rfl
  | exited hpc =>
    exact hquiet _ (by simp [hpc]) rfl (by simp [publisherPending, hpc]) rfl rfl rfl
  | trimming trim next queue hpc hstep =>
    exact hquiet _ (by simp [hpc]) rfl (by simp [publisherPending, hpc]) rfl rfl rfl
  | trimmed trim nDeleted queue hpc hstep =>
    exact hquiet _ (by simp [hpc]) rfl (by simp [publisherPending, hpc]) rfl rfl rfl
  | dequeued arrival hpc hpeek =>
    exact hquiet _ (by simp [hpc]) rfl (by simp [publisherPending, hpc]) rfl rfl rfl
  | idle hpc =>
    exact hquiet _ (by simp [hpc]) rfl (by simp [publisherPending, hpc]) rfl rfl rfl
  | threw arrival testers e hpc hasked =>
    refine hquiet _ (by simp [hpc]) ?_ (by simp [publisherPending, hpc]) rfl rfl rfl
    simp [nAllowed, History.check, verdict_of_scrutinize hasked]
  | allowed arrival testers hpc hasked =>
    refine Or.inr ⟨hkept (by simp [hpc]), ?_⟩
    simp only [allowedDeficit, nAllowed, countedTwice, publisherPending, hpc, History.check,
      List.countP_append, List.countP_singleton, verdict_of_scrutinize hasked, decide_true,
      if_true]
    omega
  | rejected arrival testers hpc hasked =>
    refine hquiet _ (by simp [hpc]) ?_ (by simp [publisherPending, hpc]) rfl rfl rfl
    simp [nAllowed, History.check, verdict_of_scrutinize hasked]
  | enqueued arrival hpc =>
    by_cases hfull : process.mMessagesToPublishQueue.Full
    · refine Or.inl ⟨⟨hfull, arrival, hpc⟩, ?_⟩
      simp only [allowedDeficit, nAllowed, countedTwice, publisherPending, hpc,
        BoundedQueue.tryEnqueue_of_full hfull]
      omega
    · refine Or.inr ⟨fun hlose => hfull hlose.1, ?_⟩
      simp only [allowedDeficit, nAllowed, countedTwice, publisherPending, hpc,
        BoundedQueue.items_tryEnqueue hfull, List.length_append, List.length_singleton]
      omega
  | reported hpc =>
    exact hquiet _ (by simp [hpc]) rfl (by simp [publisherPending, hpc]) rfl rfl rfl
  | gone hpc => exact Or.inr ⟨hkept (by simp [hpc]), rfl⟩

theorem allowedDeficit_publishGoodPackets {process : Process} (hfront : process.FrontHeld)
    (input : PublishInput) :
    (process.publishGoodPackets input).allowedDeficit = process.allowedDeficit := by
  have hcase := process.publishGoodPackets_case input
  generalize process.publishGoodPackets input = after at hcase ⊢
  have htrim := fun trim : Trim =>
    trim.count_step MAX_QUEUE_SIZE input.sizeApprox process.mMessagesToPublishQueue
  cases hcase with
  | entered hpc =>
    simp [allowedDeficit, nAllowed, countedTwice, publisherPending, hpc, Trim.nDeleted]
  | exited hpc => simp [allowedDeficit, nAllowed, countedTwice, publisherPending, hpc]
  | trimming trim next queue hpc hstep =>
    have hcount := htrim trim
    simp only [hstep, TrimResult.nDeleted] at hcount
    simp only [allowedDeficit, nAllowed, countedTwice, publisherPending, hpc]
    omega
  | trimmed trim nDeleted queue hpc hstep =>
    have hcount := htrim trim
    simp only [hstep, TrimResult.nDeleted] at hcount
    simp only [allowedDeficit, nAllowed, countedTwice, publisherPending, hpc,
      PerformanceLog.total_countNot, PerformanceLog.totalNot_countNot]
    omega
  | peeked arrival hpc => simp [allowedDeficit, nAllowed, countedTwice, publisherPending, hpc]
  | idle hpc => simp [allowedDeficit, nAllowed, countedTwice, publisherPending, hpc]
  | sent arrival hpc =>
    simp only [allowedDeficit, nAllowed, countedTwice, publisherPending, hpc, History.send,
      PerformanceLog.total_count, PerformanceLog.totalNot_count]
    omega
  | failed arrival e hpc =>
    simp only [allowedDeficit, nAllowed, countedTwice, publisherPending, hpc, History.send,
      PerformanceLog.total_countNot, PerformanceLog.totalNot_countNot]
    omega
  | popped hpc =>
    simp only [FrontHeld, hpc] at hfront
    obtain ⟨oldest, hpeek⟩ := hfront
    simp only [allowedDeficit, nAllowed, countedTwice, publisherPending, hpc,
      BoundedQueue.items_of_peek hpeek, List.length_cons]
    omega
  | reported hpc => simp [allowedDeficit, nAllowed, countedTwice, publisherPending, hpc]
  | gone => rfl

theorem allowedDeficit_act {process : Process} (hfront : process.FrontHeld) (action : Action) :
    (process.LosesAllowed action ∧
      (process.act action).allowedDeficit = process.allowedDeficit + 1) ∨
    (¬ process.LosesAllowed action ∧
      (process.act action).allowedDeficit = process.allowedDeficit) := by
  cases action with
  | deliver packet => exact Or.inr ⟨id, rfl⟩
  | check input => exact process.allowedDeficit_checkPackets input
  | publish input => exact Or.inr ⟨id, allowedDeficit_publishGoodPackets hfront input⟩
  | stop => exact Or.inr ⟨id, rfl⟩

/-! ### Between iterations -/

def checkerBetween (process : Process) : Bool :=
  match process.checker with
  | .loopTop => true
  | .left => true
  | _ => false

def publisherBetween (process : Process) : Bool :=
  match process.publisher with
  | .loopTop => true
  | .left => true
  | _ => false

/-- No thread is in the middle of an iteration. -/
def Between (process : Process) : Prop :=
  process.checkerBetween = true ∧ process.publisherBetween = true

instance (process : Process) : Decidable process.Between :=
  inferInstanceAs (Decidable (_ ∧ _))

/-- Nothing is lost silently: every packet delivered is waiting to be checked or
    counted by the checker, and every packet allowed is waiting to be published or
    counted by the publisher.  The counters are those that were never reset. -/
structure Accounted (process : Process) : Prop where
  delivered : process.history.arrivals.length =
    process.mPacketsToCheckQueue.items.length + process.checkLog.total +
      process.checkLog.totalNot
  allowed : process.nAllowed =
    process.mMessagesToPublishQueue.items.length + process.publishLog.total +
      process.publishLog.totalNot

theorem accounted_iff_deficits {process : Process} (h : process.Between) :
    process.Accounted ↔ process.arrivalDeficit = 0 ∧ process.allowedDeficit = 0 := by
  obtain ⟨hchecker, hpublisher⟩ := h
  have hpending : process.checkerPending = 0 ∧ process.publisherPending = 0 ∧
      process.countedTwice = 0 := by
    cases hc : process.checker <;> simp only [checkerBetween, hc, Bool.false_eq_true] at hchecker
    all_goals
      cases hp : process.publisher <;>
        simp only [publisherBetween, hp, Bool.false_eq_true] at hpublisher
      all_goals simp [checkerPending, publisherPending, countedTwice, hc, hp]
  simp only [arrivalDeficit, allowedDeficit, hpending]
  constructor
  · rintro ⟨hdelivered, hallowed⟩
    omega
  · rintro ⟨hdelivered, hallowed⟩
    exact ⟨by omega, by omega⟩

end Process

/-- **When the counters add up.**  For every interleaving that ends with both consumers
    between iterations, every packet delivered and every packet allowed is accounted
    for if and only if no step offered a packet to a full queue and none scrutinized,
    with a future tester, a packet without an end time. -/
theorem accounted_iff (testers : Testers) (checkCapacity publishCapacity : Nat)
    (checkerEntered publisherEntered : Int64) (actions : List Action)
    (hbetween : (sanitizer.after (Process.start testers checkCapacity publishCapacity
      checkerEntered publisherEntered) actions).Between) :
    (sanitizer.after (Process.start testers checkCapacity publishCapacity checkerEntered
        publisherEntered) actions).Accounted ↔
      sanitizer.Always (fun process action =>
          ¬ process.LosesArrival action ∧ ¬ process.LosesAllowed action)
        (Process.start testers checkCapacity publishCapacity checkerEntered publisherEntered)
        actions := by
  have hstart := inOrder_start testers checkCapacity publishCapacity checkerEntered
    publisherEntered
  have harrivals := sanitizer.eq_zero_after_iff (I := fun _ => True) (f := Process.arrivalDeficit)
    (fun _ _ _ => trivial) (fun process action _ => process.arrivalDeficit_act action)
    (s := Process.start testers checkCapacity publishCapacity checkerEntered publisherEntered)
    trivial (le_refl 0) actions
  have hallowed := sanitizer.eq_zero_after_iff (I := Process.FrontHeld)
    (f := Process.allowedDeficit)
    (fun _ action h => Process.frontHeld_act h action)
    (fun _ action h => Process.allowedDeficit_act h action) hstart.front (le_refl 0) actions
  rw [Process.accounted_iff_deficits hbetween, harrivals, hallowed, Machine.always_and_iff]
  exact ⟨fun h => ⟨h.1.2, h.2.2⟩, fun h => ⟨⟨rfl, h.1⟩, ⟨rfl, h.2⟩⟩⟩

theorem fork_packet_accounted :
    let run := .deliver (.forkPacket (.double [.finite 1])) :: checks 6 ++ publishes 6
    let process := Process.start defaultTesters 511 511 0 0
    (sanitizer.after process run).Accounted ↔
      sanitizer.Always (fun process action =>
        ¬ process.LosesArrival action ∧ ¬ process.LosesAllowed action) process run := by
  exact accounted_iff defaultTesters 511 511 0 0 _ (by decide +kernel)

/-- A packet without samples: the future tester throws, and the packet is in no queue
    and in no counter. -/
theorem fork_empty_packet_lost :
    let process := sanitizer.after (Process.start defaultTesters 511 511 0 0)
      (.deliver (.forkPacket (.double [])) :: checks 5)
    process.Between ∧ ¬ process.Accounted := by
  intro process
  have hdelivered : process.history.arrivals.length ≠
      process.mPacketsToCheckQueue.items.length + process.checkLog.total +
        process.checkLog.totalNot := by
    decide +kernel
  exact ⟨by decide +kernel, fun h => hdelivered h.delivered⟩

end Us8
