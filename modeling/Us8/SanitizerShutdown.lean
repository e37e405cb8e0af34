/-
  Us8/SanitizerShutdown.lean
  ==========================
  **The sanitizer's consumers end after `stop`.**

  `stop` clears `mKeepRunning` and joins the two consumer threads.  Both look at the flag
  only at the top of their loop, and the loop that shortens a queue does not look at it
  at all: it goes on as long as the queue reports itself too long.  Still a consumer ends
  after a bounded number of its own steps, whatever size its queue reports, because each
  turn of that loop removes a packet (`rank_eq_zero_after`).  For the publisher the bound
  is set when `stop` is called; the checker's grows with every packet that is still
  delivered.

  What happens to the packets: at most one more is checked and at most one more is sent.
  All others stay in the queues.
-/
import Us8.SanitizerFilter

namespace Us8

namespace Process

/-! ### How far a stopped thread is from its end -/

/-- The own steps left in a trimming loop over `n` packets and after it. -/
def trimRank (n : Nat) : Trim → Nat
  | .first => 2 * n + 8
  | .again _ => 2 * n + 7
  | .remove _ => 2 * n + 6

def checkerRank (process : Process) : Nat :=
  match process.checker with
  | .left => 0
  | .loopTop => 1
  | .bottom => 2
  | .enqueue _ => 3
  | .scrutinize _ => 4
  | .dequeue => 5
  | .trimming trim => trimRank process.mPacketsToCheckQueue.items.length trim

/-- The checker may still hand a packet on. -/
def mayHandOn (process : Process) : Nat :=
  match process.checker with
  | .left => 0
  | .loopTop => 0
  | .bottom => 0
  | _ => 1

/-- A packet that the checker still hands on costs the publisher one turn of its loop. -/
def publisherRank (process : Process) : Nat :=
  match process.publisher with
  | .left => 0
  | .loopTop => 1
  | .bottom => 2
  | .pop => 3
  | .send _ => 4
  | .peek => 5
  | .trimming trim =>
      trimRank (process.mMessagesToPublishQueue.items.length + process.mayHandOn) trim

theorem trimRank_step (trim : Trim) (sizeApprox : Nat) (queue : BoundedQueue Arrival) (n : Nat) :
    match trim.step MAX_QUEUE_SIZE sizeApprox queue with
    | (after, .next next) =>
        trimRank (after.items.length + n) next + 1 ≤ trimRank (queue.items.length + n) trim
    | (_, .done _) => 5 + 1 ≤ trimRank (queue.items.length + n) trim := by
  cases trim with
  | first =>
    simp only [Trim.step]
    split_ifs <;> simp only [trimRank] <;> omega
  | again nDeleted =>
    simp only [Trim.step]
    split_ifs <;> simp only [trimRank] <;> omega
  | remove nDeleted =>
    unfold Trim.step
    cases hpeek : queue.peek with
    | none => simp only [trimRank]; omega
    | some arrival =>
      simp only [trimRank, BoundedQueue.items_of_peek hpeek, List.length_cons]
      omega

theorem trimRank_mono {n k : Nat} (h : n ≤ k) (trim : Trim) :
    trimRank n trim ≤ trimRank k trim := by
  cases trim <;> simp only [trimRank] <;> omega

/-! ### The checker -/

theorem checkerRank_checkPackets {process : Process} (hstopped : process.mKeepRunning = false)
    (input : CheckInput) :
    (process.checkPackets input).checkerRank ≤ process.checkerRank - 1 := by
  have hcase := process.checkPackets_case input
  generalize process.checkPackets input = after at hcase ⊢
  cases hcase with
  | entered hpc hrunning =>
    rw [hstopped] at hrunning
    cases hrunning
  | exited hpc => simp [checkerRank, hpc]
  | trimming trim next queue hpc hstep =>
    have hrank := trimRank_step trim input.sizeApprox process.mPacketsToCheckQueue 0
    rw [hstep] at hrank
    simp only [checkerRank, hpc]
    exact Nat.le_sub_one_of_lt hrank
  | trimmed trim nDeleted queue hpc hstep =>
    have hrank := trimRank_step trim input.sizeApprox process.mPacketsToCheckQueue 0
    rw [hstep] at hrank
    simp only [checkerRank, hpc]
    exact Nat.le_sub_one_of_lt hrank
  | gone hpc => simp [checkerRank, hpc]
  | dequeued arrival hpc => simp [checkerRank, hpc]
  | idle hpc => simp [checkerRank, hpc]
  | threw arrival testers e hpc => simp [checkerRank, hpc]
  | allowed arrival testers hpc => simp [checkerRank, hpc]
  | rejected arrival testers hpc => simp [checkerRank, hpc]
  | enqueued arrival hpc => simp [checkerRank, hpc]
  | reported hpc => simp [checkerRank, hpc]

theorem checkerRank_publishGoodPackets (process : Process) (input : PublishInput) :
    (process.publishGoodPackets input).checkerRank = process.checkerRank := by
  have hcase := process.publishGoodPackets_case input
  generalize process.publishGoodPackets input = after at hcase ⊢
  cases hcase <;> rfl

/-- A delivered packet is at most one more that the checker may have to remove. -/
theorem checkerRank_deliver (process : Process) (packet : DataPacket) :
    (process.inputPacketsToQueueCallback packet).checkerRank ≤ process.checkerRank + 2 := by
  have hlength : (process.mPacketsToCheckQueue.tryEnqueue
      ⟨process.history.arrivals.length, packet⟩).items.length ≤
      process.mPacketsToCheckQueue.items.length + 1 := by
    by_cases hfull : process.mPacketsToCheckQueue.Full
    · rw [BoundedQueue.tryEnqueue_of_full hfull]
      omega
    · rw [BoundedQueue.items_tryEnqueue hfull, List.length_append, List.length_singleton]
  unfold checkerRank
  cases hpc : process.checker with
  | trimming trim =>
    simp only [inputPacketsToQueueCallback, hpc]
    cases trim <;> simp only [trimRank] <;> omega
  | _ => simp [inputPacketsToQueueCallback, hpc]

theorem checkerRank_le (process : Process) :
    process.checkerRank ≤ 2 * process.mPacketsToCheckQueue.items.length + 8 := by
  unfold checkerRank
  cases hpc : process.checker with
  | trimming trim => cases trim <;> simp only [trimRank] <;> omega
  | _ => simp only; omega

theorem checker_left_of_rank {process : Process} (h : process.checkerRank = 0) :
    process.checker = .left := by
  unfold checkerRank at h
  cases hpc : process.checker with
  | left => rfl
  | trimming trim => cases trim <;> simp [hpc, trimRank] at h
  | _ => simp [hpc] at h

/-! ### The publisher -/

theorem publisherRank_publishGoodPackets {process : Process}
    (hstopped : process.mKeepRunning = false) (input : PublishInput) :
    (process.publishGoodPackets input).publisherRank ≤ process.publisherRank - 1 := by
  have hcase := process.publishGoodPackets_case input
  generalize process.publishGoodPackets input = after at hcase ⊢
  cases hcase with
  | entered hpc hrunning =>
    rw [hstopped] at hrunning
    cases hrunning
  | exited hpc => simp [publisherRank, hpc]
  | trimming trim next queue hpc hstep =>
    have hrank := trimRank_step trim input.sizeApprox process.mMessagesToPublishQueue
      process.mayHandOn
    rw [hstep] at hrank
    simp only [publisherRank, hpc]
    exact Nat.le_sub_one_of_lt hrank
  | trimmed trim nDeleted queue hpc hstep =>
    have hrank := trimRank_step trim input.sizeApprox process.mMessagesToPublishQueue
      process.mayHandOn
    rw [hstep] at hrank
    simp only [publisherRank, hpc]
    exact Nat.le_sub_one_of_lt hrank
  | gone hpc => simp [publisherRank, hpc]
  | peeked arrival hpc => simp [publisherRank, hpc]
  | idle hpc => simp [publisherRank, hpc]
  | sent arrival hpc => simp [publisherRank, hpc]
  | failed arrival e hpc => simp [publisherRank, hpc]
  | popped hpc => simp [publisherRank, hpc]
  | reported hpc => simp [publisherRank, hpc]

/-- A stopped checker hands on at most the packet it may still hand on. -/
theorem handOn_checkPackets {process : Process} (hstopped : process.mKeepRunning = false)
    (input : CheckInput) :
    (process.checkPackets input).mMessagesToPublishQueue.items.length +
        (process.checkPackets input).mayHandOn ≤
      process.mMessagesToPublishQueue.items.length + process.mayHandOn := by
  have hcase := process.checkPackets_case input
  generalize process.checkPackets input = after at hcase ⊢
  cases hcase with
  | entered hpc hrunning =>
    rw [hstopped] at hrunning
    cases hrunning
  | enqueued arrival hpc =>
    simp only [mayHandOn, hpc]
    by_cases hfull : process.mMessagesToPublishQueue.Full
    · rw [BoundedQueue.tryEnqueue_of_full hfull]
      omega
    · rw [BoundedQueue.items_tryEnqueue hfull, List.length_append, List.length_singleton]
  | gone => exact le_refl _
  | exited hpc => simp [mayHandOn, hpc]
  | trimming trim next queue hpc => simp [mayHandOn, hpc]
  | trimmed trim nDeleted queue hpc => simp [mayHandOn, hpc]
  | dequeued arrival hpc => simp [mayHandOn, hpc]
  | idle hpc => simp [mayHandOn, hpc]
  | threw arrival testers e hpc => simp [mayHandOn, hpc]
  | allowed arrival testers hpc => simp [mayHandOn, hpc]
  | rejected arrival testers hpc => simp [mayHandOn, hpc]
  | reported hpc => simp [mayHandOn, hpc]

@[simp] theorem publisher_checkPackets (process : Process) (input : CheckInput) :
    (process.checkPackets input).publisher = process.publisher := by
  have hcase := process.checkPackets_case input
  generalize process.checkPackets input = after at hcase ⊢
  cases hcase <;> rfl

theorem publisherRank_checkPackets {process : Process} (hstopped : process.mKeepRunning = false)
    (input : CheckInput) :
    (process.checkPackets input).publisherRank ≤ process.publisherRank := by
  have hhand := handOn_checkPackets hstopped input
  unfold publisherRank
  rw [publisher_checkPackets]
  cases process.publisher with
  | trimming trim => exact trimRank_mono hhand trim
  | _ => exact le_refl _

theorem publisherRank_le (process : Process) :
    process.publisherRank ≤ 2 * process.mMessagesToPublishQueue.items.length + 10 := by
  have hhand : process.mayHandOn ≤ 1 := by
    unfold mayHandOn
    split <;> omega
  unfold publisherRank
  cases hpc : process.publisher with
  | trimming trim => cases trim <;> simp only [trimRank] <;> omega
  | _ => simp only; omega

theorem publisher_left_of_rank {process : Process} (h : process.publisherRank = 0) :
    process.publisher = .left := by
  unfold publisherRank at h
  cases hpc : process.publisher with
  | left => rfl
  | trimming trim => cases trim <;> simp [hpc, trimRank] at h
  | _ => simp [hpc] at h

/-! ### What is still checked and sent -/

/-- The packets that a stopped process has checked, or may still check. -/
def checksLeft (process : Process) : Nat :=
  match process.checker with
  | .trimming _ => 1
  | .dequeue => 1
  | .scrutinize _ => 1
  | _ => 0

def sendsLeft (process : Process) : Nat :=
  match process.publisher with
  | .trimming _ => 1
  | .peek => 1
  | .send _ => 1
  | _ => 0

theorem checksLeft_checkPackets {process : Process} (hstopped : process.mKeepRunning = false)
    (input : CheckInput) :
    (process.checkPackets input).history.checks.length + (process.checkPackets input).checksLeft ≤
      process.history.checks.length + process.checksLeft := by
  have hcase := process.checkPackets_case input
  generalize process.checkPackets input = after at hcase ⊢
  cases hcase with
  | entered hpc hrunning =>
    rw [hstopped] at hrunning
    cases hrunning
  | gone => exact le_refl _
  | exited hpc => simp [checksLeft, hpc]
  | trimming trim next queue hpc => simp [checksLeft, hpc]
  | trimmed trim nDeleted queue hpc => simp [checksLeft, hpc]
  | dequeued arrival hpc => simp [checksLeft, hpc]
  | idle hpc => simp [checksLeft, hpc]
  | threw arrival testers e hpc => simp [checksLeft, hpc, History.check]
  | allowed arrival testers hpc => simp [checksLeft, hpc, History.check]
  | rejected arrival testers hpc => simp [checksLeft, hpc, History.check]
  | enqueued arrival hpc => simp [checksLeft, hpc]
  | reported hpc => simp [checksLeft, hpc]

theorem sendsLeft_publishGoodPackets {process : Process}
    (hstopped : process.mKeepRunning = false) (input : PublishInput) :
    (process.publishGoodPackets input).history.sends.length +
        (process.publishGoodPackets input).sendsLeft ≤
      process.history.sends.length + process.sendsLeft := by
  have hcase := process.publishGoodPackets_case input
  generalize process.publishGoodPackets input = after at hcase ⊢
  cases hcase with
  | entered hpc hrunning =>
    rw [hstopped] at hrunning
    cases hrunning
  | gone => exact le_refl _
  | exited hpc => simp [sendsLeft, hpc]
  | trimming trim next queue hpc => simp [sendsLeft, hpc]
  | trimmed trim nDeleted queue hpc => simp [sendsLeft, hpc]
  | peeked arrival hpc => simp [sendsLeft, hpc]
  | idle hpc => simp [sendsLeft, hpc]
  | sent arrival hpc => simp [sendsLeft, hpc, History.send]
  | failed arrival e hpc => simp [sendsLeft, hpc, History.send]
  | popped hpc => simp [sendsLeft, hpc]
  | reported hpc => simp [sendsLeft, hpc]

/-! ### After `stop` -/

theorem mKeepRunning_act {process : Process} (hstopped : process.mKeepRunning = false)
    (action : Action) : (process.act action).mKeepRunning = false := by
  cases action with
  | deliver packet => exact hstopped
  | check input =>
    have hcase := process.checkPackets_case input
    rw [act]
    generalize process.checkPackets input = after at hcase ⊢
    cases hcase <;> exact hstopped
  | publish input =>
    have hcase := process.publishGoodPackets_case input
    rw [act]
    generalize process.publishGoodPackets input = after at hcase ⊢
    cases hcase <;> exact hstopped
  | stop => rfl

theorem checksLeft_act {process : Process} (hstopped : process.mKeepRunning = false)
    (action : Action) :
    (process.act action).history.checks.length + (process.act action).checksLeft ≤
      process.history.checks.length + process.checksLeft := by
  cases action with
  | check input => exact checksLeft_checkPackets hstopped input
  | publish input =>
    have hcase := process.publishGoodPackets_case input
    rw [act]
    generalize process.publishGoodPackets input = after at hcase ⊢
    cases hcase <;> exact le_refl _
  | deliver packet => exact le_refl _
  | stop => exact le_refl _

theorem sendsLeft_act {process : Process} (hstopped : process.mKeepRunning = false)
    (action : Action) :
    (process.act action).history.sends.length + (process.act action).sendsLeft ≤
      process.history.sends.length + process.sendsLeft := by
  cases action with
  | publish input => exact sendsLeft_publishGoodPackets hstopped input
  | check input =>
    have hcase := process.checkPackets_case input
    rw [act]
    generalize process.checkPackets input = after at hcase ⊢
    cases hcase <;> exact le_refl _
  | deliver packet => exact le_refl _
  | stop => exact le_refl _

theorem checksLeft_le (process : Process) : process.checksLeft ≤ 1 := by
  unfold checksLeft
  split <;> omega

theorem sendsLeft_le (process : Process) : process.sendsLeft ≤ 1 := by
  unfold sendsLeft
  split <;> omega

end Process

def Action.isCheck : Action → Bool
  | .check _ => true
  | _ => false

def Action.isPublish : Action → Bool
  | .publish _ => true
  | _ => false

def Action.isDeliver : Action → Bool
  | .deliver _ => true
  | _ => false

open Process

theorem checker_leaves {process : Process} (hstopped : process.mKeepRunning = false)
    {actions : List Action}
    (hcount : process.checkerRank + 2 * actions.countP Action.isDeliver ≤
      actions.countP Action.isCheck) :
    (sanitizer.after process actions).checkerRank = 0 := by
  apply sanitizer.rank_eq_zero_after (I := fun process => process.mKeepRunning = false)
    (fun _ action h => mKeepRunning_act h action) _ _ _ hstopped hcount
  · intro process action h hzero
    cases action with
    | deliver packet =>
      simp only [sanitizer, act, inputPacketsToQueueCallback, checkerRank,
        checker_left_of_rank hzero]
    | check input =>
      have hrank := checkerRank_checkPackets h input
      simp only [sanitizer, act]
      omega
    | publish input => exact (process.checkerRank_publishGoodPackets input).trans hzero
    | stop => exact hzero
  · intro process action h hcheck
    cases action with
    | check input => exact checkerRank_checkPackets h input
    | _ => cases hcheck
  · intro process action h hother
    cases action with
    | deliver packet => exact ⟨process.checkerRank_deliver packet, fun hnot => by cases hnot⟩
    | check input => cases hother
    | publish input =>
      have hsame := process.checkerRank_publishGoodPackets input
      exact ⟨(le_of_eq hsame).trans (Nat.le_add_right _ _), fun _ => le_of_eq hsame⟩
    | stop => exact ⟨Nat.le_add_right _ _, fun _ => le_refl _⟩

theorem publisher_leaves {process : Process} (hstopped : process.mKeepRunning = false)
    {actions : List Action} (hcount : process.publisherRank ≤ actions.countP Action.isPublish) :
    (sanitizer.after process actions).publisherRank = 0 := by
  have hnone : process.publisherRank + 0 * actions.countP (fun _ => false) ≤
      actions.countP Action.isPublish := by simpa using hcount
  apply sanitizer.rank_eq_zero_after (I := fun process => process.mKeepRunning = false)
    (fun _ action h => mKeepRunning_act h action) _ _ _ hstopped hnone
  · intro process action h hzero
    cases action with
    | deliver packet => exact hzero
    | check input =>
      have hrank := publisherRank_checkPackets h input
      simp only [sanitizer, act]
      omega
    | publish input =>
      have hrank := publisherRank_publishGoodPackets h input
      simp only [sanitizer, act]
      omega
    | stop => exact hzero
  · intro process action h hpublish
    cases action with
    | publish input => exact publisherRank_publishGoodPackets h input
    | _ => cases hpublish
  · intro process action h hother
    cases action with
    | deliver packet => exact ⟨le_refl _, fun _ => le_refl _⟩
    | check input =>
      have hless := publisherRank_checkPackets h input
      exact ⟨hless, fun _ => hless⟩
    | publish input => cases hother
    | stop => exact ⟨le_refl _, fun _ => le_refl _⟩

/-- **After `stop` both consumers end, and the stream with them.**  From every state and
    whatever happens then: the checker has left after as many of its own steps as twice the
    packets in its queue and those delivered later, and eight; the publisher after twice
    those in its queue, and ten.  No more than one packet is still checked, and no more
    than one sent. -/
theorem consumers_end_after_stop (process : Process) (actions : List Action) :
    let last := sanitizer.after process.stop actions
    (2 * (process.mPacketsToCheckQueue.items.length + actions.countP Action.isDeliver) + 8 ≤
        actions.countP Action.isCheck → last.checker = .left) ∧
    (2 * process.mMessagesToPublishQueue.items.length + 10 ≤
        actions.countP Action.isPublish → last.publisher = .left) ∧
    last.history.checks.length ≤ process.history.checks.length + 1 ∧
    last.history.sends.length ≤ process.history.sends.length + 1 := by
  intro last
  have hbound : last.history.checks.length + last.checksLeft ≤
        process.stop.history.checks.length + process.stop.checksLeft ∧
      last.history.sends.length + last.sendsLeft ≤
        process.stop.history.sends.length + process.stop.sendsLeft ∧
      last.mKeepRunning = false := by
    apply sanitizer.after_invariant (I := fun after =>
      after.history.checks.length + after.checksLeft ≤
        process.stop.history.checks.length + process.stop.checksLeft ∧
      after.history.sends.length + after.sendsLeft ≤
        process.stop.history.sends.length + process.stop.sendsLeft ∧
      after.mKeepRunning = false)
    · rintro after action ⟨hchecks, hsends, hstopped⟩
      exact ⟨(checksLeft_act hstopped action).trans hchecks,
        (sendsLeft_act hstopped action).trans hsends, mKeepRunning_act hstopped action⟩
    · exact ⟨le_refl _, le_refl _, rfl⟩
  have hchecksLeft := process.stop.checksLeft_le
  have hsendsLeft := process.stop.sendsLeft_le
  refine ⟨?_, ?_, ?_, ?_⟩
  · intro hcount
    have hrank := process.stop.checkerRank_le
    apply checker_left_of_rank
    apply checker_leaves rfl
    have hqueue : process.stop.mPacketsToCheckQueue = process.mPacketsToCheckQueue := rfl
    rw [hqueue] at hrank
    omega
  · intro hcount
    apply publisher_left_of_rank
    apply publisher_leaves rfl
    exact process.stop.publisherRank_le.trans hcount
  · have hsame : process.stop.history = process.history := rfl
    rw [hsame] at hbound
    omega
  · have hsame : process.stop.history = process.history := rfl
    rw [hsame] at hbound
    omega

end Us8
