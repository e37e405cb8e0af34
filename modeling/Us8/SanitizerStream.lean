/-
  Us8/SanitizerStream.lean
  ========================
  **What the sanitizer sends is an ordered, checked part of what it receives, under
  every interleaving of its threads.**

  Read the packets off in the order sent, waiting to be sent, being checked, waiting
  to be checked: that is the `line`.  No step ever swaps two packets of it.  A step
  moves a packet from one stage to the next, which leaves the line as it is, or drops
  one, or adds a new arrival at the end.  So the line is at all times a sublist of the
  arrivals in the order of their numbers (`line_act`), and its beginning is what has
  been sent.

  The one place where a packet is in two stages is the publisher between sending and
  removing: the oldest packet of its queue is then already sent, and `waiting` does
  not count it again.  `FrontHeld` says that this oldest packet is the one that was
  looked at, which holds because no other thread removes packets from that queue.
-/
import Us8.SanitizerThreads

namespace Us8

def numbered (arrivals : List DataPacket) : List Arrival := arrivals.mapIdx Arrival.mk

theorem numbered_concat (arrivals : List DataPacket) (packet : DataPacket) :
    numbered (arrivals ++ [packet]) = numbered arrivals ++ [⟨arrivals.length, packet⟩] :=
  List.mapIdx_concat

theorem numbered_increasing (arrivals : List DataPacket) :
    (numbered arrivals).Pairwise fun a b => a.index < b.index := by
  rw [List.pairwise_iff_getElem]
  intro i j hi hj hij
  simpa [numbered] using hij

theorem getElem?_of_mem_numbered {arrivals : List DataPacket} {a : Arrival}
    (h : a ∈ numbered arrivals) : arrivals[a.index]? = some a.packet := by
  obtain ⟨i, hi, rfl⟩ := List.mem_mapIdx.mp h
  exact List.getElem?_eq_getElem hi

theorem map_packet_numbered (arrivals : List DataPacket) :
    (numbered arrivals).map Arrival.packet = arrivals :=
  List.ext_getElem (by simp [numbered]) fun i hi hi' => by simp [numbered]

namespace Process

/-! ### The line of packets -/

def inCheck (process : Process) : List Arrival :=
  match process.checker with
  | .scrutinize arrival => [arrival]
  | .enqueue arrival => [arrival]
  | _ => []

/-- The packets of the publish queue that have not been passed to `send`. -/
def waiting (process : Process) : List Arrival :=
  match process.publisher with
  | .pop => process.mMessagesToPublishQueue.items.tail
  | _ => process.mMessagesToPublishQueue.items

/-- All packets in the sanitizer and those it has sent, oldest first. -/
def line (process : Process) : List Arrival :=
  process.history.sends ++ process.waiting ++
    (process.inCheck ++ process.mPacketsToCheckQueue.items)

def FrontHeld (process : Process) : Prop :=
  match process.publisher with
  | .send arrival => process.mMessagesToPublishQueue.peek = some arrival
  | .pop => ∃ arrival, process.mMessagesToPublishQueue.peek = some arrival
  | _ => True

theorem waiting_checkerEnqueue (process : Process) (arrival : Arrival) :
    (process.checkerEnqueue arrival).waiting.Sublist (process.waiting ++ [arrival]) := by
  by_cases hfull : process.mMessagesToPublishQueue.Full
  · have hsame : (process.checkerEnqueue arrival).waiting = process.waiting := by
      simp [checkerEnqueue, waiting, BoundedQueue.tryEnqueue_of_full hfull]
    rw [hsame]
    exact List.sublist_append_left _ _
  · have hitems := BoundedQueue.items_tryEnqueue hfull arrival
    unfold waiting checkerEnqueue
    dsimp only
    rw [hitems]
    split
    · -- the oldest packet is not counted, and with an empty queue it would be the new one
      cases process.mMessagesToPublishQueue.items with
      | nil => exact List.nil_sublist _
      | cons oldest rest => exact List.Sublist.refl _
    · exact List.Sublist.refl _

theorem line_checkPackets (process : Process) (input : CheckInput) :
    (process.checkPackets input).line.Sublist process.line := by
  have hcase := process.checkPackets_case input
  generalize process.checkPackets input = after at hcase ⊢
  -- the part sent and waiting changes only when a packet is handed on
  have hsame : ∀ next : Process, next.history.sends = process.history.sends →
      next.waiting = process.waiting →
      (next.inCheck ++ next.mPacketsToCheckQueue.items).Sublist
        (process.inCheck ++ process.mPacketsToCheckQueue.items) →
      next.line.Sublist process.line := by
    intro next hsends hwaiting hcheck
    rw [line, hsends, hwaiting]
    exact (List.Sublist.refl _).append hcheck
  have htrim : ∀ trim : Trim, (trim.step MAX_QUEUE_SIZE input.sizeApprox
      process.mPacketsToCheckQueue).1.items.Sublist process.mPacketsToCheckQueue.items :=
    fun trim => trim.items_step _ _ _
  cases hcase with
  | entered hpc => exact hsame _ rfl rfl (by simp [inCheck, hpc])
  | exited hpc => exact hsame _ rfl rfl (by simp [inCheck, hpc])
  | trimming trim next queue hpc hstep =>
    exact hsame _ rfl rfl (by simpa [inCheck, hpc, hstep] using htrim trim)
  | trimmed trim nDeleted queue hpc hstep =>
    exact hsame _ rfl rfl (by simpa [inCheck, hpc, hstep] using htrim trim)
  | dequeued arrival hpc hpeek =>
    refine hsame _ rfl rfl ?_
    rw [BoundedQueue.items_of_peek hpeek]
    simp [inCheck, hpc]
  | idle hpc => exact hsame _ rfl rfl (by simp [inCheck, hpc])
  | threw arrival testers e hpc => exact hsame _ rfl rfl (by simp [inCheck, hpc])
  | allowed arrival testers hpc => exact hsame _ rfl rfl (by simp [inCheck, hpc])
  | rejected arrival testers hpc => exact hsame _ rfl rfl (by simp [inCheck, hpc])
  | enqueued arrival hpc =>
    have hfront := (List.Sublist.refl process.history.sends).append
      (process.waiting_checkerEnqueue arrival)
    have hline := hfront.append (List.Sublist.refl process.mPacketsToCheckQueue.items)
    simpa [line, inCheck, hpc, checkerEnqueue] using hline
  | reported hpc => exact hsame _ rfl rfl (by simp [inCheck, hpc])
  | gone => exact List.Sublist.refl _

theorem line_publishGoodPackets {process : Process} (hfront : process.FrontHeld)
    (input : PublishInput) : (process.publishGoodPackets input).line.Sublist process.line := by
  have hcase := process.publishGoodPackets_case input
  generalize process.publishGoodPackets input = after at hcase ⊢
  have hsame : ∀ next : Process, next.inCheck = process.inCheck →
      next.mPacketsToCheckQueue = process.mPacketsToCheckQueue →
      (next.history.sends ++ next.waiting).Sublist
        (process.history.sends ++ process.waiting) →
      next.line.Sublist process.line := by
    intro next hcheck hqueue hpublish
    rw [line, hcheck, hqueue]
    exact hpublish.append (List.Sublist.refl _)
  have htrim : ∀ trim : Trim, (trim.step MAX_QUEUE_SIZE input.sizeApprox
      process.mMessagesToPublishQueue).1.items.Sublist process.mMessagesToPublishQueue.items :=
    fun trim => trim.items_step _ _ _
  -- the packet sent is the oldest one waiting
  have hsend : ∀ arrival, process.publisher = .send arrival →
      process.waiting = arrival :: process.mMessagesToPublishQueue.items.tail := by
    intro arrival hpc
    simp only [FrontHeld, hpc] at hfront
    simpa [waiting, hpc] using BoundedQueue.items_of_peek hfront
  cases hcase with
  | entered hpc => exact hsame _ rfl rfl (by simp [waiting, hpc])
  | exited hpc => exact hsame _ rfl rfl (by simp [waiting, hpc])
  | trimming trim next queue hpc hstep =>
    exact hsame _ rfl rfl (by simpa [waiting, hpc, hstep] using htrim trim)
  | trimmed trim nDeleted queue hpc hstep =>
    exact hsame _ rfl rfl (by simpa [waiting, hpc, hstep] using htrim trim)
  | peeked arrival hpc => exact hsame _ rfl rfl (by simp [waiting, hpc])
  | idle hpc => exact hsame _ rfl rfl (by simp [waiting, hpc])
  | sent arrival hpc =>
    refine hsame _ rfl rfl ?_
    rw [hsend arrival hpc]
    simp [waiting, History.send]
  | failed arrival e hpc =>
    refine hsame _ rfl rfl ?_
    rw [hsend arrival hpc]
    simp [waiting, History.send]
  | popped hpc => exact hsame _ rfl rfl (by simp [waiting, hpc])
  | reported hpc => exact hsame _ rfl rfl (by simp [waiting, hpc])
  | gone => exact List.Sublist.refl _

theorem line_inputPacketsToQueueCallback (process : Process) (packet : DataPacket) :
    (process.inputPacketsToQueueCallback packet).line.Sublist
      (process.line ++ [⟨process.history.arrivals.length, packet⟩]) := by
  by_cases hfull : process.mPacketsToCheckQueue.Full
  · have hsame : (process.inputPacketsToQueueCallback packet).line = process.line := by
      simp [line, waiting, inCheck, inputPacketsToQueueCallback,
        BoundedQueue.tryEnqueue_of_full hfull]
    rw [hsame]
    exact List.sublist_append_left _ _
  · simp [line, waiting, inCheck, inputPacketsToQueueCallback,
      BoundedQueue.items_tryEnqueue hfull]

/-! ### The front of the publish queue -/

theorem frontHeld_of_publish_eq {before after : Process} (h : before.FrontHeld)
    (hpc : after.publisher = before.publisher)
    (hqueue : after.mMessagesToPublishQueue = before.mMessagesToPublishQueue) :
    after.FrontHeld := by
  unfold FrontHeld at h ⊢
  rwa [hpc, hqueue]

/-- `checkPackets` only ever appends to the publish queue. -/
theorem frontHeld_checkPackets {process : Process} (h : process.FrontHeld) (input : CheckInput) :
    (process.checkPackets input).FrontHeld := by
  have hcase := process.checkPackets_case input
  generalize process.checkPackets input = after at hcase ⊢
  cases hcase with
  | enqueued arrival =>
    unfold FrontHeld at h ⊢
    cases hpc : process.publisher with
    | send oldest =>
      simp only [hpc] at h ⊢
      exact BoundedQueue.peek_tryEnqueue h _
    | pop =>
      simp only [hpc] at h ⊢
      obtain ⟨oldest, hpeek⟩ := h
      exact ⟨oldest, BoundedQueue.peek_tryEnqueue hpeek _⟩
    | loopTop => trivial
    | trimming trim => trivial
    | peek => trivial
    | bottom => trivial
    | left => trivial
  | gone => exact h
  | _ => exact frontHeld_of_publish_eq h rfl rfl

theorem frontHeld_publishGoodPackets {process : Process} (h : process.FrontHeld)
    (input : PublishInput) : (process.publishGoodPackets input).FrontHeld := by
  have hcase := process.publishGoodPackets_case input
  generalize process.publishGoodPackets input = after at hcase ⊢
  have hsend : ∀ arrival, process.publisher = .send arrival →
      ∃ oldest, process.mMessagesToPublishQueue.peek = some oldest := by
    intro arrival hpc
    simp only [FrontHeld, hpc] at h
    exact ⟨arrival, h⟩
  cases hcase with
  | peeked arrival hpc hpeek => exact hpeek
  | sent arrival hpc => exact hsend arrival hpc
  | failed arrival e hpc => exact hsend arrival hpc
  | gone => exact h
  | _ => trivial

theorem frontHeld_act {process : Process} (h : process.FrontHeld) (action : Action) :
    (process.act action).FrontHeld := by
  cases action with
  | deliver packet => exact frontHeld_of_publish_eq h rfl rfl
  | check input => exact frontHeld_checkPackets h input
  | publish input => exact frontHeld_publishGoodPackets h input
  | stop => exact frontHeld_of_publish_eq h rfl rfl

/-! ### The order of the stream -/

@[simp] theorem arrivals_checkPackets (process : Process) (input : CheckInput) :
    (process.checkPackets input).history.arrivals = process.history.arrivals := by
  have hcase := process.checkPackets_case input
  generalize process.checkPackets input = after at hcase ⊢
  cases hcase <;> rfl

@[simp] theorem arrivals_publishGoodPackets (process : Process) (input : PublishInput) :
    (process.publishGoodPackets input).history.arrivals = process.history.arrivals := by
  have hcase := process.publishGoodPackets_case input
  generalize process.publishGoodPackets input = after at hcase ⊢
  cases hcase <;> rfl

/-- The invariant of the stream: the packets in the sanitizer and those it has sent
    are, in order, some of the arrivals. -/
structure InOrder (process : Process) : Prop where
  front : process.FrontHeld
  line : process.line.Sublist (numbered process.history.arrivals)

theorem inOrder_act {process : Process} (h : process.InOrder) (action : Action) :
    (process.act action).InOrder := by
  refine ⟨frontHeld_act h.front action, ?_⟩
  cases action with
  | deliver packet =>
    have hline := (process.line_inputPacketsToQueueCallback packet).trans
      (h.line.append_right [⟨process.history.arrivals.length, packet⟩])
    rw [← numbered_concat] at hline
    exact hline
  | check input =>
    rw [act, arrivals_checkPackets]
    exact (process.line_checkPackets input).trans h.line
  | publish input =>
    rw [act, arrivals_publishGoodPackets]
    exact (line_publishGoodPackets h.front input).trans h.line
  | stop => exact h.line

/-! ### Every packet sent was checked -/

def Vouched (programOptions : ProgramOptions) (checks : List CheckRecord) (a : Arrival) : Prop :=
  ∃ record ∈ checks, record.arrival = a ∧ record.testers.EnabledBy programOptions ∧
    record.verdict = .ok true

theorem Vouched.concat {programOptions : ProgramOptions} {checks : List CheckRecord}
    {a : Arrival} (h : Vouched programOptions checks a) (record : CheckRecord) :
    Vouched programOptions (checks ++ [record]) a := by
  obtain ⟨own, hmem, hown⟩ := h
  exact ⟨own, List.mem_append_left _ hmem, hown⟩

/-- Whatever has been sent, waits to be sent or is about to be handed on was allowed. -/
structure Checked (programOptions : ProgramOptions) (process : Process) : Prop where
  testers : process.testers.EnabledBy programOptions
  sent : ∀ a ∈ process.history.sends, Vouched programOptions process.history.checks a
  queued : ∀ a ∈ process.mMessagesToPublishQueue.items,
    Vouched programOptions process.history.checks a
  held : ∀ a, process.checker = .enqueue a → Vouched programOptions process.history.checks a

variable {programOptions : ProgramOptions}

theorem checked_checkPackets {process : Process} (h : process.Checked programOptions)
    (input : CheckInput) : (process.checkPackets input).Checked programOptions := by
  have hcase := process.checkPackets_case input
  generalize process.checkPackets input = after at hcase ⊢
  have hasked : ∀ (arrival : Arrival) (asked : Testers) (verdict : Except StdException Bool),
      process.testers.scrutinize input.readings arrival.packet = (asked, verdict) →
      asked.EnabledBy programOptions := by
    intro arrival asked verdict hstep
    have henabled := Testers.enabledBy_scrutinize h.testers arrival.packet input.readings
    rwa [hstep] at henabled
  have hrecorded : ∀ record, ∀ a ∈ process.history.sends,
      Vouched programOptions (process.history.check record).checks a := by
    intro record a ha
    exact (h.sent a ha).concat record
  have hwaiting : ∀ record, ∀ a ∈ process.mMessagesToPublishQueue.items,
      Vouched programOptions (process.history.check record).checks a := by
    intro record a ha
    exact (h.queued a ha).concat record
  cases hcase with
  | threw arrival testers e hpc hstep =>
    refine ⟨hasked _ _ _ hstep, hrecorded _, hwaiting _, ?_⟩
    intro a ha
    cases ha
  | rejected arrival testers hpc hstep =>
    refine ⟨hasked _ _ _ hstep, hrecorded _, hwaiting _, ?_⟩
    intro a ha
    cases ha
  | allowed arrival testers hpc hstep =>
    refine ⟨hasked _ _ _ hstep, hrecorded _, hwaiting _, ?_⟩
    intro a ha
    cases ha
    refine ⟨⟨process.testers, input.readings, arrival⟩, by simp [History.check], rfl, h.testers, ?_⟩
    rw [CheckRecord.verdict, hstep]
  | enqueued arrival hpc =>
    refine ⟨h.testers, h.sent, ?_, ?_⟩
    · intro a ha
      rcases BoundedQueue.mem_tryEnqueue ha with ha | rfl
      · exact h.queued a ha
      · exact h.held a hpc
    · intro a ha
      cases ha
  | gone => exact h
  | _ =>
    refine ⟨h.testers, h.sent, h.queued, ?_⟩
    intro a ha
    cases ha

theorem checked_publishGoodPackets {process : Process} (h : process.Checked programOptions)
    (hfront : process.FrontHeld) (input : PublishInput) :
    (process.publishGoodPackets input).Checked programOptions := by
  have hcase := process.publishGoodPackets_case input
  generalize process.publishGoodPackets input = after at hcase ⊢
  have htrim : ∀ (trim : Trim), ∀ a ∈ (trim.step MAX_QUEUE_SIZE input.sizeApprox
      process.mMessagesToPublishQueue).1.items,
      Vouched programOptions process.history.checks a :=
    fun trim a ha => h.queued a ((trim.items_step _ _ _).subset ha)
  have hsend : ∀ arrival, process.publisher = .send arrival →
      ∀ a ∈ process.history.sends ++ [arrival],
        Vouched programOptions process.history.checks a := by
    intro arrival hpc a ha
    simp only [FrontHeld, hpc] at hfront
    rcases List.mem_append.mp ha with ha | ha
    · exact h.sent a ha
    · rw [List.mem_singleton] at ha
      apply h.queued a
      rw [BoundedQueue.items_of_peek hfront, ha]
      exact List.mem_cons_self
  cases hcase with
  | trimming trim next queue hpc hstep =>
    exact ⟨h.testers, h.sent, by simpa [hstep] using htrim trim, h.held⟩
  | trimmed trim nDeleted queue hpc hstep =>
    exact ⟨h.testers, h.sent, by simpa [hstep] using htrim trim, h.held⟩
  | sent arrival hpc => exact ⟨h.testers, hsend arrival hpc, h.queued, h.held⟩
  | failed arrival e hpc => exact ⟨h.testers, hsend arrival hpc, h.queued, h.held⟩
  | popped => exact ⟨h.testers, h.sent, fun a ha => h.queued a (List.mem_of_mem_tail ha), h.held⟩
  | gone => exact h
  | _ => exact ⟨h.testers, h.sent, h.queued, h.held⟩

theorem checked_act {process : Process} (h : process.Checked programOptions)
    (hfront : process.FrontHeld) (action : Action) :
    (process.act action).Checked programOptions := by
  cases action with
  | deliver packet => exact ⟨h.testers, h.sent, h.queued, h.held⟩
  | check input => exact checked_checkPackets h input
  | publish input => exact checked_publishGoodPackets h hfront input
  | stop => exact ⟨h.testers, h.sent, h.queued, h.held⟩

end Process

/-! ### Every interleaving -/

section Run

variable (programOptions : ProgramOptions) (testers : Testers)
  (checkCapacity publishCapacity : Nat) (checkerEntered publisherEntered : Int64)

theorem inOrder_start :
    (Process.start testers checkCapacity publishCapacity checkerEntered
      publisherEntered).InOrder :=
  ⟨trivial, List.Sublist.refl _⟩

variable {programOptions testers}

theorem checked_start (h : Testers.ofOptions programOptions = .ok testers) :
    (Process.start testers checkCapacity publishCapacity checkerEntered
      publisherEntered).Checked programOptions :=
  ⟨Testers.enabledBy_ofOptions h, by simp [Process.start], by simp [Process.start],
    fun a ha => by cases ha⟩

end Run

theorem arrivals_after (process : Process) (actions : List Action) :
    (sanitizer.after process actions).history.arrivals =
      process.history.arrivals ++ actions.filterMap Action.delivered := by
  induction actions generalizing process with
  | nil => simp
  | cons action rest ih =>
    rw [Machine.after_cons, ih]
    cases action with
    | deliver packet =>
      simp [sanitizer, Process.act, Process.inputPacketsToQueueCallback, Action.delivered]
    | check input => simp [sanitizer, Process.act, Action.delivered, List.filterMap_cons]
    | publish input => simp [sanitizer, Process.act, Action.delivered, List.filterMap_cons]
    | stop => simp [sanitizer, Process.act, Process.stop, Action.delivered, List.filterMap_cons]

/-- **The output is an ordered, checked sub-stream of the input.**  However the threads
    interleave, the packets passed to `Publisher::send` come in strictly increasing
    order of arrival, each is the packet that arrived at its position, so that together
    they are a subsequence of the arrivals, and every tester that the options ask for
    allowed each of them when it was checked. -/
theorem sends_ordered_and_checked (programOptions : ProgramOptions) (testers : Testers)
    (hmade : Testers.ofOptions programOptions = .ok testers)
    (checkCapacity publishCapacity : Nat) (checkerEntered publisherEntered : Int64)
    (actions : List Action) :
    let history := (sanitizer.after (Process.start testers checkCapacity publishCapacity
      checkerEntered publisherEntered) actions).history
    let arrivals := actions.filterMap Action.delivered
    (history.sends.map Arrival.index).Pairwise (· < ·) ∧
    (∀ a ∈ history.sends, arrivals[a.index]? = some a.packet) ∧
    (history.sends.map Arrival.packet).Sublist arrivals ∧
    ∀ a ∈ history.sends, ∃ record ∈ history.checks, record.arrival = a ∧
      record.testers.EnabledBy programOptions ∧
      record.testers.AllAllow record.readings a.packet := by
  intro history arrivals
  have harrivals : history.arrivals = arrivals := by
    rw [arrivals_after]
    rfl
  have hrun : (sanitizer.after (Process.start testers checkCapacity publishCapacity
      checkerEntered publisherEntered) actions).InOrder ∧
      (sanitizer.after (Process.start testers checkCapacity publishCapacity
      checkerEntered publisherEntered) actions).Checked programOptions :=
    sanitizer.after_invariant (I := fun process => process.InOrder ∧
        process.Checked programOptions)
      (fun process action h => ⟨Process.inOrder_act h.1 action,
        Process.checked_act h.2 h.1.front action⟩)
      ⟨inOrder_start _ _ _ _ _, checked_start _ _ _ _ hmade⟩ actions
  have hsends : history.sends.Sublist (numbered arrivals) := by
    rw [← harrivals]
    exact ((List.sublist_append_left _ _).trans (List.sublist_append_left _ _)).trans hrun.1.line
  refine ⟨?_, ?_, ?_, ?_⟩
  · exact List.pairwise_map.mpr ((numbered_increasing arrivals).sublist hsends)
  · intro a ha
    exact getElem?_of_mem_numbered (hsends.subset ha)
  · rw [← map_packet_numbered arrivals]
    exact hsends.map _
  · intro a ha
    obtain ⟨record, hmem, rfl, henabled, hverdict⟩ := hrun.2.sent a ha
    exact ⟨record, hmem, rfl, henabled,
      record.testers.allAllow_of_scrutinize record.readings record.arrival.packet hverdict⟩

def defaultTesters : Testers where
  mFutureDataPacketTester := some (.new 0 60)
  mExpiredDataPacketTester := some defaultExpired
  mDuplicateDataPacketTester := some defaultDuplicate

/-- Steps of `checkPackets`, six to a packet, a minute after the start of the epoch. -/
def checks (n : Nat) : List Action :=
  List.replicate n (.check ⟨1, ⟨60000000, 60000000, 60000000⟩, 60000000⟩)

def publishes (n : Nat) : List Action := List.replicate n (.publish ⟨1, .ok (), 60000000⟩)

/-- A packet of UU.FORK.HHZ.01 that starts 20 seconds after `forkPacket`. -/
def forkLater : DataPacket :=
  (DataPacket.forkPacket (.double [.finite 1])).setStartTime 20000000

/-- The two packets, one after the other. -/
def forkRun : List Action :=
  .deliver (.forkPacket (.double [.finite 1])) :: .deliver forkLater :: checks 12 ++ publishes 12

theorem fork_packets_sent :
    let history := (sanitizer.after (Process.start defaultTesters 511 511 0 0) forkRun).history
    history.sends.map Arrival.index = [0, 1] ∧
      (history.sends.map Arrival.packet).Sublist
        [.forkPacket (.double [.finite 1]), forkLater] := by
  refine ⟨by decide +kernel, ?_⟩
  exact (sends_ordered_and_checked {} defaultTesters (by rfl) 511 511 0 0 forkRun).2.2.1

end Us8
