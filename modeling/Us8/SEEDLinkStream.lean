/-
  Us8/SEEDLinkStream.lean
  =======================
  **What the SEEDLink publisher sends is an ordered part of what it has accepted.**

  The publisher thread passes each packet it finds at the front of the queue to `send` and
  removes it afterwards, whether `send` threw or not.  Between the two the packet is still in
  the queue, so the packets that wait to be sent are those of the queue without it
  (`waiting`).  What has been sent and what waits is at all times, in order, a part of the
  packets that the callback has accepted: the queue refuses packets when it is full and
  loses some when it looks too long, but never swaps two or sends one twice.
-/
import Us8.DataPacketPublisher

namespace Us8

instance (packet : DataPacket) : Decidable packet.Filled :=
  decidable_of_iff
    (packet.haveNetwork = true ∧ packet.haveStation = true ∧ packet.haveChannel = true ∧
      packet.haveSamplingRate = true ∧ 1 ≤ packet.getNumberOfSamples)
    ⟨fun ⟨hnetwork, hstation, hchannel, hrate, hsamples⟩ =>
      ⟨⟨hnetwork, hstation, hchannel⟩, hrate, hsamples⟩,
     fun h => ⟨h.network, h.station, h.channel, h.samplingRate, h.samples⟩⟩

namespace SEEDLink

/-- The packets that the callback accepts from the action, one at most. -/
def Action.accepted : Action → List DataPacket
  | .deliver packet => if packet.Filled then [packet] else []
  | _ => []

namespace Process

/-- The packet that the action passes to `send`. -/
def sends (process : Process) : Action → Option DataPacket
  | .publish _ =>
      match process.publisher with
      | .send packet => some packet
      | _ => none
  | _ => none

def waiting (process : Process) : List DataPacket :=
  match process.publisher with
  | .pop => process.mQueue.items.tail
  | _ => process.mQueue.items

end Process

/-- The publisher as seen by the socket. -/
def acquisition : Machine Process Action (Option DataPacket) where
  step process action := (process.act action, process.sends action)

namespace Process

variable {process : Process}

/-- The part of the queue that waits gets one packet more at most. -/
theorem waiting_tryEnqueue (hfront : process.FrontHeld) (packet : DataPacket) :
    ({ process with mQueue := process.mQueue.tryEnqueue packet } : Process).waiting.Sublist
      (process.waiting ++ [packet]) := by
  by_cases hfull : process.mQueue.Full
  · rw [BoundedQueue.tryEnqueue_of_full hfull]
    exact List.sublist_append_left _ _
  · have hitems := BoundedQueue.items_tryEnqueue hfull packet
    unfold waiting
    dsimp only
    rw [hitems]
    cases hpc : process.publisher with
    | pop =>
      -- the packet that was sent is still there, so the queue is not empty
      simp only [FrontHeld, hpc] at hfront
      obtain ⟨oldest, hpeek⟩ := hfront
      rw [BoundedQueue.items_of_peek hpeek]
      exact List.Sublist.refl _
    | _ => exact List.Sublist.refl _

theorem waiting_deliver (hfront : process.FrontHeld) (packet : DataPacket) :
    (process.act (.deliver packet)).waiting.Sublist
      (process.waiting ++ (Action.deliver packet).accepted) := by
  unfold act
  dsimp only
  cases haccepted : process.addPacketsFromAcquisitionCallback packet with
  | error e => exact List.sublist_append_left _ _
  | ok next =>
    rw [Action.accepted, if_pos ((accepted_iff process).mp ⟨next, haccepted⟩)]
    unfold addPacketsFromAcquisitionCallback at haccepted
    split_ifs at haccepted
    rw [Except.ok.injEq] at haccepted
    rw [← haccepted]
    exact waiting_tryEnqueue hfront packet

/-- A step of the thread sends the first packet that waits, drops some, or does neither. -/
theorem waiting_publish (hfront : process.FrontHeld) (input : PublishInput) :
    ((process.sends (.publish input)).toList ++
      (process.sendPacketsViaZeroMQ input).waiting).Sublist process.waiting := by
  unfold sends sendPacketsViaZeroMQ
  cases hpc : process.publisher with
  | loopTop => cases process.mKeepRunning <;> simp [waiting, hpc]
  | trimming trim =>
    have hitems := trim.items_step MAX_QUEUE_SIZE input.sizeApprox process.mQueue
    simp only [publisherTrim, waiting, hpc]
    rcases hstep : trim.step MAX_QUEUE_SIZE input.sizeApprox process.mQueue with
      ⟨queue, next | nDeleted⟩
    · simpa [hstep, note] using hitems
    · simpa [hstep, note] using hitems
  | peek =>
    simp only [publisherPeek, waiting, hpc]
    cases process.mQueue.peek <;> simp
  | send packet =>
    simp only [FrontHeld, hpc] at hfront
    have hwaiting : process.waiting = packet :: process.mQueue.items.tail := by
      simpa [waiting, hpc] using BoundedQueue.items_of_peek hfront
    rw [hwaiting]
    cases input.sendOutcome <;> simp [publisherSend, waiting, note]
  | pop => simp [publisherPop, waiting, hpc, note]
  | bottom =>
    simp only [waiting, hpc, recordGauges, logPerformance]
    split_ifs <;> simp
  | left => simp [waiting, hpc]

end Process

theorem line_act {process : Process} (h : process.Kept) (action : Action) :
    ((process.sends action).toList ++ (process.act action).waiting).Sublist
      (process.waiting ++ action.accepted) := by
  cases action with
  | deliver packet => simpa [Process.sends] using Process.waiting_deliver h.front packet
  | publish input =>
    simpa [Action.accepted, Process.act] using Process.waiting_publish h.front input
  | stop => simp [Process.sends, Action.accepted, Process.act, Process.waiting]

/-- **The publisher keeps the order.**  From an empty queue, and however the client's
    callback and the thread interleave, the packets passed to `send` are a subsequence of
    those that the callback accepted. -/
theorem acquisition_sublist (mLogPublishingPerformanceInterval : Int64) (capacity : Nat)
    (nowMuSeconds : Int64) (actions : List Action) :
    (acquisition.emitted (Process.start mLogPublishingPerformanceInterval (.empty capacity)
      nowMuSeconds) actions).Sublist (actions.flatMap Action.accepted) := by
  have hline := Machine.emitted_sublist (m := acquisition) (I := Process.Kept)
    (fun _ action h => Process.Kept.act h action) (fun _ action h => line_act h action)
    (Process.kept_start mLogPublishingPerformanceInterval (.empty capacity) nowMuSeconds) actions
  exact (List.sublist_append_left _ _).trans hline

end SEEDLink

end Us8
