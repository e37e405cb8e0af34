/-
  Us8/SanitizerBroadcast.lean
  ===========================
  **From broadcast to broadcast: the sanitizer takes packets out, and does nothing else.**

  The parts of the sanitizer's program put together: the subscriber with its listener, which
  hands the packets it can decode to the process, the process with its two consumers, and
  the publisher, which writes what the process sends (`sanitizerBroadcast`).  The subscriber
  may be started and stopped at any time.

  A client of the sanitizer's broadcast then reads a subsequence of the packets that the
  sanitizer itself could read, and each of them unaltered (`sanitized_packets_unchanged`):
  the decoder brings a packet into a form that writing and reading again keep, and only packets
  with samples and a rate get past the future tester.  With the SEEDLink publisher in front
  and a network between them that may lose messages, it is a subsequence of what that
  publisher has accepted (`acquired_to_sanitized`).
-/
import Us8.DataPacketRelay
import Us8.SEEDLinkStream
import Us8.SanitizerFilter
import Us8.Subscriber

namespace Us8

/-! ### What goes over the wire -/

/-- The two parts that `send` gives the socket; nothing for a packet that cannot be
    written. -/
def messageOf (codec : CborCodec) (packet : DataPacket) : Option (List Frame) :=
  match packet.serialize codec with
  | .ok messagePayload => some [bytes DataPacket.MESSAGE_TYPE, messagePayload]
  | .error _ => none

/-- What a socket that takes both parts has been given when `send` returns. -/
theorem send_ok_iff {codec : CborCodec} {packet : DataPacket} {impl : PublisherImpl}
    (hinitialized : impl.mInitialized = true) :
    impl.send codec packet = .ok () ↔ ∃ message, messageOf codec packet = some message ∧
      impl.mPublisherSocket message = .ok (some 2) := by
  unfold messageOf PublisherImpl.send
  rw [if_neg (by simp [hinitialized])]
  cases packet.serialize codec with
  | error e => simp
  | ok messagePayload =>
    simp only [pure_eq_ok, ok_bind, Option.some.injEq, exists_eq_left']
    cases impl.mPublisherSocket [bytes DataPacket.MESSAGE_TYPE, messagePayload] with
    | error e => simp
    | ok nPartsSent =>
      simp only [Failure.lift_ok, ok_bind, Except.ok.injEq]
      split_ifs with hne <;> simp_all

theorem decoded_of_propagates {codec : CborCodec} {message : List Frame} {packet : DataPacket}
    (h : propagates codec message = some packet) : DataPacket.Decoded packet := by
  obtain ⟨payload, -, hdecode⟩ := deserialize_of_reading (propagates_eq_some_iff.mp h)
  exact DataPacket.decoded_of_deserialize hdecode

section Written

variable {codec : CborCodec} {packet : DataPacket} (hdecoded : DataPacket.Decoded packet)
  {endTime : Int64} (hend : packet.getEndTime = .ok endTime)
  (hcodec : ∀ obj, packet.toJSONObject = .ok obj → codec.LosslessOn obj)

include hdecoded hend hcodec

/-- A decoded packet with an end time is written, and read back as it was, unless it has
    too many samples. -/
theorem messageOf_decoded (hfits : packet.sampleCount < 2 ^ 31) :
    ∃ message, messageOf codec packet = some message ∧
      propagates codec message = some packet := by
  obtain ⟨hrate, hsamples⟩ := DataPacket.sampled_of_getEndTime hend
  have hnumber : packet.mSamplingRate ≠ .nan := by
    intro hnan
    rw [DataPacket.haveSamplingRate, hnan] at hrate
    cases hrate
  obtain ⟨payload, hsend, hread⟩ := (hdecoded.roundTrip_iff
    (DataPacketImpl.sampleCount_pos_of_size hsamples) hnumber hcodec).mpr hfits
  refine ⟨[bytes DataPacket.MESSAGE_TYPE, payload], ?_, ?_⟩
  · rw [messageOf, hsend]
  · exact propagates_eq_some_iff.mpr (reading_of_deserialize hread)

/-- What is written for such a packet is read back as the packet. -/
theorem propagates_of_messageOf {message : List Frame}
    (hmessage : messageOf codec packet = some message) :
    propagates codec message = some packet := by
  obtain ⟨-, hsamples⟩ := DataPacket.sampled_of_getEndTime hend
  have hwritable : packet.Writable := by
    apply (serialize_ok_iff codec).mp
    unfold messageOf at hmessage
    cases hsend : packet.serialize codec with
    | error e => simp [hsend] at hmessage
    | ok payload => exact ⟨payload, rfl⟩
  have hfits := hwritable.samples.resolve_left (Int32.not_lt.mpr hsamples)
  obtain ⟨own, hown, hread⟩ := messageOf_decoded hdecoded hend hcodec hfits
  rw [hown, Option.some.injEq] at hmessage
  exact hmessage ▸ hread

end Written

/-! ### The program -/

/-- A step of the subscriber's threads, of one of the consumers, or the end of the loops. -/
inductive BroadcastStep where
  | subscriber (step : SubscriberStep)
  | check (input : CheckInput)
  | publish (input : PublishInput)
  | stop

def sanitizerBroadcast (codec : CborCodec) :
    Machine (SubscriberImpl Process) BroadcastStep (Option (List Frame)) where
  step impl step :=
    if impl.listener.isLost then (impl, none)
    else match step with
      | .subscriber step =>
          (impl.act codec Process.inputPacketsToQueueCallback step, impl.reads step)
      | .check input => ({ impl with receiver := impl.receiver.checkPackets input }, none)
      | .publish input =>
          ({ impl with receiver := impl.receiver.publishGoodPackets input }, none)
      | .stop => ({ impl with receiver := impl.receiver.stop }, none)

/-- A message that can be decoded or refused, and that is of a packet whose samples can be
    counted if it is of any. -/
def Manageable (codec : CborCodec) (message : List Frame) : Prop :=
  reading codec message ≠ .undefined ∧
    ∀ packet, propagates codec message = some packet → packet.sampleCount < 2 ^ 31

/-! ### What the process is given -/

/-- The packet with which the listener is about to invoke the callback. -/
def SubscriberImpl.inCallback {σ : Type} (impl : SubscriberImpl σ) : List DataPacket :=
  match impl.listener with
  | .callback dataPacket => [dataPacket]
  | _ => []

/-- The process has run by itself on packets that were read, in order. -/
def Fed (codec : CborCodec) (process : Process)
    (past : List (BroadcastStep × Option (List Frame))) (impl : SubscriberImpl Process) : Prop :=
  ∃ actions, impl.receiver = sanitizer.after process actions ∧
    (actions.filterMap Action.delivered ++ impl.inCallback).Sublist
      ((past.filterMap Prod.snd).filterMap (propagates codec))

section Fed

variable {codec : CborCodec} {process : Process}
  {past : List (BroadcastStep × Option (List Frame))} {impl : SubscriberImpl Process}

/-- An action of the process that delivers nothing. -/
theorem fed_act (h : Fed codec process past impl) {action : Action}
    (hnone : action.delivered = none) (step : BroadcastStep) :
    Fed codec process (past ++ [(step, none)])
      { impl with receiver := impl.receiver.act action } := by
  obtain ⟨actions, hreceiver, hdelivered⟩ := h
  refine ⟨actions ++ [action], ?_, ?_⟩
  · rw [Machine.after_concat, ← hreceiver]
    rfl
  · simpa [hnone, SubscriberImpl.inCallback] using hdelivered

/-- A step of the subscriber that neither reads nor invokes the callback. -/
theorem fed_idle (h : Fed codec process past impl) {next : SubscriberImpl Process}
    (hreceiver : next.receiver = impl.receiver)
    (hcallback : next.inCallback.Sublist impl.inCallback) (step : BroadcastStep) :
    Fed codec process (past ++ [(step, none)]) next := by
  obtain ⟨actions, hown, hdelivered⟩ := h
  refine ⟨actions, hreceiver.trans hown, ?_⟩
  have hless := (hcallback.append_left (actions.filterMap Action.delivered)).trans hdelivered
  simpa using hless

theorem fed_listen (h : Fed codec process past impl) (messagesReceived : List Frame) :
    Fed codec process
      (past ++ [(.subscriber (.listener messagesReceived),
        impl.reads (.listener messagesReceived))])
      (impl.listen codec Process.inputPacketsToQueueCallback messagesReceived) := by
  unfold SubscriberImpl.reads SubscriberImpl.listen
  cases hpc : impl.listener with
  | none => exact fed_idle h rfl (List.Sublist.refl _) _
  | ended => exact fed_idle h rfl (List.Sublist.refl _) _
  | lost => exact fed_idle h rfl (List.Sublist.refl _) _
  | loopTop =>
    refine fed_idle h ?_ ?_ _
    · rfl
    · cases impl.mKeepRunning <;> simp [SubscriberImpl.inCallback]
  | receive =>
    obtain ⟨actions, hreceiver, hdelivered⟩ := h
    rw [SubscriberImpl.inCallback, hpc, List.append_nil] at hdelivered
    refine ⟨actions, ?_, ?_⟩
    · cases hreading : reading codec messagesReceived <;> exact hreceiver
    · cases hreading : reading codec messagesReceived with
      | packet dataPacket =>
        simpa [SubscriberImpl.inCallback, propagates, hreading]
          using hdelivered.append_right [dataPacket]
      | _ => simpa [SubscriberImpl.inCallback, propagates, hreading] using hdelivered
  | callback dataPacket =>
    obtain ⟨actions, hreceiver, hdelivered⟩ := h
    rw [SubscriberImpl.inCallback, hpc] at hdelivered
    refine ⟨actions ++ [.deliver dataPacket], ?_, ?_⟩
    · rw [Machine.after_concat, ← hreceiver]
      rfl
    · simpa [SubscriberImpl.inCallback, Action.delivered] using hdelivered

theorem fed_subscriber (h : Fed codec process past impl) (step : SubscriberStep) :
    Fed codec process (past ++ [(.subscriber step, impl.reads step)])
      (impl.act codec Process.inputPacketsToQueueCallback step) := by
  have hstays : impl.listener.isLost = true → impl.reads step = none := by
    intro hlost
    cases hpc : impl.listener <;> cases step <;>
      simp_all [SubscriberImpl.reads, ListenerPc.isLost]
  unfold SubscriberImpl.act
  split_ifs with hlost
  · rw [hstays hlost]
    exact fed_idle h rfl (List.Sublist.refl _) _
  · cases step with
    | call call =>
      dsimp only
      refine fed_idle h ?_ ?_ _
      · unfold SubscriberImpl.beginCall
        split <;> rfl
      · unfold SubscriberImpl.beginCall
        split <;> exact List.Sublist.refl _
    | caller =>
      -- a listener that is replaced has left, but its packet would be lost in any case
      dsimp only
      refine fed_idle h ?_ ?_ _
      · unfold SubscriberImpl.callerStep
        split <;> try rfl
        split_ifs <;> rfl
      · unfold SubscriberImpl.callerStep
        split
        · exact List.Sublist.refl _
        · exact List.Sublist.refl _
        · split_ifs
          · exact List.Sublist.refl _
          · exact List.nil_sublist _
        · exact List.Sublist.refl _
        · exact List.nil_sublist _
    | listener messagesReceived => exact fed_listen h messagesReceived

theorem fed_step (h : Fed codec process past impl) (step : BroadcastStep) :
    Fed codec process (past ++ [(step, ((sanitizerBroadcast codec).step impl step).2)])
      ((sanitizerBroadcast codec).step impl step).1 := by
  simp only [sanitizerBroadcast]
  split_ifs with hlost
  · exact fed_idle h rfl (List.Sublist.refl _) _
  · cases step with
    | subscriber step => exact fed_subscriber h step
    | check input => exact @fed_act _ _ _ _ h (.check input) rfl _
    | publish input => exact @fed_act _ _ _ _ h (.publish input) rfl _
    | stop => exact @fed_act _ _ _ _ h .stop rfl _

theorem fed_after (codec : CborCodec) (process : Process) (steps : List BroadcastStep) :
    Fed codec process ((sanitizerBroadcast codec).history { receiver := process } steps)
      ((sanitizerBroadcast codec).after { receiver := process } steps) :=
  (sanitizerBroadcast codec).history_invariant (P := Fed codec process) (C := fun _ _ => True)
    (fun _ _ step _ h => fed_step h step) ⟨[], rfl, by simp [SubscriberImpl.inCallback]⟩
    ((sanitizerBroadcast codec).always_of_forall_mem (Q := fun _ => True) fun _ _ => trivial)

end Fed

/-! ### What a client reads -/

/-- A packet that the sequential program emits has an end time: the future tester asked
    for it. -/
theorem endTime_of_emitted {testers : Testers} {asked : List (Readings × Arrival)} {a : Arrival}
    (ha : a ∈ sieve.emitted testers asked) : ∃ endTime, a.packet.getEndTime = .ok endTime := by
  induction asked generalizing testers with
  | nil => cases ha
  | cons call rest ih =>
    rw [Machine.emitted_cons, List.mem_append, Option.mem_toList] at ha
    rcases ha with hout | hrest
    · obtain ⟨hallowed, rfl⟩ := passOn_eq_some hout
      cases hsome : testers.mFutureDataPacketTester with
      | none => simp [testers.scrutinize_of_no_future call.1 call.2.packet hsome] at hallowed
      | some tester =>
        have hall := testers.allAllow_of_scrutinize call.1 call.2.packet hallowed
        exact (tester.allow_ok_iff call.1.future call.2.packet).mp
          ⟨true, hall.future tester hsome⟩
    · exact ih hrest

/-- The messages that the sanitizer's publisher writes. -/
def broadcast (codec : CborCodec) (process : Process) : List (List Frame) :=
  process.history.sends.filterMap fun a => messageOf codec a.packet

theorem map_read_of_written {codec : CborCodec} {sends : List Arrival}
    (h : ∀ a ∈ sends, ∃ message, messageOf codec a.packet = some message ∧
      propagates codec message = some a.packet) :
    (sends.filterMap fun a => messageOf codec a.packet).map (propagates codec) =
      sends.map fun a => some a.packet := by
  induction sends with
  | nil => rfl
  | cons a rest ih =>
    obtain ⟨message, hmessage, hread⟩ := h a (by simp)
    have hrest := ih fun b hb => h b (by simp [hb])
    simp only [List.filterMap_cons, hmessage, List.map_cons, hread, hrest]

/-- If what is written is read back, a client reads a part of what was sent. -/
theorem read_sublist_of_written {codec : CborCodec} {sends : List Arrival}
    (h : ∀ a ∈ sends, ∀ message, messageOf codec a.packet = some message →
      propagates codec message = some a.packet) :
    ((sends.filterMap fun a => messageOf codec a.packet).filterMap (propagates codec)).Sublist
      (sends.map Arrival.packet) := by
  induction sends with
  | nil => exact List.Sublist.refl _
  | cons a rest ih =>
    have hrest := ih fun b hb => h b (by simp [hb])
    cases hmessage : messageOf codec a.packet with
    | none =>
      simp only [List.filterMap_cons, hmessage, List.map_cons]
      exact hrest.cons _
    | some message =>
      have hread := h a (by simp) message hmessage
      simp only [List.filterMap_cons, hmessage, hread, List.map_cons]
      exact hrest.cons_cons _

/-- The subscriber before its first call, with the process about to start its threads. -/
def sanitizerStart (testers : Testers) (checkCapacity publishCapacity : Nat)
    (checkerEntered publisherEntered : Int64) : SubscriberImpl Process where
  receiver := .start testers checkCapacity publishCapacity checkerEntered publisherEntered

section Run

variable {codec : CborCodec} (testers : Testers) (checkCapacity publishCapacity : Nat)
  (checkerEntered publisherEntered : Int64) (steps : List BroadcastStep)

variable (codec) in
/-- Every packet sent has an end time, and they are, in order, among those that were read. -/
theorem sends_sublist_reads :
    let start := sanitizerStart testers checkCapacity publishCapacity checkerEntered
      publisherEntered
    let sends := ((sanitizerBroadcast codec).after start steps).receiver.history.sends
    (∀ a ∈ sends, ∃ endTime, a.packet.getEndTime = .ok endTime) ∧
    (sends.map Arrival.packet).Sublist
      (((sanitizerBroadcast codec).emitted start steps).filterMap (propagates codec)) := by
  intro start sends
  obtain ⟨actions, hprocess, hdelivered⟩ := fed_after codec start.receiver steps
  have hfed := (List.sublist_append_left _ _).trans hdelivered
  obtain ⟨harrived, -, hsends⟩ := sends_sublist_emitted testers checkCapacity publishCapacity
    checkerEntered publisherEntered actions
  have hown : sends = (sanitizer.after start.receiver actions).history.sends := by
    rw [← hprocess]
    rfl
  rw [hown]
  refine ⟨fun a ha => endTime_of_emitted (hsends.subset ha), ?_⟩
  have hnumbered := (hsends.trans (emitted_sublist_asked _ _)).trans harrived
  have harrivals := hnumbered.map Arrival.packet
  rw [map_packet_numbered] at harrivals
  exact harrivals.trans hfed

/-- Every packet sent is one of those that were read. -/
theorem decoded_of_sent
    (hcodec : ∀ message ∈ (sanitizerBroadcast codec).emitted (sanitizerStart testers
      checkCapacity publishCapacity checkerEntered publisherEntered) steps,
      ∀ packet, propagates codec message = some packet →
        ∀ obj, packet.toJSONObject = .ok obj → codec.LosslessOn obj) :
    let start := sanitizerStart testers checkCapacity publishCapacity checkerEntered
      publisherEntered
    ∀ a ∈ ((sanitizerBroadcast codec).after start steps).receiver.history.sends,
      DataPacket.Decoded a.packet ∧
        (∀ obj, a.packet.toJSONObject = .ok obj → codec.LosslessOn obj) ∧
        ∃ message ∈ (sanitizerBroadcast codec).emitted start steps,
          propagates codec message = some a.packet := by
  intro start a ha
  obtain ⟨-, hread⟩ := sends_sublist_reads codec testers checkCapacity publishCapacity
    checkerEntered publisherEntered steps
  obtain ⟨message, hmessage, hpropagates⟩ :=
    List.mem_filterMap.mp (hread.subset (List.mem_map_of_mem ha))
  exact ⟨decoded_of_propagates hpropagates, hcodec message hmessage a.packet hpropagates, message,
    hmessage, hpropagates⟩

theorem broadcast_sublist_reads
    (hcodec : ∀ message ∈ (sanitizerBroadcast codec).emitted (sanitizerStart testers
      checkCapacity publishCapacity checkerEntered publisherEntered) steps,
      ∀ packet, propagates codec message = some packet →
        ∀ obj, packet.toJSONObject = .ok obj → codec.LosslessOn obj) :
    let start := sanitizerStart testers checkCapacity publishCapacity checkerEntered
      publisherEntered
    ((broadcast codec ((sanitizerBroadcast codec).after start steps).receiver).filterMap
      (propagates codec)).Sublist
        (((sanitizerBroadcast codec).emitted start steps).filterMap (propagates codec)) := by
  intro start
  obtain ⟨hend, hread⟩ := sends_sublist_reads codec testers checkCapacity publishCapacity
    checkerEntered publisherEntered steps
  refine (read_sublist_of_written ?_).trans hread
  intro a ha message hmessage
  obtain ⟨endTime, hown⟩ := hend a ha
  obtain ⟨hdecoded, hlossless, -⟩ := decoded_of_sent testers checkCapacity publishCapacity
    checkerEntered publisherEntered steps hcodec a ha
  exact propagates_of_messageOf hdecoded hown hlossless hmessage

/-- **The sanitizer does not alter packets.**  However its subscriber is started and
    stopped and its threads interleave, as long as the messages it reads are manageable, each
    packet it sends is written, and what a client reads from that is the very packet; all
    that a client can read is, in order, a part of what the sanitizer could read itself; and
    a `send` fails only if the socket does. -/
theorem sanitized_packets_unchanged
    (hmanageable : ∀ message ∈ (sanitizerBroadcast codec).emitted (sanitizerStart testers
      checkCapacity publishCapacity checkerEntered publisherEntered) steps,
      Manageable codec message)
    (hcodec : ∀ message ∈ (sanitizerBroadcast codec).emitted (sanitizerStart testers
      checkCapacity publishCapacity checkerEntered publisherEntered) steps,
      ∀ packet, propagates codec message = some packet →
        ∀ obj, packet.toJSONObject = .ok obj → codec.LosslessOn obj) :
    let start := sanitizerStart testers checkCapacity publishCapacity checkerEntered
      publisherEntered
    let reads := (sanitizerBroadcast codec).emitted start steps
    let process := ((sanitizerBroadcast codec).after start steps).receiver
    (broadcast codec process).map (propagates codec) =
        process.history.sends.map (fun a => some a.packet) ∧
      ((broadcast codec process).filterMap (propagates codec)).Sublist
        (reads.filterMap (propagates codec)) ∧
      ∀ impl : PublisherImpl, impl.mInitialized = true →
        (∀ message, impl.mPublisherSocket message = .ok (some 2)) →
        ∀ a ∈ process.history.sends, impl.send codec a.packet = .ok () := by
  intro start reads process
  obtain ⟨hend, -⟩ := sends_sublist_reads codec testers checkCapacity publishCapacity
    checkerEntered publisherEntered steps
  have hwritten : ∀ a ∈ process.history.sends, ∃ message,
      messageOf codec a.packet = some message ∧ propagates codec message = some a.packet := by
    intro a ha
    obtain ⟨endTime, hown⟩ := hend a ha
    obtain ⟨hdecoded, hlossless, message, hmessage, hpropagates⟩ := decoded_of_sent testers
      checkCapacity publishCapacity checkerEntered publisherEntered steps hcodec a ha
    exact messageOf_decoded hdecoded hown hlossless
      ((hmanageable message hmessage).2 a.packet hpropagates)
  refine ⟨map_read_of_written hwritten, ?_, ?_⟩
  · exact broadcast_sublist_reads testers checkCapacity publishCapacity checkerEntered
      publisherEntered steps hcodec
  · intro impl hinitialized hsocket a ha
    obtain ⟨message, hmessage, -⟩ := hwritten a ha
    exact (send_ok_iff hinitialized).mpr ⟨message, hmessage, hsocket message⟩

/-- **From the SEEDLink client to a client of the sanitizer.**  Let the SEEDLink publisher run
    in front, in whatever interleaving, and let the network lose messages but neither swap,
    repeat nor alter them, so that what the sanitizer reads (an empty result is a timeout)
    is a subsequence of what the publisher wrote.  Then what a client of the sanitizer reads
    is a subsequence of the packets that the publisher accepted, each in the form that it has
    once it has been written and read. -/
theorem acquired_to_sanitized (mLogPublishingPerformanceInterval : Int64) (capacity : Nat)
    (nowMuSeconds : Int64) (actions : List SEEDLink.Action)
    (hnetwork : (((sanitizerBroadcast codec).emitted (sanitizerStart testers checkCapacity
        publishCapacity checkerEntered publisherEntered) steps).filter
          fun message => !message.isEmpty).Sublist
      ((SEEDLink.acquisition.emitted (.start mLogPublishingPerformanceInterval
        (.empty capacity) nowMuSeconds) actions).filterMap (messageOf codec)))
    (hcodec : ∀ message ∈ (sanitizerBroadcast codec).emitted (sanitizerStart testers
      checkCapacity publishCapacity checkerEntered publisherEntered) steps,
      ∀ packet, propagates codec message = some packet →
        ∀ obj, packet.toJSONObject = .ok obj → codec.LosslessOn obj) :
    ((broadcast codec ((sanitizerBroadcast codec).after (sanitizerStart testers checkCapacity
        publishCapacity checkerEntered publisherEntered) steps).receiver).filterMap
          (propagates codec)).Sublist
      ((actions.flatMap SEEDLink.Action.accepted).filterMap
        fun packet => (messageOf codec packet).bind (propagates codec)) := by
  have hclient := broadcast_sublist_reads testers checkCapacity publishCapacity
    checkerEntered publisherEntered steps hcodec
  refine hclient.trans ?_
  have htimeouts : ∀ messages : List (List Frame),
      (messages.filter fun message => !message.isEmpty).filterMap (propagates codec) =
        messages.filterMap (propagates codec) := by
    intro messages
    rw [List.filterMap_filter]
    apply List.filterMap_congr
    intro message _
    cases message <;> simp [propagates, reading]
  have hread := hnetwork.filterMap (propagates codec)
  rw [htimeouts, List.filterMap_filterMap] at hread
  exact hread.trans ((SEEDLink.acquisition_sublist mLogPublishingPerformanceInterval capacity
    nowMuSeconds actions).filterMap _)

end Run

/-! ### Two packets all the way -/

def forkLaterMessage : List UInt8 :=
  [0xab, 0x67, 0x63, 0x68, 0x61, 0x6e, 0x6e, 0x65, 0x6c, 0x63, 0x48, 0x48, 0x5a, 0x64, 0x64,
   0x61, 0x74, 0x61, 0x81, 0xfa, 0x3f, 0x80, 0x00, 0x00, 0x68, 0x64, 0x61, 0x74, 0x61, 0x54,
   0x79, 0x70, 0x65, 0x66, 0x64, 0x6f, 0x75, 0x62, 0x6c, 0x65, 0x67, 0x65, 0x6e, 0x64, 0x54,
   0x69, 0x6d, 0x65, 0x1a, 0x01, 0x31, 0x2d, 0x00, 0x6c, 0x6c, 0x6f, 0x63, 0x61, 0x74, 0x69,
   0x6f, 0x6e, 0x43, 0x6f, 0x64, 0x65, 0x62, 0x30, 0x31, 0x6b, 0x6d, 0x65, 0x73, 0x73, 0x61,
   0x67, 0x65, 0x54, 0x79, 0x70, 0x65, 0x78, 0x2b, 0x55, 0x53, 0x38, 0x3a, 0x3a, 0x4d, 0x65,
   0x73, 0x73, 0x61, 0x67, 0x65, 0x46, 0x6f, 0x72, 0x6d, 0x61, 0x74, 0x73, 0x3a, 0x3a, 0x42,
   0x72, 0x6f, 0x61, 0x64, 0x63, 0x61, 0x73, 0x74, 0x73, 0x3a, 0x3a, 0x44, 0x61, 0x74, 0x61,
   0x50, 0x61, 0x63, 0x6b, 0x65, 0x74, 0x6e, 0x6d, 0x65, 0x73, 0x73, 0x61, 0x67, 0x65, 0x56,
   0x65, 0x72, 0x73, 0x69, 0x6f, 0x6e, 0x65, 0x31, 0x2e, 0x30, 0x2e, 0x30, 0x67, 0x6e, 0x65,
   0x74, 0x77, 0x6f, 0x72, 0x6b, 0x62, 0x55, 0x55, 0x6c, 0x73, 0x61, 0x6d, 0x70, 0x6c, 0x69,
   0x6e, 0x67, 0x52, 0x61, 0x74, 0x65, 0xfa, 0x42, 0xc8, 0x00, 0x00, 0x69, 0x73, 0x74, 0x61,
   0x72, 0x74, 0x54, 0x69, 0x6d, 0x65, 0x1a, 0x01, 0x31, 0x2d, 0x00, 0x67, 0x73, 0x74, 0x61,
   0x74, 0x69, 0x6f, 0x6e, 0x64, 0x46, 0x4f, 0x52, 0x4b]

/-- What a codec shows when the two packets are written and read. -/
def forkPairCodec : CborCodec where
  toCbor
    | .object fields =>
        match fields.lookup "startTime" with
        | some (.integer 0) => DataPacket.forkDoubleMessage
        | _ => forkLaterMessage
    | _ => []
  fromCbor bytes :=
    if bytes = forkLaterMessage then
      (DataPacket.observedCodec forkLater forkLaterMessage).fromCbor bytes
    else forkCodec.fromCbor bytes

theorem forkPairCodec_losslessOn {packet : DataPacket}
    (hpacket : packet = .forkPacket (.double [.finite 1]) ∨ packet = forkLater) {obj : Json}
    (h : packet.toJSONObject = .ok obj) : forkPairCodec.LosslessOn obj := by
  have hwritten : ∀ packet : DataPacket,
      packet = .forkPacket (.double [.finite 1]) ∨ packet = forkLater →
      packet.toJSONObject = .ok (.object (packet.headerFields ++ packet.doubleFields)) := by
    rintro packet (rfl | rfl) <;>
      exact DataPacket.toJSONObject_double (by decide +kernel) (by decide +kernel)
        (by decide +kernel) (by decide +kernel) (by decide +kernel) (by decide +kernel)
        (by decide +kernel) (by decide +kernel)
  have hobj := hwritten packet hpacket
  obtain rfl := Except.ok.inj (hobj.symm.trans h)
  rcases hpacket with rfl | rfl
  · have hbytes : forkPairCodec.toCbor (.object
        ((DataPacket.forkPacket (.double [.finite 1])).headerFields ++
          (DataPacket.forkPacket (.double [.finite 1])).doubleFields)) =
        DataPacket.forkDoubleMessage := by decide +kernel
    have hother : ¬ DataPacket.forkDoubleMessage = forkLaterMessage := by decide +kernel
    have hread : forkPairCodec.fromCbor DataPacket.forkDoubleMessage =
        forkCodec.fromCbor DataPacket.forkDoubleMessage := by
      simp only [forkPairCodec, if_neg hother]
    rw [CborCodec.LosslessOn, hbytes, hread]
    have hne : DataPacket.forkDoubleMessage ≠ [] := by decide +kernel
    exact ⟨hne, (DataPacket.observedCodec_losslessOn hne hobj).2⟩
  · have hbytes : forkPairCodec.toCbor (.object
        (forkLater.headerFields ++ forkLater.doubleFields)) = forkLaterMessage := by
      decide +kernel
    have hread : forkPairCodec.fromCbor forkLaterMessage =
        (DataPacket.observedCodec forkLater forkLaterMessage).fromCbor forkLaterMessage := by
      simp only [forkPairCodec, if_true]
    rw [CborCodec.LosslessOn, hbytes, hread]
    have hne : forkLaterMessage ≠ [] := by decide +kernel
    exact ⟨hne, (DataPacket.observedCodec_losslessOn hne hobj).2⟩

/-- The messages of the two packets. -/
def forkBroadcasts : List (List Frame) :=
  [forkBroadcast, [bytes DataPacket.MESSAGE_TYPE, forkLaterMessage]]

theorem forkBroadcasts_propagate : forkBroadcasts.map (propagates forkPairCodec) =
    [some (.forkPacket (.double [.finite 1])), some forkLater] := by
  decide +kernel

/-- The listener is started, reads two messages and invokes the callback on each packet; then
    the consumers take their turns. -/
def forkSteps : List BroadcastStep :=
  startSteps.map .subscriber ++
    forkBroadcasts.flatMap (fun message => [.subscriber (.listener []),
      .subscriber (.listener message), .subscriber (.listener [])]) ++
    List.replicate 12 (.check ⟨1, ⟨60000000, 60000000, 60000000⟩, 60000000⟩) ++
    List.replicate 12 (.publish ⟨1, .ok (), 60000000⟩)

theorem fork_reads :
    (sanitizerBroadcast forkPairCodec).emitted (sanitizerStart defaultTesters 511 511 0 0)
      forkSteps = forkBroadcasts := by
  decide +kernel

/-- A message that is read is that of one of the two packets. -/
theorem fork_read {message : List Frame} (h : message ∈ (sanitizerBroadcast forkPairCodec).emitted
    (sanitizerStart defaultTesters 511 511 0 0) forkSteps) :
    ∃ packet, (packet = .forkPacket (.double [.finite 1]) ∨ packet = forkLater) ∧
      propagates forkPairCodec message = some packet := by
  rw [fork_reads] at h
  have hpropagates := List.mem_map_of_mem (f := propagates forkPairCodec) h
  rw [forkBroadcasts_propagate] at hpropagates
  simp only [List.mem_cons, List.not_mem_nil, or_false] at hpropagates
  rcases hpropagates with hfirst | hlater
  · exact ⟨_, Or.inl rfl, hfirst⟩
  · exact ⟨_, Or.inr rfl, hlater⟩

theorem fork_lossless : ∀ message ∈ (sanitizerBroadcast forkPairCodec).emitted
    (sanitizerStart defaultTesters 511 511 0 0) forkSteps, ∀ packet,
    propagates forkPairCodec message = some packet →
      ∀ obj, packet.toJSONObject = .ok obj → forkPairCodec.LosslessOn obj := by
  intro message hmessage packet hpacket obj hobj
  obtain ⟨own, hown, hread⟩ := fork_read hmessage
  rw [hread, Option.some.injEq] at hpacket
  exact forkPairCodec_losslessOn (hpacket ▸ hown) hobj

theorem fork_manageable : ∀ message ∈ (sanitizerBroadcast forkPairCodec).emitted
    (sanitizerStart defaultTesters 511 511 0 0) forkSteps, Manageable forkPairCodec message := by
  intro message hmessage
  obtain ⟨own, hown, hread⟩ := fork_read hmessage
  constructor
  · rw [propagates_eq_some_iff.mp hread]
    simp
  · intro packet hpacket
    rw [hread, Option.some.injEq] at hpacket
    rw [← hpacket]
    rcases hown with rfl | rfl <;> decide +kernel

theorem fork_packets_unchanged :
    let process := ((sanitizerBroadcast forkPairCodec).after
      (sanitizerStart defaultTesters 511 511 0 0) forkSteps).receiver
    process.history.sends.map Arrival.index = [0, 1] ∧
      (broadcast forkPairCodec process).map (propagates forkPairCodec) =
        process.history.sends.map fun a => some a.packet :=
  ⟨by decide +kernel, (sanitized_packets_unchanged defaultTesters 511 511 0 0 forkSteps
    fork_manageable fork_lossless).1⟩

/-- The two packets are delivered to the SEEDLink publisher, and it sends both. -/
def forkAcquired : List SEEDLink.Action :=
  .deliver (.forkPacket (.double [.finite 1])) :: .deliver forkLater ::
    List.replicate 14 (.publish ⟨1, .ok (), 60000000⟩)

theorem fork_acquired_to_sanitized :
    ((broadcast forkPairCodec ((sanitizerBroadcast forkPairCodec).after
        (sanitizerStart defaultTesters 511 511 0 0) forkSteps).receiver).filterMap
          (propagates forkPairCodec)).Sublist
      ((forkAcquired.flatMap SEEDLink.Action.accepted).filterMap
        fun packet => (messageOf forkPairCodec packet).bind (propagates forkPairCodec)) := by
  refine acquired_to_sanitized defaultTesters 511 511 0 0 forkSteps 600 1024 0 forkAcquired ?_
    fork_lossless
  have hsent : SEEDLink.acquisition.emitted (.start 600 (.empty 1024) 0) forkAcquired =
      [.forkPacket (.double [.finite 1]), forkLater] := by
    decide +kernel
  have hwritten : [DataPacket.forkPacket (.double [.finite 1]), forkLater].filterMap
      (messageOf forkPairCodec) = forkBroadcasts := by
    decide +kernel
  rw [fork_reads, hsent, hwritten]
  exact List.filter_sublist

end Us8
