/-
  Us8/Subscriber.lean
  ===================
  **Starting and stopping the subscriber** (`broadcasts/dataPacket/subscriber.cpp`), and
  what the sanitizer makes of it (`Process::start` and `stop`).

  The subscriber owns one thread, `listen`, which waits for messages and hands the packets
  in them to a callback.  The `SubscriberImpl` has a `start` (which stops first) and a
  `stop` that lowers `mKeepRunning` and joins the thread.  Of the two public calls both
  are forwarded to `start`, so what is called stopping leaves a new listener behind
  (`Listening`).

  Each access to something shared is one step.  The callback is whatever the options hold;
  its effect is on a state of its own, `receiver`.  For the sanitizer that is the process
  with its queues.  The listener's counts of messages, which it only logs, are left out.

  A payload whose decoding is undefined leaves the program `lost`: nothing can be said of it
  from there on, and the model stays where it is.
-/
import Us8.DataPacketWire
import Us8.SanitizerThreads
import Us8.ZapService

namespace Us8

/-! ### From the wire to the callback -/

def createMessageTypes : List Frame := [bytes DataPacket.MESSAGE_TYPE]

/-- What the listener makes of what the socket gave; an empty result is a wait that has
    timed out. -/
inductive Reading where
  | timedOut
  | malformed
  | otherType
  | refused (e : StdException)
  | undefined
  | packet (dataPacket : DataPacket)
deriving DecidableEq

def reading (codec : CborCodec) : List Frame → Reading
  | [] => .timedOut
  | [messageType, payload] =>
      if createMessageTypes.contains messageType then
        match DataPacket.deserialize codec payload with
        | .ok dataPacket => .packet dataPacket
        | .error (.thrown e) => .refused e
        | .error .undefinedBehaviour => .undefined
      else .otherType
  | _ => .malformed

theorem reading_ne_timedOut {codec : CborCodec} {messagesReceived : List Frame}
    (h : messagesReceived ≠ []) : reading codec messagesReceived ≠ .timedOut := by
  rcases messagesReceived with _ | ⟨messageType, _ | ⟨payload, _ | ⟨third, rest⟩⟩⟩
  · exact absurd rfl h
  · simp [reading]
  · simp only [reading]
    split_ifs
    · split <;> simp
    · simp
  · simp [reading]

/-- The packet that is handed on. -/
def propagates (codec : CborCodec) (messagesReceived : List Frame) : Option DataPacket :=
  match reading codec messagesReceived with
  | .packet dataPacket => some dataPacket
  | _ => none

theorem propagates_eq_some_iff {codec : CborCodec} {messagesReceived : List Frame}
    {dataPacket : DataPacket} :
    propagates codec messagesReceived = some dataPacket ↔
      reading codec messagesReceived = .packet dataPacket := by
  unfold propagates
  cases reading codec messagesReceived <;> simp

/-- A packet that is handed on was decoded from the second part. -/
theorem deserialize_of_reading {codec : CborCodec} {messagesReceived : List Frame}
    {dataPacket : DataPacket} (h : reading codec messagesReceived = .packet dataPacket) :
    ∃ payload, messagesReceived = [bytes DataPacket.MESSAGE_TYPE, payload] ∧
      DataPacket.deserialize codec payload = .ok dataPacket := by
  rcases messagesReceived with _ | ⟨messageType, _ | ⟨payload, _ | ⟨third, rest⟩⟩⟩
  · cases h
  · cases h
  · simp only [reading] at h
    split_ifs at h with htype
    have hown : messageType = bytes DataPacket.MESSAGE_TYPE := by
      simpa [createMessageTypes] using htype
    rcases hdecode : DataPacket.deserialize codec payload with (e | _) | own
    · simp [hdecode] at h
    · simp [hdecode] at h
    · simp only [hdecode, Reading.packet.injEq] at h
      exact ⟨payload, by rw [hown], by rw [← h, hdecode]⟩
  · cases h

theorem reading_of_deserialize {codec : CborCodec} {payload : List UInt8}
    {dataPacket : DataPacket} (h : DataPacket.deserialize codec payload = .ok dataPacket) :
    reading codec [bytes DataPacket.MESSAGE_TYPE, payload] = .packet dataPacket := by
  simp [reading, createMessageTypes, h]

/-! ### States and steps -/

/-- The two procedures of the `SubscriberImpl`. -/
inductive ImplCall where
  | start
  | stop
deriving DecidableEq

inductive SubscriberCall where
  | start
  | stop
deriving DecidableEq

/-- Where a call is forwarded to: `Subscriber::stop` calls `pImpl->start()` too. -/
def SubscriberCall.forward : SubscriberCall → ImplCall
  | .start => .start
  | .stop => .start

/-- Where the caller stands; `raise` and `spawn` are the end of `start`. -/
inductive CallerPc where
  | idle
  | lower (call : ImplCall)
  | join (call : ImplCall)
  | raise
  | spawn
deriving DecidableEq

/-- Where `listen` stands; `none` is a thread that is not joinable. -/
inductive ListenerPc where
  | none
  | loopTop
  | receive
  | callback (dataPacket : DataPacket)
  | ended
  | lost

@[simp] def ListenerPc.running : ListenerPc → Bool
  | .none => false
  | .ended => false
  | .lost => false
  | _ => true

def ListenerPc.isLost : ListenerPc → Bool
  | .lost => true
  | _ => false

/-- A subscriber that exists is initialized.  `calls` records the calls that have been
    made; no step reads it. -/
structure SubscriberImpl (σ : Type) where
  mKeepRunning : Bool := true
  caller : CallerPc := .idle
  listener : ListenerPc := .none
  receiver : σ
  calls : List SubscriberCall := []

inductive SubscriberStep where
  | call (call : SubscriberCall)
  | caller
  | listener (messagesReceived : List Frame)

def SubscriberStep.isListener : SubscriberStep → Bool
  | .listener _ => true
  | _ => false

namespace SubscriberImpl

variable {σ : Type}

def beginCall (impl : SubscriberImpl σ) (call : SubscriberCall) : SubscriberImpl σ :=
  match impl.caller with
  | .idle => { impl with caller := .lower call.forward, calls := impl.calls ++ [call] }
  | _ => impl

def callerStep (impl : SubscriberImpl σ) : SubscriberImpl σ :=
  match impl.caller with
  | .idle => impl
  | .lower call => { impl with mKeepRunning := false, caller := .join call }
  | .join call =>
      if impl.listener.running then impl
      else
        { impl with
          listener := .none
          caller := match call with
            | .start => .raise
            | .stop => .idle }
  | .raise => { impl with mKeepRunning := true, caller := .spawn }
  | .spawn => { impl with listener := .loopTop, caller := .idle }

def listen (codec : CborCodec) (callback : σ → DataPacket → σ) (impl : SubscriberImpl σ)
    (messagesReceived : List Frame) : SubscriberImpl σ :=
  match impl.listener with
  | .none => impl
  | .loopTop => { impl with listener := if impl.mKeepRunning then .receive else .ended }
  | .receive =>
      match reading codec messagesReceived with
      | .packet dataPacket => { impl with listener := .callback dataPacket }
      | .undefined => { impl with listener := .lost }
      | _ => { impl with listener := .loopTop }
  | .callback dataPacket =>
      { impl with receiver := callback impl.receiver dataPacket, listener := .loopTop }
  | .ended => impl
  | .lost => impl

def act (codec : CborCodec) (callback : σ → DataPacket → σ) (impl : SubscriberImpl σ)
    (step : SubscriberStep) : SubscriberImpl σ :=
  if impl.listener.isLost then impl
  else match step with
    | .call call => impl.beginCall call
    | .caller => impl.callerStep
    | .listener messagesReceived => impl.listen codec callback messagesReceived

/-- The message that the step takes from the socket. -/
def reads (impl : SubscriberImpl σ) : SubscriberStep → Option (List Frame)
  | .listener messagesReceived =>
      match impl.listener with
      | .receive => some messagesReceived
      | _ => none
  | _ => none

/-- The message that the step reads, if it reads one, can be decoded or refused. -/
def ReadsDefined (codec : CborCodec) (impl : SubscriberImpl σ) (step : SubscriberStep) : Prop :=
  ∀ message ∈ impl.reads step, reading codec message ≠ .undefined

instance (codec : CborCodec) (impl : SubscriberImpl σ) (step : SubscriberStep) :
    Decidable (impl.ReadsDefined codec step) :=
  inferInstanceAs (Decidable (∀ message ∈ impl.reads step, reading codec message ≠ .undefined))

end SubscriberImpl

def subscriber {σ : Type} (codec : CborCodec) (callback : σ → DataPacket → σ) :
    Machine (SubscriberImpl σ) SubscriberStep Unit where
  step impl step := (impl.act codec callback step, ())

/-! ### What is meant -/

section Meaning

variable {σ : Type} (codec : CborCodec) (callback : σ → DataPacket → σ)

/-- Until the next call the callback is not invoked, and nothing undefined happens. -/
def Quiet (impl : SubscriberImpl σ) : Prop :=
  ∀ rest : List SubscriberStep, (∀ step ∈ rest, step.isListener = true) →
    ((subscriber codec callback).after impl rest).receiver = impl.receiver ∧
      ((subscriber codec callback).after impl rest).listener.isLost = false

/-- Nothing undefined has happened, a listener runs exactly if the last call was `start`, and
    after a `stop` the callback is not invoked. -/
structure LifecycleKept (impl : SubscriberImpl σ) : Prop where
  defined : impl.listener.isLost = false
  running : impl.listener.running = true ↔ impl.calls.getLast? = some .start
  quiet : impl.calls.getLast? = some .stop → Quiet codec callback impl

end Meaning

/-- The calls of the sanitizer's `Process`. -/
inductive ProcessCall where
  | start
  | stop
deriving DecidableEq

/-- What they call on the subscriber: `Process::start` stops first. -/
def ProcessCall.subscriberCalls : ProcessCall → List SubscriberCall
  | .start => [.stop, .start]
  | .stop => [.stop]

/-! ### Every call leaves a listener behind -/

namespace SubscriberImpl

variable {σ : Type} {codec : CborCodec} {callback : σ → DataPacket → σ}
  {impl : SubscriberImpl σ}

/-- What holds by where the caller stands, unless the program is lost: once a call has been
    made and has returned, a listener runs and nothing tells it to leave. -/
def Listening (impl : SubscriberImpl σ) : Prop :=
  match impl.caller with
  | .idle =>
      (impl.calls = [] ∧ impl.listener = .none) ∨
        (impl.calls ≠ [] ∧ impl.listener.running = true ∧ impl.mKeepRunning = true)
  | .lower call => impl.calls ≠ [] ∧ call = .start
  | .join call => impl.calls ≠ [] ∧ call = .start
  | .raise => impl.calls ≠ []
  | .spawn => impl.calls ≠ [] ∧ impl.mKeepRunning = true

theorem listening_beginCall (h : impl.Listening) (call : SubscriberCall) :
    Listening (impl.beginCall call) := by
  have hlistening := h
  unfold beginCall
  cases hcaller : impl.caller with
  | idle => cases call <;> simp [Listening, SubscriberCall.forward]
  | _ => exact hlistening

theorem listening_callerStep (h : Listening impl) : Listening impl.callerStep := by
  have hlistening := h
  unfold Listening at h
  unfold callerStep
  cases hcaller : impl.caller with
  | idle => exact hlistening
  | lower call =>
    rw [hcaller] at h
    exact h
  | join call =>
    rw [hcaller] at h
    dsimp only
    split_ifs
    · exact hlistening
    · rw [h.2]
      exact h.1
  | raise =>
    rw [hcaller] at h
    exact ⟨h, rfl⟩
  | spawn =>
    rw [hcaller] at h
    exact Or.inr ⟨h.1, rfl, h.2⟩

@[simp] theorem caller_listen (messagesReceived : List Frame) :
    (impl.listen codec callback messagesReceived).caller = impl.caller := by
  unfold listen
  split <;> try rfl
  split <;> rfl

@[simp] theorem calls_listen (messagesReceived : List Frame) :
    (impl.listen codec callback messagesReceived).calls = impl.calls := by
  unfold listen
  split <;> try rfl
  split <;> rfl

@[simp] theorem mKeepRunning_listen (messagesReceived : List Frame) :
    (impl.listen codec callback messagesReceived).mKeepRunning = impl.mKeepRunning := by
  unfold listen
  split <;> try rfl
  split <;> rfl

/-- A listener that is not told to leave goes on, unless the program is lost. -/
theorem running_listen (hrunning : impl.listener.running = true)
    (hkeep : impl.mKeepRunning = true) (messagesReceived : List Frame) :
    (impl.listen codec callback messagesReceived).listener.isLost = true ∨
      (impl.listen codec callback messagesReceived).listener.running = true := by
  unfold listen
  cases hpc : impl.listener with
  | none => simp [hpc] at hrunning
  | ended => simp [hpc] at hrunning
  | lost => simp [hpc] at hrunning
  | loopTop => simp [hkeep]
  | receive => cases reading codec messagesReceived <;> simp [ListenerPc.isLost]
  | callback dataPacket => exact Or.inr rfl

theorem listening_listen (h : Listening impl) (messagesReceived : List Frame) :
    (impl.listen codec callback messagesReceived).listener.isLost = true ∨
      Listening (impl.listen codec callback messagesReceived) := by
  unfold Listening at h ⊢
  rw [caller_listen, calls_listen, mKeepRunning_listen]
  cases hcaller : impl.caller with
  | idle =>
    rw [hcaller] at h
    rcases h with ⟨hcalls, hnone⟩ | ⟨hcalls, hrunning, hkeep⟩
    · right
      left
      refine ⟨hcalls, ?_⟩
      simp [listen, hnone]
    · rcases running_listen hrunning hkeep messagesReceived with hlost | hrunning
      · exact Or.inl hlost
      · exact Or.inr (Or.inr ⟨hcalls, hrunning, hkeep⟩)
  | _ =>
    rw [hcaller] at h
    exact Or.inr h

theorem listening_after (receiver : σ) (steps : List SubscriberStep) :
    ((subscriber codec callback).after { receiver := receiver } steps).listener.isLost = true ∨
      Listening ((subscriber codec callback).after { receiver := receiver } steps) := by
  apply (subscriber codec callback).after_invariant
    (I := fun impl => impl.listener.isLost = true ∨ Listening impl)
  · intro impl step h
    simp only [subscriber, act]
    split_ifs with hlost
    · exact Or.inl hlost
    · have hlistening := h.resolve_left hlost
      cases step with
      | call call => exact Or.inr (listening_beginCall hlistening call)
      | caller => exact Or.inr (listening_callerStep hlistening)
      | listener messagesReceived => exact listening_listen hlistening messagesReceived
  · exact Or.inr (Or.inl ⟨rfl, rfl⟩)

/-- A step loses the program exactly if it reads a message whose decoding is undefined. -/
theorem isLost_act (hdefined : impl.listener.isLost = false) (step : SubscriberStep) :
    (impl.act codec callback step).listener.isLost = false ↔ impl.ReadsDefined codec step := by
  have hnot : ¬ impl.listener.isLost = true := by simp [hdefined]
  simp only [act, if_neg hnot]
  cases step with
  | call call =>
    have hlistener : (impl.beginCall call).listener = impl.listener := by
      unfold beginCall
      split <;> rfl
    simp [ReadsDefined, reads, hlistener, hdefined]
  | caller =>
    have hlistener : impl.callerStep.listener.isLost = false := by
      unfold callerStep
      split <;> try exact hdefined
      · split_ifs
        · exact hdefined
        · rfl
      · rfl
    simp [ReadsDefined, reads, hlistener]
  | listener messagesReceived =>
    cases hpc : impl.listener with
    | none => simp [ReadsDefined, reads, listen, hpc, ListenerPc.isLost]
    | loopTop =>
      cases hkeep : impl.mKeepRunning <;>
        simp [ReadsDefined, reads, listen, hpc, hkeep, ListenerPc.isLost]
    | receive =>
      cases hreading : reading codec messagesReceived <;>
        simp [ReadsDefined, reads, listen, hpc, hreading, ListenerPc.isLost]
    | callback dataPacket => simp [ReadsDefined, reads, listen, hpc, ListenerPc.isLost]
    | ended => simp [ReadsDefined, reads, listen, hpc, ListenerPc.isLost]
    | lost => simp [hpc, ListenerPc.isLost] at hdefined

theorem isLost_after_of_lost (hlost : impl.listener.isLost = true)
    (steps : List SubscriberStep) :
    (subscriber codec callback).after impl steps = impl := by
  induction steps with
  | nil => rfl
  | cons step rest ih =>
    have hstays : ((subscriber codec callback).step impl step).1 = impl := if_pos hlost
    rw [Machine.after_cons, hstays, ih]

theorem isLost_after (hdefined : impl.listener.isLost = false) (steps : List SubscriberStep) :
    ((subscriber codec callback).after impl steps).listener.isLost = false ↔
      (subscriber codec callback).Always (ReadsDefined codec) impl steps := by
  induction steps generalizing impl with
  | nil => simpa [Machine.Always] using hdefined
  | cons step rest ih =>
    have hstep := @isLost_act σ codec callback impl hdefined step
    rw [Machine.after_cons, Machine.Always, ← hstep]
    cases hnext : ((subscriber codec callback).step impl step).1.listener.isLost with
    | false =>
      have hown : (impl.act codec callback step).listener.isLost = false := hnext
      rw [ih hnext]
      simp [hown]
    | true =>
      have hown : (impl.act codec callback step).listener.isLost = true := hnext
      rw [isLost_after_of_lost hnext, hnext]
      simp [hown]

/-- A listener that is not told to leave gets to invoke the callback, once there is a
    message to be handed on. -/
theorem invokes_callback (hrunning : impl.listener.running = true)
    (hkeep : impl.mKeepRunning = true) {message : List Frame} {dataPacket : DataPacket}
    (hmessage : propagates codec message = some dataPacket) :
    ∃ rest : List SubscriberStep, (∀ step ∈ rest, step.isListener = true) ∧
      ∃ delivered, ((subscriber codec callback).after impl rest).receiver =
        callback impl.receiver delivered := by
  have hreading := propagates_eq_some_iff.mp hmessage
  cases hpc : impl.listener with
  | none => simp [hpc] at hrunning
  | ended => simp [hpc] at hrunning
  | lost => simp [hpc] at hrunning
  | loopTop =>
    refine ⟨[.listener [], .listener message, .listener []], by simp [SubscriberStep.isListener],
      dataPacket, ?_⟩
    simp [subscriber, act, listen, hpc, hkeep, hreading, ListenerPc.isLost]
  | receive =>
    refine ⟨[.listener message, .listener []], by simp [SubscriberStep.isListener],
      dataPacket, ?_⟩
    simp [subscriber, act, listen, hpc, hreading, ListenerPc.isLost]
  | callback delivered =>
    refine ⟨[.listener []], by simp [SubscriberStep.isListener], delivered, ?_⟩
    simp [subscriber, act, listen, hpc, ListenerPc.isLost]

end SubscriberImpl

/-! ### The lifecycle -/

section Lifecycle

variable {σ : Type} {codec : CborCodec} {callback : σ → DataPacket → σ}
  {impl : SubscriberImpl σ}

theorem lifecycleKept_iff_of_listening (h : impl.listener.isLost = true ∨ impl.Listening)
    (hidle : impl.caller = .idle) :
    LifecycleKept codec callback impl ↔
      impl.calls.getLast? ≠ some .stop ∧ impl.listener.isLost = false := by
  rcases h with hlost | h
  · constructor
    · intro hkept
      simp [hkept.defined] at hlost
    · rintro ⟨-, hdefined⟩
      simp [hdefined] at hlost
  · unfold SubscriberImpl.Listening at h
    rw [hidle] at h
    rcases h with ⟨hcalls, hnone⟩ | ⟨hcalls, hrunning, -⟩
    · -- before the first call there is nothing to stop
      simp only [hcalls, List.getLast?_nil, ne_eq, reduceCtorEq, not_false_eq_true, true_and]
      constructor
      · exact LifecycleKept.defined
      · intro hdefined
        exact ⟨hdefined, by simp [hcalls, hnone], by simp [hcalls]⟩
    · constructor
      · intro hkept
        refine ⟨fun hstop => ?_, hkept.defined⟩
        rw [hkept.running.mp hrunning] at hstop
        cases hstop
      · rintro ⟨hstop, hdefined⟩
        have hstart : impl.calls.getLast? = some .start := by
          cases hlast : impl.calls.getLast? with
          | none => exact absurd (List.getLast?_eq_none_iff.mp hlast) hcalls
          | some call =>
            cases call with
            | start => rfl
            | stop => exact absurd hlast hstop
        exact ⟨hdefined, ⟨fun _ => hstart, fun _ => hrunning⟩, fun hcall => absurd hcall hstop⟩

/-- After a call has returned, the callback can be invoked again. -/
theorem not_quiet_of_listening {process : SubscriberImpl Process}
    (h : process.listener.isLost = true ∨ process.Listening)
    (hidle : process.caller = .idle) (hcalls : process.calls ≠ []) {message : List Frame}
    {dataPacket : DataPacket} (hmessage : propagates codec message = some dataPacket) :
    ¬ Quiet codec Process.inputPacketsToQueueCallback process := by
  intro hquiet
  rcases h with hlost | h
  · have hdefined : process.listener.isLost = false := (hquiet [] (by simp)).2
    rw [hdefined] at hlost
    cases hlost
  · unfold SubscriberImpl.Listening at h
    rw [hidle] at h
    rcases h with ⟨hnone, -⟩ | ⟨-, hrunning, hkeep⟩
    · exact absurd hnone hcalls
    · obtain ⟨rest, hlistener, delivered, hreceiver⟩ :=
        SubscriberImpl.invokes_callback hrunning hkeep hmessage
      rw [(hquiet rest hlistener).1] at hreceiver
      -- the process records every packet that the callback is given
      have hlength := congrArg (fun p : Process => p.history.arrivals.length) hreceiver
      simp [Process.inputPacketsToQueueCallback] at hlength

end Lifecycle

/-- **What the subscriber's calls achieve.**  After any sequence of calls and however the
    threads interleave, a listener runs exactly if the last call was `start`, and after a
    `stop` the callback is not invoked, if and only if the last call was not `stop` and no
    message has been read whose decoding is undefined.  For the sanitizer: after a sequence of
    its own calls, nothing is put in its queues after `Process::stop` has returned, if and only
    if the last call was not `stop`. -/
theorem lifecycleKept_iff (codec : CborCodec) (message : List Frame) (dataPacket : DataPacket)
    (hmessage : propagates codec message = some dataPacket) :
    (∀ (σ : Type) (callback : σ → DataPacket → σ) (receiver : σ) (steps : List SubscriberStep),
      ((subscriber codec callback).after { receiver := receiver } steps).caller = .idle →
      (LifecycleKept codec callback
          ((subscriber codec callback).after { receiver := receiver } steps) ↔
        ((subscriber codec callback).after { receiver := receiver } steps).calls.getLast? ≠
            some .stop ∧
          (subscriber codec callback).Always (SubscriberImpl.ReadsDefined codec)
            { receiver := receiver } steps)) ∧
    ∀ (process : Process) (steps : List SubscriberStep) (calls : List ProcessCall),
      ((subscriber codec Process.inputPacketsToQueueCallback).after
        { receiver := process } steps).caller = .idle →
      ((subscriber codec Process.inputPacketsToQueueCallback).after
        { receiver := process } steps).calls = calls.flatMap ProcessCall.subscriberCalls →
      ((calls.getLast? = some .stop →
          Quiet codec Process.inputPacketsToQueueCallback
            ((subscriber codec Process.inputPacketsToQueueCallback).after
              { receiver := process } steps)) ↔
        calls.getLast? ≠ some .stop) := by
  constructor
  · intro σ callback receiver steps hidle
    rw [← SubscriberImpl.isLost_after rfl]
    exact lifecycleKept_iff_of_listening (SubscriberImpl.listening_after receiver steps) hidle
  · intro process steps calls hidle hcalls
    constructor
    · intro hquiet hstop
      have hne : calls.flatMap ProcessCall.subscriberCalls ≠ [] := by
        obtain ⟨before, rfl⟩ := List.getLast?_eq_some_iff.mp hstop
        simp [ProcessCall.subscriberCalls]
      exact not_quiet_of_listening (SubscriberImpl.listening_after process steps) hidle
        (hcalls ▸ hne) hmessage (hquiet hstop)
    · intro hstop hcall
      exact absurd hcall hstop

/-! ### A packet after the end -/

/-- A message with one sample, as the publisher sends it. -/
def forkBroadcast : List Frame := [bytes DataPacket.MESSAGE_TYPE, DataPacket.forkDoubleMessage]

def forkCodec : CborCodec :=
  DataPacket.observedCodec (.forkPacket (.double [.finite 1])) DataPacket.forkDoubleMessage

theorem forkDoubleMessage_decodes :
    DataPacket.deserialize forkCodec DataPacket.forkDoubleMessage =
      .ok (.forkPacket (.double [.finite 1])) := by
  have hobj := @DataPacket.toJSONObject_double (.forkPacket (.double [.finite 1]))
    (by decide +kernel) (by decide +kernel) (by decide +kernel) (by decide +kernel)
    (by decide +kernel) (by decide +kernel) (by decide +kernel) (by decide +kernel)
  have hparse : forkCodec.fromCbor DataPacket.forkDoubleMessage = _ :=
    (@DataPacket.observedCodec_losslessOn _ DataPacket.forkDoubleMessage (by decide) _ hobj).2
  rw [DataPacket.deserialize_of_fromCbor (by decide) hparse]
  exact DataPacket.objectToDataPacket_double (by decide +kernel) (by decide +kernel)
    (by decide +kernel) (by decide +kernel) (by decide +kernel) (by decide +kernel)

theorem forkBroadcast_propagates :
    propagates forkCodec forkBroadcast = some (.forkPacket (.double [.finite 1])) :=
  propagates_eq_some_iff.mpr (reading_of_deserialize forkDoubleMessage_decodes)

/-- A subscriber that keeps what it is given. -/
def collector : Machine (SubscriberImpl (List DataPacket)) SubscriberStep Unit :=
  subscriber forkCodec fun collected dataPacket => collected ++ [dataPacket]

def startSteps : List SubscriberStep := [.call .start, .caller, .caller, .caller, .caller]

/-- The listener looks at `mKeepRunning` while `stop` waits for it. -/
def stopSteps : List SubscriberStep :=
  [.call .stop, .caller, .listener [], .caller, .caller, .caller]

theorem started_lifecycleKept :
    LifecycleKept forkCodec (fun collected dataPacket => collected ++ [dataPacket])
      (collector.after { receiver := [] } startSteps) :=
  ((lifecycleKept_iff forkCodec forkBroadcast _ forkBroadcast_propagates).1 (List DataPacket)
    (fun collected dataPacket => collected ++ [dataPacket]) [] startSteps rfl).mpr
    ⟨by decide, by simp [startSteps, Machine.Always, SubscriberImpl.ReadsDefined,
      SubscriberImpl.reads]⟩

/-- After `start` and `stop` a listener runs, and the next message gets to the
    callback. -/
theorem stopped_lifecycle_not_kept :
    (collector.after { receiver := [] } (startSteps ++ stopSteps)).caller = .idle ∧
    (collector.after { receiver := [] } (startSteps ++ stopSteps)).calls = [.start, .stop] ∧
    (collector.after { receiver := [] } (startSteps ++ stopSteps ++
      [.listener [], .listener forkBroadcast, .listener []])).receiver =
        [.forkPacket (.double [.finite 1])] ∧
    ¬ LifecycleKept forkCodec (fun collected dataPacket => collected ++ [dataPacket])
      (collector.after { receiver := [] } (startSteps ++ stopSteps)) := by
  have hreading := propagates_eq_some_iff.mp forkBroadcast_propagates
  refine ⟨rfl, rfl, ?_, ?_⟩
  · simp [collector, subscriber, startSteps, stopSteps, SubscriberImpl.act,
      SubscriberImpl.beginCall, SubscriberImpl.callerStep, SubscriberImpl.listen,
      SubscriberCall.forward, ListenerPc.isLost, hreading]
  · intro hkept
    have hlast := hkept.running.mp rfl
    revert hlast
    decide

end Us8
