/-
  Us8/ZapServiceThreads.lean
  ==========================
  **Starting and stopping the authentication service** (`ServiceImpl::start`, `stop` and
  `runZAPThread` of `messaging/zeromq/authentication/service.cpp`).

  The owner of the service and the ZAP thread share two atomic flags and a pair of
  sockets.  `stop` sends TERMINATE if `mAPIStarted` says that there is someone to send it
  to, lowers both flags and joins the thread; `start` is `stop` followed by a new thread.
  The thread connects its end of the pair, raises `mAPIStarted`, and then polls without a
  time limit until something arrives.  Each access to something shared is one step, so an
  interleaving is a list of steps saying who moves next; a step that would block leaves
  the state as it is.

  The flag is raised late: a `stop` that comes before it finds nobody to send TERMINATE
  to.  Then either the thread has already seen `mKeepRunning` and polls for ever while
  its owner waits in `join` (`Hung`), or it leaves at once and `mAPIStarted` stays up with
  nobody there, so that the next `stop` sends to no one (`SendsToNobody`).  And the pipe
  serves one thread only: when the service is started again, the new thread raises its
  flag without being connected, and a `stop` sends to the peer that is gone.  When `stop`
  neither overtakes the thread (`NotOvertaking`) nor looks for one that is not connected
  (`NotReusing`), none of this happens.

  Of the sockets this is assumed.  An infinite poll returns only when a message is
  pending, and sending on a pair without a peer blocks.  A pair has one peer, whom it
  keeps until all that he has sent is read; the owner reads nothing, not even the empty
  message by which the thread says that it is ready, so it keeps its first peer for ever
  and turns later ones away.  Binding throws when the address is in use, which it may
  still be after an earlier ZAP socket has been closed; an exception that leaves the
  thread ends the process.  What a request for authentication is answered with is left
  out (`ZapService`), and so is the owner's side of the message that says ready.
-/
import Us8.Machine

namespace Us8

/-! ### States and steps -/

/-- The call that is being executed: `start` begins with a `stop` of its own. -/
inductive ServiceCall where
  | start
  | stop
deriving DecidableEq

/-- Where `stop` stands: what it does next. -/
inductive StopPc where
  | readStarted
  | send
  | clearStarted
  | clearRunning
  | join
deriving DecidableEq

inductive OwnerPc where
  | idle
  | stopping (call : ServiceCall) (pc : StopPc)
  | setRunning
  | spawn
deriving DecidableEq

/-- Where the ZAP thread stands.  After a poll, `zap` says whether a request for
    authentication was pending too; `none` is a thread that is not joinable, and `threw` one
    that an exception has left. -/
inductive ZapPc where
  | none
  | connect
  | setStarted
  | bindZap
  | ready
  | loopTop
  | poll
  | receive (zap : Bool)
  | clearRunning (zap : Bool)
  | clearStarted (zap : Bool)
  | authenticate
  | closePipe
  | closeZap
  | ended
  | threw
deriving DecidableEq

/-- The owner's end of the pair: nobody has connected to it yet, the present thread is
    connected, or its peer was a thread that has closed its own end. -/
inductive PipeEnd where
  | unconnected
  | connected
  | deserted
deriving DecidableEq

namespace PipeEnd

/-- A connection is made to an end that has had no peer, and turned away otherwise. -/
def connect : PipeEnd → PipeEnd
  | .unconnected => .connected
  | taken => taken

def close : PipeEnd → PipeEnd
  | .connected => .deserted
  | other => other

end PipeEnd

/-- The part of `ServiceImpl` that the two threads share, and where each of them stands.
    `terminates` counts the TERMINATE messages in the pipe, `requests` the requests for
    authentication that wait at the ZAP socket; `zapUsed` says that a ZAP socket has been
    bound before. -/
structure ServiceThreads where
  mAPIStarted : Bool := false
  mKeepRunning : Bool := true
  mAPIPipe : PipeEnd := .unconnected
  zapUsed : Bool := false
  terminates : Nat := 0
  requests : Nat := 0
  owner : OwnerPc := .idle
  thread : ZapPc := .none
deriving DecidableEq

/-- Who moves; `inUse` says that the address of an earlier ZAP socket has not been given up
    yet. -/
inductive ServiceStep where
  | call (call : ServiceCall)
  | owner
  | thread (inUse : Bool)
  | request
deriving DecidableEq

namespace ZapPc

/-- The thread's end of the pair is open. -/
@[simp] def opened : ZapPc → Bool
  | .none => false
  | .connect => false
  | .closeZap => false
  | .ended => false
  | _ => true

/-- The thread has been created and has not raised `mAPIStarted` yet. -/
@[simp] def starting : ZapPc → Bool
  | .connect => true
  | .setStarted => true
  | _ => false

/-- The thread has raised `mAPIStarted` and received nothing. -/
@[simp] def serving : ZapPc → Bool
  | .bindZap => true
  | .ready => true
  | .loopTop => true
  | .poll => true
  | .authenticate => true
  | .threw => true
  | _ => false

end ZapPc

namespace ServiceThreads

def beginCall (impl : ServiceThreads) (call : ServiceCall) : ServiceThreads :=
  match impl.owner with
  | .idle => { impl with owner := .stopping call .readStarted }
  | _ => impl

/-- One step of `stop`. -/
def stop (impl : ServiceThreads) (call : ServiceCall) : StopPc → ServiceThreads
  | .readStarted =>
      if impl.mAPIStarted then { impl with owner := .stopping call .send }
      else { impl with owner := .stopping call .clearRunning }
  | .send =>
      if impl.mAPIPipe = .connected then
        { impl with terminates := impl.terminates + 1, owner := .stopping call .clearStarted }
      else impl
  | .clearStarted => { impl with mAPIStarted := false, owner := .stopping call .clearRunning }
  | .clearRunning => { impl with mKeepRunning := false, owner := .stopping call .join }
  | .join =>
      -- a thread that is not joinable is not waited for
      if impl.thread = .none ∨ impl.thread = .ended then
        { impl with
          thread := .none
          owner := match call with
            | .stop => .idle
            | .start => .setRunning }
      else impl

def ownerStep (impl : ServiceThreads) : ServiceThreads :=
  match impl.owner with
  | .idle => impl
  | .stopping call pc => impl.stop call pc
  | .setRunning => { impl with mKeepRunning := true, owner := .spawn }
  | .spawn => { impl with thread := .connect, owner := .idle }

/-- After the message of the pipe is dealt with: the request, if the poll saw one. -/
def afterPipe (zap : Bool) : ZapPc := if zap then .authenticate else .loopTop

/-- One step of the thread.  What is in the pipe is lost when the thread closes its end. -/
def runZAPThread (impl : ServiceThreads) (inUse : Bool) : ServiceThreads :=
  match impl.thread with
  | .none => impl
  | .connect => { impl with mAPIPipe := impl.mAPIPipe.connect, thread := .setStarted }
  | .setStarted => { impl with mAPIStarted := true, thread := .bindZap }
  | .bindZap =>
      if impl.zapUsed && inUse then { impl with thread := .threw }
      else { impl with zapUsed := true, thread := .ready }
  | .ready => { impl with thread := .loopTop }
  | .loopTop => { impl with thread := if impl.mKeepRunning then .poll else .closePipe }
  | .poll =>
      if 0 < impl.terminates then { impl with thread := .receive (decide (0 < impl.requests)) }
      else if 0 < impl.requests then { impl with thread := .authenticate }
      else impl
  | .receive zap =>
      { impl with terminates := impl.terminates - 1, thread := .clearRunning zap }
  | .clearRunning zap => { impl with mKeepRunning := false, thread := .clearStarted zap }
  | .clearStarted zap => { impl with mAPIStarted := false, thread := afterPipe zap }
  | .authenticate => { impl with requests := impl.requests - 1, thread := .loopTop }
  | .closePipe =>
      { impl with mAPIPipe := impl.mAPIPipe.close, terminates := 0, thread := .closeZap }
  | .closeZap => { impl with thread := .ended }
  | .ended => impl
  | .threw => impl

def act (impl : ServiceThreads) : ServiceStep → ServiceThreads
  | .call call => impl.beginCall call
  | .owner => impl.ownerStep
  | .thread inUse => impl.runZAPThread inUse
  | .request => { impl with requests := impl.requests + 1 }

end ServiceThreads

/-- Nothing moves any more when an exception has left the thread. -/
def zapServiceThreads : Machine ServiceThreads ServiceStep Unit where
  step impl step := (if impl.thread = .threw then impl else impl.act step, ())

/-! ### What must not happen -/

/-- The owner waits for a thread that waits for ever. -/
def Hung (impl : ServiceThreads) : Prop :=
  (∃ call, impl.owner = .stopping call .join) ∧ impl.thread = .poll ∧ impl.terminates = 0 ∧
    impl.requests = 0

/-- The owner sends TERMINATE while no thread is at the other end of the pair. -/
def SendsToNobody (impl : ServiceThreads) : Prop :=
  (∃ call, impl.owner = .stopping call .send) ∧ impl.mAPIPipe ≠ .connected

/-- At this step `stop` looks at `mAPIStarted` while a new thread is still on its way to
    raise it. -/
def overtakes (impl : ServiceThreads) (step : ServiceStep) : Bool :=
  match impl.owner, step with
  | .stopping _ .readStarted, .owner => impl.thread.starting
  | _, _ => false

def NotOvertaking (impl : ServiceThreads) (step : ServiceStep) : Prop :=
  overtakes impl step = false

/-- At this step `stop` finds `mAPIStarted` up, and the thread that has raised it is not the
    peer of the pipe: an earlier one was. -/
def reuses (impl : ServiceThreads) (step : ServiceStep) : Bool :=
  match impl.owner, step with
  | .stopping _ .readStarted, .owner =>
      impl.mAPIStarted && decide (impl.mAPIPipe ≠ .connected)
  | _, _ => false

def NotReusing (impl : ServiceThreads) (step : ServiceStep) : Prop := reuses impl step = false

/-- `stop` looks for a thread only where the one that it may find has raised its flag and is
    connected. -/
def Timely (impl : ServiceThreads) (step : ServiceStep) : Prop :=
  NotOvertaking impl step ∧ NotReusing impl step

instance : DecidableRel Timely := fun _ _ => inferInstanceAs (Decidable (_ = _ ∧ _ = _))

/-! ### What holds when `stop` is timely -/

/-- There is no thread, and the flag says so. -/
@[mk_iff] structure Absent (impl : ServiceThreads) : Prop where
  thread : impl.thread = .none
  mAPIStarted : impl.mAPIStarted = false
  terminates : impl.terminates = 0

/-- There is a thread that has raised the flag and has nothing to stop for. -/
@[mk_iff] structure Serving (impl : ServiceThreads) : Prop where
  thread : impl.thread.serving = true
  mAPIStarted : impl.mAPIStarted = true
  mKeepRunning : impl.mKeepRunning = true
  terminates : impl.terminates = 0

@[mk_iff] structure Starting (impl : ServiceThreads) : Prop where
  thread : impl.thread.starting = true
  mAPIStarted : impl.mAPIStarted = false
  mKeepRunning : impl.mKeepRunning = true
  terminates : impl.terminates = 0

/-- TERMINATE has been sent: the thread will not poll again without finding it. -/
@[mk_iff] structure Terminating (impl : ServiceThreads) : Prop where
  present : impl.thread ≠ .none
  started : impl.thread.starting = false
  poll : impl.thread = .poll → 0 < impl.terminates
  receive : ∀ zap, impl.thread = .receive zap → 0 < impl.terminates
  clearStarted : ∀ zap, impl.thread = .clearStarted zap → impl.mKeepRunning = false
  serving : impl.thread.serving = true → 0 < impl.terminates ∨ impl.mKeepRunning = false
  closed : impl.thread.opened = false → impl.terminates = 0

def Settled (impl : ServiceThreads) : Prop := Absent impl ∨ Starting impl ∨ Serving impl

/-- What holds of the thread, by where the owner stands. -/
def Orderly (impl : ServiceThreads) : Prop :=
  match impl.owner with
  | .idle => Settled impl
  | .stopping _ .readStarted => Settled impl
  | .stopping _ .send => Serving impl ∧ impl.mAPIPipe = .connected
  | .stopping _ .clearStarted => Terminating impl
  | .stopping _ .clearRunning =>
      impl.mAPIStarted = false ∧ (Absent impl ∨ Terminating impl)
  | .stopping _ .join => impl.mAPIStarted = false ∧ (Absent impl ∨ Terminating impl)
  | .setRunning => Absent impl
  | .spawn => Absent impl ∧ impl.mKeepRunning = true

section Thread

variable {impl : ServiceThreads} {inUse : Bool}

theorem Absent.runZAPThread (h : Absent impl) : impl.runZAPThread inUse = impl := by
  simp [ServiceThreads.runZAPThread, h.thread]

theorem Starting.runZAPThread (h : Starting impl) :
    Starting (impl.runZAPThread inUse) ∨ Serving (impl.runZAPThread inUse) := by
  have hthread := h.thread
  cases hpc : impl.thread <;> simp [hpc] at hthread
  · left
    constructor <;>
      simp [ServiceThreads.runZAPThread, hpc, h.mAPIStarted, h.mKeepRunning, h.terminates]
  · right
    constructor <;> simp [ServiceThreads.runZAPThread, hpc, h.mKeepRunning, h.terminates]

theorem Serving.runZAPThread (h : Serving impl) : Serving (impl.runZAPThread inUse) := by
  obtain ⟨hthread, hstarted, hrunning, hterminates⟩ := h
  cases hpc : impl.thread <;> simp [hpc] at hthread
  · -- the address may be in use
    by_cases hfree : impl.zapUsed = true ∧ inUse = true
    · constructor <;> simp [ServiceThreads.runZAPThread, *]
    · constructor <;> simp [ServiceThreads.runZAPThread, *]
  · constructor <;> simp [ServiceThreads.runZAPThread, *]
  · constructor <;> simp [ServiceThreads.runZAPThread, *]
  · -- a poll returns for a request only
    by_cases hrequests : 0 < impl.requests
    · constructor <;> simp [ServiceThreads.runZAPThread, *]
    · constructor <;> simp [ServiceThreads.runZAPThread, *]
  · constructor <;> simp [ServiceThreads.runZAPThread, *]
  · constructor <;> simp [ServiceThreads.runZAPThread, *]

theorem Settled.runZAPThread (h : Settled impl) : Settled (impl.runZAPThread inUse) := by
  rcases h with habsent | hstarting | hserving
  · rw [habsent.runZAPThread]
    exact Or.inl habsent
  · exact Or.inr hstarting.runZAPThread
  · exact Or.inr (Or.inr hserving.runZAPThread)

theorem Terminating.runZAPThread (h : Terminating impl) :
    Terminating (impl.runZAPThread inUse) := by
  obtain ⟨hpresent, hstarted, hpoll, hreceive, hclear, hserving, hclosed⟩ := h
  cases hpc : impl.thread with
  | none => exact absurd hpc hpresent
  | connect => simp [hpc] at hstarted
  | setStarted => simp [hpc] at hstarted
  | bindZap =>
    simp only [hpc, ZapPc.serving, forall_const] at hserving
    by_cases hfree : impl.zapUsed = true ∧ inUse = true
    · constructor <;> simp [ServiceThreads.runZAPThread, *]
    · constructor <;> simp [ServiceThreads.runZAPThread, *]
  | threw =>
    simp only [hpc, ZapPc.serving, forall_const] at hserving
    constructor <;> simp [ServiceThreads.runZAPThread, *]
  | ready =>
    simp only [hpc, ZapPc.serving, forall_const] at hserving
    constructor <;> simp [ServiceThreads.runZAPThread, *]
  | loopTop =>
    simp only [hpc, ZapPc.serving, forall_const] at hserving
    cases hrunning : impl.mKeepRunning with
    | true =>
      have hpending : 0 < impl.terminates := by simpa [hrunning] using hserving
      constructor <;> simp [ServiceThreads.runZAPThread, *]
    | false =>
      constructor <;> simp [ServiceThreads.runZAPThread, *]
  | poll =>
    have hpending := hpoll hpc
    constructor <;> simp [ServiceThreads.runZAPThread, *]
  | receive zap =>
    constructor <;> simp [ServiceThreads.runZAPThread, *]
  | clearRunning zap =>
    constructor <;> simp [ServiceThreads.runZAPThread, *]
  | clearStarted zap =>
    have hrunning := hclear zap hpc
    cases zap <;> constructor <;> simp [ServiceThreads.runZAPThread, ServiceThreads.afterPipe, *]
  | authenticate =>
    simp only [hpc, ZapPc.serving, forall_const] at hserving
    constructor <;> simp [ServiceThreads.runZAPThread, *]
  | closePipe =>
    constructor <;> simp [ServiceThreads.runZAPThread, *]
  | closeZap =>
    simp only [hpc, ZapPc.opened, forall_const] at hclosed
    constructor <;> simp [ServiceThreads.runZAPThread, *]
  | ended =>
    simp only [hpc, ZapPc.opened, forall_const] at hclosed
    constructor <;> simp [ServiceThreads.runZAPThread, *]

@[simp] theorem owner_runZAPThread (impl : ServiceThreads) (inUse : Bool) :
    (impl.runZAPThread inUse).owner = impl.owner := by
  unfold ServiceThreads.runZAPThread
  split <;> try rfl
  all_goals split_ifs <;> rfl

/-- A thread that serves leaves the pipe as it is. -/
theorem mAPIPipe_runZAPThread (hthread : impl.thread.serving = true) :
    (impl.runZAPThread inUse).mAPIPipe = impl.mAPIPipe := by
  unfold ServiceThreads.runZAPThread
  cases hpc : impl.thread <;> simp [hpc] at hthread <;> dsimp only <;> split_ifs <;> rfl

/-- Only a new thread raises the flag. -/
theorem mAPIStarted_runZAPThread (hthread : impl.thread.starting = false)
    (hflag : impl.mAPIStarted = false) : (impl.runZAPThread inUse).mAPIStarted = false := by
  unfold ServiceThreads.runZAPThread
  cases hpc : impl.thread with
  | setStarted => simp [hpc] at hthread
  | clearStarted zap => rfl
  | bindZap =>
    dsimp only
    split_ifs <;> exact hflag
  | poll =>
    dsimp only
    split_ifs <;> exact hflag
  | _ => exact hflag

theorem orderly_runZAPThread (h : Orderly impl) : Orderly (impl.runZAPThread inUse) := by
  -- after the flag was found down, or put down, it stays down
  have hstopped : impl.mAPIStarted = false ∧ (Absent impl ∨ Terminating impl) →
      (impl.runZAPThread inUse).mAPIStarted = false ∧
        (Absent (impl.runZAPThread inUse) ∨ Terminating (impl.runZAPThread inUse)) := by
    rintro ⟨hflag, habsent | hterminating⟩
    · rw [habsent.runZAPThread]
      exact ⟨hflag, Or.inl habsent⟩
    · exact ⟨mAPIStarted_runZAPThread hterminating.started hflag,
        Or.inr hterminating.runZAPThread⟩
  unfold Orderly at h ⊢
  rw [owner_runZAPThread]
  cases howner : impl.owner with
  | idle =>
    rw [howner] at h
    exact Settled.runZAPThread h
  | setRunning =>
    rw [howner] at h
    rwa [Absent.runZAPThread h]
  | spawn =>
    rw [howner] at h
    rwa [Absent.runZAPThread h.1]
  | stopping call pc =>
    rw [howner] at h
    cases pc with
    | readStarted => exact Settled.runZAPThread h
    | send =>
      exact ⟨Serving.runZAPThread h.1, (mAPIPipe_runZAPThread (Serving.thread h.1)).trans h.2⟩
    | clearStarted => exact Terminating.runZAPThread h
    | clearRunning => exact hstopped h
    | join => exact hstopped h

end Thread

section Owner

variable {impl : ServiceThreads}

theorem Absent.withOwner (h : Absent impl) (owner : OwnerPc) :
    Absent { impl with owner := owner } := ⟨h.thread, h.mAPIStarted, h.terminates⟩

theorem Serving.send (h : Serving impl) (owner : OwnerPc) :
    Terminating { impl with terminates := impl.terminates + 1, owner := owner } := by
  have hthread := h.thread
  cases hpc : impl.thread <;> simp [hpc] at hthread <;> constructor <;> simp

/-- Lowering a flag does not bring the thread back to polling. -/
theorem Terminating.lower (h : Terminating impl) (started running : Bool)
    (hrunning : impl.mKeepRunning = false → running = false) (owner : OwnerPc) :
    Terminating
      { impl with mAPIStarted := started, mKeepRunning := running, owner := owner } := by
  refine ⟨h.present, h.started, h.poll, h.receive, ?_, ?_, h.closed⟩
  · intro zap hpc
    exact hrunning (h.clearStarted zap hpc)
  · intro hserving
    rcases h.serving hserving with hpending | hlowered
    · exact Or.inl hpending
    · exact Or.inr (hrunning hlowered)

/-- Looking at the flag in time, `stop` finds it up exactly when there is a thread. -/
theorem orderly_readStarted {call : ServiceCall} (h : Settled impl)
    (hthread : impl.thread.starting = false)
    (hpeer : impl.mAPIStarted = true → impl.mAPIPipe = .connected) :
    Orderly (impl.stop call .readStarted) := by
  rcases h with habsent | hnew | hserving
  · rw [ServiceThreads.stop, if_neg (by simp [habsent.mAPIStarted])]
    exact ⟨habsent.mAPIStarted, Or.inl (habsent.withOwner _)⟩
  · rw [hnew.thread] at hthread
    cases hthread
  · rw [ServiceThreads.stop, if_pos hserving.mAPIStarted]
    exact ⟨⟨hserving.thread, hserving.mAPIStarted, hserving.mKeepRunning, hserving.terminates⟩,
      hpeer hserving.mAPIStarted⟩

/-- A thread that has been joined leaves nothing behind. -/
theorem Absent.of_join (hflag : impl.mAPIStarted = false) (h : Absent impl ∨ Terminating impl)
    (hdone : impl.thread = .none ∨ impl.thread = .ended) (owner : OwnerPc) :
    Absent { impl with thread := .none, owner := owner } := by
  refine ⟨rfl, hflag, ?_⟩
  rcases h with habsent | hterminating
  · exact habsent.terminates
  · apply hterminating.closed
    rcases hdone with hnone | hended
    · simp [hnone]
    · simp [hended]

theorem orderly_stop {call : ServiceCall} {pc : StopPc} (howner : impl.owner = .stopping call pc)
    (h : Orderly impl) (htime : Timely impl .owner) : Orderly (impl.stop call pc) := by
  have horderly := h
  unfold Orderly at h
  rw [howner] at h
  cases pc with
  | readStarted =>
    apply orderly_readStarted h
    · simpa [NotOvertaking, overtakes, howner] using htime.1
    · simpa [NotReusing, reuses, howner] using htime.2
  | send =>
    rw [ServiceThreads.stop, if_pos h.2]
    exact Serving.send h.1 _
  | clearStarted => exact ⟨rfl, Or.inr (Terminating.lower h false impl.mKeepRunning id _)⟩
  | clearRunning =>
    refine ⟨h.1, ?_⟩
    rcases h.2 with habsent | hterminating
    · exact Or.inl ⟨habsent.thread, habsent.mAPIStarted, habsent.terminates⟩
    · exact Or.inr (hterminating.lower impl.mAPIStarted false (fun _ => rfl) _)
  | join =>
    simp only [ServiceThreads.stop]
    split_ifs with hdone
    · cases call with
      | start => exact Absent.of_join h.1 h.2 hdone .setRunning
      | stop => exact Or.inl (Absent.of_join h.1 h.2 hdone .idle)
    · exact horderly

theorem orderly_ownerStep (h : Orderly impl) (htime : Timely impl .owner) :
    Orderly impl.ownerStep := by
  have horderly := h
  unfold Orderly at h
  unfold ServiceThreads.ownerStep
  cases howner : impl.owner with
  | idle => exact horderly
  | stopping call pc => exact orderly_stop howner horderly htime
  | setRunning =>
    rw [howner] at h
    exact ⟨⟨h.thread, h.mAPIStarted, h.terminates⟩, rfl⟩
  | spawn =>
    rw [howner] at h
    exact Or.inr (Or.inl ⟨rfl, h.1.mAPIStarted, h.2, h.1.terminates⟩)

end Owner

/-! ### Every timely run -/

theorem orderly_beginCall {impl : ServiceThreads} (h : Orderly impl) (call : ServiceCall) :
    Orderly (impl.beginCall call) := by
  have horderly := h
  unfold ServiceThreads.beginCall
  cases howner : impl.owner with
  | idle =>
    unfold Orderly at h
    rw [howner] at h
    simpa only [Orderly, Settled, absent_iff, starting_iff, serving_iff] using h
  | _ => exact horderly

theorem orderly_request {impl : ServiceThreads} (h : Orderly impl) (requests : Nat) :
    Orderly { impl with requests := requests } := by
  simpa only [Orderly, Settled, absent_iff, starting_iff, serving_iff, terminating_iff] using h

theorem orderly_step {impl : ServiceThreads} (step : ServiceStep) (h : Orderly impl)
    (htime : Timely impl step) : Orderly (zapServiceThreads.step impl step).1 := by
  show Orderly (if impl.thread = .threw then impl else impl.act step)
  split_ifs
  · exact h
  · cases step with
    | call call => exact orderly_beginCall h call
    | owner => exact orderly_ownerStep h htime
    | thread inUse => exact orderly_runZAPThread h
    | request => exact orderly_request h _

theorem orderly_after {steps : List ServiceStep}
    (htime : zapServiceThreads.Always Timely {} steps) :
    Orderly (zapServiceThreads.after {} steps) := by
  refine zapServiceThreads.after_invariant_of_always (C := Timely) ?_ ?_ htime
  · intro impl step h hstep
    exact orderly_step step h hstep
  · exact Or.inl ⟨rfl, rfl, rfl⟩

theorem Orderly.not_hung {impl : ServiceThreads} (h : Orderly impl) : ¬ Hung impl := by
  rintro ⟨⟨call, howner⟩, hthread, hterminates, -⟩
  unfold Orderly at h
  rw [howner] at h
  rcases h.2 with habsent | hterminating
  · rw [habsent.thread] at hthread
    cases hthread
  · have hpending := hterminating.poll hthread
    omega

theorem Orderly.not_sendsToNobody {impl : ServiceThreads} (h : Orderly impl) :
    ¬ SendsToNobody impl := by
  rintro ⟨⟨call, howner⟩, hpipe⟩
  unfold Orderly at h
  rw [howner] at h
  exact hpipe h.2

/-- **When shutdown does not hang.**  Whatever calls of `start` and `stop` are made, and
    however the steps of the two threads interleave, if no `stop` overtakes a thread that
    has just been created, nor finds one that is not connected, then at no time does the
    owner wait for a thread that polls for ever, nor send TERMINATE to nobody. -/
theorem shutdown_does_not_hang (steps : List ServiceStep)
    (htime : zapServiceThreads.Always Timely {} steps) (past : List ServiceStep)
    (hpast : past <+: steps) :
    ¬ Hung (zapServiceThreads.after {} past) ∧
      ¬ SendsToNobody (zapServiceThreads.after {} past) := by
  have horderly := orderly_after (htime.of_prefix hpast)
  exact ⟨horderly.not_hung, horderly.not_sendsToNobody⟩

/-! ### Every untimely step can go wrong -/

section Untimely

variable {impl : ServiceThreads}

/-- A thread that nobody has told to stop answers the requests that wait and polls
    again. -/
theorem drains_requests (hthread : impl.thread = .poll) (hrunning : impl.mKeepRunning = true)
    (hterminates : impl.terminates = 0) :
    ∃ rest, zapServiceThreads.after impl rest = { impl with requests := 0 } := by
  obtain ⟨requests, hrequests⟩ : ∃ n, impl.requests = n := ⟨_, rfl⟩
  induction requests generalizing impl with
  | zero => exact ⟨[], by rw [← hrequests]; rfl⟩
  | succ n ih =>
    -- one round of the loop: poll, authenticate, look at the flag
    have hround : zapServiceThreads.after impl (List.replicate 3 (.thread false)) =
        { impl with requests := n } := by
      simp [zapServiceThreads, ServiceThreads.act, ServiceThreads.runZAPThread,
        List.replicate_succ, *]
    obtain ⟨rest, hrest⟩ := @ih { impl with requests := n } hthread hrunning hterminates rfl
    refine ⟨List.replicate 3 (.thread false) ++ rest, ?_⟩
    rw [zapServiceThreads.after_append, hround, hrest]

/-- A new thread that nobody has told to stop gets to its poll. -/
theorem Starting.reaches_poll (h : Starting impl) :
    ∃ rest pipe, zapServiceThreads.after impl rest =
      { impl with mAPIStarted := true, mAPIPipe := pipe, zapUsed := true, thread := .poll } := by
  have hthread := h.thread
  have hrunning := h.mKeepRunning
  cases hpc : impl.thread <;> simp [hpc] at hthread
  · refine ⟨List.replicate 5 (.thread false), impl.mAPIPipe.connect, ?_⟩
    simp [zapServiceThreads, ServiceThreads.act, ServiceThreads.runZAPThread,
      List.replicate_succ, *]
  · refine ⟨List.replicate 4 (.thread false), impl.mAPIPipe, ?_⟩
    simp [zapServiceThreads, ServiceThreads.act, ServiceThreads.runZAPThread,
      List.replicate_succ, *]

/-- As soon as a `stop` has overtaken a new thread, the run can go on to a state in which
    both wait for ever. -/
theorem Orderly.overtaken_hangs (horderly : Orderly impl) {step : ServiceStep}
    (hover : ¬ NotOvertaking impl step) :
    ∃ rest, Hung (zapServiceThreads.after impl (step :: rest)) := by
  obtain ⟨call, howner, rfl, hthread⟩ : ∃ call, impl.owner = .stopping call .readStarted ∧
      step = .owner ∧ impl.thread.starting = true := by
    unfold NotOvertaking overtakes at hover
    split at hover
    · rename_i call howner
      exact ⟨call, howner, rfl, by simpa using hover⟩
    · exact absurd rfl hover
  have hnew : Starting impl := by
    unfold Orderly at horderly
    rw [howner] at horderly
    rcases horderly with habsent | hnew | hserving
    · simp [habsent.thread] at hthread
    · exact hnew
    · have hserving := hserving.thread
      cases hpc : impl.thread <;> simp [hpc] at hthread hserving
  have halive : impl.thread ≠ .threw := by
    intro hthrew
    simp [hthrew] at hthread
  have hstep : (zapServiceThreads.step impl .owner).1 =
      { impl with owner := .stopping call .clearRunning } := by
    simp [zapServiceThreads, ServiceThreads.act, ServiceThreads.ownerStep, ServiceThreads.stop,
      howner, hnew.mAPIStarted, halive]
  have hnext : Starting { impl with owner := .stopping call .clearRunning } :=
    ⟨hnew.thread, hnew.mAPIStarted, hnew.mKeepRunning, hnew.terminates⟩
  -- the thread gets to its poll before `stop` lowers `mKeepRunning`
  obtain ⟨toPoll, pipe, hpoll⟩ := hnext.reaches_poll
  obtain ⟨toQuiet, hquiet⟩ := @drains_requests
    { impl with
      mAPIStarted := true, mAPIPipe := pipe, zapUsed := true, thread := .poll
      owner := .stopping call .clearRunning }
    rfl hnew.mKeepRunning hnew.terminates
  refine ⟨toPoll ++ (toQuiet ++ [.owner]), ?_⟩
  rw [Machine.after_cons, hstep, zapServiceThreads.after_append, hpoll,
    zapServiceThreads.after_append, hquiet]
  exact ⟨⟨call, rfl⟩, rfl, hnew.terminates, rfl⟩

/-- When `stop` finds the flag of a thread that is not connected, it goes on to send. -/
theorem sendsToNobody_of_reusing (halive : impl.thread ≠ .threw) {step : ServiceStep}
    (hreuse : ¬ NotReusing impl step) : SendsToNobody (zapServiceThreads.step impl step).1 := by
  obtain ⟨call, howner, rfl, hstarted, hpipe⟩ : ∃ call,
      impl.owner = .stopping call .readStarted ∧ step = .owner ∧ impl.mAPIStarted = true ∧
        impl.mAPIPipe ≠ .connected := by
    unfold NotReusing reuses at hreuse
    split at hreuse
    · rename_i call howner
      simp only [Bool.not_eq_false, Bool.and_eq_true, decide_eq_true_eq] at hreuse
      exact ⟨call, howner, rfl, hreuse⟩
    · exact absurd rfl hreuse
  have hstep : (zapServiceThreads.step impl .owner).1 =
      { impl with owner := .stopping call .send } := by
    simp [zapServiceThreads, ServiceThreads.act, ServiceThreads.ownerStep, ServiceThreads.stop,
      howner, hstarted, halive]
  rw [hstep]
  exact ⟨⟨call, rfl⟩, hpipe⟩

/-- The condition is exact: after the first step that is not timely, the run can go on to a
    state in which both wait for ever, or in which TERMINATE is sent to nobody. -/
theorem untimely_goes_wrong (steps : List ServiceStep)
    (htime : zapServiceThreads.Always Timely {} steps) (step : ServiceStep)
    (halive : (zapServiceThreads.after {} steps).thread ≠ .threw)
    (hlate : ¬ Timely (zapServiceThreads.after {} steps) step) :
    ∃ rest, Hung (zapServiceThreads.after {} (steps ++ step :: rest)) ∨
      SendsToNobody (zapServiceThreads.after {} (steps ++ step :: rest)) := by
  have horderly := orderly_after htime
  simp only [zapServiceThreads.after_append]
  by_cases hover : NotOvertaking (zapServiceThreads.after {} steps) step
  · have hreuse : ¬ NotReusing (zapServiceThreads.after {} steps) step :=
      fun hnot => hlate ⟨hover, hnot⟩
    exact ⟨[], Or.inr (sendsToNobody_of_reusing halive hreuse)⟩
  · rcases horderly.overtaken_hangs hover with ⟨rest, hhung⟩
    exact ⟨rest, Or.inl hhung⟩

end Untimely

/-! ### Some runs -/

/-- The owner's steps of a `start` when no thread is there. -/
def startAlone : List ServiceStep :=
  [.call .start, .owner, .owner, .owner, .owner, .owner]

/-- The thread raises its flag, and then the service is stopped. -/
def patientStop : List ServiceStep :=
  [.thread false, .thread false, .call .stop, .owner, .thread false, .thread false, .owner,
    .owner, .owner, .thread false, .thread false, .owner, .thread false, .thread false, .owner]

/-- The service is stopped at once: `stop` looks at the flag before the thread raises it,
    and the thread passes its loop condition before `stop` lowers `mKeepRunning`. -/
def hastyStop : List ServiceStep :=
  [.call .stop, .owner] ++ List.replicate 5 (.thread false) ++ [.owner]

/-- The thread moves only after `stop` has lowered `mKeepRunning`; the service is stopped
    once more in the end. -/
def hastyStopTwice : List ServiceStep :=
  [.call .stop, .owner, .owner] ++ List.replicate 7 (.thread false) ++
    [.owner, .call .stop, .owner]

/-- The thread raises its flag and is told to stop, the service is started again, and the
    second thread raises its flag as well before it is told to stop. -/
def patientRestart : List ServiceStep :=
  patientStop ++ startAlone ++ [.thread false, .thread false, .call .stop, .owner]

theorem patient_shutdown_does_not_hang :
    zapServiceThreads.Always Timely {} (startAlone ++ patientStop) ∧
    (zapServiceThreads.after {} (startAlone ++ patientStop)).owner = .idle ∧
    ¬ Hung (zapServiceThreads.after {} (startAlone ++ patientStop.take 9)) :=
  ⟨by decide +kernel, by decide +kernel,
    (shutdown_does_not_hang (startAlone ++ patientStop) (by decide +kernel)
      (startAlone ++ patientStop.take 9) (by decide +kernel)).1⟩

/-- A `stop` right after a `start`: both wait for ever, or the flag stays up and the next
    `stop` sends to a peer that is gone.  And a `stop` after a second `start` sends to the
    first thread, which is gone. -/
theorem hasty_shutdown_hangs :
    Hung (zapServiceThreads.after {} (startAlone ++ hastyStop)) ∧
    (zapServiceThreads.after {} (startAlone ++ hastyStopTwice)).thread = .none ∧
    SendsToNobody (zapServiceThreads.after {} (startAlone ++ hastyStopTwice)) ∧
    SendsToNobody (zapServiceThreads.after {} (startAlone ++ patientRestart)) := by
  refine ⟨⟨⟨.stop, ?_⟩, ?_, ?_, ?_⟩, ?_, ⟨⟨.stop, ?_⟩, ?_⟩, ⟨.stop, ?_⟩, ?_⟩ <;> decide +kernel

end Us8
