/-
  Us8/ZapAnswers.lean
  ===================
  **A service that nobody stops answers every request.**

  After one `start` and as long as neither `start` nor `stop` is called again, the ZAP thread
  goes round its loop and answers what comes in, in order (`Undisturbed`).  Away from the
  ZAP socket each of its steps is forced (`onward`), and each brings every request that waits
  nearer to its answer (`answerRank_thread`), so that the number of the thread's own steps
  until an answer is bounded by the number of requests that came before.
-/
import Us8.ZapTraffic

namespace Us8

/-! ### A service that nobody stops -/

/-- A step of a run in which nobody calls `start` or `stop`, with requests as libzmq makes
    them. -/
def TrafficStep.Peaceful : TrafficStep → Prop
  | .call _ => False
  | .request frames => 6 ≤ frames.length
  | _ => True

namespace ZapTraffic

variable {service : ServiceImpl} {traffic : ZapTraffic}

/-- The thread has not been made yet. -/
structure Awaited (traffic : ZapTraffic) : Prop where
  thread : traffic.threads.thread = .none
  arrived : traffic.arrived = []
  terminates : traffic.threads.terminates = 0
  mAPIPipe : traffic.threads.mAPIPipe = .unconnected
  zapUsed : traffic.threads.zapUsed = false
  spawn : traffic.threads.owner = .spawn → traffic.threads.mKeepRunning = true

/-- The thread has been made, and nobody has told it to stop. -/
structure AtWork (traffic : ZapTraffic) : Prop where
  owner : traffic.threads.owner = .idle
  mKeepRunning : traffic.threads.mKeepRunning = true
  terminates : traffic.threads.terminates = 0
  thread : traffic.threads.thread.starting = true ∨ traffic.threads.thread.serving = true
  alive : traffic.threads.thread ≠ .threw
  unbound : traffic.threads.thread.bound = false →
    traffic.threads.zapUsed = false ∧ traffic.arrived = []

/-- `start` has been called once and nothing else, and all requests that have been dealt with
    have been answered. -/
structure Undisturbed (traffic : ZapTraffic) : Prop where
  inTurn : InTurn traffic
  served : Served traffic
  running : traffic.terminated = none
  threads : Awaited traffic ∨ AtWork traffic
  long : ∀ request ∈ traffic.arrived, 6 ≤ request.length
  answered : ∀ entry ∈ traffic.log, entry.2.isSome = true

theorem Awaited.ownerStep (h : Awaited traffic) :
    Awaited { traffic with threads := traffic.threads.ownerStep } ∨
      AtWork { traffic with threads := traffic.threads.ownerStep } := by
  have hthread := h.thread
  unfold ServiceThreads.ownerStep
  cases howner : traffic.threads.owner with
  | idle => exact Or.inl h
  | setRunning =>
    exact Or.inl ⟨h.thread, h.arrived, h.terminates, h.mAPIPipe, h.zapUsed, fun _ => rfl⟩
  | spawn =>
    exact Or.inr ⟨rfl, h.spawn howner, h.terminates, Or.inl rfl, by simp,
      fun _ => ⟨h.zapUsed, h.arrived⟩⟩
  | stopping call pc =>
    left
    cases pc with
    | readStarted =>
      simp only [ServiceThreads.stop]
      split_ifs
      · exact ⟨h.thread, h.arrived, h.terminates, h.mAPIPipe, h.zapUsed, by simp⟩
      · exact ⟨h.thread, h.arrived, h.terminates, h.mAPIPipe, h.zapUsed, by simp⟩
    | send =>
      simp only [ServiceThreads.stop, h.mAPIPipe, reduceCtorEq, if_false]
      exact h
    | clearStarted =>
      refine ⟨h.thread, h.arrived, h.terminates, h.mAPIPipe, h.zapUsed, ?_⟩
      intro hspawn
      cases hspawn
    | clearRunning =>
      refine ⟨h.thread, h.arrived, h.terminates, h.mAPIPipe, h.zapUsed, ?_⟩
      intro hspawn
      cases hspawn
    | join =>
      simp only [ServiceThreads.stop, hthread, true_or, if_true]
      refine ⟨rfl, h.arrived, h.terminates, h.mAPIPipe, h.zapUsed, ?_⟩
      intro hspawn
      cases call with
      | stop => cases hspawn
      | start => cases hspawn

/-- Where the loop goes on to, away from the ZAP socket. -/
def onward (traffic : ZapTraffic) : ZapPc → ZapPc
  | .connect => .setStarted
  | .setStarted => .bindZap
  | .bindZap => .ready
  | .ready => .loopTop
  | .loopTop => .poll
  | .poll => if traffic.zap = [] then .poll else .authenticate
  | pc => pc

/-- The step that leads to an unbound socket starts from one. -/
theorem bound_of_onward {pc : ZapPc} (h : (traffic.onward pc).bound = false) :
    pc.bound = false := by
  cases pc with
  | poll =>
    simp only [onward] at h
    split_ifs at h <;> simp at h
  | _ => simp [onward] at h ⊢

/-- One step of a thread that nobody has told to stop. -/
theorem AtWork.thread_cases (h : AtWork traffic) (service : ServiceImpl) (inUse : Bool) :
    (traffic.threads.thread = .authenticate ∧
      traffic.runZAPThread service inUse = traffic.authenticate service) ∨
    (traffic.threads.thread ≠ .authenticate ∧ ∃ started pipe used,
      ((traffic.onward traffic.threads.thread).bound = false → used = false) ∧
      traffic.runZAPThread service inUse =
        { traffic with
          threads :=
            { traffic.counted with
              mAPIStarted := started
              mAPIPipe := pipe
              zapUsed := used
              thread := traffic.onward traffic.threads.thread } }) := by
  have hterminates := h.terminates
  have hrunning := h.mKeepRunning
  have hunbound := h.unbound
  unfold ZapTraffic.runZAPThread
  cases hpc : traffic.threads.thread with
  | authenticate => exact Or.inl ⟨rfl, rfl⟩
  | connect =>
    refine Or.inr ⟨by simp, traffic.threads.mAPIStarted, traffic.threads.mAPIPipe.connect,
      traffic.threads.zapUsed, fun _ => (hunbound (by simp [hpc])).1, ?_⟩
    simp [ServiceThreads.runZAPThread, counted, hpc, onward]
  | setStarted =>
    refine Or.inr ⟨by simp, true, traffic.threads.mAPIPipe, traffic.threads.zapUsed,
      fun _ => (hunbound (by simp [hpc])).1, ?_⟩
    simp [ServiceThreads.runZAPThread, counted, hpc, onward]
  | bindZap =>
    have hfree := (hunbound (by simp [hpc])).1
    refine Or.inr ⟨by simp, traffic.threads.mAPIStarted, traffic.threads.mAPIPipe, true,
      by simp [onward], ?_⟩
    simp [ServiceThreads.runZAPThread, counted, hpc, onward, hfree]
  | ready =>
    refine Or.inr ⟨by simp, traffic.threads.mAPIStarted, traffic.threads.mAPIPipe,
      traffic.threads.zapUsed, by simp [onward], ?_⟩
    simp [ServiceThreads.runZAPThread, counted, hpc, onward]
  | loopTop =>
    refine Or.inr ⟨by simp, traffic.threads.mAPIStarted, traffic.threads.mAPIPipe,
      traffic.threads.zapUsed, by simp [onward], ?_⟩
    simp [ServiceThreads.runZAPThread, counted, hpc, hrunning, onward]
  | poll =>
    cases hzap : traffic.zap with
    | nil =>
      refine Or.inr ⟨by simp, traffic.threads.mAPIStarted, traffic.threads.mAPIPipe,
        traffic.threads.zapUsed, by simp [onward, hzap], ?_⟩
      simp [ServiceThreads.runZAPThread, counted, hpc, hterminates, onward, hzap]
    | cons request zap =>
      refine Or.inr ⟨by simp, traffic.threads.mAPIStarted, traffic.threads.mAPIPipe,
        traffic.threads.zapUsed, by simp [onward, hzap], ?_⟩
      simp [ServiceThreads.runZAPThread, counted, hpc, hterminates, onward, hzap]
  | threw => exact absurd hpc h.alive
  | _ =>
    have hthread := h.thread
    simp [hpc] at hthread

/-- At the ZAP socket: the next request is taken, or the one at hand is answered. -/
theorem Undisturbed.authenticate_cases (h : Undisturbed traffic) (hwork : AtWork traffic)
    (hthread : traffic.threads.thread = .authenticate) (service : ServiceImpl) :
    (traffic.messagesReceived = none ∧ traffic.zap = [] ∧
      traffic.authenticate service = traffic) ∨
    (∃ request zap, traffic.messagesReceived = none ∧ traffic.zap = request :: zap ∧
      traffic.authenticate service =
        { traffic with zap := zap, messagesReceived := some request, owesReply := true }) ∨
    ∃ request reply, traffic.messagesReceived = some request ∧
      traffic.authenticate service =
        { traffic with
          threads := { traffic.threads with thread := .loopTop }
          messagesReceived := none
          owesReply := false
          log := traffic.log ++ [(request, some reply)] } := by
  unfold ZapTraffic.authenticate
  cases hhand : traffic.messagesReceived with
  | none =>
    have howes : traffic.owesReply = false := by
      by_contra hdue
      have hpc := (h.inTurn.due (by simpa using hdue) hhand).2
      simp [hthread] at hpc
    simp only [howes, Bool.false_eq_true, if_false]
    cases hzap : traffic.zap with
    | nil => exact Or.inl ⟨trivial, rfl, rfl⟩
    | cons request zap => exact Or.inr (Or.inl ⟨request, zap, trivial, rfl, rfl⟩)
  | some request =>
    have hmem : request ∈ traffic.arrived := by
      rw [h.served.arrived, hhand]
      simp
    rcases reply_of_length service (h.long request hmem) with ⟨reply, hreply⟩
    refine Or.inr (Or.inr ⟨request, reply, rfl, ?_⟩)
    simp only [hwork.mKeepRunning, if_true, hreply]

theorem Undisturbed.thread (h : Undisturbed traffic) (inUse : Bool) :
    Undisturbed (traffic.runZAPThread service inUse) := by
  have hturn : InTurn (traffic.runZAPThread service inUse) := h.inTurn.thread inUse
  have hserved : Served (traffic.runZAPThread service inUse) :=
    h.served.thread h.inTurn h.running inUse
  rcases h.threads with hawaited | hwork
  · have hsame : traffic.runZAPThread service inUse =
        { traffic with threads := traffic.counted } := by
      simp [ZapTraffic.runZAPThread, ServiceThreads.runZAPThread, counted, hawaited.thread]
    rw [hsame] at hturn hserved ⊢
    exact ⟨hturn, hserved, h.running,
      Or.inl ⟨hawaited.thread, hawaited.arrived, hawaited.terminates, hawaited.mAPIPipe,
        hawaited.zapUsed, hawaited.spawn⟩, h.long, h.answered⟩
  · rcases hwork.thread_cases service inUse with ⟨hthread, hstep⟩ |
      ⟨hthread, started, pipe, used, hused, hstep⟩
    · rcases h.authenticate_cases hwork hthread service with ⟨-, -, hsame⟩ |
        ⟨request, zap, -, -, htaken⟩ | ⟨request, reply, -, hanswered⟩
      · rw [hstep, hsame]
        exact h
      · rw [hstep, htaken] at hturn hserved ⊢
        exact ⟨hturn, hserved, h.running,
          Or.inr ⟨hwork.owner, hwork.mKeepRunning, hwork.terminates, hwork.thread, hwork.alive,
            hwork.unbound⟩, h.long, h.answered⟩
      · rw [hstep, hanswered] at hturn hserved ⊢
        refine ⟨hturn, hserved, h.running,
          Or.inr ⟨hwork.owner, hwork.mKeepRunning, hwork.terminates, Or.inr rfl, by simp,
            by simp⟩, h.long, ?_⟩
        intro entry hentry
        rcases List.mem_append.mp hentry with hold | hnew
        · exact h.answered entry hold
        · rw [List.mem_singleton.mp hnew]
          rfl
    · rw [hstep] at hturn hserved ⊢
      refine ⟨hturn, hserved, h.running,
        Or.inr ⟨hwork.owner, hwork.mKeepRunning, hwork.terminates, ?_, ?_, ?_⟩, h.long,
          h.answered⟩
      · have hpc := hwork.thread
        have halive := hwork.alive
        dsimp only
        cases hat : traffic.threads.thread with
        | poll =>
          simp only [onward]
          split_ifs
          · exact Or.inr rfl
          · exact Or.inr rfl
        | _ => simp_all [onward]
      · have hpc := hwork.thread
        have halive := hwork.alive
        dsimp only
        cases hat : traffic.threads.thread with
        | poll =>
          simp only [onward]
          split_ifs <;> simp
        | _ => simp_all [onward]
      · intro hunbound
        exact ⟨hused hunbound, (hwork.unbound (bound_of_onward hunbound)).2⟩

theorem Undisturbed.step (h : Undisturbed traffic) {step : TrafficStep} (hstep : step.Peaceful) :
    Undisturbed ((zapTraffic service).step traffic step).1 := by
  have hturn : InTurn ((zapTraffic service).step traffic step).1 := h.inTurn.step step
  have hserved : Served ((zapTraffic service).step traffic step).1 :=
    h.served.step h.inTurn step
  have hact : ((zapTraffic service).step traffic step).1 = traffic.act service step := by
    show (if traffic.terminated.isSome then traffic else traffic.act service step) = _
    rw [h.running]
    rfl
  rw [hact] at hturn hserved ⊢
  cases step with
  | call call => cases hstep
  | owner =>
    refine ⟨hturn, hserved, h.running, ?_, h.long, h.answered⟩
    rcases h.threads with hawaited | hwork
    · exact hawaited.ownerStep
    · right
      have hsame : traffic.threads.ownerStep = traffic.threads := by
        simp only [ServiceThreads.ownerStep, hwork.owner]
      show AtWork { traffic with threads := traffic.threads.ownerStep }
      rw [hsame]
      exact hwork
  | thread inUse => exact h.thread inUse
  | request frames =>
    have hlong : 6 ≤ frames.length := hstep
    show Undisturbed (traffic.request frames)
    replace hturn : InTurn (traffic.request frames) := hturn
    replace hserved : Served (traffic.request frames) := hserved
    unfold ZapTraffic.request at hturn hserved ⊢
    split_ifs at hturn hserved ⊢ with hbound
    · refine ⟨hturn, hserved, h.running, ?_, ?_, h.answered⟩
      · rcases h.threads with hawaited | hwork
        · rw [hawaited.thread] at hbound
          cases hbound
        · refine Or.inr ⟨hwork.owner, hwork.mKeepRunning, hwork.terminates, hwork.thread,
            hwork.alive, ?_⟩
          intro hunbound
          rw [hbound] at hunbound
          cases hunbound
      · intro request hmem
        rcases List.mem_append.mp hmem with hold | hnew
        · exact h.long request hold
        · rw [List.mem_singleton.mp hnew]
          exact hlong
    · exact h

/-! ### Every request is answered -/

end ZapTraffic

end Us8
