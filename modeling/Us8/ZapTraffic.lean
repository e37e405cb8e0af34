/-
  Us8/ZapTraffic.lean
  ===================
  **What becomes of the requests for authentication** (`runZAPThread` in
  `messaging/zeromq/authentication/service.cpp`, with the messages it takes in and
  sends out).

  The threads of the service are those of `ZapServiceThreads`; here each request is a list of
  frames, and what the service answers is `ServiceImpl.reply`.  The ZAP socket is a reply
  socket: after it has received it must send before it may receive again.  A request
  that is received when `mKeepRunning` has been lowered gets no answer, and the socket is out
  of turn from then on.  It is never used again all the same, because the thread cannot get
  past the next look at the flag (`InTurn`).

  Of libzmq it is assumed that requests only come in while the socket is bound, that they
  are lost with the socket, and that a reply socket throws when it is used out of turn.  An
  exception that leaves the thread ends the process.  It does so when a request is shorter
  than the protocol has it, and when the service is started again before the address of the
  earlier ZAP socket is free (`WithinStarts`).
-/
import Us8.ZapService
import Us8.ZapServiceThreads

namespace Us8

/-! ### The ZAP socket and its thread -/

/-- `zap` are the requests that wait at the socket, `owesReply` is the state of the socket,
    and `messagesReceived` what the thread has at hand.  `arrived`, `log` and `outOfTurn` are
    records that no step reads: what has come in, what has left the socket with the reply if
    there was one, and whether the socket has been used out of turn. -/
structure ZapTraffic where
  threads : ServiceThreads := {}
  zap : List (List Frame) := []
  messagesReceived : Option (List Frame) := none
  owesReply : Bool := false
  terminated : Option StdException := none
  arrived : List (List Frame) := []
  log : List (List Frame × Option (List Frame)) := []
  outOfTurn : Bool := false

inductive TrafficStep where
  | call (call : ServiceCall)
  | owner
  | thread (inUse : Bool)
  | request (frames : List Frame)

/-- The ZAP socket is bound. -/
@[simp] def ZapPc.bound : ZapPc → Bool
  | .none => false
  | .connect => false
  | .setStarted => false
  | .bindZap => false
  | .ended => false
  | .threw => false
  | _ => true

namespace ZapTraffic

/-- The threads as `ZapServiceThreads` sees them. -/
def counted (traffic : ZapTraffic) : ServiceThreads :=
  { traffic.threads with requests := traffic.zap.length }

/-- The part of the loop that deals with the ZAP socket. -/
def authenticate (service : ServiceImpl) (traffic : ZapTraffic) : ZapTraffic :=
  match traffic.messagesReceived with
  | none =>
      if traffic.owesReply then
        { traffic with
          outOfTurn := true
          terminated :=
            some (.runtimeError "Operation cannot be accomplished in current state") }
      else
        match traffic.zap with
        | [] => traffic
        | request :: zap =>
            { traffic with zap := zap, messagesReceived := some request, owesReply := true }
  | some request =>
      let next :=
        { traffic with
          threads := { traffic.threads with thread := .loopTop }
          messagesReceived := none }
      if traffic.threads.mKeepRunning then
        match service.reply request with
        | .ok reply =>
            { next with owesReply := false, log := traffic.log ++ [(request, some reply)] }
        | .error e => { traffic with terminated := some e }
      else { next with log := traffic.log ++ [(request, none)] }

def runZAPThread (service : ServiceImpl) (traffic : ZapTraffic) (inUse : Bool) : ZapTraffic :=
  match traffic.threads.thread with
  | .bindZap =>
      let threads := traffic.counted.runZAPThread inUse
      { traffic with
        threads := threads
        terminated :=
          if threads.thread = .threw then some (.runtimeError "Address already in use")
          else traffic.terminated }
  | .authenticate => traffic.authenticate service
  | .closeZap =>
      { traffic with
        threads := traffic.counted.runZAPThread inUse
        zap := []
        owesReply := false
        log := traffic.log ++ traffic.zap.map fun request => (request, none) }
  | _ => { traffic with threads := traffic.counted.runZAPThread inUse }

/-- A request that comes in. -/
def request (traffic : ZapTraffic) (frames : List Frame) : ZapTraffic :=
  if traffic.threads.thread.bound then
    { traffic with zap := traffic.zap ++ [frames], arrived := traffic.arrived ++ [frames] }
  else traffic

def act (service : ServiceImpl) (traffic : ZapTraffic) : TrafficStep → ZapTraffic
  | .call call => { traffic with threads := traffic.threads.beginCall call }
  | .owner => { traffic with threads := traffic.threads.ownerStep }
  | .thread inUse => traffic.runZAPThread service inUse
  | .request frames => traffic.request frames

end ZapTraffic

/-- Nothing moves any more when the process has been terminated. -/
def zapTraffic (service : ServiceImpl) : Machine ZapTraffic TrafficStep Unit where
  step traffic step :=
    (if traffic.terminated.isSome then traffic else traffic.act service step, ())

/-! ### The form of a reply -/

/-- What the reply has to be: the version and the number are those of the request, and the
    status is one that the protocol knows. -/
def AnswersRequest (request reply : List Frame) : Prop :=
  ∃ version sequenceNumber statusText identifier, ∃ statusCode ∈ [200, 400, 401, 403, 500],
    request[0]? = some version ∧ request[1]? = some sequenceNumber ∧
      reply = [version, sequenceNumber, bytes (toString statusCode), statusText, identifier, []]

theorem zapStatus_mem (outcome : Except AuthException Unit) :
    (zapStatus outcome).1 ∈ [200, 400, 401, 403, 500] := by
  rcases outcome with (_ | _ | _ | _ | _) | ⟨⟩
  all_goals simp [zapStatus]

theorem answersRequest_reply {service : ServiceImpl} {request reply : List Frame}
    (h : service.reply request = .ok reply) : AnswersRequest request reply := by
  unfold ServiceImpl.reply at h
  simp only [bind_eq_ok_iff, frameAt_eq_ok_iff] at h
  rcases h with ⟨domain, -, ipAddress, -, identity, -, mechanism, -, version, hversion,
    sequenceNumber, hsequence, hreply⟩
  rw [pure_eq_ok, Except.ok.injEq] at hreply
  refine ⟨version, sequenceNumber, _, _, _, ?_, hversion, hsequence, hreply.symm⟩
  cases service.mAuthenticator with
  | none => simp
  | some authenticator => exact zapStatus_mem _

/-- A request with the six frames that every request has is answered. -/
theorem reply_of_length (service : ServiceImpl) {request : List Frame} (h : 6 ≤ request.length) :
    ∃ reply, service.reply request = .ok reply := by
  have hframe : ∀ index < 6, ∃ frame, frameAt request index = .ok frame := by
    intro index hindex
    exact ⟨_, frameAt_eq_ok_iff.mpr (List.getElem?_eq_getElem (by omega))⟩
  rcases hframe 0 (by omega) with ⟨version, hversion⟩
  rcases hframe 1 (by omega) with ⟨sequenceNumber, hsequence⟩
  rcases hframe 2 (by omega) with ⟨domain, hdomain⟩
  rcases hframe 3 (by omega) with ⟨ipAddress, haddress⟩
  rcases hframe 4 (by omega) with ⟨identity, hidentity⟩
  rcases hframe 5 (by omega) with ⟨mechanism, hmechanism⟩
  simp only [ServiceImpl.reply, hversion, hsequence, hdomain, haddress, hidentity, hmechanism,
    ok_bind, pure_eq_ok]
  exact ⟨_, rfl⟩

namespace ZapTraffic

variable {service : ServiceImpl} {traffic : ZapTraffic}

/-! ### Every run -/

/-- The owner makes a new thread only when there is none, the thread has a request at hand
    only where it answers it, and a reply stays due only on the way out of the loop. -/
structure InTurn (traffic : ZapTraffic) : Prop where
  joined : traffic.threads.owner = .setRunning ∨ traffic.threads.owner = .spawn →
    traffic.threads.thread = .none
  atHand : ∀ request, traffic.messagesReceived = some request →
    traffic.threads.thread = .authenticate ∧ traffic.owesReply = true
  due : traffic.owesReply = true → traffic.messagesReceived = none →
    traffic.threads.mKeepRunning = false ∧
      (traffic.threads.thread = .loopTop ∨ traffic.threads.thread = .closePipe ∨
        traffic.threads.thread = .closeZap)
  outOfTurn : traffic.outOfTurn = false

/-- Every request that has come in has been dealt with, is at hand or waits, in order; and
    the process has been terminated by a short request or when the ZAP socket was bound. -/
structure Served (traffic : ZapTraffic) : Prop where
  arrived : traffic.arrived =
    traffic.log.map Prod.fst ++ traffic.messagesReceived.toList ++ traffic.zap
  answers : ∀ request reply, (request, some reply) ∈ traffic.log → AnswersRequest request reply
  terminated : traffic.terminated ≠ none →
    (∃ request ∈ traffic.arrived, request.length < 6) ∨ traffic.threads.thread = .threw

theorem ownerStep_cases (impl : ServiceThreads) :
    (impl.ownerStep.thread = impl.thread ∧
      (impl.ownerStep.mKeepRunning = impl.mKeepRunning ∨ impl.ownerStep.mKeepRunning = false) ∧
      impl.ownerStep.owner ≠ .setRunning ∧ impl.ownerStep.owner ≠ .spawn) ∨
    ((impl.thread = .none ∨ impl.thread = .ended) ∧ impl.ownerStep.thread = .none) ∨
    (impl.owner = .setRunning ∧ impl.ownerStep.thread = impl.thread) ∨
    (impl.owner = .spawn ∧ impl.ownerStep.owner = .idle) := by
  unfold ServiceThreads.ownerStep
  cases howner : impl.owner with
  | idle => simp [howner]
  | setRunning => simp
  | spawn => simp
  | stopping call pc =>
    cases pc with
    | readStarted =>
      simp only [ServiceThreads.stop]
      split_ifs
      · simp
      · simp
    | send =>
      simp only [ServiceThreads.stop]
      split_ifs
      · simp
      · simp [howner]
    | clearStarted => simp [ServiceThreads.stop]
    | clearRunning => simp [ServiceThreads.stop]
    | join =>
      simp only [ServiceThreads.stop]
      split_ifs with hended
      · simp [hended]
      · simp [howner]

theorem InTurn.idle (h : InTurn traffic)
    (hthread : traffic.threads.thread = .none ∨ traffic.threads.thread = .ended) :
    traffic.messagesReceived = none ∧ traffic.owesReply = false := by
  have hnone : traffic.messagesReceived = none := by
    by_contra hsome
    rcases Option.ne_none_iff_exists'.mp hsome with ⟨request, hrequest⟩
    have hpc := (h.atHand request hrequest).1
    rcases hthread with hthread | hthread
    · rw [hpc] at hthread
      cases hthread
    · rw [hpc] at hthread
      cases hthread
  refine ⟨hnone, ?_⟩
  by_contra howes
  rcases h.due (by simpa using howes) hnone with ⟨-, hpc⟩
  rcases hthread with hthread | hthread
  all_goals simp [hthread] at hpc

/-- With nothing at hand and no reply due there is little to keep. -/
theorem inTurn_of_idle (hnone : traffic.messagesReceived = none)
    (howes : traffic.owesReply = false) (hout : traffic.outOfTurn = false)
    (hjoined : traffic.threads.owner = .setRunning ∨ traffic.threads.owner = .spawn →
      traffic.threads.thread = .none) : InTurn traffic := by
  refine ⟨hjoined, ?_, ?_, hout⟩
  · intro request hrequest
    rw [hnone] at hrequest
    cases hrequest
  · intro hdue
    rw [howes] at hdue
    cases hdue

theorem InTurn.ownerStep (h : InTurn traffic) :
    InTurn { traffic with threads := traffic.threads.ownerStep } := by
  rcases ownerStep_cases traffic.threads with ⟨hthread, hrunning, hsetRunning, hspawn⟩ |
    ⟨hended, hthread⟩ | ⟨howner, hthread⟩ | ⟨howner, hnext⟩
  · refine ⟨?_, ?_, ?_, h.outOfTurn⟩
    · rintro (howner | howner)
      · exact absurd howner hsetRunning
      · exact absurd howner hspawn
    · intro request hrequest
      rw [hthread]
      exact h.atHand request hrequest
    · intro howes hnone
      rcases h.due howes hnone with ⟨hlowered, hpc⟩
      rw [hthread]
      refine ⟨?_, hpc⟩
      rcases hrunning with hsame | hfalse
      · exact hsame.trans hlowered
      · exact hfalse
  · rcases h.idle hended with ⟨hnone, howes⟩
    exact inTurn_of_idle hnone howes h.outOfTurn fun _ => hthread
  · have habsent : traffic.threads.thread = .none := h.joined (Or.inl howner)
    rcases h.idle (Or.inl habsent) with ⟨hnone, howes⟩
    exact inTurn_of_idle hnone howes h.outOfTurn fun _ => hthread.trans habsent
  · have habsent : traffic.threads.thread = .none := h.joined (Or.inr howner)
    rcases h.idle (Or.inl habsent) with ⟨hnone, howes⟩
    refine inTurn_of_idle hnone howes h.outOfTurn ?_
    rintro (hother | hother)
    · rw [hnext] at hother
      cases hother
    · rw [hnext] at hother
      cases hother

/-- While there is a thread the owner does not make a new one. -/
theorem InTurn.present (h : InTurn traffic) (hthread : traffic.threads.thread ≠ .none)
    {P : Prop} : traffic.threads.owner = .setRunning ∨ traffic.threads.owner = .spawn → P :=
  fun howner => absurd (h.joined howner) hthread

theorem InTurn.authenticate (h : InTurn traffic)
    (hthread : traffic.threads.thread = .authenticate) :
    InTurn (traffic.authenticate service) := by
  have hpresent : traffic.threads.thread ≠ .none := by simp [hthread]
  unfold ZapTraffic.authenticate
  cases hhand : traffic.messagesReceived with
  | none =>
    have howes : traffic.owesReply = false := by
      by_contra hdue
      have hpc := (h.due (by simpa using hdue) hhand).2
      simp [hthread] at hpc
    simp only [howes, Bool.false_eq_true, if_false]
    cases traffic.zap with
    | nil => exact h
    | cons request zap =>
      refine ⟨h.joined, ?_, ?_, h.outOfTurn⟩
      · intro other hother
        exact ⟨hthread, rfl⟩
      · intro _ hnone
        cases hnone
  | some request =>
    dsimp only
    split_ifs with hrunning
    · cases service.reply request with
      | ok reply => exact inTurn_of_idle rfl rfl h.outOfTurn (h.present hpresent)
      | error e =>
        refine ⟨h.joined, ?_, ?_, h.outOfTurn⟩
        · intro other _
          exact h.atHand request hhand
        · intro _ hnone
          cases hnone
    · refine ⟨h.present hpresent, ?_, ?_, h.outOfTurn⟩
      · intro other hother
        cases hother
      · intro _ _
        exact ⟨by simpa using hrunning, Or.inl rfl⟩

theorem InTurn.thread (h : InTurn traffic) (inUse : Bool) :
    InTurn (traffic.runZAPThread service inUse) := by
  have hbusy (hpc : traffic.threads.thread ≠ .authenticate) : traffic.messagesReceived = none := by
    by_contra hsome
    rcases Option.ne_none_iff_exists'.mp hsome with ⟨request, hrequest⟩
    exact hpc (h.atHand request hrequest).1
  have hpaid (hpc : traffic.threads.thread ≠ .authenticate)
      (hleaving : ¬ (traffic.threads.thread = .loopTop ∨ traffic.threads.thread = .closePipe ∨
        traffic.threads.thread = .closeZap)) : traffic.owesReply = false := by
    by_contra hdue
    exact hleaving (h.due (by simpa using hdue) (hbusy hpc)).2
  unfold ZapTraffic.runZAPThread
  cases hthread : traffic.threads.thread with
  | authenticate => exact h.authenticate hthread
  | none =>
    have hsame : traffic.counted.runZAPThread inUse = traffic.counted := by
      simp [ServiceThreads.runZAPThread, counted, hthread]
    rw [hsame]
    exact ⟨h.joined, h.atHand, h.due, h.outOfTurn⟩
  | closeZap =>
    refine inTurn_of_idle (hbusy (by simp [hthread])) rfl h.outOfTurn ?_
    rw [owner_runZAPThread]
    exact h.present (by simp [hthread])
  | loopTop =>
    refine ⟨?_, ?_, ?_, h.outOfTurn⟩
    · rw [owner_runZAPThread]
      exact h.present (by simp [hthread])
    · intro request hrequest
      dsimp only at hrequest
      rw [hbusy (by simp [hthread])] at hrequest
      cases hrequest
    · intro howes hnone
      have hlowered := (h.due howes hnone).1
      simp [ServiceThreads.runZAPThread, counted, hthread, hlowered]
  | closePipe =>
    refine ⟨?_, ?_, ?_, h.outOfTurn⟩
    · rw [owner_runZAPThread]
      exact h.present (by simp [hthread])
    · intro request hrequest
      dsimp only at hrequest
      rw [hbusy (by simp [hthread])] at hrequest
      cases hrequest
    · intro howes hnone
      have hlowered := (h.due howes hnone).1
      simp [ServiceThreads.runZAPThread, counted, hthread, hlowered]
  | _ =>
    refine inTurn_of_idle (hbusy (by simp [hthread])) (hpaid (by simp [hthread])
      (by simp [hthread])) h.outOfTurn ?_
    rw [owner_runZAPThread]
    exact h.present (by simp [hthread])

theorem InTurn.request (h : InTurn traffic) (frames : List Frame) :
    InTurn (traffic.request frames) := by
  unfold ZapTraffic.request
  split_ifs
  · exact ⟨h.joined, h.atHand, h.due, h.outOfTurn⟩
  · exact h

theorem InTurn.beginCall (h : InTurn traffic) (call : ServiceCall) :
    InTurn { traffic with threads := traffic.threads.beginCall call } := by
  unfold ServiceThreads.beginCall
  cases howner : traffic.threads.owner with
  | idle =>
    refine ⟨?_, h.atHand, h.due, h.outOfTurn⟩
    rintro (hother | hother)
    · cases hother
    · cases hother
  | _ => exact h

theorem InTurn.step (h : InTurn traffic) (step : TrafficStep) :
    InTurn ((zapTraffic service).step traffic step).1 := by
  show InTurn (if traffic.terminated.isSome then traffic else traffic.act service step)
  split_ifs
  · exact h
  · cases step with
    | call call => exact h.beginCall call
    | owner => exact h.ownerStep
    | thread inUse => exact h.thread inUse
    | request frames => exact h.request frames

/-! ### Where the requests go -/

theorem Served.authenticate (h : Served traffic) (hrunning : traffic.terminated = none)
    (howes : traffic.messagesReceived = none → traffic.owesReply = false) :
    Served (traffic.authenticate service) := by
  have hnever : traffic.terminated ≠ none → False := fun hended => hended hrunning
  unfold ZapTraffic.authenticate
  cases hhand : traffic.messagesReceived with
  | none =>
    simp only [howes hhand, Bool.false_eq_true, if_false]
    cases hzap : traffic.zap with
    | nil => exact h
    | cons request zap =>
      refine ⟨?_, h.answers, h.terminated⟩
      rw [h.arrived, hhand, hzap]
      simp
  | some request =>
    have harrived := h.arrived
    rw [hhand] at harrived
    dsimp only
    split_ifs with hup
    · cases hreply : service.reply request with
      | ok reply =>
        refine ⟨?_, ?_, fun hended => (hnever hended).elim⟩
        · simp [harrived]
        · intro other answer hmem
          rcases List.mem_append.mp hmem with hold | hnew
          · exact h.answers other answer hold
          · simp only [List.mem_singleton, Prod.mk.injEq, Option.some.injEq] at hnew
            rcases hnew with ⟨rfl, rfl⟩
            exact answersRequest_reply hreply
      | error e =>
        refine ⟨harrived, h.answers, ?_⟩
        intro _
        refine Or.inl ⟨request, ?_, ?_⟩
        · rw [harrived]
          simp
        · by_contra hlong
          rcases reply_of_length service (Nat.le_of_not_lt hlong) with ⟨reply, hok⟩
          rw [hreply] at hok
          cases hok
    · refine ⟨?_, ?_, fun hended => (hnever hended).elim⟩
      · simp [harrived]
      · intro other answer hmem
        rcases List.mem_append.mp hmem with hold | hnew
        · exact h.answers other answer hold
        · simp at hnew

theorem Served.thread (hturn : InTurn traffic) (h : Served traffic)
    (hrunning : traffic.terminated = none) (inUse : Bool) :
    Served (traffic.runZAPThread service inUse) := by
  have hnever : traffic.terminated ≠ none → False := fun hended => hended hrunning
  unfold ZapTraffic.runZAPThread
  cases hthread : traffic.threads.thread with
  | bindZap =>
    refine ⟨h.arrived, h.answers, ?_⟩
    dsimp only
    split_ifs with hthrew
    · exact fun _ => Or.inr hthrew
    · exact fun hended => (hnever hended).elim
  | authenticate =>
    apply h.authenticate hrunning
    intro hnone
    by_contra hdue
    have hpc := (hturn.due (by simpa using hdue) hnone).2
    simp [hthread] at hpc
  | closeZap =>
    have hnone : traffic.messagesReceived = none := by
      by_contra hsome
      rcases Option.ne_none_iff_exists'.mp hsome with ⟨request, hrequest⟩
      have hpc := (hturn.atHand request hrequest).1
      rw [hthread] at hpc
      cases hpc
    refine ⟨?_, ?_, fun hended => (hnever hended).elim⟩
    · rw [h.arrived, hnone]
      simp [Function.comp_def]
    · intro request reply hmem
      rcases List.mem_append.mp hmem with hold | hlost
      · exact h.answers request reply hold
      · simp at hlost
  | _ => exact ⟨h.arrived, h.answers, fun hended => (hnever hended).elim⟩

theorem Served.request (h : Served traffic) (frames : List Frame) :
    Served (traffic.request frames) := by
  unfold ZapTraffic.request
  split_ifs
  · refine ⟨?_, h.answers, ?_⟩
    · simp [h.arrived]
    · intro hterminated
      rcases h.terminated hterminated with ⟨request, hmem, hshort⟩ | hthrew
      · exact Or.inl ⟨request, List.mem_append_left _ hmem, hshort⟩
      · exact Or.inr hthrew
  · exact h

theorem Served.step (hturn : InTurn traffic) (h : Served traffic) (step : TrafficStep) :
    Served ((zapTraffic service).step traffic step).1 := by
  show Served (if traffic.terminated.isSome then traffic else traffic.act service step)
  split_ifs with hended
  · exact h
  · have hrunning : traffic.terminated = none := by simpa using hended
    cases step with
    | call call => exact ⟨h.arrived, h.answers, fun hended => absurd hrunning hended⟩
    | owner => exact ⟨h.arrived, h.answers, fun hended => absurd hrunning hended⟩
    | thread inUse => exact h.thread hturn hrunning inUse
    | request frames => exact h.request frames

/-! ### How often a ZAP socket is bound -/

/-- The owner is on its way to making a thread. -/
def willSpawn : OwnerPc → Bool
  | .stopping .start _ => true
  | .setRunning => true
  | .spawn => true
  | _ => false

/-- The thread has not bound its ZAP socket, or has failed to. -/
def binding : ZapPc → Bool
  | .connect => true
  | .setStarted => true
  | .bindZap => true
  | .threw => true
  | _ => false

/-- The calls of `start` that have not come to binding a socket yet, and one more when some
    have. -/
def pendingStarts (impl : ServiceThreads) : Nat :=
  impl.zapUsed.toNat + (binding impl.thread).toNat + (willSpawn impl.owner).toNat

/-- They are no more than the calls of `start`. -/
structure WithinStarts (starts : Nat) (impl : ServiceThreads) : Prop where
  pending : pendingStarts impl ≤ starts
  threw : impl.thread = .threw → impl.zapUsed = true

theorem pendingStarts_ownerStep (impl : ServiceThreads) :
    pendingStarts impl.ownerStep ≤ pendingStarts impl := by
  unfold ServiceThreads.ownerStep
  cases howner : impl.owner with
  | idle => simp
  | setRunning => simp [pendingStarts, howner, willSpawn]
  | spawn =>
    simp only [pendingStarts, howner, willSpawn, binding, Bool.toNat_true, Bool.toNat_false]
    omega
  | stopping call pc =>
    cases pc with
    | join =>
      simp only [ServiceThreads.stop]
      split_ifs
      · cases call <;> simp [pendingStarts, howner, willSpawn, binding]
      · simp
    | readStarted =>
      simp only [ServiceThreads.stop]
      split_ifs <;> cases call <;> simp [pendingStarts, howner, willSpawn]
    | send =>
      simp only [ServiceThreads.stop]
      split_ifs <;> cases call <;> simp [pendingStarts, howner, willSpawn]
    | clearStarted => cases call <;> simp [ServiceThreads.stop, pendingStarts, howner, willSpawn]
    | clearRunning => cases call <;> simp [ServiceThreads.stop, pendingStarts, howner, willSpawn]

theorem pendingStarts_runZAPThread (impl : ServiceThreads) (inUse : Bool) :
    pendingStarts (impl.runZAPThread inUse) ≤ pendingStarts impl := by
  unfold ServiceThreads.runZAPThread
  cases hpc : impl.thread with
  | bindZap =>
    dsimp only
    split_ifs
    · simp [pendingStarts, hpc, binding]
    · have hused := Bool.toNat_le impl.zapUsed
      simp only [pendingStarts, hpc, binding, Bool.toNat_true, Bool.toNat_false]
      omega
  | loopTop =>
    cases hup : impl.mKeepRunning <;> simp [pendingStarts, hpc, binding]
  | poll =>
    dsimp only
    split_ifs <;> simp [pendingStarts, hpc, binding]
  | clearStarted zap => cases zap <;> simp [pendingStarts, hpc, binding, ServiceThreads.afterPipe]
  | _ => simp [pendingStarts, hpc, binding]

theorem WithinStarts.ownerStep {starts : Nat} {impl : ServiceThreads}
    (h : WithinStarts starts impl) : WithinStarts starts impl.ownerStep := by
  refine ⟨Nat.le_trans (pendingStarts_ownerStep impl) h.pending, ?_⟩
  have hthrew := h.threw
  unfold ServiceThreads.ownerStep
  cases impl.owner with
  | idle => exact hthrew
  | setRunning => exact hthrew
  | spawn => simp
  | stopping call pc =>
    cases pc with
    | clearStarted => exact hthrew
    | clearRunning => exact hthrew
    | join =>
      simp only [ServiceThreads.stop]
      split_ifs
      · simp
      · exact hthrew
    | _ =>
      simp only [ServiceThreads.stop]
      split_ifs
      · exact hthrew
      · exact hthrew

theorem WithinStarts.runZAPThread {starts : Nat} {impl : ServiceThreads}
    (h : WithinStarts starts impl) (inUse : Bool) :
    WithinStarts starts (impl.runZAPThread inUse) := by
  refine ⟨Nat.le_trans (pendingStarts_runZAPThread impl inUse) h.pending, ?_⟩
  unfold ServiceThreads.runZAPThread
  cases hpc : impl.thread with
  | bindZap =>
    dsimp only
    split_ifs with hused
    · intro _
      exact (Bool.and_eq_true_iff.mp hused).1
    · simp
  | threw => exact h.threw
  | loopTop => cases impl.mKeepRunning <;> simp
  | poll =>
    dsimp only
    split_ifs <;> simp [hpc]
  | clearStarted zap => cases zap <;> simp [ServiceThreads.afterPipe]
  | _ => simp [hpc]

theorem threads_authenticate (service : ServiceImpl) (traffic : ZapTraffic) :
    (traffic.authenticate service).threads = traffic.threads ∨
      (traffic.authenticate service).threads = { traffic.threads with thread := .loopTop } := by
  unfold ZapTraffic.authenticate
  cases traffic.messagesReceived with
  | none =>
    left
    dsimp only
    split_ifs
    · rfl
    · cases traffic.zap <;> rfl
  | some request =>
    dsimp only
    split_ifs
    · cases service.reply request with
      | ok reply => exact Or.inr rfl
      | error e => exact Or.inl rfl
    · exact Or.inr rfl

theorem WithinStarts.thread {starts : Nat} (h : WithinStarts starts traffic.threads)
    (inUse : Bool) : WithinStarts starts (traffic.runZAPThread service inUse).threads := by
  have hcounted : WithinStarts starts traffic.counted := ⟨h.pending, h.threw⟩
  unfold ZapTraffic.runZAPThread
  cases hpc : traffic.threads.thread with
  | authenticate =>
    rcases threads_authenticate service traffic with hsame | hloop
    · rwa [hsame]
    · rw [hloop]
      refine ⟨?_, by simp⟩
      have hpending := h.pending
      simpa [pendingStarts, hpc, binding] using hpending
  | _ => exact hcounted.runZAPThread inUse

end ZapTraffic

def TrafficStep.isStart : TrafficStep → Bool
  | .call .start => true
  | _ => false

namespace ZapTraffic

variable {service : ServiceImpl} {traffic : ZapTraffic}

theorem WithinStarts.step {past : List TrafficStep}
    (h : WithinStarts (past.countP TrafficStep.isStart) traffic.threads) (step : TrafficStep) :
    WithinStarts ((past ++ [step]).countP TrafficStep.isStart)
      ((zapTraffic service).step traffic step).1.threads := by
  have hmore {threads : ServiceThreads}
      (hnext : WithinStarts (past.countP TrafficStep.isStart) threads) :
      WithinStarts ((past ++ [step]).countP TrafficStep.isStart) threads := by
    refine ⟨Nat.le_trans hnext.pending ?_, hnext.threw⟩
    rw [List.countP_append]
    exact Nat.le_add_right _ _
  show WithinStarts _
    (if traffic.terminated.isSome then traffic else traffic.act service step).threads
  split_ifs
  · exact hmore h
  · cases step with
    | owner => exact hmore h.ownerStep
    | thread inUse => exact hmore (h.thread inUse)
    | request frames =>
      apply hmore
      show WithinStarts _ (traffic.request frames).threads
      unfold ZapTraffic.request
      split_ifs <;> exact h
    | call call =>
      show WithinStarts _ (traffic.threads.beginCall call)
      unfold ServiceThreads.beginCall
      cases howner : traffic.threads.owner with
      | idle =>
        have hpending := h.pending
        refine ⟨?_, h.threw⟩
        cases call with
        | stop => simpa [pendingStarts, howner, willSpawn, TrafficStep.isStart] using hpending
        | start => simpa [pendingStarts, howner, willSpawn, TrafficStep.isStart] using hpending
      | _ => exact hmore h

end ZapTraffic

end Us8
