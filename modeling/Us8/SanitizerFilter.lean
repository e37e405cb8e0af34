/-
  Us8/SanitizerFilter.lean
  ========================
  **The three threads of the sanitizer do the work of one sequential loop.**

  What the sanitizer is for fits in a line: take the packets as they come, ask the
  testers about each, pass on those that are allowed.  `sieve` is that program.  The
  real one has two queues and three threads, loses packets when a queue is full or looks
  too long, and its testers remember what they have been asked.  Still, whatever the
  scheduler does, what it sends is what `sieve` emits, started with the same testers on
  a subsequence of the arrivals, with some of it missing (`sends_of_sieve`).  Hence what holds
  of every run of `sieve` and of the sublists of its output holds of the sanitizer.

  The proof follows the packets through two stages.  Those asked about, those about to
  be asked and those waiting for it form the `checkLine`, a part of the arrivals; those
  sent, waiting to be sent and about to be handed on form the `publishLine`, a part
  of what `sieve` emits.  A step takes nothing from a line unless it `overflows`, so
  without overflow nothing is missing (`sends_of_sieve_eq`).
-/
import Us8.SanitizerStream

namespace Us8

/-! ### The sequential program -/

def passOn (verdict : Except StdException Bool) (arrival : Arrival) : Option Arrival :=
  match verdict with
  | .ok true => some arrival
  | _ => none

/-- Ask about one packet, and pass it on when it is allowed. -/
def sieve : Machine Testers (Readings × Arrival) (Option Arrival) where
  step testers call :=
    let asked := testers.scrutinize call.1 call.2.packet
    (asked.1, passOn asked.2 call.2)

theorem sieve_step {testers next : Testers} {readings : Readings} {arrival : Arrival}
    {verdict : Except StdException Bool}
    (hasked : testers.scrutinize readings arrival.packet = (next, verdict)) :
    sieve.step testers (readings, arrival) = (next, passOn verdict arrival) := by
  simp only [sieve, hasked]

theorem passOn_eq_some {verdict : Except StdException Bool} {arrival a : Arrival}
    (h : passOn verdict arrival = some a) : verdict = .ok true ∧ a = arrival := by
  unfold passOn at h
  split at h
  · exact ⟨rfl, (Option.some.inj h).symm⟩
  · cases h

/-- The packets emitted are, in order, some of those asked about. -/
theorem emitted_sublist_asked (testers : Testers) (asked : List (Readings × Arrival)) :
    (sieve.emitted testers asked).Sublist (asked.map Prod.snd) := by
  have hstep : ∀ (testers : Testers) (call : Readings × Arrival), True →
      ((sieve.step testers call).2.toList ++ []).Sublist ([] ++ [call.2]) := by
    intro testers call _
    cases hout : (sieve.step testers call).2 with
    | none => simp
    | some a =>
      obtain ⟨-, rfl⟩ := passOn_eq_some hout
      simp
  have hline := @Machine.emitted_sublist _ _ _ sieve (fun _ => True) (fun _ => [])
    (fun call => [call.2]) (fun _ _ _ => trivial) hstep testers trivial asked
  rw [List.map_eq_flatMap]
  simpa using hline

theorem mem_asked_of_emitted {testers : Testers} {asked : List (Readings × Arrival)} {a : Arrival}
    (ha : a ∈ sieve.emitted testers asked) : ∃ readings, (readings, a) ∈ asked := by
  obtain ⟨call, hcall, rfl⟩ := List.mem_map.mp ((emitted_sublist_asked testers asked).subset ha)
  exact ⟨call.1, hcall⟩

def CheckRecord.asked (record : CheckRecord) : Readings × Arrival :=
  (record.readings, record.arrival)

/-! ### Parts of a list -/

/-- `xs` is `ys` with some entries missing, none when `keeps` holds. -/
structure PartOf {α : Type*} (keeps : Prop) (xs ys : List α) : Prop where
  sublist : xs.Sublist ys
  eq : keeps → xs = ys

namespace PartOf

variable {α : Type*} {keeps : Prop} {xs ys zs : List α}

theorem refl (xs : List α) : PartOf keeps xs xs := ⟨List.Sublist.refl _, fun _ => rfl⟩

theorem of_eq (h : xs = ys) : PartOf keeps xs ys := h ▸ refl xs

theorem of_not_keeps (hlost : ¬ keeps) (h : xs.Sublist ys) : PartOf keeps xs ys :=
  ⟨h, fun hkeeps => absurd hkeeps hlost⟩

theorem trans {also : Prop} (h : PartOf keeps xs ys) (h' : PartOf also ys zs) :
    PartOf (keeps ∧ also) xs zs := by
  refine ⟨h.sublist.trans h'.sublist, ?_⟩
  rintro ⟨hkeeps, halso⟩
  exact (h.eq hkeeps).trans (h'.eq halso)

theorem append_left (h : PartOf keeps xs ys) (front : List α) :
    PartOf keeps (front ++ xs) (front ++ ys) :=
  ⟨h.sublist.append_left front, fun hkeeps => by rw [h.eq hkeeps]⟩

theorem append_right (h : PartOf keeps xs ys) (rear : List α) :
    PartOf keeps (xs ++ rear) (ys ++ rear) :=
  ⟨h.sublist.append_right rear, fun hkeeps => by rw [h.eq hkeeps]⟩

end PartOf

namespace Process

/-! ### The two stages -/

/-- What the testers have been asked about, with the readings they were given. -/
def asked (process : Process) : List (Readings × Arrival) :=
  process.history.checks.map CheckRecord.asked

def toCheck (process : Process) : List Arrival :=
  (match process.checker with
    | .scrutinize arrival => [arrival]
    | _ => []) ++ process.mPacketsToCheckQueue.items

def handedOn (process : Process) : List Arrival :=
  match process.checker with
  | .enqueue arrival => [arrival]
  | _ => []

/-- The first stage: asked about, about to be asked about, waiting for it. -/
def checkLine (process : Process) : List Arrival :=
  process.history.checks.map CheckRecord.arrival ++ process.toCheck

/-- The second stage: sent, waiting to be sent, about to be handed on. -/
def publishLine (process : Process) : List Arrival :=
  process.history.sends ++ process.waiting ++ process.handedOn

/-- The action offers a packet to a full queue, or removes one from a queue that was
    found too long. -/
def overflows (process : Process) : Action → Bool
  | .deliver _ => decide process.mPacketsToCheckQueue.Full
  | .check _ =>
      match process.checker with
      | .trimming (.remove _) => !process.mPacketsToCheckQueue.items.isEmpty
      | .enqueue _ => decide process.mMessagesToPublishQueue.Full
      | _ => false
  | .publish _ =>
      match process.publisher with
      | .trimming (.remove _) => !process.mMessagesToPublishQueue.items.isEmpty
      | _ => false
  | .stop => false

/-! ### One step of each stage -/

theorem trim_partOf {process : Process} {action : Action} {trim : Trim}
    {queue after : BoundedQueue Arrival} {result : TrimResult} {sizeApprox : Nat}
    (hover : (∃ nDeleted, trim = .remove nDeleted) ∧ queue.items ≠ [] →
      process.overflows action = true)
    (hstep : trim.step MAX_QUEUE_SIZE sizeApprox queue = (after, result)) :
    PartOf (process.overflows action = false) after.items queue.items := by
  constructor
  · have hsub := trim.items_step MAX_QUEUE_SIZE sizeApprox queue
    rwa [hstep] at hsub
  · intro hkeeps
    have heq := trim.items_step_eq MAX_QUEUE_SIZE sizeApprox queue (fun hremove => by
      simp [hover hremove] at hkeeps)
    rwa [hstep] at heq

theorem checkLine_checkPackets (process : Process) (input : CheckInput) :
    PartOf (process.overflows (.check input) = false) (process.checkPackets input).checkLine
      process.checkLine := by
  have hcase := process.checkPackets_case input
  generalize process.checkPackets input = after at hcase ⊢
  have hremove : ∀ trim, process.checker = .trimming trim →
      (∃ nDeleted, trim = .remove nDeleted) ∧ process.mPacketsToCheckQueue.items ≠ [] →
      process.overflows (.check input) = true := by
    rintro trim hpc ⟨⟨nDeleted, rfl⟩, hne⟩
    simpa [overflows, hpc] using hne
  cases hcase with
  | entered hpc => exact .of_eq (by simp [checkLine, toCheck, hpc])
  | exited hpc => exact .of_eq (by simp [checkLine, toCheck, hpc])
  | trimming trim next queue hpc hstep =>
    have hqueue := trim_partOf (hremove trim hpc) hstep
    simpa [checkLine, toCheck, hpc] using
      hqueue.append_left (process.history.checks.map CheckRecord.arrival)
  | trimmed trim nDeleted queue hpc hstep =>
    have hqueue := trim_partOf (hremove trim hpc) hstep
    simpa [checkLine, toCheck, hpc] using
      hqueue.append_left (process.history.checks.map CheckRecord.arrival)
  | dequeued arrival hpc hpeek =>
    apply PartOf.of_eq
    rw [checkLine, checkLine, toCheck, toCheck, hpc, BoundedQueue.items_of_peek hpeek]
    rfl
  | idle hpc => exact .of_eq (by simp [checkLine, toCheck, hpc])
  | threw arrival testers e hpc =>
    exact .of_eq (by simp [checkLine, toCheck, hpc, History.check])
  | allowed arrival testers hpc =>
    exact .of_eq (by simp [checkLine, toCheck, hpc, History.check])
  | rejected arrival testers hpc =>
    exact .of_eq (by simp [checkLine, toCheck, hpc, History.check])
  | enqueued arrival hpc => exact .of_eq (by simp [checkLine, toCheck, hpc])
  | reported hpc => exact .of_eq (by simp [checkLine, toCheck, hpc])
  | gone => exact .refl _

/-- A packet handed on is behind all that wait, unless the queue refuses it. -/
theorem publishLine_enqueued {process : Process} (hfront : process.FrontHeld) {arrival : Arrival}
    (hpc : process.checker = .enqueue arrival) (input : CheckInput) :
    PartOf (process.overflows (.check input) = false) (process.checkerEnqueue arrival).publishLine
      process.publishLine := by
  by_cases hfull : process.mMessagesToPublishQueue.Full
  · apply PartOf.of_not_keeps (by simp [overflows, hpc, hfull])
    have hwaiting := (process.waiting_checkerEnqueue arrival).append_left process.history.sends
    rw [← List.append_assoc] at hwaiting
    rw [publishLine, publishLine, handedOn, handedOn, hpc]
    simpa only [checkerEnqueue, List.append_nil] using hwaiting
  · have hitems := BoundedQueue.items_tryEnqueue hfull arrival
    have hwaiting : (process.checkerEnqueue arrival).waiting = process.waiting ++ [arrival] := by
      unfold waiting checkerEnqueue
      dsimp only
      rw [hitems]
      cases hpublisher : process.publisher with
      | pop =>
        -- the packet that was sent is still there, so the queue is not empty
        simp only [FrontHeld, hpublisher] at hfront
        obtain ⟨oldest, hpeek⟩ := hfront
        rw [BoundedQueue.items_of_peek hpeek]
        rfl
      | _ => rfl
    apply PartOf.of_eq
    rw [publishLine, hwaiting]
    simp [publishLine, handedOn, hpc, checkerEnqueue]

/-- What a step of `checkPackets` does as seen by the sequential program: it runs on by
    one packet and its output goes to the end of the second stage, or it does not move
    and the second stage loses packets only by an overflow. -/
theorem sieve_checkPackets {process : Process} (hfront : process.FrontHeld)
    (input : CheckInput) :
    (∃ call, (process.checkPackets input).asked = process.asked ++ [call] ∧
      (process.checkPackets input).testers = (sieve.step process.testers call).1 ∧
      (process.checkPackets input).publishLine =
        process.publishLine ++ (sieve.step process.testers call).2.toList) ∨
    ((process.checkPackets input).asked = process.asked ∧
      (process.checkPackets input).testers = process.testers ∧
      PartOf (process.overflows (.check input) = false) (process.checkPackets input).publishLine
        process.publishLine) := by
  have hcase := process.checkPackets_case input
  generalize process.checkPackets input = after at hcase ⊢
  cases hcase with
  | entered hpc =>
    exact Or.inr ⟨rfl, rfl, .of_eq (by simp [publishLine, handedOn, hpc, waiting])⟩
  | exited hpc =>
    exact Or.inr ⟨rfl, rfl, .of_eq (by simp [publishLine, handedOn, hpc, waiting])⟩
  | trimming trim next queue hpc hstep =>
    exact Or.inr ⟨rfl, rfl, .of_eq (by simp [publishLine, handedOn, hpc, waiting])⟩
  | trimmed trim nDeleted queue hpc hstep =>
    exact Or.inr ⟨rfl, rfl, .of_eq (by simp [publishLine, handedOn, hpc, waiting])⟩
  | dequeued arrival hpc hpeek =>
    exact Or.inr ⟨rfl, rfl, .of_eq (by simp [publishLine, handedOn, hpc, waiting])⟩
  | idle hpc =>
    exact Or.inr ⟨rfl, rfl, .of_eq (by simp [publishLine, handedOn, hpc, waiting])⟩
  | threw arrival testers e hpc hasked =>
    refine Or.inl ⟨(input.readings, arrival), by simp [asked, History.check, CheckRecord.asked],
      ?_, ?_⟩
    · rw [sieve_step hasked]
    · rw [sieve_step hasked]
      simp [publishLine, handedOn, hpc, waiting, History.check, passOn]
  | allowed arrival testers hpc hasked =>
    refine Or.inl ⟨(input.readings, arrival), by simp [asked, History.check, CheckRecord.asked],
      ?_, ?_⟩
    · rw [sieve_step hasked]
    · rw [sieve_step hasked]
      simp [publishLine, handedOn, hpc, waiting, History.check, passOn]
  | rejected arrival testers hpc hasked =>
    refine Or.inl ⟨(input.readings, arrival), by simp [asked, History.check, CheckRecord.asked],
      ?_, ?_⟩
    · rw [sieve_step hasked]
    · rw [sieve_step hasked]
      simp [publishLine, handedOn, hpc, waiting, History.check, passOn]
  | enqueued arrival hpc => exact Or.inr ⟨rfl, rfl, publishLine_enqueued hfront hpc input⟩
  | reported hpc =>
    exact Or.inr ⟨rfl, rfl, .of_eq (by simp [publishLine, handedOn, hpc, waiting])⟩
  | gone => exact Or.inr ⟨rfl, rfl, .refl _⟩

theorem publishLine_publishGoodPackets {process : Process} (hfront : process.FrontHeld)
    (input : PublishInput) :
    PartOf (process.overflows (.publish input) = false)
      (process.publishGoodPackets input).publishLine process.publishLine := by
  have hcase := process.publishGoodPackets_case input
  generalize process.publishGoodPackets input = after at hcase ⊢
  have hremove : ∀ trim, process.publisher = .trimming trim →
      (∃ nDeleted, trim = .remove nDeleted) ∧ process.mMessagesToPublishQueue.items ≠ [] →
      process.overflows (.publish input) = true := by
    rintro trim hpc ⟨⟨nDeleted, rfl⟩, hne⟩
    simpa [overflows, hpc] using hne
  have hsend : ∀ arrival, process.publisher = .send arrival →
      process.waiting = arrival :: process.mMessagesToPublishQueue.items.tail := by
    intro arrival hpc
    simp only [FrontHeld, hpc] at hfront
    simpa [waiting, hpc] using BoundedQueue.items_of_peek hfront
  cases hcase with
  | entered hpc => exact .of_eq (by simp [publishLine, waiting, hpc, handedOn])
  | exited hpc => exact .of_eq (by simp [publishLine, waiting, hpc, handedOn])
  | trimming trim next queue hpc hstep =>
    have hqueue := trim_partOf (hremove trim hpc) hstep
    simpa [publishLine, waiting, hpc, handedOn] using
      (hqueue.append_right process.handedOn).append_left process.history.sends
  | trimmed trim nDeleted queue hpc hstep =>
    have hqueue := trim_partOf (hremove trim hpc) hstep
    simpa [publishLine, waiting, hpc, handedOn] using
      (hqueue.append_right process.handedOn).append_left process.history.sends
  | peeked arrival hpc => exact .of_eq (by simp [publishLine, waiting, hpc, handedOn])
  | idle hpc => exact .of_eq (by simp [publishLine, waiting, hpc, handedOn])
  | sent arrival hpc =>
    apply PartOf.of_eq
    rw [publishLine, publishLine, hsend arrival hpc]
    simp [waiting, History.send, handedOn]
  | failed arrival e hpc =>
    apply PartOf.of_eq
    rw [publishLine, publishLine, hsend arrival hpc]
    simp [waiting, History.send, handedOn]
  | popped hpc => exact .of_eq (by simp [publishLine, waiting, hpc, handedOn])
  | reported hpc => exact .of_eq (by simp [publishLine, waiting, hpc, handedOn])
  | gone => exact .refl _

/-! ### The sequential program runs along -/

/-- The state of the threads as seen by the sequential program, started with `testers`:
    it has reached the same testers, and each stage is a part of what it should hold. -/
structure Sifts (testers : Testers) (keeps : Prop) (process : Process) : Prop where
  front : process.FrontHeld
  reached : process.testers = sieve.after testers process.asked
  checked : PartOf keeps process.checkLine (numbered process.history.arrivals)
  published : PartOf keeps process.publishLine (sieve.emitted testers process.asked)

variable {testers : Testers} {keeps : Prop}

theorem sifts_deliver {process : Process} (h : process.Sifts testers keeps) (packet : DataPacket)
    (hover : keeps → process.overflows (.deliver packet) = false) :
    (process.inputPacketsToQueueCallback packet).Sifts testers keeps := by
  refine ⟨frontHeld_act h.front (.deliver packet), h.reached, ?_, h.published⟩
  have harrivals : numbered (process.inputPacketsToQueueCallback packet).history.arrivals =
      numbered process.history.arrivals ++ [⟨process.history.arrivals.length, packet⟩] :=
    numbered_concat _ _
  rw [harrivals]
  have hline := h.checked.append_right [⟨process.history.arrivals.length, packet⟩]
  by_cases hfull : process.mPacketsToCheckQueue.Full
  · have hlost : ¬ keeps := by
      intro hkeeps
      simpa [overflows, hfull] using hover hkeeps
    have hsame : (process.inputPacketsToQueueCallback packet).checkLine = process.checkLine := by
      simp [checkLine, toCheck, inputPacketsToQueueCallback, BoundedQueue.tryEnqueue_of_full hfull]
    rw [hsame]
    apply PartOf.of_not_keeps hlost
    exact (List.sublist_append_left _ _).trans hline.sublist
  · have hconcat : (process.inputPacketsToQueueCallback packet).checkLine =
        process.checkLine ++ [⟨process.history.arrivals.length, packet⟩] := by
      simp [checkLine, toCheck, inputPacketsToQueueCallback, BoundedQueue.items_tryEnqueue hfull]
    rw [hconcat]
    exact hline

theorem sifts_check {process : Process} (h : process.Sifts testers keeps) (input : CheckInput)
    (hover : keeps → process.overflows (.check input) = false) :
    (process.checkPackets input).Sifts testers keeps := by
  have hchecked := (process.checkLine_checkPackets input).trans h.checked
  have hpublished := sieve_checkPackets h.front input
  refine ⟨frontHeld_checkPackets h.front input, ?_, ?_, ?_⟩
  · rcases hpublished with ⟨call, hasked, htesters, -⟩ | ⟨hasked, htesters, -⟩
    · rw [hasked, htesters, Machine.after_concat, ← h.reached]
    · rw [hasked, htesters, h.reached]
  · rw [arrivals_checkPackets]
    exact ⟨hchecked.sublist, fun hkeeps => hchecked.eq ⟨hover hkeeps, hkeeps⟩⟩
  · rcases hpublished with ⟨call, hasked, -, hline⟩ | ⟨hasked, -, hline⟩
    · rw [hasked, hline, Machine.emitted_concat, ← h.reached]
      exact h.published.append_right _
    · rw [hasked]
      have hpart := hline.trans h.published
      exact ⟨hpart.sublist, fun hkeeps => hpart.eq ⟨hover hkeeps, hkeeps⟩⟩

theorem asked_publishGoodPackets (process : Process) (input : PublishInput) :
    (process.publishGoodPackets input).asked = process.asked ∧
      (process.publishGoodPackets input).testers = process.testers ∧
      (process.publishGoodPackets input).checkLine = process.checkLine := by
  have hcase := process.publishGoodPackets_case input
  generalize process.publishGoodPackets input = after at hcase ⊢
  cases hcase <;> exact ⟨rfl, rfl, rfl⟩

theorem sifts_publish {process : Process} (h : process.Sifts testers keeps)
    (input : PublishInput) (hover : keeps → process.overflows (.publish input) = false) :
    (process.publishGoodPackets input).Sifts testers keeps := by
  obtain ⟨hasked, htesters, hline⟩ := process.asked_publishGoodPackets input
  refine ⟨frontHeld_publishGoodPackets h.front input, ?_, ?_, ?_⟩
  · rw [hasked, htesters, h.reached]
  · rw [hline, arrivals_publishGoodPackets]
    exact h.checked
  · rw [hasked]
    have hpart := (publishLine_publishGoodPackets h.front input).trans h.published
    exact ⟨hpart.sublist, fun hkeeps => hpart.eq ⟨hover hkeeps, hkeeps⟩⟩

theorem sifts_act {process : Process} (h : process.Sifts testers keeps) (action : Action)
    (hover : keeps → process.overflows action = false) :
    (process.act action).Sifts testers keeps := by
  cases action with
  | deliver packet => exact sifts_deliver h packet hover
  | check input => exact sifts_check h input hover
  | publish input => exact sifts_publish h input hover
  | stop => exact ⟨h.front, h.reached, h.checked, h.published⟩

theorem sifts_start (keeps : Prop) (testers : Testers) (checkCapacity publishCapacity : Nat)
    (checkerEntered publisherEntered : Int64) :
    (start testers checkCapacity publishCapacity checkerEntered publisherEntered).Sifts
      testers keeps :=
  ⟨trivial, rfl, .refl _, .refl _⟩

theorem arrivals_after_start (testers : Testers) (checkCapacity publishCapacity : Nat)
    (checkerEntered publisherEntered : Int64) (actions : List Action) :
    (sanitizer.after (start testers checkCapacity publishCapacity checkerEntered publisherEntered)
      actions).history.arrivals = actions.filterMap Action.delivered := by
  simp [arrivals_after, start]

theorem map_snd_asked (process : Process) :
    process.asked.map Prod.snd = process.history.checks.map CheckRecord.arrival := by
  simp [asked, CheckRecord.asked]

/-- Every packet that was taken in has been asked about, and every one allowed has been
    sent. -/
def Drained (process : Process) : Prop :=
  process.toCheck = [] ∧ process.waiting = [] ∧ process.handedOn = []

end Process

/-! ### Every interleaving -/

section Run

variable (testers : Testers) (checkCapacity publishCapacity : Nat)
  (checkerEntered publisherEntered : Int64) (actions : List Action)

/-- Whatever the interleaving, the sequential program runs along. -/
theorem sends_sublist_emitted :
    let process := sanitizer.after (Process.start testers checkCapacity publishCapacity
      checkerEntered publisherEntered) actions
    (process.asked.map Prod.snd).Sublist (numbered (actions.filterMap Action.delivered)) ∧
    process.testers = sieve.after testers process.asked ∧
    process.history.sends.Sublist (sieve.emitted testers process.asked) := by
  intro process
  have hsifts : process.Sifts testers False :=
    sanitizer.after_invariant (I := Process.Sifts testers False)
      (fun _ action h => Process.sifts_act h action False.elim)
      (Process.sifts_start _ _ _ _ _ _) actions
  refine ⟨?_, hsifts.reached, ?_⟩
  · rw [Process.map_snd_asked, ← Process.arrivals_after_start]
    exact (List.sublist_append_left _ _).trans hsifts.checked.sublist
  · have hsent : process.history.sends.Sublist process.publishLine :=
      (List.sublist_append_left _ _).trans (List.sublist_append_left _ _)
    exact hsent.trans hsifts.published.sublist

/-- **The threads refine the sequential program.**  Under every interleaving there are
    packets, a subsequence of the arrivals, and readings of the clock at each of them, such
    that the testers are in the state in which the sequential program leaves them after
    these and what has been sent is a subsequence of what it emits for them. -/
theorem sends_of_sieve (testers : Testers) (checkCapacity publishCapacity : Nat)
    (checkerEntered publisherEntered : Int64) (actions : List Action) :
    let process := sanitizer.after (Process.start testers checkCapacity publishCapacity
      checkerEntered publisherEntered) actions
    ∃ asked : List (Readings × Arrival),
      (asked.map Prod.snd).Sublist (numbered (actions.filterMap Action.delivered)) ∧
      process.testers = sieve.after testers asked ∧
      process.history.sends.Sublist (sieve.emitted testers asked) :=
  ⟨_, sends_sublist_emitted testers checkCapacity publishCapacity checkerEntered publisherEntered
    actions⟩

/-- **Without overflow nothing is lost.**  As long as no packet is offered to a full
    queue or removed from one that looked too long, what has been sent is the beginning
    of what the sequential program emits for the beginning of the arrivals; once the
    threads have nothing left to do it is all of it. -/
theorem sends_of_sieve_eq
    (hover : sanitizer.Always (fun process action => process.overflows action = false)
      (Process.start testers checkCapacity publishCapacity checkerEntered publisherEntered)
      actions) :
    let process := sanitizer.after (Process.start testers checkCapacity publishCapacity
      checkerEntered publisherEntered) actions
    process.asked.map Prod.snd <+: numbered (actions.filterMap Action.delivered) ∧
    process.history.sends <+: sieve.emitted testers process.asked ∧
    (process.Drained →
      process.asked.map Prod.snd = numbered (actions.filterMap Action.delivered) ∧
      process.history.sends = sieve.emitted testers process.asked) := by
  intro process
  have hsifts : process.Sifts testers True :=
    sanitizer.after_invariant_of_always (I := Process.Sifts testers True)
      (fun _ action h hkeeps => Process.sifts_act h action fun _ => hkeeps)
      (Process.sifts_start _ _ _ _ _ _) hover
  have hchecked := hsifts.checked.eq trivial
  have hpublished := hsifts.published.eq trivial
  rw [Process.arrivals_after_start, Process.checkLine, ← Process.map_snd_asked] at hchecked
  rw [Process.publishLine, List.append_assoc] at hpublished
  refine ⟨⟨_, hchecked⟩, ⟨_, hpublished⟩, ?_⟩
  rintro ⟨hcheck, hwaiting, hhanded⟩
  rw [hcheck, List.append_nil] at hchecked
  rw [hwaiting, hhanded, List.append_nil, List.append_nil] at hpublished
  exact ⟨hchecked, hpublished⟩

end Run

theorem fork_packets_sifted :
    let process := sanitizer.after (Process.start defaultTesters 511 511 0 0) forkRun
    process.history.sends.map Arrival.index = [0, 1] ∧
      process.history.sends = sieve.emitted defaultTesters process.asked := by
  have hdrained :
      (sanitizer.after (Process.start defaultTesters 511 511 0 0) forkRun).Drained :=
    ⟨List.length_eq_zero_iff.mp (by decide +kernel),
      List.length_eq_zero_iff.mp (by decide +kernel),
      List.length_eq_zero_iff.mp (by decide +kernel)⟩
  exact ⟨by decide +kernel,
    ((sends_of_sieve_eq defaultTesters 511 511 0 0 forkRun (by decide +kernel)).2.2 hdrained).2⟩

end Us8
