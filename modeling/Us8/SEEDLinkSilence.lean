/-
  Us8/SEEDLinkSilence.lean
  ========================
  **When the callback of the SEEDLink client gets nothing.**

  The callback runs on the reader thread, which only `start` makes.  Every other call joins
  it before it can throw (`Joins`), unless the client has no options, and then there is no
  reader.  So between the return of `stop` and the next `start` nothing arrives, and a client
  whose `connect` has failed stays without a reader and without a new handle for good.
-/
import Us8.SEEDLinkHandles

namespace Us8.SEEDLink

open ClientThreads

/-! ### Without a reader -/

section Silence

variable {σ : Type} {client next : ClientThreads σ} {lib : BoundedLibMseed}
  {mAddPacketFunction : σ → DataPacket → σ × Option StdException}

/-- The steps that only `start` takes. -/
def OwnerOp.startOnly : OwnerOp → Bool
  | .requireInitialized => true
  | .spawn => true
  | _ => false

theorem startOnly_destroyOps : ∀ op ∈ destroyOps, op.startOnly = false := by
  simp [destroyOps, stopOps, disconnectOps, OwnerOp.startOnly]

theorem startOnly_initializeOps (options : ClientOptions) :
    ∀ op ∈ initializeOps options, op.startOnly = false := by
  intro op hop
  simp only [initializeOps, disconnectOps, List.mem_append, List.mem_cons, List.mem_map,
    List.not_mem_nil, or_false] at hop
  rcases hop with ((rfl | hop) | hop) | hop
  · rfl
  · rcases hop with rfl | rfl | rfl | rfl
    all_goals rfl
  · rcases hop with rfl | rfl | rfl | rfl
    all_goals rfl
  · rcases hop with ⟨selector, -, rfl⟩ | rfl | rfl | rfl
    all_goals rfl

theorem startOnly_ops (mOptions : ClientOptions) {call : ClientCall} (hcall : call ≠ .start) :
    ∀ op ∈ call.ops mOptions, op.startOnly = false := by
  cases call with
  | start => exact absurd rfl hcall
  | stop => simp [ClientCall.ops, stopOps, OwnerOp.startOnly]
  | connect =>
    have hstop : ∀ op ∈ OwnerOp.requireOptions :: stopOps, op.startOnly = false := by
      simp [stopOps, OwnerOp.startOnly]
    exact List.forall_mem_append.mpr ⟨hstop, startOnly_initializeOps mOptions⟩
  | destroy => exact startOnly_destroyOps

/-- There is no reader, and none to come from the call in progress. -/
structure Quiet (client : ClientThreads σ) : Prop where
  joined : client.reader = .none
  owner : ∀ op ∈ client.owner, op.startOnly = false

theorem startOnly_onThrow (h : Sound client) : ∀ op ∈ client.onThrow, op.startOnly = false := by
  rcases h.onThrow with hnil | hdestroy
  · rw [hnil]
    nofun
  · rw [hdestroy]
    exact startOnly_destroyOps

theorem ne_spawn {op : OwnerOp} (hop : op.startOnly = false) : op ≠ .spawn := by
  rintro rfl
  cases hop

/-- Without a reader only `start` brings the callback back. -/
theorem Quiet.step (hsound : Sound client) (h : Quiet client) {step : ClientStep}
    (hstep : step ≠ .call .start) :
    Quiet ((seedLinkClient lib mAddPacketFunction).step client step).1 ∧
      ((seedLinkClient lib mAddPacketFunction).step client step).1.receiver = client.receiver := by
  cases step with
  | call call =>
    show Quiet (client.beginCall call) ∧ (client.beginCall call).receiver = client.receiver
    rcases beginCall_cases client call with ⟨-, -, hbegun⟩ | hsame
    · rw [hbegun]
      have hcall : call ≠ .start := by
        rintro rfl
        exact hstep rfl
      exact ⟨⟨h.joined, startOnly_ops client.mOptions hcall⟩, rfl⟩
    · rw [hsame]
      exact ⟨h, rfl⟩
  | owner ok =>
    show Quiet (client.ownerStep ok) ∧ (client.ownerStep ok).receiver = client.receiver
    rcases ownerStep_cases client ok with ⟨op, rest, next, howner, hrun, hstep⟩ |
      ⟨op, rest, howner, hrun, hstep⟩ | hstep
    · rw [hstep]
      have hkeeps : OwnerKeeps op client next := owner_keeps hrun
      have hops := h.owner
      rw [howner] at hops
      rcases List.forall_mem_cons.mp hops with ⟨hop, hrest⟩
      exact ⟨⟨hkeeps.joined (ne_spawn hop) h.joined, hrest⟩, hkeeps.receiver⟩
    · rw [hstep]
      exact ⟨⟨h.joined, startOnly_onThrow hsound⟩, rfl⟩
    · rw [hstep]
      exact ⟨h, rfl⟩
  | reader collected =>
    show Quiet (client.readerStep lib mAddPacketFunction collected) ∧
      (client.readerStep lib mAddPacketFunction collected).receiver = client.receiver
    have hsame : client.readerStep lib mAddPacketFunction collected = client := by
      simp only [ClientThreads.readerStep, h.joined]
    rw [hsame]
    exact ⟨h, rfl⟩

/-- During every call but `start` the reader has been joined, or is about to be. -/
def Joins (client : ClientThreads σ) : Prop :=
  client.called ≠ some .start → (∀ op ∈ client.owner, op.startOnly = false) ∧
    (.join ∈ client.owner ∨ client.reader = .none)

/-- Nothing throws before the reader has been joined, unless the options are missing, and
    then there is no reader. -/
theorem joined_of_throws (h : Memory client) {known known' : Known}
    (hknown : known.Describes client) {op : OwnerOp} (hop : op.startOnly = false)
    (hnext : op.next known = some known') {ok : Bool} (hrun : op.run client ok = .throws) :
    client.reader = .none := by
  cases op with
  | requireInitialized => cases hop
  | requireOptions =>
    simp only [OwnerOp.run] at hrun
    split_ifs at hrun with hoptions
    exact h.optioned (by simpa using hoptions)
  | create =>
    simp only [OwnerOp.next] at hnext
    split_ifs at hnext with hguard
    exact hknown.joined hguard.1
  | setServerAddress =>
    simp only [OwnerOp.next] at hnext
    split_ifs at hnext with hguard
    exact hknown.joined hguard.1
  | setAllStations =>
    simp only [OwnerOp.next] at hnext
    split_ifs at hnext with hguard
    exact hknown.joined hguard.1
  | join =>
    simp only [OwnerOp.run] at hrun
    split_ifs at hrun
  | takeStateFile options =>
    simp only [OwnerOp.run] at hrun
    split_ifs at hrun
  | _ => cases hrun

theorem join_mem_ops (mOptions : ClientOptions) (call : ClientCall) :
    .join ∈ call.ops mOptions := by
  cases call
  all_goals simp [ClientCall.ops, startOps, connectOps, destroyOps, stopOps]

theorem Joins.step (hsound : Sound client) (h : Joins client) (step : ClientStep) :
    Joins ((seedLinkClient lib mAddPacketFunction).step client step).1 := by
  cases step with
  | call call =>
    show Joins (client.beginCall call)
    rcases beginCall_cases client call with ⟨-, -, hbegun⟩ | hsame
    · rw [hbegun]
      intro hcalled
      have hcall : call ≠ .start := by
        rintro rfl
        exact hcalled rfl
      exact ⟨startOnly_ops client.mOptions hcall, Or.inl (join_mem_ops client.mOptions call)⟩
    · rw [hsame]
      exact h
  | owner ok =>
    show Joins (client.ownerStep ok)
    rcases ownerStep_cases client ok with ⟨op, rest, next, howner, hrun, hstep⟩ |
      ⟨op, rest, howner, hrun, hstep⟩ | hstep
    · rw [hstep]
      intro hcalled
      have hkeeps : OwnerKeeps op client next := owner_keeps hrun
      rcases h (hkeeps.called ▸ hcalled) with ⟨hops, hjoin⟩
      rw [howner] at hops hjoin
      rcases List.forall_mem_cons.mp hops with ⟨hop, hrest⟩
      refine ⟨hrest, ?_⟩
      rcases hjoin with hmem | hjoined
      · rcases List.mem_cons.mp hmem with rfl | hmem
        · right
          simp only [OwnerOp.run] at hrun
          split_ifs at hrun
          cases hrun
          rfl
        · exact Or.inl hmem
      · exact Or.inr (hkeeps.joined (ne_spawn hop) hjoined)
    · rw [hstep]
      intro hcalled
      rcases h hcalled with ⟨hops, -⟩
      rw [howner] at hops
      rcases hsound.known howner with ⟨-, known, hknown, hcheck⟩
      rcases check_cons hcheck with ⟨rfl, -, -, -⟩ | ⟨known', hnext, -⟩
      · cases hrun
      · have hop : op.startOnly = false := hops op List.mem_cons_self
        have hjoined : client.reader = .none :=
          joined_of_throws hsound.memory hknown hop hnext hrun
        exact ⟨startOnly_onThrow hsound, Or.inr hjoined⟩
    · rw [hstep]
      exact h
  | reader collected =>
    show Joins (client.readerStep lib mAddPacketFunction collected)
    have hkeeps : ReaderKeeps client (client.readerStep lib mAddPacketFunction collected) :=
      readerStep_keeps hsound.memory collected
    intro hcalled
    rw [hkeeps.called] at hcalled
    rw [hkeeps.owner]
    rcases h hcalled with ⟨hops, hjoin⟩
    exact ⟨hops, hjoin.imp_right hkeeps.joined⟩

theorem joins_after (options : ClientOptions) (receiver : σ) (steps : List ClientStep) :
    Joins ((seedLinkClient lib mAddPacketFunction).after (construct options receiver) steps) := by
  have hboth := (seedLinkClient lib mAddPacketFunction).after_invariant
    (fun client step (h : Sound client ∧ Joins client) =>
      ⟨sound_step client step h.1, Joins.step h.1 h.2 step⟩)
    ⟨sound_construct options receiver,
      fun _ => ⟨startOnly_initializeOps options, Or.inr rfl⟩⟩ steps
  exact hboth.2

theorem quiet_after (hsound : Sound client) (h : Quiet client) {later : List ClientStep}
    (hlater : ∀ step ∈ later, step ≠ .call .start) :
    Quiet ((seedLinkClient lib mAddPacketFunction).after client later) ∧
      ((seedLinkClient lib mAddPacketFunction).after client later).receiver = client.receiver := by
  induction later generalizing client with
  | nil => exact ⟨h, rfl⟩
  | cons step later ih =>
    rcases List.forall_mem_cons.mp hlater with ⟨hstep, hrest⟩
    have hnext : Quiet ((seedLinkClient lib mAddPacketFunction).step client step).1 ∧
        ((seedLinkClient lib mAddPacketFunction).step client step).1.receiver = client.receiver :=
      Quiet.step hsound h hstep
    rcases hnext with ⟨hquiet, hreceiver⟩
    rcases ih (sound_step client step hsound) hquiet hrest with ⟨hafter, hsame⟩
    exact ⟨hafter, hsame.trans hreceiver⟩

end Silence

/-- **No packet after `stop`.**  Once a call of `stop` or `connect` has returned or thrown, or
    the client has been constructed or destroyed, there is no reader, `isConnected` is false
    and the callback gets nothing, until `start` is called. -/
theorem nothing_after_stop {σ : Type} (lib : BoundedLibMseed)
    (mAddPacketFunction : σ → DataPacket → σ × Option StdException) (options : ClientOptions)
    (receiver : σ) (past later : List ClientStep)
    (hreturned : ((seedLinkClient lib mAddPacketFunction).after
      (construct options receiver) past).owner = [])
    (hcalled : ((seedLinkClient lib mAddPacketFunction).after
      (construct options receiver) past).called ≠ some .start)
    (hlater : ∀ step ∈ later, step ≠ .call .start) :
    let client := (seedLinkClient lib mAddPacketFunction).after (construct options receiver) past
    let now := (seedLinkClient lib mAddPacketFunction).after client later
    now.receiver = client.receiver ∧ now.reader = .none ∧ now.mConnected = false := by
  intro client now
  have hsound : Sound client := sound_after options receiver past
  have hjoins : Joins client := joins_after options receiver past
  rcases hjoins hcalled with ⟨-, hjoin⟩
  have hquiet : Quiet client := by
    rw [hreturned] at hjoin
    refine ⟨hjoin.resolve_left List.not_mem_nil, ?_⟩
    rw [hreturned]
    nofun
  have hafter : Quiet now ∧ now.receiver = client.receiver := quiet_after hsound hquiet hlater
  rcases hafter with ⟨hnow, hreceiver⟩
  refine ⟨hreceiver, hnow.joined, ?_⟩
  have hmemory : Memory now := ((seedLinkClient lib mAddPacketFunction).after_invariant sound_step
    hsound later).memory
  by_contra hconnected
  have hrunning := hmemory.connected (by simpa using hconnected)
  rw [hnow.joined] at hrunning
  cases hrunning

/-- The owner constructs a client without selectors and starts it, the reader delivers a packet
    and is at the top of its loop, and the owner stops the client. -/
def forkStopped : List ClientStep :=
  List.replicate 12 (.owner true) ++
    (.call .start :: List.replicate 8 (.owner true)) ++
    List.replicate 7 (.reader forkCollected.2) ++
    (.call .stop :: List.replicate 2 (.owner true)) ++
    List.replicate 2 (.reader forkCollected.2) ++ [.owner true]

theorem fork_nothing_after_stop :
    let client := (seedLinkClient forkLibMseed keepPacket).after
      (construct ClientOptions.new []) forkStopped
    let now := (seedLinkClient forkLibMseed keepPacket).after client
      [.call .connect, .reader forkCollected.2]
    client.receiver = [DataPacket.forkPacket (.integer32 [7])] ∧
      now.receiver = client.receiver ∧ now.reader = .none ∧ now.mConnected = false :=
  ⟨by decide +kernel,
    nothing_after_stop forkLibMseed keepPacket ClientOptions.new [] forkStopped
      [.call .connect, .reader forkCollected.2] (by decide +kernel) (by decide +kernel) (by simp)⟩

/-! ### A client that has failed to connect -/

section Barred

variable {σ : Type} {client : ClientThreads σ} {lib : BoundedLibMseed}
  {mAddPacketFunction : σ → DataPacket → σ × Option StdException}

/-- Without options the steps end in an exception before a reader or a handle is made. -/
def barred : List OwnerOp → Bool
  | [] => true
  | .requireInitialized :: _ => true
  | .requireOptions :: _ => true
  | .spawn :: _ => false
  | .create :: _ => false
  | .finish _ :: _ => false
  | _ :: rest => barred rest

theorem barred_ops (mOptions : ClientOptions) (call : ClientCall) :
    barred (call.ops mOptions) = true := by
  cases call
  all_goals rfl

/-- A client that is not initialized and has no options to try again with. -/
structure Barred (created : Nat) (receiver : σ) (client : ClientThreads σ) : Prop where
  mHaveOptions : client.mHaveOptions = false
  mInitialized : client.alive = true → client.mInitialized = false
  reader : client.reader = .none
  owner : barred client.owner = true
  created : client.created = created
  receiver : client.receiver = receiver

/-- A step that does not throw is none of those that need what the client does not have. -/
theorem barred_cons {op : OwnerOp} {rest : List OwnerOp} (h : barred (op :: rest) = true)
    (hoptions : client.mHaveOptions = false) (hinitialized : client.mInitialized = false)
    {ok : Bool} {next : ClientThreads σ} (hrun : op.run client ok = .next next) :
    op ≠ .spawn ∧ op ≠ .create ∧ op.finishes = false ∧ barred rest = true := by
  cases op with
  | requireInitialized =>
    simp only [OwnerOp.run, hinitialized] at hrun
    cases hrun
  | requireOptions =>
    simp only [OwnerOp.run, hoptions] at hrun
    cases hrun
  | spawn => cases h
  | create => cases h
  | finish options => cases h
  | _ => exact ⟨by simp, by simp, rfl, h⟩

theorem Barred.step (hsound : Sound client) {created : Nat} {receiver : σ}
    (h : Barred created receiver client) (step : ClientStep) :
    Barred created receiver ((seedLinkClient lib mAddPacketFunction).step client step).1 := by
  cases step with
  | call call =>
    show Barred created receiver (client.beginCall call)
    rcases beginCall_cases client call with ⟨-, -, hbegun⟩ | hsame
    · rw [hbegun]
      exact ⟨h.mHaveOptions, h.mInitialized, h.reader, barred_ops client.mOptions call, h.created,
        h.receiver⟩
    · rw [hsame]
      exact h
  | owner ok =>
    show Barred created receiver (client.ownerStep ok)
    rcases ownerStep_cases client ok with ⟨op, rest, next, howner, hrun, hstep⟩ |
      ⟨op, rest, howner, hrun, hstep⟩ | hstep
    · rw [hstep]
      have hkeeps : OwnerKeeps op client next := owner_keeps hrun
      have halive : client.alive = true := (hsound.known howner).1
      have howner' := h.owner
      rw [howner] at howner'
      rcases barred_cons howner' h.mHaveOptions (h.mInitialized halive) hrun with
        ⟨hspawn, hcreate, hfinish, hrest⟩
      refine ⟨?_, ?_, hkeeps.joined hspawn h.reader, hrest, ?_, ?_⟩
      · by_contra hoptions
        have hbefore := hkeeps.optioned hfinish (by simpa using hoptions)
        rw [h.mHaveOptions] at hbefore
        cases hbefore
      · intro _
        by_contra hinitialized
        have hbefore := hkeeps.initialized hfinish (by simpa using hinitialized)
        rw [h.mInitialized halive] at hbefore
        cases hbefore
      · exact (hkeeps.created hcreate).trans h.created
      · exact hkeeps.receiver.trans h.receiver
    · rw [hstep]
      refine ⟨h.mHaveOptions, h.mInitialized, h.reader, ?_, h.created, h.receiver⟩
      dsimp only
      rcases hsound.onThrow with hnil | hdestroy
      · rw [hnil]
        rfl
      · rw [hdestroy]
        rfl
    · rw [hstep]
      exact h
  | reader collected =>
    show Barred created receiver (client.readerStep lib mAddPacketFunction collected)
    have hsame : client.readerStep lib mAddPacketFunction collected = client := by
      simp only [ClientThreads.readerStep, h.reader]
    rw [hsame]
    exact h

end Barred

/-- **A failed `connect` is final.**  When no call is in progress and the client has no
    options, which is how a `connect` that libslink has refused leaves it, then whatever is
    called afterwards, the client is never initialized again, `start` starts no reader,
    `connect` asks libslink for no handle and the callback gets nothing. -/
theorem failed_connect_final {σ : Type} (lib : BoundedLibMseed)
    (mAddPacketFunction : σ → DataPacket → σ × Option StdException) (options : ClientOptions)
    (receiver : σ) (past later : List ClientStep)
    (hreturned : ((seedLinkClient lib mAddPacketFunction).after
      (construct options receiver) past).owner = [])
    (hfailed : ((seedLinkClient lib mAddPacketFunction).after
      (construct options receiver) past).mHaveOptions = false) :
    let client := (seedLinkClient lib mAddPacketFunction).after (construct options receiver) past
    let now := (seedLinkClient lib mAddPacketFunction).after client later
    (now.alive = true → now.mInitialized = false) ∧ now.reader = .none ∧
      now.created = client.created ∧ now.receiver = client.receiver := by
  intro client now
  have hsound : Sound client := sound_after options receiver past
  have hbarred : Barred client.created client.receiver client := by
    refine ⟨hfailed, ?_, hsound.memory.optioned hfailed, ?_, rfl, rfl⟩
    · intro halive
      rcases hsound.alive halive with ⟨known, hknown, hcheck⟩
      rw [hreturned] at hcheck
      have hidle : Known.idle.Describes client := describes_idle hknown hcheck
      by_contra hinitialized
      have hoptions := (hidle.trusted rfl (by simpa using hinitialized)).2
      rw [hfailed] at hoptions
      cases hoptions
    · rw [hreturned]
      rfl
  have hnow := (seedLinkClient lib mAddPacketFunction).after_invariant
    (fun client step (h : Sound client ∧ Barred _ _ client) =>
      ⟨sound_step client step h.1, Barred.step h.1 h.2 step⟩) ⟨hsound, hbarred⟩ later
  rcases hnow.2 with ⟨-, hinitialized, hreader, -, hcreated, hreceived⟩
  exact ⟨hinitialized, hreader, hcreated, hreceived⟩

/-- The owner constructs a client, and `connect` gets no new handle. -/
def forkFailed : List ClientStep :=
  List.replicate 12 (.owner true) ++ [.call .connect] ++ List.replicate 10 (.owner true) ++
    [.owner false]

theorem fork_failed_connect_final :
    let client := (seedLinkClient forkLibMseed keepPacket).after
      (construct ClientOptions.new []) forkFailed
    let now := (seedLinkClient forkLibMseed keepPacket).after client
      [.call .connect, .owner true, .call .start, .owner true]
    (now.alive = true → now.mInitialized = false) ∧ now.reader = .none ∧
      now.created = client.created ∧ now.receiver = client.receiver :=
  failed_connect_final forkLibMseed keepPacket ClientOptions.new [] forkFailed
    [.call .connect, .owner true, .call .start, .owner true] (by decide +kernel)
    (by decide +kernel)

end Us8.SEEDLink
