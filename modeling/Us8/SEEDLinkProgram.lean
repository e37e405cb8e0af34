/-
  Us8/SEEDLinkProgram.lean
  ========================
  **The SEEDLink publisher from its start to its exit** (`Process::Process`, `start`, `stop`,
  `~Process` and `main` in `broadcasts/dataPacket/seedLink/publisher.cpp`).

  Three threads share the members of `Process`: the main thread, the publisher, which `start` makes
  and `stop` joins, and the reader of the SEEDLink client, which pushes to the queue.  `stop`
  leaves the client as it is.  Its reader goes on after the publisher has ended, and is joined
  only when the members are destroyed and the client's turn has come.  Members are destroyed
  in the reverse of their order of declaration, so it is that order that keeps the queue there
  for as long as somebody may push to it.

  `main` is a list of steps like a call of the client; waiting for a signal is not a step, as
  any time may pass between two of them.  The constructor is entered with the publisher's
  socket made, where it makes the client.
-/
import Us8.SEEDLinkHandles
import Us8.SEEDLinkPublisher

namespace Us8.SEEDLink

/-! ### Members and what the threads use of them -/

/-- In the order of their declaration. -/
inductive Member where
  | mOptions
  | mAcquisitionThread
  | mPublisherThread
  | mPacketPublisher
  | mQueue
  | mSEEDLinkClient
  | mMetricsExporter
  | mAddPacketsFromAcquisitionCallback
  | mLogPublishingPerformanceInterval
  | mKeepRunning
  | mStopRequested
deriving DecidableEq

def members : List Member :=
  [.mOptions, .mAcquisitionThread, .mPublisherThread, .mPacketPublisher, .mQueue,
    .mSEEDLinkClient, .mMetricsExporter, .mAddPacketsFromAcquisitionCallback,
    .mLogPublishingPerformanceInterval, .mKeepRunning, .mStopRequested]

/-- What `sendPacketsViaZeroMQ` uses. -/
def publisherUses : List Member :=
  [.mOptions, .mPacketPublisher, .mQueue, .mLogPublishingPerformanceInterval, .mKeepRunning]

/-! ### The program -/

inductive MainOp where
  | constructed
  | setRunning (running : Bool)
  | join
  | spawn
  | startClient
  | destroy (member : Member)

/-- The members of `Process` that are destroyed. -/
def destroyMembersOps : List MainOp := members.reverse.map .destroy

def processStopOps : List MainOp := [.setRunning false, .join]

def processStartOps : List MainOp := processStopOps ++ [.setRunning true, .spawn, .startClient]

def processDestroyOps : List MainOp := processStopOps ++ destroyMembersOps

def mainOps : List MainOp :=
  [.constructed] ++ processStartOps ++ processStopOps ++ processDestroyOps

/-- The receiver of the client is what the three threads share.  `joinable` is whether there
    is a publisher thread, and `misused` records that a thread used a member that had been
    destroyed or lost a thread that was not joined.  No step reads `misused`. -/
structure Program where
  client : ClientThreads Process
  main : List MainOp := mainOps
  joinable : Bool := false
  destroyed : List Member := []
  misused : Bool := false

structure MainInput where
  ok : Bool
  nowMuSeconds : Int64

inductive ProgramStep where
  | main (input : MainInput)
  | reader (collected : Collected)
  | publish (input : PublishInput)

def PublisherPc.hasLeft : PublisherPc → Bool
  | .left => true
  | _ => false

/-- `mAddPacketsFromAcquisitionCallback`. -/
def acquisitionCallback (process : Process) (packet : DataPacket) :
    Process × Option StdException :=
  match process.addPacketsFromAcquisitionCallback packet with
  | .ok next => (next, none)
  | .error e => (process, some e)

namespace Program

/-- The client is about to be made. -/
def enter (options : ClientOptions) (mLogPublishingPerformanceInterval : Int64)
    (capacity : Nat) : Program where
  client := .construct options
    (Process.start mLogPublishingPerformanceInterval (.empty capacity) 0)

def process (program : Program) : Process := program.client.receiver

def withProcess (program : Program) (process : Process) : Program :=
  { program with client := { program.client with receiver := process } }

/-- A step of the main thread outside the client's functions.  What `start` throws ends the
    program like a signal, and what the constructor throws leaves only members behind. -/
def runMain (program : Program) (nowMuSeconds : Int64) (rest : List MainOp) : MainOp → Program
  | .constructed =>
      { program with main := if program.client.alive then rest else destroyMembersOps }
  | .setRunning running =>
      { program.withProcess { program.process with mKeepRunning := running } with main := rest }
  | .join =>
      if program.joinable then
        if program.process.publisher.hasLeft then
          { program with joinable := false, main := rest }
        else program
      else { program with main := rest }
  | .spawn =>
      let started := Process.start program.process.mLogPublishingPerformanceInterval
        program.process.mQueue nowMuSeconds
      { program.withProcess { started with mKeepRunning := program.process.mKeepRunning } with
        main := rest
        joinable := true
        misused := program.misused || program.joinable }
  | .startClient =>
      if program.client.mInitialized then
        { program with client := program.client.beginCall .start, main := rest }
      else { program with main := processDestroyOps }
  | .destroy .mSEEDLinkClient =>
      if program.client.alive then
        { program with client := program.client.beginCall .destroy }
      else { program with destroyed := .mSEEDLinkClient :: program.destroyed, main := rest }
  | .destroy member =>
      { program with
        destroyed := member :: program.destroyed
        main := rest
        misused := program.misused || (member == .mPublisherThread && program.joinable) }

/-- While a function of the client runs, its steps are those of the main thread. -/
def mainStep (program : Program) (input : MainInput) : Program :=
  match program.client.owner with
  | _ :: _ => { program with client := program.client.ownerStep input.ok }
  | [] =>
      match program.main with
      | [] => program
      | op :: rest => program.runMain input.nowMuSeconds rest op

/-- The reader is about to push to the queue. -/
def pushes (program : Program) : Bool :=
  match program.client.reader with
  | .callback (_ :: _) => true
  | _ => false

def readerStep (lib : BoundedLibMseed) (program : Program) (collected : Collected) : Program :=
  { program with
    client := program.client.readerStep lib acquisitionCallback collected
    misused := program.misused || (program.pushes && decide (.mQueue ∈ program.destroyed)) }

def publisherStep (program : Program) (input : PublishInput) : Program :=
  if program.joinable && !program.process.publisher.hasLeft then
    { program.withProcess (program.process.sendPacketsViaZeroMQ input) with
      misused := program.misused ||
        publisherUses.any fun member => decide (member ∈ program.destroyed) }
  else program

def act (lib : BoundedLibMseed) (program : Program) : ProgramStep → Program
  | .main input => program.mainStep input
  | .reader collected => program.readerStep lib collected
  | .publish input => program.publisherStep input

end Program

def seedLinkProgram (lib : BoundedLibMseed) : Machine Program ProgramStep Unit where
  step program step := (program.act lib step, ())

/-! ### What the main thread knows -/

/-- `joined`: there is no publisher thread.  `gone`: the client has been destroyed.  `intact`:
    nothing has. -/
structure Progress where
  joined : Bool
  gone : Bool
  intact : Bool
deriving DecidableEq

/-- What a step needs to be known, and what is known after it. -/
def MainOp.next (known : Progress) : MainOp → Option Progress
  | .constructed => if known.joined && known.intact then some known else none
  | .setRunning _ => some known
  | .join => some { known with joined := true }
  | .spawn => if known.joined && known.intact then some { known with joined := false } else none
  | .startClient => if known.intact then some known else none
  | .destroy .mSEEDLinkClient => some { known with gone := true, intact := false }
  | .destroy member =>
      if (member = .mQueue → known.gone = true) ∧
          (member ∈ .mPublisherThread :: publisherUses → known.joined = true) then
        some { known with intact := false }
      else none

/-- At the end there are no threads left. -/
def mainCheck (known : Progress) : List MainOp → Bool
  | [] => known.joined && known.gone
  | op :: rest =>
      match op.next known with
      | some known => mainCheck known rest
      | none => false

theorem check_mainOps : mainCheck ⟨true, false, true⟩ mainOps = true := by decide

theorem check_processDestroyOps (joined gone intact : Bool) :
    mainCheck ⟨joined, gone, intact⟩ processDestroyOps = true := by
  cases joined <;> cases gone <;> cases intact <;> decide

theorem check_destroyMembersOps (gone intact : Bool) :
    mainCheck ⟨true, gone, intact⟩ destroyMembersOps = true := by
  cases gone <;> cases intact <;> decide

def MainOp.destroys : MainOp → Option Member
  | .destroy member => some member
  | _ => none

theorem destroys_mainOps : mainOps.filterMap MainOp.destroys = members.reverse := rfl

theorem destroys_processDestroyOps :
    processDestroyOps.filterMap MainOp.destroys = members.reverse := rfl

theorem destroys_destroyMembersOps :
    destroyMembersOps.filterMap MainOp.destroys = members.reverse := rfl

/-! ### Every run -/

structure Progress.Describes (known : Progress) (program : Program) : Prop where
  joined : known.joined = true → program.joinable = false
  gone : known.gone = true → program.client.alive = false
  intact : known.intact = true → program.destroyed = []

/-- No thread is left to use what has been destroyed, and the main thread is on its way
    through the members. -/
structure Secure (program : Program) : Prop where
  sound : Sound program.client
  known : ∃ known : Progress, known.Describes program ∧ mainCheck known program.main = true
  notMisused : program.misused = false
  queue : .mQueue ∈ program.destroyed → program.client.alive = false
  publisher : ∀ member ∈ publisherUses, member ∈ program.destroyed → program.joinable = false
  inOrder : program.destroyed.reverse ++ program.main.filterMap MainOp.destroys = members.reverse

section Runs

variable {lib : BoundedLibMseed} {program : Program}

theorem Sound.with_receiver {client : ClientThreads Process} (h : Sound client)
    (receiver : Process) : Sound { client with receiver := receiver } := by
  refine ⟨?_, ?_, h.onThrow, h.gone⟩
  · exact h.memory.of_same ⟨rfl, rfl, rfl, rfl⟩ id h.memory.connected h.memory.optioned
  · intro halive
    rcases h.alive halive with ⟨known, hknown, hcheck⟩
    exact ⟨known, hknown.of_same ⟨rfl, rfl, rfl, rfl⟩ id rfl rfl, hcheck⟩

theorem secure_enter (options : ClientOptions) (mLogPublishingPerformanceInterval : Int64)
    (capacity : Nat) :
    Secure (.enter options mLogPublishingPerformanceInterval capacity) where
  sound := sound_construct options _
  known := by
    refine ⟨⟨true, false, true⟩, ⟨fun _ => rfl, ?_, fun _ => rfl⟩, check_mainOps⟩
    intro hgone
    cases hgone
  notMisused := rfl
  queue := by
    intro hmem
    cases hmem
  publisher := by
    intro member _ hmem
    cases hmem
  inOrder := destroys_mainOps

theorem mainCheck_cons {known : Progress} {op : MainOp} {rest : List MainOp}
    (h : mainCheck known (op :: rest) = true) :
    ∃ next, op.next known = some next ∧ mainCheck next rest = true := by
  rw [mainCheck] at h
  cases hnext : op.next known with
  | none =>
    rw [hnext] at h
    cases h
  | some next =>
    rw [hnext] at h
    exact ⟨next, rfl, h⟩

/-- What is known where the main thread is about to take a step. -/
theorem Secure.known_cons (h : Secure program) {op : MainOp} {rest : List MainOp}
    (hmain : program.main = op :: rest) :
    ∃ known next : Progress, known.Describes program ∧ op.next known = some next ∧
      mainCheck next rest = true ∧
      program.destroyed.reverse ++ (op.destroys.toList ++ rest.filterMap MainOp.destroys) =
        members.reverse := by
  rcases h.known with ⟨known, hknown, hcheck⟩
  have horder := h.inOrder
  rw [hmain] at hcheck horder
  rcases mainCheck_cons hcheck with ⟨next, hnext, hrest⟩
  refine ⟨known, next, hknown, hnext, hrest, ?_⟩
  cases hdestroys : op.destroys with
  | none => simpa [List.filterMap_cons, hdestroys] using horder
  | some member => simpa [List.filterMap_cons, hdestroys] using horder

/-- A function of the client takes a step. -/
theorem Secure.owner (h : Secure program) {op : OwnerOp} {rest : List OwnerOp}
    (howner : program.client.owner = op :: rest) (ok : Bool) :
    Secure { program with client := program.client.ownerStep ok } := by
  have halive : program.client.alive = true := (h.sound.known howner).1
  rcases h.known with ⟨known, hknown, hcheck⟩
  refine ⟨h.sound.ownerStep ok, ⟨known, ⟨hknown.joined, ?_, hknown.intact⟩, hcheck⟩,
    h.notMisused, ?_, h.publisher, h.inOrder⟩
  · intro hgone
    have hdead := hknown.gone hgone
    rw [halive] at hdead
    cases hdead
  · intro hmem
    have hdead := h.queue hmem
    rw [halive] at hdead
    cases hdead

theorem Secure.reader (h : Secure program) (collected : Collected) :
    Secure (program.readerStep lib collected) := by
  have hkeeps : ReaderKeeps program.client
      (program.client.readerStep lib acquisitionCallback collected) :=
    readerStep_keeps h.sound.memory collected
  have hunused : (program.pushes && decide (.mQueue ∈ program.destroyed)) = false := by
    by_cases hmem : .mQueue ∈ program.destroyed
    · have hnone := (h.sound.gone (h.queue hmem)).2.1
      simp only [Program.pushes, hnone, Bool.false_and]
    · simp only [hmem, decide_false, Bool.and_false]
  rcases h.known with ⟨known, hknown, hcheck⟩
  refine ⟨h.sound.readerStep collected, ⟨known, ⟨hknown.joined, ?_, hknown.intact⟩, hcheck⟩,
    ?_, ?_, h.publisher, h.inOrder⟩
  · intro hgone
    exact hkeeps.alive.trans (hknown.gone hgone)
  · simp only [Program.readerStep, h.notMisused, hunused, Bool.or_false]
  · intro hmem
    exact hkeeps.alive.trans (h.queue hmem)

theorem Secure.publish (h : Secure program) (input : PublishInput) :
    Secure (program.publisherStep input) := by
  unfold Program.publisherStep
  split_ifs with hruns
  · have hjoinable : program.joinable = true := by
      rw [Bool.and_eq_true] at hruns
      exact hruns.1
    have hunused :
        (publisherUses.any fun member => decide (member ∈ program.destroyed)) = false := by
      rw [List.any_eq_false]
      intro member huses hmem
      have hnone := h.publisher member huses (of_decide_eq_true hmem)
      rw [hjoinable] at hnone
      cases hnone
    rcases h.known with ⟨known, hknown, hcheck⟩
    refine ⟨h.sound.with_receiver _, ⟨known, ⟨hknown.joined, hknown.gone, hknown.intact⟩, hcheck⟩,
      ?_, h.queue, h.publisher, h.inOrder⟩
    simp only [h.notMisused, hunused, Bool.or_false]
  · exact h

/-! The steps of the main thread. -/

theorem alive_beginCall (client : ClientThreads Process) (call : ClientCall) :
    (client.beginCall call).alive = client.alive := by
  rcases beginCall_cases client call with ⟨-, -, hbegun⟩ | hsame
  · rw [hbegun]
  · rw [hsame]

theorem Secure.constructed (h : Secure program) {rest : List MainOp}
    (hmain : program.main = .constructed :: rest) (nowMuSeconds : Int64) :
    Secure (program.runMain nowMuSeconds rest .constructed) := by
  rcases h.known_cons hmain with ⟨known, next, hknown, hnext, hrest, horder⟩
  simp only [MainOp.next] at hnext
  split_ifs at hnext with hguard
  cases hnext
  rw [Bool.and_eq_true] at hguard
  rcases hguard with ⟨hjoined, hintact⟩
  simp only [Program.runMain]
  split_ifs with halive
  · exact ⟨h.sound, ⟨known, ⟨hknown.joined, hknown.gone, hknown.intact⟩, hrest⟩, h.notMisused,
      h.queue, h.publisher, horder⟩
  · refine ⟨h.sound, ⟨⟨true, known.gone, known.intact⟩, ?_, check_destroyMembersOps _ _⟩,
      h.notMisused, h.queue, h.publisher, ?_⟩
    · exact ⟨fun _ => hknown.joined hjoined, hknown.gone, hknown.intact⟩
    · simp only [hknown.intact hintact, destroys_destroyMembersOps]
      rfl

theorem Secure.setRunning (h : Secure program) {running : Bool} {rest : List MainOp}
    (hmain : program.main = .setRunning running :: rest) (nowMuSeconds : Int64) :
    Secure (program.runMain nowMuSeconds rest (.setRunning running)) := by
  rcases h.known_cons hmain with ⟨known, next, hknown, hnext, hrest, horder⟩
  cases hnext
  exact ⟨h.sound.with_receiver _, ⟨known, ⟨hknown.joined, hknown.gone, hknown.intact⟩, hrest⟩,
    h.notMisused, h.queue, h.publisher, horder⟩

theorem Secure.join (h : Secure program) {rest : List MainOp}
    (hmain : program.main = .join :: rest) (nowMuSeconds : Int64) :
    Secure (program.runMain nowMuSeconds rest .join) := by
  rcases h.known_cons hmain with ⟨known, next, hknown, hnext, hrest, horder⟩
  cases hnext
  simp only [Program.runMain]
  split_ifs with hjoinable hleft
  · exact ⟨h.sound, ⟨⟨true, known.gone, known.intact⟩,
      ⟨fun _ => rfl, hknown.gone, hknown.intact⟩, hrest⟩, h.notMisused, h.queue,
      fun _ _ _ => rfl, horder⟩
  · exact h
  · have hnone : program.joinable = false := by simpa using hjoinable
    exact ⟨h.sound, ⟨⟨true, known.gone, known.intact⟩,
      ⟨fun _ => hnone, hknown.gone, hknown.intact⟩, hrest⟩, h.notMisused, h.queue, h.publisher,
      horder⟩

theorem Secure.spawn (h : Secure program) {rest : List MainOp}
    (hmain : program.main = .spawn :: rest) (nowMuSeconds : Int64) :
    Secure (program.runMain nowMuSeconds rest .spawn) := by
  rcases h.known_cons hmain with ⟨known, next, hknown, hnext, hrest, horder⟩
  simp only [MainOp.next] at hnext
  split_ifs at hnext with hguard
  cases hnext
  rw [Bool.and_eq_true] at hguard
  rcases hguard with ⟨hjoined, hintact⟩
  have hnone := hknown.joined hjoined
  have hdestroyed := hknown.intact hintact
  refine ⟨h.sound.with_receiver _, ⟨⟨false, known.gone, known.intact⟩,
    ⟨?_, hknown.gone, hknown.intact⟩, hrest⟩, ?_, h.queue, ?_, horder⟩
  · intro hfalse
    cases hfalse
  · simp only [Program.runMain, h.notMisused, hnone, Bool.or_false]
  · intro member _ hmem
    simp only [Program.runMain, Program.withProcess, hdestroyed, List.not_mem_nil] at hmem

theorem Secure.startClient (h : Secure program) {rest : List MainOp}
    (hmain : program.main = .startClient :: rest) (nowMuSeconds : Int64) :
    Secure (program.runMain nowMuSeconds rest .startClient) := by
  rcases h.known_cons hmain with ⟨known, next, hknown, hnext, hrest, horder⟩
  simp only [MainOp.next] at hnext
  split_ifs at hnext with hintact
  cases hnext
  simp only [Program.runMain]
  split_ifs with hinitialized
  · have halive := alive_beginCall program.client .start
    refine ⟨h.sound.beginCall .start, ⟨known, ⟨hknown.joined, ?_, hknown.intact⟩, hrest⟩,
      h.notMisused, ?_, h.publisher, horder⟩
    · intro hgone
      exact halive.trans (hknown.gone hgone)
    · intro hmem
      exact halive.trans (h.queue hmem)
  · refine ⟨h.sound, ⟨known, ⟨hknown.joined, hknown.gone, hknown.intact⟩,
      check_processDestroyOps _ _ _⟩, h.notMisused, h.queue, h.publisher, ?_⟩
    simp only [hknown.intact hintact, destroys_processDestroyOps]
    rfl

theorem Secure.destroyClient (h : Secure program) {rest : List MainOp}
    (hmain : program.main = .destroy .mSEEDLinkClient :: rest) (nowMuSeconds : Int64) :
    Secure (program.runMain nowMuSeconds rest (.destroy .mSEEDLinkClient)) := by
  simp only [Program.runMain]
  split_ifs with halive
  · rcases h.known with ⟨known, hknown, hcheck⟩
    have hsame := alive_beginCall program.client .destroy
    refine ⟨h.sound.beginCall .destroy, ⟨known, ⟨hknown.joined, ?_, hknown.intact⟩, hcheck⟩,
      h.notMisused, ?_, h.publisher, h.inOrder⟩
    · intro hgone
      exact hsame.trans (hknown.gone hgone)
    · intro hmem
      exact hsame.trans (h.queue hmem)
  · rcases h.known_cons hmain with ⟨known, next, hknown, hnext, hrest, horder⟩
    cases hnext
    have hdead : program.client.alive = false := by simpa using halive
    refine ⟨h.sound, ⟨⟨known.joined, true, false⟩, ⟨hknown.joined, fun _ => hdead, ?_⟩, hrest⟩,
      h.notMisused, fun _ => hdead, ?_, ?_⟩
    · intro hfalse
      cases hfalse
    · intro member huses hmem
      rcases List.mem_cons.mp hmem with rfl | hmem
      · simp [publisherUses] at huses
      · exact h.publisher member huses hmem
    · simpa [MainOp.destroys] using horder

/-! What happens to a member other than the client. -/

theorem next_destroy (known : Progress) {member : Member} (hother : member ≠ .mSEEDLinkClient) :
    (MainOp.destroy member).next known =
      if (member = .mQueue → known.gone = true) ∧
          (member ∈ .mPublisherThread :: publisherUses → known.joined = true) then
        some { known with intact := false }
      else none := by
  cases member
  case mSEEDLinkClient => exact absurd rfl hother
  all_goals rfl

theorem runMain_destroy (program : Program) (nowMuSeconds : Int64) (rest : List MainOp)
    {member : Member} (hother : member ≠ .mSEEDLinkClient) :
    program.runMain nowMuSeconds rest (.destroy member) =
      { program with
        destroyed := member :: program.destroyed
        main := rest
        misused := program.misused || (member == .mPublisherThread && program.joinable) } := by
  cases member
  case mSEEDLinkClient => exact absurd rfl hother
  all_goals rfl

theorem Secure.destroyOther (h : Secure program) {member : Member} {rest : List MainOp}
    (hmain : program.main = .destroy member :: rest) (hother : member ≠ .mSEEDLinkClient)
    (nowMuSeconds : Int64) : Secure (program.runMain nowMuSeconds rest (.destroy member)) := by
  rcases h.known_cons hmain with ⟨known, next, hknown, hnext, hrest, horder⟩
  rw [next_destroy known hother] at hnext
  split_ifs at hnext with hguard
  cases hnext
  rcases hguard with ⟨hqueue, hpublisher⟩
  rw [runMain_destroy program nowMuSeconds rest hother]
  refine ⟨h.sound, ⟨⟨known.joined, known.gone, false⟩, ⟨hknown.joined, hknown.gone, ?_⟩, hrest⟩,
    ?_, ?_, ?_, ?_⟩
  · intro hfalse
    cases hfalse
  · by_cases hthread : member = .mPublisherThread
    · have hnone := hknown.joined (hpublisher (by rw [hthread]; exact List.mem_cons_self))
      simp [h.notMisused, hnone]
    · simp [h.notMisused, hthread]
  · intro hmem
    rcases List.mem_cons.mp hmem with heq | hmem
    · exact hknown.gone (hqueue heq.symm)
    · exact h.queue hmem
  · intro other huses hmem
    rcases List.mem_cons.mp hmem with rfl | hmem
    · exact hknown.joined (hpublisher (List.mem_cons_of_mem _ huses))
    · exact h.publisher other huses hmem
  · simpa [MainOp.destroys] using horder

theorem Secure.mainStep (h : Secure program) (input : MainInput) :
    Secure (program.mainStep input) := by
  unfold Program.mainStep
  cases howner : program.client.owner with
  | cons op rest => exact h.owner howner input.ok
  | nil =>
    cases hmain : program.main with
    | nil => exact h
    | cons op rest =>
      cases op with
      | constructed => exact h.constructed hmain _
      | setRunning running => exact h.setRunning hmain _
      | join => exact h.join hmain _
      | spawn => exact h.spawn hmain _
      | startClient => exact h.startClient hmain _
      | destroy member =>
        by_cases hclient : member = .mSEEDLinkClient
        · subst hclient
          exact h.destroyClient hmain _
        · exact h.destroyOther hmain hclient _

theorem secure_step (program : Program) (step : ProgramStep) (h : Secure program) :
    Secure ((seedLinkProgram lib).step program step).1 := by
  cases step with
  | main input => exact h.mainStep input
  | reader collected => exact h.reader collected
  | publish input => exact h.publish input

end Runs

/-- What holds of the program whoever has taken how many steps. -/
structure SafeToExit (program : Program) : Prop where
  notMisused : program.misused = false
  handles : program.client.misused = false
  queue : .mQueue ∈ program.destroyed → program.client.reader = .none
  exited : program.main = [] →
    program.destroyed = members ∧ program.joinable = false ∧ program.client.alive = false ∧
      program.client.reader = .none

/-- **The SEEDLink publisher exits safely.**  However its three threads interleave, whatever
    libslink and the clock say, and whether the client can be made and started or not: no
    thread uses a member or a handle that is gone, none is lost, the queue is destroyed only
    when there is no reader, and when `main` is through, all members have been destroyed,
    each once, and there are no threads. -/
theorem program_exits_safely (lib : BoundedLibMseed) (options : ClientOptions)
    (mLogPublishingPerformanceInterval : Int64) (capacity : Nat) (steps : List ProgramStep) :
    SafeToExit ((seedLinkProgram lib).after
      (.enter options mLogPublishingPerformanceInterval capacity) steps) := by
  have h : Secure ((seedLinkProgram lib).after
      (.enter options mLogPublishingPerformanceInterval capacity) steps) :=
    (seedLinkProgram lib).after_invariant secure_step
      (secure_enter options mLogPublishingPerformanceInterval capacity) steps
  refine ⟨h.notMisused, h.sound.memory.notMisused, ?_, ?_⟩
  · intro hmem
    exact (h.sound.gone (h.queue hmem)).2.1
  · intro hdone
    rcases h.known with ⟨known, hknown, hcheck⟩
    have horder := h.inOrder
    rw [hdone] at hcheck horder
    simp only [mainCheck, Bool.and_eq_true] at hcheck
    have hgone := hknown.gone hcheck.2
    refine ⟨?_, hknown.joined hcheck.1, hgone, (h.sound.gone hgone).2.1⟩
    rw [List.filterMap_nil, List.append_nil] at horder
    exact List.reverse_injective horder

end Us8.SEEDLink
