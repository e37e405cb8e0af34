/-
  Us8/SEEDLinkLifecycle.lean
  ==========================
  **The SEEDLink client from its constructor to its destructor** (`Client` and its
  `ClientImpl` in `broadcasts/dataPacket/seedLink/client.cpp`).

  Two threads share a handle of libslink: the owner of the client, who calls `start`,
  `stop`, `connect` and in the end the destructor, and the reader, which `start` makes and
  `stop` joins.  The owner frees the handle, with a new one to follow in `connect`; the reader
  uses it whenever it looks for data.  Nothing protects it but the order of the calls'
  steps.

  A call is a list of small steps, and the reader may move between any two of them.  The
  loop of the reader is the one of `packetToCallback` taken apart (`readerSteps_turn`).
-/
import Us8.SEEDLinkClient

namespace Us8.SEEDLink

/-! ### The calls -/

inductive OwnerOp where
  | terminate
  | setRunning (running : Bool)
  | join
  | requireInitialized
  | requireOptions
  | clearTerminate
  | spawn
  | forgetOptions
  | hangUp
  | saveState
  | free
  | forget
  | forgetInitialized
  | create
  | setServerAddress
  | takeStateFile (options : ClientOptions)
  | addStream (selector : StreamSelector)
  | setAllStations
  | setModes
  | finish (options : ClientOptions)
  | destroyed

inductive ClientCall where
  | start
  | stop
  | connect
  | destroy
deriving DecidableEq

def stopOps : List OwnerOp := [.terminate, .setRunning false, .join]

def disconnectOps : List OwnerOp := [.hangUp, .saveState, .free, .forget]

def startOps : List OwnerOp :=
  [.requireInitialized] ++ stopOps ++
    [.requireInitialized, .setRunning true, .clearTerminate, .spawn]

def initializeOps (options : ClientOptions) : List OwnerOp :=
  [.forgetOptions] ++ disconnectOps ++
    [.forgetInitialized, .create, .setServerAddress, .takeStateFile options] ++
    (options.mSelectors.map .addStream ++ [.setAllStations, .setModes, .finish options])

def connectOps (options : ClientOptions) : List OwnerOp :=
  [.requireOptions] ++ stopOps ++ initializeOps options

def destroyOps : List OwnerOp := stopOps ++ disconnectOps ++ [.destroyed]

def ClientCall.ops (mOptions : ClientOptions) : ClientCall → List OwnerOp
  | .start => startOps
  | .stop => stopOps
  | .connect => connectOps mOptions
  | .destroy => destroyOps

/-! ### The threads -/

/-- Where `packetToCallback` stands; `none` is a thread that is not joinable. -/
inductive ReaderPc where
  | none
  | entering
  | recovering
  | loopTop
  | collect
  | callback (packets : List DataPacket)
  | saving
  | leaving
  | ended

@[simp] def ReaderPc.running : ReaderPc → Bool
  | .none => false
  | .ended => false
  | _ => true

/-- The client and its threads.  Handles are numbered in the order they are created;
    `created` and `freed` record them, and `misused` that a null or freed handle was used or
    a thread made in place of one that had not been joined.  `onThrow` is what happens when
    the call in progress throws: the constructor of `Client` then destroys the
    implementation.  No step reads `misused` or `called`. -/
structure ClientThreads (σ : Type) where
  mSEEDLinkConnection : Option Nat := none
  mOptions : ClientOptions := ClientOptions.new
  mKeepRunning : Bool := true
  mConnected : Bool := false
  mStateFileUpdateInterval : Int := 100
  mHaveOptions : Bool := false
  mUseStateFile : Bool := false
  mInitialized : Bool := false
  hasStreams : Bool := false
  owner : List OwnerOp
  onThrow : List OwnerOp := []
  reader : ReaderPc := .none
  updateStateFile : Int := 1
  receiver : σ
  alive : Bool := true
  created : Nat := 0
  freed : List Nat := []
  misused : Bool := false
  called : Option ClientCall := none

inductive Outcome (σ : Type) where
  | next (client : ClientThreads σ)
  | throws
  | blocked

namespace ClientThreads

variable {σ : Type}

/-- The constructor of `Client` about to initialize. -/
def construct (options : ClientOptions) (receiver : σ) : ClientThreads σ where
  owner := initializeOps options
  onThrow := destroyOps
  receiver := receiver

def Live (client : ClientThreads σ) (handle : Nat) : Prop :=
  handle < client.created ∧ handle ∉ client.freed

instance (client : ClientThreads σ) (handle : Nat) : Decidable (client.Live handle) :=
  inferInstanceAs (Decidable (_ ∧ _))

/-- The handle that is held can be used. -/
def holding (client : ClientThreads σ) : Bool :=
  match client.mSEEDLinkConnection with
  | some handle => decide (client.Live handle)
  | none => false

def use (client : ClientThreads σ) : ClientThreads σ :=
  { client with misused := client.misused || !client.holding }

/-- A use that is guarded by a test for null. -/
def useIfAny (client : ClientThreads σ) : ClientThreads σ :=
  if client.mSEEDLinkConnection.isSome then client.use else client

def freeIfAny (client : ClientThreads σ) : ClientThreads σ :=
  match client.mSEEDLinkConnection with
  | some handle => { client.use with freed := handle :: client.freed }
  | none => client

end ClientThreads

open ClientThreads

/-- A step of the owner; `ok` is whether libslink does what it is asked for. -/
def OwnerOp.run {σ : Type} (client : ClientThreads σ) (ok : Bool) : OwnerOp → Outcome σ
  | .terminate => .next (if client.mKeepRunning then client.useIfAny else client)
  | .setRunning running => .next { client with mKeepRunning := running }
  | .join => if client.reader.running then .blocked else .next { client with reader := .none }
  | .requireInitialized => if client.mInitialized then .next client else .throws
  | .requireOptions => if client.mHaveOptions then .next client else .throws
  | .clearTerminate => .next client.use
  | .spawn =>
      .next
        { client with
          misused := client.misused || match client.reader with | .none => false | _ => true
          reader := .entering
          updateStateFile := 1 }
  | .forgetOptions => .next { client with mHaveOptions := false }
  | .hangUp => .next client.useIfAny
  | .saveState => .next (if client.mUseStateFile then client.useIfAny else client)
  | .free => .next client.freeIfAny
  | .forget => .next { client with mSEEDLinkConnection := none }
  | .forgetInitialized => .next { client with mInitialized := false }
  | .create =>
      if ok then
        .next
          { client with
            mSEEDLinkConnection := some client.created
            created := client.created + 1
            hasStreams := false }
      else .throws
  | .setServerAddress => if ok then .next client.use else .throws
  | .takeStateFile options =>
      if options.haveStateFile then
        .next
          { client with
            mStateFileUpdateInterval := options.getStateFileUpdateInterval.toNat
            mUseStateFile := true }
      else .next client
  | .addStream _ => .next { client.use with hasStreams := client.hasStreams || ok }
  | .setAllStations =>
      if client.hasStreams then .next client.use
      else if ok then .next client.use
      else .throws
  | .setModes => .next client.use
  | .finish options =>
      .next
        { client with
          mOptions := options
          mInitialized := true
          mHaveOptions := true
          onThrow := [] }
  | .destroyed => .next { client with alive := false }

inductive ClientStep where
  | call (call : ClientCall)
  | owner (ok : Bool)
  | reader (collected : Collected)

namespace ClientThreads

variable {σ : Type}

/-- A call can be made when the last one has returned, and the client exists. -/
def beginCall (client : ClientThreads σ) (call : ClientCall) : ClientThreads σ :=
  match client.owner, client.alive with
  | [], true => { client with owner := call.ops client.mOptions, called := some call }
  | _, _ => client

def ownerStep (client : ClientThreads σ) (ok : Bool) : ClientThreads σ :=
  match client.owner with
  | [] => client
  | op :: rest =>
      match op.run client ok with
      | .next next => { next with owner := rest }
      | .throws => { client with owner := client.onThrow, onThrow := [] }
      | .blocked => client

/-- The packets that a payload is unpacked to; none if that throws. -/
def unpackedOrNone (lib : BoundedLibMseed) (seedLinkBuffer : List UInt8)
    (payloadLength : UInt32) : List DataPacket :=
  match lib.unpacked seedLinkBuffer payloadLength with
  | .ok packets => packets
  | .error _ => []

def saveIfDue (client : ClientThreads σ) : ClientThreads σ :=
  if client.mUseStateFile then
    let written :=
      if client.mStateFileUpdateInterval < client.updateStateFile then
        { client.use with updateStateFile := 0 }
      else client
    { written with updateStateFile := written.updateStateFile + 1 }
  else client

def readerStep (lib : BoundedLibMseed)
    (mAddPacketFunction : σ → DataPacket → σ × Option StdException)
    (client : ClientThreads σ) (collected : Collected) : ClientThreads σ :=
  match client.reader with
  | .none => client
  | .entering => { client with mConnected := true, reader := .recovering }
  | .recovering =>
      { (if client.mUseStateFile then client.use else client) with reader := .loopTop }
  | .loopTop => { client with reader := if client.mKeepRunning then .collect else .leaving }
  | .collect =>
      let client := client.use
      match collected with
      | .slPacket seedLinkPacketInfo seedLinkBuffer =>
          if seedLinkPacketInfo.isData then
            { client with
              reader := .callback
                (unpackedOrNone lib seedLinkBuffer seedLinkPacketInfo.payloadlength) }
          else { client with reader := .loopTop }
      | .slTerminate => { client with mConnected := false, reader := .leaving }
      | .slTooLarge => { client with reader := .loopTop }
      | .slNoPacket => { client with reader := .loopTop }
      | .unhandled _ => { client with reader := .loopTop }
  | .callback [] => { client with reader := .saving }
  | .callback (packet :: packets) =>
      { client with
        receiver := (mAddPacketFunction client.receiver packet).1
        reader := .callback packets }
  | .saving => { client.saveIfDue with reader := .loopTop }
  | .leaving => { client with mConnected := false, reader := .ended }
  | .ended => client

end ClientThreads

def seedLinkClient {σ : Type} (lib : BoundedLibMseed)
    (mAddPacketFunction : σ → DataPacket → σ × Option StdException) :
    Machine (ClientThreads σ) ClientStep Unit where
  step client
    | .call call => (client.beginCall call, ())
    | .owner ok => (client.ownerStep ok, ())
    | .reader collected => (client.readerStep lib mAddPacketFunction collected, ())

/-! ### The reader left to itself -/

section Turns

variable {σ : Type}

theorem holding_iff {client : ClientThreads σ} : client.holding = true ↔
    ∃ handle, client.mSEEDLinkConnection = some handle ∧ client.Live handle := by
  unfold holding
  cases client.mSEEDLinkConnection with
  | none => simp
  | some handle => simp

/-- Using a handle that can be used changes nothing. -/
theorem use_of_holding {client : ClientThreads σ} (h : client.holding = true) :
    client.use = client := by
  unfold use
  rw [h, Bool.not_true, Bool.or_false]

variable (lib : BoundedLibMseed)
  (mAddPacketFunction : σ → DataPacket → σ × Option StdException)

/-- The reader takes so many steps while the owner waits. -/
def readerSteps (client : ClientThreads σ) (collected : Collected) : Nat → ClientThreads σ
  | 0 => client
  | n + 1 => readerSteps (client.readerStep lib mAddPacketFunction collected) collected n

theorem readerSteps_eq_after (client : ClientThreads σ) (collected : Collected) (n : Nat) :
    readerSteps lib mAddPacketFunction client collected n =
      (seedLinkClient lib mAddPacketFunction).after client
        (List.replicate n (.reader collected)) := by
  induction n generalizing client with
  | zero => rfl
  | succ n ih => exact ih _

/-- What the polling loop sees of the client. -/
def polling (client : ClientThreads σ) : Polling σ where
  inLoop := client.reader.running
  mConnected := client.mConnected
  updateStateFile := client.updateStateFile
  receiver := client.receiver

theorem readerSteps_callback (packets : List DataPacket) (client : ClientThreads σ)
    (collected : Collected) (hreader : client.reader = .callback packets) :
    readerSteps lib mAddPacketFunction client collected (packets.length + 1) =
      { client with
        receiver := addPackets mAddPacketFunction client.receiver packets
        reader := .saving } := by
  induction packets generalizing client with
  | nil => simp [readerSteps, readerStep, hreader, addPackets]
  | cons packet packets ih =>
    rw [List.length_cons, readerSteps]
    have hstep : client.readerStep lib mAddPacketFunction collected =
        { client with
          receiver := (mAddPacketFunction client.receiver packet).1
          reader := .callback packets } := by
      simp only [readerStep, hreader]
    rw [hstep, ih _ rfl]
    rfl

def clientImpl (client : ClientThreads σ) : ClientImpl where
  mStateFileUpdateInterval := client.mStateFileUpdateInterval
  mUseStateFile := client.mUseStateFile

theorem saveIfDue_updateState {client : ClientThreads σ} (hheld : client.holding = true)
    (polled : Polling σ) (hsame : polled.updateStateFile = client.updateStateFile) :
    client.saveIfDue =
      { client with
        updateStateFile := (polled.updateState (clientImpl client)).updateStateFile } := by
  unfold saveIfDue Polling.updateState clientImpl
  rw [use_of_holding hheld, hsame]
  split_ifs
  · rfl
  · simp [hsame]
  · simp [hsame]

theorem Polling.updateState_eq (polling : Polling σ) (impl : ClientImpl) :
    polling.updateState impl =
      { polling with
        updateStateFile := (polling.updateState impl).updateStateFile
        saved := (polling.updateState impl).saved } := by
  unfold Polling.updateState
  split_ifs
  all_goals rfl

theorem addPackets_unpackedOrNone (receiver : σ) (seedLinkBuffer : List UInt8)
    (payloadLength : UInt32) :
    addPackets mAddPacketFunction receiver (unpackedOrNone lib seedLinkBuffer payloadLength) =
      handlePayload lib mAddPacketFunction receiver seedLinkBuffer payloadLength := by
  unfold unpackedOrNone handlePayload
  cases lib.unpacked seedLinkBuffer payloadLength with
  | ok packets => rfl
  | error exception => rfl

theorem readerSteps_add (client : ClientThreads σ) (collected : Collected) (m n : Nat) :
    readerSteps lib mAddPacketFunction client collected (m + n) =
      readerSteps lib mAddPacketFunction
        (readerSteps lib mAddPacketFunction client collected m) collected n := by
  rw [readerSteps_eq_after, readerSteps_eq_after, readerSteps_eq_after, List.replicate_add,
    Machine.after_append]

/-- **The threads refine the loop.**  From one look at `mKeepRunning` to the next the reader
    does a turn of `packetToCallback`, or ends when that leaves the loop. -/
theorem readerSteps_turn {client : ClientThreads σ} (hreader : client.reader = .loopTop)
    (hheld : client.holding = true) (collected : Collected) :
    ∃ n, polling (readerSteps lib mAddPacketFunction client collected n) =
        { (polling client).turn lib mAddPacketFunction (clientImpl client) client.mKeepRunning
            collected with handled := 0, saved := 0 } ∧
      ((readerSteps lib mAddPacketFunction client collected n).reader = .loopTop ∨
        (readerSteps lib mAddPacketFunction client collected n).reader = .ended) := by
  have hloop : (polling client).inLoop = true := by simp [polling, hreader]
  unfold Polling.turn
  rw [if_pos hloop]
  cases hkeep : client.mKeepRunning with
  | false =>
    refine ⟨2, ?_, Or.inr ?_⟩
    · simp [readerSteps, readerStep, hreader, hkeep, polling]
    · simp [readerSteps, readerStep, hreader, hkeep]
  | true =>
    have htop : client.readerStep lib mAddPacketFunction collected =
        { client with reader := .collect } := by
      simp [readerStep, hreader, hkeep]
    have huse : ({ client with reader := .collect } : ClientThreads σ).use =
        { client with reader := .collect } :=
      use_of_holding hheld
    have hagain (hlast : ({ client with reader := .collect } : ClientThreads σ).readerStep lib
        mAddPacketFunction collected = { client with reader := .loopTop }) :
        readerSteps lib mAddPacketFunction client collected 2 = client := by
      simp only [readerSteps]
      rw [htop, hlast, ← hreader]
    have hsame : polling client = { polling client with handled := 0, saved := 0 } := rfl
    cases collected with
    | slPacket seedLinkPacketInfo seedLinkBuffer =>
      cases hdata : seedLinkPacketInfo.isData with
      | false =>
        refine ⟨2, ?_⟩
        rw [hagain (by simp only [readerStep, huse, hdata]; rfl)]
        refine ⟨?_, Or.inl hreader⟩
        simp only [if_true, hdata]
        exact hsame
      | true =>
        let packets := unpackedOrNone lib seedLinkBuffer seedLinkPacketInfo.payloadlength
        have hcollected : readerSteps lib mAddPacketFunction client
            (.slPacket seedLinkPacketInfo seedLinkBuffer) 2 =
              { client with reader := .callback packets } := by
          simp only [readerSteps]
          rw [htop]
          simp only [readerStep, huse, hdata]
          rfl
        have hcalled := readerSteps_callback lib mAddPacketFunction packets
          { client with reader := .callback packets }
          (.slPacket seedLinkPacketInfo seedLinkBuffer) rfl
        refine ⟨2 + (packets.length + 1) + 1, ?_⟩
        rw [readerSteps_add, readerSteps_add, hcollected, hcalled]
        let saving : ClientThreads σ :=
          { client with
            receiver := addPackets mAddPacketFunction client.receiver packets
            reader := .saving }
        let handled : Polling σ :=
          { polling client with
            receiver := handlePayload lib mAddPacketFunction client.receiver seedLinkBuffer
              seedLinkPacketInfo.payloadlength
            handled := 1 }
        have hreceiver : saving.receiver = handled.receiver :=
          addPackets_unpackedOrNone lib mAddPacketFunction client.receiver seedLinkBuffer
            seedLinkPacketInfo.payloadlength
        have hsaved : saving.saveIfDue =
            { saving with
              updateStateFile := (handled.updateState (clientImpl client)).updateStateFile } :=
          @saveIfDue_updateState σ saving hheld handled rfl
        refine ⟨?_, Or.inl rfl⟩
        show polling { saving.saveIfDue with reader := .loopTop } = _
        rw [hsaved]
        simp only [if_true, hdata]
        show _ = { handled.updateState (clientImpl client) with handled := 0, saved := 0 }
        rw [handled.updateState_eq (clientImpl client)]
        simpa [polling, handled, saving, hreader] using hreceiver
    | slTerminate =>
      refine ⟨3, ?_, Or.inr ?_⟩
      · simp only [readerSteps]
        rw [htop]
        simp only [readerStep, huse]
        rfl
      · simp only [readerSteps]
        rw [htop]
        simp only [readerStep, huse]
    | slTooLarge =>
      refine ⟨2, ?_⟩
      rw [hagain (by simp only [readerStep, huse])]
      exact ⟨hsame, Or.inl hreader⟩
    | slNoPacket =>
      refine ⟨2, ?_⟩
      rw [hagain (by simp only [readerStep, huse])]
      exact ⟨hsame, Or.inl hreader⟩
    | unhandled returnValue =>
      refine ⟨2, ?_⟩
      rw [hagain (by simp only [readerStep, huse])]
      exact ⟨hsame, Or.inl hreader⟩

end Turns

end Us8.SEEDLink
