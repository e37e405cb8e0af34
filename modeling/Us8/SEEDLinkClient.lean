/-
  Us8/SEEDLinkClient.lean
  =======================
  **The SEEDLink polling loop** (`ClientImpl::packetToCallback` in
  `broadcasts/dataPacket/seedLink/client.cpp`).

  Each turn of the loop asks libslink for what has come in.  The payload of a data packet
  is unpacked and its packets go to a callback; what either throws is caught and logged.
  Then the state file is written, if there is one and it is due.

  The answers of `sl_collect` are the inputs of a machine, together with what the turn
  reads from `mKeepRunning`; the callback's effect is on a state of its own, `receiver`.
  The counter that decides when the state file is due starts at one, has to exceed the
  interval, and is reset to zero just before it is raised: `Due` is what follows for runs
  of any length.
-/
import Us8.Machine
import Us8.MiniSeed
import Us8.StreamSelector

namespace Us8.SEEDLink

/-! ### Unpacking a payload -/

/-- libmseed with what it promises. -/
structure BoundedLibMseed extends LibMseed where
  bounded : toLibMseed.Bounded

/-- With more fuel than bytes the loop has an end. -/
def BoundedLibMseed.unpacked (lib : BoundedLibMseed) (seedLinkBuffer : List UInt8)
    (payloadLength : UInt32) : Except StdException (List DataPacket) :=
  let fuel := (bufferLength payloadLength.toInt32).toNat + 1
  (miniSEEDToDataPackets lib.toLibMseed seedLinkBuffer payloadLength.toInt32 fuel).get
    (isSome_miniSEEDToDataPackets lib.bounded (Nat.lt_succ_self _))

/-! ### What libslink provides -/

inductive PayloadFormat where
  | mseed2
  | mseed3
  | other
deriving DecidableEq

structure SLPacketInfo where
  payloadformat : PayloadFormat
  payloadlength : UInt32

/-- What `sl_collect` returns, with what it has written for a packet. -/
inductive Collected where
  | slPacket (seedLinkPacketInfo : SLPacketInfo) (seedLinkBuffer : List UInt8)
  | slTooLarge
  | slNoPacket
  | slTerminate
  | unhandled (returnValue : Int32)

def SLPacketInfo.isData (seedLinkPacketInfo : SLPacketInfo) : Bool :=
  seedLinkPacketInfo.payloadformat == .mseed2 || seedLinkPacketInfo.payloadformat == .mseed3

/-! ### The loop -/

structure ClientImpl where
  mStateFileUpdateInterval : Int := 100
  mUseStateFile : Bool := false

/-- What `initialize` takes from the options for the state file. -/
def ClientImpl.initializeStateFile (options : ClientOptions) : ClientImpl :=
  if options.haveStateFile then
    { mStateFileUpdateInterval := options.getStateFileUpdateInterval.toNat, mUseStateFile := true }
  else {}

/-- `handled` counts the data packets and `saved` the calls of `sl_savestate`; no step
    reads them. -/
structure Polling (σ : Type) where
  inLoop : Bool := true
  mConnected : Bool := true
  updateStateFile : Int := 1
  receiver : σ
  handled : Nat := 0
  saved : Nat := 0

section Polling

variable {σ : Type} (lib : BoundedLibMseed)
  (mAddPacketFunction : σ → DataPacket → σ × Option StdException)

/-- The callback gets one packet after the other, also when it throws. -/
def addPackets (receiver : σ) (packets : List DataPacket) : σ :=
  packets.foldl (fun receiver packet => (mAddPacketFunction receiver packet).1) receiver

def handlePayload (receiver : σ) (seedLinkBuffer : List UInt8) (payloadLength : UInt32) : σ :=
  match lib.unpacked seedLinkBuffer payloadLength with
  | .ok packets => addPackets mAddPacketFunction receiver packets
  | .error _ => receiver

def Polling.updateState (impl : ClientImpl) (polling : Polling σ) : Polling σ :=
  if impl.mUseStateFile then
    let written :=
      if impl.mStateFileUpdateInterval < polling.updateStateFile then
        { polling with saved := polling.saved + 1, updateStateFile := 0 }
      else polling
    { written with updateStateFile := written.updateStateFile + 1 }
  else polling

def Polling.handle (impl : ClientImpl) (polling : Polling σ) (seedLinkBuffer : List UInt8)
    (payloadLength : UInt32) : Polling σ :=
  { polling with
    receiver := handlePayload lib mAddPacketFunction polling.receiver seedLinkBuffer payloadLength
    handled := polling.handled + 1 }.updateState impl

/-- One turn; `keepRunning` is what is read from `mKeepRunning`. -/
def Polling.turn (impl : ClientImpl) (polling : Polling σ) (keepRunning : Bool)
    (collected : Collected) : Polling σ :=
  if polling.inLoop then
    if keepRunning then
      match collected with
      | .slPacket seedLinkPacketInfo seedLinkBuffer =>
          if seedLinkPacketInfo.isData then
            polling.handle lib mAddPacketFunction impl seedLinkBuffer
              seedLinkPacketInfo.payloadlength
          else polling
      | .slTerminate => { polling with mConnected := false, inLoop := false }
      | .slTooLarge => polling
      | .slNoPacket => polling
      | .unhandled _ => polling
    else { polling with mConnected := false, inLoop := false }
  else polling

def packetToCallback (impl : ClientImpl) : Machine (Polling σ) (Bool × Collected) Unit where
  step polling input := (polling.turn lib mAddPacketFunction impl input.1 input.2, ())

end Polling

/-! ### When the state file is written -/

section Cadence

variable {σ : Type} {lib : BoundedLibMseed}
  {mAddPacketFunction : σ → DataPacket → σ × Option StdException} {impl : ClientImpl}

/-- The counter is one more than the packets handled since the state was last saved, and
    it was saved after every `interval + 1` packets. -/
structure Due (interval : Nat) (polling : Polling σ) : Prop where
  pos : 1 ≤ polling.updateStateFile
  le : polling.updateStateFile ≤ interval + 1
  handled : (polling.handled : Int) =
    polling.saved * (interval + 1) + (polling.updateStateFile - 1)

theorem due_start (interval : Nat) (receiver : σ) : Due interval { receiver := receiver } where
  pos := le_refl 1
  le := by simp
  handled := by simp

theorem Due.handle {interval : Nat} {polling : Polling σ} (h : Due interval polling)
    (huse : impl.mUseStateFile = true) (hinterval : impl.mStateFileUpdateInterval = interval)
    (seedLinkBuffer : List UInt8) (payloadLength : UInt32) :
    Due interval (polling.handle lib mAddPacketFunction impl seedLinkBuffer payloadLength) := by
  obtain ⟨hpos, hle, hhandled⟩ := h
  rw [Polling.handle, Polling.updateState, if_pos huse, hinterval]
  by_cases hdue : (interval : Int) < polling.updateStateFile
  · -- the counter has passed the interval, so it is at its largest
    have hmax : polling.updateStateFile = interval + 1 := by omega
    simp only [if_pos hdue]
    refine ⟨by simp, by simp, ?_⟩
    push_cast
    rw [hhandled, hmax]
    ring
  · simp only [if_neg hdue]
    refine ⟨by simp only; omega, by simp only; omega, ?_⟩
    push_cast
    rw [hhandled]
    ring

theorem Due.turn {interval : Nat} {polling : Polling σ} (h : Due interval polling)
    (huse : impl.mUseStateFile = true) (hinterval : impl.mStateFileUpdateInterval = interval)
    (keepRunning : Bool) (collected : Collected) :
    Due interval (polling.turn lib mAddPacketFunction impl keepRunning collected) := by
  have hleft : Due interval { polling with mConnected := false, inLoop := false } :=
    ⟨h.pos, h.le, h.handled⟩
  unfold Polling.turn
  split_ifs
  · cases collected with
    | slPacket seedLinkPacketInfo seedLinkBuffer =>
      dsimp only
      split_ifs
      · exact h.handle huse hinterval _ _
      · exact h
    | slTerminate => exact hleft
    | slTooLarge => exact h
    | slNoPacket => exact h
    | unhandled returnValue => exact h
  · exact hleft
  · exact h

theorem Due.after {interval : Nat} (huse : impl.mUseStateFile = true)
    (hinterval : impl.mStateFileUpdateInterval = interval) (receiver : σ)
    (inputs : List (Bool × Collected)) :
    Due interval ((packetToCallback lib mAddPacketFunction impl).after
      { receiver := receiver } inputs) :=
  (packetToCallback lib mAddPacketFunction impl).after_invariant
    (fun _ input h => h.turn huse hinterval input.1 input.2) (due_start interval receiver) inputs

/-- The period is one more than the interval. -/
theorem Due.saved_eq {interval : Nat} {polling : Polling σ} (h : Due interval polling) :
    polling.saved = polling.handled / (interval + 1) := by
  obtain ⟨hpos, hle, hhandled⟩ := h
  obtain ⟨since, hsince⟩ : ∃ since : Nat, polling.updateStateFile = since + 1 :=
    ⟨(polling.updateStateFile - 1).toNat, by omega⟩
  have hcount : polling.handled = (interval + 1) * polling.saved + since := by
    zify
    rw [hhandled, hsince]
    ring
  rw [hcount, Nat.mul_add_div (Nat.succ_pos interval), Nat.div_eq_of_lt (by omega), Nat.add_zero]

/-- Counting in steps of one more gives the same number as long as there are fewer steps
    than are left over. -/
theorem div_succ_eq_div_iff (n : Nat) {interval : Nat} (hpos : 0 < interval) :
    n / (interval + 1) = n / interval ↔ n / interval ≤ n % interval := by
  have hsplit := Nat.div_add_mod n interval
  have hrest := Nat.mod_lt n hpos
  generalize n / interval = steps at hsplit ⊢
  generalize n % interval = rest at hsplit hrest ⊢
  constructor
  · intro heq
    by_contra hmore
    have hless : n < (interval + 1) * steps := by
      rw [Nat.add_mul, Nat.one_mul]
      omega
    exact absurd heq (Nat.div_lt_of_lt_mul hless).ne
  · intro hfew
    have hsplit' : n = (interval + 1) * steps + (rest - steps) := by
      rw [Nat.add_mul, Nat.one_mul]
      omega
    rw [hsplit', Nat.mul_add_div (Nat.succ_pos interval), Nat.div_eq_of_lt (by omega),
      Nat.add_zero]

/-- **The state file.**  With a state file and an interval of at least one, the loop has
    saved the state once for every full interval of packets it has handled if and only if
    there were no more full intervals than packets after the last of them. -/
theorem saved_iff (lib : BoundedLibMseed)
    (mAddPacketFunction : σ → DataPacket → σ × Option StdException) (options : ClientOptions)
    (hfile : options.haveStateFile = true) (hpos : 1 ≤ options.getStateFileUpdateInterval.toNat)
    (receiver : σ) (inputs : List (Bool × Collected)) :
    let impl := ClientImpl.initializeStateFile options
    let polling := (packetToCallback lib mAddPacketFunction impl).after { receiver := receiver }
      inputs
    let interval := options.getStateFileUpdateInterval.toNat
    polling.saved = polling.handled / interval ↔
      polling.handled / interval ≤ polling.handled % interval := by
  intro impl polling interval
  have huse : impl.mUseStateFile = true := by
    simp [impl, ClientImpl.initializeStateFile, hfile]
  have hinterval : impl.mStateFileUpdateInterval = interval := by
    simp [impl, ClientImpl.initializeStateFile, hfile, interval]
  have hdue : Due interval polling := Due.after huse hinterval receiver inputs
  rw [hdue.saved_eq]
  exact div_succ_eq_div_iff _ hpos

/-- libmseed, for payloads with a record of UU.FORK. -/
def forkLibMseed : BoundedLibMseed where
  toLibMseed := observedLibMseed forkPayload (forkRecord (.finite 100)) forkCodes
  bounded := bounded_observedLibMseed forkCodes (by decide) (by decide)

def forkOptions (interval : UInt16) : ClientOptions :=
  (ClientOptions.new.setStateFile "state").setStateFileUpdateInterval interval

def forkCollected : Bool × Collected := (true, .slPacket ⟨.mseed3, 65⟩ forkPayload)

/-- The callback keeps the packets. -/
def keepPacket (packets : List DataPacket) (packet : DataPacket) :
    List DataPacket × Option StdException := (packets ++ [packet], none)

/-- Two packets at an interval of two. -/
theorem fork_state_not_saved :
    let polling := (packetToCallback forkLibMseed keepPacket
      (ClientImpl.initializeStateFile (forkOptions 2))).after { receiver := [] }
        [forkCollected, forkCollected]
    polling.saved = polling.handled / 2 ↔ polling.handled / 2 ≤ polling.handled % 2 :=
  saved_iff forkLibMseed keepPacket (forkOptions 2) (by decide) (by decide) []
    [forkCollected, forkCollected]

/-- At an interval of one the first packet does not save the state. -/
theorem fork_first_packet_not_saved :
    let polling := (packetToCallback forkLibMseed keepPacket
      (ClientImpl.initializeStateFile (forkOptions 1))).after { receiver := [] } [forkCollected]
    polling.handled = 1 ∧ polling.saved ≠ polling.handled / 1 := by
  decide +kernel

end Cadence

end Us8.SEEDLink
