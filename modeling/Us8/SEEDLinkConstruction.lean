/-
  Us8/SEEDLinkConstruction.lean
  =============================
  **How a SEEDLink client is made** (`ClientImpl::initialize` in
  `broadcasts/dataPacket/seedLink/client.cpp`).

  What libslink answers decides: without a handle, or when the address is refused, there is no
  client.  A stream that is refused is left out with a warning, and it is only with no
  stream at all that the mode for all stations has to be taken.  Builds with assertions look for
  the server at once, the others do not.

  It is the function that the calls of the constructor make up in `SEEDLinkLifecycle`
  (`construct_after`), here with the texts of what it throws.
-/
import Us8.SEEDLinkHandles

namespace Us8.SEEDLink

/-! ### What libslink is asked -/

structure Stream where
  stationID : String
  selector : String
deriving DecidableEq

def StreamSelector.stream (selector : StreamSelector) : Stream where
  stationID := selector.mNetwork ++ "_" ++ selector.mStation
  selector := selector.getSelector

/-- The return codes of libslink, 0 being success, and whether there is a handle.  A stream is
    added to those taken before it; `ping` is none in a build that does not look for the
    server. -/
structure LibSlink where
  initslcd : Bool
  setServerAddress : String → Int
  addStream : List Stream → Stream → Int
  setAllStationParams : Int
  ping : Option Int

/-- What a handle has been given. -/
structure SLCD where
  address : String
  streams : List Stream

namespace LibSlink

variable (libslink : LibSlink)

def takes (streams : List Stream) (selector : StreamSelector) : Bool :=
  libslink.addStream streams selector.stream = 0

/-- The streams, in order; a refusal is a warning. -/
def addStreams (streams : List Stream) : List StreamSelector → List Stream
  | [] => streams
  | selector :: selectors =>
      addStreams
        (if libslink.takes streams selector then streams ++ [selector.stream] else streams)
        selectors

/-- An answer to `sl_ping` that cannot be read is a warning. -/
def cannotConnect : Bool :=
  libslink.ping.any fun returnCode => returnCode ≠ 0 && returnCode ≠ -1

end LibSlink

def ClientOptions.seedLinkAddress (options : ClientOptions) : String :=
  options.mAddress ++ ":" ++ toString options.mPort

/-- `initialize`. -/
def initializeClient (libslink : LibSlink) (options : ClientOptions) :
    Except StdException SLCD := do
  if !libslink.initslcd then throw (.runtimeError "Failed to create client handle")
  if libslink.setServerAddress options.seedLinkAddress ≠ 0 then
    throw (.invalidArgument ("Failed to set server address " ++ options.seedLinkAddress))
  let streams := libslink.addStreams [] options.mSelectors
  if streams.isEmpty then
    if libslink.setAllStationParams ≠ 0 then
      throw (.runtimeError "Failed to create a SEEDLink uni-station client")
  if libslink.cannotConnect then throw (.runtimeError "Failed to connect")
  return { address := options.seedLinkAddress, streams }

/-! ### When there is a client -/

namespace LibSlink

variable (libslink : LibSlink) (options : ClientOptions)

/-- libslink lets a client be made: there is a handle, the address is good, a stream is taken
    or else the mode for all stations, and the server can be found where it is looked for. -/
structure Makes : Prop where
  handle : libslink.initslcd = true
  address : libslink.setServerAddress options.seedLinkAddress = 0
  streams : libslink.addStreams [] options.mSelectors = [] → libslink.setAllStationParams = 0
  found : libslink.cannotConnect = false

/-- Why libslink does not, in the words of the exception. -/
inductive Refuses : String → Prop where
  | handle (h : libslink.initslcd = false) : Refuses "Failed to create client handle"
  | address (h : libslink.setServerAddress options.seedLinkAddress ≠ 0) :
      Refuses ("Failed to set server address " ++ options.seedLinkAddress)
  | streams (hnone : libslink.addStreams [] options.mSelectors = [])
      (hall : libslink.setAllStationParams ≠ 0) :
      Refuses "Failed to create a SEEDLink uni-station client"
  | notFound (h : libslink.cannotConnect = true) : Refuses "Failed to connect"

end LibSlink

theorem LibSlink.Refuses.not_makes {libslink : LibSlink} {options : ClientOptions} {what : String}
    (h : libslink.Refuses options what) : ¬ libslink.Makes options := by
  intro hmakes
  cases h with
  | handle h => exact absurd hmakes.handle (by simp [h])
  | address h => exact h hmakes.address
  | streams hnone hall => exact hall (hmakes.streams hnone)
  | notFound h => exact absurd hmakes.found (by simp [h])

/-- What comes of making a client. -/
theorem initializeClient_cases (libslink : LibSlink) (options : ClientOptions) :
    (libslink.Makes options ∧ initializeClient libslink options =
      .ok ⟨options.seedLinkAddress, libslink.addStreams [] options.mSelectors⟩) ∨
    ∃ e, initializeClient libslink options = .error e ∧ libslink.Refuses options e.what := by
  by_cases hhandle : libslink.initslcd = true
  case neg =>
    refine .inr ⟨.runtimeError "Failed to create client handle", ?_, ?_⟩
    · simp [initializeClient, hhandle]
    · exact .handle (Bool.eq_false_of_not_eq_true hhandle)
  by_cases haddress : libslink.setServerAddress options.seedLinkAddress = 0
  case neg =>
    refine .inr ⟨.invalidArgument ("Failed to set server address " ++ options.seedLinkAddress),
      ?_, .address haddress⟩
    simp [initializeClient, hhandle, haddress]
  by_cases hstreams : libslink.addStreams [] options.mSelectors = [] →
      libslink.setAllStationParams = 0
  case neg =>
    rw [Classical.not_imp] at hstreams
    refine .inr ⟨.runtimeError "Failed to create a SEEDLink uni-station client", ?_,
      .streams hstreams.1 hstreams.2⟩
    simp [initializeClient, hhandle, haddress, hstreams.1, hstreams.2]
  have hping : initializeClient libslink options =
      if libslink.cannotConnect then .error (.runtimeError "Failed to connect")
      else .ok ⟨options.seedLinkAddress, libslink.addStreams [] options.mSelectors⟩ := by
    by_cases hnone : libslink.addStreams [] options.mSelectors = []
    · simp [initializeClient, hhandle, haddress, hnone, hstreams hnone]
    · simp [initializeClient, hhandle, haddress, hnone]
  cases hfound : libslink.cannotConnect with
  | true =>
    rw [hping, hfound, if_pos rfl]
    exact .inr ⟨.runtimeError "Failed to connect", rfl, .notFound hfound⟩
  | false =>
    rw [hping, hfound, if_neg Bool.false_ne_true]
    exact .inl ⟨⟨hhandle, haddress, hstreams, hfound⟩, rfl⟩

/-! ### The constructor's steps -/

namespace LibSlink

variable (libslink : LibSlink)

def streamAnswers (streams : List Stream) : List StreamSelector → List Bool
  | [] => []
  | selector :: selectors =>
      libslink.takes streams selector ::
        streamAnswers
          (if libslink.takes streams selector then streams ++ [selector.stream] else streams)
          selectors

/-- How the steps of the constructor turn out, and those of the destructor if one has thrown. -/
def answers (options : ClientOptions) : List Bool :=
  List.replicate 6 true ++
    ([libslink.initslcd, libslink.setServerAddress options.seedLinkAddress == 0, true] ++
      (libslink.streamAnswers [] options.mSelectors ++
        ([libslink.setAllStationParams == 0, true, true] ++
          List.replicate destroyOps.length true)))

end LibSlink

open ClientThreads

section Construct

variable {σ : Type} (libslink : LibSlink)

theorem after_owner (lib : BoundedLibMseed)
    (mAddPacketFunction : σ → DataPacket → σ × Option StdException) (client : ClientThreads σ)
    (answers : List Bool) :
    (seedLinkClient lib mAddPacketFunction).after client (answers.map .owner) =
      answers.foldl ownerStep client := by
  induction answers generalizing client with
  | nil => rfl
  | cons ok answers ih =>
    rw [List.map_cons, Machine.after_cons, List.foldl_cons]
    exact ih (client.ownerStep ok)

/-- The streams are added one after the other. -/
theorem foldl_addStream {client : ClientThreads σ} (hheld : client.holding = true)
    {streams : List Stream} (hstreams : client.hasStreams = !streams.isEmpty)
    {selectors : List StreamSelector} {rest : List OwnerOp}
    (howner : client.owner = selectors.map .addStream ++ rest) :
    (libslink.streamAnswers streams selectors).foldl ownerStep client =
      { client with
        hasStreams := !(libslink.addStreams streams selectors).isEmpty
        owner := rest } := by
  induction selectors generalizing client streams with
  | nil =>
    rw [List.map_nil, List.nil_append] at howner
    simp only [LibSlink.streamAnswers, LibSlink.addStreams, List.foldl_nil]
    rw [← hstreams, ← howner]
  | cons selector selectors ih =>
    have hstep : client.ownerStep (libslink.takes streams selector) =
        { client with
          hasStreams := client.hasStreams || libslink.takes streams selector
          owner := selectors.map .addStream ++ rest } := by
      rw [List.map_cons, List.cons_append] at howner
      simp only [ownerStep, howner, OwnerOp.run, use_of_holding hheld]
    rw [LibSlink.streamAnswers, List.foldl_cons, hstep, LibSlink.addStreams]
    refine @ih { client with
      hasStreams := client.hasStreams || libslink.takes streams selector
      owner := selectors.map .addStream ++ rest } hheld _ ?_ rfl
    cases htakes : libslink.takes streams selector <;> simp [hstreams]

/-! The destructor of what a constructor that threw has made. -/

theorem foldl_ownerStep_nil {client : ClientThreads σ} (howner : client.owner = [])
    (answers : List Bool) : answers.foldl ownerStep client = client := by
  induction answers with
  | nil => rfl
  | cons ok answers ih =>
    have hstep : client.ownerStep ok = client := by simp only [ownerStep, howner]
    rw [List.foldl_cons, hstep]
    exact ih

/-- The operations of the destructor but the last, which ask libslink for nothing. -/
def OwnerOp.isQuiet : OwnerOp → Bool
  | .terminate | .setRunning _ | .join | .hangUp | .saveState | .free | .forget => true
  | _ => false

theorem run_quiet {client : ClientThreads σ} {op : OwnerOp} (hquiet : op.isQuiet = true)
    (hreader : client.reader = .none) (ok : Bool) :
    ∃ next, op.run client ok = .next next ∧ next.reader = .none := by
  have hrun : ∃ next, op.run client ok = .next next := by
    cases op with
    | join => simp [OwnerOp.run, hreader]
    | terminate | setRunning | hangUp | saveState | free | forget => exact ⟨_, rfl⟩
    | _ => cases hquiet
  rcases hrun with ⟨next, hrun⟩
  refine ⟨next, hrun, (owner_keeps hrun).joined ?_ hreader⟩
  rintro rfl
  cases hquiet

theorem foldl_destroyed {ops : List OwnerOp} (hquiet : ∀ op ∈ ops, op.isQuiet = true)
    {client : ClientThreads σ} (howner : client.owner = ops ++ [.destroyed])
    (hreader : client.reader = .none) {answers : List Bool}
    (hlength : ops.length < answers.length) :
    (answers.foldl ownerStep client).owner = [] ∧
      (answers.foldl ownerStep client).alive = false := by
  induction ops generalizing client answers with
  | nil =>
    cases answers with
    | nil => cases hlength
    | cons ok answers =>
      have hstep : client.ownerStep ok = { client with alive := false, owner := [] } := by
        simp only [ownerStep, howner, List.nil_append, OwnerOp.run]
      rw [List.foldl_cons, hstep, foldl_ownerStep_nil rfl]
      exact ⟨rfl, rfl⟩
  | cons op ops ih =>
    cases answers with
    | nil => cases hlength
    | cons ok answers =>
      rw [List.forall_mem_cons] at hquiet
      rcases run_quiet hquiet.1 hreader ok with ⟨next, hrun, hnext⟩
      have hstep : client.ownerStep ok = { next with owner := ops ++ [.destroyed] } := by
        simp only [ownerStep, howner, List.cons_append, hrun]
      rw [List.foldl_cons, hstep]
      exact @ih hquiet.2 { next with owner := ops ++ [.destroyed] } rfl hnext _
        (Nat.lt_of_succ_lt_succ hlength)

theorem foldl_throws {client : ClientThreads σ} {op : OwnerOp} {rest : List OwnerOp} {ok : Bool}
    (howner : client.owner = op :: rest) (hrun : op.run client ok = .throws)
    (honThrow : client.onThrow = destroyOps) (hreader : client.reader = .none)
    {answers : List Bool} (hlength : destroyOps.length ≤ answers.length) :
    ((ok :: answers).foldl ownerStep client).owner = [] ∧
      ((ok :: answers).foldl ownerStep client).alive = false := by
  have hstep : client.ownerStep ok = { client with owner := destroyOps, onThrow := [] } := by
    simp only [ownerStep, howner, hrun, honThrow]
  rw [List.foldl_cons, hstep]
  apply @foldl_destroyed σ (stopOps ++ disconnectOps) _
    { client with owner := destroyOps, onThrow := [] } rfl hreader _ hlength
  decide

/-! The constructor: before a handle is asked for, with an address, and with the streams. -/

def asking (options : ClientOptions) (receiver : σ) : ClientThreads σ :=
  { ClientThreads.construct options receiver with
    owner := [.create, .setServerAddress, .takeStateFile options] ++
      (options.mSelectors.map .addStream ++ [.setAllStations, .setModes, .finish options]) }

def addressed (options : ClientOptions) (receiver : σ) : ClientThreads σ :=
  { ClientThreads.construct options receiver with
    mSEEDLinkConnection := some 0
    mStateFileUpdateInterval :=
      if options.haveStateFile then options.getStateFileUpdateInterval.toNat else 100
    mUseStateFile := options.haveStateFile
    owner := options.mSelectors.map .addStream ++ [.setAllStations, .setModes, .finish options]
    created := 1 }

def streamed (options : ClientOptions) (receiver : σ) : ClientThreads σ :=
  { addressed options receiver with
    hasStreams := !(libslink.addStreams [] options.mSelectors).isEmpty
    owner := [.setAllStations, .setModes, .finish options] }

theorem foldl_construct (options : ClientOptions) (receiver : σ) :
    (List.replicate 6 true).foldl ownerStep (.construct options receiver) =
      asking options receiver := rfl

theorem foldl_asking (options : ClientOptions) (receiver : σ) :
    [true, true, true].foldl ownerStep (asking options receiver) =
      addressed options receiver := by
  have hconnected : [true, true].foldl ownerStep (asking options receiver) =
      { addressed options receiver with
        mStateFileUpdateInterval := 100
        mUseStateFile := false
        owner := .takeStateFile options :: (addressed options receiver).owner } := rfl
  rw [show [true, true, true] = [true, true] ++ [true] from rfl, List.foldl_append, hconnected]
  cases hfile : options.haveStateFile with
  | true => simp [ownerStep, OwnerOp.run, addressed, hfile]
  | false => simp [ownerStep, OwnerOp.run, addressed, hfile]

theorem foldl_addressed (options : ClientOptions) (receiver : σ) :
    (libslink.streamAnswers [] options.mSelectors).foldl ownerStep (addressed options receiver) =
      streamed libslink options receiver :=
  foldl_addStream libslink rfl rfl rfl

theorem run_setAllStations {options : ClientOptions} (receiver : σ)
    (hall : libslink.addStreams [] options.mSelectors = [] → libslink.setAllStationParams = 0) :
    OwnerOp.setAllStations.run (streamed libslink options receiver)
        (libslink.setAllStationParams == 0) =
      .next (streamed libslink options receiver) := by
  have huse : (streamed libslink options receiver).use = streamed libslink options receiver :=
    use_of_holding rfl
  by_cases hnone : libslink.addStreams [] options.mSelectors = []
  · rw [hall hnone, beq_self_eq_true, OwnerOp.run, huse, if_pos rfl, ite_self]
  · have hsome : (streamed libslink options receiver).hasStreams = true := by
      simp [streamed, hnone]
    rw [OwnerOp.run, huse, if_pos hsome]

theorem run_setAllStations_throws {options : ClientOptions} (receiver : σ)
    (hnone : libslink.addStreams [] options.mSelectors = []) :
    OwnerOp.setAllStations.run (streamed libslink options receiver) false = .throws := by
  simp [OwnerOp.run, streamed, hnone]

/-- **The function is what the steps of the constructor do.**  Where there is a client they
    leave it initialized, and otherwise they end with its destruction. -/
theorem construct_after (lib : BoundedLibMseed)
    (mAddPacketFunction : σ → DataPacket → σ × Option StdException) (hping : libslink.ping = none)
    (options : ClientOptions) (receiver : σ) :
    let client := (seedLinkClient lib mAddPacketFunction).after (.construct options receiver)
      ((libslink.answers options).map .owner)
    client.owner = [] ∧
      ((∃ slcd, initializeClient libslink options = .ok slcd ∧ client.alive = true ∧
          client.mInitialized = true ∧ client.hasStreams = !slcd.streams.isEmpty) ∨
        ∃ e, initializeClient libslink options = .error e ∧ client.alive = false) := by
  intro client
  have hclient : client =
      (libslink.answers options).foldl ownerStep (.construct options receiver) :=
    after_owner lib mAddPacketFunction _ _
  rw [LibSlink.answers, List.foldl_append, foldl_construct] at hclient
  have hgone (hnot : ¬ libslink.Makes options) (h : client.owner = [] ∧ client.alive = false) :
      client.owner = [] ∧
        ((∃ slcd, initializeClient libslink options = .ok slcd ∧ client.alive = true ∧
            client.mInitialized = true ∧ client.hasStreams = !slcd.streams.isEmpty) ∨
          ∃ e, initializeClient libslink options = .error e ∧ client.alive = false) := by
    rcases initializeClient_cases libslink options with ⟨hmakes, -⟩ | ⟨e, herror, -⟩
    · exact absurd hmakes hnot
    · exact ⟨h.1, .inr ⟨e, herror, h.2⟩⟩
  by_cases hhandle : libslink.initslcd = true
  case neg =>
    apply hgone fun hmakes => hhandle hmakes.handle
    rw [hclient, Bool.eq_false_of_not_eq_true hhandle]
    exact @foldl_throws σ (asking options receiver) _ _ _ rfl rfl rfl rfl _ (by simp; omega)
  by_cases haddress : libslink.setServerAddress options.seedLinkAddress = 0
  case neg =>
    apply hgone fun hmakes => haddress hmakes.address
    rw [hclient, hhandle, beq_eq_false_iff_ne.mpr haddress]
    exact @foldl_throws σ ((asking options receiver).ownerStep true) _ _ _ rfl rfl rfl rfl _
      (by simp; omega)
  rw [hhandle, haddress, beq_self_eq_true, List.foldl_append, foldl_asking, List.foldl_append,
    foldl_addressed] at hclient
  by_cases hall : libslink.addStreams [] options.mSelectors = [] →
      libslink.setAllStationParams = 0
  case neg =>
    rw [Classical.not_imp] at hall
    apply hgone fun hmakes => hall.2 (hmakes.streams hall.1)
    rw [hclient, beq_eq_false_iff_ne.mpr hall.2]
    exact @foldl_throws σ (streamed libslink options receiver) _ _ _ rfl
      (run_setAllStations_throws libslink receiver hall.1) rfl rfl _ (by decide)
  have hallStations : (streamed libslink options receiver).ownerStep
      (libslink.setAllStationParams == 0) =
        { streamed libslink options receiver with owner := [.setModes, .finish options] } := by
    have hrun := run_setAllStations libslink receiver hall
    simp only [ownerStep, streamed] at hrun ⊢
    rw [hrun]
  have hmade : client =
      { streamed libslink options receiver with
        owner := []
        mOptions := options
        mInitialized := true
        mHaveOptions := true
        onThrow := [] } := by
    rw [hclient, List.cons_append, List.foldl_cons, hallStations]
    rfl
  have hmakes : libslink.Makes options :=
    ⟨hhandle, haddress, hall, by rw [LibSlink.cannotConnect, hping]; rfl⟩
  rcases initializeClient_cases libslink options with ⟨-, hok⟩ | ⟨e, -, hrefuses⟩
  · rw [hmade]
    exact ⟨rfl, .inl ⟨_, hok, rfl, rfl, rfl⟩⟩
  · exact absurd hmakes hrefuses.not_makes

end Construct

end Us8.SEEDLink
