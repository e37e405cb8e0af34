/-
  Us8/SubscriberCounts.lean
  =========================
  **What the subscriber counts** (`SubscriberImpl::listen` of
  `broadcasts/dataPacket/subscriber.cpp` in a release build).

  `Subscriber.lean` is about the listener's thread and leaves its counters out; here are
  the turns of its loop with the counters, and nothing of the other threads but what a turn
  reads from `mKeepRunning`.  A message that is received is either handed to the callback
  or dropped, by its `reading` or because the callback throws.  For a message with the wrong
  number of parts or of another type the turn ends early, and the latter raises no counter.

  `Window` is what has been counted since the counters were last reset.  Beside the two
  counters it keeps the messages and the number of callbacks that returned, which no step
  reads.
-/
import Us8.Subscriber

namespace Us8

/-- The counters since the last reset, the messages received since, and how many callbacks
    have returned normally since. -/
structure Window where
  nReceivedMessages : Nat := 0
  nNotPropagatedMessages : Nat := 0
  messages : List (List Frame) := []
  nReturned : Nat := 0

/-- Every message received has been propagated or counted as not propagated. -/
def Window.Accounts (window : Window) : Prop :=
  window.nReceivedMessages = window.nReturned + window.nNotPropagatedMessages

instance (window : Window) : Decidable window.Accounts :=
  inferInstanceAs (Decidable (_ = _))

/-- `left` is a listener that has left its loop, or of which nothing can be said after
    undefined behaviour. -/
structure ListenerState (σ : Type) where
  left : Bool := false
  window : Window := {}
  lastLogTime : Int64
  receiver : σ
  reports : List Window := []

/-- What a turn of the loop gets from outside. -/
structure ListenInput where
  keepRunning : Bool
  messagesReceived : List Frame
  nowMuSeconds : Int64

/-- A message that is received and then counted nowhere: of two parts, but not of the type
    subscribed to, or with a payload whose decoding is undefined. -/
def uncounted (codec : CborCodec) (messagesReceived : List Frame) : Bool :=
  match reading codec messagesReceived with
  | .otherType => true
  | .undefined => true
  | _ => false

section Listen

variable {σ : Type} (codec : CborCodec) (callback : σ → DataPacket → σ × Option StdException)
  (logInterval : Int64)

namespace ListenerState

def receive (state : ListenerState σ) (messagesReceived : List Frame) : ListenerState σ :=
  { state with
    window :=
      { state.window with
        nReceivedMessages := state.window.nReceivedMessages + 1
        messages := state.window.messages ++ [messagesReceived] } }

def notPropagated (state : ListenerState σ) : ListenerState σ :=
  { state with
    window :=
      { state.window with nNotPropagatedMessages := state.window.nNotPropagatedMessages + 1 } }

/-- The shared end of a turn. -/
def log (state : ListenerState σ) (nowMuSeconds : Int64) : ListenerState σ :=
  let nowSeconds := nowMuSeconds / 1000000
  if 0 ≤ logInterval ∧ nowSeconds ≥ state.lastLogTime + logInterval then
    { state with
      window := {}
      lastLogTime := nowSeconds
      reports := state.reports ++ [state.window] }
  else state

/-- A callback that throws counts as not propagated. -/
def invoke (state : ListenerState σ) (dataPacket : DataPacket) : ListenerState σ :=
  match callback state.receiver dataPacket with
  | (receiver, none) =>
      { state with
        receiver := receiver
        window := { state.window with nReturned := state.window.nReturned + 1 } }
  | (receiver, some _) => { state with receiver := receiver }.notPropagated

/-- What becomes of a message. -/
def handle (state : ListenerState σ) (messagesReceived : List Frame) (nowMuSeconds : Int64) :
    ListenerState σ :=
  match reading codec messagesReceived with
  | .packet dataPacket => (state.invoke callback dataPacket).log logInterval nowMuSeconds
  | .refused _ => state.notPropagated.log logInterval nowMuSeconds
  | .undefined => { state with left := true }
  | .otherType => state
  | .malformed => state.notPropagated
  | .timedOut => state

def listen (state : ListenerState σ) (input : ListenInput) : ListenerState σ :=
  if state.left then state
  else if input.keepRunning = false then { state with left := true }
  else if input.messagesReceived.isEmpty then state
  else
    (state.receive input.messagesReceived).handle codec callback logInterval
      input.messagesReceived input.nowMuSeconds

end ListenerState

def listener : Machine (ListenerState σ) ListenInput Unit where
  step state input := (state.listen codec callback logInterval input, ())

end Listen

/-! ### What is counted -/

section Counted

variable {σ : Type} {codec : CborCodec} {callback : σ → DataPacket → σ × Option StdException}
  {logInterval : Int64}

/-- The messages since the last reset are the callbacks that returned, those counted as
    not propagated, and those that are counted nowhere. -/
structure Window.Kept (codec : CborCodec) (window : Window) : Prop where
  received : window.nReceivedMessages = window.messages.length
  counted : window.messages.length = window.nReturned + window.nNotPropagatedMessages +
    window.messages.countP (uncounted codec)

theorem Window.kept_start : Window.Kept codec {} := ⟨rfl, rfl⟩

/-- A message is one callback that returned, or one counted as not propagated, or counted
    nowhere. -/
theorem Window.Kept.receive {window : Window} (h : window.Kept codec)
    {messagesReceived : List Frame} {returned notPropagated : Nat}
    (hone : returned + notPropagated +
      (if uncounted codec messagesReceived = true then 1 else 0) = 1) :
    Window.Kept codec
      { nReceivedMessages := window.nReceivedMessages + 1
        nNotPropagatedMessages := window.nNotPropagatedMessages + notPropagated
        messages := window.messages ++ [messagesReceived]
        nReturned := window.nReturned + returned } := by
  obtain ⟨hreceived, hcounted⟩ := h
  constructor
  · simp only [List.length_append, List.length_singleton]
    omega
  · simp only [List.length_append, List.length_singleton, List.countP_append,
      List.countP_singleton]
    omega

theorem Window.Kept.accounts_iff {window : Window} (h : window.Kept codec) :
    window.Accounts ↔ ∀ messages ∈ window.messages, uncounted codec messages = false := by
  have hnone : window.Accounts ↔ window.messages.countP (uncounted codec) = 0 := by
    obtain ⟨hreceived, hcounted⟩ := h
    unfold Window.Accounts
    omega
  rw [hnone, List.countP_eq_zero]
  simp only [Bool.not_eq_true]

/-- The window of a state, and all windows that were logged. -/
structure ListenerState.Kept (codec : CborCodec) (state : ListenerState σ) : Prop where
  window : state.window.Kept codec
  reports : ∀ window ∈ state.reports, window.Kept codec

namespace ListenerState

variable {state : ListenerState σ}

theorem Kept.log (h : state.Kept codec) (nowMuSeconds : Int64) :
    (state.log logInterval nowMuSeconds).Kept codec := by
  unfold ListenerState.log
  dsimp only
  split_ifs
  · refine ⟨Window.kept_start, fun window hwindow => ?_⟩
    rcases List.mem_append.mp hwindow with hold | hnew
    · exact h.reports window hold
    · rw [List.mem_singleton.mp hnew]
      exact h.window
  · exact h

/-- A message, by what the listener makes of it. -/
theorem Kept.handle (h : state.Kept codec) {messagesReceived : List Frame}
    (hsome : messagesReceived ≠ []) (nowMuSeconds : Int64) :
    ((state.receive messagesReceived).handle codec callback logInterval messagesReceived
      nowMuSeconds).Kept codec := by
  have hdropped : uncounted codec messagesReceived = false →
      (state.receive messagesReceived).notPropagated.Kept codec := fun hnot =>
    ⟨@Window.Kept.receive codec _ h.window _ 0 1 (by simp [hnot]), h.reports⟩
  have hlost : uncounted codec messagesReceived = true →
      (state.receive messagesReceived).Kept codec := fun hlost =>
    ⟨@Window.Kept.receive codec _ h.window _ 0 0 (by simp [hlost]), h.reports⟩
  unfold ListenerState.handle
  cases hreading : reading codec messagesReceived with
  | timedOut => exact absurd hreading (reading_ne_timedOut hsome)
  | malformed => exact hdropped (by rw [uncounted, hreading])
  | otherType => exact hlost (by rw [uncounted, hreading])
  | refused e => exact (hdropped (by rw [uncounted, hreading])).log nowMuSeconds
  | undefined =>
    have hkept := hlost (by rw [uncounted, hreading])
    exact ⟨hkept.window, hkept.reports⟩
  | packet dataPacket =>
    have hnot : uncounted codec messagesReceived = false := by rw [uncounted, hreading]
    refine Kept.log ?_ nowMuSeconds
    unfold ListenerState.invoke
    rcases callback _ dataPacket with ⟨receiver, _ | e⟩
    · exact ⟨@Window.Kept.receive codec _ h.window _ 1 0 (by simp [hnot]), h.reports⟩
    · exact ⟨@Window.Kept.receive codec _ h.window _ 0 1 (by simp [hnot]), h.reports⟩

theorem Kept.listen (h : state.Kept codec) (input : ListenInput) :
    (state.listen codec callback logInterval input).Kept codec := by
  unfold ListenerState.listen
  split_ifs with _ _ hempty
  · exact h
  · exact ⟨h.window, h.reports⟩
  · exact h
  · exact h.handle (by simpa using hempty) input.nowMuSeconds

end ListenerState

/-- **The counters.**  In every run, between two resets of the counters as since the last
    one, the messages received are the callbacks that returned and the messages counted as
    not propagated if and only if none of them was one that is counted nowhere. -/
theorem received_accounted_iff (codec : CborCodec)
    (callback : σ → DataPacket → σ × Option StdException) (logInterval lastLogTime : Int64)
    (receiver : σ) (inputs : List ListenInput) :
    let state := (listener codec callback logInterval).after
      { lastLogTime := lastLogTime, receiver := receiver } inputs
    ∀ window ∈ state.window :: state.reports,
      (window.Accounts ↔ ∀ messages ∈ window.messages, uncounted codec messages = false) := by
  intro state window hwindow
  have hkept : state.Kept codec := by
    refine (listener codec callback logInterval).after_invariant ?_
      ⟨Window.kept_start, by simp⟩ inputs
    exact fun _ input h => ListenerState.Kept.listen h input
  rcases List.mem_cons.mp hwindow with rfl | hreport
  · exact hkept.window.accounts_iff
  · exact (hkept.reports window hreport).accounts_iff

/-- A message of a type that only begins with the one subscribed to. -/
def forkOtherType : List Frame :=
  [bytes (DataPacket.MESSAGE_TYPE ++ "Header"), DataPacket.forkDoubleMessage]

/-- It is received and counted nowhere. -/
theorem fork_other_type_uncounted :
    let state := (listener forkCodec (fun collected dataPacket => (collected ++ [dataPacket], none))
      60).after { lastLogTime := 0, receiver := [] } [⟨true, forkOtherType, 1000000⟩]
    (bytes DataPacket.MESSAGE_TYPE).isPrefixOf (forkOtherType.headD []) = true ∧
      ¬ state.window.Accounts := by
  decide +kernel

end Counted

end Us8
