/-
  Us8/ProxyControl.lean
  =====================
  **Steering the proxy** (`Process::start`, `pause`, `resume` and `stop` of
  `broadcasts/dataPacket/proxy.cpp`).

  The proxy runs in a thread of its own and is steered by commands.  Each command goes out
  on a request socket and is answered on it, and `mProxyState` records what the proxy is
  believed to do.  Two things go wrong.  `resume` has the guard and the new state of
  `pause` (`steer`), so it does nothing when the proxy is paused and records a pause when
  it is not.  And no answer is ever received, so the socket refuses every command after
  the first (`send`); a `stop` that comes later than that waits for ever.

  Of the sockets it is assumed that the proxy answers every command, and that a request
  socket throws when it is used while the answer to the last request has not been
  received.  The authenticators that start and stop along with the proxy are not part of
  the model.
-/
import Us8.Machine

namespace Us8

inductive ProxyState where
  | notRunning
  | running
  | paused
deriving DecidableEq

inductive ProxyCommand where
  | pause
  | resume
  | terminate
deriving DecidableEq

/-- What a command does to the proxy; one that has terminated takes no more. -/
def ProxyState.apply : ProxyState → ProxyCommand → ProxyState
  | .notRunning, _ => .notRunning
  | _, .pause => .paused
  | _, .resume => .running
  | _, .terminate => .notRunning

/-- What the proxy does, by the commands it has been given since it was started. -/
def steered : Option (List ProxyCommand) → ProxyState
  | none => .notRunning
  | some commands => commands.foldl ProxyState.apply .running

/-- `Process`.  `awaitsReply` is the state of `mCommandSocket`, `joinable` that of
    `mProxyThread`; `accepted` are the commands that the socket has accepted since the
    last `start`, and `waits` says that `stop` waits for a thread that does not end. -/
structure ProxyProcess where
  mProxyState : ProxyState := .notRunning
  awaitsReply : Bool := false
  joinable : Bool := false
  accepted : Option (List ProxyCommand) := none
  waits : Bool := false
deriving DecidableEq

inductive ProxyCall where
  | start
  | pause
  | resume
  | stop
deriving DecidableEq

namespace ProxyProcess

/-- `mCommandSocket.send`, which throws while an answer is awaited. -/
def send (process : ProxyProcess) (command : ProxyCommand) : Option ProxyProcess :=
  if process.awaitsReply then none
  else
    some { process with
      awaitsReply := true
      accepted := process.accepted.map (· ++ [command]) }

/-- Called while the proxy runs it would replace a joinable thread, which ends the
    program. -/
def start (process : ProxyProcess) : ProxyProcess :=
  { process with accepted := some [], joinable := true, mProxyState := .running }

/-- The body that `resume` and `pause` share; what `send` throws is caught. -/
def steer (command : ProxyCommand) (process : ProxyProcess) : ProxyProcess :=
  if process.mProxyState = .running then
    match process.send command with
    | some sent => { sent with mProxyState := .paused }
    | none => process
  else process

def resume : ProxyProcess → ProxyProcess := steer .resume

def pause : ProxyProcess → ProxyProcess := steer .pause

def terminate (process : ProxyProcess) : ProxyProcess :=
  if process.mProxyState = .running ∨ process.mProxyState = .paused then
    match process.send .terminate with
    | some sent => { sent with mProxyState := .notRunning }
    | none => process
  else process

/-- The thread ends when the proxy has been terminated. -/
def join (process : ProxyProcess) : ProxyProcess :=
  if process.joinable = false then process
  else if steered process.accepted = .notRunning then { process with joinable := false }
  else { process with waits := true }

def stop (process : ProxyProcess) : ProxyProcess := process.terminate.join

/-- After a call that does not return no other call is made. -/
def call (process : ProxyProcess) (call : ProxyCall) : ProxyProcess :=
  if process.waits then process
  else
    match call with
    | .start => process.start
    | .pause => process.pause
    | .resume => process.resume
    | .stop => process.stop

end ProxyProcess

def proxyControl : Machine ProxyProcess ProxyCall Unit where
  step process call := (process.call call, ())

/-! ### What is meant -/

/-- What a call is to achieve: the recorded state is that of the proxy; `resume` gets a
    paused proxy to run; and `stop` terminates the proxy, so that it need not wait. -/
structure ControlKept (before : ProxyProcess) (call : ProxyCall) (after : ProxyProcess) :
    Prop where
  state : after.mProxyState = steered after.accepted
  resume : call = .resume → before.mProxyState = .paused →
    after.accepted = before.accepted.map (· ++ [.resume]) ∧ after.mProxyState = .running
  stop : call = .stop → before.mProxyState ≠ .notRunning →
    after.accepted = before.accepted.map (· ++ [.terminate]) ∧ after.waits = false

instance (before : ProxyProcess) (call : ProxyCall) (after : ProxyProcess) :
    Decidable (ControlKept before call after) :=
  decidable_of_iff
    (after.mProxyState = steered after.accepted ∧
      (call = .resume → before.mProxyState = .paused →
        after.accepted = before.accepted.map (· ++ [.resume]) ∧ after.mProxyState = .running) ∧
      (call = .stop → before.mProxyState ≠ .notRunning →
        after.accepted = before.accepted.map (· ++ [.terminate]) ∧ after.waits = false))
    ⟨fun h => ⟨h.1, h.2.1, h.2.2⟩, fun h => ⟨h.state, h.resume, h.stop⟩⟩

/-- `start` is called only when the proxy does not run. -/
def StartsStopped (process : ProxyProcess) (call : ProxyCall) : Prop :=
  call = .start → process.mProxyState = .notRunning

instance : DecidableRel StartsStopped := fun _ _ => inferInstanceAs (Decidable (_ → _))

/-- The calls that go right: `resume` where it does nothing and is to do nothing, since
    there is no proxy, or it runs and the socket takes no commands any more; `stop` where
    there is no proxy, or the socket has not been used. -/
def Harmless (process : ProxyProcess) : ProxyCall → Prop
  | .start => True
  | .pause => True
  | .resume => process.mProxyState = .notRunning ∨
      (process.mProxyState = .running ∧ process.awaitsReply = true)
  | .stop => process.mProxyState = .notRunning ∨ process.awaitsReply = false

instance : DecidableRel Harmless
  | _, .start => isTrue trivial
  | _, .pause => isTrue trivial
  | _, .resume => inferInstanceAs (Decidable (_ ∨ _))
  | _, .stop => inferInstanceAs (Decidable (_ ∨ _))

/-! ### What the calls do -/

theorem steered_map (accepted : Option (List ProxyCommand)) (command : ProxyCommand) :
    steered (accepted.map (· ++ [command])) = (steered accepted).apply command := by
  cases accepted with
  | none => rfl
  | some commands => simp [steered, List.foldl_append]

@[simp] theorem ProxyState.apply_terminate (state : ProxyState) :
    state.apply .terminate = .notRunning := by
  cases state <;> rfl

namespace ProxyProcess

variable {process : ProxyProcess}

theorem steer_of_ready (command : ProxyCommand) (hstate : process.mProxyState = .running)
    (hready : process.awaitsReply = false) :
    steer command process =
      { process with
        awaitsReply := true
        accepted := process.accepted.map (· ++ [command])
        mProxyState := .paused } := by
  simp [steer, send, hstate, hready]

theorem steer_of_not_running (command : ProxyCommand) (hstate : process.mProxyState ≠ .running) :
    steer command process = process := if_neg hstate

theorem steer_of_awaits (command : ProxyCommand) (hawaits : process.awaitsReply = true) :
    steer command process = process := by
  unfold steer send
  rw [if_pos hawaits]
  split_ifs <;> rfl

theorem terminate_of_ready (hstate : process.mProxyState ≠ .notRunning)
    (hready : process.awaitsReply = false) :
    process.terminate =
      { process with
        awaitsReply := true
        accepted := process.accepted.map (· ++ [.terminate])
        mProxyState := .notRunning } := by
  cases hpc : process.mProxyState <;> simp [hpc, terminate, send, hready] at hstate ⊢

theorem terminate_of_not_running (hstate : process.mProxyState = .notRunning) :
    process.terminate = process := by
  simp [terminate, hstate]

theorem terminate_of_awaits (hawaits : process.awaitsReply = true) :
    process.terminate = process := by
  unfold terminate send
  rw [if_pos hawaits]
  split_ifs <;> rfl

@[simp] theorem mProxyState_join : process.join.mProxyState = process.mProxyState := by
  unfold join
  split_ifs <;> rfl

@[simp] theorem accepted_join : process.join.accepted = process.accepted := by
  unfold join
  split_ifs <;> rfl

@[simp] theorem awaitsReply_join : process.join.awaitsReply = process.awaitsReply := by
  unfold join
  split_ifs <;> rfl

/-- A proxy that has terminated is not waited for. -/
theorem waits_join (hsteered : steered process.accepted = .notRunning) :
    process.join.waits = process.waits := by
  unfold join
  rw [if_pos hsteered]
  split_ifs <;> rfl

/-! ### Runs in which every call goes right -/

/-- The recorded state is that of the proxy, it has been paused by a command, and the last
    call has returned. -/
structure Consistent (process : ProxyProcess) : Prop where
  state : process.mProxyState = steered process.accepted
  paused : process.mProxyState = .paused → process.awaitsReply = true
  returned : process.waits = false

theorem Consistent.call_eq (h : Consistent process) (call : ProxyCall) :
    process.call call =
      match call with
      | .start => process.start
      | .pause => process.pause
      | .resume => process.resume
      | .stop => process.stop := by
  unfold ProxyProcess.call
  rw [if_neg (by simp [h.returned])]

theorem Consistent.pause (h : Consistent process) : Consistent process.pause := by
  by_cases hstate : process.mProxyState = .running
  · cases hawaits : process.awaitsReply with
    | true => rwa [ProxyProcess.pause, steer_of_awaits _ hawaits]
    | false =>
      rw [ProxyProcess.pause, steer_of_ready _ hstate hawaits]
      refine ⟨?_, fun _ => rfl, h.returned⟩
      rw [steered_map, ← h.state, hstate]
      rfl
  · rwa [ProxyProcess.pause, steer_of_not_running _ hstate]

/-- Where `resume` is harmless it does nothing. -/
theorem resume_of_harmless (hharmless : Harmless process .resume) : process.resume = process := by
  rcases hharmless with hstate | ⟨-, hawaits⟩
  · exact steer_of_not_running _ (by simp [hstate])
  · exact steer_of_awaits _ hawaits

theorem Consistent.join (h : Consistent process) (hstate : process.mProxyState = .notRunning) :
    Consistent process.join := by
  have hsteered := h.state.symm.trans hstate
  constructor
  · rw [mProxyState_join, accepted_join]
    exact h.state
  · rw [mProxyState_join, awaitsReply_join]
    exact h.paused
  · rw [waits_join hsteered]
    exact h.returned

/-- A socket that has not been used takes the command to terminate. -/
theorem Consistent.terminate (h : Consistent process) (hstate : process.mProxyState ≠ .notRunning)
    (hready : process.awaitsReply = false) :
    Consistent process.terminate ∧ process.terminate.mProxyState = .notRunning := by
  rw [terminate_of_ready hstate hready]
  refine ⟨⟨?_, fun _ => rfl, h.returned⟩, rfl⟩
  rw [steered_map, ProxyState.apply_terminate]

theorem Consistent.stop (h : Consistent process) (hharmless : Harmless process .stop) :
    Consistent process.stop := by
  by_cases hstate : process.mProxyState = .notRunning
  · rw [ProxyProcess.stop, terminate_of_not_running hstate]
    exact h.join hstate
  · obtain ⟨hnext, hterminated⟩ := h.terminate hstate (hharmless.resolve_left hstate)
    exact hnext.join hterminated

theorem Consistent.call (h : Consistent process) (call : ProxyCall)
    (hharmless : Harmless process call) : Consistent (process.call call) := by
  rw [h.call_eq]
  cases call with
  | start => exact ⟨rfl, nofun, h.returned⟩
  | pause => exact h.pause
  | resume => rwa [resume_of_harmless hharmless]
  | stop => exact h.stop hharmless

theorem Consistent.resume_kept_iff (h : Consistent process) :
    ControlKept process .resume process.resume ↔ Harmless process .resume := by
  constructor
  · intro hkept
    cases hstate : process.mProxyState with
    | notRunning => exact Or.inl hstate
    | paused =>
      have hsent := (hkept.resume rfl hstate).2
      rw [ProxyProcess.resume, steer_of_not_running _ (by simp [hstate]), hstate] at hsent
      cases hsent
    | running =>
      cases hawaits : process.awaitsReply with
      | true => exact Or.inr ⟨hstate, hawaits⟩
      | false =>
        -- the proxy goes on running, and a pause is recorded
        have hrecorded := hkept.state
        rw [ProxyProcess.resume, steer_of_ready _ hstate hawaits] at hrecorded
        dsimp only at hrecorded
        rw [steered_map, ← h.state, hstate] at hrecorded
        cases hrecorded
  · intro hharmless
    rw [resume_of_harmless hharmless]
    refine ⟨h.state, ?_, nofun⟩
    intro _ hpaused
    rcases hharmless with hstate | ⟨hstate, -⟩
    · rw [hstate] at hpaused
      cases hpaused
    · rw [hstate] at hpaused
      cases hpaused

theorem Consistent.stop_kept_iff (h : Consistent process) :
    ControlKept process .stop process.stop ↔ Harmless process .stop := by
  constructor
  · intro hkept
    by_cases hstate : process.mProxyState = .notRunning
    · exact Or.inl hstate
    · right
      by_contra hready
      have haccepted := (hkept.stop rfl hstate).1
      rw [ProxyProcess.stop, terminate_of_awaits (by simpa using hready), accepted_join]
        at haccepted
      have hsteered := congrArg steered haccepted
      rw [steered_map, ProxyState.apply_terminate, ← h.state] at hsteered
      exact hstate hsteered
  · intro hharmless
    have hnext := h.stop hharmless
    refine ⟨hnext.state, nofun, ?_⟩
    intro _ hstate
    refine ⟨?_, hnext.returned⟩
    have hready := hharmless.resolve_left hstate
    rw [ProxyProcess.stop, accepted_join, terminate_of_ready hstate hready]

theorem Consistent.kept_iff (h : Consistent process) (call : ProxyCall) :
    ControlKept process call (process.call call) ↔ Harmless process call := by
  cases call with
  | start =>
    have hnext : Consistent (process.call .start) := h.call .start trivial
    constructor
    · intro _
      trivial
    · intro _
      exact ⟨hnext.state, nofun, nofun⟩
  | pause =>
    have hnext : Consistent (process.call .pause) := h.call .pause trivial
    constructor
    · intro _
      trivial
    · intro _
      exact ⟨hnext.state, nofun, nofun⟩
  | resume =>
    rw [h.call_eq]
    exact h.resume_kept_iff
  | stop =>
    rw [h.call_eq]
    exact h.stop_kept_iff

end ProxyProcess

/-- **When the control of the proxy agrees with the proxy.**  In every sequence of calls
    that starts the proxy only when it does not run, each call achieves what it is to
    achieve, if and only if each call is harmless. -/
theorem controlKept_iff (calls : List ProxyCall)
    (hstarts : proxyControl.Always StartsStopped {} calls) :
    proxyControl.Always
        (fun process call => ControlKept process call (proxyControl.step process call).1) {} calls ↔
      proxyControl.Always Harmless {} calls := by
  refine proxyControl.always_iff_of_invariant (I := ProxyProcess.Consistent) ?_ ?_ ?_ hstarts
  · intro process call h _
    exact h.kept_iff call
  · intro process call h _ hharmless
    exact h.call call hharmless
  · exact ⟨rfl, nofun, rfl⟩

/-- A proxy that is stopped without having been paused, and started again. -/
theorem restarted_controlKept :
    proxyControl.Always
      (fun process call => ControlKept process call (proxyControl.step process call).1) {}
      [.pause, .start, .stop, .resume, .start, .resume, .pause] :=
  (controlKept_iff [.pause, .start, .stop, .resume, .start, .resume, .pause] (by decide)).mpr
    (by decide)

/-- A paused proxy is not resumed; a running proxy that is resumed counts as paused; and a
    proxy that has been paused is not terminated, but waited for. -/
theorem second_command_not_kept :
    (proxyControl.after {} [.start, .pause, .resume]).mProxyState = .paused ∧
    (proxyControl.after {} [.start, .pause, .resume]).accepted = some [.pause] ∧
    (proxyControl.after {} [.start, .resume]).mProxyState = .paused ∧
    steered (proxyControl.after {} [.start, .resume]).accepted = .running ∧
    (proxyControl.after {} [.start, .pause, .stop]).accepted = some [.pause] ∧
    (proxyControl.after {} [.start, .pause, .stop]).waits = true ∧
    ∀ calls ∈ [[.start, .pause, .resume], [.start, .resume], [.start, .pause, .stop]],
      proxyControl.Always StartsStopped {} calls ∧
      ¬ proxyControl.Always
        (fun process call => ControlKept process call (proxyControl.step process call).1) {}
        calls := by
  refine ⟨by decide, by decide, by decide, by decide, by decide, by decide, by decide⟩

end Us8
