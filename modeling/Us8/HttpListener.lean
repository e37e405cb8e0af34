/-
  Us8/HttpListener.lean
  =====================
  **The web server and all of its connections** (`Listener` of
  `services/webServer/listener.cpp`, over the sessions of `services/webServer/server.hpp`).

  A listener waits for one connection at a time.  Whatever its wait has ended with, it waits
  again, so neither an error nor a listener whose constructor has failed ends the loop.
  Each connection that came in gets a session on a strand of its own, and the
  sessions share nothing that changes.  So the handlers of different connections may run in any
  order, and every session is the one of `HttpSession` on the operations that are its own
  (`Machine.pool_after`).
-/
import Us8.HttpSession

namespace Us8.WebServer

/-! ### The listener -/

/-- `accepting` is how many calls of `async_accept` have not ended. -/
structure Listener where
  accepting : Nat := 0
  sessions : List HttpConnection := []

/-- What can end: an `async_accept`, or an operation of a session. -/
inductive ServerEvent where
  | accept (errorCode : Option ErrorCode)
  | session (position : Nat) (event : Nat × Completion)
deriving DecidableEq

namespace Listener

def doAccept (listener : Listener) : Listener :=
  { listener with accepting := listener.accepting + 1 }

/-- A listener about to run. -/
def run : Listener := doAccept {}

def onAccept (listener : Listener) (errorCode : Option ErrorCode) : Listener :=
  (match errorCode with
    | some _ => listener
    | none => { listener with sessions := listener.sessions ++ [({} : HttpConnection)] }).doAccept

def handle (build : ServerBuild) (listener : Listener) : ServerEvent → Listener
  | .accept errorCode =>
      if listener.accepting = 0 then listener
      else { listener with accepting := listener.accepting - 1 }.onAccept errorCode
  | .session position event =>
      { listener with
        sessions := listener.sessions.modify position fun connection =>
          ((httpConnection build).step connection event).1 }

end Listener

def webServer (build : ServerBuild) : Machine Listener ServerEvent Unit where
  step listener event := (listener.handle build event, ())

/-! ### The sessions are a pool -/

namespace ServerEvent

def isConnection : ServerEvent → Bool
  | .accept none => true
  | _ => false

/-- The operation that has ended, if it is one of this session. -/
def ofSession (position : Nat) : ServerEvent → Option (Nat × Completion)
  | .accept _ => none
  | .session other event => if other = position then some event else none

/-- What the event is to the sessions. -/
def toPool : ServerEvent → Option (Option (Nat × (Nat × Completion)))
  | .accept none => some none
  | .accept (some _) => none
  | .session position event => some (some (position, event))

theorem countP_toPool (events : List ServerEvent) :
    (events.filterMap toPool).countP Option.isNone = events.countP isConnection := by
  induction events with
  | nil => rfl
  | cons event events ih =>
    rcases event with (_ | errorCode) | ⟨position, completed⟩
    · show (none :: events.filterMap toPool).countP Option.isNone = _
      rw [List.countP_cons, List.countP_cons, ih]
      rfl
    · show (events.filterMap toPool).countP Option.isNone = _
      rw [List.countP_cons, ih]
      rfl
    · show (some (position, completed) :: events.filterMap toPool).countP Option.isNone = _
      rw [List.countP_cons, List.countP_cons, ih]
      rfl

theorem filterMap_toPool (position : Nat) (events : List ServerEvent) :
    (events.filterMap toPool).filterMap (Machine.inputFor position) =
      events.filterMap (ofSession position) := by
  rw [List.filterMap_filterMap]
  have hsame : (fun event => (toPool event).bind (Machine.inputFor position)) =
      ofSession position := by
    funext event
    rcases event with (_ | errorCode) | ⟨other, completed⟩
    · rfl
    · rfl
    · rfl
  rw [hsame]

/-- The connection of a session came in when there were as many as its position. -/
theorem exists_connection {position : Nat} {events : List ServerEvent}
    (h : position < events.countP isConnection) :
    ∃ before later, events = before ++ .accept none :: later ∧
      before.countP isConnection = position := by
  induction events generalizing position with
  | nil => exact absurd h (Nat.not_lt_zero position)
  | cons event events ih =>
    by_cases hconnection : event.isConnection = true
    · rw [List.countP_cons_of_pos hconnection] at h
      have hevent : event = .accept none := by
        rcases event with (_ | errorCode) | ⟨other, completed⟩
        · rfl
        · cases hconnection
        · cases hconnection
      cases position with
      | zero => exact ⟨[], events, by rw [hevent, List.nil_append], rfl⟩
      | succ position =>
        rcases ih (Nat.lt_of_succ_lt_succ h) with ⟨before, later, rfl, hcount⟩
        refine ⟨event :: before, later, rfl, ?_⟩
        rw [List.countP_cons_of_pos hconnection, hcount]
    · rw [List.countP_cons_of_neg hconnection] at h
      rcases ih h with ⟨before, later, rfl, hcount⟩
      refine ⟨event :: before, later, rfl, ?_⟩
      rw [List.countP_cons_of_neg hconnection, hcount]

end ServerEvent

/-- The sessions as they would be without the listener. -/
def sessionPool (build : ServerBuild) :
    Machine (List HttpConnection) (Option (Nat × (Nat × Completion))) Unit :=
  (httpConnection build).pool {}

theorem webServer_step (build : ServerBuild) (sessions : List HttpConnection)
    (event : ServerEvent) :
    ((webServer build).step ⟨1, sessions⟩ event).1 =
      ⟨1, (sessionPool build).after sessions event.toPool.toList⟩ := by
  rcases event with (_ | errorCode) | ⟨position, completed⟩
  · rfl
  · rfl
  · rfl

theorem webServer_after (build : ServerBuild) (sessions : List HttpConnection)
    (events : List ServerEvent) :
    (webServer build).after ⟨1, sessions⟩ events =
      ⟨1, (sessionPool build).after sessions (events.filterMap ServerEvent.toPool)⟩ := by
  induction events generalizing sessions with
  | nil => rfl
  | cons event events ih =>
    rw [Machine.after_cons, webServer_step, ih]
    cases hpool : event.toPool with
    | none =>
      rw [List.filterMap_cons_none hpool]
      rfl
    | some input =>
      rw [List.filterMap_cons_some hpool]
      rfl

theorem webServer_session (build : ServerBuild) (before later : List ServerEvent) :
    let position := before.countP ServerEvent.isConnection
    ((webServer build).after .run (before ++ .accept none :: later)).sessions[position]? =
      some ((httpConnection build).after {}
        (later.filterMap (ServerEvent.ofSession position))) := by
  intro position
  have hafter := webServer_after build [] (before ++ .accept none :: later)
  have hpool : (before ++ .accept none :: later).filterMap ServerEvent.toPool =
      before.filterMap ServerEvent.toPool ++ none :: later.filterMap ServerEvent.toPool :=
    List.filterMap_append
  have halone := @Machine.pool_after _ _ _ (httpConnection build) {}
    (before.filterMap ServerEvent.toPool) (later.filterMap ServerEvent.toPool)
  rw [ServerEvent.countP_toPool, ServerEvent.filterMap_toPool] at halone
  rw [show Listener.run = ⟨1, []⟩ from rfl, hafter, hpool]
  exact halone

/-- **Every connection is served as if it were alone.**  However the operations of the
    listener and of all sessions end, one `async_accept` is outstanding; there is a session
    for every connection that came in; and each session is where the operations of its own,
    all of those that have ended since its connection came in, have taken it, with one
    request at a time. -/
theorem each_connection_alone (build : ServerBuild) (hbeast : build.beast.KeepsSetting)
    (events : List ServerEvent) :
    let listener := (webServer build).after .run events
    listener.accepting = 1 ∧
      listener.sessions.length = events.countP ServerEvent.isConnection ∧
      ∀ (position : Nat) (connection : HttpConnection),
        listener.sessions[position]? = some connection →
        ∃ before later, events = before ++ .accept none :: later ∧
          before.countP ServerEvent.isConnection = position ∧
          let own := later.filterMap (ServerEvent.ofSession position)
          connection = (httpConnection build).after {} own ∧
            HttpConnection.OneAtATime build ((httpConnection build).emitted {} own)
              connection := by
  intro listener
  have hlistener : listener =
      ⟨1, (sessionPool build).after [] (events.filterMap ServerEvent.toPool)⟩ :=
    webServer_after build [] events
  have hlength : listener.sessions.length = events.countP ServerEvent.isConnection := by
    rw [hlistener, ← ServerEvent.countP_toPool]
    exact Machine.length_pool_after (httpConnection build) _
  refine ⟨by rw [hlistener], hlength, ?_⟩
  intro position connection hsession
  have hposition : position < events.countP ServerEvent.isConnection := by
    rw [← hlength]
    exact (List.getElem?_eq_some_iff.mp hsession).1
  rcases ServerEvent.exists_connection hposition with ⟨before, later, rfl, rfl⟩
  have halone := webServer_session build before later
  refine ⟨before, later, rfl, rfl, ?_⟩
  have hconnection := Option.some.inj (hsession.symm.trans halone)
  rw [hconnection]
  exact ⟨rfl, (HttpConnection.conversation_after hbeast _).oneAtATime⟩

/-- Two connections whose operations end in turn; an error of the listener between them. -/
def forkServer : List ServerEvent :=
  [.accept none, .session 0 (0, ⟨none, false, forkRequest .get none⟩),
    .accept (some (.other "Too many open files")), .accept none,
    .session 1 (0, ⟨none, true, forkRequest .get none⟩),
    .session 0 (0, ⟨none, false, forkRequest .get none⟩),
    .session 1 (0, ⟨none, false, forkRequest .get none⟩)]

theorem fork_each_connection_alone :
    let listener := (webServer forkBuild).after .run forkServer
    listener.sessions.map (fun session => session.outstanding.length) = [1, 1] ∧
      listener.sessions.map HttpConnection.ssl = [some false, some true] ∧
      listener.accepting = 1 :=
  ⟨by decide, by decide, (each_connection_alone forkBuild forkBeast_keepsSetting forkServer).1⟩

end Us8.WebServer
