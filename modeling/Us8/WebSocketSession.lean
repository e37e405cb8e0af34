/-
  Us8/WebSocketSession.lean
  =========================
  **The replies of a WebSocket session** (`WebSocketSession::reply`, `queueSend` and `onWrite`
  of `services/webServer/server.hpp`).

  A reply is posted to the session's strand.  There `queueSend` appends it to
  `mResponseQueue` and starts an `async_write` if it is the only one; the reply stays in front
  of the queue while it is written.  When a write has ended, `onWrite` removes the front and
  starts the next write.  So there are two places that start a write, and what keeps them
  from starting two at once is only the length of the queue.

  The strand runs the handlers in the order they were posted in, one after the other.  Which
  write ends when, and with which error, is part of the input, and no step reads what
  `completed`, `started` and `posted` record.
-/
import Us8.Machine
import Us8.Outcome

namespace Us8.WebServer

/-! ### The two handlers -/

/-- The queue afterwards, and what `async_write` is called with. -/
def queueSend (mResponseQueue : List String) (response : String) : List String × Option String :=
  let mResponseQueue := mResponseQueue ++ [response]
  if mResponseQueue.length > 1 then (mResponseQueue, none)
  else (mResponseQueue, mResponseQueue.head?)

/-- An error leaves the queue as it is.  An empty queue has no front to pop. -/
def onWrite (mResponseQueue : List String) (errorCode : Option String) :
    Except Failure (List String × Option String) :=
  match errorCode with
  | some _ => .ok (mResponseQueue, none)
  | none =>
      match mResponseQueue with
      | [] => .error .undefinedBehaviour
      | _ :: mResponseQueue => .ok (mResponseQueue, mResponseQueue.head?)

/-! ### The session on its strand -/

/-- What waits on the strand; an `onWrite` comes with the reply whose write has ended. -/
inductive Handler where
  | queueSend (response : String)
  | onWrite (response : String) (errorCode : Option String)

namespace Handler

def toSend : Handler → Option String
  | .queueSend response => some response
  | .onWrite _ _ => none

def written : Handler → Option String
  | .queueSend _ => none
  | .onWrite response _ => some response

def errorCode : Handler → Option String
  | .queueSend _ => none
  | .onWrite _ errorCode => errorCode

end Handler

structure WebSocketSession where
  mResponseQueue : List String := []
  strand : List Handler := []
  inFlight : List String := []
  completed : List String := []
  started : List String := []
  posted : List String := []

/-- A reply is posted, the write at a position among those in flight ends, or the strand
    runs its next handler. -/
inductive Event where
  | reply (response : String)
  | writeEnds (position : Nat) (errorCode : Option String)
  | run

def Event.errorCode : Event → Option String
  | .writeEnds _ errorCode => errorCode
  | _ => none

namespace WebSocketSession

/-- A write is outstanding until its `onWrite` has run. -/
def outstanding (session : WebSocketSession) : List String :=
  session.inFlight ++ session.strand.filterMap Handler.written

def asyncWrite (session : WebSocketSession) (response : Option String) : WebSocketSession :=
  { session with
    inFlight := session.inFlight ++ response.toList
    started := session.started ++ response.toList }

def runHandler (session : WebSocketSession) : Handler → WebSocketSession × Except Failure Unit
  | .queueSend response =>
      let next := queueSend session.mResponseQueue response
      ({ session with mResponseQueue := next.1 }.asyncWrite next.2, .ok ())
  | .onWrite response errorCode =>
      let session := { session with completed := session.completed ++ [response] }
      match onWrite session.mResponseQueue errorCode with
      | .ok next => ({ session with mResponseQueue := next.1 }.asyncWrite next.2, .ok ())
      | .error e => (session, .error e)

def act (session : WebSocketSession) : Event → WebSocketSession × Except Failure Unit
  | .reply response =>
      ({ session with
          strand := session.strand ++ [.queueSend response]
          posted := session.posted ++ [response] }, .ok ())
  | .writeEnds position errorCode =>
      match session.inFlight[position]? with
      | none => (session, .ok ())
      | some response =>
          ({ session with
              inFlight := session.inFlight.eraseIdx position
              strand := session.strand ++ [.onWrite response errorCode] }, .ok ())
  | .run =>
      match session.strand with
      | [] => (session, .ok ())
      | handler :: strand => { session with strand := strand }.runHandler handler

end WebSocketSession

def webSocket : Machine WebSocketSession Event (Except Failure Unit) where
  step := WebSocketSession.act

/-! ### What the session keeps -/

namespace WebSocketSession

/-- Exactly the front of the queue is being written, and every reply that was posted has been
    written, is in the queue or waits on the strand, in this order. -/
structure Ordered (session : WebSocketSession) : Prop where
  outstanding : session.outstanding = session.mResponseQueue.head?.toList
  started : session.started = session.completed ++ session.outstanding
  posted : session.posted = session.completed ++ session.mResponseQueue ++
    session.strand.filterMap Handler.toSend
  errorFree : ∀ handler ∈ session.strand, handler.errorCode = none

variable {session : WebSocketSession}

theorem ordered_start : Ordered {} where
  outstanding := rfl
  started := rfl
  posted := rfl
  errorFree := by simp

theorem Ordered.reply (h : session.Ordered) (response : String) :
    (session.act (.reply response)).1.Ordered := by
  have hsame : (session.act (.reply response)).1.outstanding = session.outstanding := by
    simp [act, WebSocketSession.outstanding, Handler.written]
  refine ⟨?_, ?_, ?_, ?_⟩
  · rw [hsame]
    exact h.outstanding
  · rw [hsame]
    exact h.started
  · simp [act, h.posted, Handler.toSend]
  · intro handler hhandler
    rcases List.mem_append.mp hhandler with hold | hnew
    · exact h.errorFree handler hold
    · rw [List.mem_singleton.mp hnew]
      rfl

/-- Whatever is outstanding is the front of the queue and nothing else. -/
theorem Ordered.front (h : session.Ordered) {response : String} {earlier later : List String}
    (hsplit : session.outstanding = earlier ++ response :: later) :
    earlier = [] ∧ later = [] ∧ ∃ rest, session.mResponseQueue = response :: rest := by
  have hfront := h.outstanding
  rw [hsplit] at hfront
  cases hqueue : session.mResponseQueue with
  | nil =>
    rw [hqueue] at hfront
    simp at hfront
  | cons front rest =>
    rw [hqueue] at hfront
    obtain ⟨rfl, hrest⟩ : earlier = [] ∧ response :: later = [front] := by
      rcases List.append_eq_singleton_iff.mp hfront with hsecond | hfirst
      · exact hsecond
      · exact absurd hfirst.2 (by simp)
    obtain ⟨rfl, rfl⟩ := List.cons.inj hrest
    exact ⟨rfl, rfl, rest, rfl⟩

/-- The write that ends is the only one in flight, and no other `onWrite` is waiting. -/
theorem Ordered.inFlight (h : session.Ordered) {position : Nat} {response : String}
    (hfind : session.inFlight[position]? = some response) :
    position = 0 ∧ session.inFlight = [response] ∧
      session.strand.filterMap Handler.written = [] := by
  obtain ⟨hlt, hget⟩ := List.getElem?_eq_some_iff.mp hfind
  have hsplit : session.inFlight =
      session.inFlight.take position ++ response :: session.inFlight.drop (position + 1) := by
    rw [← hget, List.getElem_cons_drop, List.take_append_drop]
  have houtstanding : session.outstanding = session.inFlight.take position ++ response ::
      (session.inFlight.drop (position + 1) ++ session.strand.filterMap Handler.written) := by
    rw [WebSocketSession.outstanding]
    nth_rewrite 1 [hsplit]
    simp
  obtain ⟨hbefore, hnone, -⟩ := h.front houtstanding
  obtain ⟨hafter, hended⟩ := List.append_eq_nil_iff.mp hnone
  have hone : session.inFlight = [response] := by
    rw [hsplit, hbefore, hafter]
    rfl
  rw [hone] at hlt
  exact ⟨by simpa using hlt, hone, hended⟩

theorem Ordered.writeEnds (h : session.Ordered) (position : Nat) :
    (session.act (.writeEnds position none)).1.Ordered := by
  rw [act]
  cases hfind : session.inFlight[position]? with
  | none => exact h
  | some response =>
    obtain ⟨rfl, hone, hended⟩ := h.inFlight hfind
    have hsame : session.outstanding = [response] := by
      rw [WebSocketSession.outstanding, hone, hended]
      rfl
    have hmoved : ([response].eraseIdx 0 ++
        (session.strand ++ [Handler.onWrite response none]).filterMap Handler.written) =
          [response] := by
      simp [hended, Handler.written]
    refine ⟨?_, ?_, ?_, ?_⟩
    · have houtstanding := h.outstanding
      rw [hsame] at houtstanding
      simpa only [WebSocketSession.outstanding, hone, hmoved] using houtstanding
    · have hstarted := h.started
      rw [hsame] at hstarted
      simpa only [WebSocketSession.outstanding, hone, hmoved] using hstarted
    · simp [h.posted, Handler.toSend]
    · intro handler hhandler
      rcases List.mem_append.mp hhandler with hold | hnew
      · exact h.errorFree handler hold
      · rw [List.mem_singleton.mp hnew]
        rfl

/-- `queueSend` starts a write if and only if the queue was empty. -/
theorem queueSend_eq (mResponseQueue : List String) (response : String) :
    queueSend mResponseQueue response =
      (mResponseQueue ++ [response], if mResponseQueue = [] then some response else none) := by
  rw [queueSend]
  cases mResponseQueue with
  | nil => rfl
  | cons front rest =>
    rw [if_neg (List.cons_ne_nil front rest)]
    exact if_pos (by simp)

theorem Ordered.runQueueSend (h : session.Ordered) {response : String} {strand : List Handler}
    (hstrand : session.strand = .queueSend response :: strand) :
    ({ session with strand := strand }.runHandler (.queueSend response)).1.Ordered := by
  have houtstanding := h.outstanding
  have hstarted := h.started
  have hposted := h.posted
  have herrorFree := h.errorFree
  simp only [WebSocketSession.outstanding, hstrand, List.filterMap_cons, Handler.written,
    Handler.toSend] at houtstanding hstarted hposted herrorFree
  rw [runHandler, queueSend_eq]
  refine ⟨?_, ?_, ?_, fun handler hhandler => herrorFree handler (List.mem_cons_of_mem _ hhandler)⟩
  · cases hqueue : session.mResponseQueue with
    | nil =>
      rw [hqueue] at houtstanding
      obtain ⟨hflight, hended⟩ := List.append_eq_nil_iff.mp houtstanding
      simp [WebSocketSession.outstanding, asyncWrite, hflight, hended]
    | cons front rest =>
      rw [hqueue] at houtstanding
      simpa [WebSocketSession.outstanding, asyncWrite] using houtstanding
  · cases hqueue : session.mResponseQueue with
    | nil =>
      rw [hqueue] at houtstanding
      obtain ⟨hflight, hended⟩ := List.append_eq_nil_iff.mp houtstanding
      simp [WebSocketSession.outstanding, asyncWrite, hstarted, hflight, hended]
    | cons front rest => simp [WebSocketSession.outstanding, asyncWrite, hstarted]
  · simp [asyncWrite, hposted]

/-- `onWrite` finds in front of the queue the reply whose write has ended. -/
theorem Ordered.runOnWrite (h : session.Ordered) {response : String} {errorCode : Option String}
    {strand : List Handler} (hstrand : session.strand = .onWrite response errorCode :: strand) :
    ({ session with strand := strand }.runHandler (.onWrite response errorCode)).1.Ordered ∧
      ({ session with strand := strand }.runHandler (.onWrite response errorCode)).2 = .ok () := by
  have hstarted := h.started
  have hposted := h.posted
  have herrorFree := h.errorFree
  have hsplit : session.outstanding =
      session.inFlight ++ response :: strand.filterMap Handler.written := by
    rw [WebSocketSession.outstanding, hstrand]
    rfl
  obtain ⟨hflight, hended, rest, hqueue⟩ := h.front hsplit
  rw [hsplit, hflight, hended] at hstarted
  rw [hstrand] at hposted herrorFree
  obtain rfl : errorCode = none := herrorFree (.onWrite response errorCode) (by simp)
  rw [runHandler, hqueue]
  refine ⟨⟨?_, ?_, ?_, fun handler hhandler => herrorFree handler
    (List.mem_cons_of_mem _ hhandler)⟩, rfl⟩
  · simp [WebSocketSession.outstanding, onWrite, asyncWrite, hflight, hended]
  · simp [WebSocketSession.outstanding, onWrite, asyncWrite, hstarted, hflight, hended]
  · simp [onWrite, asyncWrite, hposted, hqueue, List.filterMap_cons, Handler.toSend]

theorem Ordered.run (h : session.Ordered) :
    (session.act .run).1.Ordered ∧ (session.act .run).2 = .ok () := by
  rw [act]
  cases hstrand : session.strand with
  | nil => exact ⟨h, rfl⟩
  | cons handler strand =>
    cases handler with
    | queueSend response => exact ⟨h.runQueueSend hstrand, rfl⟩
    | onWrite response errorCode => exact h.runOnWrite hstrand

theorem Ordered.act (h : session.Ordered) {event : Event} (hfree : event.errorCode = none) :
    (session.act event).1.Ordered ∧ (session.act event).2 = .ok () := by
  cases event with
  | reply response => exact ⟨h.reply response, rfl⟩
  | writeEnds position errorCode =>
    obtain rfl : errorCode = none := hfree
    refine ⟨h.writeEnds position, ?_⟩
    rw [WebSocketSession.act]
    cases session.inFlight[position]? <;> rfl
  | run => exact h.run

end WebSocketSession

/-- **The reply queue.**  However posts, the ends of writes and the strand interleave, while
    no write ends with an error: at most one write is outstanding; one is exactly when the
    queue is not empty; the writes started are those completed and then those outstanding,
    and they are the first of the replies that were posted, in order; and the queue is never
    popped while it is empty. -/
theorem writes_ordered (events : List Event) (hfree : ∀ event ∈ events, event.errorCode = none) :
    let session := webSocket.after {} events
    session.outstanding.length ≤ 1 ∧
    (session.outstanding ≠ [] ↔ session.mResponseQueue ≠ []) ∧
    session.started = session.completed ++ session.outstanding ∧
    session.started <+: session.posted ∧
    ∀ step ∈ webSocket.history {} events, step.2 = .ok () := by
  intro session
  have hkept : (∀ step ∈ webSocket.history {} events, step.2 = .ok ()) ∧ session.Ordered := by
    refine webSocket.history_invariant
      (P := fun past session => (∀ step ∈ past, step.2 = .ok ()) ∧ session.Ordered)
      (C := fun _ event => event.errorCode = none) ?_ ⟨by simp, WebSocketSession.ordered_start⟩
      (webSocket.always_of_forall_mem hfree)
    rintro past session event hevent ⟨hpast, hordered⟩
    obtain ⟨hnext, hanswer⟩ := hordered.act hevent
    refine ⟨?_, hnext⟩
    intro step hstep
    rcases List.mem_append.mp hstep with hold | hnew
    · exact hpast step hold
    · rw [List.mem_singleton.mp hnew]
      exact hanswer
  obtain ⟨hanswers, hordered⟩ := hkept
  have houtstanding := hordered.outstanding
  refine ⟨?_, ?_, hordered.started, ?_, hanswers⟩
  · rw [houtstanding]
    cases session.mResponseQueue.head? <;> simp
  · rw [houtstanding]
    cases session.mResponseQueue <;> simp
  · rw [hordered.started, hordered.posted, houtstanding]
    cases session.mResponseQueue with
    | nil => simp
    | cons front rest => simp

/-- Two replies, the second while the first is being written. -/
theorem fork_two_replies :
    let events : List Event := [.reply "first", .run, .reply "second", .run, .writeEnds 0 none]
    (webSocket.after {} events).completed = [] ∧
    (webSocket.after {} events).started = ["first"] ∧
    (webSocket.after {} (events ++ [.run])).started = ["first", "second"] ∧
    (webSocket.after {} (events ++ [.run])).outstanding.length ≤ 1 := by
  intro events
  refine ⟨rfl, rfl, rfl, ?_⟩
  exact (writes_ordered (events ++ [.run]) (by decide)).1

end Us8.WebServer
