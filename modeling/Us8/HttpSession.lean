/-
  Us8/HttpSession.lean
  ====================
  **A connection of the web server** (`handleRequest`, `DetectSession`, `Session`,
  `PlainSession` and `SSLSession` of `services/webServer/server.hpp`).

  A connection is a chain of asynchronous operations: what is being spoken is detected,
  an SSL connection shakes hands, then requests are read and responses written in turn, and
  in the end the connection is shut down.  Each handler starts the next operation, and
  the handlers of a connection run one after the other.  Nothing but this chain keeps a
  connection from reading a request before the last one has been answered.

  Which operation ends when, and how, is the input of a machine.  Of Beast the model has the
  field `Connection` of a message and the two functions that read and write it.
-/
import Us8.Machine

namespace Us8.WebServer

/-! ### Messages -/

inductive HttpVersion where
  | http10
  | http11
deriving DecidableEq

inductive Verb where
  | options
  | get
  | other (name : String)
deriving DecidableEq

/-- Of Beast: `keep_alive()` and `keep_alive(value)` of a message, by its version and what its
    field `Connection` holds. -/
structure Beast where
  keepAlive : HttpVersion → Option String → Bool
  setKeepAlive : HttpVersion → Option String → Bool → Option String

/-- What has been set is what is read. -/
def Beast.KeepsSetting (beast : Beast) : Prop :=
  ∀ version connection value,
    beast.keepAlive version (beast.setKeepAlive version connection value) = value

structure HttpRequest where
  method : Verb
  version : HttpVersion
  connection : Option String
deriving DecidableEq

def HttpRequest.keepAlive (beast : Beast) (request : HttpRequest) : Bool :=
  beast.keepAlive request.version request.connection

/-- `fields` are the fields other than `Connection`. -/
structure HttpResponse where
  result : Nat
  version : HttpVersion
  fields : List (String × String)
  connection : Option String
  body : String
deriving DecidableEq

def HttpResponse.keepAlive (beast : Beast) (response : HttpResponse) : Bool :=
  beast.keepAlive response.version response.connection

/-! ### Requests and their responses -/

/-- What the build decides: the Beast library, whether CORS is enabled, and the name of the
    server. -/
structure ServerBuild where
  beast : Beast
  enableCORS : Bool
  server : String

/-- The part that all responses share; `connection` is what the field has been set to
    before `keep_alive`. -/
def respond (build : ServerBuild) (request : HttpRequest) (result : Nat)
    (fields : List (String × String)) (contentType : String) (connection : Option String)
    (body : String) : HttpResponse where
  result := result
  version := request.version
  fields :=
    (if build.enableCORS then [("Access-Control-Allow-Origin", "*")] else []) ++ fields ++
      [("Server", build.server), ("Content-Type", contentType),
        ("Content-Length", toString body.utf8ByteSize)]
  connection :=
    build.beast.setKeepAlive request.version connection (request.keepAlive build.beast)
  body := body

def badRequest (build : ServerBuild) (request : HttpRequest) (why : String) : HttpResponse :=
  respond build request 400 [] "application/json" none
    ("\x7b\"status\":\"error\", \"reason\":\"" ++ why ++ "\"\x7d")

def serverError (build : ServerBuild) (request : HttpRequest) (what : String) : HttpResponse :=
  respond build request 500 [] "application/json" none
    ("\x7b\"status\":\"error\",\"reason\":\"" ++ what ++ "\"\x7d")

def optionsHandler (build : ServerBuild) (request : HttpRequest) : HttpResponse :=
  respond build request 204
    [("Access-Control-Allow-Credentials", "true"),
      ("Access-Control-Allow-Methods", "GET,HEAD,OPTIONS,POST,PUT"),
      ("Access-Control-Allow-Headers",
        "Access-Control-Allow-Origin, Access-Control-Allow-Headers, " ++
        "Access-Control-Allow-Methods, Connection, Origin, Accept, X-Requested-With, " ++
        "Content-Type, Access-Control-Request-Method, Access-Control-Request-Headers, " ++
        "Authorization"),
      ("Access-Control-Max-Age", "3600")]
    "text/html" (some "close") ""

/-- The callback that would answer a GET is commented out. -/
def handleRequest (build : ServerBuild) (request : HttpRequest) : HttpResponse :=
  if request.method = .options then optionsHandler build request
  else if request.method ≠ .get then badRequest build request "Unknown HTTP-method"
  else serverError build request "Unhandled method"

theorem keepAlive_respond {build : ServerBuild} (hbeast : build.beast.KeepsSetting)
    (request : HttpRequest) (result : Nat) (fields : List (String × String))
    (contentType : String) (connection : Option String) (body : String) :
    (respond build request result fields contentType connection body).keepAlive build.beast =
      request.keepAlive build.beast :=
  hbeast request.version connection (request.keepAlive build.beast)

/-- Also the response to OPTIONS, which asks for the connection to be closed first. -/
theorem keepAlive_handleRequest {build : ServerBuild} (hbeast : build.beast.KeepsSetting)
    (request : HttpRequest) :
    (handleRequest build request).keepAlive build.beast = request.keepAlive build.beast := by
  unfold handleRequest
  split_ifs
  · exact keepAlive_respond hbeast request _ _ _ _ _
  · exact keepAlive_respond hbeast request _ _ _ _ _
  · exact keepAlive_respond hbeast request _ _ _ _ _

/-- No response says that a request has succeeded with something to show for it. -/
theorem result_handleRequest (build : ServerBuild) (request : HttpRequest) :
    (handleRequest build request).result ∈ [204, 400, 500] := by
  unfold handleRequest
  split_ifs
  · exact List.mem_cons_self
  · exact List.mem_cons_of_mem _ List.mem_cons_self
  · exact List.mem_cons_of_mem _ (List.mem_cons_of_mem _ List.mem_cons_self)

/-! ### The connection -/

inductive Operation where
  | detect
  | handshake
  | read
  | write (keepAlive : Bool) (response : HttpResponse)
  | shutdown
deriving DecidableEq

inductive ErrorCode where
  | endOfStream
  | other (what : String)
deriving DecidableEq

/-- How an operation ends; `result` is what was detected, `request` what was read. -/
structure Completion where
  errorCode : Option ErrorCode
  result : Bool
  request : HttpRequest
deriving DecidableEq

/-- `ssl` is which of the two sessions the connection has, once that is known, and `closes`
    how often the connection has been closed. -/
structure HttpConnection where
  outstanding : List Operation := [.detect]
  ssl : Option Bool := none
  closes : Nat := 0

namespace HttpConnection

def async (connection : HttpConnection) (operation : Operation) : HttpConnection :=
  { connection with outstanding := connection.outstanding ++ [operation] }

def doRead (connection : HttpConnection) : HttpConnection := connection.async .read

/-- A plain connection is shut down at once. -/
def closeConnection (connection : HttpConnection) : HttpConnection :=
  let closed := { connection with closes := connection.closes + 1 }
  if connection.ssl = some true then closed.async .shutdown else closed

def onDetect (connection : HttpConnection) (errorCode : Option ErrorCode) (result : Bool) :
    HttpConnection :=
  match errorCode with
  | some _ => connection
  | none =>
      let detected := { connection with ssl := some result }
      if result then detected.async .handshake else detected.doRead

def onHandshake (connection : HttpConnection) (errorCode : Option ErrorCode) : HttpConnection :=
  match errorCode with
  | some _ => connection
  | none => connection.doRead

def sendResponse (beast : Beast) (connection : HttpConnection) (response : HttpResponse) :
    HttpConnection :=
  connection.async (.write (response.keepAlive beast) response)

def onRead (build : ServerBuild) (connection : HttpConnection) (errorCode : Option ErrorCode)
    (request : HttpRequest) : HttpConnection :=
  match errorCode with
  | some .endOfStream => connection.closeConnection
  | some (.other _) => connection
  | none => connection.sendResponse build.beast (handleRequest build request)

def onWrite (connection : HttpConnection) (keepAlive : Bool) (errorCode : Option ErrorCode) :
    HttpConnection :=
  match errorCode with
  | some _ => connection
  | none => if keepAlive then connection.doRead else connection.closeConnection

def handle (build : ServerBuild) (connection : HttpConnection) (completion : Completion) :
    Operation → HttpConnection
  | .detect => connection.onDetect completion.errorCode completion.result
  | .handshake => connection.onHandshake completion.errorCode
  | .read => connection.onRead build completion.errorCode completion.request
  | .write keepAlive _ => connection.onWrite keepAlive completion.errorCode
  | .shutdown => connection

end HttpConnection

/-- An operation that has ended, and how. -/
abbrev Completed := Operation × Completion

/-- The operation at a position among those that are outstanding ends; the answer is which
    one it was. -/
def httpConnection (build : ServerBuild) :
    Machine HttpConnection (Nat × Completion) (Option Completed) where
  step connection event :=
    match connection.outstanding[event.1]? with
    | none => (connection, none)
    | some operation =>
        ({ connection with
            outstanding := connection.outstanding.eraseIdx event.1 }.handle build event.2
              operation, some (operation, event.2))

/-! ### What the operations that have ended have done -/

/-- The response that a write is for. -/
def Operation.response : Operation → Option HttpResponse
  | .write _ response => some response
  | _ => none

namespace Completed

/-- The request that has been read. -/
def request : Completed → Option HttpRequest
  | (.read, completion) => if completion.errorCode = none then some completion.request else none
  | _ => none

/-- The response that has been written, or whose writing has failed. -/
def response (entry : Completed) : Option HttpResponse := entry.1.response

/-- The response that has been written. -/
def written (entry : Completed) : Option HttpResponse :=
  if entry.2.errorCode = none then entry.response else none

/-- The other side has closed the connection, or the last response says to. -/
def closing : Completed → Bool
  | (.read, completion) => completion.errorCode = some .endOfStream
  | (.write keepAlive _, completion) => completion.errorCode = none && !keepAlive
  | _ => false

/-- Nothing is to follow on the operation. -/
def final (entry : Completed) : Bool := entry.2.errorCode.isSome || entry.closing

end Completed

def requestsOf (completed : List Completed) : List HttpRequest :=
  completed.filterMap Completed.request

def responsesOf (completed : List Completed) : List HttpResponse :=
  completed.filterMap Completed.response

def writtenOf (completed : List Completed) : List HttpResponse :=
  completed.filterMap Completed.written

def closings (completed : List Completed) : Nat := completed.countP Completed.closing

section Concat

variable (completed : List Completed) (entry : Completed)

@[simp] theorem requestsOf_concat : requestsOf (completed ++ [entry]) =
    requestsOf completed ++ entry.request.toList := by
  cases hentry : entry.request <;> simp [requestsOf, hentry]

@[simp] theorem responsesOf_concat : responsesOf (completed ++ [entry]) =
    responsesOf completed ++ entry.response.toList := by
  cases hentry : entry.response <;> simp [responsesOf, hentry]

@[simp] theorem writtenOf_concat : writtenOf (completed ++ [entry]) =
    writtenOf completed ++ entry.written.toList := by
  cases hentry : entry.written <;> simp [writtenOf, hentry]

@[simp] theorem closings_concat :
    closings (completed ++ [entry]) = closings completed + entry.closing.toNat := by
  cases hentry : entry.closing <;> simp [closings, hentry]

end Concat

/-! ### One operation after the other -/

namespace HttpConnection

variable {build : ServerBuild} {completed : List Completed} {connection : HttpConnection}

/-- The requests all ask for the connection to be kept alive. -/
def Kept (build : ServerBuild) (requests : List HttpRequest) : Prop :=
  ∀ request ∈ requests, request.keepAlive build.beast = true

theorem kept_dropLast {requests : List HttpRequest} (hkept : Kept build requests) :
    Kept build requests.dropLast :=
  fun request hmem => hkept request (List.dropLast_subset requests hmem)

theorem kept_concat {requests : List HttpRequest} {request : HttpRequest}
    (hkept : Kept build requests) (halive : request.keepAlive build.beast = true) :
    Kept build (requests ++ [request]) := by
  intro other hother
  rcases List.mem_append.mp hother with hold | hnew
  · exact hkept other hold
  · rw [List.mem_singleton.mp hnew]
    exact halive

/-- The stages of a connection, by the operation that is outstanding; at most one is. -/
inductive Stage (build : ServerBuild) (completed : List Completed) (connection : HttpConnection) :
    Prop where
  | detecting (outstanding : connection.outstanding = [.detect])
      (requests : requestsOf completed = []) (written : writtenOf completed = responsesOf completed)
      (closings : closings completed = 0)
  | handshaking (outstanding : connection.outstanding = [.handshake])
      (requests : requestsOf completed = []) (written : writtenOf completed = responsesOf completed)
      (closings : closings completed = 0) (ssl : connection.ssl = some true)
  | reading (outstanding : connection.outstanding = [.read])
      (kept : Kept build (requestsOf completed))
      (written : writtenOf completed = responsesOf completed) (closings : closings completed = 0)
  | writing (earlier : List HttpRequest) (request : HttpRequest)
      (outstanding : connection.outstanding =
        [.write (request.keepAlive build.beast) (handleRequest build request)])
      (requests : requestsOf completed = earlier ++ [request]) (kept : Kept build earlier)
      (written : writtenOf completed = responsesOf completed) (closings : closings completed = 0)
  | shuttingDown (outstanding : connection.outstanding = [.shutdown])
      (kept : Kept build (requestsOf completed).dropLast)
      (written : writtenOf completed = responsesOf completed) (closings : closings completed = 1)
      (ssl : connection.ssl = some true)
      (final : ∃ entry ∈ completed, entry.final = true)
  | finished (outstanding : connection.outstanding = [])
      (kept : Kept build (requestsOf completed).dropLast)
      (written : closings completed = 0 ∨
        closings completed = 1 ∧ writtenOf completed = responsesOf completed)
      (final : ∃ entry ∈ completed, entry.final = true)

/-- The responses given to `async_write` are those to the requests that have been read, in
    order. -/
structure Conversation (build : ServerBuild) (completed : List Completed)
    (connection : HttpConnection) : Prop where
  answers : responsesOf completed ++ connection.outstanding.filterMap Operation.response =
    (requestsOf completed).map (handleRequest build)
  closes : connection.closes = closings completed
  stage : Stage build completed connection

/-- Between two operations: all that has been read has been answered. -/
structure Answered (build : ServerBuild) (completed : List Completed)
    (connection : HttpConnection) : Prop where
  outstanding : connection.outstanding = []
  answers : responsesOf completed = (requestsOf completed).map (handleRequest build)
  written : writtenOf completed = responsesOf completed
  closings : closings completed = 0
  closes : connection.closes = 0

/-- An operation that neither reads nor writes nor closes does not count. -/
theorem Answered.concat (h : Answered build completed connection) {entry : Completed}
    (hrequest : entry.request = none) (hresponse : entry.response = none)
    (hclosing : entry.closing = false) :
    Answered build (completed ++ [entry]) connection := by
  refine ⟨h.outstanding, ?_, ?_, ?_, h.closes⟩
  · simpa [hrequest, hresponse] using h.answers
  · simpa [hresponse, Completed.written] using h.written
  · simpa [hclosing] using h.closings

/-- A connection that may go on reads the next request. -/
theorem Answered.doRead (h : Answered build completed connection)
    (hkept : Kept build (requestsOf completed)) :
    Conversation build completed connection.doRead := by
  refine ⟨?_, h.closes.trans h.closings.symm, .reading ?_ hkept h.written h.closings⟩
  · simp [HttpConnection.doRead, async, h.outstanding, Operation.response, h.answers]
  · simp [HttpConnection.doRead, async, h.outstanding]

/-- After an error nothing follows. -/
theorem Conversation.failed (hnone : connection.outstanding = [])
    (hanswers : responsesOf completed = (requestsOf completed).map (handleRequest build))
    (hcloses : connection.closes = 0) (hkept : Kept build (requestsOf completed).dropLast)
    (hclosings : closings completed = 0) (hfinal : ∃ entry ∈ completed, entry.final = true) :
    Conversation build completed connection := by
  refine ⟨?_, hcloses.trans hclosings.symm, .finished hnone hkept (Or.inl hclosings) hfinal⟩
  simp [hnone, hanswers]

/-- A connection whose requests have all been answered is closed. -/
theorem Conversation.closeConnection (hnone : connection.outstanding = [])
    (hanswers : responsesOf completed = (requestsOf completed).map (handleRequest build))
    (hcloses : connection.closes = 0) (hkept : Kept build (requestsOf completed).dropLast)
    (hwritten : writtenOf completed = responsesOf completed) (hclosings : closings completed = 1)
    (hfinal : ∃ entry ∈ completed, entry.final = true) :
    Conversation build completed connection.closeConnection := by
  unfold HttpConnection.closeConnection
  dsimp only
  split_ifs with hssl
  · refine ⟨?_, ?_, .shuttingDown ?_ hkept hwritten hclosings hssl hfinal⟩
    · simp [async, hnone, Operation.response, hanswers]
    · simp [async, hcloses, hclosings]
    · simp [async, hnone]
  · refine ⟨?_, ?_, .finished hnone hkept (Or.inr ⟨hclosings, hwritten⟩) hfinal⟩
    · simp [hnone, hanswers]
    · simp [hcloses, hclosings]

/-- The entry that has just been added says that nothing is to follow. -/
theorem exists_final {entry : Completed} (h : entry.final = true) :
    ∃ other ∈ completed ++ [entry], other.final = true :=
  ⟨entry, by simp, h⟩

theorem kept_nil (hrequests : requestsOf completed = []) : Kept build (requestsOf completed) := by
  rw [hrequests]
  nofun

theorem Answered.onDetect (h : Answered build completed connection)
    (hrequests : requestsOf completed = []) (completion : Completion) :
    Conversation build (completed ++ [(.detect, completion)])
      (connection.onDetect completion.errorCode completion.result) := by
  have hnext : Answered build (completed ++ [(.detect, completion)]) connection :=
    h.concat rfl rfl rfl
  have hrequests' : requestsOf (completed ++ [(.detect, completion)]) = [] := by
    simp [hrequests, Completed.request]
  cases herror : completion.errorCode with
  | some error =>
    exact .failed hnext.outstanding hnext.answers hnext.closes
      (kept_dropLast (kept_nil hrequests')) hnext.closings
      (exists_final (by simp [Completed.final, herror]))
  | none =>
    let detected : HttpConnection := { connection with ssl := some completion.result }
    show Conversation build _
      (if completion.result then detected.async .handshake else detected.doRead)
    split_ifs with hssl
    · refine ⟨?_, hnext.closes.trans hnext.closings.symm,
        .handshaking ?_ hrequests' hnext.written hnext.closings ?_⟩
      · simp [detected, async, hnext.outstanding, Operation.response, hnext.answers]
      · simp [detected, async, hnext.outstanding]
      · simp [detected, async, hssl]
    · have hdetected : Answered build (completed ++ [(.detect, completion)]) detected :=
        ⟨hnext.outstanding, hnext.answers, hnext.written, hnext.closings, hnext.closes⟩
      exact hdetected.doRead (kept_nil hrequests')

theorem Answered.onHandshake (h : Answered build completed connection)
    (hrequests : requestsOf completed = []) (completion : Completion) :
    Conversation build (completed ++ [(.handshake, completion)])
      (connection.onHandshake completion.errorCode) := by
  have hnext : Answered build (completed ++ [(.handshake, completion)]) connection :=
    h.concat rfl rfl rfl
  have hrequests' : requestsOf (completed ++ [(.handshake, completion)]) = [] := by
    simp [hrequests, Completed.request]
  cases herror : completion.errorCode with
  | some error =>
    exact .failed hnext.outstanding hnext.answers hnext.closes
      (kept_dropLast (kept_nil hrequests')) hnext.closings
      (exists_final (by simp [Completed.final, herror]))
  | none => exact hnext.doRead (kept_nil hrequests')

theorem Answered.onRead (hbeast : build.beast.KeepsSetting)
    (h : Answered build completed connection) (hkept : Kept build (requestsOf completed))
    (completion : Completion) :
    Conversation build (completed ++ [(.read, completion)])
      (connection.onRead build completion.errorCode completion.request) := by
  cases herror : completion.errorCode with
  | none =>
    refine ⟨?_, ?_, .writing (requestsOf completed) completion.request ?_ ?_ hkept ?_ ?_⟩
    · simp [HttpConnection.onRead, sendResponse, async, h.outstanding, h.answers,
        Completed.request, Completed.response, Operation.response, herror]
    · simp [HttpConnection.onRead, sendResponse, async, h.closes, h.closings, Completed.closing,
        herror]
    · simp [HttpConnection.onRead, sendResponse, async, h.outstanding,
        keepAlive_handleRequest hbeast]
    · simp [Completed.request, herror]
    · simp [h.written, Completed.written, Completed.response, Operation.response]
    · simp [h.closings, Completed.closing, herror]
  | some error =>
    have hrequests : requestsOf (completed ++ [(.read, completion)]) = requestsOf completed := by
      simp [Completed.request, herror]
    have hanswers : responsesOf (completed ++ [(.read, completion)]) =
        (requestsOf (completed ++ [(.read, completion)])).map (handleRequest build) := by
      rw [hrequests, ← h.answers]
      simp [Completed.response, Operation.response]
    have hdropLast : Kept build (requestsOf (completed ++ [(.read, completion)])).dropLast := by
      rw [hrequests]
      exact kept_dropLast hkept
    have hfinal : ∃ entry ∈ completed ++ [(Operation.read, completion)], Completed.final entry :=
      exists_final (by simp [Completed.final, herror])
    cases error with
    | endOfStream =>
      apply Conversation.closeConnection h.outstanding hanswers h.closes hdropLast _ _ hfinal
      · simp [h.written, Completed.written, Completed.response, Operation.response]
      · simp [h.closings, Completed.closing, herror]
    | other what =>
      apply Conversation.failed h.outstanding hanswers h.closes hdropLast _ hfinal
      simp [h.closings, Completed.closing, herror]

theorem Conversation.onWrite {earlier : List HttpRequest} {request : HttpRequest}
    (hnone : connection.outstanding = []) (hcloses : connection.closes = 0)
    (hanswers : responsesOf completed = earlier.map (handleRequest build))
    (hrequests : requestsOf completed = earlier ++ [request]) (hkept : Kept build earlier)
    (hwritten : writtenOf completed = responsesOf completed) (hclosings : closings completed = 0)
    (completion : Completion) :
    Conversation build
      (completed ++ [(.write (request.keepAlive build.beast) (handleRequest build request),
        completion)])
      (connection.onWrite (request.keepAlive build.beast) completion.errorCode) := by
  obtain ⟨entry, hentry⟩ : ∃ entry : Completed, entry =
      (.write (request.keepAlive build.beast) (handleRequest build request), completion) :=
    ⟨_, rfl⟩
  have hrequests' : requestsOf (completed ++ [entry]) = earlier ++ [request] := by
    simp [hentry, hrequests, Completed.request]
  have hanswers' : responsesOf (completed ++ [entry]) =
      (requestsOf (completed ++ [entry])).map (handleRequest build) := by
    rw [hrequests']
    simp [hentry, hanswers, Completed.response, Operation.response]
  have hdropLast : Kept build (requestsOf (completed ++ [entry])).dropLast := by
    rw [hrequests', List.dropLast_concat]
    exact hkept
  rw [← hentry]
  cases herror : completion.errorCode with
  | some error =>
    apply Conversation.failed hnone hanswers' hcloses hdropLast
    · simp [hentry, hclosings, Completed.closing, herror]
    · exact exists_final (by simp [hentry, Completed.final, herror])
  | none =>
    have hwritten' : writtenOf (completed ++ [entry]) = responsesOf (completed ++ [entry]) := by
      simp [hentry, hwritten, Completed.written, herror]
    show Conversation build _ (if request.keepAlive build.beast then connection.doRead
      else connection.closeConnection)
    split_ifs with halive
    · have hnext : Answered build (completed ++ [entry]) connection := by
        refine ⟨hnone, hanswers', hwritten', ?_, hcloses⟩
        simp [hentry, hclosings, Completed.closing, halive]
      apply hnext.doRead
      rw [hrequests']
      exact kept_concat hkept halive
    · apply Conversation.closeConnection hnone hanswers' hcloses hdropLast hwritten'
      · simp [hentry, hclosings, Completed.closing, herror, halive]
      · exact exists_final (by simp [hentry, Completed.final, Completed.closing, herror, halive])

/-- The operation that ends is the only one, and its handler starts one more at most. -/
theorem Conversation.step (hbeast : build.beast.KeepsSetting)
    (h : Conversation build completed connection) (event : Nat × Completion) :
    Conversation build
      (completed ++ ((httpConnection build).step connection event).2.toList)
      ((httpConnection build).step connection event).1 := by
  rcases event with ⟨position, completion⟩
  have hown := h
  rcases h with ⟨hanswers, hcloses, hstage⟩
  let free : HttpConnection := { connection with outstanding := [] }
  have hnext {operation : Operation} (hout : connection.outstanding = [operation])
      (hhandled : Conversation build (completed ++ [(operation, completion)])
        (free.handle build completion operation)) :
      Conversation build
        (completed ++ ((httpConnection build).step connection (position, completion)).2.toList)
        ((httpConnection build).step connection (position, completion)).1 := by
    simp only [httpConnection, hout]
    cases position with
    | zero => exact hhandled
    | succ n => simpa using hown
  have hnothing {operation : Operation} (hout : connection.outstanding = [operation])
      (hresponse : operation.response = none) :
      responsesOf completed = (requestsOf completed).map (handleRequest build) := by
    rw [hout, List.filterMap_cons_none hresponse, List.filterMap_nil, List.append_nil] at hanswers
    exact hanswers
  cases hstage with
  | finished hout hkept hwritten hfinal =>
    simp only [httpConnection, hout, List.getElem?_nil]
    simpa using hown
  | detecting hout hrequests hwritten hclosings =>
    have hanswered : Answered build completed free :=
      ⟨rfl, hnothing hout rfl, hwritten, hclosings, hcloses.trans hclosings⟩
    exact hnext hout (hanswered.onDetect hrequests completion)
  | handshaking hout hrequests hwritten hclosings hssl =>
    have hanswered : Answered build completed free :=
      ⟨rfl, hnothing hout rfl, hwritten, hclosings, hcloses.trans hclosings⟩
    exact hnext hout (hanswered.onHandshake hrequests completion)
  | reading hout hkept hwritten hclosings =>
    have hanswered : Answered build completed free :=
      ⟨rfl, hnothing hout rfl, hwritten, hclosings, hcloses.trans hclosings⟩
    exact hnext hout (hanswered.onRead hbeast hkept completion)
  | writing earlier request hout hrequests hkept hwritten hclosings =>
    have hearlier : responsesOf completed = earlier.map (handleRequest build) := by
      simpa [hout, hrequests, Operation.response] using hanswers
    have hfree : free.outstanding = [] := rfl
    exact hnext hout (Conversation.onWrite hfree (hcloses.trans hclosings)
      hearlier hrequests hkept hwritten hclosings completion)
  | shuttingDown hout hkept hwritten hclosings hssl hfinal =>
    apply hnext hout
    refine ⟨?_, ?_, .finished rfl ?_ (Or.inr ⟨?_, ?_⟩) ?_⟩
    · simpa [free, handle, Operation.response, Completed.request, Completed.response]
        using hnothing hout rfl
    · simpa [free, handle, Completed.closing] using hcloses
    · simpa [Completed.request] using hkept
    · simpa [Completed.closing] using hclosings
    · simpa [Completed.written, Completed.response, Operation.response] using hwritten
    · rcases hfinal with ⟨entry, hmem, hlast⟩
      exact ⟨entry, List.mem_append_left _ hmem, hlast⟩

theorem conversation_start : Conversation build [] {} :=
  ⟨rfl, rfl, .detecting rfl rfl rfl rfl⟩

theorem conversation_after (hbeast : build.beast.KeepsSetting) (events : List (Nat × Completion)) :
    Conversation build ((httpConnection build).emitted {} events)
      ((httpConnection build).after {} events) := by
  induction events using List.reverseRecOn with
  | nil => exact conversation_start
  | append_singleton events event ih =>
    rw [Machine.emitted_concat, Machine.after_concat]
    exact ih.step hbeast event

/-! ### What a client can rely on -/

/-- Nothing is outstanding any more but the shutdown of the connection. -/
def Ended (connection : HttpConnection) : Prop :=
  ∀ operation ∈ connection.outstanding, operation = .shutdown

/-- Of a connection that has ended only the shutdown ends, and nothing starts. -/
theorem Ended.step (h : Ended connection) (event : Nat × Completion) :
    Ended ((httpConnection build).step connection event).1 ∧
      ((httpConnection build).step connection event).1.closes = connection.closes ∧
      ∀ entry ∈ ((httpConnection build).step connection event).2, entry.1 = .shutdown := by
  unfold httpConnection
  dsimp only
  cases hfind : connection.outstanding[event.1]? with
  | none => exact ⟨h, rfl, by simp⟩
  | some operation =>
    have hshutdown : operation = .shutdown := h operation (List.mem_of_getElem? hfind)
    subst hshutdown
    refine ⟨?_, rfl, ?_⟩
    · intro other hother
      exact h other (List.mem_of_mem_eraseIdx hother)
    · intro entry hentry
      rw [Option.mem_some_iff] at hentry
      rw [← hentry]

theorem Ended.after (h : Ended connection) (later : List (Nat × Completion)) :
    ((httpConnection build).after connection later).closes = connection.closes ∧
      ∀ entry ∈ (httpConnection build).emitted connection later, entry.1 = .shutdown := by
  induction later generalizing connection with
  | nil => exact ⟨rfl, by simp⟩
  | cons event later ih =>
    rcases @Ended.step build connection h event with ⟨hended, hcloses, hfirst⟩
    rcases ih hended with ⟨hcloses', hrest⟩
    refine ⟨hcloses'.trans hcloses, ?_⟩
    intro entry hentry
    rw [Machine.emitted_cons, List.mem_append] at hentry
    rcases hentry with hnow | hlater
    · exact hfirst entry (by simpa using hnow)
    · exact hrest entry hlater

/-- `completed` are the operations that have ended, in order.  The responses given to
    `async_write`, those of the writes that have ended and of the one that has not, are those
    to the requests read; and nothing is outstanding only after an error or a close. -/
structure OneAtATime (build : ServerBuild) (completed : List Completed)
    (connection : HttpConnection) : Prop where
  outstanding : connection.outstanding.length ≤ 1
  goesOn : connection.outstanding = [] → ∃ entry ∈ completed, entry.final = true
  answers : responsesOf completed ++ connection.outstanding.filterMap Operation.response =
    (requestsOf completed).map (handleRequest build)
  answeredFirst : .read ∈ connection.outstanding →
    writtenOf completed = (requestsOf completed).map (handleRequest build)
  kept : Kept build (requestsOf completed).dropLast
  closes : connection.closes = closings completed
  closesOnce : connection.closes ≤ 1
  closedLast : connection.closes = 1 → Ended connection ∧
    writtenOf completed = (requestsOf completed).map (handleRequest build)
  handshake : .handshake ∈ connection.outstanding ∨ .shutdown ∈ connection.outstanding →
    connection.ssl = some true

theorem Conversation.oneAtATime (h : Conversation build completed connection) :
    OneAtATime build completed connection := by
  rcases h with ⟨hanswers, hcloses, hstage⟩
  have hopen (hclosings : closings completed = 0) {P : Prop} : connection.closes = 1 → P := by
    intro hclosed
    rw [hcloses, hclosings] at hclosed
    cases hclosed
  cases hstage with
  | detecting hout hrequests hwritten hclosings =>
    exact ⟨by simp [hout], by simp [hout], hanswers, by simp [hout],
      kept_dropLast (kept_nil hrequests), hcloses, by simp [hcloses, hclosings],
      hopen hclosings, by simp [hout]⟩
  | handshaking hout hrequests hwritten hclosings hssl =>
    exact ⟨by simp [hout], by simp [hout], hanswers, by simp [hout],
      kept_dropLast (kept_nil hrequests), hcloses, by simp [hcloses, hclosings],
      hopen hclosings, fun _ => hssl⟩
  | reading hout hkept hwritten hclosings =>
    refine ⟨by simp [hout], by simp [hout], hanswers, ?_, kept_dropLast hkept, hcloses,
      by simp [hcloses, hclosings], hopen hclosings, by simp [hout]⟩
    intro _
    rw [hwritten, ← hanswers]
    simp [hout, Operation.response]
  | writing earlier request hout hrequests hkept hwritten hclosings =>
    refine ⟨by simp [hout], by simp [hout], hanswers, by simp [hout], ?_, hcloses,
      by simp [hcloses, hclosings], hopen hclosings, by simp [hout]⟩
    rw [hrequests, List.dropLast_concat]
    exact hkept
  | shuttingDown hout hkept hwritten hclosings hssl hfinal =>
    refine ⟨by simp [hout], fun _ => hfinal, hanswers, by simp [hout], hkept, hcloses,
      by simp [hcloses, hclosings], ?_, fun _ => hssl⟩
    intro _
    refine ⟨by simp [Ended, hout], ?_⟩
    rw [hwritten, ← hanswers]
    simp [hout, Operation.response]
  | finished hout hkept hwritten hfinal =>
    refine ⟨by simp [hout], fun _ => hfinal, hanswers, by simp [hout], hkept, hcloses, ?_, ?_,
      by simp [hout]⟩
    · rcases hwritten with hclosings | ⟨hclosings, -⟩
      · simp [hcloses, hclosings]
      · simp [hcloses, hclosings]
    · rcases hwritten with hclosings | ⟨-, hwritten⟩
      · exact hopen hclosings
      · intro _
        refine ⟨by simp [Ended, hout], ?_⟩
        rw [hwritten, ← hanswers]
        simp [hout]

end HttpConnection

/-- **One request at a time.**  However the operations of a connection end, at most one is
    outstanding, and one is until an error or the close; the responses given to be written are
    those to the requests that have been read, in order, and a request is read only when all
    before it have been answered and asked to be kept alive; the connection is closed at most
    once, when everything has been answered; of a connection that has ended nothing but the
    shutdown ends later; and no response has a status other than 204, 400 or 500. -/
theorem http_one_at_a_time (build : ServerBuild) (hbeast : build.beast.KeepsSetting)
    (events later : List (Nat × Completion)) :
    let connection := (httpConnection build).after {} events
    let completed := (httpConnection build).emitted {} events
    HttpConnection.OneAtATime build completed connection ∧
      (connection.Ended →
        ((httpConnection build).after connection later).closes = connection.closes ∧
          ∀ entry ∈ (httpConnection build).emitted connection later, entry.1 = .shutdown) ∧
      ∀ request, (handleRequest build request).result ∈ [204, 400, 500] := by
  intro connection completed
  have hkept := HttpConnection.conversation_after hbeast events
  exact ⟨hkept.oneAtATime, fun hended => hended.after later, result_handleRequest build⟩

/-- Beast, of messages that have no field `Connection`, or one token in small letters. -/
def forkBeast : Beast where
  keepAlive
    | .http10, connection => connection = some "keep-alive"
    | .http11, connection => connection ≠ some "close"
  setKeepAlive
    | .http10, _, value => if value then some "keep-alive" else none
    | .http11, _, value => if value then none else some "close"

def forkBuild : ServerBuild := ⟨forkBeast, true, "us8"⟩

theorem forkBeast_keepsSetting : forkBeast.KeepsSetting := by
  intro version connection value
  cases version <;> cases value <;> rfl

def forkRequest (method : Verb) (connection : Option String) : HttpRequest :=
  ⟨method, .http11, connection⟩

/-- On a plain connection, a GET, and a request for the options that is to be the last. -/
def forkConversation : List (Nat × Completion) :=
  [(0, ⟨none, false, forkRequest .get none⟩), (0, ⟨none, false, forkRequest .get none⟩),
    (0, ⟨none, false, forkRequest .get none⟩),
    (0, ⟨none, false, forkRequest .options (some "close")⟩),
    (0, ⟨none, false, forkRequest .get none⟩)]

theorem fork_http_one_at_a_time :
    let connection := (httpConnection forkBuild).after {} forkConversation
    let completed := (httpConnection forkBuild).emitted {} forkConversation
    (writtenOf completed).map HttpResponse.result = [500, 204] ∧ connection.closes = 1 ∧
      HttpConnection.OneAtATime forkBuild completed connection :=
  ⟨by decide, by decide,
    (http_one_at_a_time forkBuild forkBeast_keepsSetting forkConversation []).1⟩

end Us8.WebServer
