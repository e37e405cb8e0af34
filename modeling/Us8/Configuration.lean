/-
  Us8/Configuration.lean
  ======================
  **From the initialization file to the sockets** (`parseIniFile` and the constructors of
  `Process` in `broadcasts/dataPacket/sanitizer/sanitizer.cpp` and
  `broadcasts/dataPacket/seedLink/publisher.cpp`; `publisherOptions.cpp`,
  `subscriberOptions.cpp` and the constructors in `publisher.cpp` and `subscriber.cpp` of
  `broadcasts/dataPacket`).

  A value of the file is checked more than once: when the file is parsed, when it is put into
  the options of a publisher or subscriber, and by ZeroMQ when the socket is set up.  The
  checks in the middle remove white space before they look, the ones on parsing do not.  What
  the first let through never fails the second (`EndPointOptions.new_ok`), so with a file that
  has been parsed only a library can refuse: ZeroMQ, or libslink when the SEEDLink publisher
  makes its client.  The exception that ends the program says so
  (`accepted_configuration_reaches_sockets`).

  `PublisherOptions` and `SubscriberOptions` are one structure here, with what the checks
  establish as fields.  Of the libraries nothing is assumed: they may take or refuse anything.
-/
import Us8.SanitizerGuarantees
import Us8.SEEDLinkOptions
import Us8.SEEDLinkConstruction
import Us8.Subscriber

namespace Us8

/-! ### The options of a broadcast's ends -/

/-- `erase(remove_if(…, ::isspace))`. -/
def eraseSpaces (endPoint : String) : String :=
  String.ofList (endPoint.toList.filter fun c => !isspace c)

def hasScheme (endPoint : String) : Bool :=
  endPoint.startsWith "tcp://" || endPoint.startsWith "udp://" ||
    endPoint.startsWith "inproc://"

/-- The time out is in milliseconds, and -1 waits forever. -/
structure EndPointOptions where
  mEndPoint : String
  mTimeOut : Int64 := 10
  mHighWaterMark : Int32 := 4096
  endPoint_scheme : hasScheme mEndPoint = true
  endPoint_spaces : ∀ c ∈ mEndPoint.toList, isspace c = false
  timeOut_ge : -1 ≤ mTimeOut := by decide
  highWaterMark_nonneg : 0 ≤ mHighWaterMark := by decide

theorem toList_eraseSpaces (endPoint : String) :
    (eraseSpaces endPoint).toList = endPoint.toList.filter fun c => !isspace c :=
  String.toList_ofList

theorem isspace_of_mem_eraseSpaces {endPoint : String} :
    ∀ c ∈ (eraseSpaces endPoint).toList, isspace c = false := by
  intro c hc
  rw [toList_eraseSpaces, List.mem_filter] at hc
  simpa using hc.2

namespace EndPointOptions

def new (endPointIn : String) : Except StdException EndPointOptions :=
  if (eraseSpaces endPointIn).isEmpty then .error (.invalidArgument "End point is empty")
  else if h : hasScheme (eraseSpaces endPointIn) = true then
    .ok {
      mEndPoint := eraseSpaces endPointIn
      endPoint_scheme := h
      endPoint_spaces := isspace_of_mem_eraseSpaces }
  else
    .error (.invalidArgument "End point must start with tcp:// or udp:// or inproc://")

/-- `setTimeOut`. -/
def setTimeOut (options : EndPointOptions) (timeOut : Int64) : EndPointOptions :=
  if h : timeOut < 0 then { options with mTimeOut := -1, timeOut_ge := by decide }
  else
    { options with
      mTimeOut := timeOut
      timeOut_ge := by
        rw [Int64.lt_iff_toInt_lt] at h
        rw [Int64.le_iff_toInt_le]
        have hone : (-1 : Int64).toInt = -1 := by decide
        have hzero : (0 : Int64).toInt = 0 := by decide
        omega }

/-- `setHighWaterMark`. -/
def setHighWaterMark (options : EndPointOptions) (highWaterMark : Int32) :
    Except StdException EndPointOptions :=
  if h : highWaterMark < 0 then
    .error (.invalidArgument "High water mark must be non-negative")
  else
    .ok
      { options with
        mHighWaterMark := highWaterMark
        highWaterMark_nonneg := Int32.not_lt.mp h }

end EndPointOptions

abbrev PublisherOptions := EndPointOptions

/-- The callback is the one of `SubscriberImpl`. -/
structure SubscriberOptions extends EndPointOptions where
  /-- In seconds. -/
  mLoggingInterval : Int64 := 3600

/-! ### Sockets -/

structure SocketSettings where
  highWaterMark : Int32
  timeOut : Int32
  subscribe : List Frame := []
  endPoint : String
deriving DecidableEq

/-- The text of the exception with which ZeroMQ refuses these settings, if it does. -/
def ZeroMQ := SocketSettings → Option String

/-- The settings of a socket that was set up. -/
def ZeroMQ.connect (zmq : ZeroMQ) (settings : SocketSettings) :
    Except StdException SocketSettings :=
  match zmq settings with
  | none => .ok settings
  | some what => .error (.runtimeError what)

/-- A `try` block whose exceptions are thrown again with this before their text. -/
def failedTo {α : Type} (text : String) : Except StdException α → Except StdException α
  | .ok a => .ok a
  | .error e => .error (.runtimeError (text ++ " because " ++ e.what))

/-- The constructor of `PublisherImpl`. -/
def PublisherImpl.new (zmq : ZeroMQ) (options : PublisherOptions) :
    Except StdException SocketSettings :=
  failedTo "Failed to initialize publisher socket"
    (zmq.connect {
      highWaterMark := options.mHighWaterMark
      timeOut := options.mTimeOut.toInt32
      endPoint := options.mEndPoint })

/-- The constructor of `SubscriberImpl`. -/
def SubscriberImpl.new (zmq : ZeroMQ) (options : SubscriberOptions) :
    Except StdException SocketSettings :=
  failedTo "Failed to initialize subscriber socket"
    (zmq.connect {
      highWaterMark := options.mHighWaterMark
      timeOut := options.mTimeOut.toInt32
      subscribe := createMessageTypes
      endPoint := options.mEndPoint })

/-! ### The sanitizer's process -/

namespace ProgramOptions

/-! No file sets these. -/

def receiveTimeOut : Int64 := 10

def sendTimeOut : Int64 := 1000

def receiveHighWaterMark : Int32 := 4096

def sendHighWaterMark : Int32 := 4096

end ProgramOptions

structure ProcessParts where
  testers : Testers
  mPacketSubscriber : SocketSettings
  mPacketPublisher : SocketSettings

def makeSubscriber (zmq : ZeroMQ) (programOptions : ProgramOptions) :
    Except StdException SocketSettings := do
  let subscriberOptions ← EndPointOptions.new programOptions.inputBroadcastAddress
  let subscriberOptions ←
    subscriberOptions.setHighWaterMark ProgramOptions.receiveHighWaterMark
  SubscriberImpl.new zmq
    { toEndPointOptions := subscriberOptions.setTimeOut ProgramOptions.receiveTimeOut }

def makePublisher (zmq : ZeroMQ) (programOptions : ProgramOptions) :
    Except StdException SocketSettings := do
  let publisherOptions ← EndPointOptions.new programOptions.outputBroadcastAddress
  let publisherOptions ← publisherOptions.setHighWaterMark ProgramOptions.sendHighWaterMark
  PublisherImpl.new zmq (publisherOptions.setTimeOut ProgramOptions.sendTimeOut)

/-- The constructor of the sanitizer's `Process`. -/
def ProcessParts.new (zmq : ZeroMQ) (programOptions : ProgramOptions) :
    Except StdException ProcessParts := do
  let testers ← Testers.ofOptions programOptions
  let mPacketSubscriber ←
    failedTo "Failed to initialize subscriber socket" (makeSubscriber zmq programOptions)
  let mPacketPublisher ←
    failedTo "Failed to initialize publisher" (makePublisher zmq programOptions)
  return { testers, mPacketSubscriber, mPacketPublisher }

/-! ### The SEEDLink publisher's process -/

namespace SEEDLink

structure ProgramOptions where
  seedLinkClientOptions : ClientOptions := ClientOptions.new
  proxyFrontendAddress : String := "tcp://127.0.0.1:5550"
  /-- In milliseconds. -/
  sendTimeOut : Int64 := 1000
  /-- In seconds. -/
  logPublishingPerformanceInterval : Int64 := 600
  sendHighWaterMark : Int32 := 4096

def getFrontendAddress (propertyTree : PortTree) (default : String) :
    Except StdException String := do
  let address := (propertyTree.getString "ZeroMQ.proxyFrontendAddress").getD default
  if address.isEmpty then throw (.invalidArgument "ZeroMQ.proxyFrontendAddress is empty")
  if address.startsWith "tcp://" = false then
    throw (.invalidArgument "ZeroMQ.proxyFrontendAddresss must starts with tcp://")
  return address

def getSendHighWaterMark (propertyTree : PortTree) (default : Int32) :
    Except StdException Int32 := do
  let sendHighWaterMark := (propertyTree.getInt "ZeroMQ.sendHighWaterMark").getD default
  if sendHighWaterMark < 0 then
    throw (.invalidArgument "ZeroMQ.sendHighWaterMark cannot be negative")
  return sendHighWaterMark

/-- 0 does not wait and -1 waits forever. -/
def getSendTimeOut (propertyTree : PortTree) (default : Int64) : Int64 :=
  let sendTimeOut := (propertyTree.getInt "ZeroMQ.sendTimeOutInMilliSeconds").getD default.toInt32
  if sendTimeOut < 0 then -1 else sendTimeOut.toInt64

/-- A file that names no server leaves the client's options as they are. -/
def getClientOptions (propertyTree : PortTree) (default : ClientOptions) :
    Except StdException ClientOptions :=
  match propertyTree.getString "SEEDLink.address" with
  | some _ => getSEEDLinkOptions propertyTree "SEEDLink"
  | none => .ok default

/-- `none` is a file that does not exist, an error one that `read_ini` refuses. -/
def parseIniFile (iniFile : Option (Except StdException PortTree)) :
    Except StdException ProgramOptions :=
  let options : ProgramOptions := {}
  match iniFile with
  | none => .ok options
  | some parsed => do
      let propertyTree ← parsed
      let proxyFrontendAddress ← getFrontendAddress propertyTree options.proxyFrontendAddress
      let sendHighWaterMark ← getSendHighWaterMark propertyTree options.sendHighWaterMark
      let sendTimeOut := getSendTimeOut propertyTree options.sendTimeOut
      let seedLinkClientOptions ← getClientOptions propertyTree options.seedLinkClientOptions
      let logPublishingPerformanceInterval :=
        getDuration propertyTree.toPropertyTree
          "General.logPublishingPerformanceIntervalInSeconds"
          options.logPublishingPerformanceInterval
      return {
        seedLinkClientOptions
        proxyFrontendAddress
        sendTimeOut
        logPublishingPerformanceInterval
        sendHighWaterMark }

def makePublisher (zmq : ZeroMQ) (options : ProgramOptions) :
    Except StdException SocketSettings :=
  failedTo "Failed to initialize publisher socket" do
    let publisherOptions ← EndPointOptions.new options.proxyFrontendAddress
    let publisherOptions ← publisherOptions.setHighWaterMark options.sendHighWaterMark
    PublisherImpl.new zmq (publisherOptions.setTimeOut options.sendTimeOut)

structure ProcessParts where
  mPacketPublisher : SocketSettings
  mSEEDLinkClient : SLCD

/-- The constructor of the SEEDLink publisher's `Process`. -/
def ProcessParts.new (zmq : ZeroMQ) (libslink : LibSlink) (options : ProgramOptions) :
    Except StdException ProcessParts := do
  let mPacketPublisher ← makePublisher zmq options
  let mSEEDLinkClient ←
    failedTo "Failed to create SEEDLink client"
      (initializeClient libslink options.seedLinkClientOptions)
  return { mPacketPublisher, mSEEDLinkClient }

end SEEDLink

/-! ### What passes the first check passes the second -/

theorem startsWith_eraseSpaces {address : String} (h : address.startsWith "tcp://" = true) :
    (eraseSpaces address).startsWith "tcp://" = true := by
  rw [String.startsWith_string_iff] at h ⊢
  have hkept : ("tcp://".toList.filter fun c => !isspace c) = "tcp://".toList := by decide
  have hfilter := h.filter fun c => !isspace c
  rw [hkept] at hfilter
  rw [toList_eraseSpaces]
  exact hfilter

theorem hasScheme_of_startsWith {endPoint : String} (h : endPoint.startsWith "tcp://" = true) :
    hasScheme endPoint = true := by
  rw [hasScheme, h, Bool.true_or, Bool.true_or]

theorem ne_empty_of_startsWith {endPoint : String} (h : endPoint.startsWith "tcp://" = true) :
    endPoint.isEmpty = false := by
  rw [String.startsWith_string_iff] at h
  rw [Bool.eq_false_iff]
  intro hempty
  rw [String.isEmpty_iff] at hempty
  rw [hempty] at h
  exact absurd (List.prefix_nil.mp h) (by decide)

namespace EndPointOptions

theorem new_ok {address : String} (h : address.startsWith "tcp://" = true) :
    ∃ options, new address = .ok options ∧ options.mEndPoint = eraseSpaces address := by
  have herased := startsWith_eraseSpaces h
  rw [new, ne_empty_of_startsWith herased, if_neg Bool.false_ne_true,
    dif_pos (hasScheme_of_startsWith herased)]
  exact ⟨_, rfl, rfl⟩

theorem setHighWaterMark_ok (options : EndPointOptions) {highWaterMark : Int32}
    (h : ¬ highWaterMark < 0) :
    ∃ next, options.setHighWaterMark highWaterMark = .ok next ∧
      next.mEndPoint = options.mEndPoint ∧ next.mHighWaterMark = highWaterMark := by
  rw [setHighWaterMark, dif_neg h]
  exact ⟨_, rfl, rfl, rfl⟩

@[simp] theorem setTimeOut_mEndPoint (options : EndPointOptions) (timeOut : Int64) :
    (options.setTimeOut timeOut).mEndPoint = options.mEndPoint := by
  unfold setTimeOut
  split <;> rfl

@[simp] theorem setTimeOut_mHighWaterMark (options : EndPointOptions) (timeOut : Int64) :
    (options.setTimeOut timeOut).mHighWaterMark = options.mHighWaterMark := by
  unfold setTimeOut
  split <;> rfl

theorem setTimeOut_mTimeOut (options : EndPointOptions) {timeOut : Int64} (h : -1 ≤ timeOut) :
    (options.setTimeOut timeOut).mTimeOut = timeOut := by
  unfold setTimeOut
  split
  next hnegative =>
    rw [Int64.le_iff_toInt_le] at h
    rw [Int64.lt_iff_toInt_lt] at hnegative
    have hone : (-1 : Int64).toInt = -1 := by decide
    have hzero : (0 : Int64).toInt = 0 := by decide
    apply Int64.toInt_inj.mp
    show (-1 : Int64).toInt = timeOut.toInt
    omega
  next => rfl

/-- The three calls of each program, from the values it has checked. -/
theorem configured {β : Type} {address : String} (haddress : address.startsWith "tcp://" = true)
    (highWaterMark : Int32) (hmark : ¬ highWaterMark < 0) (timeOut : Int64)
    (htime : -1 ≤ timeOut) (next : EndPointOptions → Except StdException β) :
    ∃ options : EndPointOptions, options.mEndPoint = eraseSpaces address ∧
      options.mHighWaterMark = highWaterMark ∧ options.mTimeOut = timeOut ∧
      (do
        let options ← new address
        let options ← options.setHighWaterMark highWaterMark
        next (options.setTimeOut timeOut)) = next options := by
  obtain ⟨made, hmade, hendPoint⟩ := new_ok haddress
  obtain ⟨marked, hmarked, hkept, hvalue⟩ := made.setHighWaterMark_ok hmark
  refine ⟨marked.setTimeOut timeOut, ?_, ?_, marked.setTimeOut_mTimeOut htime, ?_⟩
  · rw [setTimeOut_mEndPoint, hkept, hendPoint]
  · rw [setTimeOut_mHighWaterMark, hvalue]
  · rw [hmade, ok_bind, hmarked, ok_bind]

end EndPointOptions

/-! ### Which settings ZeroMQ gets -/

structure SocketSettings.Valid (settings : SocketSettings) : Prop where
  scheme : settings.endPoint.startsWith "tcp://" = true
  spaces : ∀ c ∈ settings.endPoint.toList, isspace c = false
  highWaterMark_nonneg : 0 ≤ settings.highWaterMark
  timeOut_ge : -1 ≤ settings.timeOut

/-- The outcome of making something that only ZeroMQ can refuse. -/
def ZeroMQ.decides (zmq : ZeroMQ) (settings : SocketSettings) (text : String) :
    Except StdException SocketSettings :=
  match zmq settings with
  | none => .ok settings
  | some what => .error (.runtimeError (text ++ what))

theorem failedTo_failedTo_connect (zmq : ZeroMQ) (settings : SocketSettings)
    (outer inner : String) :
    failedTo outer (failedTo inner (zmq.connect settings)) =
      zmq.decides settings (outer ++ " because " ++ (inner ++ " because ")) := by
  unfold ZeroMQ.connect ZeroMQ.decides
  cases zmq settings with
  | none => rfl
  | some what => simp only [failedTo, StdException.what, String.append_assoc]

namespace ProgramOptions

def subscriberSettings (programOptions : ProgramOptions) : SocketSettings where
  highWaterMark := receiveHighWaterMark
  timeOut := receiveTimeOut.toInt32
  subscribe := createMessageTypes
  endPoint := eraseSpaces programOptions.inputBroadcastAddress

def publisherSettings (programOptions : ProgramOptions) : SocketSettings where
  highWaterMark := sendHighWaterMark
  timeOut := sendTimeOut.toInt32
  endPoint := eraseSpaces programOptions.outputBroadcastAddress

end ProgramOptions

def SEEDLink.ProgramOptions.publisherSettings (options : SEEDLink.ProgramOptions) :
    SocketSettings where
  highWaterMark := options.sendHighWaterMark
  timeOut := options.sendTimeOut.toInt32
  endPoint := eraseSpaces options.proxyFrontendAddress

/-! ### What a parsed file gives -/

theorem startsWith_of_getAddress {propertyTree : PropertyTree} {path default address : String}
    (h : getAddress propertyTree path default = .ok address) :
    address.startsWith "tcp://" = true := by
  unfold getAddress at h
  dsimp only at h
  by_cases hempty : ((propertyTree.getString path).getD default).isEmpty = true
  · simp only [hempty, if_true, throw_eq_error, error_bind, reduceCtorEq] at h
  · by_cases hscheme : ((propertyTree.getString path).getD default).startsWith "tcp://" = false
    · simp only [hempty, hscheme, if_true, throw_eq_error] at h
      cases h
    · simp only [hempty, hscheme] at h
      cases h
      simpa using hscheme

theorem addresses_of_parseIniFile {iniFile : Option (Except StdException PropertyTree)}
    {programOptions : ProgramOptions} (h : parseIniFile iniFile = .ok programOptions) :
    programOptions.inputBroadcastAddress.startsWith "tcp://" = true ∧
      programOptions.outputBroadcastAddress.startsWith "tcp://" = true := by
  cases iniFile with
  | none =>
    simp only [parseIniFile, Except.ok.injEq] at h
    rw [← h, String.startsWith_string_iff, String.startsWith_string_iff]
    decide
  | some parsed =>
    simp only [parseIniFile, bind_eq_ok_iff, pure_eq_ok, Except.ok.injEq] at h
    obtain ⟨propertyTree, -, input, hinput, output, houtput, rfl⟩ := h
    exact ⟨startsWith_of_getAddress hinput, startsWith_of_getAddress houtput⟩

namespace SEEDLink

/-- What `parseIniFile` has seen to. -/
structure ProgramOptions.Checked (options : ProgramOptions) : Prop where
  scheme : options.proxyFrontendAddress.startsWith "tcp://" = true
  highWaterMark : ¬ options.sendHighWaterMark < 0
  timeOut : ∃ timeOut : Int32, -1 ≤ timeOut ∧ options.sendTimeOut = timeOut.toInt64

theorem startsWith_of_getFrontendAddress {propertyTree : PortTree} {default address : String}
    (h : getFrontendAddress propertyTree default = .ok address) :
    address.startsWith "tcp://" = true := by
  unfold getFrontendAddress at h
  dsimp only at h
  generalize (propertyTree.getString "ZeroMQ.proxyFrontendAddress").getD default = value at h
  by_cases hempty : value.isEmpty = true
  · simp only [hempty, if_true, throw_eq_error, error_bind, reduceCtorEq] at h
  · by_cases hscheme : value.startsWith "tcp://" = false
    · simp only [hempty, hscheme, if_true, throw_eq_error] at h
      cases h
    · simp only [hempty, hscheme] at h
      cases h
      simpa using hscheme

theorem not_negative_of_getSendHighWaterMark {propertyTree : PortTree} {default mark : Int32}
    (h : getSendHighWaterMark propertyTree default = .ok mark) : ¬ mark < 0 := by
  unfold getSendHighWaterMark at h
  dsimp only at h
  by_cases hnegative : (propertyTree.getInt "ZeroMQ.sendHighWaterMark").getD default < 0
  · simp only [hnegative, if_true, throw_eq_error, error_bind, reduceCtorEq] at h
  · simp only [hnegative, if_false] at h
    cases h
    exact hnegative

theorem getSendTimeOut_spec (propertyTree : PortTree) (default : Int64) :
    ∃ timeOut : Int32, -1 ≤ timeOut ∧ getSendTimeOut propertyTree default = timeOut.toInt64 := by
  unfold getSendTimeOut
  dsimp only
  generalize (propertyTree.getInt "ZeroMQ.sendTimeOutInMilliSeconds").getD default.toInt32 = value
  by_cases hnegative : value < 0
  · rw [if_pos hnegative]
    exact ⟨-1, by decide, by decide⟩
  · rw [if_neg hnegative]
    refine ⟨value, ?_, rfl⟩
    rw [Int32.lt_iff_toInt_lt] at hnegative
    rw [Int32.le_iff_toInt_le]
    have hone : (-1 : Int32).toInt = -1 := by decide
    have hzero : (0 : Int32).toInt = 0 := by decide
    omega

theorem checked_of_parseIniFile {iniFile : Option (Except StdException PortTree)}
    {options : ProgramOptions} (h : parseIniFile iniFile = .ok options) : options.Checked := by
  cases iniFile with
  | none =>
    simp only [parseIniFile, Except.ok.injEq] at h
    rw [← h]
    constructor
    · rw [String.startsWith_string_iff]
      decide
    · decide
    · exact ⟨1000, by decide, by decide⟩
  | some parsed =>
    simp only [parseIniFile, bind_eq_ok_iff, pure_eq_ok, Except.ok.injEq] at h
    obtain ⟨propertyTree, -, address, haddress, mark, hmark, clientOptions, -, rfl⟩ := h
    constructor
    · exact startsWith_of_getFrontendAddress haddress
    · exact not_negative_of_getSendHighWaterMark hmark
    · exact getSendTimeOut_spec propertyTree _

end SEEDLink

/-! ### Only a library can refuse -/

theorem valid_settings {address : String} (haddress : address.startsWith "tcp://" = true)
    {highWaterMark timeOut : Int32} (hmark : ¬ highWaterMark < 0) (htime : -1 ≤ timeOut)
    (subscribe : List Frame) :
    SocketSettings.Valid ⟨highWaterMark, timeOut, subscribe, eraseSpaces address⟩ where
  scheme := startsWith_eraseSpaces haddress
  spaces := isspace_of_mem_eraseSpaces
  highWaterMark_nonneg := Int32.not_lt.mp hmark
  timeOut_ge := htime

theorem makeSubscriber_eq (zmq : ZeroMQ) {programOptions : ProgramOptions}
    (haddress : programOptions.inputBroadcastAddress.startsWith "tcp://" = true) :
    failedTo "Failed to initialize subscriber socket" (makeSubscriber zmq programOptions) =
      zmq.decides programOptions.subscriberSettings
        ("Failed to initialize subscriber socket because " ++
          "Failed to initialize subscriber socket because ") := by
  obtain ⟨options, hendPoint, hmark, htime, hcalls⟩ :=
    EndPointOptions.configured haddress ProgramOptions.receiveHighWaterMark (by decide)
      ProgramOptions.receiveTimeOut (by decide)
      fun options => SubscriberImpl.new zmq { toEndPointOptions := options }
  rw [makeSubscriber, hcalls, SubscriberImpl.new, failedTo_failedTo_connect]
  simp only [hendPoint, hmark, htime]
  rfl

theorem makePublisher_eq (zmq : ZeroMQ) {programOptions : ProgramOptions}
    (haddress : programOptions.outputBroadcastAddress.startsWith "tcp://" = true) :
    failedTo "Failed to initialize publisher" (makePublisher zmq programOptions) =
      zmq.decides programOptions.publisherSettings
        ("Failed to initialize publisher because " ++
          "Failed to initialize publisher socket because ") := by
  obtain ⟨options, hendPoint, hmark, htime, hcalls⟩ :=
    EndPointOptions.configured haddress ProgramOptions.sendHighWaterMark (by decide)
      ProgramOptions.sendTimeOut (by decide) (PublisherImpl.new zmq)
  rw [makePublisher, hcalls, PublisherImpl.new, failedTo_failedTo_connect]
  simp only [hendPoint, hmark, htime]
  rfl

theorem SEEDLink.makePublisher_eq (zmq : ZeroMQ) {options : SEEDLink.ProgramOptions}
    (h : options.Checked) :
    SEEDLink.makePublisher zmq options =
      zmq.decides options.publisherSettings
        ("Failed to initialize publisher socket because " ++
          "Failed to initialize publisher socket because ") := by
  have htimeOut : -1 ≤ options.sendTimeOut := by
    obtain ⟨timeOut, hge, heq⟩ := h.timeOut
    rw [heq, Int64.le_iff_toInt_le, Int32.toInt_toInt64]
    exact Int32.le_iff_toInt_le.mp hge
  obtain ⟨made, hendPoint, hmark, htime, hcalls⟩ :=
    EndPointOptions.configured h.scheme options.sendHighWaterMark h.highWaterMark
      options.sendTimeOut htimeOut (PublisherImpl.new zmq)
  rw [SEEDLink.makePublisher, hcalls, PublisherImpl.new, failedTo_failedTo_connect]
  simp only [hendPoint, hmark, htime]
  rfl

/-- The sanitizer's process, from the three things that decide about it. -/
theorem processParts_new_eq (zmq : ZeroMQ) {programOptions : ProgramOptions} {testers : Testers}
    (htesters : Testers.ofOptions programOptions = .ok testers)
    (hinput : programOptions.inputBroadcastAddress.startsWith "tcp://" = true)
    (houtput : programOptions.outputBroadcastAddress.startsWith "tcp://" = true) :
    ProcessParts.new zmq programOptions = do
      let mPacketSubscriber ←
        zmq.decides programOptions.subscriberSettings
          ("Failed to initialize subscriber socket because " ++
            "Failed to initialize subscriber socket because ")
      let mPacketPublisher ←
        zmq.decides programOptions.publisherSettings
          ("Failed to initialize publisher because " ++
            "Failed to initialize publisher socket because ")
      return { testers, mPacketSubscriber, mPacketPublisher } := by
  rw [ProcessParts.new, htesters, ok_bind, makeSubscriber_eq zmq hinput,
    makePublisher_eq zmq houtput]

theorem SEEDLink.valid_publisherSettings {options : SEEDLink.ProgramOptions}
    (h : options.Checked) : options.publisherSettings.Valid := by
  apply valid_settings h.scheme h.highWaterMark
  obtain ⟨timeOut, hge, heq⟩ := h.timeOut
  rw [heq, Int32.toInt32_toInt64]
  exact hge

namespace SEEDLink

/-- What can come of the SEEDLink publisher's process. -/
inductive ProcessOutcome (zmq : ZeroMQ) (libslink : LibSlink) (options : ProgramOptions) :
    Except StdException ProcessParts → Prop where
  | refused {what : String} (refuses : zmq options.publisherSettings = some what) :
      ProcessOutcome zmq libslink options
        (.error (.runtimeError
          ("Failed to initialize publisher socket because " ++
            "Failed to initialize publisher socket because " ++ what)))
  | noClient {what : String} (takes : zmq options.publisherSettings = none)
      (refuses : libslink.Refuses options.seedLinkClientOptions what) :
      ProcessOutcome zmq libslink options
        (.error (.runtimeError ("Failed to create SEEDLink client because " ++ what)))
  | made (takes : zmq options.publisherSettings = none)
      (makes : libslink.Makes options.seedLinkClientOptions) :
      ProcessOutcome zmq libslink options
        (.ok {
          mPacketPublisher := options.publisherSettings
          mSEEDLinkClient := {
            address := options.seedLinkClientOptions.seedLinkAddress
            streams := libslink.addStreams [] options.seedLinkClientOptions.mSelectors } })

theorem processParts_outcome (zmq : ZeroMQ) (libslink : LibSlink) {options : ProgramOptions}
    (h : options.Checked) :
    ProcessOutcome zmq libslink options (ProcessParts.new zmq libslink options) := by
  rw [ProcessParts.new, makePublisher_eq zmq h, ZeroMQ.decides]
  cases hzmq : zmq options.publisherSettings with
  | some what => exact .refused hzmq
  | none =>
    rcases initializeClient_cases libslink options.seedLinkClientOptions with
      ⟨hmakes, hok⟩ | ⟨e, herror, hrefuses⟩
    · rw [hok]
      exact .made hzmq hmakes
    · rw [herror]
      exact .noClient hzmq hrefuses

theorem ProcessOutcome.ok_iff {zmq : ZeroMQ} {libslink : LibSlink} {options : ProgramOptions}
    {outcome : Except StdException ProcessParts}
    (h : ProcessOutcome zmq libslink options outcome) :
    (∃ parts, outcome = .ok parts) ↔
      zmq options.publisherSettings = none ∧ libslink.Makes options.seedLinkClientOptions := by
  cases h with
  | refused refuses => simp [refuses]
  | noClient takes refuses => simp [refuses.not_makes]
  | made takes makes => exact ⟨fun _ => ⟨takes, makes⟩, fun _ => ⟨_, rfl⟩⟩

end SEEDLink

/-- **An accepted file is good enough for everything but the libraries.**  Whatever file the
    sanitizer or the SEEDLink publisher has accepted, the sockets are set up with a `tcp://`
    address without white space, a high water mark that is not negative and a time out of at
    least -1.  The construction of the sanitizer's process fails if and only if ZeroMQ refuses
    these settings, and that of the SEEDLink publisher's if and only if ZeroMQ does or, after
    that, libslink does not let a client be made; the reason is at the end of the text. -/
theorem accepted_configuration_reaches_sockets (zmq : ZeroMQ) (libslink : SEEDLink.LibSlink) :
    (∀ (iniFile : Option (Except StdException PropertyTree)) (programOptions : ProgramOptions),
      parseIniFile iniFile = .ok programOptions →
      programOptions.subscriberSettings.Valid ∧ programOptions.publisherSettings.Valid ∧
      ∃ testers, Testers.ofOptions programOptions = .ok testers ∧
        ProcessParts.new zmq programOptions = do
          let mPacketSubscriber ←
            zmq.decides programOptions.subscriberSettings
              ("Failed to initialize subscriber socket because " ++
                "Failed to initialize subscriber socket because ")
          let mPacketPublisher ←
            zmq.decides programOptions.publisherSettings
              ("Failed to initialize publisher because " ++
                "Failed to initialize publisher socket because ")
          return { testers, mPacketSubscriber, mPacketPublisher }) ∧
    (∀ (iniFile : Option (Except StdException SEEDLink.PortTree))
        (options : SEEDLink.ProgramOptions), SEEDLink.parseIniFile iniFile = .ok options →
      options.publisherSettings.Valid ∧
        SEEDLink.ProcessOutcome zmq libslink options
          (SEEDLink.ProcessParts.new zmq libslink options) ∧
        ((∃ parts, SEEDLink.ProcessParts.new zmq libslink options = .ok parts) ↔
          zmq options.publisherSettings = none ∧
            libslink.Makes options.seedLinkClientOptions)) := by
  constructor
  · intro iniFile programOptions hparsed
    obtain ⟨hinput, houtput⟩ := addresses_of_parseIniFile hparsed
    obtain ⟨testers, htesters⟩ := Testers.ofOptions_of_parseIniFile hparsed
    refine ⟨?_, ?_, testers, htesters, processParts_new_eq zmq htesters hinput houtput⟩
    · exact valid_settings hinput (by decide) (by decide) createMessageTypes
    · exact valid_settings houtput (by decide) (by decide) []
  · intro iniFile options hparsed
    have hchecked := SEEDLink.checked_of_parseIniFile hparsed
    have houtcome := SEEDLink.processParts_outcome zmq libslink hchecked
    exact ⟨SEEDLink.valid_publisherSettings hchecked, houtcome, houtcome.ok_iff⟩

/-- A file whose addresses have a blank in them. -/
def forkFile : SEEDLink.PortTree where
  getString path :=
    if path = "ZeroMQ.proxyFrontendAddress" ∨ path = "ZeroMQ.inputBroadcastAddress" then
      some "tcp://127.0.0.1 :5550"
    else none
  getInt path := if path = "ZeroMQ.sendTimeOutInMilliSeconds" then some (-7) else none
  getPort _ := none

/-- libslink without the server. -/
def forkLibSlink : SEEDLink.LibSlink where
  initslcd := true
  setServerAddress _ := -1
  addStream _ _ := 0
  setAllStationParams := 0
  ping := none

theorem parseIniFile_forkFile :
    SEEDLink.parseIniFile (some (.ok forkFile)) =
      .ok { proxyFrontendAddress := "tcp://127.0.0.1 :5550", sendTimeOut := -1 } := by
  have hfrontend : SEEDLink.getFrontendAddress forkFile "tcp://127.0.0.1:5550" =
      .ok "tcp://127.0.0.1 :5550" := by
    simp [SEEDLink.getFrontendAddress, forkFile]
  have hclient : SEEDLink.getClientOptions forkFile SEEDLink.ClientOptions.new =
      .ok SEEDLink.ClientOptions.new := by
    simp [SEEDLink.getClientOptions, forkFile]
  simp only [SEEDLink.parseIniFile, ok_bind, hfrontend, hclient]
  rfl

theorem parseIniFile_forkFile_sanitizer :
    parseIniFile (some (.ok forkFile.toPropertyTree)) =
      .ok { inputBroadcastAddress := "tcp://127.0.0.1 :5550" } := by
  have hinput : getAddress forkFile.toPropertyTree "ZeroMQ.inputBroadcastAddress"
      "tcp://127.0.0.1:5551" = .ok "tcp://127.0.0.1 :5550" := by
    simp [getAddress, forkFile]
  have houtput : getAddress forkFile.toPropertyTree "ZeroMQ.outputBroadcastAddress"
      "tcp://127.0.0.1:5552" = .ok "tcp://127.0.0.1:5552" := by
    simp [getAddress, forkFile]
  simp only [parseIniFile, ok_bind, hinput, houtput]
  rfl

theorem eraseSpaces_fork : eraseSpaces "tcp://127.0.0.1 :5550" = "tcp://127.0.0.1:5550" := by
  decide

/-- Both programs with this file, where ZeroMQ takes everything and the SEEDLink server is not
    known: the sanitizer's process is made, the SEEDLink publisher's is not. -/
theorem fork_no_server :
    (∃ programOptions, parseIniFile (some (.ok forkFile.toPropertyTree)) = .ok programOptions ∧
      programOptions.subscriberSettings.endPoint = "tcp://127.0.0.1:5550" ∧
      ∃ parts, ProcessParts.new (fun _ => none) programOptions = .ok parts) ∧
    ∃ options, SEEDLink.parseIniFile (some (.ok forkFile)) = .ok options ∧
      options.publisherSettings.Valid ∧
      ¬ ∃ parts, SEEDLink.ProcessParts.new (fun _ => none) forkLibSlink options = .ok parts := by
  have h := accepted_configuration_reaches_sockets (fun _ => none) forkLibSlink
  constructor
  · obtain ⟨-, -, testers, -, hparts⟩ := h.1 _ _ parseIniFile_forkFile_sanitizer
    exact ⟨_, parseIniFile_forkFile_sanitizer, eraseSpaces_fork, _, hparts⟩
  · obtain ⟨hvalid, -, hiff⟩ := h.2 _ _ parseIniFile_forkFile
    refine ⟨_, parseIniFile_forkFile, hvalid, ?_⟩
    rw [hiff]
    rintro ⟨-, hmakes⟩
    exact absurd hmakes.address (by decide)

end Us8
