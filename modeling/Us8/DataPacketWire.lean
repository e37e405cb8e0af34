/-
  Us8/DataPacketWire.lean
  =======================
  **The wire format of a data packet**: `toJSONObject`, `objectToDataPacket`,
  `serialize` and `deserialize` of `messageFormats/broadcasts/dataPacket.cpp`.

  The JSON library is not part of the repository.  Its values and the accessors
  the decoder calls are modelled from its documentation (`Json`); the two CBOR
  functions are parameters (`CborCodec`), and losslessness on the message at hand
  is a named hypothesis (`CborCodec.LosslessOn`).

  The decoder reads eight keys in a fixed order.  Each read is a `FieldStep`: a
  key, the values it accepts there, and what it does to the packet.  Folding the
  steps over a message (`objectToDataPacket_eq_readAll`) turns both questions about
  the decoder into inductions over that list: which messages make it look up an
  absent key (`readAll_undefined_iff`), and what packet an accepted message gives.
-/
import Us8.DataPacket

namespace Us8

/-! ### JSON values and the accessors of the library -/

/-- A JSON value.  A signed and an unsigned number of the library are equal when
    they are the same number, so one constructor holds both kinds of integer. -/
inductive Json where
  | null
  | boolean (b : Bool)
  | integer (z : Int)
  | float (x : Double)
  | string (s : String)
  | binary (bytes : List UInt8)
  | array (items : List Json)
  | object (fields : List (String × Json))

namespace Json

def typeName : Json → String
  | .null => "null"
  | .boolean _ => "boolean"
  | .integer _ => "number"
  | .float _ => "number"
  | .string _ => "string"
  | .binary _ => "binary"
  | .array _ => "array"
  | .object _ => "object"

def typeMustBe (expected : String) (j : Json) : StdException :=
  .jsonTypeError 302 ("[json.exception.type_error.302] type must be " ++ expected ++
    ", but is " ++ j.typeName)

/-- The const `operator[]`: the key of an object has to be there, which nothing
    checks in a release build. -/
def subscript (j : Json) (key : String) : Except Failure Json :=
  match j with
  | .object fields =>
      match fields.lookup key with
      | some value => .ok value
      | none => .error .undefinedBehaviour
  | other => .error (.thrown (.jsonTypeError 305
      ("[json.exception.type_error.305] cannot use operator[] with a string argument with "
        ++ other.typeName)))

def getString : Json → Except StdException String
  | .string s => .ok s
  | other => .error (typeMustBe "string" other)

def getDouble : Json → Except StdException Double
  | .integer z => .ok (Double.ofInt z)
  | .float x => .ok x
  | other => .error (typeMustBe "number" other)

def getInt64 : Json → Except StdException Int64
  | .integer z => .ok (Int64.ofInt z)
  | .float x => .ok x.toInt64
  | other => .error (typeMustBe "number" other)

def getDoubles : Json → Except StdException (List Double)
  | .array items => items.mapM getDouble
  | other => .error (typeMustBe "array" other)

def isString (j : Json) (expected : String) : Bool :=
  match j with
  | .string s => s == expected
  | _ => false

def isNumber : Json → Bool
  | .integer _ => true
  | .float _ => true
  | _ => false

end Json

/-- `nlohmann::json::to_cbor` and `from_cbor`. -/
structure CborCodec where
  toCbor : Json → List UInt8
  fromCbor : List UInt8 → Except StdException Json

def CborCodec.LosslessOn (codec : CborCodec) (obj : Json) : Prop :=
  codec.toCbor obj ≠ [] ∧ codec.fromCbor (codec.toCbor obj) = .ok obj

/-! ### Encoder and decoder -/

namespace DataPacket

def MESSAGE_TYPE : String := "US8::MessageFormats::Broadcasts::DataPacket"

def MESSAGE_VERSION : String := "1.0.0"

def dataFields (packet : DataPacket) : Except Failure (List (String × Json)) :=
  if packet.getNumberOfSamples > 0 then
    match packet.getDataType with
    | .integer32 => do
        let data ← packet.getData Int32
        return [("dataType", .string "integer32"),
          ("data", .array (data.map fun x => .integer x.toInt))]
    | .double => do
        let data ← packet.getData Double
        return [("dataType", .string "double"), ("data", .array (data.map .float))]
    | .integer64 => do
        let data ← packet.getData Int64
        return [("dataType", .string "integer64"),
          ("data", .array (data.map fun x => .integer x.toInt))]
    | .float => do
        let data ← packet.getData Single
        return [("dataType", .string "float"),
          ("data", .array (data.map fun x => .float x.toDouble))]
    | .unknown => .error (.thrown (.runtimeError "Unhandled data type"))
  else .ok []

def toJSONObject (packet : DataPacket) : Except Failure Json := do
  let network ← Failure.lift packet.getNetwork
  let station ← Failure.lift packet.getStation
  let channel ← Failure.lift packet.getChannel
  let locationCode ← Failure.lift packet.getLocationCode
  let samplingRate ← Failure.lift packet.getSamplingRate
  let endTime ←
    if packet.haveSamplingRate ∧ packet.getNumberOfSamples > 0 then do
      let endTime ← Failure.lift packet.getEndTime
      pure [("endTime", Json.integer endTime.toInt)]
    else pure []
  let data ← packet.dataFields
  return .object ([("messageType", .string MESSAGE_TYPE),
    ("messageVersion", .string MESSAGE_VERSION), ("network", .string network),
    ("station", .string station), ("channel", .string channel),
    ("locationCode", .string locationCode),
    ("startTime", .integer packet.getStartTime.toInt),
    ("samplingRate", .float samplingRate)] ++ endTime ++ data)

def objectToDataPacket (obj : Json) : Except Failure DataPacket := do
  let packet := new
  let messageType ← obj.subscript "messageType"
  if messageType.isString MESSAGE_TYPE = false then
    throw (.thrown (.invalidArgument "Message has invalid message type"))
  let network ← obj.subscript "network"
  let packet ← Failure.lift (network.getString >>= packet.setNetwork)
  let station ← obj.subscript "station"
  let packet ← Failure.lift (station.getString >>= packet.setStation)
  let channel ← obj.subscript "channel"
  let packet ← Failure.lift (channel.getString >>= packet.setChannel)
  let locationCode ← obj.subscript "locationCode"
  let packet ← Failure.lift (locationCode.getString >>= packet.setLocationCode)
  let samplingRate ← obj.subscript "samplingRate"
  let packet ← Failure.lift (samplingRate.getDouble >>= packet.setSamplingRate)
  let startTime ← obj.subscript "startTime"
  let startTimeMuS ← Failure.lift startTime.getInt64
  let packet := packet.setStartTime startTimeMuS
  let data ← obj.subscript "data"
  -- the decoder reads every sample as a double, whatever "dataType" says
  let data ← Failure.lift data.getDoubles
  return if data.isEmpty then packet else packet.setData (.double data)

def serialize (codec : CborCodec) (packet : DataPacket) : Except Failure (List UInt8) := do
  let obj ← packet.toJSONObject
  return codec.toCbor obj

def deserialize (codec : CborCodec) (message : List UInt8) : Except Failure DataPacket := do
  if message.isEmpty then throw (.thrown (.invalidArgument "Message is empty"))
  let obj ← Failure.lift (codec.fromCbor message)
  objectToDataPacket obj

theorem deserialize_of_fromCbor {codec : CborCodec} {message : List UInt8} {obj : Json}
    (hne : message ≠ []) (hparse : codec.fromCbor message = .ok obj) :
    deserialize codec message = objectToDataPacket obj := by
  simp [deserialize, hne, hparse]

/-! ### The decoder as a list of field reads -/

/-- One key the decoder reads: the values it accepts there and what it does with
    them.  Whether a value is accepted does not depend on the packet so far. -/
structure FieldStep where
  key : String
  accepts : Json → Bool
  read : DataPacket → Json → Except StdException DataPacket
  accepts_iff : ∀ packet value, accepts value = true ↔ ∃ result, read packet value = .ok result

/-- Read the keys in order, until one is missing or its value is refused. -/
def readAll (obj : Json) : List FieldStep → DataPacket → Except Failure DataPacket
  | [], packet => .ok packet
  | step :: rest, packet => do
      let value ← obj.subscript step.key
      let packet ← Failure.lift (step.read packet value)
      readAll obj rest packet

def messageTypeStep : FieldStep where
  key := "messageType"
  accepts value := value.isString MESSAGE_TYPE
  read packet value :=
    if value.isString MESSAGE_TYPE = false then
      .error (.invalidArgument "Message has invalid message type")
    else .ok packet
  accepts_iff packet value := by
    split_ifs with h <;> simp [h]

def codeStep (key : String) (field : DataPacketImpl.CodeField) (what : String) : FieldStep where
  key := key
  accepts
    | .string s => !isEmpty s
    | _ => false
  read packet value := value.getString >>= setCode field what packet
  accepts_iff packet value := by
    cases value with
    | string s =>
      rw [Bool.not_eq_true', ← @SeedCode.set_ok_iff what s, Json.getString, ok_bind, setCode]
      cases SeedCode.set what s <;> simp
    | _ => simp [Json.getString]

def samplingRateStep : FieldStep where
  key := "samplingRate"
  accepts value :=
    match value.getDouble with
    | .ok samplingRate => !samplingRate.nonPositive
    | .error _ => false
  read packet value := value.getDouble >>= packet.setSamplingRate
  accepts_iff packet value := by
    cases h : value.getDouble with
    | error e => simp
    | ok samplingRate =>
      simp only [ok_bind, setSamplingRate]
      cases samplingRate.nonPositive <;> simp

def startTimeStep : FieldStep where
  key := "startTime"
  accepts := Json.isNumber
  read packet value := packet.setStartTime <$> value.getInt64
  accepts_iff packet value := by
    cases value <;> simp [Json.isNumber, Json.getInt64]

theorem mapM_getDouble_ok_iff (items : List Json) :
    (∃ data, items.mapM Json.getDouble = .ok data) ↔ items.all Json.isNumber = true := by
  induction items with
  | nil => simp
  | cons item rest ih =>
    rw [List.mapM_cons, List.all_cons, Bool.and_eq_true, ← ih]
    cases item <;>
      cases hrest : rest.mapM Json.getDouble <;>
        simp [Json.getDouble, Json.isNumber]

def dataStep : FieldStep where
  key := "data"
  accepts
    | .array items => items.all Json.isNumber
    | _ => false
  read packet value := do
    let data ← value.getDoubles
    return if data.isEmpty then packet else packet.setData (.double data)
  accepts_iff packet value := by
    cases value with
    | array items =>
      simp only [← mapM_getDouble_ok_iff, Json.getDoubles]
      cases items.mapM Json.getDouble <;> simp
    | _ => simp [Json.getDoubles]

def expectedFields : List FieldStep :=
  [messageTypeStep,
   codeStep "network" .network "Network is empty",
   codeStep "station" .station "Station is empty",
   codeStep "channel" .channel "Channel is empty",
   codeStep "locationCode" .locationCode "Location is empty",
   samplingRateStep, startTimeStep, dataStep]

theorem objectToDataPacket_eq_readAll (obj : Json) :
    objectToDataPacket obj = readAll obj expectedFields new := by
  unfold objectToDataPacket
  simp only [expectedFields, readAll, messageTypeStep, codeStep, samplingRateStep,
    startTimeStep, dataStep, setNetwork, setStation, setChannel, setLocationCode]
  refine bind_congr fun messageType => ?_
  cases messageType.isString MESSAGE_TYPE with
  | false => simp
  | true => simp

/-! ### Which messages make the decoder look up an absent key -/

def Accepted (fields : List (String × Json)) (step : FieldStep) : Prop :=
  ∃ value, fields.lookup step.key = some value ∧ step.accepts value = true

theorem readAll_object_of_read {fields : List (String × Json)} {step : FieldStep}
    {packet next : DataPacket} {value : Json} (hlookup : fields.lookup step.key = some value)
    (hread : step.read packet value = .ok next) (rest : List FieldStep) :
    readAll (.object fields) (step :: rest) packet = readAll (.object fields) rest next := by
  simp [readAll, Json.subscript, hlookup, hread]

/-- Reading an object runs into an absent key exactly when some key is missing
    and every key before it is there with an acceptable value. -/
theorem readAll_undefined_iff (fields : List (String × Json)) (steps : List FieldStep)
    (packet : DataPacket) :
    readAll (.object fields) steps packet = .error .undefinedBehaviour ↔
      ∃ before step after, steps = before ++ step :: after ∧
        (∀ s ∈ before, Accepted fields s) ∧ fields.lookup step.key = none := by
  induction steps generalizing packet with
  | nil => simp [readAll]
  | cons step rest ih =>
    cases hlookup : fields.lookup step.key with
    | none =>
      simp only [readAll, Json.subscript, hlookup, error_bind, true_iff]
      exact ⟨[], step, rest, rfl, by simp, hlookup⟩
    | some value =>
      cases hread : step.read packet value with
      | error e =>
        -- the value is refused: the call throws, and no key after it is read
        have hrefused : ¬ Accepted fields step := by
          rintro ⟨v, hv, haccepts⟩
          rw [hlookup, Option.some.injEq] at hv
          obtain ⟨result, hresult⟩ := (step.accepts_iff packet v).mp haccepts
          rw [← hv, hread] at hresult
          cases hresult
        simp only [readAll, Json.subscript, hlookup, hread, ok_bind, Failure.lift_error,
          error_bind, Except.error.injEq, reduceCtorEq, false_iff]
        rintro ⟨before, s, after, heq, haccepted, hnone⟩
        cases before with
        | nil =>
          obtain ⟨rfl, rfl⟩ := List.cons.inj heq
          rw [hlookup] at hnone
          cases hnone
        | cons t before =>
          obtain ⟨rfl, rfl⟩ := List.cons.inj heq
          exact hrefused (haccepted _ (by simp))
      | ok next =>
        have haccepts : Accepted fields step :=
          ⟨value, hlookup, (step.accepts_iff packet value).mpr ⟨next, hread⟩⟩
        rw [readAll_object_of_read hlookup hread, ih]
        constructor
        · rintro ⟨before, s, after, rfl, haccepted, hnone⟩
          refine ⟨step :: before, s, after, rfl, ?_, hnone⟩
          intro t ht
          rcases List.mem_cons.mp ht with rfl | ht
          · exact haccepts
          · exact haccepted t ht
        · rintro ⟨before, s, after, heq, haccepted, hnone⟩
          cases before with
          | nil =>
            obtain ⟨rfl, rfl⟩ := List.cons.inj heq
            rw [hlookup] at hnone
            cases hnone
          | cons t before =>
            obtain ⟨rfl, rfl⟩ := List.cons.inj heq
            exact ⟨before, s, after, rfl, fun u hu => haccepted u (by simp [hu]), hnone⟩

/-- Of the keys the decoder expects, in its order, the first that is not there
    with an acceptable value is there all the same. -/
def NoAbsentKey (obj : Json) : Prop :=
  ∀ fields, obj = .object fields → ∀ before step after,
    expectedFields = before ++ step :: after →
    (∀ s ∈ before, Accepted fields s) → fields.lookup step.key ≠ none

theorem objectToDataPacket_undefined_iff (obj : Json) :
    objectToDataPacket obj = .error .undefinedBehaviour ↔ ¬ NoAbsentKey obj := by
  rw [objectToDataPacket_eq_readAll]
  cases obj with
  | object fields =>
    rw [readAll_undefined_iff]
    constructor
    · rintro ⟨before, step, after, hsplit, haccepted, hnone⟩ hall
      exact hall fields rfl before step after hsplit haccepted hnone
    · intro hnot
      by_contra hnone
      apply hnot
      rintro _ heq before step after hsplit haccepted habsent
      obtain rfl := Json.object.inj heq
      exact hnone ⟨before, step, after, hsplit, haccepted, habsent⟩
  | _ => simp [expectedFields, readAll, Json.subscript, NoAbsentKey]

/-! ### What an accepted message gives -/

/-- What every accepted message fixes about the packet: the codes are there, the rate
    passed its check, and samples, if any, are doubles. -/
structure Decoded (packet : DataPacket) : Prop where
  network : packet.haveNetwork = true
  station : packet.haveStation = true
  channel : packet.haveChannel = true
  locationCode : packet.haveLocationCode = true
  samplingRate : packet.mSamplingRate.nonPositive = false
  dataType : packet.getDataType = .double ∨ packet.getDataType = .unknown

section Read

variable {packet next : DataPacket} {value : Json}

theorem eq_of_read_messageType (h : messageTypeStep.read packet value = .ok next) :
    next = packet := by
  simp only [messageTypeStep] at h
  split_ifs at h
  exact (Except.ok.inj h).symm

theorem eq_of_read_code {key : String} {field : DataPacketImpl.CodeField} {what : String}
    (h : (codeStep key field what).read packet value = .ok next) :
    ∃ code : SeedCode, code.isSet = true ∧ next = packet.putCode field code := by
  simp only [codeStep, setCode, bind_eq_ok_iff] at h
  obtain ⟨s, -, hset⟩ := h
  cases hcode : SeedCode.set what s with
  | error e => simp [hcode] at hset
  | ok code =>
    rw [hcode, map_ok, Except.ok.injEq] at hset
    exact ⟨code, SeedCode.isSet_of_set hcode, hset.symm⟩

theorem eq_of_read_samplingRate (h : samplingRateStep.read packet value = .ok next) :
    ∃ samplingRate : Double, samplingRate.nonPositive = false ∧
      next = packet.putSamplingRate samplingRate := by
  simp only [samplingRateStep, setSamplingRate, bind_eq_ok_iff] at h
  obtain ⟨samplingRate, -, hset⟩ := h
  split_ifs at hset with hcheck
  exact ⟨samplingRate, by simpa using hcheck, (Except.ok.inj hset).symm⟩

theorem eq_of_read_startTime (h : startTimeStep.read packet value = .ok next) :
    ∃ startTime, next = packet.setStartTime startTime := by
  cases hstart : value.getInt64 with
  | error e => simp [startTimeStep, hstart] at h
  | ok startTime =>
    simp only [startTimeStep, hstart, map_ok, Except.ok.injEq] at h
    exact ⟨startTime, h.symm⟩

theorem eq_of_read_data (h : dataStep.read packet value = .ok next) :
    next = packet ∨ ∃ x rest, next = packet.setData (.double (x :: rest)) := by
  simp only [dataStep, bind_eq_ok_iff] at h
  obtain ⟨data, -, hset⟩ := h
  cases data with
  | nil => exact Or.inl (Except.ok.inj hset).symm
  | cons x rest => exact Or.inr ⟨x, rest, (Except.ok.inj hset).symm⟩

end Read

theorem decoded_of_objectToDataPacket {obj : Json} {packet : DataPacket}
    (h : objectToDataPacket obj = .ok packet) : Decoded packet := by
  rw [objectToDataPacket_eq_readAll] at h
  simp only [expectedFields, readAll, bind_eq_ok_iff, Failure.lift_eq_ok_iff,
    Except.ok.injEq] at h
  obtain ⟨_, -, _, messageRead, _, -, _, networkRead, _, -, _, stationRead, _, -, _, channelRead,
    _, -, _, locationRead, _, -, _, rateRead, _, -, _, startRead, _, -, _, dataRead, rfl⟩ := h
  obtain rfl := eq_of_read_messageType messageRead
  obtain ⟨network, hnetwork, rfl⟩ := eq_of_read_code networkRead
  obtain ⟨station, hstation, rfl⟩ := eq_of_read_code stationRead
  obtain ⟨channel, hchannel, rfl⟩ := eq_of_read_code channelRead
  obtain ⟨location, hlocation, rfl⟩ := eq_of_read_code locationRead
  obtain ⟨samplingRate, hrate, rfl⟩ := eq_of_read_samplingRate rateRead
  obtain ⟨startTime, rfl⟩ := eq_of_read_startTime startRead
  rcases eq_of_read_data dataRead with rfl | ⟨x, rest, rfl⟩
  · exact ⟨hnetwork, hstation, hchannel, hlocation, hrate, Or.inr rfl⟩
  · exact ⟨hnetwork, hstation, hchannel, hlocation, hrate, Or.inl rfl⟩

theorem mapM_getDouble_float (data : List Double) :
    (data.map Json.float).mapM Json.getDouble = .ok data := by
  induction data with
  | nil => rfl
  | cons x rest ih => simp [Json.getDouble, ih]

def headerFields (packet : DataPacket) : List (String × Json) :=
  [("messageType", .string MESSAGE_TYPE),
   ("messageVersion", .string MESSAGE_VERSION),
   ("network", .string packet.mNetwork.text),
   ("station", .string packet.mStation.text),
   ("channel", .string packet.mChannel.text),
   ("locationCode", .string packet.mLocationCode.text),
   ("startTime", .integer packet.mStartTimeMicroSeconds.toInt),
   ("samplingRate", .float packet.mSamplingRate)]

def doubleFields (packet : DataPacket) : List (String × Json) :=
  [("endTime", .integer packet.mEndTimeMicroSeconds.toInt),
   ("dataType", .string "double"),
   ("data", .array (packet.mDoubleData.map .float))]

def withoutData (packet : DataPacket) : DataPacket :=
  (((((new.putCode .network packet.mNetwork).putCode .station packet.mStation).putCode
    .channel packet.mChannel).putCode .locationCode packet.mLocationCode).putSamplingRate
    packet.mSamplingRate).setStartTime packet.mStartTimeMicroSeconds

theorem codeStep_read_text {code : SeedCode} (hcode : code.isSet = true) (key : String)
    (field : DataPacketImpl.CodeField) (what : String) (p : DataPacket) :
    (codeStep key field what).read p (.string code.text) = .ok (p.putCode field code) := by
  simp [codeStep, Json.getString, setCode, SeedCode.set_text hcode]

section Encoded

variable {packet : DataPacket} (hnetwork : packet.haveNetwork = true)
  (hstation : packet.haveStation = true) (hchannel : packet.haveChannel = true)
  (hlocation : packet.haveLocationCode = true) (hrate : packet.haveSamplingRate = true)

include hnetwork hstation hchannel hlocation hrate

theorem toJSONObject_of_no_samples (hsamples : packet.getNumberOfSamples ≤ 0) :
    packet.toJSONObject = .ok (.object packet.headerFields) := by
  have hnone : ¬ packet.getNumberOfSamples > 0 := Int32.not_lt.mpr hsamples
  simp only [haveNetwork] at hnetwork
  simp only [haveStation] at hstation
  simp only [haveChannel] at hchannel
  simp only [haveLocationCode] at hlocation
  simp [toJSONObject, getNetwork, getStation, getChannel, getLocationCode, getSamplingRate,
    SeedCode.get, dataFields, getStartTime, headerFields, hnetwork, hstation, hchannel,
    hlocation, hrate, hnone]

theorem toJSONObject_double (hsamples : 1 ≤ packet.sampleCount)
    (hfits : packet.sampleCount < 2 ^ 31) (htype : packet.getDataType = .double) :
    packet.toJSONObject = .ok (.object (packet.headerFields ++ packet.doubleFields)) := by
  have hone : 1 ≤ packet.getNumberOfSamples := one_le_getNumberOfSamples hsamples hfits
  have hpos : 0 < packet.getNumberOfSamples := pos_of_one_le hone
  have hnot : ¬ packet.getNumberOfSamples < 1 := Int32.not_lt.mpr hone
  simp only [haveNetwork] at hnetwork
  simp only [haveStation] at hstation
  simp only [haveChannel] at hchannel
  simp only [haveLocationCode] at hlocation
  simp [toJSONObject, getNetwork, getStation, getChannel, getLocationCode, getSamplingRate,
    getEndTime, SeedCode.get, dataFields, getData_double htype hfits, getStartTime, headerFields,
    doubleFields, hnetwork, hstation, hchannel, hlocation, hrate, hpos, hnot, htype]

/-- On an object of the encoder the decoder accepts every key up to the samples:
    each code is a fixed point of its setter and the rate is positive. -/
theorem readAll_headerFields (rest : List (String × Json)) :
    readAll (.object (packet.headerFields ++ rest)) expectedFields new =
      readAll (.object (packet.headerFields ++ rest)) [dataStep] packet.withoutData := by
  have hmessageRead : messageTypeStep.read new (.string MESSAGE_TYPE) = .ok new := by
    simp [messageTypeStep, Json.isString]
  have hrateRead : ∀ p : DataPacket, samplingRateStep.read p (.float packet.mSamplingRate) =
      .ok (p.putSamplingRate packet.mSamplingRate) := by
    intro p
    simp [samplingRateStep, Json.getDouble, setSamplingRate,
      Double.not_nonPositive_of_positive hrate]
  have hstartRead : ∀ p : DataPacket,
      startTimeStep.read p (.integer packet.mStartTimeMicroSeconds.toInt) =
        .ok (p.setStartTime packet.mStartTimeMicroSeconds) := by
    intro p
    simp [startTimeStep, Json.getInt64]
  rw [expectedFields,
    readAll_object_of_read rfl hmessageRead,
    readAll_object_of_read rfl (codeStep_read_text hnetwork _ _ _ _),
    readAll_object_of_read rfl (codeStep_read_text hstation _ _ _ _),
    readAll_object_of_read rfl (codeStep_read_text hchannel _ _ _ _),
    readAll_object_of_read rfl (codeStep_read_text hlocation _ _ _ _),
    readAll_object_of_read rfl (hrateRead _),
    readAll_object_of_read rfl (hstartRead _)]
  rfl

/-- The encoder's object for a packet without samples has no "data" key, and the
    decoder subscripts it. -/
theorem objectToDataPacket_headerFields :
    objectToDataPacket (.object packet.headerFields) = .error .undefinedBehaviour := by
  have hread := readAll_headerFields hnetwork hstation hchannel hlocation hrate []
  rw [List.append_nil] at hread
  rw [objectToDataPacket_eq_readAll, hread]
  rfl

/-- The decoder gives the packet if the object has its samples, as whatever numbers. -/
theorem objectToDataPacket_of_items (htype : packet.getDataType = .double)
    {rest : List (String × Json)} {items : List Json}
    (hlookup : (packet.headerFields ++ rest).lookup "data" = some (.array items))
    (hitems : items.mapM Json.getDouble = .ok packet.mDoubleData) :
    objectToDataPacket (.object (packet.headerFields ++ rest)) = .ok packet := by
  have hne : packet.mDoubleData ≠ [] := packet.tagged.double.mpr htype
  have hdataRead : ∀ p : DataPacket,
      dataStep.read p (.array items) = .ok (p.setData (.double packet.mDoubleData)) := by
    intro p
    simp only [dataStep, Json.getDoubles, hitems, ok_bind, pure_eq_ok]
    simp [hne]
  rw [objectToDataPacket_eq_readAll,
    readAll_headerFields hnetwork hstation hchannel hlocation hrate,
    readAll_object_of_read hlookup (hdataRead _), readAll]
  congr 1
  -- the end time was recomputed from the same start time, rate and count
  refine eq_of_double ?_ htype ?_ ?_ ?_ ?_ ?_ ?_ ?_ <;>
    simp [getDataType, withoutData, setData, setStartTime, putSamplingRate, putCode, refresh,
      DataPacketImpl.setData, DataPacketImpl.updateEndTime, DataPacketImpl.clearData,
      DataPacketImpl.withCode, hne]

theorem objectToDataPacket_double (htype : packet.getDataType = .double) :
    objectToDataPacket (.object (packet.headerFields ++ packet.doubleFields)) = .ok packet :=
  objectToDataPacket_of_items hnetwork hstation hchannel hlocation hrate htype rfl
    (mapM_getDouble_float _)

end Encoded

/-! ### An exchange on the wire -/

/-- What `from_cbor` does with bytes that stop too early. -/
def unexpectedEnd : Except StdException Json :=
  .error (.jsonParseError "[json.exception.parse_error.110] unexpected end of input")

/-- A codec as far as one exchange shows it: the bytes written for a packet, and
    the object read from them. -/
def observedCodec (packet : DataPacket) (message : List UInt8) : CborCodec where
  toCbor _ := message
  fromCbor bytes :=
    match packet.toJSONObject with
    | .ok obj => if bytes = message then .ok obj else unexpectedEnd
    | .error _ => unexpectedEnd

theorem observedCodec_losslessOn {packet : DataPacket} {message : List UInt8}
    (hne : message ≠ []) {obj : Json} (hobj : packet.toJSONObject = .ok obj) :
    (observedCodec packet message).LosslessOn obj := by
  refine ⟨hne, ?_⟩
  simp [observedCodec, hobj]

def forkDoubleMessage : List UInt8 :=
  [0xab, 0x67, 0x63, 0x68, 0x61, 0x6e, 0x6e, 0x65, 0x6c, 0x63, 0x48, 0x48, 0x5a, 0x64, 0x64,
   0x61, 0x74, 0x61, 0x81, 0xfa, 0x3f, 0x80, 0x00, 0x00, 0x68, 0x64, 0x61, 0x74, 0x61, 0x54,
   0x79, 0x70, 0x65, 0x66, 0x64, 0x6f, 0x75, 0x62, 0x6c, 0x65, 0x67, 0x65, 0x6e, 0x64, 0x54,
   0x69, 0x6d, 0x65, 0x00, 0x6c, 0x6c, 0x6f, 0x63, 0x61, 0x74, 0x69, 0x6f, 0x6e, 0x43, 0x6f,
   0x64, 0x65, 0x62, 0x30, 0x31, 0x6b, 0x6d, 0x65, 0x73, 0x73, 0x61, 0x67, 0x65, 0x54, 0x79,
   0x70, 0x65, 0x78, 0x2b, 0x55, 0x53, 0x38, 0x3a, 0x3a, 0x4d, 0x65, 0x73, 0x73, 0x61, 0x67,
   0x65, 0x46, 0x6f, 0x72, 0x6d, 0x61, 0x74, 0x73, 0x3a, 0x3a, 0x42, 0x72, 0x6f, 0x61, 0x64,
   0x63, 0x61, 0x73, 0x74, 0x73, 0x3a, 0x3a, 0x44, 0x61, 0x74, 0x61, 0x50, 0x61, 0x63, 0x6b,
   0x65, 0x74, 0x6e, 0x6d, 0x65, 0x73, 0x73, 0x61, 0x67, 0x65, 0x56, 0x65, 0x72, 0x73, 0x69,
   0x6f, 0x6e, 0x65, 0x31, 0x2e, 0x30, 0x2e, 0x30, 0x67, 0x6e, 0x65, 0x74, 0x77, 0x6f, 0x72,
   0x6b, 0x62, 0x55, 0x55, 0x6c, 0x73, 0x61, 0x6d, 0x70, 0x6c, 0x69, 0x6e, 0x67, 0x52, 0x61,
   0x74, 0x65, 0xfa, 0x42, 0xc8, 0x00, 0x00, 0x69, 0x73, 0x74, 0x61, 0x72, 0x74, 0x54, 0x69,
   0x6d, 0x65, 0x00, 0x67, 0x73, 0x74, 0x61, 0x74, 0x69, 0x6f, 0x6e, 0x64, 0x46, 0x4f, 0x52,
   0x4b]

def forkInteger32Message : List UInt8 :=
  [0xab, 0x67, 0x63, 0x68, 0x61, 0x6e, 0x6e, 0x65, 0x6c, 0x63, 0x48, 0x48, 0x5a, 0x64, 0x64,
   0x61, 0x74, 0x61, 0x81, 0x01, 0x68, 0x64, 0x61, 0x74, 0x61, 0x54, 0x79, 0x70, 0x65, 0x69,
   0x69, 0x6e, 0x74, 0x65, 0x67, 0x65, 0x72, 0x33, 0x32, 0x67, 0x65, 0x6e, 0x64, 0x54, 0x69,
   0x6d, 0x65, 0x00, 0x6c, 0x6c, 0x6f, 0x63, 0x61, 0x74, 0x69, 0x6f, 0x6e, 0x43, 0x6f, 0x64,
   0x65, 0x62, 0x30, 0x31, 0x6b, 0x6d, 0x65, 0x73, 0x73, 0x61, 0x67, 0x65, 0x54, 0x79, 0x70,
   0x65, 0x78, 0x2b, 0x55, 0x53, 0x38, 0x3a, 0x3a, 0x4d, 0x65, 0x73, 0x73, 0x61, 0x67, 0x65,
   0x46, 0x6f, 0x72, 0x6d, 0x61, 0x74, 0x73, 0x3a, 0x3a, 0x42, 0x72, 0x6f, 0x61, 0x64, 0x63,
   0x61, 0x73, 0x74, 0x73, 0x3a, 0x3a, 0x44, 0x61, 0x74, 0x61, 0x50, 0x61, 0x63, 0x6b, 0x65,
   0x74, 0x6e, 0x6d, 0x65, 0x73, 0x73, 0x61, 0x67, 0x65, 0x56, 0x65, 0x72, 0x73, 0x69, 0x6f,
   0x6e, 0x65, 0x31, 0x2e, 0x30, 0x2e, 0x30, 0x67, 0x6e, 0x65, 0x74, 0x77, 0x6f, 0x72, 0x6b,
   0x62, 0x55, 0x55, 0x6c, 0x73, 0x61, 0x6d, 0x70, 0x6c, 0x69, 0x6e, 0x67, 0x52, 0x61, 0x74,
   0x65, 0xfa, 0x42, 0xc8, 0x00, 0x00, 0x69, 0x73, 0x74, 0x61, 0x72, 0x74, 0x54, 0x69, 0x6d,
   0x65, 0x00, 0x67, 0x73, 0x74, 0x61, 0x74, 0x69, 0x6f, 0x6e, 0x64, 0x46, 0x4f, 0x52, 0x4b]

def forkEmptyMessage : List UInt8 :=
  [0xa8, 0x67, 0x63, 0x68, 0x61, 0x6e, 0x6e, 0x65, 0x6c, 0x63, 0x48, 0x48, 0x5a, 0x6c, 0x6c,
   0x6f, 0x63, 0x61, 0x74, 0x69, 0x6f, 0x6e, 0x43, 0x6f, 0x64, 0x65, 0x62, 0x30, 0x31, 0x6b,
   0x6d, 0x65, 0x73, 0x73, 0x61, 0x67, 0x65, 0x54, 0x79, 0x70, 0x65, 0x78, 0x2b, 0x55, 0x53,
   0x38, 0x3a, 0x3a, 0x4d, 0x65, 0x73, 0x73, 0x61, 0x67, 0x65, 0x46, 0x6f, 0x72, 0x6d, 0x61,
   0x74, 0x73, 0x3a, 0x3a, 0x42, 0x72, 0x6f, 0x61, 0x64, 0x63, 0x61, 0x73, 0x74, 0x73, 0x3a,
   0x3a, 0x44, 0x61, 0x74, 0x61, 0x50, 0x61, 0x63, 0x6b, 0x65, 0x74, 0x6e, 0x6d, 0x65, 0x73,
   0x73, 0x61, 0x67, 0x65, 0x56, 0x65, 0x72, 0x73, 0x69, 0x6f, 0x6e, 0x65, 0x31, 0x2e, 0x30,
   0x2e, 0x30, 0x67, 0x6e, 0x65, 0x74, 0x77, 0x6f, 0x72, 0x6b, 0x62, 0x55, 0x55, 0x6c, 0x73,
   0x61, 0x6d, 0x70, 0x6c, 0x69, 0x6e, 0x67, 0x52, 0x61, 0x74, 0x65, 0xfa, 0x42, 0xc8, 0x00,
   0x00, 0x69, 0x73, 0x74, 0x61, 0x72, 0x74, 0x54, 0x69, 0x6d, 0x65, 0x00, 0x67, 0x73, 0x74,
   0x61, 0x74, 0x69, 0x6f, 0x6e, 0x64, 0x46, 0x4f, 0x52, 0x4b]

/-! ### Safety of decoding -/

/-- **Decoding is safe exactly on the messages that skip no key.**  A well-formed
    message decodes to a packet or throws, unless one of the expected keys is
    absent while all keys read before it are fine; then the decoder subscripts an
    absent key. -/
theorem deserialize_settles_iff (codec : CborCodec) (message : List UInt8) (obj : Json)
    (hne : message ≠ []) (hparse : codec.fromCbor message = .ok obj) :
    ((∃ packet, deserialize codec message = .ok packet) ∨
      ∃ e, deserialize codec message = .error (.thrown e)) ↔ NoAbsentKey obj := by
  have hdecode := deserialize_of_fromCbor hne hparse
  have hundefined := objectToDataPacket_undefined_iff obj
  rw [hdecode]
  cases hresult : objectToDataPacket obj with
  | ok packet =>
    rw [hresult] at hundefined
    simpa using hundefined
  | error failure =>
    rw [hresult] at hundefined
    cases failure with
    | thrown e => simpa using hundefined
    | undefinedBehaviour => simpa using hundefined

theorem fork_double_message_settles :
    forkDoubleMessage ≠ [] ∧
    ∃ obj, (observedCodec (forkPacket (.double [.finite 1])) forkDoubleMessage).fromCbor
        forkDoubleMessage = .ok obj ∧
      (((∃ packet, deserialize (observedCodec (forkPacket (.double [.finite 1]))
          forkDoubleMessage) forkDoubleMessage = .ok packet) ∨
        ∃ e, deserialize (observedCodec (forkPacket (.double [.finite 1]))
          forkDoubleMessage) forkDoubleMessage = .error (.thrown e)) ↔ NoAbsentKey obj) := by
  have hobj := @toJSONObject_double (forkPacket (.double [.finite 1]))
    (by decide +kernel) (by decide +kernel) (by decide +kernel) (by decide +kernel)
    (by decide +kernel) (by decide +kernel) (by decide +kernel) (by decide +kernel)
  have hparse := (@observedCodec_losslessOn _ forkDoubleMessage (by decide) _ hobj).2
  exact ⟨by decide, _, hparse, deserialize_settles_iff _ _ _ (by decide) hparse⟩

/-- What `serialize` itself writes for a packet without samples is a well-formed
    message on which decoding neither gives a packet nor throws. -/
theorem fork_empty_message_does_not_settle :
    (forkPacket (.double [])).serialize
        (observedCodec (forkPacket (.double [])) forkEmptyMessage) = .ok forkEmptyMessage ∧
    (∃ obj, (observedCodec (forkPacket (.double [])) forkEmptyMessage).fromCbor
      forkEmptyMessage = .ok obj) ∧
    ¬ ((∃ packet, deserialize (observedCodec (forkPacket (.double [])) forkEmptyMessage)
        forkEmptyMessage = .ok packet) ∨
      ∃ e, deserialize (observedCodec (forkPacket (.double [])) forkEmptyMessage)
        forkEmptyMessage = .error (.thrown e)) := by
  have hobj := @toJSONObject_of_no_samples (forkPacket (.double []))
    (by decide +kernel) (by decide +kernel) (by decide +kernel) (by decide +kernel)
    (by decide +kernel) (by decide +kernel)
  have hundefined := @objectToDataPacket_headerFields (forkPacket (.double []))
    (by decide +kernel) (by decide +kernel) (by decide +kernel) (by decide +kernel)
    (by decide +kernel)
  have hne : forkEmptyMessage ≠ [] := by decide
  have hdecode : deserialize (observedCodec (forkPacket (.double [])) forkEmptyMessage)
      forkEmptyMessage = .error .undefinedBehaviour := by
    simp [deserialize, observedCodec, hne, hobj, hundefined]
  refine ⟨?_, ⟨_, (observedCodec_losslessOn hne hobj).2⟩, ?_⟩
  · simp [serialize, observedCodec, hobj]
  · simp [hdecode]

/-! ### Round trip -/

/-- The two packets agree in everything a receiver can read. -/
structure SameContent (p q : DataPacket) : Prop where
  network : p.getNetwork = q.getNetwork
  station : p.getStation = q.getStation
  channel : p.getChannel = q.getChannel
  locationCode : p.getLocationCode = q.getLocationCode
  startTime : p.getStartTime = q.getStartTime
  samplingRate : p.getSamplingRate = q.getSamplingRate
  endTime : p.getEndTime = q.getEndTime
  dataType : p.getDataType = q.getDataType
  integer32 : p.mInteger32Data = q.mInteger32Data
  integer64 : p.mInteger64Data = q.mInteger64Data
  float : p.mFloatData = q.mFloatData
  double : p.mDoubleData = q.mDoubleData

/-- Sending the packet and decoding what was sent gives its content back. -/
def RoundTrips (codec : CborCodec) (packet : DataPacket) : Prop :=
  ∃ message decoded, packet.serialize codec = .ok message ∧
    deserialize codec message = .ok decoded ∧ SameContent decoded packet

section RoundTrip

variable {codec : CborCodec} {packet : DataPacket}

/-- Where there is a positive count, the samples are written if and only if it is that of
    the series. -/
theorem lt_of_dataFields {fields : List (String × Json)}
    (hpos : packet.getNumberOfSamples > 0) (h : packet.dataFields = .ok fields) :
    packet.sampleCount < 2 ^ 31 := by
  have hread : ∀ (U : Type) [Element U] (data : List U), packet.getData U = .ok data →
      packet.sampleCount < 2 ^ 31 := by
    intro U _ data hdata
    refine ((getData_ok_iff U packet).mp ⟨data, hdata⟩).resolve_left ?_
    exact Int32.not_lt.mpr (one_le_of_pos hpos)
  rw [dataFields, if_pos hpos] at h
  cases htype : packet.getDataType with
  | unknown => simp [htype] at h
  | integer32 | integer64 | float | double =>
    simp only [htype, bind_eq_ok_iff] at h
    obtain ⟨data, hdata, -⟩ := h
    exact hread _ data hdata

section

variable (hnetwork : packet.haveNetwork = true) (hstation : packet.haveStation = true)
  (hchannel : packet.haveChannel = true) (hlocation : packet.haveLocationCode = true)
  (hrate : packet.haveSamplingRate = true)

include hnetwork hstation hchannel hlocation hrate

/-- The decoder reads back only an object that the samples have been written to. -/
theorem lt_of_objectToDataPacket {obj : Json} {decoded : DataPacket}
    (hobj : packet.toJSONObject = .ok obj) (hdecode : objectToDataPacket obj = .ok decoded) :
    packet.sampleCount < 2 ^ 31 := by
  by_cases hpos : packet.getNumberOfSamples > 0
  · simp only [toJSONObject, bind_eq_ok_iff] at hobj
    obtain ⟨_, -, _, -, _, -, _, -, _, -, hobj⟩ := hobj
    rw [if_pos ⟨hrate, hpos⟩] at hobj
    simp only [bind_eq_ok_iff] at hobj
    obtain ⟨_, -, _, -, fields, hfields, -⟩ := hobj
    exact lt_of_dataFields hpos hfields
  · -- the count is not positive, so nothing was written
    have hnone := toJSONObject_of_no_samples hnetwork hstation hchannel hlocation hrate
      (Int32.not_lt.mp hpos)
    rw [hnone, Except.ok.injEq] at hobj
    rw [← hobj, objectToDataPacket_headerFields hnetwork hstation hchannel hlocation hrate]
      at hdecode
    cases hdecode

end

theorem decoded_of_roundTrips (hcodec : ∀ obj, packet.toJSONObject = .ok obj → codec.LosslessOn obj)
    (h : RoundTrips codec packet) :
    ∃ obj decoded, packet.toJSONObject = .ok obj ∧ objectToDataPacket obj = .ok decoded ∧
      SameContent decoded packet := by
  obtain ⟨message, decoded, hserialize, hdeserialize, hsame⟩ := h
  simp only [serialize, bind_eq_ok_iff, pure_eq_ok, Except.ok.injEq] at hserialize
  obtain ⟨obj, hobj, rfl⟩ := hserialize
  obtain ⟨hne, hlossless⟩ := hcodec obj hobj
  rw [deserialize_of_fromCbor hne hlossless] at hdeserialize
  exact ⟨obj, decoded, hobj, hdeserialize, hsame⟩

theorem getDataType_of_sameContent {obj : Json} {decoded : DataPacket}
    (hsamples : 1 ≤ packet.sampleCount) (hdecode : objectToDataPacket obj = .ok decoded)
    (hsame : SameContent decoded packet) : packet.getDataType = .double := by
  rcases (decoded_of_objectToDataPacket hdecode).dataType with htype | htype
  · rw [← hsame.dataType, htype]
  · exact absurd (hsame.dataType ▸ htype) (getDataType_ne_unknown hsamples)

end RoundTrip

/-- **The wire round trip holds exactly for double packets of less than 2^31 samples.**  The
    encoder writes the sample type, but the decoder reads all samples as doubles; and from
    2^31 samples on the encoder takes the packet for one without samples, or cannot copy
    them. -/
theorem roundTrips_iff (codec : CborCodec) (packet : DataPacket)
    (hnetwork : packet.haveNetwork = true) (hstation : packet.haveStation = true)
    (hchannel : packet.haveChannel = true) (hlocation : packet.haveLocationCode = true)
    (hrate : packet.haveSamplingRate = true) (hsamples : 1 ≤ packet.sampleCount)
    (hcodec : ∀ obj, packet.toJSONObject = .ok obj → codec.LosslessOn obj) :
    RoundTrips codec packet ↔
      packet.getDataType = .double ∧ packet.sampleCount < 2 ^ 31 := by
  constructor
  · intro h
    obtain ⟨obj, decoded, hobj, hdecode, hsame⟩ := decoded_of_roundTrips hcodec h
    exact ⟨getDataType_of_sameContent hsamples hdecode hsame,
      lt_of_objectToDataPacket hnetwork hstation hchannel hlocation hrate hobj hdecode⟩
  · rintro ⟨htype, hfits⟩
    have hobj := toJSONObject_double hnetwork hstation hchannel hlocation hrate hsamples hfits
      htype
    obtain ⟨hne, hlossless⟩ := hcodec _ hobj
    refine ⟨codec.toCbor (.object (packet.headerFields ++ packet.doubleFields)), packet,
      by simp [serialize, hobj], ?_, ?_⟩
    · rw [deserialize_of_fromCbor hne hlossless]
      exact objectToDataPacket_double hnetwork hstation hchannel hlocation hrate htype
    · exact ⟨rfl, rfl, rfl, rfl, rfl, rfl, rfl, rfl, rfl, rfl, rfl, rfl⟩

theorem fork_double_roundTrips :
    RoundTrips (observedCodec (forkPacket (.double [.finite 1])) forkDoubleMessage)
      (forkPacket (.double [.finite 1])) :=
  (roundTrips_iff _ _ (by decide +kernel) (by decide +kernel) (by decide +kernel)
    (by decide +kernel) (by decide +kernel) (by decide +kernel)
    (fun _ hobj => observedCodec_losslessOn (by decide) hobj)).mpr
      ⟨by decide +kernel, by decide +kernel⟩

theorem fork_integer32_not_roundTrips :
    (forkPacket (.integer32 [1])).haveNetwork = true ∧
    (forkPacket (.integer32 [1])).haveStation = true ∧
    (forkPacket (.integer32 [1])).haveChannel = true ∧
    (forkPacket (.integer32 [1])).haveLocationCode = true ∧
    (forkPacket (.integer32 [1])).haveSamplingRate = true ∧
    1 ≤ (forkPacket (.integer32 [1])).sampleCount ∧
    (∀ obj, (forkPacket (.integer32 [1])).toJSONObject = .ok obj →
      (observedCodec (forkPacket (.integer32 [1])) forkInteger32Message).LosslessOn obj) ∧
    ¬ RoundTrips (observedCodec (forkPacket (.integer32 [1])) forkInteger32Message)
      (forkPacket (.integer32 [1])) := by
  have hcodec : ∀ obj, (forkPacket (.integer32 [1])).toJSONObject = .ok obj →
      (observedCodec (forkPacket (.integer32 [1])) forkInteger32Message).LosslessOn obj :=
    fun _ hobj => observedCodec_losslessOn (by decide) hobj
  refine ⟨by decide +kernel, by decide +kernel, by decide +kernel, by decide +kernel,
    by decide +kernel, by decide +kernel, hcodec, ?_⟩
  intro hround
  obtain ⟨obj, decoded, -, hdecode, hsame⟩ := decoded_of_roundTrips hcodec hround
  have htype := getDataType_of_sameContent (by decide +kernel) hdecode hsame
  exact absurd htype (by decide +kernel)

end DataPacket

end Us8
