/-
  Us8/DataPacketPublisher.lean
  ============================
  **Sending a data packet** (`broadcasts/dataPacket/publisher.cpp`).

  Three places decide on their own which fields a packet has to have: the callback that
  takes packets from the SEEDLink client (`addPacketsFromAcquisitionCallback`), the
  serializer that `send` calls, and `toName`, which names the channel.  Each is characterised
  by the fields it asks for.  The serializer asks for the location code, the callback does
  not and `toName` does without it, so a packet with everything but a location code is
  queued and then thrown away (`accepted_serializes_iff`).  Besides, the serializer copies the
  samples, and can do so only if their number, an `int`, has not wrapped around.

  What the socket makes of the two parts of a message is a parameter.
-/
import Us8.DataPacketWire
import Us8.SEEDLinkPublisher
import Us8.TimeTesters
import Us8.ZapService

namespace Us8

/-- `zmq::send_multipart`: how many parts were sent, or nothing if it would have had to
    wait for longer than the timeout. -/
def Socket := List Frame → Except StdException (Option Nat)

structure PublisherImpl where
  mPublisherSocket : Socket
  mInitialized : Bool

def PublisherImpl.send (impl : PublisherImpl) (codec : CborCodec) (dataPacket : DataPacket) :
    Except Failure Unit := do
  if impl.mInitialized = false then throw (.thrown (.invalidArgument "Publisher not initialized"))
  let messagePayload ← dataPacket.serialize codec
  let nPartsSent ←
    Failure.lift (impl.mPublisherSocket [bytes DataPacket.MESSAGE_TYPE, messagePayload])
  if nPartsSent ≠ some 2 then
    throw (.thrown (.runtimeError "Failed to send two-part message"))

/-! ### The fields each of the three asks for -/

/-- The codes that name a channel are set; the location code is not among them. -/
structure DataPacket.Named (packet : DataPacket) : Prop where
  network : packet.haveNetwork = true
  station : packet.haveStation = true
  channel : packet.haveChannel = true

/-- What the callback checks. -/
structure DataPacket.Filled (packet : DataPacket) : Prop extends packet.Named where
  samplingRate : packet.haveSamplingRate = true
  samples : 1 ≤ packet.getNumberOfSamples

/-- What the serializer reads with a getter that throws, and the samples, if it copies
    them. -/
structure DataPacket.Writable (packet : DataPacket) : Prop extends packet.Named where
  locationCode : packet.haveLocationCode = true
  samplingRate : packet.haveSamplingRate = true
  samples : packet.getNumberOfSamples < 1 ∨ packet.sampleCount < 2 ^ 31

section Views

variable {packet : DataPacket}

theorem dataFields_ok_iff : (∃ fields, packet.dataFields = .ok fields) ↔
    packet.getNumberOfSamples < 1 ∨ packet.sampleCount < 2 ^ 31 := by
  by_cases hpos : packet.getNumberOfSamples > 0
  · have hnot : ¬ packet.getNumberOfSamples < 1 := Int32.not_lt.mpr (one_le_of_pos hpos)
    constructor
    · rintro ⟨fields, hfields⟩
      exact Or.inr (DataPacket.lt_of_dataFields hpos hfields)
    · intro hfits
      have hsamples := DataPacketImpl.sampleCount_pos_of_size (one_le_of_pos hpos)
      rw [DataPacket.dataFields, if_pos hpos]
      have hread : ∀ (U : Type) [Element U] (write : List U → List (String × Json)),
          ∃ fields, (packet.getData U >>= fun data => .ok (write data)) = .ok fields := by
        intro U _ write
        obtain ⟨data, hdata⟩ := (DataPacket.getData_ok_iff U packet).mpr hfits
        exact ⟨write data, bind_eq_ok_iff.mpr ⟨data, hdata, rfl⟩⟩
      cases htype : packet.getDataType with
      | unknown => exact absurd htype (DataPacket.getDataType_ne_unknown hsamples)
      | integer32 => exact hread Int32 _
      | integer64 => exact hread Int64 _
      | float => exact hread Single _
      | double => exact hread Double _
  · have hnone : packet.getNumberOfSamples < 1 := by
      by_contra hone
      exact hpos (pos_of_one_le (Int32.not_lt.mp hone))
    simp [DataPacket.dataFields, hpos, hnone]

theorem toJSONObject_ok_iff : (∃ obj, packet.toJSONObject = .ok obj) ↔ packet.Writable := by
  constructor
  · rintro ⟨obj, hobj⟩
    simp only [DataPacket.toJSONObject, bind_eq_ok_iff, Failure.lift_eq_ok_iff] at hobj
    obtain ⟨network, hnetwork, station, hstation, channel, hchannel, location, hlocation, rate,
      hrate, hobj⟩ := hobj
    have hhave : packet.haveSamplingRate = true := by
      by_contra hnone
      rw [DataPacket.getSamplingRate, if_neg hnone] at hrate
      cases hrate
    refine ⟨⟨SeedCode.isSet_of_get hnetwork, SeedCode.isSet_of_get hstation,
      SeedCode.isSet_of_get hchannel⟩, SeedCode.isSet_of_get hlocation, hhave, ?_⟩
    apply dataFields_ok_iff.mp
    split_ifs at hobj
    · simp only [bind_eq_ok_iff] at hobj
      obtain ⟨_, -, _, -, fields, hfields, -⟩ := hobj
      exact ⟨fields, hfields⟩
    · simp only [bind_eq_ok_iff] at hobj
      obtain ⟨_, -, fields, hfields, -⟩ := hobj
      exact ⟨fields, hfields⟩
  · intro h
    obtain ⟨data, hdata⟩ := dataFields_ok_iff.mpr h.samples
    have hrate : packet.getSamplingRate = .ok packet.mSamplingRate := by
      rw [DataPacket.getSamplingRate, if_pos h.samplingRate]
    simp only [DataPacket.toJSONObject, DataPacket.getNetwork, DataPacket.getStation,
      DataPacket.getChannel, DataPacket.getLocationCode, SeedCode.get_of_isSet h.network,
      SeedCode.get_of_isSet h.station, SeedCode.get_of_isSet h.channel,
      SeedCode.get_of_isSet h.locationCode, hrate, hdata, Failure.lift_ok, ok_bind]
    by_cases hsamples : packet.getNumberOfSamples > 0
    · rw [if_pos ⟨h.samplingRate, hsamples⟩,
        DataPacket.getEndTime_eq h.samplingRate (one_le_of_pos hsamples)]
      exact ⟨_, rfl⟩
    · rw [if_neg fun hboth => hsamples hboth.2]
      exact ⟨_, rfl⟩

theorem serialize_ok_iff (codec : CborCodec) :
    (∃ message, packet.serialize codec = .ok message) ↔ packet.Writable := by
  rw [← toJSONObject_ok_iff]
  constructor
  · rintro ⟨message, hmessage⟩
    obtain ⟨obj, hobj, -⟩ := bind_eq_ok_iff.mp hmessage
    exact ⟨obj, hobj⟩
  · rintro ⟨obj, hobj⟩
    refine ⟨codec.toCbor obj, ?_⟩
    rw [DataPacket.serialize, hobj]
    rfl

theorem accepted_iff (process : SEEDLink.Process) :
    (∃ next, process.addPacketsFromAcquisitionCallback packet = .ok next) ↔ packet.Filled := by
  unfold SEEDLink.Process.addPacketsFromAcquisitionCallback
  constructor
  · rintro ⟨next, hnext⟩
    split_ifs at hnext with hnetwork hstation hchannel hrate hsamples htype
    exact ⟨⟨by simpa using hnetwork, by simpa using hstation, by simpa using hchannel⟩,
      by simpa using hrate, Int32.not_lt.mp hsamples⟩
  · intro h
    have hsamples := DataPacketImpl.sampleCount_pos_of_size h.samples
    rw [if_neg (by simp [h.network]), if_neg (by simp [h.station]), if_neg (by simp [h.channel]),
      if_neg (by simp [h.samplingRate]), if_neg (Int32.not_lt.mpr h.samples),
      if_neg (DataPacket.getDataType_ne_unknown hsamples)]
    exact ⟨_, rfl⟩

end Views

/-! ### Which packets can be sent -/

/-- **Accepted packets.**  What the callback queues the serializer can write if and only if
    the location code is set and the samples can be counted, unless a field that the callback
    checks is missing. -/
theorem accepted_serializes_iff (codec : CborCodec) (process : SEEDLink.Process)
    (packet : DataPacket) :
    ((∃ next, process.addPacketsFromAcquisitionCallback packet = .ok next) →
      ∃ message, packet.serialize codec = .ok message) ↔
    ((packet.haveLocationCode = true ∧ packet.sampleCount < 2 ^ 31) ∨
      packet.haveNetwork = false ∨ packet.haveStation = false ∨ packet.haveChannel = false ∨
      packet.haveSamplingRate = false ∨ packet.getNumberOfSamples < 1) := by
  rw [accepted_iff, serialize_ok_iff]
  constructor
  · intro hwritable
    by_contra hnone
    simp only [not_or, Bool.not_eq_false] at hnone
    obtain ⟨hlocation, hnetwork, hstation, hchannel, hrate, hsamples⟩ := hnone
    have h := hwritable ⟨⟨hnetwork, hstation, hchannel⟩, hrate, Int32.not_lt.mp hsamples⟩
    exact hlocation ⟨h.locationCode, h.samples.resolve_left hsamples⟩
  · intro hcondition hfilled
    have hsamples := Int32.not_lt.mpr hfilled.samples
    rcases hcondition with ⟨hlocation, hfits⟩ | hnone | hnone | hnone | hnone | hnone
    · exact ⟨hfilled.toNamed, hlocation, hfilled.samplingRate, Or.inr hfits⟩
    · exact absurd hfilled.network (by simp [hnone])
    · exact absurd hfilled.station (by simp [hnone])
    · exact absurd hfilled.channel (by simp [hnone])
    · exact absurd hfilled.samplingRate (by simp [hnone])
    · exact absurd hnone hsamples

theorem toJSONObject_of_no_locationCode {packet : DataPacket} (hnamed : packet.Named)
    (hlocation : packet.haveLocationCode = false) :
    packet.toJSONObject = .error (.thrown (.runtimeError "Location code not set yet")) := by
  have hunset : ¬ packet.mLocationCode.isSet = true := by
    simpa [DataPacket.haveLocationCode] using hlocation
  have hget : packet.getLocationCode = .error (.runtimeError "Location code not set yet") := by
    rw [DataPacket.getLocationCode, SeedCode.get, if_neg hunset]
  simp only [DataPacket.toJSONObject, DataPacket.getNetwork, DataPacket.getStation,
    DataPacket.getChannel, SeedCode.get_of_isSet hnamed.network,
    SeedCode.get_of_isSet hnamed.station, SeedCode.get_of_isSet hnamed.channel, hget,
    Failure.lift_ok, Failure.lift_error, ok_bind, error_bind]

/-- UU.FORK.HHZ with one sample. -/
def forkUnlocatedPacket : DataPacket :=
  (DataPacket.forkPacket (.double [.finite 1])).putCode .locationCode .unset

theorem serialize_forkUnlocatedPacket (codec : CborCodec) :
    forkUnlocatedPacket.serialize codec =
      .error (.thrown (.runtimeError "Location code not set yet")) := by
  have hobj : forkUnlocatedPacket.toJSONObject =
      .error (.thrown (.runtimeError "Location code not set yet")) :=
    toJSONObject_of_no_locationCode ⟨by decide +kernel, by decide +kernel, by decide +kernel⟩
      (by decide +kernel)
  rw [DataPacket.serialize, hobj]
  rfl

/-- The setters make it, the callback takes it, and the serializer throws. -/
theorem fork_unlocated_packet_not_written :
    ((do
      let packet ← DataPacket.new.setNetwork "UU"
      let packet ← packet.setStation "FORK"
      let packet ← packet.setChannel "HHZ"
      let packet ← packet.setSamplingRate (.finite 100)
      return packet.setData (.double [.finite 1])) = Except.ok forkUnlocatedPacket) ∧
    (∃ next, (SEEDLink.Process.start 600 (.empty 1024) 0).addPacketsFromAcquisitionCallback
      forkUnlocatedPacket = .ok next) ∧
    forkUnlocatedPacket.serialize
        (DataPacket.observedCodec forkUnlocatedPacket DataPacket.forkDoubleMessage) =
      .error (.thrown (.runtimeError "Location code not set yet")) := by
  refine ⟨by decide +kernel, ?_, serialize_forkUnlocatedPacket _⟩
  exact (accepted_iff _).mpr ⟨⟨by decide +kernel, by decide +kernel, by decide +kernel⟩,
    by decide +kernel, by decide +kernel⟩

end Us8
