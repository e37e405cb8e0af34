/-
  Us8/DataPacketRelay.lean
  ========================
  **A packet that has been decoded once is not altered by being passed on.**

  What the decoder accepts it brings into one form: codes in upper case and without
  blanks, the samples as doubles, the end time computed anew (`Decoded`).  That form is a
  fixed point of encoding and decoding, provided there are samples (a packet without any
  cannot be read back) and the rate is a number (`haveSamplingRate` is false for a NaN,
  which the setter lets through).  So however a message was written, relaying the packet
  gives the same message after each hop (`relay`).

  The decoder takes a series of any length, and the encoder counts it with an `int`: a
  packet of 2^31 samples or more is not passed on.
-/
import Us8.DataPacketWire

namespace Us8

namespace DataPacket

/-- Pass a message on `hops` times: decode it and send what was decoded. -/
def relay (codec : CborCodec) : Nat → List UInt8 → Except Failure (List UInt8)
  | 0, message => .ok message
  | hops + 1, message => do
      let packet ← deserialize codec message
      let message ← packet.serialize codec
      relay codec hops message

/-- The packet that the message was decoded to can be sent; decoding what was sent gives the
    very same packet, sending that gives the very same message, and so does every further
    hop. -/
def Relayed (codec : CborCodec) (message : List UInt8) (packet : DataPacket) : Prop :=
  ∃ sent, packet.serialize codec = .ok sent ∧ deserialize codec sent = .ok packet ∧
    (packet.serialize codec >>= deserialize codec >>= fun again => again.serialize codec) =
      .ok sent ∧
    ∀ hops, relay codec (hops + 1) message = .ok sent ∧
      (relay codec hops message >>= deserialize codec) = .ok packet

theorem decoded_of_deserialize {codec : CborCodec} {message : List UInt8} {packet : DataPacket}
    (hdecode : deserialize codec message = .ok packet) : Decoded packet := by
  unfold deserialize at hdecode
  split_ifs at hdecode
  · cases hdecode
  · obtain ⟨obj, -, hobject⟩ := bind_eq_ok_iff.mp hdecode
    exact decoded_of_objectToDataPacket hobject

section Hop

variable {codec : CborCodec} {packet : DataPacket} (hdecoded : Decoded packet)
  (hsamples : 1 ≤ packet.sampleCount) (hrate : packet.mSamplingRate ≠ .nan)
  (hcodec : ∀ obj, packet.toJSONObject = .ok obj → codec.LosslessOn obj)

include hdecoded hrate

theorem Decoded.haveSamplingRate : packet.haveSamplingRate = true := by
  rw [DataPacket.haveSamplingRate, Double.positive_eq_not_nonPositive hrate,
    hdecoded.samplingRate]
  rfl

include hsamples hcodec

/-- A decoded packet is read back from what is sent for it if and only if its samples can
    be counted. -/
theorem Decoded.roundTrip_iff :
    (∃ message, packet.serialize codec = .ok message ∧ deserialize codec message = .ok packet) ↔
      packet.sampleCount < 2 ^ 31 := by
  have hpositive := hdecoded.haveSamplingRate hrate
  have htype : packet.getDataType = .double :=
    hdecoded.dataType.resolve_right (getDataType_ne_unknown hsamples)
  constructor
  · rintro ⟨message, hsend, hread⟩
    obtain ⟨obj, again, hobj, hobject, -⟩ := decoded_of_roundTrips hcodec
      ⟨message, packet, hsend, hread, ⟨rfl, rfl, rfl, rfl, rfl, rfl, rfl, rfl, rfl, rfl, rfl, rfl⟩⟩
    exact lt_of_objectToDataPacket hdecoded.network hdecoded.station hdecoded.channel
      hdecoded.locationCode hpositive hobj hobject
  · intro hfits
    have hobj := toJSONObject_double hdecoded.network hdecoded.station hdecoded.channel
      hdecoded.locationCode hpositive hsamples hfits htype
    obtain ⟨hne, hlossless⟩ := hcodec _ hobj
    refine ⟨codec.toCbor (.object (packet.headerFields ++ packet.doubleFields)), ?_, ?_⟩
    · simp [serialize, hobj]
    · rw [deserialize_of_fromCbor hne hlossless]
      exact objectToDataPacket_double hdecoded.network hdecoded.station hdecoded.channel
        hdecoded.locationCode hpositive htype

end Hop

/-- A message that is read as a packet and is what is sent for it stays the same. -/
theorem relay_fixed {codec : CborCodec} {packet : DataPacket} {message : List UInt8}
    (hsend : packet.serialize codec = .ok message)
    (hread : deserialize codec message = .ok packet) (hops : Nat) :
    relay codec hops message = .ok message := by
  induction hops with
  | zero => rfl
  | succ hops ih => simp [relay, hread, hsend, ih]

theorem relayed_of_roundTrip {codec : CborCodec} {message sent : List UInt8}
    {packet : DataPacket} (hdecode : deserialize codec message = .ok packet)
    (hsend : packet.serialize codec = .ok sent) (hread : deserialize codec sent = .ok packet) :
    Relayed codec message packet := by
  have hrelay : ∀ hops, relay codec (hops + 1) message = .ok sent := by
    intro hops
    simp [relay, hdecode, hsend, relay_fixed hsend hread]
  refine ⟨sent, hsend, hread, by simp [hsend, hread], fun hops => ⟨hrelay hops, ?_⟩⟩
  cases hops with
  | zero => simpa [relay] using hdecode
  | succ hops => simp [hrelay, hread]

/-- **When re-publishing is lossless.**  Whatever message a packet was decoded from, if it has
    samples and its rate is a number, passing it on any number of times alters nothing, if
    and only if there are less than 2^31 samples. -/
theorem relayed_iff (codec : CborCodec) (message : List UInt8) (packet : DataPacket)
    (hdecode : deserialize codec message = .ok packet) (hsamples : 1 ≤ packet.sampleCount)
    (hrate : packet.mSamplingRate ≠ .nan)
    (hcodec : ∀ obj, packet.toJSONObject = .ok obj → codec.LosslessOn obj) :
    Relayed codec message packet ↔ packet.sampleCount < 2 ^ 31 := by
  have hdecoded := decoded_of_deserialize hdecode
  rw [← hdecoded.roundTrip_iff hsamples hrate hcodec]
  constructor
  · rintro ⟨sent, hsend, hread, -⟩
    exact ⟨sent, hsend, hread⟩
  · rintro ⟨sent, hsend, hread⟩
    exact relayed_of_roundTrip hdecode hsend hread

/-! ### A message in another hand -/

/-- The packet of `forkDoubleMessage` as another program may write it: codes in lower
    case and with a blank, whole numbers for the rate and the sample, the start time as a
    float, no sample type, and a key that nobody reads. -/
def forkLooseObject : Json :=
  .object [("channel", .string "hhz"), ("data", .array [.integer 1]),
    ("locationCode", .string "01"), ("messageType", .string MESSAGE_TYPE),
    ("network", .string " uu"), ("samplingRate", .integer 100),
    ("startTime", .float (.finite 0)), ("station", .string "Fork"), ("url", .null)]

def forkLooseMessage : List UInt8 :=
  [0xa9, 0x67, 0x63, 0x68, 0x61, 0x6e, 0x6e, 0x65, 0x6c, 0x63, 0x68, 0x68, 0x7a, 0x64, 0x64,
   0x61, 0x74, 0x61, 0x81, 0x01, 0x6c, 0x6c, 0x6f, 0x63, 0x61, 0x74, 0x69, 0x6f, 0x6e, 0x43,
   0x6f, 0x64, 0x65, 0x62, 0x30, 0x31, 0x6b, 0x6d, 0x65, 0x73, 0x73, 0x61, 0x67, 0x65, 0x54,
   0x79, 0x70, 0x65, 0x78, 0x2b, 0x55, 0x53, 0x38, 0x3a, 0x3a, 0x4d, 0x65, 0x73, 0x73, 0x61,
   0x67, 0x65, 0x46, 0x6f, 0x72, 0x6d, 0x61, 0x74, 0x73, 0x3a, 0x3a, 0x42, 0x72, 0x6f, 0x61,
   0x64, 0x63, 0x61, 0x73, 0x74, 0x73, 0x3a, 0x3a, 0x44, 0x61, 0x74, 0x61, 0x50, 0x61, 0x63,
   0x6b, 0x65, 0x74, 0x67, 0x6e, 0x65, 0x74, 0x77, 0x6f, 0x72, 0x6b, 0x63, 0x20, 0x75, 0x75,
   0x6c, 0x73, 0x61, 0x6d, 0x70, 0x6c, 0x69, 0x6e, 0x67, 0x52, 0x61, 0x74, 0x65, 0x18, 0x64,
   0x69, 0x73, 0x74, 0x61, 0x72, 0x74, 0x54, 0x69, 0x6d, 0x65, 0xfa, 0x00, 0x00, 0x00, 0x00,
   0x67, 0x73, 0x74, 0x61, 0x74, 0x69, 0x6f, 0x6e, 0x64, 0x46, 0x6f, 0x72, 0x6b, 0x63, 0x75,
   0x72, 0x6c, 0xf6]

/-- What a codec shows when that message is read and the packet is sent on. -/
def forkRelayCodec : CborCodec where
  toCbor := (observedCodec (forkPacket (.double [.finite 1])) forkDoubleMessage).toCbor
  fromCbor bytes :=
    if bytes = forkLooseMessage then .ok forkLooseObject
    else (observedCodec (forkPacket (.double [.finite 1])) forkDoubleMessage).fromCbor bytes

theorem forkLooseMessage_decodes :
    deserialize forkRelayCodec forkLooseMessage = .ok (forkPacket (.double [.finite 1])) := by
  rfl

theorem fork_relayed :
    relay forkRelayCodec 3 forkLooseMessage = .ok forkDoubleMessage := by
  have hlossless : ∀ obj, (forkPacket (.double [.finite 1])).toJSONObject = .ok obj →
      forkRelayCodec.LosslessOn obj := by
    intro obj hobj
    have hother : forkDoubleMessage ≠ forkLooseMessage := by decide
    have hne : forkDoubleMessage ≠ [] := by decide
    refine ⟨hne, ?_⟩
    simp [forkRelayCodec, observedCodec, hother, hobj]
  obtain ⟨sent, hsend, -, -, hrelay⟩ := (relayed_iff forkRelayCodec forkLooseMessage
    (forkPacket (.double [.finite 1])) forkLooseMessage_decodes (by decide +kernel)
    (by decide +kernel) hlossless).mpr (by decide +kernel)
  have hsent : sent = forkDoubleMessage := by
    simp only [serialize, bind_eq_ok_iff, pure_eq_ok, Except.ok.injEq] at hsend
    obtain ⟨obj, -, hbytes⟩ := hsend
    exact hbytes.symm
  rw [← hsent]
  exact (hrelay 2).1

/-! ### A series that cannot be counted -/

theorem mapM_getDouble_zero (n : Nat) :
    (List.replicate n (Json.integer 0)).mapM Json.getDouble =
      .ok (List.replicate n (.finite 0)) := by
  have hzero : Double.ofInt 0 = .finite 0 := by decide
  induction n with
  | zero => rfl
  | succ n ih => simp [List.replicate_succ, Json.getDouble, hzero, ih]

/-- Samples of UU.FORK.HHZ.01, all of them zero. -/
def forkZeros (n : Nat) : DataPacket := forkPacket (.double (List.replicate n (.finite 0)))

section Zeros

variable {n : Nat} (hn : 1 ≤ n)

include hn

theorem sampleCount_forkZeros : (forkZeros n).sampleCount = n ∧
    (forkZeros n).getDataType = .double ∧
    (forkZeros n).mDoubleData = List.replicate n (.finite 0) := by
  obtain ⟨m, rfl⟩ : ∃ m, n = m + 1 := ⟨n - 1, by omega⟩
  refine ⟨?_, rfl, rfl⟩
  exact (List.length_replicate : (List.replicate (m + 1) (Double.finite 0)).length = m + 1)

theorem codes_forkZeros : (forkZeros n).haveNetwork = true ∧ (forkZeros n).haveStation = true ∧
    (forkZeros n).haveChannel = true ∧ (forkZeros n).haveLocationCode = true ∧
    (forkZeros n).haveSamplingRate = true := by
  obtain ⟨m, rfl⟩ : ∃ m, n = m + 1 := ⟨n - 1, by omega⟩
  exact ⟨rfl, rfl, rfl, rfl, rfl⟩

/-- From 2^31 samples on, up to 2^32, the packet is written as one without samples. -/
theorem toJSONObject_forkZeros (hmany : 2 ^ 31 ≤ n) (hless : n < 2 ^ 32) :
    (forkZeros n).toJSONObject = .ok (.object (forkZeros n).headerFields) := by
  obtain ⟨hnetwork, hstation, hchannel, hlocation, hrate⟩ := codes_forkZeros hn
  apply toJSONObject_of_no_samples hnetwork hstation hchannel hlocation hrate
  rw [getNumberOfSamples_eq, (sampleCount_forkZeros hn).1, Int32.le_iff_toInt_le,
    Int32.toInt_ofNat', Int.bmod_def]
  have hzero : Int32.toInt 0 = 0 := rfl
  have hsize : Int32.size = 4294967296 := rfl
  rw [hzero, hsize]
  omega

end Zeros

/-- The samples from a writer that leaves out the keys nobody reads. -/
def forkLongObject (n : Nat) : Json :=
  .object ((forkZeros n).headerFields ++ [("data", .array (List.replicate n (.integer 0)))])

theorem objectToDataPacket_forkLongObject {n : Nat} (hn : 1 ≤ n) :
    objectToDataPacket (forkLongObject n) = .ok (forkZeros n) := by
  obtain ⟨hnetwork, hstation, hchannel, hlocation, hrate⟩ := codes_forkZeros hn
  obtain ⟨-, htype, hdata⟩ := sampleCount_forkZeros hn
  apply objectToDataPacket_of_items hnetwork hstation hchannel hlocation hrate htype rfl
  rw [mapM_getDouble_zero, hdata]

/-- What a codec shows when the message with the samples is read and the packet is sent on. -/
def forkLongCodec (message : List UInt8) (n : Nat) : CborCodec where
  toCbor _ := forkEmptyMessage
  fromCbor bytes :=
    if bytes = message then .ok (forkLongObject n)
    else if bytes = forkEmptyMessage then .ok (.object (forkZeros n).headerFields)
    else unexpectedEnd

/-- As long as the count is negative, what is sent for the packet has no "data". -/
theorem not_relayed_forkZeros {n : Nat} (hmany : 2 ^ 31 ≤ n) (hless : n < 2 ^ 32)
    {message : List UInt8} (hne : message ≠ []) (hother : forkEmptyMessage ≠ message) :
    deserialize (forkLongCodec message n) message = .ok (forkZeros n) ∧
    1 ≤ (forkZeros n).sampleCount ∧ (forkZeros n).mSamplingRate ≠ .nan ∧
    (∀ obj, (forkZeros n).toJSONObject = .ok obj →
      (forkLongCodec message n).LosslessOn obj) ∧
    ¬ Relayed (forkLongCodec message n) message (forkZeros n) := by
  have hn : 1 ≤ n := by omega
  have hcount := (sampleCount_forkZeros hn).1
  obtain ⟨hnetwork, hstation, hchannel, hlocation, hrate⟩ := codes_forkZeros hn
  have hobj := toJSONObject_forkZeros hn hmany hless
  have hempty : forkEmptyMessage ≠ [] := by decide
  have hread : (forkLongCodec message n).fromCbor message = .ok (forkLongObject n) := if_pos rfl
  have hreread : (forkLongCodec message n).fromCbor forkEmptyMessage =
      .ok (.object (forkZeros n).headerFields) := by
    simp [forkLongCodec, hother]
  refine ⟨?_, by omega, ?_, ?_, ?_⟩
  · rw [deserialize_of_fromCbor hne hread]
    exact objectToDataPacket_forkLongObject hn
  · intro hnan
    rw [haveSamplingRate, hnan] at hrate
    cases hrate
  · intro obj h
    rw [hobj, Except.ok.injEq] at h
    exact ⟨hempty, h ▸ hreread⟩
  · rintro ⟨sent, hsend, hdecode, -⟩
    rw [serialize, hobj] at hsend
    obtain rfl : forkEmptyMessage = sent := Except.ok.inj hsend
    rw [deserialize_of_fromCbor hempty hreread,
      objectToDataPacket_headerFields hnetwork hstation hchannel hlocation hrate] at hdecode
    cases hdecode

/-- The first count that an `int` cannot hold. -/
def forkCount : Nat := 2 ^ 31

/-- The message without samples, with a key "data" and an array in it. -/
def forkLongMessage : List UInt8 :=
  0xa9 :: (forkEmptyMessage.tail.take 12 ++
    [0x64, 0x64, 0x61, 0x74, 0x61, 0x9a, 0x80, 0x00, 0x00, 0x00] ++
    List.replicate forkCount 0x00 ++ forkEmptyMessage.drop 13)

/-- A message of 2^31 samples is decoded, and what is sent for the packet cannot be. -/
theorem fork_long_message_not_relayed :
    deserialize (forkLongCodec forkLongMessage forkCount) forkLongMessage =
      .ok (forkZeros forkCount) ∧
    1 ≤ (forkZeros forkCount).sampleCount ∧ (forkZeros forkCount).mSamplingRate ≠ .nan ∧
    (∀ obj, (forkZeros forkCount).toJSONObject = .ok obj →
      (forkLongCodec forkLongMessage forkCount).LosslessOn obj) ∧
    ¬ Relayed (forkLongCodec forkLongMessage forkCount) forkLongMessage
      (forkZeros forkCount) := by
  have hother : forkEmptyMessage ≠ forkLongMessage := by
    intro heq
    have hhead : (0xa8 : UInt8) = 0xa9 := (List.cons.inj heq).1
    revert hhead
    decide
  exact not_relayed_forkZeros (le_refl _) (by norm_num [forkCount]) (List.cons_ne_nil _ _) hother

end DataPacket

end Us8
