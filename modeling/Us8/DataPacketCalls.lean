/-
  Us8/DataPacketCalls.lean
  ========================
  **A data packet under any sequence of calls** (the public member functions of
  `messageFormats/broadcasts/dataPacket.cpp`).

  `DataPacket` is a packet whose tag names its only array and whose end time is up to
  date, and its functions build such packets.  Here the same calls are made on the fields
  as they are (`DataPacketImpl.call`), so that nothing is assumed of them, and `Reachable`
  are the states that calls and copy assignments lead to from the default constructor.
  All of these are packets in the above sense (`Reachable.packet`).

  The second half is about `setData`.  Its overloads return early for an empty series,
  before the old one has been cleared.
-/
import Us8.DataPacketWire
import Mathlib.Data.List.Pairwise

namespace Us8

/-! ### Samples in memory -/

def DataPacketImpl.CodeField.whatEmpty : DataPacketImpl.CodeField → String
  | .network => "Network is empty"
  | .station => "Station is empty"
  | .channel => "Channel is empty"
  | .locationCode => "Location is empty"

namespace Samples

def length : Samples → Nat
  | .integer32 data => data.length
  | .integer64 data => data.length
  | .float data => data.length
  | .double data => data.length

def dataType : Samples → DataType
  | .integer32 _ => .integer32
  | .integer64 _ => .integer64
  | .float _ => .float
  | .double _ => .double

end Samples

/-- A `const U *`: null, or what is in memory from there on. -/
inductive SamplePointer where
  | integer32 (x : Option (Nat → Int32))
  | integer64 (x : Option (Nat → Int64))
  | float (x : Option (Nat → Single))
  | double (x : Option (Nat → Double))

namespace SamplePointer

def isNull : SamplePointer → Bool
  | .integer32 x => x.isNone
  | .integer64 x => x.isNone
  | .float x => x.isNone
  | .double x => x.isNone

/-- `std::copy` from the pointer. -/
def copyFrom {U : Type} (x : Option (Nat → U)) (n : Nat) : List U :=
  match x with
  | some x => (List.range n).map x
  | none => []

def read (n : Nat) : SamplePointer → Samples
  | .integer32 x => .integer32 (copyFrom x n)
  | .integer64 x => .integer64 (copyFrom x n)
  | .float x => .float (copyFrom x n)
  | .double x => .double (copyFrom x n)

end SamplePointer

/-- `setData(nSamples, x)`. -/
def DataPacket.setDataPointer (packet : DataPacket) (nSamples : Int32) (x : SamplePointer) :
    Except StdException DataPacket :=
  if nSamples.toInt < 0 then .error (.invalidArgument "nSamples not positive")
  else if x.isNull then .error (.invalidArgument "x is NULL")
  else .ok (packet.setData (x.read nSamples.toInt.toNat))

/-! ### Calls on the fields -/

/-- The calls that change a packet. -/
inductive PacketCall where
  | setCode (field : DataPacketImpl.CodeField) (code : String)
  | setSamplingRate (samplingRate : Double)
  | setStartTime (startTime : Int64)
  | setStartTimeSeconds (startTime : Double)
  | setData (samples : Samples)
  | setDataPointer (nSamples : Int32) (x : SamplePointer)
  | clear
  | deserialize (message : List UInt8)

/-- What a call sets that the end time depends on. -/
inductive Setter where
  | startTime
  | samplingRate
  | data
deriving DecidableEq

def PacketCall.setter : PacketCall → Option Setter
  | .setStartTime _ => some .startTime
  | .setStartTimeSeconds _ => some .startTime
  | .setSamplingRate _ => some .samplingRate
  | .setData _ => some .data
  | .setDataPointer _ _ => some .data
  | _ => none

namespace DataPacketImpl

def clear (impl : DataPacketImpl) : DataPacketImpl :=
  { impl.clearData with
    mNetwork := .unset, mStation := .unset, mChannel := .unset, mLocationCode := .unset,
    mStartTimeMicroSeconds := 0, mEndTimeMicroSeconds := 0, mSamplingRate := .finite 0 }

def putStartTime (impl : DataPacketImpl) (startTime : Int64) : DataPacketImpl :=
  { impl with mStartTimeMicroSeconds := startTime }.updateEndTime

def putSamplingRate (impl : DataPacketImpl) (samplingRate : Double) : DataPacketImpl :=
  { impl with mSamplingRate := samplingRate }.updateEndTime

/-- The public `setData` updates the end time once more. -/
def putData (impl : DataPacketImpl) (samples : Samples) : DataPacketImpl :=
  (impl.setData samples).updateEndTime

/-- The fields after a call; one that throws leaves them alone. -/
def call (codec : CborCodec) (impl : DataPacketImpl) : PacketCall → DataPacketImpl
  | .setCode field code =>
      match SeedCode.set field.whatEmpty code with
      | .ok code => impl.withCode field code
      | .error _ => impl
  | .setSamplingRate samplingRate =>
      if samplingRate.nonPositive then impl else impl.putSamplingRate samplingRate
  | .setStartTime startTime => impl.putStartTime startTime
  | .setStartTimeSeconds startTime =>
      impl.putStartTime (DataPacket.iStartTimeMuS startTime)
  | .setData samples => impl.putData samples
  | .setDataPointer nSamples x =>
      if nSamples.toInt < 0 ∨ x.isNull then impl
      else impl.putData (x.read nSamples.toInt.toNat)
  | .clear => impl.clear
  | .deserialize message =>
      match DataPacket.deserialize codec message with
      | .ok packet => packet.toDataPacketImpl
      | .error _ => impl

/-- Copy assignment. -/
def assign (_impl other : DataPacketImpl) : DataPacketImpl := other

/-- The states that calls lead to. -/
inductive Reachable (codec : CborCodec) : DataPacketImpl → Prop where
  | new : Reachable codec {}
  | call {impl : DataPacketImpl} (h : Reachable codec impl) (call : PacketCall) :
      Reachable codec (impl.call codec call)
  | assign {impl other : DataPacketImpl} (h : Reachable codec impl)
      (hother : Reachable codec other) : Reachable codec (impl.assign other)

/-! ### What every call keeps -/

section Invariant

variable {codec : CborCodec} {impl : DataPacketImpl}

theorem Tagged.new : Tagged {} := by
  constructor <;> simp

/-- What a call can do to the fields: nothing, or one change. -/
inductive CallCase (impl : DataPacketImpl) : DataPacketImpl → Prop where
  | refused : CallCase impl impl
  | code (field : CodeField) (code : SeedCode) : CallCase impl (impl.withCode field code)
  | samplingRate (samplingRate : Double) : CallCase impl (impl.putSamplingRate samplingRate)
  | startTime (startTime : Int64) : CallCase impl (impl.putStartTime startTime)
  | data (samples : Samples) : CallCase impl (impl.putData samples)
  | cleared : CallCase impl impl.clear
  | read (packet : DataPacket) : CallCase impl packet.toDataPacketImpl

theorem call_case (codec : CborCodec) (impl : DataPacketImpl) (call : PacketCall) :
    CallCase impl (impl.call codec call) := by
  cases call with
  | setCode field code =>
    rw [DataPacketImpl.call]
    cases SeedCode.set field.whatEmpty code with
    | error e => exact .refused
    | ok code => exact .code field code
  | setSamplingRate samplingRate =>
    rw [DataPacketImpl.call]
    split_ifs
    · exact .refused
    · exact .samplingRate samplingRate
  | setStartTime startTime => exact .startTime startTime
  | setStartTimeSeconds startTime => exact .startTime _
  | setData samples => exact .data samples
  | setDataPointer nSamples x =>
    rw [DataPacketImpl.call]
    split_ifs
    · exact .refused
    · exact .data _
  | clear => exact .cleared
  | deserialize message =>
    rw [DataPacketImpl.call]
    cases DataPacket.deserialize codec message with
    | error e => exact .refused
    | ok packet => exact .read packet

theorem Tagged.call (h : impl.Tagged) (call : PacketCall) : (impl.call codec call).Tagged := by
  have hcase := impl.call_case codec call
  generalize impl.call codec call = after at hcase ⊢
  cases hcase with
  | refused => exact h
  | code field code => exact h.withCode field code
  | samplingRate samplingRate => exact ⟨h.integer32, h.integer64, h.float, h.double⟩
  | startTime startTime => exact ⟨h.integer32, h.integer64, h.float, h.double⟩
  | data samples => exact (h.setData samples).updateEndTime
  | cleared => exact Tagged.new
  | read packet => exact packet.tagged

theorem EndTimeCurrent.call (h : impl.EndTimeCurrent) (call : PacketCall) :
    (impl.call codec call).EndTimeCurrent := by
  have hcase := impl.call_case codec call
  generalize impl.call codec call = after at hcase ⊢
  cases hcase with
  | refused => exact h
  | code field code => exact h.withCode field code
  | samplingRate samplingRate => exact endTimeCurrent_updateEndTime _
  | startTime startTime => exact endTimeCurrent_updateEndTime _
  | data samples => exact endTimeCurrent_updateEndTime _
  | cleared => rfl
  | read packet => exact packet.endTimeCurrent

theorem Reachable.tagged (h : Reachable codec impl) : impl.Tagged := by
  induction h with
  | new => exact Tagged.new
  | call _ call ih => exact ih.call call
  | assign _ _ _ ih => exact ih

theorem Reachable.endTimeCurrent (h : Reachable codec impl) : impl.EndTimeCurrent := by
  induction h with
  | new => rfl
  | call _ call ih => exact ih.call call
  | assign _ _ _ ih => exact ih

/-- A reachable state is a packet. -/
def Reachable.packet (h : Reachable codec impl) : DataPacket :=
  ⟨impl, h.tagged, h.endTimeCurrent⟩

end Invariant

end DataPacketImpl

/-- The functions of the class that carries the invariant. -/
def DataPacket.call (codec : CborCodec) (packet : DataPacket) :
    PacketCall → Except Failure DataPacket
  | .setCode field code => Failure.lift (DataPacket.setCode field field.whatEmpty packet code)
  | .setSamplingRate samplingRate => Failure.lift (packet.setSamplingRate samplingRate)
  | .setStartTime startTime => .ok (packet.setStartTime startTime)
  | .setStartTimeSeconds startTime => .ok (packet.setStartTimeSeconds startTime)
  | .setData samples => .ok (packet.setData samples)
  | .setDataPointer nSamples x => Failure.lift (packet.setDataPointer nSamples x)
  | .clear => .ok packet.clear
  | .deserialize message => DataPacket.deserialize codec message

/-- They do to the fields what the calls do. -/
theorem DataPacket.toDataPacketImpl_call (codec : CborCodec) (packet : DataPacket)
    (call : PacketCall) :
    (match packet.call codec call with
      | .ok next => next.toDataPacketImpl
      | .error _ => packet.toDataPacketImpl) = packet.toDataPacketImpl.call codec call := by
  cases call with
  | setCode field code =>
    rw [DataPacketImpl.call, DataPacket.call, DataPacket.setCode]
    cases SeedCode.set field.whatEmpty code <;> rfl
  | setSamplingRate samplingRate =>
    rw [DataPacketImpl.call, DataPacket.call, DataPacket.setSamplingRate]
    split_ifs <;> rfl
  | setDataPointer nSamples x =>
    rw [DataPacketImpl.call, DataPacket.call, DataPacket.setDataPointer]
    by_cases hthrow : nSamples.toInt < 0 ∨ x.isNull
    · rw [if_pos hthrow]
      rcases hthrow with hnegative | hnull
      · rw [if_pos hnegative]
        rfl
      · by_cases hnegative : nSamples.toInt < 0
        · rw [if_pos hnegative]
          rfl
        · rw [if_neg hnegative, if_pos hnull]
          rfl
    · obtain ⟨hnegative, hnull⟩ := not_or.mp hthrow
      rw [if_neg hthrow, if_neg hnegative, if_neg hnull]
      rfl
  | deserialize message => rw [DataPacketImpl.call, DataPacket.call]
  | _ => rfl

namespace DataPacketImpl

/-! ### The order of start time, rate and data -/

/-- The array for a type of samples has entries. -/
def filled (impl : DataPacketImpl) : DataType → Bool
  | .integer32 => !impl.mInteger32Data.isEmpty
  | .integer64 => !impl.mInteger64Data.isEmpty
  | .float => !impl.mFloatData.isEmpty
  | .double => !impl.mDoubleData.isEmpty
  | .unknown => false

theorem filled_iff {impl : DataPacketImpl} (h : impl.Tagged) {type : DataType} :
    impl.filled type = true ↔ type ≠ .unknown ∧ impl.mDataType = type := by
  cases type with
  | unknown => simp [filled]
  | integer32 => simpa [filled] using h.integer32
  | integer64 => simpa [filled] using h.integer64
  | float => simpa [filled] using h.float
  | double => simpa [filled] using h.double

/-- A setter throws on every packet or on none, and then it changes fields of its own and
    brings the end time up to date. -/
theorem call_setter (codec : CborCodec) {call : PacketCall} {setter : Setter}
    (h : call.setter = some setter) :
    (∀ impl : DataPacketImpl, impl.call codec call = impl) ∨
      (match setter with
        | .startTime => ∃ startTime, ∀ impl : DataPacketImpl,
            impl.call codec call = impl.putStartTime startTime
        | .samplingRate => ∃ samplingRate, ∀ impl : DataPacketImpl,
            impl.call codec call = impl.putSamplingRate samplingRate
        | .data => ∃ samples, ∀ impl : DataPacketImpl,
            impl.call codec call = impl.putData samples) := by
  cases call with
  | setStartTime startTime =>
    obtain rfl := Option.some.inj h
    exact Or.inr ⟨startTime, fun _ => rfl⟩
  | setStartTimeSeconds startTime =>
    obtain rfl := Option.some.inj h
    exact Or.inr ⟨_, fun _ => rfl⟩
  | setSamplingRate samplingRate =>
    obtain rfl := Option.some.inj h
    by_cases hthrow : samplingRate.nonPositive = true
    · exact Or.inl fun impl => if_pos hthrow
    · exact Or.inr ⟨samplingRate, fun impl => if_neg hthrow⟩
  | setData samples =>
    obtain rfl := Option.some.inj h
    exact Or.inr ⟨samples, fun _ => rfl⟩
  | setDataPointer nSamples x =>
    obtain rfl := Option.some.inj h
    by_cases hthrow : nSamples.toInt < 0 ∨ x.isNull
    · exact Or.inl fun impl => if_pos hthrow
    · exact Or.inr ⟨x.read nSamples.toInt.toNat, fun impl => if_neg hthrow⟩
  | setCode field code => cases h
  | clear => cases h
  | deserialize message => cases h

/-- The end time is computed from the other fields, whatever it was before. -/
theorem updateEndTime_congr {impl other : DataPacketImpl}
    (h : { impl with mEndTimeMicroSeconds := 0 } = { other with mEndTimeMicroSeconds := 0 }) :
    impl.updateEndTime = other.updateEndTime := by
  calc impl.updateEndTime
      = { impl with mEndTimeMicroSeconds := 0 }.updateEndTime := rfl
    _ = { other with mEndTimeMicroSeconds := 0 }.updateEndTime := by rw [h]
    _ = other.updateEndTime := rfl

theorem putStartTime_putSamplingRate (impl : DataPacketImpl) (startTime : Int64)
    (samplingRate : Double) :
    (impl.putStartTime startTime).putSamplingRate samplingRate =
      (impl.putSamplingRate samplingRate).putStartTime startTime := rfl

theorem putStartTime_putData (impl : DataPacketImpl) (startTime : Int64) (samples : Samples) :
    (impl.putStartTime startTime).putData samples =
      (impl.putData samples).putStartTime startTime := by
  apply updateEndTime_congr
  rcases samples with data | data | data | data <;> cases data <;> rfl

theorem putSamplingRate_putData (impl : DataPacketImpl) (samplingRate : Double)
    (samples : Samples) :
    (impl.putSamplingRate samplingRate).putData samples =
      (impl.putData samples).putSamplingRate samplingRate := by
  apply updateEndTime_congr
  rcases samples with data | data | data | data <;> cases data <;> rfl

theorem call_comm (codec : CborCodec) {call other : PacketCall} {setter setter' : Setter}
    (hcall : call.setter = some setter) (hother : other.setter = some setter')
    (hne : setter ≠ setter') (impl : DataPacketImpl) :
    (impl.call codec call).call codec other = (impl.call codec other).call codec call := by
  rcases call_setter codec hcall with hnone | hput
  · rw [hnone, hnone]
  rcases call_setter codec hother with hnone | hput'
  · rw [hnone, hnone]
  cases setter <;> cases setter' <;>
    first
    | exact absurd rfl hne
    | (obtain ⟨x, hx⟩ := hput
       obtain ⟨y, hy⟩ := hput'
       simp only [hx, hy, putStartTime_putSamplingRate, putStartTime_putData,
         putSamplingRate_putData])

/-- Calls that set different things can be made in any order. -/
theorem foldl_call_perm (codec : CborCodec) {calls others : List PacketCall}
    (hperm : calls.Perm others) (hsetters : ∀ call ∈ calls, call.setter ≠ none)
    (hdistinct : calls.Pairwise fun call other => call.setter ≠ other.setter)
    (impl : DataPacketImpl) :
    calls.foldl (call codec) impl = others.foldl (call codec) impl := by
  have : Std.Symm fun call other : PacketCall => call.setter ≠ other.setter :=
    ⟨fun _ _ h => h.symm⟩
  refine hperm.foldl_eq' (fun call hcall other hother z => ?_) impl
  by_cases heq : call = other
  · rw [heq]
  · obtain ⟨setter, hsetter⟩ := Option.ne_none_iff_exists'.mp (hsetters call hcall)
    obtain ⟨setter', hsetter'⟩ := Option.ne_none_iff_exists'.mp (hsetters other hother)
    have hne : call.setter ≠ other.setter := hdistinct.forall hcall hother heq
    rw [hsetter, hsetter'] at hne
    exact call_comm codec hsetter hsetter' (fun h => hne (congrArg some h)) z

/-- What the getters show of a consistent packet. -/
structure Consistent (impl : DataPacketImpl) : Prop where
  atMostOne : ∀ type other, impl.filled type = true → impl.filled other = true → type = other
  tag : ∀ type, impl.filled type = true ↔ type ≠ .unknown ∧ impl.mDataType = type
  unknown : impl.mDataType = .unknown ↔ ∀ type, impl.filled type = false
  endTime : impl.mEndTimeMicroSeconds =
    if 0 < impl.size ∧ impl.mSamplingRate.positive = true then
      impl.mStartTimeMicroSeconds + traceDuration impl.size.toNatClampNeg impl.mSamplingRate
    else impl.mStartTimeMicroSeconds

theorem consistent_of_tagged {impl : DataPacketImpl} (h : impl.Tagged)
    (hcurrent : impl.EndTimeCurrent) : impl.Consistent where
  atMostOne := by
    intro type other htype hother
    obtain ⟨-, rfl⟩ := (filled_iff h).mp htype
    exact ((filled_iff h).mp hother).2
  tag := fun _ => filled_iff h
  unknown := by
    constructor
    · intro hunknown type
      by_contra hfilled
      obtain ⟨hne, rfl⟩ := (filled_iff h).mp (by simpa using hfilled)
      exact hne hunknown
    · intro hempty
      by_contra hne
      have hfilled : impl.filled impl.mDataType = true := (filled_iff h).mpr ⟨hne, rfl⟩
      rw [hempty] at hfilled
      cases hfilled
  endTime := hcurrent

/-- **Representation invariant.**  In every state that calls lead to, at most one array has
    samples, the tag names it, and the cached end time is that of the current start time,
    rate and samples; so start time, rate and data can be set in any order. -/
theorem reachable_consistent {codec : CborCodec} {impl : DataPacketImpl}
    (h : Reachable codec impl) :
    impl.Consistent ∧
    ∀ calls others : List PacketCall, calls.Perm others →
      (∀ call ∈ calls, call.setter ≠ none) →
      calls.Pairwise (fun call other => call.setter ≠ other.setter) →
        calls.foldl (call codec) impl = others.foldl (call codec) impl :=
  ⟨consistent_of_tagged h.tagged h.endTimeCurrent,
    fun _ _ hperm hsetters hdistinct => foldl_call_perm codec hperm hsetters hdistinct impl⟩

/-- One sample is replaced by two; then the rate and the start are set, in either order. -/
theorem fork_calls_consistent :
    let codec := DataPacket.observedCodec (DataPacket.forkPacket (.double [.finite 1])) []
    let impl := (({} : DataPacketImpl).call codec (.setData (.integer32 [7]))).call codec
      (.setData (.double [.finite 1, .finite 2]))
    impl.Consistent ∧
    [PacketCall.setSamplingRate (.finite 100), .setStartTime 50].foldl (call codec) impl =
      [PacketCall.setStartTime 50, .setSamplingRate (.finite 100)].foldl (call codec) impl :=
  have h := reachable_consistent ((Reachable.new.call (.setData (.integer32 [7]))).call
    (.setData (.double [.finite 1, .finite 2])))
  ⟨h.1, h.2 _ _ (List.Perm.swap _ _ _) (by simp [PacketCall.setter])
    (by simp [PacketCall.setter])⟩

end DataPacketImpl

/-! ### A new series -/

namespace DataPacket

/-- The packet shows the series, and nothing of another one. -/
structure Holds (packet : DataPacket) (samples : Samples) : Prop where
  number : packet.getNumberOfSamples.toInt = samples.length
  data : match samples with
    | .integer32 data => packet.getData Int32 = .ok data
    | .integer64 data => packet.getData Int64 = .ok data
    | .float data => packet.getData Single = .ok data
    | .double data => packet.getData Double = .ok data
  type : samples.length ≠ 0 → packet.getDataType = samples.dataType
  others : ∀ type, packet.filled type = true → samples.length ≠ 0 ∧ type = samples.dataType

/-- An empty series changes nothing. -/
theorem setData_of_empty (packet : DataPacket) {samples : Samples} (h : samples.length = 0) :
    packet.setData samples = packet := by
  obtain ⟨impl, htagged, hcurrent⟩ := packet
  have hsame : impl.setData samples = impl := by
    rcases samples with data | data | data | data <;>
      (obtain rfl := List.length_eq_zero_iff.mp h
       rfl)
  have hupdate : impl.updateEndTime = impl := by
    rw [DataPacketImpl.updateEndTime, ← hcurrent]
  simp only [setData, refresh, hsame, hupdate]

/-- A series with samples becomes the packet's only one. -/
theorem holds_setData (packet : DataPacket) {samples : Samples} (h : samples.length ≠ 0)
    (hint : samples.length < 2 ^ 31) : (packet.setData samples).Holds samples := by
  have hnumber := (toInt_ofNat_iff _).mpr hint
  have hpos : ¬ Int32.ofNat samples.length < 1 :=
    Int32.not_lt.mpr (one_le_ofNat (Nat.one_le_iff_ne_zero.mpr h) hint)
  rcases samples with data | data | data | data
  all_goals
    obtain ⟨x, rest, rfl⟩ := List.exists_cons_of_ne_nil (List.ne_nil_of_length_pos
      (Nat.pos_of_ne_zero h))
    refine ⟨hnumber, ?_, fun _ => rfl, fun type htype => ⟨h, ?_⟩⟩
    · exact (if_neg hpos).trans ((congrArg _ (List.map_id _)).trans (copied_of_fits rfl hint))
    · cases type <;> first | rfl | cases htype

/-- A packet with samples shows no empty series. -/
theorem holds_empty_iff (packet : DataPacket) {samples : Samples} (h : samples.length = 0) :
    packet.Holds samples ↔ packet.sampleCount = 0 := by
  rw [← getDataType_eq_unknown_iff]
  constructor
  · intro hholds
    by_contra hne
    have hfilled : packet.filled packet.mDataType = true :=
      (DataPacketImpl.filled_iff packet.tagged).mpr ⟨hne, rfl⟩
    exact (hholds.others _ hfilled).1 h
  · intro hunknown
    have hnone : packet.getNumberOfSamples = 0 := by
      rw [getNumberOfSamples_eq, packet.getDataType_eq_unknown_iff.mp hunknown]
      rfl
    refine ⟨?_, ?_, fun hne => absurd h hne, fun type hfilled => ?_⟩
    · rw [hnone, h]
      rfl
    · have hdata : ∀ (U : Type) [Element U], packet.getData U = .ok [] := by
        intro U _
        rw [getData, hnone]
        rfl
      rcases samples with data | data | data | data <;>
        (obtain rfl := List.length_eq_zero_iff.mp h
         exact hdata _)
    · obtain ⟨hne, htype⟩ := (DataPacketImpl.filled_iff packet.tagged).mp hfilled
      exact absurd (htype.symm.trans hunknown) hne

theorem length_read (x : SamplePointer) (n : Nat) (h : x.isNull = false) :
    (x.read n).length = n := by
  rcases x with x | x | x | x <;> cases x with
  | none => cases h
  | some x => exact (List.length_map _).trans List.length_range

/-- **Replacing the series.**  After `setData` the packet shows the new series if and only if
    the series has samples or the packet had none, and there are less than 2^31 of them; the
    pointer form is `setData` of what is in memory. -/
theorem holds_setData_iff (packet : DataPacket) :
    (∀ samples : Samples, (packet.setData samples).Holds samples ↔
      (samples.length ≠ 0 ∨ packet.sampleCount = 0) ∧ samples.length < 2 ^ 31) ∧
    ∀ (nSamples : Int32) (x : SamplePointer), 0 ≤ nSamples.toInt → x.isNull = false →
      (x.read nSamples.toInt.toNat).length = nSamples.toInt.toNat ∧
      packet.setDataPointer nSamples x = .ok (packet.setData (x.read nSamples.toInt.toNat)) := by
  refine ⟨fun samples => ?_, fun nSamples x hnonneg hnull => ⟨length_read x _ hnull, ?_⟩⟩
  · by_cases hempty : samples.length = 0
    · rw [setData_of_empty packet hempty, holds_empty_iff packet hempty]
      constructor
      · exact fun hnone => ⟨Or.inr hnone, by omega⟩
      · exact fun hcond => hcond.1.resolve_left (not_not_intro hempty)
    · constructor
      · intro hholds
        have hint := (packet.setData samples).getNumberOfSamples.toInt_lt
        rw [hholds.number] at hint
        exact ⟨Or.inl hempty, by omega⟩
      · exact fun hcond => holds_setData packet hempty hcond.2
  · rw [setDataPointer, if_neg (not_lt.mpr hnonneg), if_neg (by simp [hnull])]

/-- Two samples are copied from memory over a packet with one sample of another type. -/
theorem fork_pointer_series_held :
    ∃ next, (forkPacket (.integer32 [7])).setDataPointer 2
        (.double (some fun i => .finite (i + 1))) = .ok next ∧
      next.Holds (.double [.finite 1, .finite 2]) := by
  obtain ⟨hvector, hpointer⟩ := holds_setData_iff (forkPacket (.integer32 [7]))
  have htwo : (Int32.toInt 2).toNat = 2 := by decide
  have hread : SamplePointer.read (Int32.toInt 2).toNat (.double (some fun i => .finite (i + 1))) =
      .double [.finite 1, .finite 2] := by
    rw [htwo]
    norm_num [SamplePointer.read, SamplePointer.copyFrom, List.range_succ]
  refine ⟨_, (hpointer 2 _ (by decide) rfl).2, ?_⟩
  rw [hread]
  exact (hvector _).mpr ⟨Or.inl (by decide), by decide⟩

/-- A packet with a sample is given an empty series, and still has the sample. -/
theorem fork_empty_series_keeps_sample :
    ((forkPacket (.double [.finite 1])).setData (.double [])).getData Double =
      .ok [.finite 1] ∧
    ¬ ∀ (packet : DataPacket) (samples : Samples), (packet.setData samples).Holds samples := by
  refine ⟨by decide +kernel, fun h => ?_⟩
  have hnumber := (h (forkPacket (.double [.finite 1])) (.double [])).number
  revert hnumber
  decide +kernel

end DataPacket

end Us8
