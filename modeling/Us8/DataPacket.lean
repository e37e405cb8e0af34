/-
  Us8/DataPacket.lean
  ===================
  **The seismic data packet** (`messageFormats/broadcasts/dataPacket.cpp`,
  `private/isEmpty.hpp`).

  `DataPacketImpl` has the fields of the C++ class, and the functions under it are
  its member functions.  The public class can only reach the values its setters
  build, and those satisfy more than the fields say:

    * a code is unset or a fixed point of the normaliser that is not blank
      (`SeedCode`, a structure that carries the fact);
    * the type tag names the one sample array that is not empty (`Tagged`);
    * the cached end time is the one `updateEndTime` computes from the current
      start time, rate and sample count (`EndTimeCurrent`).

  `DataPacket` carries the last two as fields, so every packet the setters,
  `clear` or a decoder can produce is one by construction.

  Characters stand for the bytes of a `std::string`.  `size()` casts the length of a
  vector to `int`: it is negative from 2^31 samples on, and from 2^32 on it can be a
  smaller positive number, in which case `getData` writes past the end of its result.
-/
import Us8.Numeric
import Us8.Outcome

namespace Us8

/-! ### Codes -/

/-- `std::isspace` in the "C" locale. -/
def isspace (c : Char) : Bool := c == ' ' || (9 ≤ c.toNat && c.toNat ≤ 13)

def toupper (c : Char) : Char :=
  if 97 ≤ c.toNat ∧ c.toNat ≤ 122 then Char.ofNat (c.toNat - 32) else c

def isEmpty (s : String) : Bool := s.toList.all isspace

def convertString (s : String) : String :=
  String.ofList ((s.toList.filter fun c => c != ' ').map toupper)

theorem toNat_toupper (c : Char) :
    (toupper c).toNat =
      if 97 ≤ c.toNat ∧ c.toNat ≤ 122 then c.toNat - 32 else c.toNat := by
  unfold toupper
  split_ifs with h
  · have hvalid : (c.toNat - 32).isValidChar := Or.inl (by omega)
    rw [Char.ofNat, dif_pos hvalid]
    rfl
  · rfl

theorem isspace_iff (c : Char) :
    isspace c = true ↔ c.toNat = 32 ∨ (9 ≤ c.toNat ∧ c.toNat ≤ 13) := by
  have hblank : c = ' ' ↔ c.toNat = 32 := by
    rw [← Char.toNat_inj]
    rfl
  simp [isspace, hblank]

theorem isspace_toupper (c : Char) : isspace (toupper c) = isspace c := by
  rw [Bool.eq_iff_iff, isspace_iff, isspace_iff, toNat_toupper]
  split_ifs <;> omega

theorem toupper_ne_blank {c : Char} (hc : c ≠ ' ') : toupper c ≠ ' ' := by
  intro heq
  have hnat : c.toNat ≠ 32 := fun h => hc (Char.toNat_inj.mp h)
  have hupper : (toupper c).toNat = 32 := by rw [heq]; rfl
  rw [toNat_toupper] at hupper
  split_ifs at hupper <;> omega

theorem toupper_toupper (c : Char) : toupper (toupper c) = toupper c := by
  apply Char.toNat_inj.mp
  rw [toNat_toupper (toupper c), toNat_toupper]
  split_ifs <;> omega

/-- The normaliser is idempotent: its output has no blanks and no lower case. -/
theorem convertString_convertString (s : String) :
    convertString (convertString s) = convertString s := by
  have hclean : ∀ c ∈ (s.toList.filter fun c => c != ' ').map toupper, c ≠ ' ' := by
    intro c hc
    obtain ⟨d, hd, rfl⟩ := List.mem_map.mp hc
    exact toupper_ne_blank (by simpa using (List.mem_filter.mp hd).2)
  simp only [convertString, String.toList_ofList]
  rw [List.filter_eq_self.mpr (by simpa using hclean), List.map_map]
  congr 1
  exact List.map_congr_left fun c _ => toupper_toupper c

/-- What the guard lets through the normaliser does not blank out: the guard
    rejects any white space, the normaliser removes blanks only. -/
theorem isEmpty_convertString {s : String} (hs : isEmpty s = false) :
    isEmpty (convertString s) = false := by
  simp only [isEmpty, List.all_eq_false] at hs ⊢
  obtain ⟨c, hc, hspace⟩ := hs
  have hne : c ≠ ' ' := by rintro rfl; exact hspace rfl
  refine ⟨toupper c, ?_, by rwa [isspace_toupper]⟩
  simp only [convertString, String.toList_ofList, List.mem_map]
  exact ⟨c, List.mem_filter.mpr ⟨hc, by simpa using hne⟩, rfl⟩

/-- A network, station, channel or location code as a packet stores it: unset
    (empty), or in normal form and not blank. -/
structure SeedCode where
  text : String
  normal : text = "" ∨ (isEmpty text = false ∧ convertString text = text)
deriving DecidableEq

namespace SeedCode

def unset : SeedCode := ⟨"", Or.inl rfl⟩

def set (what : String) (s : String) : Except StdException SeedCode :=
  if h : isEmpty s = true then .error (.invalidArgument what)
  else .ok ⟨convertString s, Or.inr
    ⟨isEmpty_convertString (by simpa using h), convertString_convertString s⟩⟩

def isSet (code : SeedCode) : Bool := code.text != ""

def get (what : String) (code : SeedCode) : Except StdException String :=
  if code.isSet then .ok code.text else .error (.runtimeError what)

theorem set_ok_iff {what s : String} : (∃ code, set what s = .ok code) ↔ isEmpty s = false := by
  unfold set
  split_ifs with h <;> simp [h]

theorem set_text {code : SeedCode} (hhave : code.isSet = true) (what : String) :
    set what code.text = .ok code := by
  rcases code.normal with hunset | ⟨hempty, hfixed⟩
  · simp [isSet, hunset] at hhave
  · unfold set
    rw [dif_neg (by simp [hempty])]
    congr 1
    cases code
    simpa using hfixed

theorem get_of_isSet {code : SeedCode} (h : code.isSet = true) (what : String) :
    code.get what = .ok code.text := by
  rw [get, if_pos h]

theorem isSet_of_get {code : SeedCode} {what text : String}
    (h : code.get what = .ok text) : code.isSet = true := by
  by_contra hunset
  rw [get, if_neg hunset] at h
  cases h

theorem isSet_of_set {what s : String} {code : SeedCode} (h : set what s = .ok code) :
    code.isSet = true := by
  unfold set at h
  split_ifs at h with hempty
  obtain rfl := Except.ok.inj h
  have hnot : isEmpty (convertString s) = false := isEmpty_convertString (by simpa using hempty)
  simp only [isSet, bne_iff_ne, ne_eq]
  intro hblank
  rw [hblank] at hnot
  cases hnot

end SeedCode

/-! ### Samples -/

inductive DataType where
  | integer32
  | integer64
  | float
  | double
  | unknown
deriving DecidableEq, Repr

inductive Samples where
  | integer32 (data : List Int32)
  | integer64 (data : List Int64)
  | float (data : List Single)
  | double (data : List Double)

def Single.ofRat (q : ℚ) : Single :=
  if 2 ^ 128 ≤ |roundToSpacing 24 (-149) q| then ⟨.infinity (decide (q < 0))⟩
  else ⟨.finite (roundToSpacing 24 (-149) q)⟩

/-- The element types `getData` is instantiated with, by how `std::copy` converts
    each stored sample type to them. -/
class Element (U : Type) where
  ofInteger32 : Int32 → U
  ofInteger64 : Int64 → U
  ofFloat : Single → U
  ofDouble : Double → U
  zero : U

instance : Element Int32 where
  ofInteger32 x := x
  ofInteger64 x := x.toInt32
  ofFloat x := x.toDouble.toInt32
  ofDouble x := x.toInt32
  zero := 0

instance : Element Int64 where
  ofInteger32 x := x.toInt64
  ofInteger64 x := x
  ofFloat x := x.toDouble.toInt64
  ofDouble x := x.toInt64
  zero := 0

instance : Element Single where
  ofInteger32 x := Single.ofRat x.toInt
  ofInteger64 x := Single.ofRat x.toInt
  ofFloat x := x
  ofDouble
    | .finite q => Single.ofRat q
    | x => ⟨x⟩
  zero := ⟨.finite 0⟩

instance : Element Double where
  ofInteger32 x := Double.ofInt x.toInt
  ofInteger64 x := Double.ofInt x.toInt
  ofFloat x := x.toDouble
  ofDouble x := x
  zero := .finite 0

/-! ### The implementation class -/

structure DataPacketImpl where
  mNetwork : SeedCode := .unset
  mStation : SeedCode := .unset
  mChannel : SeedCode := .unset
  mLocationCode : SeedCode := .unset
  mInteger32Data : List Int32 := []
  mInteger64Data : List Int64 := []
  mFloatData : List Single := []
  mDoubleData : List Double := []
  mStartTimeMicroSeconds : Int64 := 0
  mEndTimeMicroSeconds : Int64 := 0
  mSamplingRate : Double := .finite 0
  mDataType : DataType := .unknown
deriving DecidableEq

namespace DataPacketImpl

def size (impl : DataPacketImpl) : Int32 :=
  match impl.mDataType with
  | .unknown => 0
  | .integer32 => Int32.ofNat impl.mInteger32Data.length
  | .float => Int32.ofNat impl.mFloatData.length
  | .double => Int32.ofNat impl.mDoubleData.length
  | .integer64 => Int32.ofNat impl.mInteger64Data.length

/-- How many samples there are, before the cast of `size`. -/
def sampleCount (impl : DataPacketImpl) : Nat :=
  match impl.mDataType with
  | .unknown => 0
  | .integer32 => impl.mInteger32Data.length
  | .float => impl.mFloatData.length
  | .double => impl.mDoubleData.length
  | .integer64 => impl.mInteger64Data.length

theorem size_eq (impl : DataPacketImpl) : impl.size = Int32.ofNat impl.sampleCount := by
  unfold size sampleCount
  cases impl.mDataType <;> rfl

/-- A packet that says it has samples has some. -/
theorem sampleCount_pos_of_size {impl : DataPacketImpl} (h : 1 ≤ impl.size) :
    1 ≤ impl.sampleCount := by
  have hle := toInt_ofNat_le impl.sampleCount
  rw [size_eq, Int32.le_iff_toInt_le] at h
  have hone : Int32.toInt 1 = 1 := rfl
  omega

def clearData (impl : DataPacketImpl) : DataPacketImpl :=
  { impl with
    mInteger32Data := [], mInteger64Data := [], mFloatData := [], mDoubleData := [],
    mDataType := .unknown }

/-- The microseconds from the first to the last of `nSamples` samples.  Quotient and product
    are exact here; rounded to doubles they can come out a microsecond away. -/
def traceDuration (nSamples : Nat) (samplingRate : Double) : Int64 :=
  (((Double.finite ((nSamples - 1 : Nat) : ℚ)).div samplingRate).mul
    (.finite 1000000)).round.toInt64

/-- The duration before it is converted to 64 bits; it is zero at an infinite rate. -/
def exactDuration (nSamples : Nat) : Double → Int
  | .finite samplingRate => roundHalfAway (((nSamples - 1 : Nat) : ℚ) / samplingRate * 1000000)
  | _ => 0

theorem exactDuration_nonneg (nSamples : Nat) {samplingRate : Double}
    (hpos : samplingRate.positive = true) : 0 ≤ exactDuration nSamples samplingRate := by
  cases samplingRate with
  | nan => exact le_refl 0
  | infinity negative => exact le_refl 0
  | finite q =>
    have hq : 0 < q := by simpa [Double.positive] using hpos
    calc (0 : Int) = roundHalfAway 0 := roundHalfAway_zero.symm
      _ ≤ roundHalfAway (((nSamples - 1 : Nat) : ℚ) / q * 1000000) :=
        roundHalfAway_mono (le_refl 0) (by positivity)

/-- A duration of 2^63 microseconds or more is lost in the conversion. -/
theorem toInt_traceDuration (nSamples : Nat) {samplingRate : Double}
    (hpos : samplingRate.positive = true) :
    (traceDuration nSamples samplingRate).toInt =
      if exactDuration nSamples samplingRate < 2 ^ 63 then exactDuration nSamples samplingRate
      else -2 ^ 63 := by
  have hnonneg := exactDuration_nonneg nSamples hpos
  have hwhole : traceDuration nSamples samplingRate =
      (Double.finite (exactDuration nSamples samplingRate)).toInt64 := by
    cases samplingRate with
    | nan => simp [Double.positive] at hpos
    | infinity negative =>
      simp [traceDuration, exactDuration, Double.div, Double.mul, Double.round]
    | finite q =>
      have hq : q ≠ 0 := by
        rintro rfl
        simp [Double.positive] at hpos
      simp [traceDuration, exactDuration, Double.div, Double.mul, Double.round, hq]
  rw [hwhole, Double.toInt_toInt64_of_int]
  congr 1
  simp only [eq_iff_iff, and_iff_right_iff_imp]
  omega

def computedEndTime (impl : DataPacketImpl) : Int64 :=
  if 0 < impl.size ∧ impl.mSamplingRate.positive = true then
    impl.mStartTimeMicroSeconds + traceDuration impl.size.toNatClampNeg impl.mSamplingRate
  else impl.mStartTimeMicroSeconds

def updateEndTime (impl : DataPacketImpl) : DataPacketImpl :=
  { impl with mEndTimeMicroSeconds := impl.computedEndTime }

/-- The four `setData` overloads: an empty vector leaves the packet alone. -/
def setData (impl : DataPacketImpl) : Samples → DataPacketImpl
  | .integer32 data =>
      if data.isEmpty then impl
      else { impl.clearData with mInteger32Data := data, mDataType := .integer32 }.updateEndTime
  | .float data =>
      if data.isEmpty then impl
      else { impl.clearData with mFloatData := data, mDataType := .float }.updateEndTime
  | .double data =>
      if data.isEmpty then impl
      else { impl.clearData with mDoubleData := data, mDataType := .double }.updateEndTime
  | .integer64 data =>
      if data.isEmpty then impl
      else { impl.clearData with mInteger64Data := data, mDataType := .integer64 }.updateEndTime

/-- The tag names the one array that is not empty, and is `unknown` exactly when
    all are empty. -/
structure Tagged (impl : DataPacketImpl) : Prop where
  integer32 : impl.mInteger32Data ≠ [] ↔ impl.mDataType = .integer32
  integer64 : impl.mInteger64Data ≠ [] ↔ impl.mDataType = .integer64
  float : impl.mFloatData ≠ [] ↔ impl.mDataType = .float
  double : impl.mDoubleData ≠ [] ↔ impl.mDataType = .double

def EndTimeCurrent (impl : DataPacketImpl) : Prop :=
  impl.mEndTimeMicroSeconds = impl.computedEndTime

theorem Tagged.updateEndTime {impl : DataPacketImpl} (h : impl.Tagged) :
    impl.updateEndTime.Tagged := ⟨h.integer32, h.integer64, h.float, h.double⟩

theorem endTimeCurrent_updateEndTime (impl : DataPacketImpl) :
    impl.updateEndTime.EndTimeCurrent := rfl

/-- Replacing the series keeps the tag right, whatever was there before. -/
theorem Tagged.setData {impl : DataPacketImpl} (h : impl.Tagged) (samples : Samples) :
    (impl.setData samples).Tagged := by
  cases samples with
  | integer32 data =>
    cases data with
    | nil => exact h
    | cons x rest =>
      constructor <;> simp [DataPacketImpl.setData, DataPacketImpl.updateEndTime, clearData]
  | integer64 data =>
    cases data with
    | nil => exact h
    | cons x rest =>
      constructor <;> simp [DataPacketImpl.setData, DataPacketImpl.updateEndTime, clearData]
  | float data =>
    cases data with
    | nil => exact h
    | cons x rest =>
      constructor <;> simp [DataPacketImpl.setData, DataPacketImpl.updateEndTime, clearData]
  | double data =>
    cases data with
    | nil => exact h
    | cons x rest =>
      constructor <;> simp [DataPacketImpl.setData, DataPacketImpl.updateEndTime, clearData]

inductive CodeField where
  | network
  | station
  | channel
  | locationCode

def withCode (impl : DataPacketImpl) (field : CodeField) (code : SeedCode) : DataPacketImpl :=
  match field with
  | .network => { impl with mNetwork := code }
  | .station => { impl with mStation := code }
  | .channel => { impl with mChannel := code }
  | .locationCode => { impl with mLocationCode := code }

theorem Tagged.withCode {impl : DataPacketImpl} (h : impl.Tagged) (field : CodeField)
    (code : SeedCode) : (impl.withCode field code).Tagged := by
  cases field <;> exact ⟨h.integer32, h.integer64, h.float, h.double⟩

theorem EndTimeCurrent.withCode {impl : DataPacketImpl} (h : impl.EndTimeCurrent)
    (field : CodeField) (code : SeedCode) : (impl.withCode field code).EndTimeCurrent := by
  cases field <;> exact h

end DataPacketImpl

/-! ### The public class -/

/-- A packet that the public interface can hold. -/
structure DataPacket extends DataPacketImpl where
  tagged : toDataPacketImpl.Tagged
  endTimeCurrent : toDataPacketImpl.EndTimeCurrent
deriving DecidableEq

namespace DataPacket

open DataPacketImpl (CodeField)

/-- The value a mutator leaves once it has brought the end time up to date. -/
def refresh (impl : DataPacketImpl) (h : impl.Tagged) : DataPacket :=
  ⟨impl.updateEndTime, h.updateEndTime, impl.endTimeCurrent_updateEndTime⟩

def new : DataPacket := ⟨{}, by constructor <;> simp, rfl⟩

/-- `clear` resets every field, so it gives the packet the constructor gives. -/
def clear (_packet : DataPacket) : DataPacket := new

def putCode (packet : DataPacket) (field : CodeField) (code : SeedCode) : DataPacket :=
  ⟨packet.withCode field code, packet.tagged.withCode field code,
    packet.endTimeCurrent.withCode field code⟩

/-- The body the four code setters share. -/
def setCode (field : CodeField) (what : String) (packet : DataPacket) (s : String) :
    Except StdException DataPacket :=
  packet.putCode field <$> SeedCode.set what s

def setNetwork : DataPacket → String → Except StdException DataPacket :=
  setCode .network "Network is empty"

def setStation : DataPacket → String → Except StdException DataPacket :=
  setCode .station "Station is empty"

def setChannel : DataPacket → String → Except StdException DataPacket :=
  setCode .channel "Channel is empty"

def setLocationCode : DataPacket → String → Except StdException DataPacket :=
  setCode .locationCode "Location is empty"

def haveNetwork (packet : DataPacket) : Bool := packet.mNetwork.isSet

def haveStation (packet : DataPacket) : Bool := packet.mStation.isSet

def haveChannel (packet : DataPacket) : Bool := packet.mChannel.isSet

def haveLocationCode (packet : DataPacket) : Bool := packet.mLocationCode.isSet

def getNetwork (packet : DataPacket) : Except StdException String :=
  packet.mNetwork.get "Network not set yet"

def getStation (packet : DataPacket) : Except StdException String :=
  packet.mStation.get "Station not set yet"

def getChannel (packet : DataPacket) : Except StdException String :=
  packet.mChannel.get "Channel not set yet"

def getLocationCode (packet : DataPacket) : Except StdException String :=
  packet.mLocationCode.get "Location code not set yet"

def putSamplingRate (packet : DataPacket) (samplingRate : Double) : DataPacket :=
  refresh { packet.toDataPacketImpl with mSamplingRate := samplingRate }
    ⟨packet.tagged.integer32, packet.tagged.integer64, packet.tagged.float,
      packet.tagged.double⟩

/-- The rate check lets a NaN through: no comparison with a NaN is true. -/
def setSamplingRate (packet : DataPacket) (samplingRate : Double) :
    Except StdException DataPacket :=
  if samplingRate.nonPositive then
    .error (.invalidArgument
      ("samplingRate = " ++ samplingRate.toString ++ " must be positive"))
  else .ok (packet.putSamplingRate samplingRate)

def haveSamplingRate (packet : DataPacket) : Bool := packet.mSamplingRate.positive

def getSamplingRate (packet : DataPacket) : Except StdException Double :=
  if packet.haveSamplingRate then .ok packet.mSamplingRate
  else .error (.runtimeError "Sampling rate not set")

def getNumberOfSamples (packet : DataPacket) : Int32 := packet.size

def setStartTime (packet : DataPacket) (startTime : Int64) : DataPacket :=
  refresh { packet.toDataPacketImpl with mStartTimeMicroSeconds := startTime }
    ⟨packet.tagged.integer32, packet.tagged.integer64, packet.tagged.float,
      packet.tagged.double⟩

/-- Seconds to microseconds. -/
def iStartTimeMuS (startTime : Double) : Int64 :=
  (startTime.mul (.finite 1000000)).rounded.round.toInt64

def setStartTimeSeconds (packet : DataPacket) (startTime : Double) : DataPacket :=
  packet.setStartTime (iStartTimeMuS startTime)

def getStartTime (packet : DataPacket) : Int64 := packet.mStartTimeMicroSeconds

def getEndTime (packet : DataPacket) : Except StdException Int64 :=
  if packet.haveSamplingRate = false then .error (.runtimeError "Sampling rate note set")
  else if packet.getNumberOfSamples < 1 then .error (.runtimeError "No samples in signal")
  else .ok packet.mEndTimeMicroSeconds

def setData (packet : DataPacket) (samples : Samples) : DataPacket :=
  refresh (packet.toDataPacketImpl.setData samples) (packet.tagged.setData samples)

def getDataType (packet : DataPacket) : DataType := packet.mDataType

/-- `std::copy` of a series into a vector of `nSamples` zeros: what does not fit is
    written behind the vector. -/
def copied {U : Type} [Element U] (nSamples : Int32) (series : List U) :
    Except Failure (List U) :=
  if nSamples.toNatClampNeg < series.length then .error .undefinedBehaviour
  else .ok (series ++ List.replicate (nSamples.toNatClampNeg - series.length) Element.zero)

def getData (U : Type) [Element U] (packet : DataPacket) : Except Failure (List U) :=
  if packet.getNumberOfSamples < 1 then .ok []
  else match packet.getDataType with
    | .integer32 =>
        copied packet.getNumberOfSamples (packet.mInteger32Data.map Element.ofInteger32)
    | .float => copied packet.getNumberOfSamples (packet.mFloatData.map Element.ofFloat)
    | .double => copied packet.getNumberOfSamples (packet.mDoubleData.map Element.ofDouble)
    | .integer64 =>
        copied packet.getNumberOfSamples (packet.mInteger64Data.map Element.ofInteger64)
    | .unknown => .ok (List.replicate packet.getNumberOfSamples.toNatClampNeg Element.zero)

theorem getDataType_eq_unknown_iff (packet : DataPacket) :
    packet.getDataType = .unknown ↔ packet.sampleCount = 0 := by
  have h32 := packet.tagged.integer32
  have h64 := packet.tagged.integer64
  have hfloat := packet.tagged.float
  have hdouble := packet.tagged.double
  rw [getDataType, DataPacketImpl.sampleCount]
  cases htype : packet.mDataType <;> simp_all

theorem getDataType_ne_unknown {packet : DataPacket} (h : 1 ≤ packet.sampleCount) :
    packet.getDataType ≠ .unknown := by
  intro hunknown
  have hnone := packet.getDataType_eq_unknown_iff.mp hunknown
  omega

theorem one_le_getNumberOfSamples {packet : DataPacket} (h : 1 ≤ packet.sampleCount)
    (hfits : packet.sampleCount < 2 ^ 31) : 1 ≤ packet.getNumberOfSamples := by
  rw [getNumberOfSamples, DataPacketImpl.size_eq]
  exact one_le_ofNat h hfits

section Copied

variable {U : Type} [Element U] {series : List U} {n : Nat}

theorem copied_of_fits (hlength : series.length = n) (hfits : n < 2 ^ 31) :
    copied (Int32.ofNat n) series = .ok series := by
  rw [copied, Int32.toNatClampNeg_ofNat_of_lt hfits, hlength, if_neg (lt_irrefl _)]
  simp

/-- A series that has room in a vector of the length it says has a length that fits. -/
theorem copied_ok_iff (hlength : series.length = n) :
    (∃ data, copied (Int32.ofNat n) series = .ok data) ↔ n < 2 ^ 31 := by
  constructor
  · rintro ⟨data, hdata⟩
    unfold copied at hdata
    split_ifs at hdata with hlong
    apply lt_of_toNatClampNeg
    omega
  · intro hfits
    exact ⟨series, copied_of_fits hlength hfits⟩

end Copied

theorem getNumberOfSamples_eq (packet : DataPacket) :
    packet.getNumberOfSamples = Int32.ofNat packet.sampleCount := packet.size_eq

/-- The samples can be read unless their number has wrapped around to a positive one. -/
theorem getData_ok_iff (U : Type) [Element U] (packet : DataPacket) :
    (∃ data, packet.getData U = .ok data) ↔
      packet.getNumberOfSamples < 1 ∨ packet.sampleCount < 2 ^ 31 := by
  rw [getData]
  by_cases hnone : packet.getNumberOfSamples < 1
  · simp [hnone]
  · have hpos := DataPacketImpl.sampleCount_pos_of_size (Int32.not_lt.mp hnone)
    rw [if_neg hnone, or_iff_right hnone, getNumberOfSamples_eq]
    cases htype : packet.getDataType with
    | unknown => exact absurd htype (getDataType_ne_unknown hpos)
    | integer32 | integer64 | float | double =>
      simp only [getDataType] at htype
      apply copied_ok_iff
      simp [DataPacketImpl.sampleCount, htype]

theorem getData_double {packet : DataPacket} (h : packet.getDataType = .double)
    (hfits : packet.sampleCount < 2 ^ 31) : packet.getData Double = .ok packet.mDoubleData := by
  have hne : packet.mDoubleData ≠ [] := packet.tagged.double.mpr h
  have hlength : packet.mDoubleData.length = packet.sampleCount := by
    simp only [getDataType] at h
    simp [DataPacketImpl.sampleCount, h]
  have hpos : ¬ packet.getNumberOfSamples < 1 := by
    rw [Int32.not_lt]
    apply one_le_getNumberOfSamples _ hfits
    rw [← hlength]
    exact List.length_pos_iff.mpr hne
  have hid : packet.mDoubleData.map Element.ofDouble = packet.mDoubleData := List.map_id _
  rw [getData, if_neg hpos]
  simp only [h, hid, getNumberOfSamples_eq]
  exact copied_of_fits hlength hfits

/-- A double packet is determined by its codes, start time, rate and samples: the
    other arrays are empty and the end time follows. -/
theorem eq_of_double {p q : DataPacket} (hp : p.getDataType = .double)
    (hq : q.getDataType = .double) (hnetwork : p.mNetwork = q.mNetwork)
    (hstation : p.mStation = q.mStation) (hchannel : p.mChannel = q.mChannel)
    (hlocation : p.mLocationCode = q.mLocationCode)
    (hstart : p.mStartTimeMicroSeconds = q.mStartTimeMicroSeconds)
    (hrate : p.mSamplingRate = q.mSamplingRate) (hdata : p.mDoubleData = q.mDoubleData) :
    p = q := by
  have hempty : ∀ r : DataPacket, r.getDataType = .double →
      r.mInteger32Data = [] ∧ r.mInteger64Data = [] ∧ r.mFloatData = [] := by
    intro r hr
    simp only [getDataType] at hr
    have h32 := r.tagged.integer32
    have h64 := r.tagged.integer64
    have hfloat := r.tagged.float
    simp [hr] at h32 h64 hfloat
    exact ⟨h32, h64, hfloat⟩
  have hend : p.mEndTimeMicroSeconds = q.mEndTimeMicroSeconds := by
    rw [p.endTimeCurrent, q.endTimeCurrent]
    simp only [getDataType] at hp hq
    simp only [DataPacketImpl.computedEndTime, DataPacketImpl.size, hp, hq, hdata, hrate, hstart]
  obtain ⟨hp32, hp64, hpf⟩ := hempty p hp
  obtain ⟨hq32, hq64, hqf⟩ := hempty q hq
  rcases p with ⟨p, ptagged, pcurrent⟩
  rcases q with ⟨q, qtagged, qcurrent⟩
  rcases p
  rcases q
  simp only [getDataType] at *
  simp_all

/-- A packet at the start of the epoch from UU.FORK.HHZ.01, at 100 Hz. -/
def forkPacket (samples : Samples) : DataPacket :=
  ((((new.putCode .network ⟨"UU", Or.inr (by decide)⟩).putCode .station
    ⟨"FORK", Or.inr (by decide)⟩).putCode .channel ⟨"HHZ", Or.inr (by decide)⟩).putCode
    .locationCode ⟨"01", Or.inr (by decide)⟩).putSamplingRate (.finite 100) |>.setData samples

end DataPacket

end Us8
