/-
  Us8/DuplicateTester.lean
  ========================
  **The duplicate tester**
  (`broadcasts/dataPacket/sanitizer/testDuplicateDataPacket.cpp`).

  For each channel the tester keeps the headers of the last packets in a circular
  buffer, created with the channel's first packet.  `allow` on a header (the
  `TestDuplicateDataPacketImpl` one) answers whether the packet may pass and
  records it; it has nine exits, and `AllowCase` lists them with what each one
  requires of the state before and does to it.  Everything later modules prove
  about a call starts from `allow_case`.

  `allow` on a packet (the `TestDuplicateDataPacket` one) wraps it: it builds the
  header, asks, and logs.  The checks that only a debug build makes are left out,
  and so is the second lookup of the buffer that has just been found; there is memory
  for every buffer whose capacity is positive.
-/
import Us8.CircularBuffer
import Us8.Machine
import Us8.TimeTesters
import Mathlib.Logic.Function.Basic

namespace Us8

open CircularBuffer (Occupied)

/-- The variable `duration` of `estimateCapacity`.  A packet shorter than half a second has
    the duration 0.  The quotient is rounded to whole seconds, and for an `int` number of
    samples its own rounding makes no difference to that. -/
def packetDuration (header : DataPacketHeader) : Double :=
  Double.max (.finite 0)
    ((Double.finite ((header.nSamples : ℚ) - 1)).div
      (.finite (max 1 header.samplingRate.toInt : Int))).round

/-- What `estimateCapacity` converts to an `int`; infinite for the duration 0. -/
def capacityQuotient (header : DataPacketHeader) (memory : Int64) : Double :=
  (((Double.finite (3 / 2)).mul (Double.ofInt memory.toInt)).rounded.div
    (packetDuration header)).rounded

/-- The capacity for a channel whose first packet has this header, so that the
    buffer spans about `memory` seconds. -/
def estimateCapacity (header : DataPacketHeader) (memory : Int64) : Int32 :=
  max 10 (capacityQuotient header memory).toInt32 + 1

/-- The capacity can be computed: adding one does not overflow. -/
def CapacityFits (header : DataPacketHeader) (memory : Int64) : Prop :=
  (capacityQuotient header memory).toInt32 ≠ Int32.maxValue

instance (header : DataPacketHeader) (memory : Int64) : Decidable (CapacityFits header memory) :=
  inferInstanceAs (Decidable (_ ≠ _))

theorem toInt_estimateCapacity {header : DataPacketHeader} {memory : Int64}
    (h : CapacityFits header memory) : (estimateCapacity header memory).toInt =
      max 10 (capacityQuotient header memory).toInt32.toInt + 1 := by
  have hten : (10 : Int32).toInt = 10 := rfl
  have hlow := (capacityQuotient header memory).toInt32.le_toInt
  have hhigh := (capacityQuotient header memory).toInt32.toInt_lt
  have hne : (capacityQuotient header memory).toInt32.toInt ≠ 2 ^ 31 - 1 := by
    intro heq
    exact h (Int32.toInt_inj.mp heq)
  unfold estimateCapacity
  rw [Int32.toInt_add, Int32.toInt_one]
  generalize (capacityQuotient header memory).toInt32 = quotient at hlow hhigh hne
  by_cases hle : (10 : Int32) ≤ quotient
  · rw [show max 10 quotient = quotient from if_pos hle]
    rw [Int32.le_iff_toInt_le, hten] at hle
    rw [max_eq_right hle]
    exact Int.bmod_eq_of_le (by omega) (by omega)
  · rw [show max 10 quotient = 10 from if_neg hle, hten]
    rw [Int32.le_iff_toInt_le, hten] at hle
    rw [max_eq_left (by omega)]
    rfl

/-- An overflow shows in the sign. -/
theorem capacityFits_iff {header : DataPacketHeader} {memory : Int64} :
    CapacityFits header memory ↔ 0 < (estimateCapacity header memory).toInt := by
  constructor
  · intro h
    rw [toInt_estimateCapacity h]
    omega
  · intro hpos hmax
    rw [estimateCapacity, hmax] at hpos
    revert hpos
    decide

theorem defaultSize_pos : 0 < 100 := by decide

/-- What the constructors fix for the life of a tester. -/
structure DuplicateSettings where
  mLogBadDataInterval : Int64 := 3600
  mCircularBufferDuration : Int64 := 300
  mCircularBufferSize : Nat := 100
  mLogBadData : Bool := true
  mEstimateCapacity : Bool := false
  size_pos : 0 < mCircularBufferSize := by decide

/-- `TestDuplicateDataPacketImpl`; `logged` is what it has written to the log. -/
structure TestDuplicateDataPacketImpl extends DuplicateSettings where
  mCircularBuffers : String → Option (Occupied DataPacketHeader) := fun _ => none
  mDuplicateChannels : Finset String := ∅
  mBadTimingChannels : Finset String := ∅
  mLastLogTime : Int64 := 0
  logged : List LogMessage := []

namespace TestDuplicateDataPacketImpl

def fresh (settings : DuplicateSettings) : TestDuplicateDataPacketImpl :=
  { toDuplicateSettings := settings }

/-- The constructor that takes the number of packets to retain. -/
def ofSize (circularBufferSize : Int32) (logBadDataInterval : Int64) :
    Except StdException TestDuplicateDataPacketImpl :=
  if h : circularBufferSize.toInt < 1 then
    .error (.invalidArgument "Circular buffer size must be positive")
  else
    .ok (fresh
      { mCircularBufferSize := circularBufferSize.toInt.toNat
        mLogBadDataInterval := logBadDataInterval
        mEstimateCapacity := false
        mLogBadData := decide (logBadDataInterval ≥ 0)
        size_pos := by omega })

/-- The constructor that takes the time to remember, in seconds. -/
def ofDuration (circularBufferDuration logBadDataInterval : Int64) :
    Except StdException TestDuplicateDataPacketImpl :=
  if circularBufferDuration < 1 then
    .error (.invalidArgument "Circular buffer duration must be positive")
  else
    .ok (fresh
      { mCircularBufferDuration := circularBufferDuration
        mLogBadDataInterval := logBadDataInterval
        mEstimateCapacity := true
        mLogBadData := decide (logBadDataInterval ≥ 0) })

theorem ofDuration_ok {circularBufferDuration : Int64} (h : 0 < circularBufferDuration)
    (logBadDataInterval : Int64) :
    ∃ impl, ofDuration circularBufferDuration logBadDataInterval = .ok impl := by
  refine ⟨_, if_neg ?_⟩
  rw [Int64.lt_iff_toInt_lt, Int64.toInt_zero] at h
  rw [Int64.lt_iff_toInt_lt, Int64.toInt_one]
  omega

/-- The buffer of a new channel.  The capacity that has overflowed is negative, and as a
    size it is beyond what a buffer can have. -/
def newBuffer (impl : TestDuplicateDataPacketImpl) (header : DataPacketHeader) :
    Except StdException (Occupied DataPacketHeader) :=
  if impl.mEstimateCapacity then
    let capacity := estimateCapacity header impl.mCircularBufferDuration
    if hpos : 0 < capacity.toInt then
      .ok ((CircularBuffer.empty capacity.toInt.toNat (by omega)).pushBack header)
    else .error (.lengthError "circular_buffer")
  else
    .ok ((CircularBuffer.empty impl.mCircularBufferSize impl.size_pos).pushBack header)

def store (impl : TestDuplicateDataPacketImpl) (name : String)
    (buffer : Occupied DataPacketHeader) : TestDuplicateDataPacketImpl :=
  { impl with mCircularBuffers := Function.update impl.mCircularBuffers name (some buffer) }

def flagDuplicate (impl : TestDuplicateDataPacketImpl) (name : String) :
    TestDuplicateDataPacketImpl :=
  if impl.mLogBadData then
    { impl with mDuplicateChannels := insert name impl.mDuplicateChannels }
  else impl

def flagBadTiming (impl : TestDuplicateDataPacketImpl) (name : String) :
    TestDuplicateDataPacketImpl :=
  if impl.mLogBadData then
    { impl with mBadTimingChannels := insert name impl.mBadTimingChannels }
  else impl

def backfill (buffer : Occupied DataPacketHeader) (header : DataPacketHeader) :
    Occupied DataPacketHeader :=
  (buffer.pushBack header).sort fun g h => g.startTime ≤ h.startTime

def allow (impl : TestDuplicateDataPacketImpl) (header : DataPacketHeader) :
    TestDuplicateDataPacketImpl × Except StdException Bool :=
  match impl.mCircularBuffers header.name with
  | none =>
      match impl.newBuffer header with
      | .error e => (impl, .error e)
      | .ok buffer => (impl.store header.name buffer, .ok true)
  | some buffer =>
      match header.find buffer.items with
      | .error e => (impl, .error e)
      | .ok true => (impl.flagDuplicate header.name, .ok false)
      | .ok false =>
          if header.startTime > buffer.back.endTime then
            (impl.store header.name (buffer.pushBack header), .ok true)
          else if header.endTime < buffer.front.startTime then
            -- a header older than everything retained is rejected even when recorded
            if buffer.full then (impl, .ok false)
            else (impl.store header.name (buffer.pushFront header), .ok false)
          else if buffer.items.any header.slips then
            (impl.flagBadTiming header.name, .ok false)
          else (impl.store header.name (backfill buffer header), .ok true)

def logBadData (impl : TestDuplicateDataPacketImpl) (now : Int64) :
    TestDuplicateDataPacketImpl :=
  if impl.mLogBadData = false then impl
  else
    let nowSeconds := now / 1000000
    if nowSeconds ≥ impl.mLastLogTime + impl.mLogBadDataInterval then
      let impl :=
        if impl.mDuplicateChannels = ∅ then impl
        else
          { impl with
            logged := impl.logged ++
              [⟨"Duplicate packets detected for:", impl.mDuplicateChannels⟩]
            mDuplicateChannels := ∅
            mLastLogTime := nowSeconds }
      if impl.mBadTimingChannels = ∅ then impl
      else
        { impl with
          logged := impl.logged ++ [⟨"Bad timing detected for:", impl.mBadTimingChannels⟩]
          mBadTimingChannels := ∅
          mLastLogTime := nowSeconds }
    else impl

/-! ### The buffers and settings under the small operations -/

@[simp] theorem mCircularBuffers_store (impl : TestDuplicateDataPacketImpl) (name : String)
    (buffer : Occupied DataPacketHeader) :
    (impl.store name buffer).mCircularBuffers =
      Function.update impl.mCircularBuffers name (some buffer) := rfl

@[simp] theorem mCircularBuffers_flagDuplicate (impl : TestDuplicateDataPacketImpl)
    (name : String) : (impl.flagDuplicate name).mCircularBuffers = impl.mCircularBuffers := by
  unfold flagDuplicate
  split_ifs <;> rfl

@[simp] theorem mCircularBuffers_flagBadTiming (impl : TestDuplicateDataPacketImpl)
    (name : String) : (impl.flagBadTiming name).mCircularBuffers = impl.mCircularBuffers := by
  unfold flagBadTiming
  split_ifs <;> rfl

@[simp] theorem mCircularBuffers_logBadData (impl : TestDuplicateDataPacketImpl) (now : Int64) :
    (impl.logBadData now).mCircularBuffers = impl.mCircularBuffers := by
  unfold logBadData
  dsimp only
  split_ifs <;> rfl

@[simp] theorem toDuplicateSettings_store (impl : TestDuplicateDataPacketImpl) (name : String)
    (buffer : Occupied DataPacketHeader) :
    (impl.store name buffer).toDuplicateSettings = impl.toDuplicateSettings := rfl

@[simp] theorem toDuplicateSettings_flagDuplicate (impl : TestDuplicateDataPacketImpl)
    (name : String) :
    (impl.flagDuplicate name).toDuplicateSettings = impl.toDuplicateSettings := by
  unfold flagDuplicate
  split_ifs <;> rfl

@[simp] theorem toDuplicateSettings_flagBadTiming (impl : TestDuplicateDataPacketImpl)
    (name : String) :
    (impl.flagBadTiming name).toDuplicateSettings = impl.toDuplicateSettings := by
  unfold flagBadTiming
  split_ifs <;> rfl

@[simp] theorem toDuplicateSettings_logBadData (impl : TestDuplicateDataPacketImpl)
    (now : Int64) : (impl.logBadData now).toDuplicateSettings = impl.toDuplicateSettings := by
  unfold logBadData
  dsimp only
  split_ifs <;> rfl

/-- A tester of fixed size, and one whose estimate does not overflow, can make a buffer for
    the header. -/
def Buildable (impl : TestDuplicateDataPacketImpl) (header : DataPacketHeader) : Prop :=
  impl.mEstimateCapacity = true → CapacityFits header impl.mCircularBufferDuration

instance (impl : TestDuplicateDataPacketImpl) (header : DataPacketHeader) :
    Decidable (impl.Buildable header) := inferInstanceAs (Decidable (_ → _))

theorem newBuffer_ok_iff (impl : TestDuplicateDataPacketImpl) (header : DataPacketHeader) :
    (∃ buffer, impl.newBuffer header = .ok buffer) ↔ impl.Buildable header := by
  unfold newBuffer Buildable
  rw [capacityFits_iff]
  dsimp only
  split_ifs with hestimate hpos
  · simp [hestimate, hpos]
  · simp [hestimate, hpos]
  · simp [hestimate]

theorem items_newBuffer {impl : TestDuplicateDataPacketImpl} {header : DataPacketHeader}
    {buffer : Occupied DataPacketHeader} (h : impl.newBuffer header = .ok buffer) :
    buffer.items = [header] := by
  unfold newBuffer at h
  dsimp only at h
  split_ifs at h
  · rw [← Except.ok.inj h]
    simp
  · rw [← Except.ok.inj h]
    simp

/-! ### The exits of `allow` -/

/-- The nine ways a call of `allow` can end: what holds of the buffers before, the
    state after, and the answer. -/
inductive AllowCase (impl : TestDuplicateDataPacketImpl) (header : DataPacketHeader) :
    TestDuplicateDataPacketImpl → Except StdException Bool → Prop where
  | created (hnone : impl.mCircularBuffers header.name = none)
      (next : Occupied DataPacketHeader) (hnew : impl.newBuffer header = .ok next) :
      AllowCase impl header (impl.store header.name next) (.ok true)
  | overflowed (hnone : impl.mCircularBuffers header.name = none) (e : StdException)
      (hnew : impl.newBuffer header = .error e) : AllowCase impl header impl (.error e)
  | threw (buffer : Occupied DataPacketHeader)
      (hsome : impl.mCircularBuffers header.name = some buffer) (e : StdException)
      (hfind : header.find buffer.items = .error e) : AllowCase impl header impl (.error e)
  | duplicate (buffer : Occupied DataPacketHeader)
      (hsome : impl.mCircularBuffers header.name = some buffer)
      (hfind : header.find buffer.items = .ok true) :
      AllowCase impl header (impl.flagDuplicate header.name) (.ok false)
  | appended (buffer : Occupied DataPacketHeader)
      (hsome : impl.mCircularBuffers header.name = some buffer)
      (hfind : header.find buffer.items = .ok false)
      (hback : buffer.back.endTime < header.startTime) :
      AllowCase impl header (impl.store header.name (buffer.pushBack header)) (.ok true)
  | expired (buffer : Occupied DataPacketHeader)
      (hsome : impl.mCircularBuffers header.name = some buffer)
      (hfind : header.find buffer.items = .ok false)
      (hback : ¬ buffer.back.endTime < header.startTime)
      (hfront : header.endTime < buffer.front.startTime) (hfull : buffer.full = true) :
      AllowCase impl header impl (.ok false)
  | prepended (buffer : Occupied DataPacketHeader)
      (hsome : impl.mCircularBuffers header.name = some buffer)
      (hfind : header.find buffer.items = .ok false)
      (hback : ¬ buffer.back.endTime < header.startTime)
      (hfront : header.endTime < buffer.front.startTime) (hroom : buffer.full = false) :
      AllowCase impl header (impl.store header.name (buffer.pushFront header)) (.ok false)
  | slipped (buffer : Occupied DataPacketHeader)
      (hsome : impl.mCircularBuffers header.name = some buffer)
      (hfind : header.find buffer.items = .ok false)
      (hback : ¬ buffer.back.endTime < header.startTime)
      (hfront : ¬ header.endTime < buffer.front.startTime)
      (hslips : ∃ g ∈ buffer.items, header.slips g = true) :
      AllowCase impl header (impl.flagBadTiming header.name) (.ok false)
  | backfilled (buffer : Occupied DataPacketHeader)
      (hsome : impl.mCircularBuffers header.name = some buffer)
      (hfind : header.find buffer.items = .ok false)
      (hback : ¬ buffer.back.endTime < header.startTime)
      (hfront : ¬ header.endTime < buffer.front.startTime)
      (hslips : ∀ g ∈ buffer.items, header.slips g = false) :
      AllowCase impl header (impl.store header.name (backfill buffer header)) (.ok true)

theorem allow_case (impl : TestDuplicateDataPacketImpl) (header : DataPacketHeader) :
    AllowCase impl header (impl.allow header).1 (impl.allow header).2 := by
  unfold allow
  cases hbuffer : impl.mCircularBuffers header.name with
  | none =>
    cases hnew : impl.newBuffer header with
    | error e => exact .overflowed hbuffer e hnew
    | ok next => exact .created hbuffer next hnew
  | some buffer =>
    cases hfind : header.find buffer.items with
    | error e => simpa [hfind] using AllowCase.threw buffer hbuffer e hfind
    | ok found =>
      cases found with
      | true => simpa [hfind] using AllowCase.duplicate buffer hbuffer hfind
      | false =>
        simp only [hfind]
        split_ifs with hback hfront hfull hslips
        · exact .appended buffer hbuffer hfind hback
        · exact .expired buffer hbuffer hfind hback hfront hfull
        · exact .prepended buffer hbuffer hfind hback hfront (by simpa using hfull)
        · exact .slipped buffer hbuffer hfind hback hfront (List.any_eq_true.mp hslips)
        · exact .backfilled buffer hbuffer hfind hback hfront (by simpa using hslips)

theorem allow_of_new {impl : TestDuplicateDataPacketImpl} {header : DataPacketHeader}
    {next : Occupied DataPacketHeader} (hnone : impl.mCircularBuffers header.name = none)
    (hnew : impl.newBuffer header = .ok next) :
    impl.allow header = (impl.store header.name next, .ok true) := by
  simp only [allow, hnone, hnew]

theorem allow_of_overflow {impl : TestDuplicateDataPacketImpl} {header : DataPacketHeader}
    {e : StdException} (hnone : impl.mCircularBuffers header.name = none)
    (hnew : impl.newBuffer header = .error e) : impl.allow header = (impl, .error e) := by
  simp only [allow, hnone, hnew]

theorem allow_of_match {impl : TestDuplicateDataPacketImpl} {header : DataPacketHeader}
    {buffer : Occupied DataPacketHeader} (hsome : impl.mCircularBuffers header.name = some buffer)
    (hfind : header.find buffer.items = .ok true) : (impl.allow header).2 = .ok false := by
  simp only [allow, hsome, hfind]

/-- A header that begins after everything retained, and matches none of it, is
    appended. -/
theorem allow_of_later {impl : TestDuplicateDataPacketImpl} {header : DataPacketHeader}
    {buffer : Occupied DataPacketHeader} (hsome : impl.mCircularBuffers header.name = some buffer)
    (hfind : header.find buffer.items = .ok false)
    (hback : buffer.back.endTime < header.startTime) :
    impl.allow header = (impl.store header.name (buffer.pushBack header), .ok true) := by
  have hgt : header.startTime > buffer.back.endTime := hback
  simp only [allow, hsome, hfind, if_pos hgt]

/-- What holds of every buffer and of the one that is stored holds of every buffer
    afterwards. -/
theorem forall_store {P : String → Occupied DataPacketHeader → Prop}
    {impl : TestDuplicateDataPacketImpl}
    (h : ∀ name buffer, impl.mCircularBuffers name = some buffer → P name buffer)
    {name : String} {next : Occupied DataPacketHeader} (hnext : P name next) :
    ∀ other buffer, (impl.store name next).mCircularBuffers other = some buffer →
      P other buffer := by
  intro other buffer hsome
  rw [mCircularBuffers_store] at hsome
  by_cases hname : other = name
  · subst hname
    rw [Function.update_self, Option.some.injEq] at hsome
    exact hsome ▸ hnext
  · rw [Function.update_of_ne hname] at hsome
    exact h other buffer hsome

theorem mem_items_store {impl : TestDuplicateDataPacketImpl} {name other : String}
    {next buffer : Occupied DataPacketHeader} {g : DataPacketHeader}
    (hsome : (impl.store name next).mCircularBuffers other = some buffer)
    (hg : g ∈ buffer.items) :
    (other = name ∧ g ∈ next.items) ∨
      ∃ before, impl.mCircularBuffers other = some before ∧ g ∈ before.items := by
  rw [mCircularBuffers_store] at hsome
  by_cases hname : other = name
  · subst hname
    rw [Function.update_self, Option.some.injEq] at hsome
    exact Or.inl ⟨rfl, hsome ▸ hg⟩
  · rw [Function.update_of_ne hname] at hsome
    exact Or.inr ⟨buffer, hsome, hg⟩

/-- A call adds no header but its own, and only to its own channel. -/
theorem mem_items_allow {impl : TestDuplicateDataPacketImpl} {header g : DataPacketHeader}
    {name : String} {buffer : Occupied DataPacketHeader}
    (hsome : (impl.allow header).1.mCircularBuffers name = some buffer)
    (hg : g ∈ buffer.items) :
    (name = header.name ∧ g = header) ∨
      ∃ before, impl.mCircularBuffers name = some before ∧ g ∈ before.items := by
  have hcase := impl.allow_case header
  generalize (impl.allow header).1 = impl' at hcase hsome
  generalize (impl.allow header).2 = result at hcase
  have hstore : ∀ old next : Occupied DataPacketHeader,
      impl.mCircularBuffers header.name = some old →
      (∀ g' ∈ next.items, g' ∈ old.items ∨ g' = header) →
      (impl.store header.name next).mCircularBuffers name = some buffer →
      (name = header.name ∧ g = header) ∨
        ∃ before, impl.mCircularBuffers name = some before ∧ g ∈ before.items := by
    intro old next hold hnext hsome
    rcases mem_items_store hsome hg with ⟨rfl, hmem⟩ | hbefore
    · rcases hnext g hmem with hmem | heq
      · exact Or.inr ⟨old, hold, hmem⟩
      · exact Or.inl ⟨rfl, heq⟩
    · exact Or.inr hbefore
  cases hcase with
  | created hnone next hnew =>
    rcases mem_items_store hsome hg with ⟨rfl, hmem⟩ | hbefore
    · rw [items_newBuffer hnew, List.mem_singleton] at hmem
      exact Or.inl ⟨rfl, hmem⟩
    · exact Or.inr hbefore
  | overflowed => exact Or.inr ⟨buffer, hsome, hg⟩
  | threw old hold e hfind => exact Or.inr ⟨buffer, hsome, hg⟩
  | duplicate old hold hfind => exact Or.inr ⟨buffer, by simpa using hsome, hg⟩
  | appended old hold hfind hback =>
    refine hstore old _ hold ?_ hsome
    intro g' hg'
    exact CircularBuffer.mem_pushBack hg'
  | expired old hold hfind hback hfront hfull => exact Or.inr ⟨buffer, hsome, hg⟩
  | prepended old hold hfind hback hfront hroom =>
    refine hstore old _ hold ?_ hsome
    intro g' hg'
    rw [CircularBuffer.items_pushFront_of_not_full hroom, List.mem_cons] at hg'
    exact hg'.symm
  | slipped old hold hfind hback hfront hslips =>
    exact Or.inr ⟨buffer, by simpa using hsome, hg⟩
  | backfilled old hold hfind hback hfront hslips =>
    refine hstore old _ hold ?_ hsome
    intro g' hg'
    exact CircularBuffer.mem_pushBack ((Occupied.perm_items_sort _ _).mem_iff.mp hg')

/-- No call changes the settings. -/
@[simp] theorem toDuplicateSettings_allow (impl : TestDuplicateDataPacketImpl)
    (header : DataPacketHeader) :
    (impl.allow header).1.toDuplicateSettings = impl.toDuplicateSettings := by
  have hcase := impl.allow_case header
  generalize (impl.allow header).1 = impl' at hcase ⊢
  generalize (impl.allow header).2 = result at hcase
  cases hcase <;> simp

/-- A call leaves the buffers of the other channels alone. -/
theorem mCircularBuffers_allow_of_ne {impl : TestDuplicateDataPacketImpl}
    {header : DataPacketHeader} {name : String} (hname : name ≠ header.name) :
    (impl.allow header).1.mCircularBuffers name = impl.mCircularBuffers name := by
  have hcase := impl.allow_case header
  generalize (impl.allow header).1 = impl' at hcase ⊢
  generalize (impl.allow header).2 = result at hcase
  cases hcase with
  | threw => rfl
  | overflowed => rfl
  | expired => rfl
  | duplicate => simp
  | slipped => simp
  | created => simp [Function.update_of_ne hname]
  | appended => simp [Function.update_of_ne hname]
  | prepended => simp [Function.update_of_ne hname]
  | backfilled => simp [Function.update_of_ne hname]

end TestDuplicateDataPacketImpl

def headerTester :
    Machine TestDuplicateDataPacketImpl DataPacketHeader (Except StdException Bool) where
  step := TestDuplicateDataPacketImpl.allow

namespace TestDuplicateDataPacket

/-- `TestDuplicateDataPacket::allow` at the clock reading `now`: the answer starts as
    true and keeps that value when the check throws. -/
def allow (impl : TestDuplicateDataPacketImpl) (now : Int64) (packet : DataPacket) :
    TestDuplicateDataPacketImpl × Bool :=
  match DataPacketHeader.ofPacket packet with
  | .error _ => (impl, false)
  | .ok header =>
      let answer :=
        match (impl.allow header).2 with
        | .ok allow => allow
        | .error _ => true
      ((impl.allow header).1.logBadData now, answer)

/-- Once the header is built, only a plain no keeps the packet out. -/
theorem allow_of_header {packet : DataPacket} {header : DataPacketHeader}
    (hheader : DataPacketHeader.ofPacket packet = .ok header)
    (impl : TestDuplicateDataPacketImpl) (now : Int64) :
    (allow impl now packet).1 = (impl.allow header).1.logBadData now ∧
      ((allow impl now packet).2 = true ↔ (impl.allow header).2 ≠ .ok false) := by
  unfold allow
  rw [hheader]
  refine ⟨rfl, ?_⟩
  cases hanswer : (impl.allow header).2 with
  | error e => simp [hanswer]
  | ok answer => simp [hanswer]

end TestDuplicateDataPacket

def packetTester : Machine TestDuplicateDataPacketImpl (Int64 × DataPacket) Bool where
  step impl call := TestDuplicateDataPacket.allow impl call.1 call.2

end Us8
