/-
  Us8/DuplicateTesterRecord.lean
  ==============================
  **What the duplicate tester lets through and what it records: where the two come
  apart.**

  Two things should go together in a tester: a packet passes, and its header is
  recorded.  They do not always.

    * A packet passes unrecorded when the check throws: the answer of
      `TestDuplicateDataPacket::allow` starts as true and the handler leaves it.  For
      a channel without a buffer the check throws when the capacity overflows
      (`Buildable`), and else when the search of the buffer does, which depends on
      what the buffer holds.  Every buffer holds headers of one channel and one
      sampling rate (`Uniform`, an invariant of every run whatever is submitted), so
      the search throws exactly when the new header is not comparable with a retained
      one.
    * A packet is recorded without passing when it is older than everything retained
      and the buffer has room (`FrontRoom`): the header is pushed to the front and the
      answer is still false.
-/
import Us8.DuplicateTester

namespace Us8

open CircularBuffer (Occupied)
open DataPacketHeader (forkHeader)
open TestDuplicateDataPacketImpl

/-! ### When a call throws -/

section Call

variable {impl : TestDuplicateDataPacketImpl} {header : DataPacketHeader}
  {buffer : Occupied DataPacketHeader}

theorem allow_ok_iff (hsome : impl.mCircularBuffers header.name = some buffer) :
    (∃ answer, (impl.allow header).2 = .ok answer) ↔
      ∃ found, header.find buffer.items = .ok found := by
  simp only [allow, hsome]
  cases header.find buffer.items with
  | error e => simp
  | ok found =>
    simp only [Except.ok.injEq, exists_eq', iff_true]
    cases found with
    | true => exact ⟨false, rfl⟩
    | false =>
      dsimp only
      split_ifs
      all_goals exact ⟨_, rfl⟩

theorem allow_of_error {e : StdException} (h : (impl.allow header).2 = .error e) :
    (impl.allow header).1 = impl := by
  have hcase := impl.allow_case header
  rw [h] at hcase
  generalize (impl.allow header).1 = impl' at hcase ⊢
  cases hcase with
  | overflowed => rfl
  | threw => rfl

theorem allow_ok_iff_of_none (hnone : impl.mCircularBuffers header.name = none) :
    (∃ answer, (impl.allow header).2 = .ok answer) ↔ impl.Buildable header := by
  rw [← newBuffer_ok_iff]
  simp only [allow, hnone]
  cases impl.newBuffer header with
  | error e => simp
  | ok next => simp

theorem recorded_of_allowed (h : (impl.allow header).2 = .ok true) :
    ∃ buffer, (impl.allow header).1.mCircularBuffers header.name = some buffer ∧
      header ∈ buffer.items := by
  have hcase := impl.allow_case header
  rw [h] at hcase
  generalize (impl.allow header).1 = impl' at hcase ⊢
  cases hcase with
  | created hnone next hnew => exact ⟨next, by simp, by simp [items_newBuffer hnew]⟩
  | appended buffer => exact ⟨buffer.pushBack header, by simp, by simp⟩
  | backfilled buffer =>
    refine ⟨backfill buffer header, by simp, ?_⟩
    rw [backfill, (Occupied.perm_items_sort _ _).mem_iff]
    simp

end Call

/-! ### One channel and one rate a buffer -/

structure Uniform (impl : TestDuplicateDataPacketImpl) : Prop where
  name_eq : ∀ name buffer, impl.mCircularBuffers name = some buffer →
    ∀ g ∈ buffer.items, g.name = name
  rate_eq : ∀ name buffer, impl.mCircularBuffers name = some buffer →
    ∀ g ∈ buffer.items, ∀ g' ∈ buffer.items, g.samplingRate = g'.samplingRate

theorem uniform_fresh (settings : DuplicateSettings) : Uniform (fresh settings) := by
  constructor
  · intro name buffer hsome
    cases hsome
  · intro name buffer hsome
    cases hsome

theorem Uniform.find_ok_iff {impl : TestDuplicateDataPacketImpl} (h : Uniform impl)
    {header : DataPacketHeader} {buffer : Occupied DataPacketHeader}
    (hsome : impl.mCircularBuffers header.name = some buffer) :
    (∃ found, header.find buffer.items = .ok found) ↔
      ∀ g ∈ buffer.items, header.Comparable g :=
  DataPacketHeader.find_ok_iff (h.name_eq _ _ hsome) (h.rate_eq _ _ hsome)

/-- A call keeps the buffers uniform: a header of another rate makes the search throw
    and is not stored. -/
theorem uniform_allow {impl : TestDuplicateDataPacketImpl} (h : Uniform impl)
    (header : DataPacketHeader) : Uniform (impl.allow header).1 := by
  cases hanswer : (impl.allow header).2 with
  | error e => rwa [allow_of_error hanswer]
  | ok answer =>
    -- the search ended normally, so the header has the rate of everything retained
    have hrate : ∀ before, impl.mCircularBuffers header.name = some before →
        ∀ g ∈ before.items, g.samplingRate = header.samplingRate := by
      intro before hbefore g hg
      have hfound := (allow_ok_iff hbefore).mp ⟨answer, hanswer⟩
      exact ((h.find_ok_iff hbefore).mp hfound g hg).1
    constructor
    · intro name buffer hsome g hg
      rcases mem_items_allow hsome hg with ⟨rfl, rfl⟩ | ⟨before, hbefore, hmem⟩
      · rfl
      · exact h.name_eq name before hbefore g hmem
    · intro name buffer hsome g hg g' hg'
      rcases mem_items_allow hsome hg with ⟨rfl, rfl⟩ | ⟨before, hbefore, hmem⟩
      · rcases mem_items_allow hsome hg' with ⟨-, rfl⟩ | ⟨before, hbefore, hmem⟩
        · rfl
        · exact (hrate before hbefore g' hmem).symm
      · rcases mem_items_allow hsome hg' with ⟨rfl, rfl⟩ | ⟨before', hbefore', hmem'⟩
        · exact hrate before hbefore g hmem
        · obtain rfl := Option.some.inj (hbefore.symm.trans hbefore')
          exact h.rate_eq name before hbefore g hmem g' hmem'

theorem uniform_logBadData {impl : TestDuplicateDataPacketImpl} (h : Uniform impl)
    (now : Int64) : Uniform (impl.logBadData now) := by
  constructor
  · simpa using h.name_eq
  · simpa using h.rate_eq

theorem uniform_packet_allow {impl : TestDuplicateDataPacketImpl} (h : Uniform impl)
    (now : Int64) (packet : DataPacket) :
    Uniform (TestDuplicateDataPacket.allow impl now packet).1 := by
  unfold TestDuplicateDataPacket.allow
  cases DataPacketHeader.ofPacket packet with
  | error e => exact h
  | ok header => exact uniform_logBadData (uniform_allow h header) now

/-! ### Passing unrecorded -/

/-- What a tester that fails closed guarantees of one call: a packet that passes is
    recorded, and one that could not be checked does not pass. -/
structure FailsClosed (impl : TestDuplicateDataPacketImpl) (now : Int64) (packet : DataPacket) :
    Prop where
  recorded : (TestDuplicateDataPacket.allow impl now packet).2 = true →
    ∃ header buffer, DataPacketHeader.ofPacket packet = .ok header ∧
      (TestDuplicateDataPacket.allow impl now packet).1.mCircularBuffers header.name =
        some buffer ∧
      header ∈ buffer.items
  checked : ∀ header e, DataPacketHeader.ofPacket packet = .ok header →
    (impl.allow header).2 = .error e → (TestDuplicateDataPacket.allow impl now packet).2 = false

/-- The packet can be checked.  If its channel has no buffer yet, one can be made for it;
    otherwise it can be compared with everything retained: that has its rounded rate, and
    where this rate is in no tolerance class (1005 Hz and up) none of it has its number of
    samples. -/
def CanCheck (impl : TestDuplicateDataPacketImpl) (packet : DataPacket) : Prop :=
  ∀ header, DataPacketHeader.ofPacket packet = .ok header →
    (impl.mCircularBuffers header.name = none → impl.Buildable header) ∧
    ∀ buffer, impl.mCircularBuffers header.name = some buffer →
      ∀ g ∈ buffer.items, header.Comparable g

theorem Uniform.allow_ok_iff {impl : TestDuplicateDataPacketImpl} (h : Uniform impl)
    (header : DataPacketHeader) :
    (∃ answer, (impl.allow header).2 = .ok answer) ↔
      (impl.mCircularBuffers header.name = none → impl.Buildable header) ∧
      ∀ buffer, impl.mCircularBuffers header.name = some buffer →
        ∀ g ∈ buffer.items, header.Comparable g := by
  cases hbuffer : impl.mCircularBuffers header.name with
  | none =>
    rw [allow_ok_iff_of_none hbuffer]
    simp
  | some buffer =>
    rw [Us8.allow_ok_iff hbuffer, h.find_ok_iff hbuffer]
    simp

theorem failsClosed_of_canCheck {impl : TestDuplicateDataPacketImpl} (h : Uniform impl)
    {packet : DataPacket} (hcheck : CanCheck impl packet) (now : Int64) :
    FailsClosed impl now packet := by
  cases hheader : DataPacketHeader.ofPacket packet with
  | error e =>
    constructor
    · simp [TestDuplicateDataPacket.allow, hheader]
    · simp [hheader]
  | ok header =>
    obtain ⟨answer, hanswer⟩ := (h.allow_ok_iff header).mpr (hcheck header hheader)
    constructor
    · intro hpass
      simp only [TestDuplicateDataPacket.allow, hheader, hanswer] at hpass
      obtain ⟨buffer, hbuffer, hmem⟩ := recorded_of_allowed (hpass ▸ hanswer)
      exact ⟨header, buffer, hheader,
        by simpa [TestDuplicateDataPacket.allow, hheader] using hbuffer, hmem⟩
    · intro header' e hheader' herror
      rw [hheader, Except.ok.injEq] at hheader'
      rw [← hheader', hanswer] at herror
      cases herror

theorem canCheck_of_failsClosed {impl : TestDuplicateDataPacketImpl} (h : Uniform impl)
    {packet : DataPacket} {now : Int64} (hclosed : FailsClosed impl now packet) :
    CanCheck impl packet := by
  intro header hheader
  apply (h.allow_ok_iff header).mp
  cases hanswer : (impl.allow header).2 with
  | ok answer => exact ⟨answer, rfl⟩
  | error e =>
    have hpass := hclosed.checked header e hheader hanswer
    simp [TestDuplicateDataPacket.allow, hheader, hanswer] at hpass

/-- **When the duplicate tester fails closed.**  After every run of packets, whatever
    they are and whenever they come, the next packet is treated fail-closed if and only
    if a buffer can be made for its channel or it can be compared with everything the
    buffer there is retains. -/
theorem failsClosed_iff (settings : DuplicateSettings) (calls : List (Int64 × DataPacket))
    (now : Int64) (packet : DataPacket) :
    FailsClosed (packetTester.after (fresh settings) calls) now packet ↔
      CanCheck (packetTester.after (fresh settings) calls) packet := by
  have huniform : Uniform (packetTester.after (fresh settings) calls) :=
    packetTester.after_invariant (I := Uniform)
      (fun impl call h => uniform_packet_allow h call.1 call.2) (uniform_fresh settings) calls
  exact ⟨canCheck_of_failsClosed huniform,
    fun hcheck => failsClosed_of_canCheck huniform hcheck now⟩

def forkRateChange : DataPacket × DataPacket :=
  let first := DataPacket.forkPacket (.double [.finite 1])
  (first, (first.setStartTime 5000000).putSamplingRate (.finite 200))

/-- After the first packet, the second cannot be checked.  It passes, and its header
    is not in the buffer. -/
theorem fork_rate_change_passes_unrecorded :
    (TestDuplicateDataPacket.allow (packetTester.after (fresh {}) [(0, forkRateChange.1)]) 0
      forkRateChange.2).2 = true ∧
    ¬ FailsClosed (packetTester.after (fresh {}) [(0, forkRateChange.1)]) 0 forkRateChange.2 := by
  have hpass : (TestDuplicateDataPacket.allow (packetTester.after (fresh {})
      [(0, forkRateChange.1)]) 0 forkRateChange.2).2 = true := by decide +kernel
  have hheader : DataPacketHeader.ofPacket forkRateChange.2 =
      .ok ⟨"UU.FORK.HHZ.01", 5000000, 5000000, 200, 1⟩ := by decide +kernel
  have hitems : ((TestDuplicateDataPacket.allow (packetTester.after (fresh {})
      [(0, forkRateChange.1)]) 0 forkRateChange.2).1.mCircularBuffers "UU.FORK.HHZ.01").map
        (fun buffer => buffer.items) = some [⟨"UU.FORK.HHZ.01", 0, 0, 100, 1⟩] := by
    decide +kernel
  refine ⟨hpass, fun hclosed => ?_⟩
  obtain ⟨header, buffer, hheader', hbuffer, hmem⟩ := hclosed.recorded hpass
  rw [hheader, Except.ok.injEq] at hheader'
  subst hheader'
  rw [hbuffer, Option.map_some, Option.some.injEq] at hitems
  rw [hitems] at hmem
  revert hmem
  decide

/-! ### Recorded without passing -/

/-- The header is new and older than everything retained for its channel, and the
    channel's buffer has room. -/
def FrontRoom (impl : TestDuplicateDataPacketImpl) (header : DataPacketHeader) : Prop :=
  ∃ buffer, impl.mCircularBuffers header.name = some buffer ∧
    header.find buffer.items = .ok false ∧
    ¬ buffer.back.endTime < header.startTime ∧
    header.endTime < buffer.front.startTime ∧
    buffer.full = false

/-- A call whose header is not let through keeps every buffer as it was. -/
def LeavesNoTrace (impl : TestDuplicateDataPacketImpl) (header : DataPacketHeader) : Prop :=
  (impl.allow header).2 ≠ .ok true →
    (impl.allow header).1.mCircularBuffers = impl.mCircularBuffers

theorem allow_of_frontRoom {impl : TestDuplicateDataPacketImpl} {header : DataPacketHeader}
    (h : FrontRoom impl header) :
    (impl.allow header).2 = .ok false ∧
      (impl.allow header).1.mCircularBuffers ≠ impl.mCircularBuffers := by
  obtain ⟨buffer, hsome, hfind, hback, hfront, hroom⟩ := h
  have hallow : impl.allow header =
      (impl.store header.name (buffer.pushFront header), .ok false) := by
    simp [allow, hsome, hfind, hback, hfront, hroom]
  rw [hallow]
  refine ⟨rfl, fun hsame => ?_⟩
  have hbuffer := congrFun hsame header.name
  rw [mCircularBuffers_store, Function.update_self, hsome, Option.some.injEq] at hbuffer
  have hlength := congrArg (fun b => b.items.length) hbuffer
  simp [CircularBuffer.items_pushFront_of_not_full hroom] at hlength

theorem leavesNoTrace_iff_not_frontRoom (impl : TestDuplicateDataPacketImpl)
    (header : DataPacketHeader) : LeavesNoTrace impl header ↔ ¬ FrontRoom impl header := by
  constructor
  · intro hclean hroom
    obtain ⟨hanswer, hchanged⟩ := allow_of_frontRoom hroom
    exact hchanged (hclean (by simp [hanswer]))
  · intro hroom hrejected
    have hcase := impl.allow_case header
    generalize (impl.allow header).1 = impl' at hcase ⊢
    generalize (impl.allow header).2 = result at hcase hrejected
    cases hcase with
    | created => exact absurd rfl hrejected
    | overflowed => rfl
    | threw => rfl
    | duplicate => simp
    | appended => exact absurd rfl hrejected
    | expired => rfl
    | prepended buffer hsome hfind hback hfront hfree =>
      exact absurd ⟨buffer, hsome, hfind, hback, hfront, hfree⟩ hroom
    | slipped => simp
    | backfilled => exact absurd rfl hrejected

def AllRecordedPassed (past : List (DataPacketHeader × Except StdException Bool))
    (impl : TestDuplicateDataPacketImpl) : Prop :=
  ∀ name buffer, impl.mCircularBuffers name = some buffer →
    ∀ g ∈ buffer.items, (g, Except.ok true) ∈ past

theorem allRecordedPassed_allow {past : List (DataPacketHeader × Except StdException Bool)}
    {impl : TestDuplicateDataPacketImpl} (h : AllRecordedPassed past impl)
    {header : DataPacketHeader} (hroom : ¬ FrontRoom impl header) :
    AllRecordedPassed (past ++ [(header, (impl.allow header).2)]) (impl.allow header).1 := by
  intro name buffer hsome g hg
  by_cases hpass : (impl.allow header).2 = .ok true
  · rcases mem_items_allow hsome hg with ⟨-, rfl⟩ | ⟨before, hbefore, hmem⟩
    · simp [hpass]
    · exact List.mem_append_left _ (h name before hbefore g hmem)
  · rw [(leavesNoTrace_iff_not_frontRoom impl header).mpr hroom hpass] at hsome
    exact List.mem_append_left _ (h name buffer hsome g hg)

/-- **When a rejected packet leaves no trace.**  After every run, a call that does not
    let its header through keeps the buffers as they were if and only if the header is
    not older than a buffer with room.  And in a run where that never happens,
    everything retained has been let through. -/
theorem leavesNoTrace_iff (settings : DuplicateSettings) (headers : List DataPacketHeader) :
    (∀ header, LeavesNoTrace (headerTester.after (fresh settings) headers) header ↔
      ¬ FrontRoom (headerTester.after (fresh settings) headers) header) ∧
    (headerTester.Always (fun impl header => ¬ FrontRoom impl header) (fresh settings) headers →
      AllRecordedPassed (headerTester.history (fresh settings) headers)
        (headerTester.after (fresh settings) headers)) := by
  refine ⟨fun header => leavesNoTrace_iff_not_frontRoom _ header, fun hnever => ?_⟩
  exact headerTester.history_invariant (P := AllRecordedPassed)
    (fun _ _ _ hroom h => allRecordedPassed_allow h hroom)
    (fun _ _ hsome => by cases hsome) hnever

/-- A packet older than the only one retained: it is turned away but recorded, and
    its retransmission is turned away as a duplicate. -/
theorem fork_late_header_leaves_trace :
    let impl := headerTester.after (fresh {}) [forkHeader 20000 30000 2]
    let late := forkHeader 0 10000 2
    (impl.allow late).2 = .ok false ∧ ¬ LeavesNoTrace impl late ∧
    ((impl.allow late).1.allow late).1.mDuplicateChannels = {"UU.FORK.HHZ.01"} := by
  intro impl late
  have hanswer : (impl.allow late).2 = .ok false := by decide +kernel
  have hitems : ((impl.allow late).1.mCircularBuffers "UU.FORK.HHZ.01").map
      (fun buffer => buffer.items) ≠
      (impl.mCircularBuffers "UU.FORK.HHZ.01").map fun buffer => buffer.items := by
    decide +kernel
  refine ⟨hanswer, fun hclean => hitems ?_, by decide +kernel⟩
  rw [hclean (by simp [hanswer])]

end Us8
