/-
  Us8/DuplicateTesterBuffer.lean
  ==============================
  **The shape of the duplicate tester's buffers in every reachable state, and what a
  call can do to it.**

  Whatever headers are submitted, as long as each begins no later than it ends, every
  buffer holds headers of one channel and one rate, within its capacity and strictly
  sorted by start time (`KeptBuffer`).  This is weaker than the order of
  `DuplicateTesterOrder.lean`, whose headers do not overlap, and it needs no assumption
  on how the headers lie to each other: a header that engulfs a retained one is sorted
  in like any other.

  A call touches the buffer of its own channel only, and changes it in one of three
  ways (`BufferChange`): it creates the buffer, adds its header, or adds its header and
  drops the front of a full buffer, which is the header with the earliest start.

  Because the headers of a buffer have one rate, the search for a duplicate runs through
  every buffer that holds one without throwing.
-/
import Us8.DuplicateTesterRecord

namespace Us8

open CircularBuffer (Occupied)
open DataPacketHeader (forkHeader)
open TestDuplicateDataPacketImpl

/-! ### Buffers in order of their start times -/

/-- The headers of the buffer are proper and strictly sorted by start time. -/
structure SortedBuffer (buffer : Occupied DataPacketHeader) : Prop where
  proper : ∀ g ∈ buffer.items, g.startTime ≤ g.endTime
  sorted : buffer.items.Pairwise fun g h => g.startTime < h.startTime

namespace SortedBuffer

variable {buffer : Occupied DataPacketHeader} {header : DataPacketHeader}

theorem singleton {b : Occupied DataPacketHeader} (hitems : b.items = [header])
    (hproper : header.startTime ≤ header.endTime) : SortedBuffer b := by
  constructor
  · simpa [hitems] using hproper
  · simp [hitems]

/-- The front starts before every other header. -/
theorem front_lt (h : SortedBuffer buffer) :
    ∀ g ∈ buffer.items.tail, buffer.front.startTime < g.startTime := by
  have hsorted := h.sorted
  rw [buffer.items_eq_front_cons, List.pairwise_cons] at hsorted
  exact hsorted.1

/-- No header starts after the back, so what comes after the back's end starts after
    all of them. -/
theorem lt_of_back (h : SortedBuffer buffer) (hback : buffer.back.endTime < header.startTime) :
    ∀ g ∈ buffer.items, g.startTime < header.startTime := by
  have hlast : buffer.back.startTime ≤ buffer.back.endTime :=
    h.proper _ (List.getLast_mem buffer.items_ne_nil)
  intro g hg
  have hsplit := List.dropLast_concat_getLast buffer.items_ne_nil
  have hsorted := h.sorted
  rw [← hsplit, List.mem_append, List.mem_singleton] at hg
  rw [← hsplit] at hsorted
  rcases hg with hg | rfl
  · have hbefore := (List.pairwise_append.mp hsorted).2.2 g hg _ (List.mem_singleton_self _)
    exact Int64.lt_trans (Int64.lt_of_lt_of_le hbefore hlast) hback
  · exact Int64.lt_of_le_of_lt hlast hback

theorem pushBack (h : SortedBuffer buffer) (hproper : header.startTime ≤ header.endTime)
    (hback : buffer.back.endTime < header.startTime) :
    SortedBuffer (buffer.toCircularBuffer.pushBack header) := by
  constructor
  · intro g hg
    rcases CircularBuffer.mem_pushBack hg with hg | rfl
    · exact h.proper g hg
    · exact hproper
  · rw [CircularBuffer.items_pushBack, List.pairwise_append]
    refine ⟨h.sorted.sublist buffer.kept_sublist, List.pairwise_singleton _ _, ?_⟩
    intro g hg g' hg'
    rw [List.mem_singleton.mp hg']
    exact h.lt_of_back hback g (buffer.kept_sublist.subset hg)

theorem pushFront (h : SortedBuffer buffer) (hproper : header.startTime ≤ header.endTime)
    (hroom : buffer.full = false) (hfront : header.endTime < buffer.front.startTime) :
    SortedBuffer (buffer.toCircularBuffer.pushFront header) := by
  have hitems := CircularBuffer.items_pushFront_of_not_full hroom header
  have hstart : header.startTime < buffer.front.startTime := Int64.lt_of_le_of_lt hproper hfront
  constructor
  · intro g hg
    rcases List.mem_cons.mp (hitems ▸ hg) with rfl | hg
    · exact hproper
    · exact h.proper g hg
  · rw [hitems, List.pairwise_cons]
    refine ⟨?_, h.sorted⟩
    intro g hg
    rw [buffer.items_eq_front_cons] at hg
    rcases List.mem_cons.mp hg with rfl | hg
    · exact hstart
    · exact Int64.lt_trans hstart (h.front_lt g hg)

/-- A header that slips into no retained one starts with none of them: a header that
    starts with a proper one starts inside it. -/
theorem startTime_ne_of_not_slips (h : SortedBuffer buffer)
    (hslips : ∀ g ∈ buffer.items, header.slips g = false) :
    ∀ g ∈ buffer.items, g.startTime ≠ header.startTime := by
  intro g hg heq
  have hslip : header.slips g = true := by
    simp only [DataPacketHeader.slips, decide_eq_true_eq]
    exact Or.inl ⟨heq ▸ Int64.le_refl _, heq ▸ h.proper g hg⟩
  rw [hslips g hg] at hslip
  cases hslip

theorem backfill (h : SortedBuffer buffer) (hproper : header.startTime ≤ header.endTime)
    (hslips : ∀ g ∈ buffer.items, header.slips g = false) :
    SortedBuffer (TestDuplicateDataPacketImpl.backfill buffer header) := by
  have hperm : (TestDuplicateDataPacketImpl.backfill buffer header).items.Perm
      (buffer.kept ++ [header]) := Occupied.perm_items_sort _ _
  have hne := h.startTime_ne_of_not_slips hslips
  constructor
  · intro g hg
    rcases CircularBuffer.mem_pushBack (hperm.mem_iff.mp hg) with hg | rfl
    · exact h.proper g hg
    · exact hproper
  · -- sorting gives a weak order, and no two start times are equal
    have hweak : (TestDuplicateDataPacketImpl.backfill buffer header).items.Pairwise
        fun g g' => g.startTime ≤ g'.startTime := by
      have : Std.Total fun g g' : DataPacketHeader => g.startTime ≤ g'.startTime :=
        ⟨fun g g' => Int64.le_total _ _⟩
      have : IsTrans DataPacketHeader fun g g' => g.startTime ≤ g'.startTime :=
        ⟨fun _ _ _ => Int64.le_trans⟩
      exact List.pairwise_insertionSort _ _
    have hdistinct : (buffer.kept ++ [header]).Pairwise
        fun g g' => g.startTime ≠ g'.startTime := by
      rw [List.pairwise_append]
      refine ⟨?_, List.pairwise_singleton _ _, ?_⟩
      · exact (h.sorted.sublist buffer.kept_sublist).imp fun hlt => Int64.ne_of_lt hlt
      · intro g hg g' hg'
        rw [List.mem_singleton.mp hg']
        exact hne g (buffer.kept_sublist.subset hg)
    have hdistinct' := hperm.symm.pairwise hdistinct fun hgg' => Ne.symm hgg'
    exact (hweak.and hdistinct').imp fun hboth => Int64.lt_of_le_of_ne hboth.1 hboth.2

end SortedBuffer

/-! ### One call -/

def Sorted (impl : TestDuplicateDataPacketImpl) : Prop :=
  ∀ name buffer, impl.mCircularBuffers name = some buffer → SortedBuffer buffer

theorem sorted_fresh (settings : DuplicateSettings) : Sorted (fresh settings) := by
  intro name buffer hsome
  cases hsome

theorem sorted_allow {impl : TestDuplicateDataPacketImpl} (h : Sorted impl)
    {header : DataPacketHeader} (hproper : header.startTime ≤ header.endTime) :
    Sorted (impl.allow header).1 := by
  have hcase := impl.allow_case header
  generalize (impl.allow header).1 = impl' at hcase ⊢
  generalize (impl.allow header).2 = result at hcase
  cases hcase with
  | created hnone next hnew =>
    exact forall_store (P := fun _ => SortedBuffer) h (.singleton (items_newBuffer hnew) hproper)
  | overflowed => exact h
  | threw => exact h
  | duplicate =>
    intro name buffer hsome
    exact h name buffer (by simpa using hsome)
  | appended buffer hsome hfind hback =>
    exact forall_store (P := fun _ => SortedBuffer) h ((h _ _ hsome).pushBack hproper hback)
  | expired => exact h
  | prepended buffer hsome hfind hback hfront hroom =>
    exact forall_store (P := fun _ => SortedBuffer) h
      ((h _ _ hsome).pushFront hproper hroom hfront)
  | slipped =>
    intro name buffer hsome
    exact h name buffer (by simpa using hsome)
  | backfilled buffer hsome hfind hback hfront hslips =>
    exact forall_store (P := fun _ => SortedBuffer) h ((h _ _ hsome).backfill hproper hslips)

/-- What a call can do to the buffer of its channel. -/
inductive BufferChange (header : DataPacketHeader) :
    Option (Occupied DataPacketHeader) → Option (Occupied DataPacketHeader) → Prop where
  | unchanged (buffer : Option (Occupied DataPacketHeader)) : BufferChange header buffer buffer
  | created (next : Occupied DataPacketHeader) (hitems : next.items = [header]) :
      BufferChange header none (some next)
  | added (buffer next : Occupied DataPacketHeader) (hcapacity : next.capacity = buffer.capacity)
      (hroom : buffer.items.length < buffer.capacity)
      (hitems : next.items.Perm (header :: buffer.items)) :
      BufferChange header (some buffer) (some next)
  | replaced (buffer next : Occupied DataPacketHeader)
      (hcapacity : next.capacity = buffer.capacity)
      (hfull : buffer.items.length = buffer.capacity)
      (hearliest : ∀ g ∈ buffer.items.tail, buffer.front.startTime < g.startTime)
      (hitems : next.items.Perm (header :: buffer.items.tail)) :
      BufferChange header (some buffer) (some next)

/-- A push at the back, sorted or not, adds the header and makes room for it if there
    is none. -/
theorem BufferChange.of_push {buffer next : Occupied DataPacketHeader} {header : DataPacketHeader}
    (h : SortedBuffer buffer) (hcapacity : next.capacity = buffer.capacity)
    (hperm : next.items.Perm (buffer.kept ++ [header])) :
    BufferChange header (some buffer) (some next) := by
  have hfront : next.items.Perm (header :: buffer.kept) :=
    hperm.trans (List.perm_append_singleton header buffer.kept)
  cases hfull : buffer.full with
  | true =>
    have hlength : buffer.items.length = buffer.capacity := by
      simpa [CircularBuffer.full] using hfull
    rw [CircularBuffer.kept_of_full hfull] at hfront
    exact .replaced buffer next hcapacity hlength h.front_lt hfront
  | false =>
    have hlength : buffer.items.length ≠ buffer.capacity := by
      simpa [CircularBuffer.full] using hfull
    rw [CircularBuffer.kept_of_not_full hfull] at hfront
    exact .added buffer next hcapacity (lt_of_le_of_ne buffer.length_le hlength) hfront

theorem allow_bufferChange {impl : TestDuplicateDataPacketImpl} (h : Sorted impl)
    (header : DataPacketHeader) :
    BufferChange header (impl.mCircularBuffers header.name)
      ((impl.allow header).1.mCircularBuffers header.name) := by
  have hcase := impl.allow_case header
  generalize (impl.allow header).1 = impl' at hcase ⊢
  generalize (impl.allow header).2 = result at hcase
  cases hcase with
  | created hnone next hnew =>
    rw [hnone, mCircularBuffers_store, Function.update_self]
    exact .created _ (items_newBuffer hnew)
  | overflowed => exact .unchanged _
  | threw => exact .unchanged _
  | duplicate =>
    rw [mCircularBuffers_flagDuplicate]
    exact .unchanged _
  | appended buffer hsome =>
    rw [hsome, mCircularBuffers_store, Function.update_self]
    exact .of_push (h _ _ hsome) rfl (List.Perm.refl _)
  | expired => exact .unchanged _
  | prepended buffer hsome hfind hback hfront hroom =>
    have hlength : buffer.items.length ≠ buffer.capacity := by
      simpa [CircularBuffer.full] using hroom
    rw [hsome, mCircularBuffers_store, Function.update_self]
    refine .added buffer _ rfl (lt_of_le_of_ne buffer.length_le hlength) ?_
    rw [CircularBuffer.items_pushFront_of_not_full hroom]
  | slipped =>
    rw [mCircularBuffers_flagBadTiming]
    exact .unchanged _
  | backfilled buffer hsome =>
    rw [hsome, mCircularBuffers_store, Function.update_self]
    exact .of_push (h _ _ hsome) rfl (Occupied.perm_items_sort _ _)

/-! ### Every reachable state -/

theorem sorted_after (settings : DuplicateSettings) {headers : List DataPacketHeader}
    (hproper : ∀ h ∈ headers, h.startTime ≤ h.endTime) :
    Sorted (headerTester.after (fresh settings) headers) :=
  headerTester.after_invariant_of_always (I := Sorted)
    (fun _ _ h hheader => sorted_allow h hheader) (sorted_fresh settings)
    (headerTester.always_of_forall_mem hproper)

theorem uniform_after (settings : DuplicateSettings) (headers : List DataPacketHeader) :
    Uniform (headerTester.after (fresh settings) headers) :=
  headerTester.after_invariant (I := Uniform) (fun _ header h => uniform_allow h header)
    (uniform_fresh settings) headers

/-- The representation invariant of one channel's buffer. -/
structure KeptBuffer (name : String) (buffer : Occupied DataPacketHeader) : Prop where
  occupied : buffer.items ≠ []
  bounded : buffer.items.length ≤ buffer.capacity
  name_eq : ∀ g ∈ buffer.items, g.name = name
  rate_eq : ∀ g ∈ buffer.items, ∀ g' ∈ buffer.items, g.samplingRate = g'.samplingRate
  sorted : buffer.items.Pairwise fun g h => g.startTime < h.startTime

/-- **The buffers keep their shape.**  After every run of proper headers, whatever their
    channels, lengths and rates and whether or not some calls threw, every buffer meets
    its representation invariant; and any further call leaves the other channels alone
    and changes its own by adding its header, dropping the earliest one if and only if
    there was no room. -/
theorem buffers_kept (settings : DuplicateSettings) (headers : List DataPacketHeader)
    (hproper : ∀ h ∈ headers, h.startTime ≤ h.endTime) :
    (∀ name buffer,
      (headerTester.after (fresh settings) headers).mCircularBuffers name = some buffer →
        KeptBuffer name buffer) ∧
    ∀ header,
      (∀ name ≠ header.name,
        ((headerTester.after (fresh settings) headers).allow header).1.mCircularBuffers name =
          (headerTester.after (fresh settings) headers).mCircularBuffers name) ∧
      BufferChange header
        ((headerTester.after (fresh settings) headers).mCircularBuffers header.name)
        (((headerTester.after (fresh settings) headers).allow header).1.mCircularBuffers
          header.name) := by
  have hsorted := sorted_after settings hproper
  have huniform := uniform_after settings headers
  generalize headerTester.after (fresh settings) headers = impl at hsorted huniform ⊢
  constructor
  · intro name buffer hsome
    exact ⟨buffer.items_ne_nil, buffer.length_le, huniform.name_eq name buffer hsome,
      huniform.rate_eq name buffer hsome, (hsorted name buffer hsome).sorted⟩
  · intro header
    refine ⟨?_, allow_bufferChange hsorted header⟩
    intro name hname
    exact mCircularBuffers_allow_of_ne hname

/-- Two packets into a buffer of one, the second of which replaces the first, and one
    of another rate, on which the comparison throws. -/
theorem fork_buffers_kept :
    ((headerTester.after (fresh { mCircularBufferSize := 1 })
        [forkHeader 0 10000 2, forkHeader 20000 30000 2,
          { forkHeader 40000 45000 2 with samplingRate := 200 }]).mCircularBuffers
        "UU.FORK.HHZ.01").map (fun buffer => buffer.items) = some [forkHeader 20000 30000 2] ∧
    ∀ name buffer, (headerTester.after (fresh { mCircularBufferSize := 1 })
        [forkHeader 0 10000 2, forkHeader 20000 30000 2,
          { forkHeader 40000 45000 2 with samplingRate := 200 }]).mCircularBuffers name =
        some buffer → KeptBuffer name buffer :=
  ⟨by decide +kernel, (buffers_kept _ _ (by decide)).1⟩

/-! ### Duplicates of what is retained -/

/-- The two headers have one rate and one number of samples, and their start times are
    closer than the tolerance of the rate. -/
def NearDuplicate (g header : DataPacketHeader) : Prop :=
  g.nSamples = header.nSamples ∧ g.samplingRate = header.samplingRate ∧
    ∃ limit, DataPacketHeader.tolerance header.samplingRate = some limit ∧
      |g.startTime.toInt - header.startTime.toInt| < limit.toInt

theorem NearDuplicate.equals {g header : DataPacketHeader} (h : NearDuplicate g header)
    (hname : g.name = header.name) : g.equals header = .ok true := by
  obtain ⟨hn, hrate, limit, hlimit, hclose⟩ := h
  exact (DataPacketHeader.equals_eq_true_iff hname hrate hlimit).mpr ⟨hn, Or.inl hclose⟩

theorem Uniform.find_of_nearDuplicate {impl : TestDuplicateDataPacketImpl} (h : Uniform impl)
    {header g : DataPacketHeader} {buffer : Occupied DataPacketHeader}
    (hsome : impl.mCircularBuffers header.name = some buffer) (hg : g ∈ buffer.items)
    (hnear : NearDuplicate g header) : header.find buffer.items = .ok true := by
  have hname := h.name_eq _ _ hsome
  have hclass : header.samplingRate < 1005 := by
    obtain ⟨-, -, limit, hlimit, -⟩ := hnear
    by_contra hclass
    rw [(DataPacketHeader.tolerance_eq_none_iff _).mpr hclass] at hlimit
    cases hlimit
  -- everything retained has the rate of `g`, so no comparison before `g` throws
  have hok : ∀ g' ∈ buffer.items, ∃ result, g'.equals header = .ok result := by
    intro g' hg'
    have hrate := (h.rate_eq _ _ hsome g' hg' g hg).trans hnear.2.1
    exact DataPacketHeader.equals_of_comparable (hname g' hg') ⟨hrate, Or.inl hclass⟩
  exact (DataPacketHeader.find_eq_true_iff hok).mpr ⟨g, hg, hnear.equals (hname g hg)⟩

/-- **What is retained is not let through again.**  After every run, a header that nearly
    duplicates one that its channel retains is turned away without an exception and
    changes no buffer, wherever the other one stands. -/
theorem nearDuplicate_rejected (settings : DuplicateSettings) (headers : List DataPacketHeader)
    (header g : DataPacketHeader) (buffer : Occupied DataPacketHeader)
    (hsome : (headerTester.after (fresh settings) headers).mCircularBuffers header.name =
      some buffer)
    (hg : g ∈ buffer.items) (hnear : NearDuplicate g header) :
    ((headerTester.after (fresh settings) headers).allow header).2 = .ok false ∧
    ((headerTester.after (fresh settings) headers).allow header).1.mCircularBuffers =
      (headerTester.after (fresh settings) headers).mCircularBuffers := by
  have hfind := (uniform_after settings headers).find_of_nearDuplicate hsome hg hnear
  generalize headerTester.after (fresh settings) headers = impl at hsome ⊢
  simp [allow, hsome, hfind]

/-- A copy that starts 5 ms later than the older of two retained packets. -/
theorem fork_nearDuplicate_rejected :
    ∃ buffer, (headerTester.after (fresh {})
        [forkHeader 0 10000 2, forkHeader 20000 30000 2]).mCircularBuffers "UU.FORK.HHZ.01" =
          some buffer ∧
      forkHeader 0 10000 2 ∈ buffer.items ∧
      NearDuplicate (forkHeader 0 10000 2) (forkHeader 5000 15000 2) ∧
      ((headerTester.after (fresh {}) [forkHeader 0 10000 2, forkHeader 20000 30000 2]).allow
        (forkHeader 5000 15000 2)).2 = .ok false := by
  have hitems : ((headerTester.after (fresh {})
      [forkHeader 0 10000 2, forkHeader 20000 30000 2]).mCircularBuffers "UU.FORK.HHZ.01").map
        (fun buffer => buffer.items) = some [forkHeader 0 10000 2, forkHeader 20000 30000 2] := by
    decide +kernel
  obtain ⟨buffer, hsome, hretained⟩ := Option.map_eq_some_iff.mp hitems
  have hg : forkHeader 0 10000 2 ∈ buffer.items := by simp [hretained]
  have hnear : NearDuplicate (forkHeader 0 10000 2) (forkHeader 5000 15000 2) :=
    ⟨rfl, rfl, 15000, by decide, by decide⟩
  exact ⟨buffer, hsome, hg, hnear, (nearDuplicate_rejected {} _ _ _ buffer hsome hg hnear).1⟩

end Us8
