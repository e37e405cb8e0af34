/-
  Us8/DuplicateTesterArrival.lean
  ===============================
  **The order in which packets arrive does not matter for what the duplicate tester
  remembers of them, as long as no difference of start times wraps around.**

  Take headers of one channel and one rate that are disjoint and not near-duplicates of
  each other, no more than the buffer holds.  Each arrival order drives a different mix
  of the four ways a header is stored.  All of them store the header (`holds_allow`):
  nothing is full, nothing slips, and the search finds nothing.  Since the buffer stays
  sorted, what it holds in the end is determined by what was submitted
  (`Holds.state_unique`).

  The one thing in the way is the search itself.  It compares 64-bit differences, and
  two start times at opposite ends of the range count as close.  Two headers that count
  as the same are never both retained (`Unmatched`), so with such a pair something is
  missing in the end, whatever the order.
-/
import Us8.DuplicateTesterBuffer
import Mathlib.Data.Int.ConditionallyCompleteOrder

namespace Us8

open CircularBuffer (Occupied)
open DataPacketHeader (forkHeader span)
open TestDuplicateDataPacketImpl

/-! ### Headers that can be told apart -/

/-- Headers of one channel and one rate, whose tolerance is `limit`, that are pairwise
    disjoint and no near-duplicates of each other. -/
structure Separate (name : String) (rate : Int32) (limit : Int64)
    (headers : List DataPacketHeader) : Prop where
  name_eq : ∀ h ∈ headers, h.name = name
  rate_eq : ∀ h ∈ headers, h.samplingRate = rate
  proper : ∀ h ∈ headers, h.startTime ≤ h.endTime
  disjoint : headers.Pairwise fun g h =>
    Disjoint (Set.Icc g.startTime.toInt g.endTime.toInt)
      (Set.Icc h.startTime.toInt h.endTime.toInt)
  separate : headers.Pairwise fun g h =>
    g.nSamples ≠ h.nSamples ∨ limit.toInt ≤ |g.startTime.toInt - h.startTime.toInt|

/-- The start times of two headers with as many samples are not so far apart that their
    64-bit difference wraps around to less than the tolerance. -/
def NoWrap (limit : Int64) (g h : DataPacketHeader) : Prop :=
  g.nSamples = h.nSamples →
    |g.startTime.toInt - h.startTime.toInt| ≠ 2 ^ 63 ∧
      |g.startTime.toInt - h.startTime.toInt| ≤ 2 ^ 64 - limit.toInt

instance (limit : Int64) : DecidableRel (NoWrap limit) :=
  fun _ _ => inferInstanceAs (Decidable (_ → _))

theorem NoWrap.symm {limit : Int64} {g h : DataPacketHeader} (hwrap : NoWrap limit g h) :
    NoWrap limit h g := by
  intro hn
  rw [abs_sub_comm]
  exact hwrap hn.symm

namespace Separate

variable {name : String} {rate : Int32} {limit : Int64} {headers : List DataPacketHeader}

theorem perm (h : Separate name rate limit headers) {order : List DataPacketHeader}
    (hperm : order.Perm headers) : Separate name rate limit order := by
  constructor
  · intro g hg
    exact h.name_eq g (hperm.mem_iff.mp hg)
  · intro g hg
    exact h.rate_eq g (hperm.mem_iff.mp hg)
  · intro g hg
    exact h.proper g (hperm.mem_iff.mp hg)
  · exact hperm.symm.pairwise h.disjoint fun hdisjoint => hdisjoint.symm
  · apply hperm.symm.pairwise h.separate
    intro g g' hseparate
    rw [abs_sub_comm]
    exact hseparate.imp_left Ne.symm

theorem sublist (h : Separate name rate limit headers) {some : List DataPacketHeader}
    (hsub : some.Sublist headers) : Separate name rate limit some := by
  constructor
  · intro g hg
    exact h.name_eq g (hsub.subset hg)
  · intro g hg
    exact h.rate_eq g (hsub.subset hg)
  · intro g hg
    exact h.proper g (hsub.subset hg)
  · exact h.disjoint.sublist hsub
  · exact h.separate.sublist hsub

/-- A header is not disjoint from itself. -/
theorem pairwise_ne (h : Separate name rate limit headers) : headers.Pairwise (· ≠ ·) := by
  apply h.disjoint.imp_of_mem
  intro g g' hg _ hdisjoint heq
  have hproper := h.proper g hg
  rw [← heq, Set.disjoint_left] at hdisjoint
  rw [Int64.le_iff_toInt_le] at hproper
  exact hdisjoint (Set.left_mem_Icc.mpr hproper) (Set.left_mem_Icc.mpr hproper)

/-- Two such headers match exactly when the difference of their start times wraps. -/
theorem equals_iff (h : Separate name rate limit headers)
    (hlimit : DataPacketHeader.tolerance rate = some limit) :
    headers.Pairwise fun g g' => g.equals g' ≠ .ok true ↔ NoWrap limit g g' := by
  apply h.separate.imp_of_mem
  intro g g' hg hg' hseparate
  have hname := (h.name_eq g hg).trans (h.name_eq g' hg').symm
  have hrate := (h.rate_eq g hg).trans (h.rate_eq g' hg').symm
  rw [ne_eq, DataPacketHeader.equals_eq_true_iff hname hrate ((h.rate_eq g' hg').symm ▸ hlimit)]
  unfold NoWrap
  constructor
  · intro hmatch hn
    constructor
    · intro hfar
      exact hmatch ⟨hn, Or.inr (Or.inl hfar)⟩
    · by_contra hfar
      exact hmatch ⟨hn, Or.inr (Or.inr (not_le.mp hfar))⟩
  · rintro hwrap ⟨hn, hclose | hfar | hfar⟩
    · rcases hseparate with hne | happart
      · exact hne hn
      · exact absurd hclose (not_lt.mpr happart)
    · exact (hwrap hn).1 hfar
    · exact absurd hfar (not_lt.mpr (hwrap hn).2)

theorem unmatched (h : Separate name rate limit headers)
    (hlimit : DataPacketHeader.tolerance rate = some limit)
    (hwrap : headers.Pairwise (NoWrap limit)) :
    headers.Pairwise fun g g' => g.equals g' = .ok false := by
  apply ((h.equals_iff hlimit).and hwrap).imp_of_mem
  rintro g g' hg hg' ⟨hiff, hno⟩
  have hname := (h.name_eq g hg).trans (h.name_eq g' hg').symm
  have hrate := (h.rate_eq g hg).trans (h.rate_eq g' hg').symm
  obtain ⟨result, hresult⟩ := DataPacketHeader.equals_ok_of_tolerance hname hrate
    ((h.rate_eq g' hg').symm ▸ hlimit)
  cases result with
  | false => exact hresult
  | true => exact absurd hresult (hiff.mpr hno)

end Separate

/-! ### What the buffer holds along a run -/

/-- The state is the one of a tester that has stored exactly `past`, in a buffer of
    fixed size. -/
inductive Holds (settings : DuplicateSettings) (name : String) :
    List DataPacketHeader → TestDuplicateDataPacketImpl → Prop where
  | nothing : Holds settings name [] (fresh settings)
  | something (past : List DataPacketHeader) (buffer : Occupied DataPacketHeader)
      (hcapacity : buffer.capacity = settings.mCircularBufferSize)
      (hperm : buffer.items.Perm past) (hsorted : SortedBuffer buffer) :
      Holds settings name past ((fresh settings).store name buffer)

theorem store_store (impl : TestDuplicateDataPacketImpl) (name : String)
    (buffer next : Occupied DataPacketHeader) :
    (impl.store name buffer).store name next = impl.store name next := by
  simp [store, Function.update_idem]

section Step

variable {settings : DuplicateSettings} {name : String} {rate : Int32} {limit : Int64}
  {past : List DataPacketHeader} {header : DataPacketHeader}

/-- A header that is disjoint from what a buffer with room holds, and matches none of
    it, is stored: at the back, at the front, or in between. -/
theorem allow_of_room {impl : TestDuplicateDataPacketImpl} {buffer : Occupied DataPacketHeader}
    (hsome : impl.mCircularBuffers header.name = some buffer)
    (hfind : header.find buffer.items = .ok false) (hroom : buffer.full = false)
    (hslips : ∀ g ∈ buffer.items, header.slips g = false) :
    ∃ next, (impl.allow header).1 = impl.store header.name next ∧
      next.capacity = buffer.capacity ∧ next.items.Perm (buffer.items ++ [header]) := by
  have hkept := CircularBuffer.kept_of_not_full hroom
  have hcase := impl.allow_case header
  generalize (impl.allow header).1 = impl' at hcase ⊢
  generalize (impl.allow header).2 = result at hcase
  cases hcase with
  | created hnone => rw [hnone] at hsome; cases hsome
  | overflowed hnone => rw [hnone] at hsome; cases hsome
  | threw own hown e hthrew =>
    obtain rfl := Option.some.inj (hown.symm.trans hsome)
    rw [hthrew] at hfind
    cases hfind
  | duplicate own hown hfound =>
    obtain rfl := Option.some.inj (hown.symm.trans hsome)
    rw [hfound] at hfind
    cases hfind
  | appended own hown =>
    obtain rfl := Option.some.inj (hown.symm.trans hsome)
    refine ⟨_, rfl, rfl, ?_⟩
    rw [CircularBuffer.items_pushBack, hkept]
  | expired own hown _ _ _ hfull =>
    obtain rfl := Option.some.inj (hown.symm.trans hsome)
    rw [hroom] at hfull
    cases hfull
  | prepended own hown =>
    obtain rfl := Option.some.inj (hown.symm.trans hsome)
    refine ⟨_, rfl, rfl, ?_⟩
    rw [CircularBuffer.items_pushFront_of_not_full hroom]
    exact (List.perm_append_singleton _ _).symm
  | slipped own hown _ _ _ hslipped =>
    obtain rfl := Option.some.inj (hown.symm.trans hsome)
    obtain ⟨g, hg, hslip⟩ := hslipped
    rw [hslips g hg] at hslip
    cases hslip
  | backfilled own hown =>
    obtain rfl := Option.some.inj (hown.symm.trans hsome)
    refine ⟨_, rfl, rfl, ?_⟩
    rw [← hkept]
    exact Occupied.perm_items_sort _ _

/-- A header that begins or ends inside another one is not disjoint from it. -/
theorem slips_eq_false {g : DataPacketHeader} (hproper : header.startTime ≤ header.endTime)
    (hdisjoint : Disjoint (Set.Icc g.startTime.toInt g.endTime.toInt)
      (Set.Icc header.startTime.toInt header.endTime.toInt)) : header.slips g = false := by
  rw [Int64.le_iff_toInt_le] at hproper
  rw [Set.disjoint_left] at hdisjoint
  by_contra hslips
  rw [Bool.not_eq_false, DataPacketHeader.slips_iff] at hslips
  rcases hslips with hstart | hend
  · exact hdisjoint hstart (Set.left_mem_Icc.mpr hproper)
  · exact hdisjoint hend (Set.right_mem_Icc.mpr hproper)

theorem holds_allow (hfixed : settings.mEstimateCapacity = false)
    {impl : TestDuplicateDataPacketImpl} (h : Holds settings name past impl)
    (hsize : past.length < settings.mCircularBufferSize)
    (hseparate : Separate name rate limit (past ++ [header]))
    (hunmatched : ∀ g ∈ past, g.equals header = .ok false) :
    Holds settings name (past ++ [header]) (impl.allow header).1 := by
  have hname : header.name = name := hseparate.name_eq header (by simp)
  have hproper := hseparate.proper header (by simp)
  subst hname
  cases h with
  | nothing =>
    have hnew : (fresh settings).newBuffer header =
        .ok ((CircularBuffer.empty settings.mCircularBufferSize settings.size_pos).pushBack
          header) := by
      simp [newBuffer, fresh, hfixed]
    have hitems := items_newBuffer hnew
    rw [allow_of_new rfl hnew]
    exact .something _ _ rfl (by simp) (.singleton hitems hproper)
  | something _ buffer hcapacity hperm hsorted =>
    have hmem : ∀ g ∈ buffer.items, g ∈ past := fun g hg => hperm.mem_iff.mp hg
    have hfind : header.find buffer.items = .ok false := by
      rw [DataPacketHeader.find_eq_false_iff]
      intro g hg
      exact hunmatched g (hmem g hg)
    have hroom : buffer.full = false := by
      simp only [CircularBuffer.full, decide_eq_false_iff_not]
      rw [hperm.length_eq, hcapacity]
      omega
    have hslips : ∀ g ∈ buffer.items, header.slips g = false := by
      intro g hg
      apply slips_eq_false hproper
      exact (List.pairwise_append.mp hseparate.disjoint).2.2 g (hmem g hg) header (by simp)
    have hstate : Sorted ((fresh settings).store header.name buffer) :=
      forall_store (P := fun _ => SortedBuffer) (sorted_fresh settings) hsorted
    have hnext := sorted_allow hstate hproper
    have hsome : ((fresh settings).store header.name buffer).mCircularBuffers header.name =
        some buffer := by simp
    obtain ⟨next, hallow, hkept, hitems⟩ := allow_of_room hsome hfind hroom hslips
    rw [hallow, store_store] at hnext ⊢
    refine .something _ next (hkept.trans hcapacity) ?_ (hnext header.name next (by simp))
    exact hitems.trans (hperm.append_right _)

/-- Submitting headers of which no two match, and for which there is room, stores them
    all. -/
theorem holds_after (hfixed : settings.mEstimateCapacity = false)
    {headers : List DataPacketHeader} (hsize : headers.length ≤ settings.mCircularBufferSize)
    (hseparate : Separate name rate limit headers)
    (hunmatched : headers.Pairwise fun g h => g.equals h = .ok false) :
    Holds settings name headers (headerTester.after (fresh settings) headers) := by
  apply headerTester.after_invariant_of_prefix (P := Holds settings name) _ .nothing
  intro past impl header hpre hholds
  have hsub := hpre.sublist
  have hlength := hsub.length_le
  rw [List.length_append, List.length_singleton] at hlength
  refine holds_allow hfixed hholds (by omega) (hseparate.sublist hsub) ?_
  intro g hg
  exact (List.pairwise_append.mp (hunmatched.sublist hsub)).2.2 g hg header (by simp)

end Step

/-! ### The state that is reached -/

/-- The headers that the channel has retained. -/
def retained (impl : TestDuplicateDataPacketImpl) (name : String) : List DataPacketHeader :=
  match impl.mCircularBuffers name with
  | none => []
  | some buffer => buffer.items

def sortByStart (headers : List DataPacketHeader) : List DataPacketHeader :=
  headers.insertionSort fun g h => g.startTime ≤ h.startTime

theorem SortedBuffer.items_eq {buffer : Occupied DataPacketHeader} (h : SortedBuffer buffer)
    {l : List DataPacketHeader} (hl : l.Pairwise fun g g' => g.startTime ≤ g'.startTime)
    (hperm : buffer.items.Perm l) : buffer.items = l := by
  have hne : buffer.items.Pairwise fun g g' => g.startTime ≠ g'.startTime :=
    h.sorted.imp fun hlt => Int64.ne_of_lt hlt
  refine List.Perm.eq_of_pairwise ?_ (h.sorted.imp fun hlt => Int64.le_of_lt hlt) hl hperm
  intro g g' hg hg' hle hge
  have : Std.Symm fun g g' : DataPacketHeader => g.startTime ≠ g'.startTime :=
    ⟨fun _ _ => Ne.symm⟩
  by_contra hgg'
  exact hne.forall hg (hperm.mem_iff.mpr hg') hgg' (Int64.le_antisymm hle hge)

theorem pairwise_sortByStart (headers : List DataPacketHeader) :
    (sortByStart headers).Pairwise fun g g' => g.startTime ≤ g'.startTime := by
  have : Std.Total fun g g' : DataPacketHeader => g.startTime ≤ g'.startTime :=
    ⟨fun g g' => Int64.le_total _ _⟩
  have : IsTrans DataPacketHeader fun g g' => g.startTime ≤ g'.startTime :=
    ⟨fun _ _ _ => Int64.le_trans⟩
  exact List.pairwise_insertionSort _ _

namespace Holds

variable {settings : DuplicateSettings} {name : String} {past past' : List DataPacketHeader}
  {impl impl' : TestDuplicateDataPacketImpl}

theorem retained_eq (h : Holds settings name past impl) :
    retained impl name = sortByStart past := by
  cases h with
  | nothing => rfl
  | something _ buffer hcapacity hperm hsorted =>
    have hitems : retained ((fresh settings).store name buffer) name = buffer.items := by
      simp [retained]
    rw [hitems]
    exact hsorted.items_eq (pairwise_sortByStart past)
      (hperm.trans (List.perm_insertionSort _ past).symm)

/-- What was submitted determines the state. -/
theorem state_unique (h : Holds settings name past impl) (h' : Holds settings name past' impl')
    (hpast : past.Perm past') : impl = impl' := by
  cases h with
  | nothing =>
    cases h' with
    | nothing => rfl
    | something _ buffer' _ hperm' _ =>
      exact absurd (hperm'.trans hpast.symm).eq_nil buffer'.items_ne_nil
  | something _ buffer hcapacity hperm hsorted =>
    cases h' with
    | nothing => exact absurd (hperm.trans hpast).eq_nil buffer.items_ne_nil
    | something _ buffer' hcapacity' hperm' hsorted' =>
      have hitems : buffer.items = buffer'.items :=
        hsorted.items_eq (hsorted'.sorted.imp fun hlt => Int64.le_of_lt hlt)
          ((hperm.trans hpast).trans hperm'.symm)
      have hsame : buffer = buffer' := by
        rcases buffer with ⟨⟨capacity, items, _, _⟩, _⟩
        rcases buffer' with ⟨⟨capacity', items', _, _⟩, _⟩
        obtain rfl : items = items' := hitems
        obtain rfl : capacity = capacity' := hcapacity.trans hcapacity'.symm
        rfl
      rw [hsame]

end Holds

/-! ### Matching headers are never both retained -/

/-- No two headers of a buffer match. -/
def Unmatched (impl : TestDuplicateDataPacketImpl) : Prop :=
  ∀ name buffer, impl.mCircularBuffers name = some buffer →
    ∀ g ∈ buffer.items, ∀ h ∈ buffer.items, g ≠ h → g.equals h ≠ .ok true

theorem find_eq_false_of_stored {impl : TestDuplicateDataPacketImpl} {header : DataPacketHeader}
    {before after : Occupied DataPacketHeader}
    (hbefore : impl.mCircularBuffers header.name = some before)
    (hafter : (impl.allow header).1.mCircularBuffers header.name = some after)
    (hnew : header ∉ before.items) (hstored : header ∈ after.items) :
    header.find before.items = .ok false := by
  have hcase := impl.allow_case header
  generalize (impl.allow header).1 = impl' at hcase hafter
  generalize (impl.allow header).2 = result at hcase
  have hsame : impl'.mCircularBuffers = impl.mCircularBuffers → False := by
    intro hbuffers
    rw [hbuffers, hbefore, Option.some.injEq] at hafter
    exact hnew (hafter ▸ hstored)
  cases hcase with
  | created hnone =>
    rw [hnone] at hbefore
    cases hbefore
  | overflowed => exact (hsame rfl).elim
  | threw => exact (hsame rfl).elim
  | duplicate => exact (hsame (by simp)).elim
  | appended own hown hfind => exact Option.some.inj (hown.symm.trans hbefore) ▸ hfind
  | expired own hown hfind => exact Option.some.inj (hown.symm.trans hbefore) ▸ hfind
  | prepended own hown hfind => exact Option.some.inj (hown.symm.trans hbefore) ▸ hfind
  | slipped own hown hfind => exact Option.some.inj (hown.symm.trans hbefore) ▸ hfind
  | backfilled own hown hfind => exact Option.some.inj (hown.symm.trans hbefore) ▸ hfind

theorem unmatched_allow {impl : TestDuplicateDataPacketImpl} (h : Unmatched impl)
    (header : DataPacketHeader) : Unmatched (impl.allow header).1 := by
  intro name buffer hsome
  -- against a header that was there before, a new one was found not to match
  have hnew : ∀ before, impl.mCircularBuffers header.name = some before → name = header.name →
      header ∈ buffer.items → ∀ g ∈ before.items, g ≠ header → g.equals header ≠ .ok true := by
    rintro before hbefore rfl hstored g hg hne
    by_cases hold : header ∈ before.items
    · exact h _ before hbefore g hg header hold hne
    · have hfind := find_eq_false_of_stored hbefore hsome hold hstored
      rw [DataPacketHeader.find_eq_false_iff.mp hfind g hg]
      simp
  intro g hg g' hg' hne
  rcases mem_items_allow hsome hg with ⟨hname, rfl⟩ | ⟨before, hbefore, hmem⟩
  · rcases mem_items_allow hsome hg' with ⟨-, rfl⟩ | ⟨before', hbefore', hmem'⟩
    · exact absurd rfl hne
    · intro hmatch
      exact hnew before' (hname ▸ hbefore') hname hg g' hmem' hne.symm
        (DataPacketHeader.equals_true_symm hmatch)
  · rcases mem_items_allow hsome hg' with ⟨hname, rfl⟩ | ⟨before', hbefore', hmem'⟩
    · exact hnew before (hname ▸ hbefore) hname hg' g hmem hne
    · obtain rfl := Option.some.inj (hbefore.symm.trans hbefore')
      exact h name before hbefore g hmem g' hmem' hne

theorem unmatched_after (settings : DuplicateSettings) (headers : List DataPacketHeader) :
    Unmatched (headerTester.after (fresh settings) headers) := by
  refine headerTester.after_invariant (I := Unmatched) ?_ ?_ headers
  · intro impl header h
    exact unmatched_allow h header
  · intro name buffer hsome
    cases hsome

/-! ### Arrival order -/

/-- In whatever order the headers arrive, the tester ends in one and the same state, in
    which it has retained all of them, sorted by start time. -/
def OrderIrrelevant (settings : DuplicateSettings) (name : String)
    (headers : List DataPacketHeader) : Prop :=
  ∀ order, order.Perm headers →
    headerTester.after (fresh settings) order = headerTester.after (fresh settings) headers ∧
    retained (headerTester.after (fresh settings) order) name = sortByStart headers

/-- **When the order of arrival does not matter.**  For disjoint headers of one channel
    that are no near-duplicates, and for which the buffer has room, every order ends in
    the same state with all of them retained, if and only if no two of them with as many
    samples start so far apart that the difference wraps around. -/
theorem orderIrrelevant_iff (settings : DuplicateSettings)
    (hfixed : settings.mEstimateCapacity = false) (name : String) (rate : Int32) (limit : Int64)
    (hlimit : DataPacketHeader.tolerance rate = some limit) (headers : List DataPacketHeader)
    (hseparate : Separate name rate limit headers)
    (hsize : headers.length ≤ settings.mCircularBufferSize) :
    OrderIrrelevant settings name headers ↔ headers.Pairwise (NoWrap limit) := by
  have hequals := hseparate.equals_iff hlimit
  constructor
  · intro horder
    -- in the end all of them are retained, and no two retained ones match
    have hretained := (horder headers (List.Perm.refl _)).2
    have hmem : ∀ g ∈ headers,
        g ∈ retained (headerTester.after (fresh settings) headers) name := by
      intro g hg
      rw [hretained]
      exact (List.perm_insertionSort _ headers).mem_iff.mpr hg
    apply (hequals.and hseparate.pairwise_ne).imp_of_mem
    rintro g g' hg hg' ⟨hiff, hne⟩
    apply hiff.mp
    have hg := hmem g hg
    have hg' := hmem g' hg'
    unfold retained at hg hg'
    cases hsome : (headerTester.after (fresh settings) headers).mCircularBuffers name with
    | none => simp [hsome] at hg
    | some buffer =>
      simp only [hsome] at hg hg'
      exact unmatched_after settings headers name buffer hsome g hg g' hg' hne
  · intro hwrap
    have hown := holds_after hfixed hsize hseparate (hseparate.unmatched hlimit hwrap)
    intro order hperm
    have hwrapOrder := hperm.symm.pairwise hwrap NoWrap.symm
    have hother := holds_after hfixed (hperm.length_eq ▸ hsize) (hseparate.perm hperm)
      ((hseparate.perm hperm).unmatched hlimit hwrapOrder)
    have hsame := hother.state_unique hown hperm
    exact ⟨hsame, by rw [hsame, hown.retained_eq]⟩

/-- Three packets, each of which is stored in another way when the order is turned
    around. -/
theorem fork_orderIrrelevant :
    OrderIrrelevant {} "UU.FORK.HHZ.01"
      [forkHeader 20000 30000 2, forkHeader 60000 70000 2, forkHeader 40000 50000 2] := by
  refine (orderIrrelevant_iff {} rfl "UU.FORK.HHZ.01" 100 15000 (by decide) _ ?_ (by decide)).mpr
    (by decide)
  constructor
  · decide
  · decide
  · decide
  · simp only [List.pairwise_cons, List.forall_mem_cons, Span.disjoint_Icc_iff, forkHeader]
    decide
  · decide

/-- Two packets of one sample at the two ends of time are 2^64 - 1 microseconds apart, and
    the tester takes them for one. -/
theorem fork_ends_of_time_order_relevant :
    Separate "UU.FORK.HHZ.01" 100 15000
      [forkHeader Int64.minValue Int64.minValue 1, forkHeader Int64.maxValue Int64.maxValue 1] ∧
    ¬ OrderIrrelevant {} "UU.FORK.HHZ.01"
      [forkHeader Int64.minValue Int64.minValue 1, forkHeader Int64.maxValue Int64.maxValue 1] := by
  constructor
  · constructor
    · decide
    · decide
    · decide
    · simp only [List.pairwise_cons, List.forall_mem_cons, Span.disjoint_Icc_iff, forkHeader]
      decide
    · decide
  · intro horder
    have hretained := (horder _ (List.Perm.refl _)).2
    revert hretained
    decide +kernel

end Us8
