/-
  Us8/DuplicateTesterOrder.lean
  =============================
  **What the duplicate tester's buffers look like over a whole run, and what that
  gives: no two packets of a channel that it lets through overlap.**

  A buffer is *tidy* when its headers carry the channel's name, are proper
  intervals and come in order, each one ending before the next begins.  Three of
  the four ways a buffer changes keep it tidy for every header; the fourth, the
  out-of-order back-fill, relies on a test that looks only at the two ends of the
  new header.  `Engulfs` is what that test cannot see: a header that swallows a
  retained one without beginning or ending inside any.  As long as no header
  engulfs, tidiness is an invariant (`tidy_allow`).

  Tidiness alone says nothing about a header that has left the buffer.  For those
  the invariant is `Remembered`: a header that was let through is still in its
  buffer, or the buffer is full and the header ended before its front.  A full
  buffer stays full and its front only moves forward, so nothing that could overlap
  an evicted header gets past the tests any more.
-/
import Us8.DuplicateTester
import Mathlib.Data.Int.ConditionallyCompleteOrder

namespace Us8

open CircularBuffer (Occupied)
open DataPacketHeader (span forkHeader)
open TestDuplicateDataPacketImpl

/-! ### One buffer -/

/-- The headers of the channel's buffer are proper and in order. -/
structure TidyBuffer (name : String) (buffer : Occupied DataPacketHeader) : Prop where
  name_eq : ∀ g ∈ buffer.items, g.name = name
  proper : ∀ g ∈ buffer.items, g.span.Proper
  ordered : Span.Ordered span buffer.items

/-- A header is remembered: it is retained, or it ended before everything in a
    buffer that has no room left. -/
def RememberedIn (buffer : Occupied DataPacketHeader) (g : DataPacketHeader) : Prop :=
  g ∈ buffer.items ∨ (buffer.full = true ∧ g.span.Precedes buffer.front.span)

namespace TidyBuffer

variable {name : String} {buffer : Occupied DataPacketHeader} {header : DataPacketHeader}

theorem singleton {b : Occupied DataPacketHeader} (hitems : b.items = [header])
    (hproper : header.span.Proper) : TidyBuffer header.name b := by
  constructor
  · simp [hitems]
  · simpa [hitems] using hproper
  · simp [hitems, Span.Ordered]

theorem precedes_of_back (h : TidyBuffer name buffer)
    (hback : buffer.back.endTime < header.startTime) :
    ∀ g ∈ buffer.items, g.span.Precedes header.span :=
  h.ordered.precedes_of_getLast h.proper buffer.items_ne_nil
    ((DataPacketHeader.lt_iff_precedes _ _).mp hback)

/-- The front precedes a header that meets nothing retained and does not end before
    the front begins. -/
theorem front_precedes (hapart : ∀ g ∈ buffer.items, ¬ header.span.Meets g.span)
    (hfront : ¬ header.endTime < buffer.front.startTime) :
    buffer.front.span.Precedes header.span := by
  rcases Span.not_meets_iff.mp (hapart _ buffer.front_mem) with hbefore | hafter
  · exact hbefore
  · exact absurd ((DataPacketHeader.lt_iff_precedes _ _).mpr hafter) hfront

theorem front_precedes_tail (h : TidyBuffer name buffer) :
    ∀ g ∈ buffer.items.tail, buffer.front.span.Precedes g.span := by
  have hordered := h.ordered
  unfold Span.Ordered at hordered
  rw [buffer.items_eq_front_cons, List.pairwise_cons] at hordered
  exact hordered.1

theorem pushBack (h : TidyBuffer header.name buffer) (hproper : header.span.Proper)
    (hlast : ∀ g ∈ buffer.items, g.span.Precedes header.span) :
    TidyBuffer header.name (buffer.toCircularBuffer.pushBack header) := by
  constructor
  · intro g hg
    rcases CircularBuffer.mem_pushBack hg with hg | rfl
    · exact h.name_eq g hg
    · rfl
  · intro g hg
    rcases CircularBuffer.mem_pushBack hg with hg | rfl
    · exact h.proper g hg
    · exact hproper
  · apply Span.Ordered.concat (h.ordered.sublist buffer.kept_sublist)
    intro g hg
    exact hlast g (buffer.kept_sublist.subset hg)

theorem pushFront (h : TidyBuffer header.name buffer) (hproper : header.span.Proper)
    (hroom : buffer.full = false) (hfirst : header.span.Precedes buffer.front.span) :
    TidyBuffer header.name (buffer.toCircularBuffer.pushFront header) := by
  have hitems := CircularBuffer.items_pushFront_of_not_full hroom header
  constructor
  · intro g hg
    rcases List.mem_cons.mp (hitems ▸ hg) with rfl | hg
    · rfl
    · exact h.name_eq g hg
  · intro g hg
    rcases List.mem_cons.mp (hitems ▸ hg) with rfl | hg
    · exact hproper
    · exact h.proper g hg
  · unfold Span.Ordered
    rw [hitems, List.pairwise_cons]
    refine ⟨?_, h.ordered⟩
    intro g hg
    rw [buffer.items_eq_front_cons] at hg
    rcases List.mem_cons.mp hg with rfl | hg
    · exact hfirst
    · exact hfirst.trans (h.proper _ buffer.front_mem) (h.front_precedes_tail g hg)

theorem perm_items_backfill (buffer : Occupied DataPacketHeader) (header : DataPacketHeader) :
    (backfill buffer header).items.Perm (buffer.kept ++ [header]) :=
  Occupied.perm_items_sort _ _

theorem backfill (h : TidyBuffer header.name buffer) (hproper : header.span.Proper)
    (hapart : ∀ g ∈ buffer.items, ¬ header.span.Meets g.span) :
    TidyBuffer header.name (TestDuplicateDataPacketImpl.backfill buffer header) := by
  have hkept : ∀ g ∈ buffer.kept, g ∈ buffer.items := by
    intro g hg
    exact buffer.kept_sublist.subset hg
  have hmem : ∀ g ∈ (TestDuplicateDataPacketImpl.backfill buffer header).items,
      g ∈ buffer.items ∨ g = header := by
    intro g hg
    exact CircularBuffer.mem_pushBack ((perm_items_backfill buffer header).mem_iff.mp hg)
  constructor
  · intro g hg
    rcases hmem g hg with hg | rfl
    · exact h.name_eq g hg
    · rfl
  · intro g hg
    rcases hmem g hg with hg | rfl
    · exact h.proper g hg
    · exact hproper
  · exact Span.Ordered.insertionSort_concat _ (fun y z => Int64.le_iff_toInt_le)
      (h.ordered.sublist buffer.kept_sublist) (fun g hg => h.proper g (hkept g hg)) hproper
      fun g hg => hapart g (hkept g hg)

/-- Pushing a header that the front precedes: what was remembered stays remembered.
    The front of a full buffer is the only header that leaves, and it ended before
    everything that is in the buffer afterwards. -/
theorem remembered_push (h : TidyBuffer name buffer) {next : Occupied DataPacketHeader}
    (hperm : next.items.Perm (buffer.kept ++ [header]))
    (hfull : buffer.full = true → next.full = true)
    (hfront : buffer.front.span.Precedes header.span) {g : DataPacketHeader}
    (hg : RememberedIn buffer g) : RememberedIn next g := by
  cases hbuffer : buffer.full with
  | false =>
    rcases hg with hg | ⟨hwas, -⟩
    · left
      rw [hperm.mem_iff, CircularBuffer.kept_of_not_full hbuffer]
      exact List.mem_append_left _ hg
    · rw [hbuffer] at hwas
      cases hwas
  | true =>
    have hkept := CircularBuffer.kept_of_full hbuffer
    -- the old front precedes the new one, wherever that came from
    have hnext : buffer.front.span.Precedes next.front.span := by
      have hmem := hperm.mem_iff.mp next.front_mem
      rw [hkept, List.mem_append, List.mem_singleton] at hmem
      rcases hmem with hmem | heq
      · exact h.front_precedes_tail _ hmem
      · rwa [heq]
    rcases hg with hg | ⟨-, hbefore⟩
    · rw [buffer.items_eq_front_cons] at hg
      rcases List.mem_cons.mp hg with rfl | hg
      · exact Or.inr ⟨hfull hbuffer, hnext⟩
      · left
        rw [hperm.mem_iff, hkept]
        exact List.mem_append_left _ hg
    · exact Or.inr ⟨hfull hbuffer, hbefore.trans (h.proper _ buffer.front_mem) hnext⟩

/-- A header that meets nothing retained, and that the front precedes, meets nothing
    remembered. -/
theorem not_meets_remembered (h : TidyBuffer name buffer)
    (hapart : ∀ g ∈ buffer.items, ¬ header.span.Meets g.span)
    (hfront : buffer.front.span.Precedes header.span) {g : DataPacketHeader}
    (hg : RememberedIn buffer g) : ¬ header.span.Meets g.span := by
  rcases hg with hg | ⟨-, hbefore⟩
  · exact hapart g hg
  · have hprecedes := hbefore.trans (h.proper _ buffer.front_mem) hfront
    intro hmeets
    exact hprecedes.not_meets hmeets.symm

end TidyBuffer

/-! ### One call -/

def Tidy (impl : TestDuplicateDataPacketImpl) : Prop :=
  ∀ name buffer, impl.mCircularBuffers name = some buffer → TidyBuffer name buffer

def Remembered (impl : TestDuplicateDataPacketImpl) (g : DataPacketHeader) : Prop :=
  ∃ buffer, impl.mCircularBuffers g.name = some buffer ∧ RememberedIn buffer g

/-- The header contains a retained header of its channel strictly on both sides, has
    neither of its ends in a retained header, and equals none of them. -/
def Engulfs (impl : TestDuplicateDataPacketImpl) (header : DataPacketHeader) : Prop :=
  ∃ buffer, impl.mCircularBuffers header.name = some buffer ∧
    header.find buffer.items = .ok false ∧
    (∃ g ∈ buffer.items, header.span.Covers g.span) ∧
    ∀ g ∈ buffer.items, ¬ header.span.Touches g.span

/-- What a call does to a tidy state when its header does not engulf. -/
inductive OrderlyCase (impl : TestDuplicateDataPacketImpl) (header : DataPacketHeader) :
    TestDuplicateDataPacketImpl → Except StdException Bool → Prop where
  | unchanged {impl' : TestDuplicateDataPacketImpl} {result : Except StdException Bool}
      (hbuffers : impl'.mCircularBuffers = impl.mCircularBuffers) (hresult : result ≠ .ok true) :
      OrderlyCase impl header impl' result
  | created (next : Occupied DataPacketHeader)
      (hnone : impl.mCircularBuffers header.name = none) (hitems : next.items = [header])
      (htidy : TidyBuffer header.name next) :
      OrderlyCase impl header (impl.store header.name next) (.ok true)
  | pushed (buffer next : Occupied DataPacketHeader)
      (hsome : impl.mCircularBuffers header.name = some buffer)
      (htidy : TidyBuffer header.name next)
      (hperm : next.items.Perm (buffer.kept ++ [header]))
      (hfull : buffer.full = true → next.full = true)
      (hapart : ∀ g ∈ buffer.items, ¬ header.span.Meets g.span)
      (hfront : buffer.front.span.Precedes header.span) :
      OrderlyCase impl header (impl.store header.name next) (.ok true)
  | prepended (buffer next : Occupied DataPacketHeader)
      (hsome : impl.mCircularBuffers header.name = some buffer)
      (htidy : TidyBuffer header.name next) (hroom : buffer.full = false)
      (hitems : next.items = header :: buffer.items) :
      OrderlyCase impl header (impl.store header.name next) (.ok false)

section Call

variable {impl : TestDuplicateDataPacketImpl} {header g : DataPacketHeader}

theorem apart_of_not_engulfs (htidy : Tidy impl) {buffer : Occupied DataPacketHeader}
    (hsome : impl.mCircularBuffers header.name = some buffer)
    (hfind : header.find buffer.items = .ok false) (hproper : header.span.Proper)
    (hslips : ∀ g ∈ buffer.items, header.slips g = false) (hsafe : ¬ Engulfs impl header) :
    ∀ g ∈ buffer.items, ¬ header.span.Meets g.span := by
  have htouches : ∀ g ∈ buffer.items, ¬ header.span.Touches g.span := by
    intro g hg htouch
    have := hslips g hg
    rw [(DataPacketHeader.slips_iff header g).mpr htouch] at this
    cases this
  intro g hg hmeets
  have hgproper := (htidy _ _ hsome).proper g hg
  rcases (Span.meets_iff hproper hgproper).mp hmeets with htouch | hcovers
  · exact htouches g hg htouch
  · exact hsafe ⟨buffer, hsome, hfind, ⟨g, hg, hcovers⟩, htouches⟩

theorem allow_orderly (htidy : Tidy impl) (hproper : header.span.Proper)
    (hsafe : ¬ Engulfs impl header) :
    OrderlyCase impl header (impl.allow header).1 (impl.allow header).2 := by
  have hcase := impl.allow_case header
  generalize (impl.allow header).1 = impl' at hcase ⊢
  generalize (impl.allow header).2 = result at hcase ⊢
  cases hcase with
  | created hnone next hnew =>
    have hitems := items_newBuffer hnew
    exact .created _ hnone hitems (TidyBuffer.singleton hitems hproper)
  | overflowed => exact .unchanged rfl (by simp)
  | threw buffer hsome e hfind => exact .unchanged rfl (by simp)
  | duplicate buffer hsome hfind => exact .unchanged (by simp) (by simp)
  | appended buffer hsome hfind hback =>
    have hlast := (htidy _ _ hsome).precedes_of_back hback
    exact .pushed buffer _ hsome ((htidy _ _ hsome).pushBack hproper hlast) (List.Perm.refl _)
      (fun hfull => CircularBuffer.full_pushBack_of_full hfull header)
      (fun g hg hmeets => (hlast g hg).not_meets hmeets.symm)
      (hlast _ buffer.front_mem)
  | expired buffer hsome hfind hback hfront hfull => exact .unchanged rfl (by simp)
  | prepended buffer hsome hfind hback hfront hroom =>
    exact .prepended buffer _ hsome
      ((htidy _ _ hsome).pushFront hproper hroom
        ((DataPacketHeader.lt_iff_precedes _ _).mp hfront))
      hroom (CircularBuffer.items_pushFront_of_not_full hroom header)
  | slipped buffer hsome hfind hback hfront hslips => exact .unchanged (by simp) (by simp)
  | backfilled buffer hsome hfind hback hfront hslips =>
    have hapart := apart_of_not_engulfs htidy hsome hfind hproper hslips hsafe
    refine .pushed buffer _ hsome ((htidy _ _ hsome).backfill hproper hapart)
      (TidyBuffer.perm_items_backfill buffer header) ?_ hapart
      (TidyBuffer.front_precedes hapart hfront)
    intro hfull
    rw [backfill, Occupied.full_sort]
    exact CircularBuffer.full_pushBack_of_full hfull header

theorem tidy_allow (htidy : Tidy impl) (hproper : header.span.Proper)
    (hsafe : ¬ Engulfs impl header) : Tidy (impl.allow header).1 := by
  have hcase := allow_orderly htidy hproper hsafe
  generalize (impl.allow header).1 = impl' at hcase ⊢
  generalize (impl.allow header).2 = result at hcase
  cases hcase with
  | unchanged hbuffers _ =>
    intro name buffer hsome
    rw [hbuffers] at hsome
    exact htidy name buffer hsome
  | created next _ _ hnext => exact forall_store htidy hnext
  | pushed buffer next _ hnext => exact forall_store htidy hnext
  | prepended buffer next _ hnext => exact forall_store htidy hnext

theorem remembered_store (hg : Remembered impl g) {name : String}
    {buffer next : Occupied DataPacketHeader} (hsome : impl.mCircularBuffers name = some buffer)
    (hkeep : RememberedIn buffer g → RememberedIn next g) :
    Remembered (impl.store name next) g := by
  obtain ⟨own, hown, hgown⟩ := hg
  by_cases hname : g.name = name
  · subst hname
    rw [hsome, Option.some.injEq] at hown
    exact ⟨next, by simp, hkeep (hown ▸ hgown)⟩
  · exact ⟨own, by simpa [Function.update_of_ne hname] using hown, hgown⟩

theorem remembered_allow (htidy : Tidy impl) (hproper : header.span.Proper)
    (hsafe : ¬ Engulfs impl header) (hg : Remembered impl g) :
    Remembered (impl.allow header).1 g := by
  have hcase := allow_orderly htidy hproper hsafe
  generalize (impl.allow header).1 = impl' at hcase ⊢
  generalize (impl.allow header).2 = result at hcase
  cases hcase with
  | unchanged hbuffers _ =>
    obtain ⟨buffer, hbuffer, hmem⟩ := hg
    exact ⟨buffer, by rw [hbuffers]; exact hbuffer, hmem⟩
  | created next hnone _ _ =>
    -- another channel's buffer was created: this one had none to remember in
    obtain ⟨buffer, hbuffer, hmem⟩ := hg
    have hname : g.name ≠ header.name := by
      intro heq
      rw [heq, hnone] at hbuffer
      cases hbuffer
    exact ⟨buffer, by simpa [Function.update_of_ne hname] using hbuffer, hmem⟩
  | pushed buffer next hsome _ hperm hfull _ hfront =>
    exact remembered_store hg hsome fun h =>
      (htidy _ _ hsome).remembered_push hperm hfull hfront h
  | prepended buffer next hsome _ hroom hitems =>
    apply remembered_store hg hsome
    rintro (hmem | ⟨hfull, -⟩)
    · exact Or.inl (by rw [hitems]; exact List.mem_cons_of_mem _ hmem)
    · rw [hroom] at hfull
      cases hfull

theorem remembered_self (htidy : Tidy impl) (hproper : header.span.Proper)
    (hsafe : ¬ Engulfs impl header) (hallowed : (impl.allow header).2 = .ok true) :
    Remembered (impl.allow header).1 header := by
  have hcase := allow_orderly htidy hproper hsafe
  rw [hallowed] at hcase
  generalize (impl.allow header).1 = impl' at hcase ⊢
  cases hcase with
  | unchanged _ hresult => exact absurd rfl hresult
  | created next _ hitems _ => exact ⟨next, by simp, Or.inl (by simp [hitems])⟩
  | pushed buffer next _ _ hperm _ _ _ =>
    exact ⟨next, by simp, Or.inl (hperm.mem_iff.mpr (by simp))⟩

/-- A header that is let through meets nothing that its channel remembers. -/
theorem not_meets_of_allowed (htidy : Tidy impl) (hproper : header.span.Proper)
    (hsafe : ¬ Engulfs impl header) (hallowed : (impl.allow header).2 = .ok true)
    (hname : g.name = header.name) (hg : Remembered impl g) : ¬ header.span.Meets g.span := by
  have hcase := allow_orderly htidy hproper hsafe
  rw [hallowed] at hcase
  generalize (impl.allow header).1 = impl' at hcase
  obtain ⟨own, hown, hmem⟩ := hg
  rw [hname] at hown
  cases hcase with
  | unchanged _ hresult => exact absurd rfl hresult
  | created next hnone _ _ =>
    rw [hnone] at hown
    cases hown
  | pushed buffer next hsome _ _ _ hapart hfront =>
    rw [hsome, Option.some.injEq] at hown
    subst hown
    exact (htidy _ _ hsome).not_meets_remembered hapart hfront hmem

end Call

/-! ### Runs without nested packets -/

/-- What holds between the calls so far and the state, in a run over `headers`. -/
structure RunOrder (headers : List DataPacketHeader)
    (past : List (DataPacketHeader × Except StdException Bool))
    (impl : TestDuplicateDataPacketImpl) : Prop where
  tidy : Tidy impl
  submitted : ∀ name buffer, impl.mCircularBuffers name = some buffer →
    ∀ g ∈ buffer.items, g.name = name ∧ g ∈ headers
  remembered : ∀ e ∈ past, e.2 = .ok true → Remembered impl e.1
  apart : past.Pairwise fun e f => e.2 = .ok true → f.2 = .ok true → e.1.name = f.1.name →
    ¬ f.1.span.Meets e.1.span

theorem runOrder_allow {headers : List DataPacketHeader}
    (hproper : ∀ h ∈ headers, h.span.Proper)
    (hnest : ∀ g ∈ headers, ∀ h ∈ headers, g.name = h.name → ¬ g.span.Covers h.span)
    {past : List (DataPacketHeader × Except StdException Bool)}
    {impl : TestDuplicateDataPacketImpl} {header : DataPacketHeader} (hheader : header ∈ headers)
    (h : RunOrder headers past impl) :
    RunOrder headers (past ++ [(header, (impl.allow header).2)]) (impl.allow header).1 := by
  have hown := hproper header hheader
  -- everything retained was submitted, so nothing retained is nested in the header
  have hsafe : ¬ Engulfs impl header := by
    rintro ⟨buffer, hsome, -, ⟨g, hg, hcovers⟩, -⟩
    obtain ⟨hname, hmem⟩ := h.submitted _ _ hsome g hg
    exact hnest header hheader g hmem hname.symm hcovers
  refine ⟨tidy_allow h.tidy hown hsafe, ?_, ?_, ?_⟩
  · intro name buffer hsome g hg
    rcases mem_items_allow hsome hg with ⟨rfl, rfl⟩ | ⟨before, hbefore, hmem⟩
    · exact ⟨rfl, hheader⟩
    · exact h.submitted name before hbefore g hmem
  · intro e he hallowed
    rcases List.mem_append.mp he with he | he
    · exact remembered_allow h.tidy hown hsafe (h.remembered e he hallowed)
    · rw [List.mem_singleton] at he
      subst he
      exact remembered_self h.tidy hown hsafe hallowed
  · refine List.pairwise_append.mpr ⟨h.apart, List.pairwise_singleton _ _, ?_⟩
    intro e he f hf hallowed hallowed' hname
    rw [List.mem_singleton] at hf
    subst hf
    exact not_meets_of_allowed h.tidy hown hsafe hallowed' hname (h.remembered e he hallowed)

theorem runOrder_fresh (headers : List DataPacketHeader) (settings : DuplicateSettings) :
    RunOrder headers [] (fresh settings) := by
  constructor
  · intro name buffer hsome
    cases hsome
  · intro name buffer hsome
    cases hsome
  · simp
  · exact List.Pairwise.nil

/-- **Nothing is let through twice.**  In a run over proper intervals none of which
    is nested in another of its channel, any two headers of one channel that are let
    through at different steps are disjoint, however many calls lie between them and
    whether or not the first is still retained; in particular they are different. -/
theorem allowed_headers_disjoint (settings : DuplicateSettings)
    (headers : List DataPacketHeader)
    (hproper : ∀ h ∈ headers, h.startTime ≤ h.endTime)
    (hnest : ∀ g ∈ headers, ∀ h ∈ headers, g.name = h.name →
      ¬ (g.startTime < h.startTime ∧ h.endTime < g.endTime)) :
    (headerTester.history (fresh settings) headers).Pairwise fun e f =>
      e.2 = .ok true → f.2 = .ok true → e.1.name = f.1.name →
        Disjoint (Set.Icc e.1.startTime.toInt e.1.endTime.toInt)
          (Set.Icc f.1.startTime.toInt f.1.endTime.toInt) ∧ e.1 ≠ f.1 := by
  have hspan : ∀ h ∈ headers, h.span.Proper := fun h hh =>
    (DataPacketHeader.le_iff_proper h).mp (hproper h hh)
  have hcovers : ∀ g ∈ headers, ∀ h ∈ headers, g.name = h.name → ¬ g.span.Covers h.span := by
    intro g hg h hh hname hcover
    apply hnest g hg h hh hname
    simpa [Span.Covers, span, Int64.lt_iff_toInt_lt] using hcover
  have hrun : RunOrder headers (headerTester.history (fresh settings) headers)
      (headerTester.after (fresh settings) headers) :=
    headerTester.history_invariant
      (fun past impl header hheader h => runOrder_allow hspan hcovers hheader h)
      (runOrder_fresh headers settings) (headerTester.always_of_forall_mem fun _ hh => hh)
  have hmem : ∀ e ∈ headerTester.history (fresh settings) headers, e.1 ∈ headers := by
    intro e he
    have := List.mem_map_of_mem (f := Prod.fst) he
    rwa [Machine.map_fst_history] at this
  apply hrun.apart.imp_of_mem
  intro e f he hf hapart hallowed hallowed' hname
  have hproperE := hspan e.1 (hmem e he)
  have hproperF := hspan f.1 (hmem f hf)
  have hmeets := hapart hallowed hallowed' hname
  refine ⟨?_, ?_⟩
  · exact (Span.disjoint_points_iff hproperE hproperF).mpr fun h => hmeets h.symm
  · intro heq
    rw [heq] at hmeets
    exact hmeets ⟨hproperF, hproperF⟩

/-- Three packets into a buffer of one: the first is evicted by the second, and a
    copy of it is still turned away. -/
theorem fork_allowed_headers_disjoint :
    headerTester.history (fresh { mCircularBufferSize := 1 })
        [forkHeader 0 10000 2, forkHeader 20000 30000 2, forkHeader 0 10000 2] =
      [(forkHeader 0 10000 2, .ok true), (forkHeader 20000 30000 2, .ok true),
        (forkHeader 0 10000 2, .ok false)] ∧
    (headerTester.history (fresh { mCircularBufferSize := 1 })
        [forkHeader 0 10000 2, forkHeader 20000 30000 2, forkHeader 0 10000 2]).Pairwise fun e f =>
      e.2 = .ok true → f.2 = .ok true → e.1.name = f.1.name →
        Disjoint (Set.Icc e.1.startTime.toInt e.1.endTime.toInt)
          (Set.Icc f.1.startTime.toInt f.1.endTime.toInt) ∧ e.1 ≠ f.1 :=
  ⟨by decide +kernel, allowed_headers_disjoint _ _ (by decide) (by decide)⟩

/-! ### Which overlaps the slip check misses -/

theorem tidy_after_of_always {settings : DuplicateSettings} {headers : List DataPacketHeader}
    (hproper : ∀ h ∈ headers, h.span.Proper)
    (hsafe : headerTester.Always (fun impl h => ¬ Engulfs impl h) (fresh settings) headers) :
    Tidy (headerTester.after (fresh settings) headers) :=
  headerTester.after_invariant_of_always (I := Tidy)
    (fun _ _ htidy h => tidy_allow htidy h.1 h.2)
    (runOrder_fresh [] settings).tidy
    (headerTester.always_and_iff.mpr ⟨headerTester.always_of_forall_mem hproper, hsafe⟩)

theorem allow_of_engulfs {impl : TestDuplicateDataPacketImpl} {header : DataPacketHeader}
    (htidy : Tidy impl) (h : Engulfs impl header) : (impl.allow header).2 = .ok true := by
  obtain ⟨buffer, hsome, hfind, ⟨g, hg, hcovers⟩, htouches⟩ := h
  have htidyBuffer := htidy _ _ hsome
  -- it does not end before the front begins, because it ends after `g`
  have hnotFront : ¬ header.endTime < buffer.front.startTime := by
    intro hfront
    have hfront' : header.span.stop < buffer.front.span.start :=
      (DataPacketHeader.lt_iff_precedes _ _).mp hfront
    have hstart : buffer.front.span.start ≤ g.span.start := by
      have hmem := hg
      rw [buffer.items_eq_front_cons] at hmem
      rcases List.mem_cons.mp hmem with rfl | hmem
      · exact le_refl _
      · exact le_trans (htidyBuffer.proper _ buffer.front_mem)
          (le_of_lt (htidyBuffer.front_precedes_tail g hmem))
    have hgproper := htidyBuffer.proper g hg
    simp only [Span.Covers, Span.Proper] at hcovers hgproper
    omega
  have hslips : ¬ buffer.items.any header.slips = true := by
    intro hany
    obtain ⟨g', hg', hslip⟩ := List.any_eq_true.mp hany
    exact htouches g' hg' ((DataPacketHeader.slips_iff _ _).mp hslip)
  simp only [allow, hsome, hfind, if_neg hnotFront, if_neg hslips]
  split_ifs
  · rfl
  · rfl

/-- The header shares a point of time with a retained header of its channel. -/
def OverlapsRetained (impl : TestDuplicateDataPacketImpl) (header : DataPacketHeader) : Prop :=
  ∃ buffer, impl.mCircularBuffers header.name = some buffer ∧ ∃ g ∈ buffer.items,
    ¬ Disjoint (Set.Icc header.startTime.toInt header.endTime.toInt)
      (Set.Icc g.startTime.toInt g.endTime.toInt)

/-- **The slip check misses exactly the headers that engulf.**  After every run of
    proper headers none of which engulfed, a header that overlaps a retained one is
    turned away if and only if it does not engulf.  So in a run in which no header
    engulfs, no overlapping header is ever let through. -/
theorem overlap_rejected_iff (settings : DuplicateSettings) (headers : List DataPacketHeader)
    (hproper : ∀ h ∈ headers, h.startTime ≤ h.endTime)
    (hsafe : headerTester.Always (fun impl h => ¬ Engulfs impl h) (fresh settings) headers)
    (header : DataPacketHeader) (hheader : header.startTime ≤ header.endTime) :
    (OverlapsRetained (headerTester.after (fresh settings) headers) header →
      ((headerTester.after (fresh settings) headers).allow header).2 ≠ .ok true) ↔
    ¬ Engulfs (headerTester.after (fresh settings) headers) header := by
  have htidy := tidy_after_of_always
    (fun h hh => (DataPacketHeader.le_iff_proper h).mp (hproper h hh)) hsafe
  generalize headerTester.after (fresh settings) headers = impl at htidy ⊢
  have hown := (DataPacketHeader.le_iff_proper header).mp hheader
  constructor
  · intro hrejected hengulfs
    refine hrejected ?_ (allow_of_engulfs htidy hengulfs)
    obtain ⟨buffer, hsome, -, ⟨g, hg, hcovers⟩, -⟩ := hengulfs
    refine ⟨buffer, hsome, g, hg, ?_⟩
    have hgproper := (htidy _ _ hsome).proper g hg
    have hmeets := (Span.meets_iff hown hgproper).mpr (Or.inr hcovers)
    intro hdisjoint
    exact (Span.disjoint_points_iff hown hgproper).mp hdisjoint hmeets
  · rintro hsafe' ⟨buffer, hsome, g, hg, hoverlap⟩ hallowed
    have htidyBuffer := htidy _ _ hsome
    have hname := htidyBuffer.name_eq g hg
    have hapart := not_meets_of_allowed htidy hown hsafe' hallowed hname
      ⟨buffer, by rw [hname]; exact hsome, Or.inl hg⟩
    exact hoverlap
      ((Span.disjoint_points_iff hown (htidyBuffer.proper g hg)).mpr hapart)

theorem fork_retained :
    ((headerTester.after (fresh {}) [forkHeader 20000 30000 2]).mCircularBuffers
      "UU.FORK.HHZ.01").map (fun buffer => buffer.items) = some [forkHeader 20000 30000 2] := by
  decide +kernel

theorem fork_slip_rejected :
    (OverlapsRetained (headerTester.after (fresh {}) [forkHeader 20000 30000 2])
        (forkHeader 25000 35000 2) →
      ((headerTester.after (fresh {}) [forkHeader 20000 30000 2]).allow
        (forkHeader 25000 35000 2)).2 ≠ .ok true) ↔
    ¬ Engulfs (headerTester.after (fresh {}) [forkHeader 20000 30000 2])
      (forkHeader 25000 35000 2) := by
  refine overlap_rejected_iff {} [forkHeader 20000 30000 2] (by decide) ⟨?_, trivial⟩ _ (by decide)
  rintro ⟨buffer, hsome, -⟩
  cases hsome

/-- A packet of four samples around a retained one of two: it overlaps, both have the
    channel's rate, and it is let through. -/
theorem fork_engulfing_header_allowed :
    (forkHeader 10000 40000 4).startTime ≤ (forkHeader 10000 40000 4).endTime ∧
    (forkHeader 10000 40000 4).samplingRate = (forkHeader 20000 30000 2).samplingRate ∧
    (forkHeader 10000 40000 4).samplingRate < 1005 ∧
    OverlapsRetained (headerTester.after (fresh {}) [forkHeader 20000 30000 2])
      (forkHeader 10000 40000 4) ∧
    ((headerTester.after (fresh {}) [forkHeader 20000 30000 2]).allow
      (forkHeader 10000 40000 4)).2 = .ok true := by
  refine ⟨by decide, by decide, by decide, ?_, by decide +kernel⟩
  obtain ⟨buffer, hsome, hitems⟩ := Option.map_eq_some_iff.mp fork_retained
  refine ⟨buffer, hsome, forkHeader 20000 30000 2, by simp [hitems], ?_⟩
  rw [Set.not_disjoint_iff]
  exact ⟨25000, by decide, by decide⟩

end Us8
