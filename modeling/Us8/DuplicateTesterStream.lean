/-
  Us8/DuplicateTesterStream.lean
  ==============================
  **Which gap-free streams the duplicate tester lets through.**

  A station that works sends packet after packet, each starting one sample period after
  the end of the one before (`Stream`).  Such a stream drives the tester down one path
  only: every header begins after all that is retained, so it is appended, and the buffer
  holds the last headers of the stream (`Trailing`).  What may go wrong is the search.

  The tolerances are fixed for a class of rates, and the sample period shrinks towards
  the upper end of a class until it falls below the tolerance: at 67-104, 223-254,
  401-504 and 667-1004 Hz.  Twice the period never does (`limit_le_two_mul_samplePeriod`).
  So the only packets taken for duplicates of an earlier one are those of one sample that
  follow a packet of one sample, and those so far from an earlier one that the difference
  of the start times wraps around.
-/
import Us8.DuplicateTesterArrival
import Us8.DuplicateTesterChannels
import Mathlib.Data.List.Chain

namespace Us8

open CircularBuffer (Occupied)
open DataPacketHeader (tolerance forkHeader)
open TestDuplicateDataPacketImpl

/-! ### Streams -/

/-- The sample period in microseconds. -/
def samplePeriod (rate : Int32) : Int := roundHalfAway (1000000 / (rate.toInt : ℚ))

/-- The microseconds from the first sample to the last. -/
def traceLength (rate : Int32) (nSamples : Nat) : Int :=
  roundHalfAway (((nSamples : ℚ) - 1) * 1000000 / (rate.toInt : ℚ))

/-- Headers of one channel in order and without gaps. -/
structure Stream (name : String) (rate : Int32) (headers : List DataPacketHeader) : Prop where
  name_eq : ∀ h ∈ headers, h.name = name
  rate_eq : ∀ h ∈ headers, h.samplingRate = rate
  nSamples_pos : ∀ h ∈ headers, 1 ≤ h.nSamples
  endTime_eq : ∀ h ∈ headers,
    h.endTime.toInt = h.startTime.toInt + traceLength rate h.nSamples
  startTime_eq : headers.IsChain fun g h =>
    h.startTime.toInt = g.endTime.toInt + samplePeriod rate

section Rate

variable {rate : Int32}

theorem le_samplePeriod {top : Int} (hpos : 1 ≤ rate.toInt) (htop : rate.toInt ≤ top) :
    roundHalfAway (1000000 / (top : ℚ)) ≤ samplePeriod rate := by
  have hrate : (0 : ℚ) < rate.toInt := by exact_mod_cast hpos
  have hle : (rate.toInt : ℚ) ≤ top := by exact_mod_cast htop
  have htop' : (0 : ℚ) < top := lt_of_lt_of_le hrate hle
  apply roundHalfAway_mono
  · positivity
  · gcongr

/-- In no class does the tolerance reach over two samples. -/
theorem limit_le_two_mul_samplePeriod {limit : Int64} (hpos : 1 ≤ rate)
    (hlimit : tolerance rate = some limit) : limit.toInt ≤ 2 * samplePeriod rate := by
  have hone : 1 ≤ rate.toInt := by simpa [Int32.le_iff_toInt_le] using hpos
  have hclass : ∀ {top : Int32} {bound : Int64}, rate < top →
      bound.toInt ≤ 2 * roundHalfAway (1000000 / ((top.toInt - 1 : Int) : ℚ)) →
      bound.toInt ≤ 2 * samplePeriod rate := by
    intro top bound htop hbound
    rw [Int32.lt_iff_toInt_lt] at htop
    have hperiod := @le_samplePeriod rate (top.toInt - 1) hone (by omega)
    omega
  unfold tolerance at hlimit
  split_ifs at hlimit with h1 h2 h3 h4 <;> cases hlimit
  · exact hclass h1 (by decide +kernel)
  · exact hclass h2 (by decide +kernel)
  · exact hclass h3 (by decide +kernel)
  · exact hclass h4 (by decide +kernel)

theorem samplePeriod_pos {limit : Int64} (hpos : 1 ≤ rate)
    (hlimit : tolerance rate = some limit) : 0 < samplePeriod rate := by
  have htwice := limit_le_two_mul_samplePeriod hpos hlimit
  have hlimitPos := DataPacketHeader.tolerance_pos hlimit
  rw [Int64.lt_iff_toInt_lt, Int64.toInt_zero] at hlimitPos
  omega

theorem traceLength_one (rate : Int32) : traceLength rate 1 = 0 := by
  simp [traceLength]

/-- A packet of more than one sample is at least a sample period long. -/
theorem samplePeriod_le_traceLength (hpos : 1 ≤ rate) {n : Nat} (hn : 2 ≤ n) :
    samplePeriod rate ≤ traceLength rate n := by
  have hone : 1 ≤ rate.toInt := by simpa [Int32.le_iff_toInt_le] using hpos
  have hrate : (0 : ℚ) < rate.toInt := by exact_mod_cast hone
  have hle : (1 : ℚ) ≤ (n : ℚ) - 1 := by
    have : (2 : ℚ) ≤ n := by exact_mod_cast hn
    linarith
  apply roundHalfAway_mono
  · positivity
  · gcongr
    linarith

theorem traceLength_nonneg {limit : Int64} (hpos : 1 ≤ rate)
    (hlimit : tolerance rate = some limit) {n : Nat} (hn : 1 ≤ n) : 0 ≤ traceLength rate n := by
  have hperiod := samplePeriod_pos hpos hlimit
  by_cases hone : n = 1
  · rw [hone, traceLength_one]
  · have := samplePeriod_le_traceLength hpos (n := n) (by omega)
    omega

end Rate

namespace Stream

variable {name : String} {rate : Int32} {limit : Int64} {headers : List DataPacketHeader}

theorem of_infix (h : Stream name rate headers) {part : List DataPacketHeader}
    (hpart : part <:+: headers) : Stream name rate part := by
  constructor
  · intro g hg
    exact h.name_eq g (hpart.subset hg)
  · intro g hg
    exact h.rate_eq g (hpart.subset hg)
  · intro g hg
    exact h.nSamples_pos g (hpart.subset hg)
  · intro g hg
    exact h.endTime_eq g (hpart.subset hg)
  · exact h.startTime_eq.infix hpart

theorem of_prefix (h : Stream name rate headers) {past : List DataPacketHeader}
    (hpre : past <+: headers) : Stream name rate past :=
  h.of_infix hpre.isInfix

/-- Every header of a stream begins a sample period or more after the end of every
    earlier one. -/
theorem later (h : Stream name rate headers) (hpos : 1 ≤ rate)
    (hlimit : tolerance rate = some limit) :
    headers.Pairwise fun g g' => g.endTime.toInt + samplePeriod rate ≤ g'.startTime.toInt := by
  have hperiod := samplePeriod_pos hpos hlimit
  have hproper : ∀ g ∈ headers, g.startTime.toInt ≤ g.endTime.toInt := by
    intro g hg
    have := traceLength_nonneg hpos hlimit (h.nSamples_pos g hg)
    rw [h.endTime_eq g hg]
    omega
  let After (g g' : DataPacketHeader) : Prop :=
    g.endTime.toInt + samplePeriod rate ≤ g'.startTime.toInt ∧
      g'.startTime.toInt ≤ g'.endTime.toInt
  have : Trans After After After := by
    constructor
    rintro a b c ⟨hab, hb⟩ ⟨hbc, hc⟩
    exact ⟨by omega, hc⟩
  have hchain : headers.IsChain After := by
    apply h.startTime_eq.imp_of_mem_imp
    intro g g' _ hg' heq
    exact ⟨heq.ge, hproper g' hg'⟩
  exact hchain.pairwise.imp fun hafter => hafter.1

section Last

variable {past : List DataPacketHeader} {header g : DataPacketHeader}
  (h : Stream name rate (past ++ [header])) (hpos : 1 ≤ rate)
  (hlimit : tolerance rate = some limit)
include h hpos hlimit

theorem le_startTime (hg : g ∈ past) :
    g.startTime.toInt + traceLength rate g.nSamples + samplePeriod rate ≤
      header.startTime.toInt := by
  rw [← h.endTime_eq g (by simp [hg])]
  exact (List.pairwise_append.mp (h.later hpos hlimit)).2.2 g hg header (by simp)

/-- The start of a header is within the tolerance of an earlier one of as many samples
    exactly when that is the one just before and they have one sample each, at a rate
    whose sample period is within the tolerance. -/
theorem close_iff (hg : g ∈ past) (hn : g.nSamples = header.nSamples) :
    |g.startTime.toInt - header.startTime.toInt| < limit.toInt ↔
      samplePeriod rate < limit.toInt ∧ past.getLast? = some g ∧
        g.nSamples = 1 ∧ header.nSamples = 1 := by
  have hperiod := samplePeriod_pos hpos hlimit
  have htwice := limit_le_two_mul_samplePeriod hpos hlimit
  have hafter := h.le_startTime hpos hlimit hg
  have hlength := traceLength_nonneg hpos hlimit (h.nSamples_pos g (by simp [hg]))
  rw [abs_of_nonpos (by omega)]
  obtain ⟨front, last, rfl⟩ := (List.eq_nil_or_concat' past).resolve_left
    (List.ne_nil_of_mem hg)
  have hlast : header.startTime.toInt = last.endTime.toInt + samplePeriod rate := by
    have hchain := h.startTime_eq
    rw [List.append_assoc, List.singleton_append, List.isChain_append_cons_cons] at hchain
    exact hchain.2.1
  rw [h.endTime_eq last (by simp)] at hlast
  constructor
  · intro hclose
    rcases List.mem_append.mp hg with hfront | hmem
    · -- two sample periods or more lie between them
      have hbefore := (h.of_prefix (List.prefix_append _ _)).le_startTime hpos hlimit hfront
      have hown := traceLength_nonneg hpos hlimit (h.nSamples_pos last (by simp))
      omega
    · obtain rfl := List.mem_singleton.mp hmem
      have hone : g.nSamples = 1 := by
        by_contra hne
        have hmany := h.nSamples_pos g (by simp)
        have := samplePeriod_le_traceLength hpos (n := g.nSamples) (by omega)
        omega
      exact ⟨by omega, by simp, hone, hn ▸ hone⟩
  · rintro ⟨hfast, hlastEq, hone, -⟩
    obtain rfl : last = g := by simpa using hlastEq
    rw [hone, traceLength_one] at hlast
    omega

omit hpos in
theorem comparable (hg : g ∈ past) : ∃ result, g.equals header = .ok result := by
  have hrate := h.rate_eq header (by simp)
  apply DataPacketHeader.equals_ok_of_tolerance
  · exact (h.name_eq g (by simp [hg])).trans (h.name_eq header (by simp)).symm
  · exact (h.rate_eq g (by simp [hg])).trans hrate.symm
  · exact hrate.symm ▸ hlimit

theorem endTime_lt_startTime (hg : g ∈ past) : g.endTime < header.startTime := by
  have hafter := h.le_startTime hpos hlimit hg
  have hperiod := samplePeriod_pos hpos hlimit
  rw [Int64.lt_iff_toInt_lt, h.endTime_eq g (by simp [hg])]
  omega

/-- When the tester takes a header of a stream for one of those before it. -/
theorem equals_iff (hg : g ∈ past) :
    g.equals header ≠ .ok true ↔
      (samplePeriod rate < limit.toInt → past.getLast? = some g →
        ¬ (g.nSamples = 1 ∧ header.nSamples = 1)) ∧ NoWrap limit g header := by
  have hname : g.name = header.name :=
    (h.name_eq g (by simp [hg])).trans (h.name_eq header (by simp)).symm
  have hrate := h.rate_eq header (by simp)
  have hsame : g.samplingRate = header.samplingRate :=
    (h.rate_eq g (by simp [hg])).trans hrate.symm
  rw [ne_eq, DataPacketHeader.equals_eq_true_iff hname hsame (hrate.symm ▸ hlimit)]
  unfold NoWrap
  by_cases hn : g.nSamples = header.nSamples
  · rw [h.close_iff hpos hlimit hg hn]
    simp only [hn, true_and, forall_const, not_or, not_lt, not_and]
  · simp only [hn, false_and, not_false_eq_true, IsEmpty.forall_iff, and_true, true_iff]
    rintro _ _ ⟨hone, hone'⟩
    exact hn (hone.trans hone'.symm)

end Last

end Stream

/-! ### What the buffer holds along a stream -/

/-- The packets from the first on that a buffer can be made for; those before it pass
    unrecorded. -/
def recorded (settings : DuplicateSettings) (headers : List DataPacketHeader) :
    List DataPacketHeader :=
  headers.dropWhile fun header => ¬ (fresh settings).Buildable header

/-- A tester of fixed size records all. -/
theorem recorded_of_fixed {settings : DuplicateSettings}
    (hfixed : settings.mEstimateCapacity = false) (headers : List DataPacketHeader) :
    recorded settings headers = headers := by
  have hbuildable : ∀ header, (fresh settings).Buildable header := by
    intro header hestimate
    rw [fresh, hfixed] at hestimate
    cases hestimate
  cases headers with
  | nil => rfl
  | cons first rest => simp [recorded, hbuildable]

/-- The capacity of the buffer that the first packet creates. -/
def window (settings : DuplicateSettings) : List DataPacketHeader → Nat
  | [] => 0
  | first :: _ =>
      match (fresh settings).newBuffer first with
      | .error _ => 0
      | .ok buffer => buffer.capacity

/-- Every header is related in this way to the `n` headers before it. -/
def ToPrevious (n : Nat) (P : DataPacketHeader → DataPacketHeader → Prop)
    (headers : List DataPacketHeader) : Prop :=
  ∀ past header, past ++ [header] <+: headers → ∀ g ∈ past.rtake n, P g header

/-- The state is the one of a tester that has appended all of `past`, in a buffer of
    size `n`. -/
inductive Trailing (settings : DuplicateSettings) (name : String) (n : Nat) :
    List DataPacketHeader → TestDuplicateDataPacketImpl → Prop where
  | nothing : Trailing settings name n [] (fresh settings)
  | something (past : List DataPacketHeader) (buffer : Occupied DataPacketHeader)
      (hcapacity : buffer.capacity = n) (hitems : buffer.items = past.rtake n) :
      Trailing settings name n past ((fresh settings).store name buffer)

section Step

variable {settings : DuplicateSettings} {name : String} {rate : Int32} {limit : Int64}
  {past : List DataPacketHeader} {header : DataPacketHeader} {headers : List DataPacketHeader}
  {impl : TestDuplicateDataPacketImpl}

theorem mem_of_mem_rtake {g : DataPacketHeader} {n : Nat} (hg : g ∈ past.rtake n) : g ∈ past :=
  List.drop_subset _ _ hg

/-- The header goes through exactly when it matches none of those retained, and it is
    then appended. -/
theorem trailing_allow (hstream : Stream name rate headers) (hpos : 1 ≤ rate)
    (hlimit : tolerance rate = some limit)
    (hfirst : ∀ first, headers.head? = some first → (fresh settings).Buildable first)
    (hpre : past ++ [header] <+: headers)
    (h : Trailing settings name (window settings headers) past impl) :
    ((impl.allow header).2 ≠ .ok false ↔
      ∀ g ∈ past.rtake (window settings headers), g.equals header ≠ .ok true) ∧
    ((impl.allow header).2 ≠ .ok false →
      Trailing settings name (window settings headers) (past ++ [header])
        (impl.allow header).1) := by
  have hown := hstream.of_prefix hpre
  have hname : header.name = name := hown.name_eq header (by simp)
  cases h with
  | nothing =>
    obtain ⟨rest, rfl⟩ := hpre
    obtain ⟨next, hnew⟩ := (newBuffer_ok_iff _ header).mpr (hfirst header rfl)
    have hitems := items_newBuffer hnew
    have hwindow : window settings ([] ++ [header] ++ rest) = next.capacity := by
      simp [window, hnew]
    rw [allow_of_new rfl hnew, hname, hwindow]
    refine ⟨by simp, fun _ => .something _ _ rfl ?_⟩
    have hsize : 1 - next.capacity = 0 := Nat.sub_eq_zero_of_le next.capacity_pos
    simp [hitems, List.rtake, hsize]
  | something _ buffer hcapacity hitems =>
    have hpast : ∀ g ∈ buffer.items, g ∈ past := by
      intro g hg
      exact mem_of_mem_rtake (hitems ▸ hg)
    have hback := hown.endTime_lt_startTime hpos hlimit (hpast _ buffer.back_mem)
    have hok : ∀ g ∈ buffer.items, ∃ result, g.equals header = .ok result := by
      intro g hg
      exact hown.comparable hlimit (hpast g hg)
    have hsome : ((fresh settings).store name buffer).mCircularBuffers header.name =
        some buffer := by simp [hname]
    rw [← hitems]
    by_cases hmatch : ∃ g ∈ buffer.items, g.equals header = .ok true
    · rw [allow_of_match hsome ((DataPacketHeader.find_eq_true_iff hok).mpr hmatch)]
      obtain ⟨g, hg, hequals⟩ := hmatch
      refine ⟨⟨?_, ?_⟩, ?_⟩
      · intro hne
        exact absurd rfl hne
      · intro hnone
        exact absurd hequals (hnone g hg)
      · intro hne
        exact absurd rfl hne
    · have hno : ∀ g ∈ buffer.items, g.equals header ≠ .ok true := by
        intro g hg hequals
        exact hmatch ⟨g, hg, hequals⟩
      have hfind := DataPacketHeader.find_eq_false_of_unmatched hok hno
      rw [allow_of_later hsome hfind hback, hname, store_store]
      refine ⟨⟨fun _ => hno, fun _ => by simp⟩, fun _ => .something _ _ hcapacity ?_⟩
      rw [← hcapacity] at hitems ⊢
      exact CircularBuffer.items_pushBack_of_rtake hitems header

end Step

/-! ### Which streams pass -/

theorem window_pos {settings : DuplicateSettings} {headers : List DataPacketHeader}
    (hfirst : ∀ first, headers.head? = some first → (fresh settings).Buildable first)
    (hne : headers ≠ []) : 0 < window settings headers := by
  cases headers with
  | nil => exact absurd rfl hne
  | cons first rest =>
    obtain ⟨next, hnew⟩ := (newBuffer_ok_iff _ first).mpr (hfirst first rfl)
    simpa only [window, hnew] using next.capacity_pos

theorem mem_rtake_getLast {past : List DataPacketHeader} {g : DataPacketHeader} {n : Nat}
    (hn : 0 < n) (hlast : past.getLast? = some g) : g ∈ past.rtake n := by
  obtain ⟨front, rfl⟩ := List.getLast?_eq_some_iff.mp hlast
  obtain ⟨k, rfl⟩ := Nat.exists_eq_add_one.mpr hn
  rw [List.rtake_concat_succ]
  simp

theorem Stream.unmatched_iff {name : String} {rate : Int32} {limit : Int64}
    {headers : List DataPacketHeader} (h : Stream name rate headers) (hpos : 1 ≤ rate)
    (hlimit : tolerance rate = some limit) {settings : DuplicateSettings}
    (hfirst : ∀ first, headers.head? = some first → (fresh settings).Buildable first) :
    ToPrevious (window settings headers) (fun g header => g.equals header ≠ .ok true) headers ↔
      (samplePeriod rate < limit.toInt →
        headers.IsChain fun g header => ¬ (g.nSamples = 1 ∧ header.nSamples = 1)) ∧
      ToPrevious (window settings headers) (NoWrap limit) headers := by
  constructor
  · intro hall
    constructor
    · intro hfast
      rw [List.isChain_iff_forall_rel_of_append_cons_cons]
      intro g header front rest heq
      have hpre : front ++ [g] ++ [header] <+: headers := ⟨rest, by simp [heq]⟩
      have hmem : g ∈ (front ++ [g]).rtake (window settings headers) :=
        mem_rtake_getLast (window_pos hfirst (by simp [heq])) (by simp)
      have hnot := hall _ _ hpre g hmem
      exact ((h.of_prefix hpre).equals_iff hpos hlimit (by simp)).mp hnot |>.1 hfast (by simp)
    · intro past header hpre g hg
      have hnot := hall past header hpre g hg
      exact (((h.of_prefix hpre).equals_iff hpos hlimit (mem_of_mem_rtake hg)).mp hnot).2
  · rintro ⟨hones, hwrap⟩ past header hpre g hg
    rw [(h.of_prefix hpre).equals_iff hpos hlimit (mem_of_mem_rtake hg)]
    refine ⟨?_, hwrap past header hpre g hg⟩
    intro hfast hlast
    obtain ⟨front, rfl⟩ := List.getLast?_eq_some_iff.mp hlast
    obtain ⟨rest, heq⟩ := hpre
    apply List.isChain_iff_forall_rel_of_append_cons_cons.mp (hones hfast)
    rw [← heq, List.append_assoc, List.append_assoc]
    rfl

/-- What is not recorded passes and leaves the tester as it is. -/
theorem unrecorded_pass {settings : DuplicateSettings} {headers : List DataPacketHeader}
    (h : ∀ header ∈ headers, ¬ (fresh settings).Buildable header) :
    headerTester.after (fresh settings) headers = fresh settings ∧
      ∀ e ∈ headerTester.history (fresh settings) headers, e.2 ≠ .ok false := by
  induction headers with
  | nil => exact ⟨rfl, by simp⟩
  | cons header rest ih =>
    obtain ⟨hafter, hpass⟩ := ih fun g hg => h g (List.mem_cons_of_mem _ hg)
    have hfails := h header List.mem_cons_self
    rw [← newBuffer_ok_iff] at hfails
    have hstep : ∃ e, headerTester.step (fresh settings) header = (fresh settings, .error e) := by
      cases hnew : (fresh settings).newBuffer header with
      | error e => exact ⟨e, allow_of_overflow rfl hnew⟩
      | ok next => exact absurd ⟨next, hnew⟩ hfails
    obtain ⟨e, hstep⟩ := hstep
    rw [Machine.after_cons, Machine.history_cons, hstep]
    refine ⟨hafter, ?_⟩
    intro call hcall
    rcases List.mem_cons.mp hcall with rfl | hcall
    · simp
    · exact hpass call hcall

theorem pass_iff_recorded_pass (settings : DuplicateSettings) (headers : List DataPacketHeader) :
    (∀ e ∈ headerTester.history (fresh settings) headers, e.2 ≠ .ok false) ↔
      ∀ e ∈ headerTester.history (fresh settings) (recorded settings headers),
        e.2 ≠ .ok false := by
  have hdropped : ∀ header ∈ headers.takeWhile fun header => ¬ (fresh settings).Buildable header,
      ¬ (fresh settings).Buildable header := by
    intro header hmem
    simpa using List.mem_takeWhile_imp hmem
  obtain ⟨hafter, hpass⟩ := unrecorded_pass hdropped
  conv_lhs => rw [← List.takeWhile_append_dropWhile
    (p := fun header => ¬ (fresh settings).Buildable header) (l := headers)]
  rw [Machine.history_append, hafter, List.forall_mem_append]
  exact and_iff_right hpass

theorem buildable_of_head_recorded {settings : DuplicateSettings}
    {headers : List DataPacketHeader} {first : DataPacketHeader}
    (h : (recorded settings headers).head? = some first) : (fresh settings).Buildable first := by
  have hnot := List.head?_dropWhile_not
    (fun header => decide (¬ (fresh settings).Buildable header)) headers
  unfold recorded at h
  rw [h] at hnot
  simpa using hnot

/-- **Which gap-free streams get through whole.**  All packets of a gap-free stream at a
    rate below 1005 Hz are allowed, whatever the size of the buffer and at whatever times
    they are submitted, if and only if, among those recorded, no packet of one sample
    follows another where the sample period is below the tolerance, and none of those
    retained starts so far from the new one that the difference wraps around. -/
theorem stream_allowed_iff (settings : DuplicateSettings) (name : String) (rate : Int32)
    (limit : Int64) (hpos : 1 ≤ rate) (hlimit : tolerance rate = some limit)
    (headers : List DataPacketHeader) (hstream : Stream name rate headers)
    (calls : List (Int64 × DataPacket))
    (hcalls : List.Forall₂ (fun header call => DataPacketHeader.ofPacket call.2 = .ok header)
      headers calls) :
    (∀ e ∈ packetTester.history (fresh settings) calls, e.2 = true) ↔
      (samplePeriod rate < limit.toInt → (recorded settings headers).IsChain fun g header =>
        ¬ (g.nSamples = 1 ∧ header.nSamples = 1)) ∧
      ToPrevious (window settings (recorded settings headers)) (NoWrap limit)
        (recorded settings headers) := by
  have hsuffix : Stream name rate (recorded settings headers) :=
    hstream.of_infix (List.dropWhile_suffix _).isInfix
  have hfirst : ∀ first, (recorded settings headers).head? = some first →
      (fresh settings).Buildable first := fun _ => buildable_of_head_recorded
  rw [← hsuffix.unmatched_iff hpos hlimit hfirst]
  have hheaders : (∀ e ∈ headerTester.history (fresh settings) headers, e.2 ≠ .ok false) ↔
      ToPrevious (window settings (recorded settings headers))
        (fun g header => g.equals header ≠ .ok true) (recorded settings headers) := by
    rw [pass_iff_recorded_pass]
    refine headerTester.forall_history_iff_of_prefix (Q := fun answer => answer ≠ .ok false)
      (P := Trailing settings name (window settings (recorded settings headers))) ?_ ?_ .nothing
    · intro past impl header hpre htrailing
      exact (trailing_allow hsuffix hpos hlimit hfirst hpre htrailing).1
    · intro past impl header hpre htrailing hallowed
      exact (trailing_allow hsuffix hpos hlimit hfirst hpre htrailing).2 hallowed
  rw [← hheaders]
  symm
  refine headerTester.forall_history_iff_of_simulation (n := packetTester)
    (Q := fun answer => answer ≠ .ok false) (B := fun answer => answer = true)
    (R := AgreeOn name) ?_ ⟨rfl, rfl⟩
    ((List.forall₂_and_left _ _).mpr ⟨hstream.name_eq, hcalls⟩)
  rintro impl impl' header ⟨now, packet⟩ hagree ⟨rfl, hheader⟩
  obtain ⟨hnext, hanswer⟩ := hagree.allow
  obtain ⟨hstate, hverdict⟩ := TestDuplicateDataPacket.allow_of_header hheader impl' now
  refine ⟨⟨?_, ?_⟩, ?_⟩
  · change _ = (TestDuplicateDataPacket.allow impl' now packet).1.toDuplicateSettings
    rw [hstate, toDuplicateSettings_logBadData]
    exact hnext.settings
  · change _ = (TestDuplicateDataPacket.allow impl' now packet).1.mCircularBuffers _
    rw [hstate, mCircularBuffers_logBadData]
    exact hnext.buffer
  · change _ ↔ (TestDuplicateDataPacket.allow impl' now packet).2 = true
    rw [hverdict, ← hanswer]
    rfl

/-- Packets of two samples at 100 Hz pass, although the sample period is below the
    tolerance. -/
theorem fork_stream_allowed :
    samplePeriod 100 < (15000 : Int64).toInt ∧
    ∀ e ∈ packetTester.history (fresh {})
      [(0, .forkPacket (.double [.finite 1, .finite 2])),
        (1, (DataPacket.forkPacket (.double [.finite 3, .finite 4])).setStartTime 20000),
        (2, (DataPacket.forkPacket (.double [.finite 5, .finite 6])).setStartTime 40000)],
      e.2 = true := by
  have hwrap : ∀ g ∈ [forkHeader 0 10000 2, forkHeader 20000 30000 2, forkHeader 40000 50000 2],
      ∀ h ∈ [forkHeader 0 10000 2, forkHeader 20000 30000 2, forkHeader 40000 50000 2],
        NoWrap 15000 g h := by decide
  refine ⟨by decide +kernel, (stream_allowed_iff {} "UU.FORK.HHZ.01" 100 15000 (by decide)
    (by decide) [forkHeader 0 10000 2, forkHeader 20000 30000 2, forkHeader 40000 50000 2] ?_ _
    ?_).mpr ⟨fun _ => by decide, ?_⟩⟩
  · exact ⟨by decide, by decide, by decide, by decide +kernel, by decide +kernel⟩
  · refine .cons ?_ (.cons ?_ (.cons ?_ .nil)) <;> decide +kernel
  · intro past header hpre g hg
    have hsubset := hpre.subset
    exact hwrap g (hsubset (List.mem_append_left _ (mem_of_mem_rtake hg))) header
      (hsubset (by simp))

/-- A stream of one-sample packets at 100 Hz: the second comes 10000 microseconds after
    the first, the tolerance is 15000, and it is thrown away. -/
theorem fork_one_sample_stream_rejected :
    Stream "UU.FORK.HHZ.01" 100 [forkHeader 0 0 1, forkHeader 10000 10000 1] ∧
    List.Forall₂ (fun header call => DataPacketHeader.ofPacket call.2 = .ok header)
      [forkHeader 0 0 1, forkHeader 10000 10000 1]
      [((0 : Int64), forkOne), (1, forkOne.setStartTime 10000)] ∧
    (packetTester.history (fresh {}) [(0, forkOne), (1, forkOne.setStartTime 10000)]).map
      Prod.snd = [true, false] := by
  refine ⟨?_, ?_, by decide +kernel⟩
  · exact ⟨by decide, by decide, by decide, by decide +kernel, by decide +kernel⟩
  · refine .cons ?_ (.cons ?_ .nil) <;> decide +kernel

end Us8
