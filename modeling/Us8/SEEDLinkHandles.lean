/-
  Us8/SEEDLinkHandles.lean
  ========================
  **The handles of libslink are used while they live, and freed once.**

  `OwnerOp.next` is what the owner of a client knows before and after a step, about the
  reader and the handle, and says which steps need which knowledge.  Every call passes that
  check (`check_ops`), which only looks at the call's own steps; it is sound for every
  interleaving with the reader (`sound_step`).
-/
import Us8.SEEDLinkLifecycle

namespace Us8.SEEDLink

open ClientThreads

/-! ### What the owner knows -/

/-- Of the handle: that it is null or can be used, that it can be used, that it is null
    or has been freed, that it is null. -/
inductive HandleKnown where
  | any
  | held
  | released
  | null
deriving DecidableEq

/-- `trusted` says that an initialized client has its options and a handle that can be
    used. -/
structure Known where
  joined : Bool
  handle : HandleKnown
  optioned : Bool
  trusted : Bool

/-- What is known between two calls. -/
def Known.idle : Known := ⟨false, .any, false, true⟩

/-- What the owner knows after the step, if it knows enough before. -/
def OwnerOp.next (known : Known) : OwnerOp → Option Known
  | .terminate => if known.handle ≠ .released then some known else none
  | .setRunning _ => some known
  | .join => some { known with joined := true }
  | .requireInitialized =>
      if known.handle ≠ .released ∧ known.trusted then
        some { known with handle := .held, optioned := true }
      else none
  | .requireOptions =>
      if known.handle ≠ .released ∧ known.trusted then some { known with optioned := true }
      else none
  | .clearTerminate => if known.handle = .held then some known else none
  | .spawn =>
      if known.joined ∧ known.handle = .held ∧ known.optioned then
        some { known with joined := false }
      else none
  | .forgetOptions =>
      if known.joined then some { known with optioned := false, trusted := false } else none
  | .hangUp => if known.joined ∧ known.handle ≠ .released then some known else none
  | .saveState => if known.joined ∧ known.handle ≠ .released then some known else none
  | .free =>
      if known.joined ∧ known.handle ≠ .released then
        some { known with handle := .released, trusted := false }
      else none
  | .forget =>
      if known.joined ∧ known.handle = .released then
        some { known with handle := .null, trusted := false }
      else none
  | .forgetInitialized => some { known with trusted := true }
  | .create =>
      if known.joined ∧ known.handle = .null ∧ known.trusted then
        some { known with handle := .held }
      else none
  | .setServerAddress =>
      if known.joined ∧ known.handle = .held ∧ known.trusted then some known else none
  | .takeStateFile _ => some known
  | .addStream _ => if known.handle = .held then some known else none
  | .setAllStations =>
      if known.joined ∧ known.handle = .held ∧ known.trusted then some known else none
  | .setModes => if known.handle = .held then some known else none
  | .finish _ =>
      if known.handle = .held then some { known with optioned := true, trusted := true } else none
  | .destroyed => none

/-- The steps are taken with enough knowledge, up to the state between two calls or the
    client's end. -/
def check : Known → List OwnerOp → Bool
  | known, [] => known.handle ≠ .released ∧ known.trusted
  | known, [.destroyed] => known.joined ∧ known.handle = .null
  | known, op :: rest =>
      match op.next known with
      | some known => check known rest
      | none => false

/-- A list that passes the check ends the client, or begins with a step that is allowed and
    goes on with one that passes. -/
theorem check_cons {known : Known} {op : OwnerOp} {rest : List OwnerOp}
    (h : check known (op :: rest) = true) :
    (op = .destroyed ∧ rest = [] ∧ known.joined = true ∧ known.handle = .null) ∨
      ∃ known', op.next known = some known' ∧ check known' rest = true := by
  cases op with
  | destroyed =>
    cases rest with
    | nil =>
      left
      simpa [check] using h
    | cons other rest => simp [check, OwnerOp.next] at h
  | _ =>
    right
    simp only [check] at h
    split at h
    · next known' hnext => exact ⟨known', hnext, h⟩
    · cases h

theorem check_append_addStream (selectors : List StreamSelector) (known : Known)
    (hheld : known.handle = .held) (rest : List OwnerOp) :
    check known (selectors.map .addStream ++ rest) = check known rest := by
  induction selectors with
  | nil => rfl
  | cons selector selectors ih => simp [check, OwnerOp.next, hheld, ih]

/-- Initializing is fine once the reader has been joined. -/
theorem check_initializeOps (options : ClientOptions) (handle : HandleKnown)
    (hhandle : handle ≠ .released) (optioned trusted : Bool) :
    check ⟨true, handle, optioned, trusted⟩ (initializeOps options) = true := by
  simp [initializeOps, disconnectOps, check, OwnerOp.next, hhandle, check_append_addStream]

theorem check_destroyOps {known : Known} (hhandle : known.handle ≠ .released) :
    check known destroyOps = true := by
  simp [destroyOps, stopOps, disconnectOps, check, OwnerOp.next, hhandle]

/-- Every call passes. -/
theorem check_ops (mOptions : ClientOptions) (call : ClientCall) :
    check .idle (call.ops mOptions) = true := by
  cases call with
  | start => simp [ClientCall.ops, startOps, stopOps, check, OwnerOp.next, Known.idle]
  | stop => simp [ClientCall.ops, stopOps, check, OwnerOp.next, Known.idle]
  | connect =>
    have hinitialize := check_initializeOps mOptions .any (by decide) true true
    simpa [ClientCall.ops, connectOps, stopOps, check, OwnerOp.next, Known.idle] using hinitialize
  | destroy => exact check_destroyOps (by decide)

/-! ### What the knowledge means -/

section Meaning

variable {σ : Type}

def HandleKnown.Describes (client : ClientThreads σ) : HandleKnown → Prop
  | .any => ∀ handle, client.mSEEDLinkConnection = some handle → client.Live handle
  | .held => client.holding = true
  | .released => ∀ handle, client.mSEEDLinkConnection = some handle → handle ∈ client.freed
  | .null => client.mSEEDLinkConnection = none

structure Known.Describes (known : Known) (client : ClientThreads σ) : Prop where
  joined : known.joined = true → client.reader = .none
  handle : known.handle.Describes client
  optioned : known.optioned = true → client.mHaveOptions = true
  trusted : known.trusted = true → client.mInitialized = true →
    client.holding = true ∧ client.mHaveOptions = true

/-- What holds of the threads and the handles, whatever the owner is doing. -/
structure Memory (client : ClientThreads σ) : Prop where
  notMisused : client.misused = false
  reader : client.reader.running = true → client.holding = true
  connected : client.mConnected = true → client.reader.running = true
  optioned : client.mHaveOptions = false → client.reader = .none
  freedOnce : client.freed.Nodup
  freedCreated : ∀ handle ∈ client.freed, handle < client.created
  kept : ∀ handle, handle < client.created →
    handle ∈ client.freed ∨ client.mSEEDLinkConnection = some handle

variable {client next : ClientThreads σ}

theorem useIfAny_of_any (h : HandleKnown.any.Describes client) : client.useIfAny = client := by
  unfold useIfAny
  split_ifs with hsome
  · rcases Option.isSome_iff_exists.mp hsome with ⟨handle, hhandle⟩
    exact use_of_holding (holding_iff.mpr ⟨handle, hhandle, h handle hhandle⟩)
  · rfl

theorem HandleKnown.Describes.any {known : HandleKnown} (h : known.Describes client)
    (hne : known ≠ .released) : HandleKnown.any.Describes client := by
  intro handle hhandle
  cases known with
  | any => exact h handle hhandle
  | held =>
    rcases holding_iff.mp h with ⟨own, hown, hlive⟩
    rw [hown, Option.some.injEq] at hhandle
    exact hhandle ▸ hlive
  | released => exact absurd rfl hne
  | null =>
    have hnone : client.mSEEDLinkConnection = none := h
    rw [hnone] at hhandle
    cases hhandle

/-! ### Steps that leave the handles alone -/

/-- The handle that is held is the same, and so is what was created, freed and misused. -/
structure SameHandles (client next : ClientThreads σ) : Prop where
  handle : next.mSEEDLinkConnection = client.mSEEDLinkConnection
  created : next.created = client.created
  freed : next.freed = client.freed
  misused : next.misused = client.misused

theorem SameHandles.live_iff (h : SameHandles client next) (handle : Nat) :
    next.Live handle ↔ client.Live handle := by
  unfold Live
  rw [h.created, h.freed]

theorem SameHandles.holding_iff (h : SameHandles client next) :
    next.holding = true ↔ client.holding = true := by
  rw [SEEDLink.holding_iff, SEEDLink.holding_iff, h.handle]
  simp only [h.live_iff]

theorem SameHandles.describes {known : HandleKnown} (h : SameHandles client next)
    (hknown : known.Describes client) : known.Describes next := by
  cases known with
  | any =>
    intro handle hhandle
    rw [h.handle] at hhandle
    exact (h.live_iff handle).mpr (hknown handle hhandle)
  | held => exact h.holding_iff.mpr hknown
  | released =>
    intro handle hhandle
    rw [h.handle] at hhandle
    rw [h.freed]
    exact hknown handle hhandle
  | null => exact h.handle.trans hknown

theorem Memory.of_same (h : Memory client) (hsame : SameHandles client next)
    (hreader : next.reader.running = true → client.reader.running = true)
    (hconnected : next.mConnected = true → next.reader.running = true)
    (hoptioned : next.mHaveOptions = false → next.reader = .none) : Memory next := by
  refine ⟨hsame.misused.trans h.notMisused, ?_, hconnected, hoptioned, ?_, ?_, ?_⟩
  · intro hrunning
    exact hsame.holding_iff.mpr (h.reader (hreader hrunning))
  · rw [hsame.freed]
    exact h.freedOnce
  · rw [hsame.freed, hsame.created]
    exact h.freedCreated
  · rw [hsame.freed, hsame.created, hsame.handle]
    exact h.kept

theorem Known.Describes.of_same {known : Known} (h : known.Describes client)
    (hsame : SameHandles client next) (hreader : client.reader = .none → next.reader = .none)
    (hoptions : next.mHaveOptions = client.mHaveOptions)
    (hinitialized : next.mInitialized = client.mInitialized) : known.Describes next := by
  refine ⟨fun hjoined => hreader (h.joined hjoined), hsame.describes h.handle, ?_, ?_⟩
  · rw [hoptions]
    exact h.optioned
  · rw [hoptions, hinitialized, hsame.holding_iff]
    exact h.trusted

/-! ### One step of the owner -/

/-- The handle that is held is freed, if there is one. -/
theorem Memory.free (h : Memory client) (hany : HandleKnown.any.Describes client)
    (hjoined : client.reader = .none) : Memory client.freeIfAny ∧
      HandleKnown.released.Describes client.freeIfAny := by
  unfold freeIfAny
  cases hhandle : client.mSEEDLinkConnection with
  | none =>
    refine ⟨h, ?_⟩
    intro handle hsome
    rw [hhandle] at hsome
    cases hsome
  | some handle =>
    rcases hany handle hhandle with ⟨hcreated, hfresh⟩
    dsimp only
    rw [use_of_holding (holding_iff.mpr ⟨handle, hhandle, hcreated, hfresh⟩)]
    refine ⟨⟨h.notMisused, ?_, h.connected, h.optioned, ?_, ?_, ?_⟩, ?_⟩
    · intro hrunning
      rw [hjoined] at hrunning
      cases hrunning
    · exact List.nodup_cons.mpr ⟨hfresh, h.freedOnce⟩
    · intro other hother
      rcases List.mem_cons.mp hother with rfl | hother
      · exact hcreated
      · exact h.freedCreated other hother
    · intro other hother
      rcases h.kept other hother with hfreed | hheld
      · exact Or.inl (List.mem_cons_of_mem _ hfreed)
      · rw [hhandle, Option.some.injEq] at hheld
        exact Or.inl (by simp [hheld])
    · intro other hother
      have hsame : handle = other := Option.some.inj (hhandle.symm.trans hother)
      simp [hsame]

theorem freeIfAny_keeps : client.freeIfAny.reader = client.reader ∧
    client.freeIfAny.mHaveOptions = client.mHaveOptions := by
  unfold freeIfAny use
  split
  · exact ⟨rfl, rfl⟩
  · exact ⟨rfl, rfl⟩

theorem Memory.forget (h : Memory client) (hreleased : HandleKnown.released.Describes client)
    (hjoined : client.reader = .none) :
    Memory { client with mSEEDLinkConnection := none } := by
  refine ⟨h.notMisused, ?_, h.connected, h.optioned, h.freedOnce, h.freedCreated, ?_⟩
  · intro hrunning
    rw [hjoined] at hrunning
    cases hrunning
  · intro handle hcreated
    rcases h.kept handle hcreated with hfreed | hheld
    · exact Or.inl hfreed
    · exact Or.inl (hreleased handle hheld)

/-- A new handle takes the place of none. -/
theorem Memory.create (h : Memory client) (hnull : client.mSEEDLinkConnection = none)
    (hjoined : client.reader = .none)
    (hhandle : next.mSEEDLinkConnection = some client.created)
    (hcreated : next.created = client.created + 1) (hfreed : next.freed = client.freed)
    (hmisused : next.misused = client.misused) (hreader : next.reader = client.reader)
    (hconnected : next.mConnected = client.mConnected)
    (hoptions : next.mHaveOptions = client.mHaveOptions) :
    Memory next ∧ next.holding = true := by
  have hfresh : client.created ∉ client.freed := by
    intro hmem
    exact absurd (h.freedCreated _ hmem) (Nat.lt_irrefl _)
  refine ⟨⟨hmisused.trans h.notMisused, ?_, ?_, ?_, ?_, ?_, ?_⟩, ?_⟩
  · intro hrunning
    rw [hreader, hjoined] at hrunning
    cases hrunning
  · rw [hconnected, hreader]
    exact h.connected
  · rw [hoptions, hreader]
    exact h.optioned
  · rw [hfreed]
    exact h.freedOnce
  · intro handle hmem
    rw [hfreed] at hmem
    rw [hcreated]
    exact Nat.lt_succ_of_lt (h.freedCreated handle hmem)
  · intro handle hlt
    rw [hcreated] at hlt
    rw [hfreed, hhandle]
    rcases Nat.lt_succ_iff_lt_or_eq.mp hlt with hbefore | rfl
    · rcases h.kept handle hbefore with hmem | hheld
      · exact Or.inl hmem
      · rw [hnull] at hheld
        cases hheld
    · exact Or.inr rfl
  · refine holding_iff.mpr ⟨client.created, hhandle, ?_, ?_⟩
    · rw [hcreated]
      exact Nat.lt_succ_self _
    · rw [hfreed]
      exact hfresh

theorem Memory.spawn (h : Memory client) (hheld : client.holding = true)
    (hjoined : client.reader = .none) (hoptions : client.mHaveOptions = true) :
    Memory
      { client with
        misused := client.misused || match client.reader with | .none => false | _ => true
        reader := .entering
        updateStateFile := 1 } := by
  refine ⟨?_, fun _ => hheld, fun _ => rfl, ?_, h.freedOnce, h.freedCreated, h.kept⟩
  · rw [hjoined]
    simpa using h.notMisused
  · intro hnone
    dsimp only at hnone
    rw [hoptions] at hnone
    cases hnone

theorem Memory.join (h : Memory client) (hended : client.reader.running = false) :
    Memory { client with reader := .none } := by
  refine h.of_same ⟨rfl, rfl, rfl, rfl⟩ ?_ ?_ (fun _ => rfl)
  · intro hrunning
    cases hrunning
  · intro hconnected
    rw [h.connected hconnected] at hended
    cases hended

/-- The steps that only use the handle. -/
def OwnerOp.looks : OwnerOp → Bool
  | .terminate => true
  | .clearTerminate => true
  | .hangUp => true
  | .saveState => true
  | .setServerAddress => true
  | .setAllStations => true
  | .setModes => true
  | _ => false

/-- A step that only uses the handle changes nothing when the owner may take it. -/
theorem eq_of_looks {known known' : Known} (hknown : known.Describes client) {op : OwnerOp}
    (hlooks : op.looks = true) (hnext : op.next known = some known') {ok : Bool}
    (hrun : op.run client ok = .next next) : next = client ∧ known' = known := by
  have hany (hne : known.handle ≠ .released) : client.useIfAny = client :=
    useIfAny_of_any (hknown.handle.any hne)
  have hheld (heq : known.handle = .held) : client.use = client := by
    have hhandle := hknown.handle
    rw [heq] at hhandle
    exact use_of_holding hhandle
  cases op with
  | terminate =>
    simp only [OwnerOp.next] at hnext
    split_ifs at hnext with hguard
    cases hnext
    simp only [OwnerOp.run, hany hguard, ite_self] at hrun
    cases hrun
    exact ⟨rfl, rfl⟩
  | clearTerminate =>
    simp only [OwnerOp.next] at hnext
    split_ifs at hnext with hguard
    cases hnext
    simp only [OwnerOp.run, hheld hguard] at hrun
    cases hrun
    exact ⟨rfl, rfl⟩
  | hangUp =>
    simp only [OwnerOp.next] at hnext
    split_ifs at hnext with hguard
    cases hnext
    simp only [OwnerOp.run, hany hguard.2] at hrun
    cases hrun
    exact ⟨rfl, rfl⟩
  | saveState =>
    simp only [OwnerOp.next] at hnext
    split_ifs at hnext with hguard
    cases hnext
    simp only [OwnerOp.run, hany hguard.2, ite_self] at hrun
    cases hrun
    exact ⟨rfl, rfl⟩
  | setServerAddress =>
    simp only [OwnerOp.next] at hnext
    split_ifs at hnext with hguard
    cases hnext
    simp only [OwnerOp.run, hheld hguard.2.1] at hrun
    split_ifs at hrun
    cases hrun
    exact ⟨rfl, rfl⟩
  | setAllStations =>
    simp only [OwnerOp.next] at hnext
    split_ifs at hnext with hguard
    cases hnext
    simp only [OwnerOp.run, hheld hguard.2.1] at hrun
    split_ifs at hrun
    · cases hrun
      exact ⟨rfl, rfl⟩
    · cases hrun
      exact ⟨rfl, rfl⟩
  | setModes =>
    simp only [OwnerOp.next] at hnext
    split_ifs at hnext with hguard
    cases hnext
    simp only [OwnerOp.run, hheld hguard] at hrun
    cases hrun
    exact ⟨rfl, rfl⟩
  | _ => cases hlooks

/-- What the owner knows is so after the step, when it was so before. -/
def OwnerOp.Keeps (σ : Type) (op : OwnerOp) : Prop :=
  ∀ {client next : ClientThreads σ} {known known' : Known} {ok : Bool}, Memory client →
    known.Describes client → op.next known = some known' → op.run client ok = .next next →
    Memory next ∧ known'.Describes next

theorem keeps_of_looks {op : OwnerOp} (hlooks : op.looks = true) : op.Keeps σ := by
  intro client next known known' ok h hknown hnext hrun
  rcases eq_of_looks hknown hlooks hnext hrun with ⟨rfl, rfl⟩
  exact ⟨h, hknown⟩

theorem keeps_setRunning (running : Bool) : (OwnerOp.setRunning running).Keeps σ := by
  intro client next known known' ok h hknown hnext hrun
  cases hnext
  cases hrun
  exact ⟨h.of_same ⟨rfl, rfl, rfl, rfl⟩ id h.connected h.optioned,
    hknown.of_same ⟨rfl, rfl, rfl, rfl⟩ id rfl rfl⟩

theorem keeps_join : OwnerOp.join.Keeps σ := by
  intro client next known known' ok h hknown hnext hrun
  cases hnext
  simp only [OwnerOp.run] at hrun
  split_ifs at hrun with hrunning
  cases hrun
  have hafter : known.Describes { client with reader := .none } :=
    hknown.of_same ⟨rfl, rfl, rfl, rfl⟩ (fun _ => rfl) rfl rfl
  exact ⟨h.join (by simpa using hrunning), fun _ => rfl, hafter.handle, hafter.optioned,
    hafter.trusted⟩

theorem keeps_requireInitialized : OwnerOp.requireInitialized.Keeps σ := by
  intro client next known known' ok h hknown hnext hrun
  simp only [OwnerOp.next] at hnext
  split_ifs at hnext with hguard
  cases hnext
  simp only [OwnerOp.run] at hrun
  split_ifs at hrun with hinitialized
  cases hrun
  rcases hknown.trusted hguard.2 hinitialized with ⟨hheld, hoptions⟩
  exact ⟨h, hknown.joined, hheld, fun _ => hoptions, hknown.trusted⟩

theorem keeps_requireOptions : OwnerOp.requireOptions.Keeps σ := by
  intro client next known known' ok h hknown hnext hrun
  simp only [OwnerOp.next] at hnext
  split_ifs at hnext with hguard
  cases hnext
  simp only [OwnerOp.run] at hrun
  split_ifs at hrun with hoptions
  cases hrun
  exact ⟨h, hknown.joined, hknown.handle, fun _ => hoptions, hknown.trusted⟩

theorem keeps_spawn : OwnerOp.spawn.Keeps σ := by
  intro client next known known' ok h hknown hnext hrun
  simp only [OwnerOp.next] at hnext
  split_ifs at hnext with hguard
  cases hnext
  cases hrun
  rcases hguard with ⟨hjoined, hheld, hoptioned⟩
  have hhandle := hknown.handle
  rw [hheld] at hhandle
  refine ⟨h.spawn hhandle (hknown.joined hjoined) (hknown.optioned hoptioned), by simp, ?_,
    hknown.optioned, hknown.trusted⟩
  rw [hheld]
  exact hhandle

theorem keeps_forgetOptions : OwnerOp.forgetOptions.Keeps σ := by
  intro client next known known' ok h hknown hnext hrun
  simp only [OwnerOp.next] at hnext
  split_ifs at hnext with hjoined
  cases hnext
  cases hrun
  have hsame : SameHandles client { client with mHaveOptions := false } :=
    ⟨rfl, rfl, rfl, rfl⟩
  exact ⟨h.of_same hsame id h.connected fun _ => hknown.joined hjoined, hknown.joined,
    hsame.describes hknown.handle, by simp, by simp⟩

theorem keeps_free : OwnerOp.free.Keeps σ := by
  intro client next known known' ok h hknown hnext hrun
  simp only [OwnerOp.next] at hnext
  split_ifs at hnext with hguard
  cases hnext
  cases hrun
  rcases h.free (hknown.handle.any hguard.2) (hknown.joined hguard.1) with ⟨hmemory, hreleased⟩
  rcases @freeIfAny_keeps σ client with ⟨hreader, hoptions⟩
  refine ⟨hmemory, fun hjoined => hreader.trans (hknown.joined hjoined), hreleased, ?_, by simp⟩
  intro hoptioned
  exact hoptions.trans (hknown.optioned hoptioned)

theorem keeps_forget : OwnerOp.forget.Keeps σ := by
  intro client next known known' ok h hknown hnext hrun
  simp only [OwnerOp.next] at hnext
  split_ifs at hnext with hguard
  cases hnext
  cases hrun
  have hhandle := hknown.handle
  rw [hguard.2] at hhandle
  exact ⟨h.forget hhandle (hknown.joined hguard.1), hknown.joined, rfl, hknown.optioned, by simp⟩

theorem keeps_forgetInitialized : OwnerOp.forgetInitialized.Keeps σ := by
  intro client next known known' ok h hknown hnext hrun
  cases hnext
  cases hrun
  have hsame : SameHandles client { client with mInitialized := false } :=
    ⟨rfl, rfl, rfl, rfl⟩
  exact ⟨h.of_same hsame id h.connected h.optioned, hknown.joined,
    hsame.describes hknown.handle, hknown.optioned, by simp⟩

theorem keeps_create : OwnerOp.create.Keeps σ := by
  intro client next known known' ok h hknown hnext hrun
  simp only [OwnerOp.next] at hnext
  split_ifs at hnext with hguard
  cases hnext
  simp only [OwnerOp.run] at hrun
  split_ifs at hrun
  cases hrun
  rcases hguard with ⟨hjoined, hnull, htrusted⟩
  have hhandle := hknown.handle
  rw [hnull] at hhandle
  have hcreate := @Memory.create σ client
    { client with
      mSEEDLinkConnection := some client.created
      created := client.created + 1
      hasStreams := false } h hhandle (hknown.joined hjoined) rfl rfl rfl rfl rfl rfl rfl
  rcases hcreate with ⟨hmemory, hheld⟩
  refine ⟨hmemory, hknown.joined, hheld, hknown.optioned, ?_⟩
  intro _ hinitialized
  exact ⟨hheld, (hknown.trusted htrusted hinitialized).2⟩

theorem keeps_takeStateFile (options : ClientOptions) :
    (OwnerOp.takeStateFile options).Keeps σ := by
  intro client next known known' ok h hknown hnext hrun
  cases hnext
  simp only [OwnerOp.run] at hrun
  split_ifs at hrun
  · cases hrun
    exact ⟨h.of_same ⟨rfl, rfl, rfl, rfl⟩ id h.connected h.optioned,
      hknown.of_same ⟨rfl, rfl, rfl, rfl⟩ id rfl rfl⟩
  · cases hrun
    exact ⟨h, hknown⟩

theorem keeps_addStream (selector : StreamSelector) : (OwnerOp.addStream selector).Keeps σ := by
  intro client next known known' ok h hknown hnext hrun
  simp only [OwnerOp.next] at hnext
  split_ifs at hnext with hheld
  cases hnext
  have hhandle := hknown.handle
  rw [hheld] at hhandle
  simp only [OwnerOp.run, use_of_holding hhandle] at hrun
  cases hrun
  exact ⟨h.of_same ⟨rfl, rfl, rfl, rfl⟩ id h.connected h.optioned,
    hknown.of_same ⟨rfl, rfl, rfl, rfl⟩ id rfl rfl⟩

theorem keeps_finish (options : ClientOptions) : (OwnerOp.finish options).Keeps σ := by
  intro client next known known' ok h hknown hnext hrun
  simp only [OwnerOp.next] at hnext
  split_ifs at hnext with hheld
  cases hnext
  cases hrun
  have hhandle := hknown.handle
  rw [hheld] at hhandle
  have hsame : SameHandles client
      { client with
        mOptions := options
        mInitialized := true
        mHaveOptions := true
        onThrow := [] } :=
    ⟨rfl, rfl, rfl, rfl⟩
  refine ⟨h.of_same hsame id h.connected (by simp), hknown.joined,
    hsame.describes hknown.handle, fun _ => rfl, ?_⟩
  intro _ _
  exact ⟨hhandle, rfl⟩

theorem keeps (op : OwnerOp) : op.Keeps σ := by
  cases op with
  | terminate => exact keeps_of_looks rfl
  | clearTerminate => exact keeps_of_looks rfl
  | hangUp => exact keeps_of_looks rfl
  | saveState => exact keeps_of_looks rfl
  | setServerAddress => exact keeps_of_looks rfl
  | setAllStations => exact keeps_of_looks rfl
  | setModes => exact keeps_of_looks rfl
  | setRunning running => exact keeps_setRunning running
  | join => exact keeps_join
  | requireInitialized => exact keeps_requireInitialized
  | requireOptions => exact keeps_requireOptions
  | spawn => exact keeps_spawn
  | forgetOptions => exact keeps_forgetOptions
  | free => exact keeps_free
  | forget => exact keeps_forget
  | forgetInitialized => exact keeps_forgetInitialized
  | create => exact keeps_create
  | takeStateFile options => exact keeps_takeStateFile options
  | addStream selector => exact keeps_addStream selector
  | finish options => exact keeps_finish options
  | destroyed =>
    intro client next known known' ok _ _ hnext _
    cases hnext

/-- A step that throws leaves all as it is, and the owner knows as much as between calls. -/
theorem known_of_throws {known known' : Known} {op : OwnerOp} (hnext : op.next known = some known')
    {ok : Bool} (hrun : op.run client ok = .throws) :
    known.handle ≠ .released ∧ known.trusted = true := by
  cases op with
  | requireInitialized =>
    simp only [OwnerOp.next] at hnext
    split_ifs at hnext with hguard
    exact hguard
  | requireOptions =>
    simp only [OwnerOp.next] at hnext
    split_ifs at hnext with hguard
    exact hguard
  | create =>
    simp only [OwnerOp.next] at hnext
    split_ifs at hnext with hguard
    exact ⟨by simp [hguard.2.1], hguard.2.2⟩
  | setServerAddress =>
    simp only [OwnerOp.next] at hnext
    split_ifs at hnext with hguard
    exact ⟨by simp [hguard.2.1], hguard.2.2⟩
  | setAllStations =>
    simp only [OwnerOp.next] at hnext
    split_ifs at hnext with hguard
    exact ⟨by simp [hguard.2.1], hguard.2.2⟩
  | join =>
    simp only [OwnerOp.run] at hrun
    split_ifs at hrun
  | takeStateFile options =>
    simp only [OwnerOp.run] at hrun
    split_ifs at hrun
  | _ => cases hrun

/-! ### One step of the reader -/

/-- What a step of the reader leaves to the owner, and what it makes of the reader. -/
structure ReaderKeeps (client next : ClientThreads σ) : Prop where
  same : SameHandles client next
  mInitialized : next.mInitialized = client.mInitialized
  mHaveOptions : next.mHaveOptions = client.mHaveOptions
  owner : next.owner = client.owner
  onThrow : next.onThrow = client.onThrow
  alive : next.alive = client.alive
  called : next.called = client.called
  joined : client.reader = .none → next.reader = .none
  running : next.reader.running = true → client.reader.running = true
  connected : next.mConnected = true → next.reader.running = true

variable {lib : BoundedLibMseed}
  {mAddPacketFunction : σ → DataPacket → σ × Option StdException}

theorem saveIfDue_eq (hheld : client.holding = true) :
    ∃ updateStateFile, client.saveIfDue = { client with updateStateFile := updateStateFile } := by
  unfold saveIfDue
  rw [use_of_holding hheld]
  split_ifs
  · exact ⟨_, rfl⟩
  · exact ⟨_, rfl⟩
  · exact ⟨_, rfl⟩

theorem ReaderKeeps.of_running (hrunning : client.reader.running = true) (reader : ReaderPc)
    (mConnected : Bool) (receiver : σ) (updateStateFile : Int)
    (hconnected : mConnected = true → reader.running = true) :
    ReaderKeeps client
      { client with
        reader := reader
        mConnected := mConnected
        receiver := receiver
        updateStateFile := updateStateFile } := by
  refine ⟨⟨rfl, rfl, rfl, rfl⟩, rfl, rfl, rfl, rfl, rfl, rfl, ?_, fun _ => hrunning, hconnected⟩
  intro hnone
  rw [hnone] at hrunning
  cases hrunning

/-- A reader that runs holds the handle, and so its uses change nothing. -/
theorem readerStep_keeps (h : Memory client) (collected : Collected) :
    ReaderKeeps client (client.readerStep lib mAddPacketFunction collected) := by
  have huse (hrunning : client.reader.running = true) : client.use = client :=
    use_of_holding (h.reader hrunning)
  cases hreader : client.reader with
  | none =>
    simp only [readerStep, hreader]
    exact ⟨⟨rfl, rfl, rfl, rfl⟩, rfl, rfl, rfl, rfl, rfl, rfl, fun _ => hreader, id, h.connected⟩
  | ended =>
    simp only [readerStep, hreader]
    exact ⟨⟨rfl, rfl, rfl, rfl⟩, rfl, rfl, rfl, rfl, rfl, rfl, id, id, h.connected⟩
  | entering =>
    simp only [readerStep, hreader]
    exact .of_running (by simp [hreader]) _ _ _ _ (fun _ => rfl)
  | recovering =>
    simp only [readerStep, hreader, huse (by simp [hreader]), ite_self]
    exact .of_running (by simp [hreader]) _ _ _ _ (fun _ => rfl)
  | loopTop =>
    simp only [readerStep, hreader]
    apply ReaderKeeps.of_running (by simp [hreader])
    intro _
    split_ifs
    · rfl
    · rfl
  | collect =>
    simp only [readerStep, hreader, huse (by simp [hreader])]
    cases collected with
    | slPacket seedLinkPacketInfo seedLinkBuffer =>
      dsimp only
      split_ifs
      · exact .of_running (by simp [hreader]) _ _ _ _ (fun _ => rfl)
      · exact .of_running (by simp [hreader]) _ _ _ _ (fun _ => rfl)
    | slTerminate => exact .of_running (by simp [hreader]) _ _ _ _ (by intro h; cases h)
    | slTooLarge => exact .of_running (by simp [hreader]) _ _ _ _ (fun _ => rfl)
    | slNoPacket => exact .of_running (by simp [hreader]) _ _ _ _ (fun _ => rfl)
    | unhandled returnValue => exact .of_running (by simp [hreader]) _ _ _ _ (fun _ => rfl)
  | callback packets =>
    cases packets with
    | nil =>
      simp only [readerStep, hreader]
      exact .of_running (by simp [hreader]) _ _ _ _ (fun _ => rfl)
    | cons packet packets =>
      simp only [readerStep, hreader]
      exact .of_running (by simp [hreader]) _ _ _ _ (fun _ => rfl)
  | saving =>
    rcases saveIfDue_eq (h.reader (by simp [hreader])) with ⟨updateStateFile, hsaved⟩
    simp only [readerStep, hreader, hsaved]
    exact .of_running (by simp [hreader]) _ _ _ _ (fun _ => rfl)
  | leaving =>
    simp only [readerStep, hreader]
    exact .of_running (by simp [hreader]) _ _ _ _ (by intro h; cases h)

theorem ReaderKeeps.memory (hkeeps : ReaderKeeps client next) (h : Memory client) :
    Memory next := by
  apply h.of_same hkeeps.same hkeeps.running hkeeps.connected
  intro hoptions
  apply hkeeps.joined
  apply h.optioned
  rw [← hkeeps.mHaveOptions]
  exact hoptions

theorem ReaderKeeps.describes {known : Known} (hkeeps : ReaderKeeps client next)
    (hknown : known.Describes client) : known.Describes next :=
  hknown.of_same hkeeps.same hkeeps.joined hkeeps.mHaveOptions hkeeps.mInitialized

/-! ### Every run -/

theorem beginCall_cases (client : ClientThreads σ) (call : ClientCall) :
    (client.owner = [] ∧ client.alive = true ∧ client.beginCall call =
      { client with owner := call.ops client.mOptions, called := some call }) ∨
    client.beginCall call = client := by
  unfold ClientThreads.beginCall
  split
  · next howner halive => exact Or.inl ⟨howner, halive, rfl⟩
  · exact Or.inr rfl

theorem ownerStep_cases (client : ClientThreads σ) (ok : Bool) :
    (∃ op rest next, client.owner = op :: rest ∧ op.run client ok = .next next ∧
      client.ownerStep ok = { next with owner := rest }) ∨
    (∃ op rest, client.owner = op :: rest ∧ op.run client ok = .throws ∧
      client.ownerStep ok = { client with owner := client.onThrow, onThrow := [] }) ∨
    client.ownerStep ok = client := by
  unfold ClientThreads.ownerStep
  cases client.owner with
  | nil => exact Or.inr (Or.inr rfl)
  | cons op rest =>
    cases hrun : op.run client ok with
    | next next =>
      refine Or.inl ⟨op, rest, next, rfl, hrun, ?_⟩
      simp only [hrun]
    | throws =>
      refine Or.inr (Or.inl ⟨op, rest, rfl, hrun, ?_⟩)
      simp only [hrun]
    | blocked =>
      right
      right
      simp only [hrun]

/-- The owner is on its way through a call with enough knowledge for what is left of it; a
    client that is gone has neither a handle nor a reader. -/
structure Sound (client : ClientThreads σ) : Prop where
  memory : Memory client
  alive : client.alive = true → ∃ known : Known, known.Describes client ∧
    check known client.owner = true
  onThrow : client.onThrow = [] ∨ client.onThrow = destroyOps
  gone : client.alive = false → client.owner = [] ∧ client.reader = .none ∧
    client.mSEEDLinkConnection = none

theorem sound_construct (options : ClientOptions) (receiver : σ) :
    Sound (construct options receiver) := by
  refine ⟨?_, ?_, Or.inr rfl, nofun⟩
  · exact ⟨rfl, nofun, nofun, fun _ => rfl, List.nodup_nil, nofun,
      fun handle hlt => absurd hlt (Nat.not_lt_zero handle)⟩
  · intro _
    refine ⟨⟨true, .null, false, true⟩, ⟨fun _ => rfl, rfl, nofun, nofun⟩, ?_⟩
    exact check_initializeOps options .null (by decide) false true

/-- Between two calls the owner knows what every call needs. -/
theorem describes_idle {known : Known} (hknown : known.Describes client)
    (hcheck : check known [] = true) : Known.idle.Describes client := by
  have hidle : known.handle ≠ .released ∧ known.trusted = true := by simpa [check] using hcheck
  exact ⟨nofun, hknown.handle.any hidle.1, nofun, fun _ => hknown.trusted hidle.2⟩

theorem Sound.beginCall (h : Sound client) (call : ClientCall) : Sound (client.beginCall call) := by
  rcases beginCall_cases client call with ⟨howner, halive, hbegun⟩ | hsame
  · rcases h.alive halive with ⟨known, hknown, hcheck⟩
    rw [howner] at hcheck
    rcases describes_idle hknown hcheck with ⟨hjoined, hhandle, hoptioned, htrusted⟩
    have hsame : SameHandles client
        { client with owner := call.ops client.mOptions, called := some call } :=
      ⟨rfl, rfl, rfl, rfl⟩
    rw [hbegun]
    refine ⟨h.memory.of_same hsame id h.memory.connected h.memory.optioned, ?_, h.onThrow, ?_⟩
    · intro _
      exact ⟨.idle, ⟨hjoined, hsame.describes hhandle, hoptioned, htrusted⟩,
        check_ops _ call⟩
    · intro hgone
      dsimp only at hgone
      rw [halive] at hgone
      cases hgone
  · rw [hsame]
    exact h

def OwnerOp.finishes : OwnerOp → Bool
  | .finish _ => true
  | _ => false

/-- What a step of the owner leaves as it is, and which steps do not. -/
structure OwnerKeeps (op : OwnerOp) (client next : ClientThreads σ) : Prop where
  alive : op ≠ .destroyed → next.alive = client.alive
  onThrow : next.onThrow = [] ∨ next.onThrow = client.onThrow
  joined : op ≠ .spawn → client.reader = .none → next.reader = .none
  receiver : next.receiver = client.receiver
  created : op ≠ .create → next.created = client.created
  optioned : op.finishes = false → next.mHaveOptions = true → client.mHaveOptions = true
  initialized : op.finishes = false → next.mInitialized = true → client.mInitialized = true
  called : next.called = client.called

theorem OwnerKeeps.rfl (op : OwnerOp) : OwnerKeeps op client client :=
  ⟨fun _ => Eq.refl _, Or.inr (Eq.refl _), fun _ => id, Eq.refl _, fun _ => Eq.refl _,
    fun _ => id, fun _ => id, Eq.refl _⟩

theorem OwnerKeeps.useIfAny (op : OwnerOp) : OwnerKeeps op client client.useIfAny := by
  unfold ClientThreads.useIfAny use
  split_ifs
  · exact ⟨fun _ => Eq.refl _, Or.inr (Eq.refl _), fun _ => id, Eq.refl _, fun _ => Eq.refl _,
      fun _ => id, fun _ => id, Eq.refl _⟩
  · exact .rfl op

theorem owner_keeps {op : OwnerOp} {ok : Bool} (hrun : op.run client ok = .next next) :
    OwnerKeeps op client next := by
  cases op with
  | destroyed =>
    cases hrun
    exact ⟨fun hne => absurd rfl hne, Or.inr rfl, fun _ => id, rfl, fun _ => rfl, fun _ => id,
      fun _ => id, rfl⟩
  | spawn =>
    cases hrun
    exact ⟨fun _ => rfl, Or.inr rfl, fun hne => absurd rfl hne, rfl, fun _ => rfl, fun _ => id,
      fun _ => id, rfl⟩
  | create =>
    simp only [OwnerOp.run] at hrun
    split_ifs at hrun
    cases hrun
    exact ⟨fun _ => rfl, Or.inr rfl, fun _ => id, rfl, fun hne => absurd rfl hne, fun _ => id,
      fun _ => id, rfl⟩
  | finish options =>
    cases hrun
    exact ⟨fun _ => rfl, Or.inl rfl, fun _ => id, rfl, fun _ => rfl, nofun, nofun, rfl⟩
  | join =>
    simp only [OwnerOp.run] at hrun
    split_ifs at hrun
    cases hrun
    exact ⟨fun _ => rfl, Or.inr rfl, fun _ _ => rfl, rfl, fun _ => rfl, fun _ => id,
      fun _ => id, rfl⟩
  | forgetOptions =>
    cases hrun
    exact ⟨fun _ => rfl, Or.inr rfl, fun _ => id, rfl, fun _ => rfl, nofun, fun _ => id, rfl⟩
  | forgetInitialized =>
    cases hrun
    exact ⟨fun _ => rfl, Or.inr rfl, fun _ => id, rfl, fun _ => rfl, fun _ => id, nofun, rfl⟩
  | free =>
    cases hrun
    unfold freeIfAny use
    split
    · exact ⟨fun _ => rfl, Or.inr rfl, fun _ => id, rfl, fun _ => rfl, fun _ => id,
        fun _ => id, rfl⟩
    · exact .rfl _
  | hangUp =>
    cases hrun
    exact .useIfAny _
  | terminate =>
    cases hrun
    split_ifs
    · exact .useIfAny _
    · exact .rfl _
  | saveState =>
    cases hrun
    split_ifs
    · exact .useIfAny _
    · exact .rfl _
  | _ =>
    simp only [OwnerOp.run] at hrun
    try split_ifs at hrun
    all_goals
      cases hrun
      exact ⟨fun _ => rfl, Or.inr rfl, fun _ => id, rfl, fun _ => rfl, fun _ => id, fun _ => id,
        rfl⟩

/-- Another list for the owner, if it passes. -/
theorem Sound.go_on (hmemory : Memory client) {known : Known} (hknown : known.Describes client)
    {ops onThrow : List OwnerOp} (hcheck : check known ops = true)
    (honThrow : onThrow = [] ∨ onThrow = destroyOps) (halive : client.alive = true) :
    Sound { client with owner := ops, onThrow := onThrow } := by
  have hsame : SameHandles client { client with owner := ops, onThrow := onThrow } :=
    ⟨rfl, rfl, rfl, rfl⟩
  refine ⟨hmemory.of_same hsame id hmemory.connected hmemory.optioned, ?_, honThrow, ?_⟩
  · intro _
    exact ⟨known, ⟨hknown.joined, hsame.describes hknown.handle, hknown.optioned,
      fun ht hi => hknown.trusted ht hi⟩, hcheck⟩
  · intro hgone
    dsimp only at hgone
    rw [halive] at hgone
    cases hgone

/-- The last step of the destructor. -/
theorem Sound.destroyed (h : Sound client) {known : Known} (hknown : known.Describes client)
    (hjoined : known.joined = true) (hnull : known.handle = .null) :
    Sound { client with alive := false, owner := [] } := by
  have hhandle : known.handle.Describes client := hknown.handle
  rw [hnull] at hhandle
  exact ⟨h.memory.of_same ⟨rfl, rfl, rfl, rfl⟩ id h.memory.connected h.memory.optioned, nofun,
    h.onThrow, fun _ => ⟨rfl, hknown.joined hjoined, hhandle⟩⟩

/-- While the owner has steps to take the client exists, and it knows enough for them. -/
theorem Sound.known (h : Sound client) {op : OwnerOp} {rest : List OwnerOp}
    (howner : client.owner = op :: rest) : client.alive = true ∧
      ∃ known : Known, known.Describes client ∧ check known (op :: rest) = true := by
  have halive : client.alive = true := by
    by_contra hdead
    have hnil := (h.gone (by simpa using hdead)).1
    rw [howner] at hnil
    cases hnil
  refine ⟨halive, ?_⟩
  rw [← howner]
  exact h.alive halive

theorem Sound.ownerStep (h : Sound client) (ok : Bool) : Sound (client.ownerStep ok) := by
  rcases ownerStep_cases client ok with ⟨op, rest, next, howner, hrun, hstep⟩ |
    ⟨op, rest, howner, hrun, hstep⟩ | hstep
  · rw [hstep]
    rcases h.known howner with ⟨halive, known, hknown, hcheck⟩
    rcases check_cons hcheck with ⟨rfl, rfl, hjoined, hnull⟩ | ⟨known', hnext, hrest⟩
    · cases hrun
      exact h.destroyed hknown hjoined hnull
    · have hne : op ≠ .destroyed := by
        rintro rfl
        cases hnext
      rcases keeps op h.memory hknown hnext hrun with ⟨hmemory, hknown'⟩
      have hkeeps : OwnerKeeps op client next := owner_keeps hrun
      apply Sound.go_on hmemory hknown' hrest
      · rcases hkeeps.onThrow with hnil | hsame
        · exact Or.inl hnil
        · rw [hsame]
          exact h.onThrow
      · exact (hkeeps.alive hne).trans halive
  · rw [hstep]
    rcases h.known howner with ⟨halive, known, hknown, hcheck⟩
    rcases check_cons hcheck with ⟨rfl, -, -, -⟩ | ⟨known', hnext, -⟩
    · cases hrun
    · rcases known_of_throws hnext hrun with ⟨hreleased, htrusted⟩
      apply Sound.go_on h.memory hknown _ (Or.inl rfl) halive
      rcases h.onThrow with hnil | hdestroy
      · rw [hnil]
        simp [check, hreleased, htrusted]
      · rw [hdestroy]
        exact check_destroyOps hreleased
  · rw [hstep]
    exact h

theorem Sound.readerStep (h : Sound client) (collected : Collected) :
    Sound (client.readerStep lib mAddPacketFunction collected) := by
  have hkeeps : ReaderKeeps client (client.readerStep lib mAddPacketFunction collected) :=
    readerStep_keeps h.memory collected
  refine ⟨hkeeps.memory h.memory, ?_, ?_, ?_⟩
  · rw [hkeeps.alive, hkeeps.owner]
    intro halive
    rcases h.alive halive with ⟨known, hknown, hcheck⟩
    exact ⟨known, hkeeps.describes hknown, hcheck⟩
  · rw [hkeeps.onThrow]
    exact h.onThrow
  · rw [hkeeps.alive, hkeeps.owner, hkeeps.same.handle]
    intro hgone
    rcases h.gone hgone with ⟨howner, hreader, hhandle⟩
    exact ⟨howner, hkeeps.joined hreader, hhandle⟩

/-- The check of the calls holds good for every step, whoever takes it. -/
theorem sound_step (client : ClientThreads σ) (step : ClientStep) (h : Sound client) :
    Sound ((seedLinkClient lib mAddPacketFunction).step client step).1 := by
  cases step with
  | call call => exact h.beginCall call
  | owner ok => exact h.ownerStep ok
  | reader collected => exact h.readerStep collected

theorem sound_after (options : ClientOptions) (receiver : σ) (steps : List ClientStep) :
    Sound ((seedLinkClient lib mAddPacketFunction).after (construct options receiver) steps) :=
  (seedLinkClient lib mAddPacketFunction).after_invariant sound_step
    (sound_construct options receiver) steps

end Meaning

/-- What the owner of a client can rely on. -/
structure HandlesKept {σ : Type} (client : ClientThreads σ) : Prop where
  notMisused : client.misused = false
  freedOnce : client.freed.Nodup
  readerHolds : client.reader.running = true → client.holding = true
  connectedRuns : client.mConnected = true → client.reader.running = true
  allFreed : client.alive = false → client.reader = .none ∧
    ∀ handle, handle ∈ client.freed ↔ handle < client.created

/-- **The handles of libslink.**  However a client is constructed and called, whatever
    libslink answers and wherever the reader stands, no null or freed handle is used, none is
    freed twice, a new reader is never made before the last has been joined, and when the
    client is destroyed every handle it has created has been freed. -/
theorem client_handles_kept {σ : Type} (lib : BoundedLibMseed)
    (mAddPacketFunction : σ → DataPacket → σ × Option StdException) (options : ClientOptions)
    (receiver : σ) (steps : List ClientStep) :
    HandlesKept
      ((seedLinkClient lib mAddPacketFunction).after (construct options receiver) steps) := by
  have hsound : Sound ((seedLinkClient lib mAddPacketFunction).after
      (construct options receiver) steps) := sound_after options receiver steps
  have hmemory := hsound.memory
  refine ⟨hmemory.notMisused, hmemory.freedOnce, hmemory.reader, hmemory.connected, ?_⟩
  intro hgone
  rcases hsound.gone hgone with ⟨-, hreader, hhandle⟩
  refine ⟨hreader, ?_⟩
  intro handle
  constructor
  · exact hmemory.freedCreated handle
  · intro hlt
    rcases hmemory.kept handle hlt with hfreed | hheld
    · exact hfreed
    · rw [hhandle] at hheld
      cases hheld

end Us8.SEEDLink
