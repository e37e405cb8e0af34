/-
  Us8/DuplicateTesterChannels.lean
  ================================
  **The channels of the duplicate tester do not interfere.**

  A packet's verdict depends on the settings of the tester and on the buffer of its own
  channel, and on nothing else: not on the buffers of other channels, not on the sets of
  channels to be logged, not on the clock (`AgreeOn`).  A packet of another channel
  leaves that buffer alone.  So the verdicts of a channel are those of a run that submits
  its packets only.

  Buffers are found by name, and a name is the codes with dots between them.  Codes
  without dots can be read back from it (`nameOf_injective`), the missing location code
  included: it makes a name of three parts.
-/
import Us8.DuplicateTester

namespace Us8

open TestDuplicateDataPacketImpl

/-! ### Names -/

/-- What identifies a channel; the location code may be missing. -/
structure ChannelCodes where
  network : String
  station : String
  channel : String
  locationCode : Option String
deriving DecidableEq

namespace ChannelCodes

/-- The codes of a packet, empty where they are not set. -/
def ofPacket (packet : DataPacket) : ChannelCodes where
  network := packet.mNetwork.text
  station := packet.mStation.text
  channel := packet.mChannel.text
  locationCode := if packet.haveLocationCode then some packet.mLocationCode.text else none

def parts (codes : ChannelCodes) : List String :=
  [codes.network, codes.station, codes.channel] ++ codes.locationCode.toList

def DotFree (codes : ChannelCodes) : Prop := ∀ part ∈ codes.parts, '.' ∉ part.toList

instance (codes : ChannelCodes) : Decidable codes.DotFree :=
  inferInstanceAs (Decidable (∀ part ∈ codes.parts, _))

/-- The name under which the packets of the channel are kept. -/
def nameOf (codes : ChannelCodes) : String := String.intercalate "." codes.parts

theorem parts_injective {codes codes' : ChannelCodes} (h : codes.parts = codes'.parts) :
    codes = codes' := by
  rcases codes with ⟨network, station, channel, location⟩
  rcases codes' with ⟨network', station', channel', location'⟩
  simp only [parts, List.cons_append, List.nil_append, List.cons.injEq] at h
  obtain ⟨rfl, rfl, rfl, hlocation⟩ := h
  cases location <;> cases location' <;> simp at hlocation ⊢
  exact hlocation

/-- Codes without dots can be read back from the name. -/
theorem nameOf_injective {codes codes' : ChannelCodes} (hfree : codes.DotFree)
    (hfree' : codes'.DotFree) (hname : codes.nameOf = codes'.nameOf) : codes = codes' := by
  have hsplit : ∀ c : ChannelCodes, c.DotFree →
      c.nameOf.toList.splitOn '.' = c.parts.map String.toList := by
    intro c hc
    rw [nameOf, String.toList_intercalate]
    apply List.splitOn_intercalate
    · intro part hpart
      obtain ⟨text, htext, rfl⟩ := List.mem_map.mp hpart
      exact hc text htext
    · simp [parts]
  have hparts : codes.parts.map String.toList = codes'.parts.map String.toList := by
    rw [← hsplit codes hfree, ← hsplit codes' hfree', hname]
  exact parts_injective (List.map_injective_iff.mpr (fun _ _ => String.toList_inj.mp) hparts)

theorem toName_eq_nameOf {packet : DataPacket} {name : String} (h : toName packet = .ok name) :
    name = (ofPacket packet).nameOf := by
  have hget : ∀ {what : String} {code : SeedCode} {text : String},
      code.get what = .ok text → text = code.text := by
    intro what code text hcode
    unfold SeedCode.get at hcode
    split_ifs at hcode
    exact (Except.ok.inj hcode).symm
  simp only [toName, bind_eq_ok_iff, pure_eq_ok, Except.ok.injEq] at h
  obtain ⟨network, hnetwork, station, hstation, channel, hchannel, hname⟩ := h
  rw [hget hnetwork, hget hstation, hget hchannel] at hname
  subst hname
  apply String.toList_inj.mp
  -- the location code is empty exactly when it is not set
  cases hset : packet.mLocationCode.isSet with
  | true =>
    have hne : packet.mLocationCode.text ≠ "" := by simpa [SeedCode.isSet] using hset
    simp [locationCodeOrEmpty, DataPacket.getLocationCode, SeedCode.get, hset, hne, nameOf, parts,
      ofPacket, DataPacket.haveLocationCode]
  | false =>
    simp [locationCodeOrEmpty, DataPacket.getLocationCode, SeedCode.get, hset, nameOf, parts,
      ofPacket, DataPacket.haveLocationCode]

end ChannelCodes

/-! ### What a verdict depends on -/

/-- Two testers agree in everything that decides about the packets of one channel. -/
structure AgreeOn (name : String) (impl impl' : TestDuplicateDataPacketImpl) : Prop where
  settings : impl.toDuplicateSettings = impl'.toDuplicateSettings
  buffer : impl.mCircularBuffers name = impl'.mCircularBuffers name

namespace AgreeOn

variable {name : String} {impl impl' : TestDuplicateDataPacketImpl} {header : DataPacketHeader}

theorem newBuffer_eq (h : impl.toDuplicateSettings = impl'.toDuplicateSettings)
    (header : DataPacketHeader) : impl.newBuffer header = impl'.newBuffer header := by
  rcases impl with ⟨settings⟩
  rcases impl' with ⟨settings'⟩
  obtain rfl : settings = settings' := h
  rfl

/-- Testers that agree on a channel answer its next packet alike and still agree. -/
theorem allow (h : AgreeOn header.name impl impl') :
    AgreeOn header.name (impl.allow header).1 (impl'.allow header).1 ∧
      (impl.allow header).2 = (impl'.allow header).2 := by
  suffices hboth : (impl.allow header).1.mCircularBuffers header.name =
      (impl'.allow header).1.mCircularBuffers header.name ∧
      (impl.allow header).2 = (impl'.allow header).2 from
    ⟨⟨by simp [h.settings], hboth.1⟩, hboth.2⟩
  cases hbuffer : impl.mCircularBuffers header.name with
  | none =>
    have hbuffer' := h.buffer.symm.trans hbuffer
    simp only [TestDuplicateDataPacketImpl.allow, hbuffer, hbuffer', newBuffer_eq h.settings]
    cases impl'.newBuffer header with
    | error e => simp [hbuffer, hbuffer']
    | ok buffer => simp
  | some buffer =>
    have hbuffer' := h.buffer.symm.trans hbuffer
    simp only [TestDuplicateDataPacketImpl.allow, hbuffer, hbuffer']
    cases header.find buffer.items with
    | error e => simp [hbuffer, hbuffer']
    | ok found =>
      cases found with
      | true => simp [hbuffer, hbuffer']
      | false =>
        dsimp only
        split_ifs <;> simp [hbuffer, hbuffer']

/-- A packet of another channel changes nothing that matters. -/
theorem allow_of_ne (h : AgreeOn name impl impl') (hname : name ≠ header.name) :
    AgreeOn name (impl.allow header).1 impl' := by
  constructor
  · rw [toDuplicateSettings_allow, h.settings]
  · rw [mCircularBuffers_allow_of_ne hname, h.buffer]

theorem logBadData (h : AgreeOn name impl impl') (now now' : Int64) :
    AgreeOn name (impl.logBadData now) (impl'.logBadData now') := by
  constructor
  · rw [toDuplicateSettings_logBadData, toDuplicateSettings_logBadData, h.settings]
  · rw [mCircularBuffers_logBadData, mCircularBuffers_logBadData, h.buffer]

/-- The same for `TestDuplicateDataPacket::allow`, whatever the clock shows. -/
theorem packet_allow (h : AgreeOn name impl impl') {packet : DataPacket}
    (hname : ∀ header, DataPacketHeader.ofPacket packet = .ok header → header.name = name)
    (now now' : Int64) :
    AgreeOn name (TestDuplicateDataPacket.allow impl now packet).1
        (TestDuplicateDataPacket.allow impl' now' packet).1 ∧
      (TestDuplicateDataPacket.allow impl now packet).2 =
        (TestDuplicateDataPacket.allow impl' now' packet).2 := by
  unfold TestDuplicateDataPacket.allow
  cases hheader : DataPacketHeader.ofPacket packet with
  | error e => exact ⟨h, rfl⟩
  | ok header =>
    obtain rfl := hname header hheader
    obtain ⟨hnext, hanswer⟩ := h.allow
    exact ⟨hnext.logBadData now now', by simp only [hanswer]⟩

theorem packet_allow_of_ne (h : AgreeOn name impl impl') {packet : DataPacket}
    (hname : ∀ header, DataPacketHeader.ofPacket packet = .ok header → header.name ≠ name)
    (now : Int64) : AgreeOn name (TestDuplicateDataPacket.allow impl now packet).1 impl' := by
  unfold TestDuplicateDataPacket.allow
  cases hheader : DataPacketHeader.ofPacket packet with
  | error e => exact h
  | ok header =>
    have hnext := h.allow_of_ne (hname header hheader).symm
    constructor
    · rw [toDuplicateSettings_logBadData, hnext.settings]
    · rw [mCircularBuffers_logBadData, hnext.buffer]

end AgreeOn

/-! ### Two runs -/

theorem DataPacketHeader.name_ofPacket {packet : DataPacket} {header : DataPacketHeader}
    (h : DataPacketHeader.ofPacket packet = .ok header) : toName packet = .ok header.name := by
  simp only [DataPacketHeader.ofPacket, bind_eq_ok_iff, pure_eq_ok] at h
  obtain ⟨name, hname, endTime, -, samplingRate, -, hrest⟩ := h
  split_ifs at hrest
  · cases hrest
  · rw [hname, ← Except.ok.inj hrest]

/-- **Channels do not interfere.**  Whatever packets are submitted, as long as their codes
    contain no dots, those of one channel get the verdicts they would get if they were
    submitted alone to a fresh tester, at whatever times; packets whose header cannot be
    built and packets on which the comparison throws are among them.  In particular
    channels with different codes have different names. -/
theorem channels_independent (settings : DuplicateSettings) (calls : List (Int64 × DataPacket))
    (hfree : ∀ call ∈ calls, (ChannelCodes.ofPacket call.2).DotFree) (codes : ChannelCodes)
    (own : List (Int64 × DataPacket))
    (hown : own.map Prod.snd =
      (calls.filter fun call => ChannelCodes.ofPacket call.2 = codes).map Prod.snd) :
    ((packetTester.history (fresh settings) calls).filter
        fun e => ChannelCodes.ofPacket e.1.2 = codes).map Prod.snd =
      (packetTester.history (fresh settings) own).map Prod.snd ∧
    ∀ p q name, (ChannelCodes.ofPacket p).DotFree → (ChannelCodes.ofPacket q).DotFree →
      toName p = .ok name → toName q = .ok name →
        ChannelCodes.ofPacket p = ChannelCodes.ofPacket q := by
  refine ⟨?_, ?_⟩
  · have hpackets : List.Forall₂ (fun call call' : Int64 × DataPacket => call.2 = call'.2)
        (calls.filter fun call => ChannelCodes.ofPacket call.2 = codes) own := by
      rw [← List.forall₂_map_right_iff, ← List.forall₂_map_left_iff (f := Prod.snd),
        List.forall₂_eq_eq_eq]
      exact hown.symm
    have hname : ∀ packet header, DataPacketHeader.ofPacket packet = .ok header →
        header.name = (ChannelCodes.ofPacket packet).nameOf := by
      intro packet header hheader
      exact ChannelCodes.toName_eq_nameOf (DataPacketHeader.name_ofPacket hheader)
    -- codes with dots are the codes of no packet, and then there is nothing to keep
    apply packetTester.history_filter (n := packetTester)
      (R := fun impl impl' => codes.DotFree → AgreeOn codes.nameOf impl impl') _ _ _ hpackets
    · rintro impl impl' ⟨now, packet⟩ ⟨now', packet'⟩ hcall hp hsame hagree
      obtain rfl : packet = packet' := hsame
      have hcodes : ChannelCodes.ofPacket packet = codes := by simpa using hp
      have hagree := hagree (hcodes ▸ hfree _ hcall)
      obtain ⟨hnext, hanswer⟩ := hagree.packet_allow
        (fun header hheader => hcodes ▸ hname packet header hheader) now now'
      exact ⟨fun _ => hnext, hanswer⟩
    · rintro impl impl' ⟨now, packet⟩ hcall hp hagree hcodesFree
      have hcodes : ChannelCodes.ofPacket packet ≠ codes := by simpa using hp
      apply (hagree hcodesFree).packet_allow_of_ne
      intro header hheader heq
      rw [hname packet header hheader] at heq
      exact hcodes (ChannelCodes.nameOf_injective (hfree _ hcall) hcodesFree heq)
    · intro _
      exact ⟨rfl, rfl⟩
  · intro p q name hp hq hnamep hnameq
    apply ChannelCodes.nameOf_injective hp hq
    rw [← ChannelCodes.toName_eq_nameOf hnamep, ← ChannelCodes.toName_eq_nameOf hnameq]

def forkOne : DataPacket := .forkPacket (.double [.finite 1])

/-- The same packet from another station, with no location code. -/
def noqOne : DataPacket :=
  (forkOne.putCode .station ⟨"NOQ", Or.inr (by decide)⟩).putCode .locationCode .unset

theorem fork_noq_channels_independent :
    ((packetTester.history (fresh {}) [(0, forkOne), (1, noqOne), (2, forkOne)]).filter
        fun e => ChannelCodes.ofPacket e.1.2 = ChannelCodes.ofPacket forkOne).map Prod.snd =
      [true, false] ∧
    ((packetTester.history (fresh {}) [(0, forkOne), (1, noqOne), (2, forkOne)]).filter
        fun e => ChannelCodes.ofPacket e.1.2 = ChannelCodes.ofPacket forkOne).map Prod.snd =
      (packetTester.history (fresh {}) [(7, forkOne), (8, forkOne)]).map Prod.snd :=
  ⟨by decide +kernel,
    (channels_independent {} [(0, forkOne), (1, noqOne), (2, forkOne)] (by decide +kernel)
      (ChannelCodes.ofPacket forkOne) [(7, forkOne), (8, forkOne)] (by decide +kernel)).1⟩

end Us8
