/-
  Us8/MiniSeed.lean
  =================
  **Unpacking a SEEDLink payload** (`miniSEEDToDataPackets` in
  `broadcasts/dataPacket/seedLink/client.cpp`).

  The payload is a sequence of miniSEED records.  A loop parses the record at the current
  offset, turns it into a data packet, moves on by the length the record itself claims and
  releases the record.  The parser is libmseed's, so its functions are parameters
  (`LibMseed`); what it promises about the length is a named hypothesis
  (`LibMseed.Bounded`).

  A run keeps a record of its calls of `msr3_parse` and `msr3_free` (`trace`), which no
  step reads.  Between the two calls a packet is built by setters that may throw, and
  nothing catches what they throw (`RecordFailure.escaped`).
-/
import Us8.DataPacketCalls
import Us8.WhileLoop

namespace Us8.SEEDLink

/-! ### What libmseed provides -/

/-- The samples of a record as memory of each type. -/
structure DataSamples where
  integer32 : Nat → Int32
  float : Nat → Single
  double : Nat → Double

/-- The members of a record that are read; `datasamples` is null where there is none. -/
structure MS3Record where
  sid : String
  reclen : Int32
  starttime : Int64
  samprate : Double
  datasamples : Option DataSamples
  numsamples : Int64
  sampletype : Char

/-- What `ms_sid2nslc` returns and writes. -/
structure SourceCodes where
  returnCode : Int32
  network : String
  station : String
  location : String
  channel : String

def MS_NOERROR : Int32 := 0

/-- `msr3_parse` gets the memory from the pointer on and a number of bytes, and gives a
    return code and a record, or null; it may answer differently from call to call. -/
structure LibMseed where
  MINRECLEN : UInt64
  msr3_parse : (call : Nat) → (record : List UInt8) → (length : UInt64) →
    Int32 × Option MS3Record
  ms_sid2nslc : String → SourceCodes

/-- A parsed record is not empty and not longer than the bytes that were given. -/
def LibMseed.Bounded (lib : LibMseed) : Prop :=
  ∀ call bytes length record, lib.msr3_parse call bytes length = (MS_NOERROR, some record) →
    0 < record.reclen.toInt ∧ record.reclen.toInt ≤ length.toNat

/-! ### From a record to a packet -/

/-- How the conversion fails: with the record released by hand before the throw, or by an
    exception that leaves the function from within a setter. -/
inductive RecordFailure where
  | released (e : StdException)
  | escaped (e : StdException)

def RecordFailure.exception : RecordFailure → StdException
  | .released e => e
  | .escaped e => e

/-- A call of a setter. -/
def escaping : Except StdException DataPacket → Except RecordFailure DataPacket
  | .ok packet => .ok packet
  | .error e => .error (.escaped e)

/-- A location code that is empty, or starts with two blanks, is replaced. -/
def locationOrDashes (location : String) : String :=
  if location = "" then "--"
  else if String.ofList (location.toList.take 2) = "  " then "--"
  else location

def setCodes (codes : SourceCodes) (dataPacket : DataPacket) :
    Except RecordFailure DataPacket := do
  if codes.returnCode = MS_NOERROR then
    let dataPacket ← escaping (dataPacket.setNetwork codes.network)
    let dataPacket ← escaping (dataPacket.setStation codes.station)
    let dataPacket ← escaping (dataPacket.setChannel codes.channel)
    escaping (dataPacket.setLocationCode (locationOrDashes codes.location))
  else .error (.released (.runtimeError "Failed to unpack SNCL"))

/-- The pointer cast that goes with a type of samples. -/
def MS3Record.pointer (record : MS3Record) : Option SamplePointer :=
  match record.sampletype with
  | 'i' => some (.integer32 (record.datasamples.map DataSamples.integer32))
  | 'f' => some (.float (record.datasamples.map DataSamples.float))
  | 'd' => some (.double (record.datasamples.map DataSamples.double))
  | _ => none

def MS3Record.nSamples (record : MS3Record) : Int32 := record.numsamples.toInt32

def setSamples (record : MS3Record) (dataPacket : DataPacket) :
    Except RecordFailure DataPacket :=
  if 0 < record.nSamples.toInt then
    match record.pointer with
    | some data => escaping (dataPacket.setDataPointer record.nSamples data)
    | none => .error (.released (.runtimeError "Unhandled sample type"))
  else .ok dataPacket

/-- The `double` that `1.e-3` is. -/
def milli : ℚ := 1152921504606847 / 2 ^ 60

/-- Nanoseconds to microseconds. -/
def MS3Record.startTimeMicroSeconds (record : MS3Record) : Int64 :=
  ((Double.ofInt record.starttime.toInt).mul (.finite milli)).rounded.round.toInt64

def toDataPacket (lib : LibMseed) (record : MS3Record) : Except RecordFailure DataPacket := do
  let dataPacket ← setCodes (lib.ms_sid2nslc record.sid) DataPacket.new
  let dataPacket ← escaping (dataPacket.setSamplingRate record.samprate)
  setSamples record (dataPacket.setStartTime record.startTimeMicroSeconds)

/-! ### The loop -/

/-- A call of `msr3_parse`: where the record starts, the bytes from there on, and what has
    come of it. -/
structure Parse where
  offset : UInt64
  length : UInt64
  outcome : Int32 × Option MS3Record

/-- A call of `msr3_parse`, or the release of the record that the given call has made. -/
inductive RecordEvent where
  | parse (parse : Parse)
  | free (call : Nat)

/-- The loop's variables; `calls` counts those of `msr3_parse`. -/
structure Unpacking where
  offset : UInt64 := 0
  dataPackets : List DataPacket := []
  calls : Nat := 0
  trace : List RecordEvent := []

def insufficientData (returnCode : Int32) : StdException :=
  .runtimeError ("Insufficient data.  Number of additional bytes estimated is " ++
    toString returnCode.toInt)

section Body

variable (lib : LibMseed) (msRecord : List UInt8) (bufferSize : Int32)

/-- `static_cast<uint64_t> (bufferSize)`. -/
def bufferLength : UInt64 := bufferSize.toInt64.toUInt64

/-- The call of `msr3_parse`. -/
def parseOutcome (s : Unpacking) : Int32 × Option MS3Record :=
  lib.msr3_parse s.calls (msRecord.drop s.offset.toNat) (bufferLength bufferSize - s.offset)

def Unpacking.parse (s : Unpacking) : Parse :=
  ⟨s.offset, bufferLength bufferSize - s.offset, parseOutcome lib msRecord bufferSize s⟩

/-- The state after the call of `msr3_parse`, and where it is followed by `msr3_free`. -/
def Unpacking.parsed (s : Unpacking) (released : List RecordEvent) : Unpacking :=
  { s with
    calls := s.calls + 1
    trace := s.trace ++ .parse (s.parse lib msRecord bufferSize) :: released }

def unpackRecord (s : Unpacking) : Unpacking × Option StdException :=
  match parseOutcome lib msRecord bufferSize s with
  | (returnCode, some record) =>
      let after := s.parsed lib msRecord bufferSize [.free s.calls]
      if returnCode = MS_NOERROR then
        match toDataPacket lib record with
        | .ok dataPacket =>
            ({ after with
                dataPackets := s.dataPackets ++ [dataPacket]
                offset := s.offset + record.reclen.toInt64.toUInt64 }, none)
        | .error (.released e) => (after, some e)
        | .error (.escaped e) => (s.parsed lib msRecord bufferSize [], some e)
      else (after, some (.runtimeError "libmseed error detected"))
  | (returnCode, none) =>
      -- releasing a null pointer does nothing
      (s.parsed lib msRecord bufferSize [],
        some (if returnCode = MS_NOERROR then insufficientData returnCode
          else .runtimeError "libmseed error detected"))

def unpackLoop : WhileLoop Unpacking StdException where
  guard s := decide (lib.MINRECLEN < bufferLength bufferSize - s.offset)
  body := unpackRecord lib msRecord bufferSize

/-- Where the loop stands after at most `fuel` turns. -/
def unpack (fuel : Nat) : WhileLoop.End Unpacking StdException :=
  (unpackLoop lib msRecord bufferSize).run fuel {}

/-- The packets that are returned, or the exception; nothing if the fuel is too little. -/
def miniSEEDToDataPackets (fuel : Nat) : Option (Except StdException (List DataPacket)) :=
  match unpack lib msRecord bufferSize fuel with
  | .returned s => some (.ok s.dataPackets)
  | .threw _ e => some (.error e)
  | .running _ => none

end Body

/-! ### A record of UU.FORK -/

/-- libmseed where the payload is this record, once or more often. -/
def observedLibMseed (bytes : List UInt8) (record : MS3Record) (codes : SourceCodes) :
    LibMseed where
  MINRECLEN := 40
  msr3_parse _ data length :=
    if bytes <+: data.take length.toNat then (MS_NOERROR, some record) else (-2, none)
  ms_sid2nslc sid := if sid = record.sid then codes else ⟨-1, "", "", "", ""⟩

/-- A miniSEED 3 record with one 32-bit sample, 7, at the start of the epoch; the sampling
    rate and the check sum are given as they are written. -/
def forkRecordBytes (samprate crc : List UInt8) : List UInt8 :=
  [77, 83, 3, 0, 0, 0, 0, 0, 178, 7, 1, 0, 0, 0, 0, 3] ++ samprate ++ [1, 0, 0, 0] ++ crc ++
    [1, 21, 0, 0, 4, 0, 0, 0, 70, 68, 83, 78, 58, 85, 85, 95, 70, 79, 82, 75, 95, 48, 49, 95, 72,
      95, 72, 95, 90, 7, 0, 0, 0]

def forkRecord (samprate : Double) : MS3Record where
  sid := "FDSN:UU_FORK_01_H_H_Z"
  reclen := 65
  starttime := 0
  samprate := samprate
  datasamples := some ⟨fun _ => 7, fun _ => ⟨.finite 0⟩, fun _ => .finite 0⟩
  numsamples := 1
  sampletype := 'i'

def forkCodes : SourceCodes := ⟨MS_NOERROR, "UU", "FORK", "01", "HHZ"⟩

/-- At 100 Hz. -/
def forkPayload : List UInt8 :=
  forkRecordBytes [0, 0, 0, 0, 0, 0, 89, 64] [49, 139, 32, 229]

/-- With a rate of zero, as a channel of log messages has. -/
def forkLogPayload : List UInt8 :=
  forkRecordBytes [0, 0, 0, 0, 0, 0, 0, 0] [93, 199, 161, 239]

theorem bounded_observedLibMseed {bytes : List UInt8} {record : MS3Record}
    (codes : SourceCodes) (hpos : 0 < record.reclen.toInt)
    (hlength : record.reclen.toInt = bytes.length) :
    (observedLibMseed bytes record codes).Bounded := by
  intro call data length parsed hparse
  simp only [observedLibMseed] at hparse
  split_ifs at hparse with htake
  · obtain rfl : record = parsed := by simpa using hparse
    refine ⟨hpos, ?_⟩
    have hle : bytes.length ≤ length.toNat :=
      htake.length_le.trans (List.length_take_le _ _)
    omega
  · simp at hparse

/-! ### One turn of the loop -/

section Turn

variable {lib : LibMseed} {msRecord : List UInt8} {bufferSize : Int32}

/-- What `msr3_parse` gave is a record that makes the packet. -/
def Converts (lib : LibMseed) (outcome : Int32 × Option MS3Record) (dataPacket : DataPacket) :
    Prop :=
  ∃ record, outcome = (MS_NOERROR, some record) ∧ toDataPacket lib record = .ok dataPacket

/-- The ways a turn can go. -/
inductive Turn (lib : LibMseed) (msRecord : List UInt8) (bufferSize : Int32) (s : Unpacking) :
    Unpacking × Option StdException → Prop where
  | converted {record : MS3Record} {dataPacket : DataPacket}
      (houtcome : parseOutcome lib msRecord bufferSize s = (MS_NOERROR, some record))
      (hpacket : toDataPacket lib record = .ok dataPacket) :
      Turn lib msRecord bufferSize s
        ({ s.parsed lib msRecord bufferSize [.free s.calls] with
            dataPackets := s.dataPackets ++ [dataPacket]
            offset := s.offset + record.reclen.toInt64.toUInt64 }, none)
  | released {returnCode : Int32} {record : MS3Record} {e : StdException}
      (houtcome : parseOutcome lib msRecord bufferSize s = (returnCode, some record))
      (hfails : returnCode = MS_NOERROR → ∃ e, toDataPacket lib record = .error (.released e)) :
      Turn lib msRecord bufferSize s (s.parsed lib msRecord bufferSize [.free s.calls], some e)
  | escaped {record : MS3Record} {e : StdException}
      (houtcome : parseOutcome lib msRecord bufferSize s = (MS_NOERROR, some record))
      (hfails : toDataPacket lib record = .error (.escaped e)) :
      Turn lib msRecord bufferSize s (s.parsed lib msRecord bufferSize [], some e)
  | nothing {returnCode : Int32} {e : StdException}
      (houtcome : parseOutcome lib msRecord bufferSize s = (returnCode, none)) :
      Turn lib msRecord bufferSize s (s.parsed lib msRecord bufferSize [], some e)

theorem turn_unpackRecord (s : Unpacking) :
    Turn lib msRecord bufferSize s (unpackRecord lib msRecord bufferSize s) := by
  rw [unpackRecord]
  rcases houtcome : parseOutcome lib msRecord bufferSize s with ⟨returnCode, _ | record⟩
  · exact Turn.nothing houtcome
  · by_cases hcode : returnCode = MS_NOERROR
    · subst hcode
      simp only [if_true]
      rcases hpacket : toDataPacket lib record with (e | e) | dataPacket
      · exact Turn.released houtcome fun _ => ⟨e, hpacket⟩
      · exact Turn.escaped houtcome hpacket
      · exact Turn.converted houtcome hpacket
    · simp only [if_neg hcode]
      exact Turn.released houtcome fun h => absurd h hcode

/-- A turn that throws has met something that makes no packet. -/
theorem not_converts_of_throw {s t : Unpacking} {e : StdException}
    (h : unpackRecord lib msRecord bufferSize s = (t, some e)) :
    ¬ ∃ dataPacket, Converts lib (parseOutcome lib msRecord bufferSize s) dataPacket := by
  rintro ⟨dataPacket, record, houtcome, hpacket⟩
  rw [unpackRecord, houtcome] at h
  simp [hpacket] at h

end Turn

/-! ### Records end to end -/

/-- The calls of `msr3_parse`. -/
def parses (trace : List RecordEvent) : List Parse :=
  trace.filterMap fun
    | .parse parse => some parse
    | .free _ => none

/-- From `start` to `stop` the records lie end to end, and each has made one packet. -/
inductive Tiles (lib : LibMseed) : Nat → List Parse → List DataPacket → Nat → Prop where
  | nil (start : Nat) : Tiles lib start [] [] start
  | cons {stop : Nat} {offset length : UInt64} {record : MS3Record} {dataPacket : DataPacket}
      {rest : List Parse} {dataPackets : List DataPacket}
      (hpos : 0 < record.reclen.toInt) (hpacket : toDataPacket lib record = .ok dataPacket)
      (hrest : Tiles lib (offset.toNat + record.reclen.toInt.toNat) rest dataPackets stop) :
      Tiles lib offset.toNat (⟨offset, length, (MS_NOERROR, some record)⟩ :: rest)
        (dataPacket :: dataPackets) stop

namespace Tiles

variable {lib : LibMseed} {start stop : Nat} {dataPackets : List DataPacket}
  {tiles : List Parse}

theorem concat (h : Tiles lib start tiles dataPackets stop) {offset length : UInt64}
    {record : MS3Record} {dataPacket : DataPacket} (hoffset : offset.toNat = stop)
    (hpos : 0 < record.reclen.toInt) (hpacket : toDataPacket lib record = .ok dataPacket) :
    Tiles lib start (tiles ++ [⟨offset, length, (MS_NOERROR, some record)⟩])
      (dataPackets ++ [dataPacket]) (stop + record.reclen.toInt.toNat) := by
  induction h with
  | nil start =>
    subst hoffset
    exact cons hpos hpacket (nil _)
  | cons hpos' hpacket' _ ih => exact cons hpos' hpacket' (ih hoffset)

theorem converts (h : Tiles lib start tiles dataPackets stop) :
    ∀ tile ∈ tiles, ∃ dataPacket, Converts lib tile.outcome dataPacket := by
  induction h with
  | nil start => simp
  | cons hpos hpacket _ ih =>
    rintro tile (_ | ⟨_, htile⟩)
    · exact ⟨_, _, rfl, hpacket⟩
    · exact ih tile htile

end Tiles

@[simp] theorem parses_append (trace later : List RecordEvent) :
    parses (trace ++ later) = parses trace ++ parses later := List.filterMap_append

theorem toNat_toUInt64 {x : Int32} (h : 0 ≤ x.toInt) :
    x.toInt64.toUInt64.toNat = x.toInt.toNat := by
  have hle : (0 : Int64) ≤ x.toInt64 := by
    rw [Int64.le_iff_toInt_le, Int32.toInt_toInt64]
    exact h
  rw [Int64.toNat_toUInt64_of_le hle, Int32.toNatClampNeg_toInt64]
  rfl

section Bounded

variable {lib : LibMseed} {msRecord : List UInt8} {bufferSize : Int32}

/-- Where the loop stands, the records so far fill the payload up to the offset, and every
    call of `msr3_parse` was given exactly the bytes from its offset to the end. -/
structure Filled (lib : LibMseed) (bufferSize : Int32) (s : Unpacking) : Prop where
  offset_le : s.offset.toNat ≤ (bufferLength bufferSize).toNat
  tiles : Tiles lib 0 (parses s.trace) s.dataPackets s.offset.toNat
  inside : ∀ tile ∈ parses s.trace,
    tile.offset.toNat + tile.length.toNat = (bufferLength bufferSize).toNat

theorem filled_start : Filled lib bufferSize {} where
  offset_le := Nat.zero_le _
  tiles := Tiles.nil 0
  inside := by simp [parses]

/-- The difference does not wrap. -/
theorem toNat_remaining {offset : UInt64}
    (h : offset.toNat ≤ (bufferLength bufferSize).toNat) :
    (bufferLength bufferSize - offset).toNat = (bufferLength bufferSize).toNat - offset.toNat := by
  rw [UInt64.toNat_sub_of_le _ _ (UInt64.le_iff_toNat_le.mpr h)]

theorem parses_parsed (s : Unpacking) (call : Option Nat) :
    parses (s.parsed lib msRecord bufferSize (call.toList.map .free)).trace =
      parses s.trace ++ [s.parse lib msRecord bufferSize] := by
  rw [Unpacking.parsed, parses_append]
  cases call <;> rfl

/-- Also where it throws, every call was given what was left of the payload. -/
theorem inside_parsed {s : Unpacking} (h : Filled lib bufferSize s) (call : Option Nat) :
    ∀ tile ∈ parses (s.parsed lib msRecord bufferSize (call.toList.map .free)).trace,
      tile.offset.toNat + tile.length.toNat = (bufferLength bufferSize).toNat := by
  intro tile htile
  rw [parses_parsed, List.mem_append, List.mem_singleton] at htile
  rcases htile with hpast | rfl
  · exact h.inside tile hpast
  · have hoffset := h.offset_le
    have hremaining := toNat_remaining hoffset
    show s.offset.toNat + (bufferLength bufferSize - s.offset).toNat = _
    omega

/-- One turn: a record is as long as it says, and that is not more than what was left. -/
theorem Filled.step (hbounded : lib.Bounded) {s t : Unpacking} (h : Filled lib bufferSize s)
    (hbody : unpackRecord lib msRecord bufferSize s = (t, none)) :
    Filled lib bufferSize t ∧
      (bufferLength bufferSize).toNat - t.offset.toNat <
        (bufferLength bufferSize).toNat - s.offset.toNat := by
  have hturn : Turn lib msRecord bufferSize s (unpackRecord lib msRecord bufferSize s) :=
    turn_unpackRecord s
  rw [hbody] at hturn
  cases hturn with
  | @converted record dataPacket houtcome hpacket =>
    obtain ⟨hpos, hle⟩ := hbounded _ _ _ _ houtcome
    rw [toNat_remaining h.offset_le] at hle
    have hlt := (bufferLength bufferSize).toNat_lt
    have hoffset : (s.offset + record.reclen.toInt64.toUInt64).toNat =
        s.offset.toNat + record.reclen.toInt.toNat := by
      rw [UInt64.toNat_add, toNat_toUInt64 hpos.le, Nat.mod_eq_of_lt]
      have := h.offset_le
      omega
    have hle' := h.offset_le
    refine ⟨⟨?_, ?_, inside_parsed h (some s.calls)⟩, ?_⟩
    · show (s.offset + record.reclen.toInt64.toUInt64).toNat ≤ _
      omega
    · have htrace : parses (s.parsed lib msRecord bufferSize [.free s.calls]).trace = _ :=
        parses_parsed s (some s.calls)
      show Tiles lib 0 (parses (s.parsed lib msRecord bufferSize [.free s.calls]).trace) _ _
      rw [htrace, Unpacking.parse, houtcome, hoffset]
      exact h.tiles.concat rfl hpos hpacket
    · show _ - (s.offset + record.reclen.toInt64.toUInt64).toNat < _
      omega

theorem ends_unpack (hbounded : lib.Bounded) (fuel : Nat) :
    (unpackLoop lib msRecord bufferSize).Ends (Filled lib bufferSize)
      (unpack lib msRecord bufferSize fuel) :=
  WhileLoop.ends_run _ (fun _ _ h _ hbody => (h.step hbounded hbody).1) filled_start fuel

theorem isSome_miniSEEDToDataPackets (hbounded : lib.Bounded)
    {fuel : Nat} (hfuel : (bufferLength bufferSize).toNat < fuel) :
    (miniSEEDToDataPackets lib msRecord bufferSize fuel).isSome = true := by
  have hends : (∃ t, unpack lib msRecord bufferSize fuel = .returned t) ∨
      ∃ t e, unpack lib msRecord bufferSize fuel = .threw t e :=
    WhileLoop.run_returns_or_throws _ (fun _ _ h _ hbody => h.step hbounded hbody)
      filled_start hfuel
  rw [miniSEEDToDataPackets]
  rcases hends with ⟨t, ht⟩ | ⟨t, e, ht⟩
  · rw [ht]
    rfl
  · rw [ht]
    rfl

/-- Where a run throws, its last call of `msr3_parse` gave what makes no packet. -/
theorem threw_unpack (hbounded : lib.Bounded) {fuel : Nat}
    {t : Unpacking} {e : StdException}
    (ht : unpack lib msRecord bufferSize fuel = .threw t e) :
    t.offset.toNat ≤ (bufferLength bufferSize).toNat ∧
      (∀ tile ∈ parses t.trace,
        tile.offset.toNat + tile.length.toNat = (bufferLength bufferSize).toNat) ∧
      ∃ tile ∈ parses t.trace, ¬ ∃ dataPacket, Converts lib tile.outcome dataPacket := by
  have hends : (unpackLoop lib msRecord bufferSize).Ends (Filled lib bufferSize)
      (unpack lib msRecord bufferSize fuel) := ends_unpack hbounded fuel
  rw [ht] at hends
  obtain ⟨s, hs, -, hbody⟩ := hends
  have hfails := not_converts_of_throw hbody
  have hturn : Turn lib msRecord bufferSize s (t, some e) := hbody ▸ turn_unpackRecord s
  have hcall : ∃ call : Option Nat,
      t = s.parsed lib msRecord bufferSize (call.toList.map .free) := by
    cases hturn with
    | released _ _ => exact ⟨some s.calls, rfl⟩
    | escaped _ _ => exact ⟨none, rfl⟩
    | nothing _ => exact ⟨none, rfl⟩
  obtain ⟨call, rfl⟩ := hcall
  refine ⟨hs.offset_le, inside_parsed hs call,
    s.parse lib msRecord bufferSize, ?_, hfails⟩
  rw [parses_parsed]
  exact List.mem_append_right _ (List.mem_singleton.mpr rfl)

/-- Wherever a run stands, no call has been given more than what was left. -/
theorem inside_unpack (hbounded : lib.Bounded) (fuel : Nat) :
    let stand := (unpack lib msRecord bufferSize fuel).state
    stand.offset.toNat ≤ (bufferLength bufferSize).toNat ∧
      ∀ tile ∈ parses stand.trace,
        tile.offset.toNat + tile.length.toNat = (bufferLength bufferSize).toNat := by
  have hends : (unpackLoop lib msRecord bufferSize).Ends (Filled lib bufferSize)
      (unpack lib msRecord bufferSize fuel) := ends_unpack hbounded fuel
  rcases hstand : unpack lib msRecord bufferSize fuel with t | ⟨t, e⟩ | t
  · rw [hstand] at hends
    exact ⟨hends.1.offset_le, hends.1.inside⟩
  · obtain ⟨hoffset, hinside, -⟩ := threw_unpack hbounded hstand
    exact ⟨hoffset, hinside⟩
  · rw [hstand] at hends
    exact ⟨hends.offset_le, hends.inside⟩

/-- Where a run returns, the records fill the payload up to the offset. -/
theorem tiles_unpack (hbounded : lib.Bounded) {fuel : Nat} {t : Unpacking}
    (ht : unpack lib msRecord bufferSize fuel = .returned t) :
    Tiles lib 0 (parses t.trace) t.dataPackets t.offset.toNat ∧
      (bufferLength bufferSize).toNat - t.offset.toNat ≤ lib.MINRECLEN.toNat := by
  have hends : (unpackLoop lib msRecord bufferSize).Ends (Filled lib bufferSize)
      (unpack lib msRecord bufferSize fuel) := ends_unpack hbounded fuel
  rw [ht] at hends
  obtain ⟨hfilled, hguard⟩ := hends
  refine ⟨hfilled.tiles, ?_⟩
  have hle : bufferLength bufferSize - t.offset ≤ lib.MINRECLEN := by
    simpa [unpackLoop] using hguard
  rw [UInt64.le_iff_toNat_le, toNat_remaining hfilled.offset_le] at hle
  exact hle

/-- A run throws exactly when a call of `msr3_parse` gave what makes no packet. -/
theorem threw_unpack_iff (hbounded : lib.Bounded) (fuel : Nat) :
    (∃ t e, unpack lib msRecord bufferSize fuel = .threw t e) ↔
      ∃ tile ∈ parses (unpack lib msRecord bufferSize fuel).state.trace,
        ¬ ∃ dataPacket, Converts lib tile.outcome dataPacket := by
  have hends : (unpackLoop lib msRecord bufferSize).Ends (Filled lib bufferSize)
      (unpack lib msRecord bufferSize fuel) := ends_unpack hbounded fuel
  rcases hstand : unpack lib msRecord bufferSize fuel with t | ⟨t, e⟩ | t
  · rw [hstand] at hends
    refine ⟨by simp, ?_⟩
    rintro ⟨tile, htile, hfails⟩
    exact absurd (hends.1.tiles.converts tile htile) hfails
  · exact ⟨fun _ => (threw_unpack hbounded hstand).2.2, fun _ => ⟨t, e, rfl⟩⟩
  · rw [hstand] at hends
    refine ⟨by simp, ?_⟩
    rintro ⟨tile, htile, hfails⟩
    exact absurd (hends.tiles.converts tile htile) hfails

theorem miniSEEDToDataPackets_ok_iff {fuel : Nat} {dataPackets : List DataPacket} :
    miniSEEDToDataPackets lib msRecord bufferSize fuel = some (.ok dataPackets) ↔
      ∃ t, unpack lib msRecord bufferSize fuel = .returned t ∧ t.dataPackets = dataPackets := by
  rw [miniSEEDToDataPackets]
  cases unpack lib msRecord bufferSize fuel <;> simp

theorem miniSEEDToDataPackets_error_iff {fuel : Nat} {e : StdException} :
    miniSEEDToDataPackets lib msRecord bufferSize fuel = some (.error e) ↔
      ∃ t, unpack lib msRecord bufferSize fuel = .threw t e := by
  rw [miniSEEDToDataPackets]
  cases unpack lib msRecord bufferSize fuel <;> simp

/-- **The unpacking loop.**  It ends; the offset never passes the payload, and no call of
    `msr3_parse` is given more than what is left; where it returns, the records fill the
    payload up to the offset, each has made one packet, and no more than `MINRECLEN` bytes
    are left; and it throws exactly when something was parsed that makes no packet. -/
theorem miniSEEDToDataPackets_tiles (lib : LibMseed) (hbounded : lib.Bounded)
    (msRecord : List UInt8) (bufferSize : Int32) (hnonneg : 0 ≤ bufferSize.toInt) :
    (∀ fuel, bufferSize.toInt.toNat < fuel →
      (miniSEEDToDataPackets lib msRecord bufferSize fuel).isSome = true) ∧
    ∀ fuel,
      let stand := (unpack lib msRecord bufferSize fuel).state
      let result := miniSEEDToDataPackets lib msRecord bufferSize fuel
      stand.offset.toNat ≤ bufferSize.toInt.toNat ∧
      (∀ tile ∈ parses stand.trace,
        tile.offset.toNat + tile.length.toNat = bufferSize.toInt.toNat) ∧
      (∀ dataPackets, result = some (.ok dataPackets) →
        Tiles lib 0 (parses stand.trace) dataPackets stand.offset.toNat ∧
        bufferSize.toInt.toNat - stand.offset.toNat ≤ lib.MINRECLEN.toNat) ∧
      ((∃ e, result = some (.error e)) ↔
        ∃ tile ∈ parses stand.trace, ¬ ∃ dataPacket, Converts lib tile.outcome dataPacket) := by
  have hlength : bufferSize.toInt.toNat = (bufferLength bufferSize).toNat :=
    (toNat_toUInt64 hnonneg).symm
  rw [hlength]
  refine ⟨fun fuel hfuel => isSome_miniSEEDToDataPackets hbounded hfuel, fun fuel => ?_⟩
  have hinside := @inside_unpack lib msRecord bufferSize hbounded fuel
  refine ⟨hinside.1, hinside.2, ?_, ?_⟩
  · intro dataPackets hresult
    obtain ⟨t, ht, rfl⟩ := miniSEEDToDataPackets_ok_iff.mp hresult
    rw [ht]
    exact tiles_unpack hbounded ht
  · rw [← threw_unpack_iff hbounded fuel, exists_comm]
    exact exists_congr fun _ => miniSEEDToDataPackets_error_iff

/-- A record is 65 bytes long; of two in a payload the second begins where the first ends, and
    nothing is left over. -/
theorem fork_record_tiles :
    let lib := observedLibMseed forkPayload (forkRecord (.finite 100)) forkCodes
    let payload := forkPayload ++ forkPayload
    Tiles lib 0 (parses (unpack lib payload 130 131).state.trace)
        [DataPacket.forkPacket (.integer32 [7]), DataPacket.forkPacket (.integer32 [7])]
        (unpack lib payload 130 131).state.offset.toNat ∧
      (parses (unpack lib payload 130 131).state.trace).map Parse.offset = [0, 65] ∧
      (miniSEEDToDataPackets lib payload 130 131).isSome = true := by
  intro lib payload
  obtain ⟨hends, hstands⟩ := miniSEEDToDataPackets_tiles lib
    (bounded_observedLibMseed forkCodes (by decide) (by decide)) payload 130 (by decide)
  have hresult : miniSEEDToDataPackets lib payload 130 131 =
      some (.ok [DataPacket.forkPacket (.integer32 [7]),
        DataPacket.forkPacket (.integer32 [7])]) := by decide +kernel
  have hoffsets : (parses (unpack lib payload 130 131).state.trace).map Parse.offset = [0, 65] := by
    decide +kernel
  obtain ⟨-, -, hreturns, -⟩ := hstands 131
  exact ⟨(hreturns _ hresult).1, hoffsets, hends 131 (by decide)⟩

end Bounded

/-! ### Records that a setter rejects -/

/-- A record whose identifier can be split, but which has something that a setter does not
    take: a blank code, a rate that is not positive, or samples at a null pointer. -/
def Rejected (lib : LibMseed) (record : MS3Record) : Prop :=
  let codes := lib.ms_sid2nslc record.sid
  codes.returnCode = MS_NOERROR ∧
    (isEmpty codes.network = true ∨ isEmpty codes.station = true ∨
      isEmpty codes.channel = true ∨ isEmpty (locationOrDashes codes.location) = true ∨
      record.samprate.nonPositive = true ∨
      0 < record.nSamples.toInt ∧ record.sampletype ∈ ['i', 'f', 'd'] ∧
        record.datasamples = none)

section Rejected

variable {lib : LibMseed} {record : MS3Record}

theorem setCode_cases (field : DataPacketImpl.CodeField) (what code : String)
    (dataPacket : DataPacket) :
    (isEmpty code = true ∧
      ∃ e, escaping (DataPacket.setCode field what dataPacket code) = .error (.escaped e)) ∨
    (isEmpty code = false ∧
      ∃ next, escaping (DataPacket.setCode field what dataPacket code) = .ok next) := by
  rw [DataPacket.setCode, SeedCode.set]
  by_cases hempty : isEmpty code = true
  · rw [dif_pos hempty]
    exact Or.inl ⟨hempty, _, rfl⟩
  · rw [dif_neg hempty]
    exact Or.inr ⟨by simpa using hempty, _, rfl⟩

theorem setCodes_cases (codes : SourceCodes) (dataPacket : DataPacket) :
    (codes.returnCode ≠ MS_NOERROR ∧ ∃ e, setCodes codes dataPacket = .error (.released e)) ∨
    (codes.returnCode = MS_NOERROR ∧
      (isEmpty codes.network = true ∨ isEmpty codes.station = true ∨
        isEmpty codes.channel = true ∨ isEmpty (locationOrDashes codes.location) = true) ∧
      ∃ e, setCodes codes dataPacket = .error (.escaped e)) ∨
    (codes.returnCode = MS_NOERROR ∧ isEmpty codes.network = false ∧
      isEmpty codes.station = false ∧ isEmpty codes.channel = false ∧
      isEmpty (locationOrDashes codes.location) = false ∧
      ∃ next, setCodes codes dataPacket = .ok next) := by
  rw [setCodes]
  by_cases hcode : codes.returnCode = MS_NOERROR
  · rw [if_pos hcode]
    rcases setCode_cases .network "Network is empty" codes.network dataPacket with
      ⟨hempty, e, he⟩ | ⟨hnetwork, dataPacket, hnext⟩
    · exact Or.inr (Or.inl ⟨hcode, Or.inl hempty, e, by rw [DataPacket.setNetwork, he]; rfl⟩)
    rw [DataPacket.setNetwork, hnext, ok_bind]
    rcases setCode_cases .station "Station is empty" codes.station dataPacket with
      ⟨hempty, e, he⟩ | ⟨hstation, dataPacket, hnext⟩
    · exact Or.inr (Or.inl ⟨hcode, Or.inr (Or.inl hempty), e, by
        rw [DataPacket.setStation, he]; rfl⟩)
    rw [DataPacket.setStation, hnext, ok_bind]
    rcases setCode_cases .channel "Channel is empty" codes.channel dataPacket with
      ⟨hempty, e, he⟩ | ⟨hchannel, dataPacket, hnext⟩
    · exact Or.inr (Or.inl ⟨hcode, Or.inr (Or.inr (Or.inl hempty)), e, by
        rw [DataPacket.setChannel, he]; rfl⟩)
    rw [DataPacket.setChannel, hnext, ok_bind]
    rcases setCode_cases .locationCode "Location is empty" (locationOrDashes codes.location)
        dataPacket with ⟨hempty, e, he⟩ | ⟨hlocation, dataPacket, hnext⟩
    · exact Or.inr (Or.inl ⟨hcode, Or.inr (Or.inr (Or.inr hempty)), e, he⟩)
    · exact Or.inr (Or.inr ⟨hcode, hnetwork, hstation, hchannel, hlocation, dataPacket, hnext⟩)
  · rw [if_neg hcode]
    exact Or.inl ⟨hcode, _, rfl⟩

theorem pointer_cases (record : MS3Record) :
    (record.sampletype ∈ ['i', 'f', 'd'] ∧
      ∃ x, record.pointer = some x ∧ x.isNull = record.datasamples.isNone) ∨
    (record.sampletype ∉ ['i', 'f', 'd'] ∧ record.pointer = none) := by
  rw [MS3Record.pointer]
  split
  case h_1 htype => exact Or.inl ⟨by simp [htype], _, rfl, by simp [SamplePointer.isNull]⟩
  case h_2 htype => exact Or.inl ⟨by simp [htype], _, rfl, by simp [SamplePointer.isNull]⟩
  case h_3 htype => exact Or.inl ⟨by simp [htype], _, rfl, by simp [SamplePointer.isNull]⟩
  case h_4 hi hf hd => exact Or.inr ⟨by simpa using ⟨hi, hf, hd⟩, rfl⟩

theorem setSamples_escaped_iff (record : MS3Record) (dataPacket : DataPacket) :
    (∃ e, setSamples record dataPacket = .error (.escaped e)) ↔
      0 < record.nSamples.toInt ∧ record.sampletype ∈ ['i', 'f', 'd'] ∧
        record.datasamples = none := by
  rw [setSamples]
  by_cases hpos : 0 < record.nSamples.toInt
  · rw [if_pos hpos]
    rcases pointer_cases record with ⟨htype, x, hx, hnull⟩ | ⟨htype, hx⟩
    · rw [hx]
      show (∃ e, escaping (dataPacket.setDataPointer record.nSamples x) = _) ↔ _
      rw [DataPacket.setDataPointer, if_neg (by omega), hnull]
      cases record.datasamples with
      | none => exact ⟨fun _ => ⟨hpos, htype, rfl⟩, fun _ => ⟨_, rfl⟩⟩
      | some data => simp [escaping]
    · rw [hx]
      simp [htype]
  · rw [if_neg hpos]
    simp [hpos]

/-- These are the records whose conversion leaves the function before the release. -/
theorem toDataPacket_escaped_iff (lib : LibMseed) (record : MS3Record) :
    (∃ e, toDataPacket lib record = .error (.escaped e)) ↔ Rejected lib record := by
  rw [toDataPacket, Rejected]
  rcases setCodes_cases (lib.ms_sid2nslc record.sid) DataPacket.new with
    ⟨hcode, e, he⟩ | ⟨hcode, hempty, e, he⟩ | ⟨hcode, hnetwork, hstation, hchannel, hlocation,
      dataPacket, hnext⟩
  · rw [he, error_bind]
    simp [hcode]
  · rw [he, error_bind]
    simp only [hcode, true_and]
    constructor
    · intro _
      rcases hempty with hnetwork | hstation | hchannel | hlocation
      · exact Or.inl hnetwork
      · exact Or.inr (Or.inl hstation)
      · exact Or.inr (Or.inr (Or.inl hchannel))
      · exact Or.inr (Or.inr (Or.inr (Or.inl hlocation)))
    · exact fun _ => ⟨e, rfl⟩
  · rw [hnext, ok_bind]
    simp only [hcode, hnetwork, hstation, hchannel, hlocation, true_and, Bool.false_eq_true,
      false_or]
    rw [DataPacket.setSamplingRate]
    by_cases hrate : record.samprate.nonPositive = true
    · rw [if_pos hrate]
      simp [escaping, hrate]
    · rw [if_neg hrate]
      simp only [hrate, Bool.false_eq_true, false_or]
      exact setSamples_escaped_iff record _

end Rejected

/-! ### Releases -/

/-- From the given call of `msr3_parse` on, every call that makes a record is followed by the
    release of that record, and nothing else is released. -/
inductive Released : Nat → List RecordEvent → Prop where
  | nil (call : Nat) : Released call []
  | nothing {call : Nat} {offset length : UInt64} {returnCode : Int32}
      {trace : List RecordEvent} (h : Released (call + 1) trace) :
      Released call (.parse ⟨offset, length, (returnCode, none)⟩ :: trace)
  | record {call : Nat} {offset length : UInt64} {returnCode : Int32} {record : MS3Record}
      {trace : List RecordEvent} (h : Released (call + 1) trace) :
      Released call
        (.parse ⟨offset, length, (returnCode, some record)⟩ :: .free call :: trace)

/-- A call that makes a record which a setter rejects. -/
def Leaks (lib : LibMseed) : RecordEvent → Prop
  | .parse ⟨_, _, (returnCode, some record)⟩ => returnCode = MS_NOERROR ∧ Rejected lib record
  | _ => False

theorem released_append_iff {call : Nat} {trace : List RecordEvent} (h : Released call trace)
    (later : List RecordEvent) :
    Released call (trace ++ later) ↔ Released (call + (parses trace).length) later := by
  induction h with
  | nil call => exact Iff.rfl
  | @nothing call offset length returnCode trace _ ih =>
    have hnext : Released call (.parse ⟨offset, length, (returnCode, none)⟩ :: (trace ++ later)) ↔
        Released (call + 1) (trace ++ later) :=
      ⟨fun h => by cases h; assumption, Released.nothing⟩
    have hcount : call + (parses (.parse ⟨offset, length, (returnCode, none)⟩ :: trace)).length =
        call + 1 + (parses trace).length := by
      simp only [parses, List.filterMap_cons, List.length_cons]
      omega
    rw [List.cons_append, hnext, ih, hcount]
  | @record call offset length returnCode record trace _ ih =>
    have hnext : Released call (.parse ⟨offset, length, (returnCode, some record)⟩ :: .free call ::
        (trace ++ later)) ↔ Released (call + 1) (trace ++ later) :=
      ⟨fun h => by cases h; assumption, Released.record⟩
    have hcount : call + (parses (.parse ⟨offset, length, (returnCode, some record)⟩ ::
        .free call :: trace)).length = call + 1 + (parses trace).length := by
      simp only [parses, List.filterMap_cons, List.length_cons]
      omega
    rw [List.cons_append, List.cons_append, hnext, ih, hcount]

theorem released_of_record (call : Nat) (offset length : UInt64) (returnCode : Int32)
    (record : MS3Record) :
    Released call [.parse ⟨offset, length, (returnCode, some record)⟩, .free call] :=
  Released.record (Released.nil _)

theorem not_released_of_record (call : Nat) (offset length : UInt64) (returnCode : Int32)
    (record : MS3Record) :
    ¬ Released call [.parse ⟨offset, length, (returnCode, some record)⟩] := by
  intro h
  cases h

section Releases

variable {lib : LibMseed} {msRecord : List UInt8} {bufferSize : Int32}

/-- Between two turns everything is released, and nothing has leaked. -/
structure Clean (lib : LibMseed) (s : Unpacking) : Prop where
  calls : s.calls = (parses s.trace).length
  released : Released 0 s.trace
  sound : ∀ event ∈ s.trace, ¬ Leaks lib event

theorem clean_start : Clean lib {} where
  calls := rfl
  released := Released.nil 0
  sound := by simp

/-- The events of a turn decide whether the trace stays clean. -/
theorem Clean.released_iff {s : Unpacking} (h : Clean lib s) (later : List RecordEvent) :
    Released 0 (s.trace ++ later) ↔ Released s.calls later := by
  rw [released_append_iff h.released, h.calls, Nat.zero_add]

theorem Clean.sound_append {s : Unpacking} (h : Clean lib s) {later : List RecordEvent}
    (hlater : ∀ event ∈ later, ¬ Leaks lib event) :
    ∀ event ∈ s.trace ++ later, ¬ Leaks lib event := by
  intro event hevent
  rcases List.mem_append.mp hevent with hpast | hnew
  · exact h.sound event hpast
  · exact hlater event hnew

/-- Where the record of a turn is released, or there is none, the trace stays clean. -/
theorem Clean.of_released {s : Unpacking} (h : Clean lib s) {events : List RecordEvent}
    (hreleased : Released s.calls (.parse (s.parse lib msRecord bufferSize) :: events))
    (hsound : ∀ event ∈ RecordEvent.parse (s.parse lib msRecord bufferSize) :: events,
      ¬ Leaks lib event) :
    Released 0 (s.parsed lib msRecord bufferSize events).trace ∧
      ∀ event ∈ (s.parsed lib msRecord bufferSize events).trace, ¬ Leaks lib event :=
  ⟨(h.released_iff _).mpr hreleased, h.sound_append hsound⟩

/-- After a turn the trace is clean, or the turn has thrown and its record has leaked. -/
theorem Clean.turn {s t : Unpacking} {thrown : Option StdException} (h : Clean lib s)
    (hturn : Turn lib msRecord bufferSize s (t, thrown)) :
    (Released 0 t.trace ∧ ∀ event ∈ t.trace, ¬ Leaks lib event) ∨
      (thrown ≠ none ∧ ¬ Released 0 t.trace ∧ ∃ event ∈ t.trace, Leaks lib event) := by
  -- a record leaks only if its conversion leaves the function from within a setter
  have hkept : ∀ {record : MS3Record} {returnCode : Int32} {offset length : UInt64} {call : Nat},
      (returnCode = MS_NOERROR → ∀ e, toDataPacket lib record ≠ .error (.escaped e)) →
      ∀ event ∈ [RecordEvent.parse ⟨offset, length, (returnCode, some record)⟩, .free call],
        ¬ Leaks lib event := by
    intro record returnCode offset length call hconversion event hevent
    rcases List.mem_pair.mp hevent with rfl | rfl
    · rintro ⟨hcode, hrejected⟩
      obtain ⟨e, he⟩ := (toDataPacket_escaped_iff lib record).mpr hrejected
      exact hconversion hcode e he
    · exact id
  cases hturn with
  | converted houtcome hpacket =>
    refine Or.inl (h.of_released ?_ ?_)
    · rw [Unpacking.parse, houtcome]
      exact released_of_record _ _ _ _ _
    · rw [Unpacking.parse, houtcome]
      exact hkept fun _ e => by simp [hpacket]
  | released houtcome hfails =>
    refine Or.inl (h.of_released ?_ ?_)
    · rw [Unpacking.parse, houtcome]
      exact released_of_record _ _ _ _ _
    · rw [Unpacking.parse, houtcome]
      refine hkept fun hcode e => ?_
      obtain ⟨e', he'⟩ := hfails hcode
      simp [he']
  | @escaped record e houtcome hfails =>
    refine Or.inr ⟨by simp, ?_, _, List.mem_append_right _ (List.mem_singleton.mpr rfl), ?_⟩
    · rw [Unpacking.parsed, h.released_iff, Unpacking.parse, houtcome]
      exact not_released_of_record _ _ _ _ _
    · rw [Unpacking.parse, houtcome]
      exact ⟨rfl, (toDataPacket_escaped_iff lib record).mp ⟨e, hfails⟩⟩
  | nothing houtcome =>
    refine Or.inl (h.of_released ?_ ?_)
    · rw [Unpacking.parse, houtcome]
      exact Released.nothing (Released.nil _)
    · rw [Unpacking.parse, houtcome]
      intro event hevent
      obtain rfl := List.mem_singleton.mp hevent
      exact id

/-- One turn: a turn that does not throw keeps the trace clean. -/
theorem Clean.step {s t : Unpacking} (h : Clean lib s)
    (hbody : unpackRecord lib msRecord bufferSize s = (t, none)) : Clean lib t := by
  have hturn : Turn lib msRecord bufferSize s (t, none) := hbody ▸ turn_unpackRecord s
  have hcalls : t.calls = (parses t.trace).length := by
    cases hturn with
    | converted _ _ =>
      have hparses : parses (s.parsed lib msRecord bufferSize [.free s.calls]).trace = _ :=
        parses_parsed s (some s.calls)
      show s.calls + 1 = (parses (s.parsed lib msRecord bufferSize [.free s.calls]).trace).length
      rw [hparses, List.length_append, List.length_singleton, h.calls]
  rcases h.turn hturn with ⟨hreleased, hsound⟩ | ⟨hthrown, -⟩
  · exact ⟨hcalls, hreleased, hsound⟩
  · exact absurd rfl hthrown

/-- **Releases.**  In a run every record that was parsed is released, once and before the
    next call of `msr3_parse`, if and only if none of the records was one that a setter
    rejects. -/
theorem records_released_iff (lib : LibMseed) (msRecord : List UInt8) (bufferSize : Int32)
    (fuel : Nat) :
    let trace := (unpack lib msRecord bufferSize fuel).state.trace
    Released 0 trace ↔ ∀ event ∈ trace, ¬ Leaks lib event := by
  have hends : (unpackLoop lib msRecord bufferSize).Ends (Clean lib)
      (unpack lib msRecord bufferSize fuel) :=
    WhileLoop.ends_run _ (fun _ _ h _ hbody => h.step hbody) clean_start fuel
  rcases hstand : unpack lib msRecord bufferSize fuel with t | ⟨t, e⟩ | t
  · rw [hstand] at hends
    exact ⟨fun _ => hends.1.sound, fun _ => hends.1.released⟩
  · rw [hstand] at hends
    obtain ⟨s, hs, -, hbody⟩ := hends
    have hturn : Turn lib msRecord bufferSize s (t, some e) := hbody ▸ turn_unpackRecord s
    rcases hs.turn hturn with ⟨hreleased, hsound⟩ | ⟨-, hreleased, event, hevent, hleaks⟩
    · exact ⟨fun _ => hsound, fun _ => hreleased⟩
    · exact ⟨fun h => absurd h hreleased, fun h => absurd hleaks (h event hevent)⟩
  · rw [hstand] at hends
    exact ⟨fun _ => hends.sound, fun _ => hends.released⟩

/-- The record of a channel without a sampling rate is never released. -/
theorem fork_log_record_leaks :
    ¬ Released 0 (unpack (observedLibMseed forkLogPayload (forkRecord (.finite 0)) forkCodes)
      forkLogPayload 65 1).state.trace := by
  have houtcome : parseOutcome
      (observedLibMseed forkLogPayload (forkRecord (.finite 0)) forkCodes) forkLogPayload 65 {} =
        (MS_NOERROR, some (forkRecord (.finite 0))) := by
    simp only [parseOutcome, observedLibMseed]
    exact if_pos (by decide)
  obtain ⟨e, he⟩ := (toDataPacket_escaped_iff
    (observedLibMseed forkLogPayload (forkRecord (.finite 0)) forkCodes)
    (forkRecord (.finite 0))).mpr ⟨by decide, by decide⟩
  have hbody := unpackRecord.eq_def
    (observedLibMseed forkLogPayload (forkRecord (.finite 0)) forkCodes) forkLogPayload 65 {}
  simp only [houtcome, he, if_true] at hbody
  rw [unpack, WhileLoop.run_of_throw _ (by decide) hbody]
  show ¬ Released 0 [.parse _]
  rw [Unpacking.parse, houtcome]
  exact not_released_of_record _ _ _ _ _

end Releases

end Us8.SEEDLink
