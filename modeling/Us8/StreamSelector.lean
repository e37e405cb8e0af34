/-
  Us8/StreamSelector.lean
  =======================
  **What the SEEDLink client asks the server for**
  (`broadcasts/dataPacket/seedLink/streamSelector.cpp` and the selectors of
  `clientOptions.cpp`).

  A `StreamSelector` names a network, a station and, through `setSelector`, the channels,
  the location code and the kind of packet.  `getSelector` puts the last three into the
  string that the server matches against.  Its seven branches, one a kind, all append a
  suffix to the same pattern (`locationChannel`), except that the branch for `all` puts
  the channel in once more.

  `ClientOptions` keeps the selectors that were added.  They have a network and no two of
  them ask for the same, which the structure carries.
-/
import Us8.DataPacket

namespace Us8

namespace SEEDLink

/-! ### One selector -/

/-- `StreamSelector::Type`, the kinds of packet to return. -/
inductive StreamType where
  | all
  | data
  | event
  | calibration
  | blockette
  | timing
  | log
deriving DecidableEq, Repr

structure StreamSelector where
  mNetwork : String := ""
  mStation : String := "*"
  mChannel : String := ""
  mLocationCode : String := ""
  mType : StreamType := .all
deriving DecidableEq

/-- `std::transform` with `::toupper`. -/
def upper (s : String) : String := String.ofList (s.toList.map toupper)

namespace StreamSelector

def setNetwork (selector : StreamSelector) (network : String) :
    Except StdException StreamSelector :=
  if network.length ≠ 2 then .error (.invalidArgument "Network size must 2")
  else .ok { selector with mNetwork := upper network }

def haveNetwork (selector : StreamSelector) : Bool := !selector.mNetwork.isEmpty

def setStation (selector : StreamSelector) (station : String) :
    Except StdException StreamSelector :=
  if station.isEmpty then .error (.invalidArgument "Station is empty")
  else .ok { selector with mStation := upper station }

def setSelector (selector : StreamSelector) (channel locationCode : String)
    (type : StreamType) : StreamSelector :=
  { selector with mChannel := channel, mLocationCode := locationCode, mType := type }

/-- The local variable of that name in `getSelector`. -/
def locationChannel (selector : StreamSelector) : String :=
  if selector.mLocationCode.isEmpty ∧ selector.mChannel.isEmpty then ""
  else
    (if selector.mLocationCode.isEmpty then "??" else selector.mLocationCode) ++
      (if selector.mChannel.isEmpty then "*" else selector.mChannel)

/-- The body that the branches for one kind of packet share. -/
def typedSelector (selector : StreamSelector) (suffix : String) : String :=
  if selector.locationChannel.isEmpty then "*" ++ suffix else selector.locationChannel ++ suffix

def getSelector (selector : StreamSelector) : String :=
  match selector.mType with
  | .all =>
      if selector.locationChannel.isEmpty then ""
      -- the channel is part of `locationChannel` already
      else selector.locationChannel ++ selector.mChannel ++ ".*"
  | .data => selector.typedSelector ".D"
  | .timing => selector.typedSelector ".T"
  | .log => selector.typedSelector ".L"
  | .event => selector.typedSelector ".E"
  | .blockette => selector.typedSelector ".B"
  | .calibration => selector.typedSelector ".C"

end StreamSelector

/-! ### The selector as it is meant -/

/-- The code of a kind of packet in a selector. -/
def StreamType.code : StreamType → String
  | .all => "*"
  | .data => "D"
  | .timing => "T"
  | .log => "L"
  | .event => "E"
  | .blockette => "B"
  | .calibration => "C"

/-- The part of a selector that says which channels at which locations. -/
def selectorPattern (channel locationCode : String) : String :=
  if channel = "" ∧ locationCode = "" then "*"
  else
    (if locationCode = "" then "??" else locationCode) ++ (if channel = "" then "*" else channel)

def intendedSelector (channel locationCode : String) (type : StreamType) : String :=
  if channel = "" ∧ locationCode = "" ∧ type = .all then ""
  else selectorPattern channel locationCode ++ "." ++ type.code

namespace StreamSelector

variable {selector : StreamSelector} {channel locationCode : String} {type : StreamType}

theorem append_ne_empty {s t : String} (h : t ≠ "") : s ++ t ≠ "" := by
  intro heq
  exact h (String.append_eq_empty_iff.mp heq).2

/-- Apart from the case that nothing is asked for, the pattern is the local variable. -/
theorem locationChannel_setSelector :
    (selector.setSelector channel locationCode type).locationChannel =
      if channel = "" ∧ locationCode = "" then "" else selectorPattern channel locationCode := by
  simp only [locationChannel, setSelector, String.isEmpty_iff, selectorPattern,
    and_comm (a := locationCode = "")]
  split_ifs <;> rfl

theorem selectorPattern_ne_empty : selectorPattern channel locationCode ≠ "" := by
  unfold selectorPattern
  split_ifs with hnone hlocation hchannel hchannel
  · decide
  · decide
  · exact append_ne_empty hchannel
  · exact append_ne_empty (by decide)
  · exact append_ne_empty hchannel

theorem typedSelector_setSelector (suffix : String) :
    (selector.setSelector channel locationCode type).typedSelector suffix =
      selectorPattern channel locationCode ++ suffix := by
  rw [typedSelector, locationChannel_setSelector]
  by_cases hnone : channel = "" ∧ locationCode = ""
  · simp [hnone, selectorPattern]
  · simp [hnone, selectorPattern_ne_empty]

/-- What the branch for all kinds returns. -/
theorem getSelector_all :
    (selector.setSelector channel locationCode .all).getSelector =
      if channel = "" ∧ locationCode = "" then ""
      else selectorPattern channel locationCode ++ channel ++ ".*" := by
  show (if (selector.setSelector channel locationCode .all).locationChannel.isEmpty then ""
    else (selector.setSelector channel locationCode .all).locationChannel ++ channel ++ ".*") = _
  rw [locationChannel_setSelector]
  by_cases hnone : channel = "" ∧ locationCode = ""
  · simp [hnone]
  · simp [hnone, selectorPattern_ne_empty]

/-- What the other branches return. -/
theorem getSelector_of_ne_all (htype : type ≠ .all) :
    (selector.setSelector channel locationCode type).getSelector =
      selectorPattern channel locationCode ++ "." ++ type.code := by
  rw [String.append_assoc]
  cases type with
  | all => exact absurd rfl htype
  | _ => exact typedSelector_setSelector _

end StreamSelector

/-- **When the selector string is the one that is meant**: for one kind of packet always,
    for all kinds only where no channel is given. -/
theorem getSelector_intended_iff (selector : StreamSelector) (channel locationCode : String)
    (type : StreamType) :
    (selector.setSelector channel locationCode type).getSelector =
        intendedSelector channel locationCode type ↔
      type ≠ .all ∨ channel = "" := by
  by_cases htype : type = .all
  · subst htype
    rw [StreamSelector.getSelector_all, intendedSelector]
    by_cases hchannel : channel = ""
    · by_cases hlocation : locationCode = ""
      · simp [hchannel, hlocation]
      · simp [hchannel, hlocation, StreamType.code, String.append_assoc]
    · -- the channel that is put in twice makes the string longer
      simp only [hchannel, false_and, if_false, ne_eq, not_true_eq_false, or_self, iff_false]
      intro heq
      have hlength := congrArg String.length heq
      have hpos : 0 < channel.length := by
        rw [Nat.pos_iff_ne_zero]
        simpa using hchannel
      have hstar : ".*".length = 2 := rfl
      have hdot : ".".length = 1 := rfl
      have hcode : StreamType.all.code.length = 1 := rfl
      simp only [String.length_append, hstar, hdot, hcode] at hlength
      omega
  · rw [StreamSelector.getSelector_of_ne_all htype, intendedSelector]
    simp [htype]

/-- All packets of channel HHZ at location 01: the string asks for a channel HHZHHZ. -/
theorem channel_of_all_twice :
    ¬ ((({} : StreamSelector).setSelector "HHZ" "01" .all).getSelector =
      intendedSelector "HHZ" "01" .all) := by
  decide

/-! ### The selectors of the client's options -/

/-- Two selectors ask the server for the same. -/
def StreamSelector.Same (mine other : StreamSelector) : Prop :=
  mine.mNetwork = other.mNetwork ∧ mine.mStation = other.mStation ∧
    mine.getSelector = other.getSelector

instance (mine other : StreamSelector) : Decidable (mine.Same other) :=
  inferInstanceAs (Decidable (_ ∧ _ ∧ _))

structure ClientOptions where
  mAddress : String := "rtserve.iris.washington.edu"
  mStateFile : String := ""
  mSelectors : List StreamSelector := []
  mStateFileInterval : UInt16 := 100
  mPort : UInt16 := 18000
  haveNetworks : ∀ selector ∈ mSelectors, selector.haveNetwork = true := by simp
  distinct : mSelectors.Pairwise fun mine other => ¬ mine.Same other := by simp

namespace ClientOptions

def new : ClientOptions := {}

def setAddress (options : ClientOptions) (address : String) :
    Except StdException ClientOptions :=
  if address.isEmpty then .error (.invalidArgument "Address is empty")
  else .ok { options with mAddress := address }

def setPort (options : ClientOptions) (port : UInt16) : ClientOptions :=
  { options with mPort := port }

/-- The file's directory is there, or can be made. -/
def setStateFile (options : ClientOptions) (stateFileName : String) : ClientOptions :=
  { options with mStateFile := stateFileName }

def haveStateFile (options : ClientOptions) : Bool := !options.mStateFile.isEmpty

def setStateFileUpdateInterval (options : ClientOptions) (interval : UInt16) : ClientOptions :=
  { options with mStateFileInterval := interval }

def getStateFileUpdateInterval (options : ClientOptions) : UInt16 := options.mStateFileInterval

def addStreamSelector (options : ClientOptions) (selector : StreamSelector) :
    Except StdException ClientOptions :=
  if hnetwork : selector.haveNetwork = false then
    .error (.invalidArgument "Network not set")
  else if hduplicate : ∃ mine ∈ options.mSelectors, mine.Same selector then
    .error (.invalidArgument "Duplicate selector")
  else
    .ok
      { options with
        mSelectors := options.mSelectors ++ [selector]
        haveNetworks := by
          intro other hother
          rcases List.mem_append.mp hother with hold | hnew
          · exact options.haveNetworks other hold
          · rw [List.mem_singleton.mp hnew]
            simpa using hnetwork
        distinct := by
          rw [List.pairwise_append]
          refine ⟨options.distinct, List.pairwise_singleton _ _, ?_⟩
          intro mine hmine other hother
          rw [List.mem_singleton.mp hother]
          exact fun hsame => hduplicate ⟨mine, hmine, hsame⟩ }

/-- A selector with a network that asks for something new is appended. -/
theorem addStreamSelector_ok {options : ClientOptions} {selector : StreamSelector}
    (hnetwork : selector.haveNetwork = true)
    (hnew : ∀ mine ∈ options.mSelectors, ¬ mine.Same selector) :
    ∃ next, options.addStreamSelector selector = .ok next ∧
      next.mSelectors = options.mSelectors ++ [selector] := by
  unfold addStreamSelector
  rw [dif_neg (by simp [hnetwork]),
    dif_neg (by rintro ⟨mine, hmine, hsame⟩; exact hnew mine hmine hsame)]
  exact ⟨_, rfl, rfl⟩

end ClientOptions

end SEEDLink

end Us8
