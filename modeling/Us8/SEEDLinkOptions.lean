/-
  Us8/SEEDLinkOptions.lean
  ========================
  **The selectors in the initialization file** (`getSEEDLinkOptions` of
  `broadcasts/dataPacket/seedLink/publisher.cpp`).

  A `data_selector_N` entry is a list of selectors, each a few fields separated by blanks:
  network, station, channel, location code and kind of packet, of which all but the first
  may be left out.  `SelectorFields` is one selector as it is written down, `Writes` and
  `Denotes` say which texts write one and a list of them.

  For each field after the first the source compares a length with the position of the
  field before it reads it.  The length is that of the text and not the number of fields,
  so it reads five fields whatever there is (`parseSelector_of_writes`).
-/
import Us8.Sanitizer
import Us8.StreamSelector
import Us8.Tokens

namespace Us8

namespace SEEDLink

/-! ### Reading the entries -/

/-- The property tree also gives port numbers. -/
structure PortTree extends PropertyTree where
  getPort : String → Option UInt16

/-- `boost::algorithm::trim`. -/
def trim (s : String) : String := String.ofList (Tokens.trim isspace s.toList)

def isListSeparator (c : Char) : Bool := c == ',' || c == '|'

def isFieldSeparator (c : Char) : Bool := c == ' ' || c == '\t'

/-- `boost::split` with `boost::is_any_of`. -/
def split (isSeparator : Char → Bool) (s : String) : List String :=
  (s.toList.splitOnP isSeparator).map String.ofList

/-- `std::vector::at`. -/
def fieldAt (thisSelector : List String) (i : Nat) : Except StdException String :=
  match thisSelector[i]? with
  | some field => .ok field
  | none => .error (.outOfRange ("vector::_M_range_check: __n (which is " ++ toString i ++
      ") >= this->size() (which is " ++ toString thisSelector.length ++ ")"))

/-- Any other text than D leaves the default. -/
def toStreamType (field : String) : StreamType :=
  if field = "D" then .data else .all

/-- What the loop does with the field at a position, if the text of the selector is longer
    than the position. -/
def withField {α : Type} (splitSelector : String) (thisSelector : List String) (i : Nat)
    (default : α) (use : String → Except StdException α) : Except StdException α :=
  if splitSelector.length > i then fieldAt thisSelector i >>= fun field => use (trim field)
  else .ok default

/-- The station, the channel, the location code and the kind of packet. -/
def readOptionalFields (splitSelector : String) (thisSelector : List String)
    (selector : StreamSelector) : Except StdException StreamSelector := do
  let selector ← withField splitSelector thisSelector 1 selector selector.setStation
  let channel ← withField splitSelector thisSelector 2 "*" .ok
  let locationCode ← withField splitSelector thisSelector 3 "??" .ok
  let dataType ← withField splitSelector thisSelector 4 .all fun field => .ok (toStreamType field)
  return selector.setSelector channel locationCode dataType

/-- The body of the loop on the selectors of one entry, up to `addStreamSelector`. -/
def parseSelector (thisSplitSelector : String) : Except StdException StreamSelector := do
  let splitSelector := trim thisSplitSelector
  let thisSelector := split isFieldSeparator splitSelector
  let selector : StreamSelector := {}
  if splitSelector.isEmpty then throw (.invalidArgument "Empty selector")
  let network ← fieldAt thisSelector 0
  let selector ← selector.setNetwork (trim network)
  readOptionalFields splitSelector thisSelector selector

def addParsed (clientOptions : ClientOptions) (thisSplitSelector : String) :
    Except StdException ClientOptions := do
  let selector ← parseSelector thisSplitSelector
  clientOptions.addStreamSelector selector

def addSelectors (clientOptions : ClientOptions) (selectorString : String) :
    Except StdException ClientOptions :=
  (split isListSeparator selectorString).foldlM addParsed clientOptions

def selectorName (clientName : String) (iSelector : Nat) : String :=
  clientName ++ ".data_selector_" ++ toString iSelector

def getSEEDLinkOptions (propertyTree : PortTree) (clientName : String) :
    Except StdException ClientOptions := do
  let clientOptions := ClientOptions.new
  let address ←
    match propertyTree.getString (clientName ++ ".address") with
    | some address => pure address
    | none => throw (.runtimeError ("No such node (" ++ clientName ++ ".address)"))
  let port := (propertyTree.getPort (clientName ++ ".port")).getD 18000
  let clientOptions ← clientOptions.setAddress address
  let clientOptions := clientOptions.setPort port
  (List.range' 1 32768).foldlM (fun clientOptions iSelector =>
    match propertyTree.getString (selectorName clientName iSelector) with
    | some selectorString => addSelectors clientOptions selectorString
    | none => pure clientOptions) clientOptions

/-! ### What an entry is meant to say -/

/-- A field: not empty, without separators, and with nothing to trim. -/
structure IsField (field : String) : Prop where
  ne_empty : field ≠ ""
  clean : ∀ c ∈ field.toList, isFieldSeparator c = false ∧ isListSeparator c = false
  trimmed : trim field = field

theorem isField_of_all {field : String} (hne : field ≠ "")
    (hclean : (field.toList.all fun c => !isFieldSeparator c && !isListSeparator c) = true)
    (htrimmed : trim field = field) : IsField field where
  ne_empty := hne
  clean := fun c hc => by simpa using List.all_eq_true.mp hclean c hc
  trimmed := htrimmed

/-- A selector as it is written down; `rest` are the station, the channel, the location
    code and the kind of packet, as far as they are given. -/
structure SelectorFields where
  network : String
  rest : List String
  network_length : network.length = 2
  rest_length : rest.length ≤ 4
  isField : ∀ field ∈ network :: rest, IsField field
  type : ∀ field, rest[3]? = some field → field = "D" ∨ field = "A"

namespace SelectorFields

/-- What is asked for, with the defaults for what is left out. -/
def selector (fields : SelectorFields) : StreamSelector where
  mNetwork := upper fields.network
  mStation := (fields.rest[0]?.map upper).getD "*"
  mChannel := fields.rest[1]?.getD "*"
  mLocationCode := fields.rest[2]?.getD "??"
  mType := if fields.rest[3]? = some "D" then .data else .all

/-- After trimming, the text consists of the fields with single separators. -/
def Writes (text : String) (fields : SelectorFields) : Prop :=
  Tokens.Joined isFieldSeparator ((fields.network :: fields.rest).map String.toList)
    (Tokens.trim isspace text.toList)

end SelectorFields

/-- The text is a list of texts of these selectors. -/
def Denotes (text : String) (selectors : List SelectorFields) : Prop :=
  ∃ parts : List String, Tokens.Joined isListSeparator (parts.map String.toList) text.toList ∧
    List.Forall₂ SelectorFields.Writes parts selectors

theorem selectorName_injective (clientName : String) :
    Function.Injective (selectorName clientName) := by
  intro i j h
  have hdigits : (toString i).toList = (toString j).toList := by
    simpa [selectorName, String.append_right_inj] using congrArg String.toList h
  rw [Nat.toString_eq_repr, Nat.toString_eq_repr, Nat.toList_repr, Nat.toList_repr] at hdigits
  rw [← Nat.ofDigitChars_toDigits (b := 10) (n := i) (by omega) (by omega), hdigits,
    Nat.ofDigitChars_toDigits (by omega) (by omega)]

/-- The entries that are there, in order. -/
def selectorStrings (propertyTree : PortTree) (clientName : String) : List String :=
  (List.range' 1 32768).filterMap fun iSelector =>
    propertyTree.getString (selectorName clientName iSelector)

/-! ### Reading one selector -/

theorem map_ofList_toList (parts : List String) :
    (parts.map String.toList).map String.ofList = parts := by
  simp

section Writes

variable {text : String} {fields : SelectorFields} (h : fields.Writes text)
include h

theorem split_trim : split isFieldSeparator (trim text) = fields.network :: fields.rest := by
  have hclean : ∀ part ∈ (fields.network :: fields.rest).map String.toList, ∀ c ∈ part,
      isFieldSeparator c = false := by
    intro part hpart c hc
    obtain ⟨field, hfield, rfl⟩ := List.mem_map.mp hpart
    exact ((fields.isField field hfield).clean c hc).1
  rw [split, trim, String.toList_ofList, Tokens.splitOnP_of_joined h hclean, map_ofList_toList]

/-- The text of a selector has at least twice as many characters as it has fields. -/
theorem two_mul_le_length_trim : 2 * (fields.rest.length + 1) ≤ (trim text).length := by
  have hne : ∀ part ∈ fields.rest.map String.toList, part ≠ [] := by
    intro part hpart
    obtain ⟨field, hfield, rfl⟩ := List.mem_map.mp hpart
    have := (fields.isField field (List.mem_cons_of_mem _ hfield)).ne_empty
    simpa using this
  have hnetwork := fields.network_length
  rw [trim, String.length_ofList]
  unfold SelectorFields.Writes at h
  rw [List.map_cons] at h
  generalize Tokens.trim isspace text.toList = l at h ⊢
  generalize hparts : fields.rest.map String.toList = parts at h hne
  have hlength : fields.rest.length = parts.length := by rw [← hparts, List.length_map]
  rw [hlength]
  cases h with
  | single =>
    rw [List.length_nil, String.length_toList]
    omega
  | cons _ separator _ hrest =>
    have := hrest.two_mul_length_le hne
    rw [List.length_append, List.length_cons, String.length_toList]
    omega

/-- A text that a list separator is part of writes no selector. -/
theorem clean_of_writes : ∀ c ∈ text.toList, isListSeparator c = false := by
  intro c hc
  cases hspace : isspace c with
  | true =>
    have hnat := (isspace_iff c).mp hspace
    have hcomma : c ≠ ',' := by rintro rfl; simp at hnat
    have hbar : c ≠ '|' := by rintro rfl; simp at hnat
    simp [isListSeparator, hcomma, hbar]
  | false =>
    rcases h.mem (Tokens.mem_trim_of_mem hc hspace) with hseparator | ⟨part, hpart, hin⟩
    · have hor : c = ' ' ∨ c = '\t' := by simpa [isFieldSeparator] using hseparator
      rcases hor with rfl | rfl <;> rfl
    · obtain ⟨field, hfield, rfl⟩ := List.mem_map.mp hpart
      exact ((fields.isField field hfield).clean c hin).2

/-- The network is there, so only what follows it decides how reading ends. -/
theorem parseSelector_eq : parseSelector text =
    readOptionalFields (trim text) (fields.network :: fields.rest)
      { mNetwork := upper fields.network } := by
  have hlength := two_mul_le_length_trim h
  have hne : (trim text).isEmpty = false := by
    rw [Bool.eq_false_iff, ne_eq, String.isEmpty_iff]
    intro hempty
    rw [hempty] at hlength
    simp at hlength
  have htrimmed := (fields.isField fields.network (by simp)).trimmed
  simp [parseSelector, split_trim h, hne, fieldAt, htrimmed, StreamSelector.setNetwork,
    fields.network_length]

end Writes

section Fields

variable {fields : SelectorFields} {splitSelector : String}

/-- A field that is there is used as it is written. -/
theorem withField_of_getElem? {α : Type} {i : Nat} {field : String}
    (hlong : i + 1 < splitSelector.length) (hfield : fields.rest[i]? = some field)
    (default : α) (use : String → Except StdException α) :
    withField splitSelector (fields.network :: fields.rest) (i + 1) default use = use field := by
  have hmem := List.mem_cons_of_mem fields.network (List.mem_of_getElem? hfield)
  rw [withField, if_pos hlong, fieldAt, List.getElem?_cons_succ, hfield]
  simp [(fields.isField field hmem).trimmed]

/-- A field that is not there is read all the same. -/
theorem lt_length_of_withField_ok {α : Type} {i : Nat} (hlong : i + 1 < splitSelector.length)
    {default result : α} {use : String → Except StdException α}
    (hok : withField splitSelector (fields.network :: fields.rest) (i + 1) default use =
      .ok result) : i < fields.rest.length := by
  by_contra hend
  have hnone : (fields.network :: fields.rest)[i + 1]? = none :=
    List.getElem?_eq_none (by simpa using hend)
  simp [withField, hlong, fieldAt, hnone] at hok

/-- Where reading succeeds, each field is there: the length of the text lets each one be
    read that follows a field. -/
theorem four_le_of_readOptionalFields {selector result : StreamSelector}
    (hlength : 2 * (fields.rest.length + 1) ≤ splitSelector.length)
    (hok : readOptionalFields splitSelector (fields.network :: fields.rest) selector =
      .ok result) : 4 ≤ fields.rest.length := by
  simp only [readOptionalFields, bind_eq_ok_iff] at hok
  obtain ⟨_, hstation, _, hchannel, _, hlocation, _, htype, -⟩ := hok
  have hone := lt_length_of_withField_ok (by omega) hstation
  have htwo := lt_length_of_withField_ok (by omega) hchannel
  have hthree := lt_length_of_withField_ok (by omega) hlocation
  exact lt_length_of_withField_ok (by omega) htype

end Fields

section Writes

variable {text : String} {fields : SelectorFields} (h : fields.Writes text)
include h

/-- Five fields are read as they are written. -/
theorem parseSelector_of_five (hfive : fields.rest.length = 4) :
    parseSelector text = .ok fields.selector := by
  have hlength := two_mul_le_length_trim h
  rw [parseSelector_eq h]
  generalize trim text = splitSelector at hlength ⊢
  obtain ⟨station, channel, location, type, hrest⟩ :
      ∃ station channel location type, fields.rest = [station, channel, location, type] := by
    match hrest : fields.rest, hfive with
    | [station, channel, location, type], _ => exact ⟨station, channel, location, type, rfl⟩
  have hstation : station ≠ "" := (fields.isField station (by simp [hrest])).ne_empty
  have hread : ∀ {α : Type} {i : Nat} {field : String}, i < 4 → fields.rest[i]? = some field →
      ∀ (default : α) (use : String → Except StdException α),
        withField splitSelector (fields.network :: fields.rest) (i + 1) default use =
          use field :=
    fun hi hfield => withField_of_getElem? (by omega) hfield
  rw [readOptionalFields, hread (i := 0) (by omega) (by rw [hrest]; rfl)]
  have hchannel : fields.rest[1]? = some channel := by rw [hrest]; rfl
  have hlocation : fields.rest[2]? = some location := by rw [hrest]; rfl
  have htype : fields.rest[3]? = some type := by rw [hrest]; rfl
  simp only [hread (by omega) hchannel, hread (by omega) hlocation, hread (by omega) htype]
  simp [StreamSelector.setStation, hstation, StreamSelector.setSelector,
    SelectorFields.selector, hrest, toStreamType]

/-- With fewer fields, reading the one after the last throws. -/
theorem parseSelector_of_fewer (hfewer : fields.rest.length < 4) :
    ∃ e, parseSelector text = .error e := by
  cases hparse : parseSelector text with
  | error e => exact ⟨e, rfl⟩
  | ok selector =>
    rw [parseSelector_eq h] at hparse
    have := four_le_of_readOptionalFields (two_mul_le_length_trim h) hparse
    omega

end Writes

/-! ### Reading all entries -/

theorem haveNetwork_selector (fields : SelectorFields) :
    fields.selector.haveNetwork = true := by
  have hlength : (upper fields.network).length = 2 := by
    rw [upper, String.length_ofList, List.length_map, String.length_toList,
      fields.network_length]
  rw [StreamSelector.haveNetwork, Bool.not_eq_true', Bool.eq_false_iff, ne_eq,
    String.isEmpty_iff]
  intro hempty
  have hnone : upper fields.network = "" := hempty
  rw [hnone] at hlength
  simp at hlength

/-- An entry is split into the texts of its selectors. -/
theorem forall₂_split_of_denotes {text : String} {selectors : List SelectorFields}
    (h : Denotes text selectors) :
    List.Forall₂ SelectorFields.Writes (split isListSeparator text) selectors := by
  obtain ⟨parts, hjoined, hwrites⟩ := h
  have hclean : ∀ part ∈ parts.map String.toList, ∀ c ∈ part, isListSeparator c = false := by
    clear hjoined
    induction hwrites with
    | nil => simp
    | cons hfields _ ih =>
      rw [List.map_cons, List.forall_mem_cons]
      exact ⟨clean_of_writes hfields, ih⟩
  rw [split, Tokens.splitOnP_of_joined hjoined hclean, map_ofList_toList]
  exact hwrites

/-- From any options the rest of the texts succeeds exactly if all have five fields. -/
theorem foldlM_addParsed {parts : List String} {selectors : List SelectorFields}
    (h : List.Forall₂ SelectorFields.Writes parts selectors) (options : ClientOptions)
    (hnew : ∀ fields ∈ selectors, ∀ mine ∈ options.mSelectors, ¬ mine.Same fields.selector)
    (hdistinct : (selectors.map SelectorFields.selector).Pairwise
      fun mine other => ¬ mine.Same other) :
    (∃ next, parts.foldlM addParsed options = .ok next ∧
        next.mSelectors = options.mSelectors ++ selectors.map SelectorFields.selector) ↔
      ∀ fields ∈ selectors, fields.rest.length = 4 := by
  induction h generalizing options with
  | nil => simp
  | cons hwrites _ ih =>
    rename_i text fields parts selectors _
    rw [List.map_cons, List.pairwise_cons] at hdistinct
    rw [List.foldlM_cons, List.forall_mem_cons, addParsed]
    by_cases hfive : fields.rest.length = 4
    · obtain ⟨next, hadd, hselectors⟩ := ClientOptions.addStreamSelector_ok
        (haveNetwork_selector fields) (hnew fields (by simp))
      have hnext : ∀ other ∈ selectors, ∀ mine ∈ next.mSelectors,
          ¬ mine.Same other.selector := by
        intro other hother mine hmine
        rw [hselectors, List.mem_append, List.mem_singleton] at hmine
        rcases hmine with hold | rfl
        · exact hnew other (by simp [hother]) mine hold
        · exact hdistinct.1 _ (List.mem_map_of_mem hother)
      rw [parseSelector_of_five hwrites hfive, ok_bind, hadd, ok_bind, List.map_cons,
        List.append_cons, ← hselectors, ih next hnext hdistinct.2]
      simp [hfive]
    · have hle := fields.rest_length
      obtain ⟨e, herror⟩ := parseSelector_of_fewer hwrites (by omega)
      simp [herror, hfive]

/-- The two nested loops are one loop on the texts of all selectors. -/
theorem foldlM_addSelectors (selectorStrings : List String) (options : ClientOptions) :
    selectorStrings.foldlM addSelectors options =
      (selectorStrings.flatMap (split isListSeparator)).foldlM addParsed options := by
  induction selectorStrings generalizing options with
  | nil => rw [List.flatMap_nil, List.foldlM_nil, List.foldlM_nil]
  | cons selectorString rest ih =>
    rw [List.foldlM_cons, List.flatMap_cons, List.foldlM_append]
    exact bind_congr fun next => ih next

/-- With an address, the entries decide how reading the options ends. -/
theorem getSEEDLinkOptions_eq {propertyTree : PortTree} {clientName address : String}
    (haddress : propertyTree.getString (clientName ++ ".address") = some address)
    (hne : address ≠ "") :
    ∃ options : ClientOptions, options.mSelectors = [] ∧
      getSEEDLinkOptions propertyTree clientName =
        ((selectorStrings propertyTree clientName).flatMap (split isListSeparator)).foldlM
          addParsed options := by
  refine ⟨ClientOptions.setPort { mAddress := address }
    ((propertyTree.getPort (clientName ++ ".port")).getD 18000), rfl, ?_⟩
  rw [← foldlM_addSelectors, selectorStrings, List.foldlM_filterMap]
  simp only [getSEEDLinkOptions, haddress, pure_eq_ok, ok_bind, ClientOptions.setAddress,
    String.isEmpty_iff, hne, if_false]
  congr 1
  funext clientOptions iSelector
  cases propertyTree.getString (selectorName clientName iSelector) <;> rfl

/-- **Which selectors in the initialization file reach the options.**  Where every entry
    is a list of selectors and no two selectors ask for the same, the options are read and
    hold just these selectors, in order, if and only if each of them has all five
    fields. -/
theorem getSEEDLinkOptions_reads_iff {propertyTree : PortTree} {clientName address : String}
    (haddress : propertyTree.getString (clientName ++ ".address") = some address)
    (hne : address ≠ "") (lists : List (List SelectorFields))
    (hentries : List.Forall₂ Denotes (selectorStrings propertyTree clientName) lists)
    (hdistinct : (lists.flatten.map SelectorFields.selector).Pairwise
      fun mine other => ¬ mine.Same other) :
    (∃ options, getSEEDLinkOptions propertyTree clientName = .ok options ∧
        options.mSelectors = lists.flatten.map SelectorFields.selector) ↔
      ∀ fields ∈ lists.flatten, (fields.network :: fields.rest).length = 5 := by
  obtain ⟨options, hnone, heq⟩ := getSEEDLinkOptions_eq haddress hne
  have hwrites : List.Forall₂ SelectorFields.Writes
      ((selectorStrings propertyTree clientName).flatMap (split isListSeparator))
      lists.flatten := by
    rw [← List.flatMap_id]
    exact List.rel_flatMap hentries fun _ _ => forall₂_split_of_denotes
  have hfold := foldlM_addParsed hwrites options (by simp [hnone]) hdistinct
  rw [hnone, List.nil_append] at hfold
  rw [heq, hfold]
  simp

/-! ### A selector with five fields, and one with two -/

/-- An initialization file whose only entry is the given text. -/
def forkTree (entry : String) : PortTree where
  getString path :=
    if path = "SEEDLink.data_selector_1" then some entry
    else if path = "SEEDLink.address" then some "localhost"
    else none
  getInt _ := none
  getPort _ := none

theorem selectorStrings_forkTree (entry : String) :
    selectorStrings (forkTree entry) "SEEDLink" = [entry] := by
  have hname : ∀ i, selectorName "SEEDLink" i ≠ "SEEDLink.address" := by
    intro i hi
    have hstart := congrArg (fun s => s.toList.take 10) hi
    simp [selectorName, String.toList_append] at hstart
  have hother : ∀ i ∈ List.range' 2 32767,
      (forkTree entry).getString (selectorName "SEEDLink" i) = none := by
    intro i hi
    have hne : selectorName "SEEDLink" i ≠ selectorName "SEEDLink" 1 := by
      intro heq
      have := selectorName_injective "SEEDLink" heq
      simp at hi
      omega
    have hfirst : selectorName "SEEDLink" 1 = "SEEDLink.data_selector_1" := rfl
    rw [hfirst] at hne
    simp [forkTree, hne, hname i]
  show ((1 :: List.range' 2 32767).filterMap _) = [entry]
  rw [List.filterMap_cons, List.filterMap_eq_nil_iff.mpr hother]
  rfl

/-- Station, channel, location code and kind of packet given. -/
def forkFields : SelectorFields where
  network := "UU"
  rest := ["FORK", "HHZ", "01", "D"]
  network_length := by decide
  rest_length := by decide
  isField := by
    intro field hfield
    have hor : field = "UU" ∨ field = "FORK" ∨ field = "HHZ" ∨ field = "01" ∨ field = "D" := by
      simpa using hfield
    rcases hor with rfl | rfl | rfl | rfl | rfl <;>
      exact isField_of_all (by decide) (by decide) (by decide)
  type := by simp

theorem fork_five_fields_read :
    (∃ options, getSEEDLinkOptions (forkTree "UU FORK HHZ 01 D") "SEEDLink" = .ok options ∧
        options.mSelectors = [[forkFields]].flatten.map SelectorFields.selector) ↔
      ∀ fields ∈ [[forkFields]].flatten, (fields.network :: fields.rest).length = 5 := by
  have hwrites : SelectorFields.Writes "UU FORK HHZ 01 D" forkFields := by
    have hlast : Tokens.Joined isFieldSeparator ["D".toList] "D".toList := .single _
    have hjoined := (((hlast.cons "01".toList ' ' rfl).cons "HHZ".toList ' ' rfl).cons
      "FORK".toList ' ' rfl).cons "UU".toList ' ' rfl
    exact hjoined
  have hdenotes : Denotes "UU FORK HHZ 01 D" [forkFields] :=
    ⟨["UU FORK HHZ 01 D"], .single _, .cons hwrites .nil⟩
  have haddress : (forkTree "UU FORK HHZ 01 D").getString ("SEEDLink" ++ ".address") =
      some "localhost" := by decide
  refine getSEEDLinkOptions_reads_iff haddress (by decide) [[forkFields]] ?_ (by simp)
  rw [selectorStrings_forkTree]
  exact .cons hdenotes .nil

/-- Only network and station: the third field is read although there is none. -/
theorem two_fields_not_read :
    ¬ ∃ options, getSEEDLinkOptions (forkTree "UU FORK") "SEEDLink" = .ok options ∧
      options.mSelectors =
        [({ mNetwork := "UU", mStation := "FORK", mChannel := "*", mLocationCode := "??",
            mType := .all } : StreamSelector)] := by
  rintro ⟨options, hread, -⟩
  have haddress : (forkTree "UU FORK").getString ("SEEDLink" ++ ".address") =
      some "localhost" := by decide
  obtain ⟨start, -, heq⟩ := getSEEDLinkOptions_eq haddress (by decide)
  have hparts : ["UU FORK"].flatMap (split isListSeparator) = ["UU FORK"] := by decide
  have hparse : parseSelector "UU FORK" = .error (.outOfRange
      "vector::_M_range_check: __n (which is 2) >= this->size() (which is 2)") := by decide
  rw [heq, selectorStrings_forkTree, hparts, List.foldlM_cons, addParsed, hparse] at hread
  cases hread

end SEEDLink

end Us8
