/-
  Us8/ZapService.lean
  ===================
  **The authentication service's answer to a ZAP request**
  (`messaging/zeromq/authentication/service.cpp`, the body of `runZAPThread` for one
  request; the credentials of `messaging/authentication/credential`; `grasslands.cpp`).

  A request is a list of frames: version, sequence number, domain, address, identity,
  mechanism, and then what the mechanism needs.  The reply carries a status that ZeroMQ
  acts on, 200 for "let the peer in".  The service asks its authenticator about the
  address, takes credentials out of the frames, and never asks about the credentials:
  it builds them and drops them.  For PLAIN it also takes the user name from the frame
  of the mechanism, one too early, so the frame with the user name ends up as the
  password.  `Entitled` is what a reply of 200 should mean; `grant_correct_iff` says on
  which requests it does.

  Frames are byte strings, as `std::string` is.  A frame that is not there makes `at`
  throw `std::out_of_range`.
-/
import Us8.Outcome
import Mathlib.Data.List.Basic
import Mathlib.Logic.Unique

namespace Us8

abbrev Frame := List UInt8

def bytes (text : String) : Frame := text.toList.flatMap String.utf8EncodeChar

/-! ### Credentials and authenticators -/

/-- The exceptions of `US8::Messaging::Authentication::Exceptions`, and any other. -/
inductive AuthException where
  | badRequest (what : String)
  | unauthorized (what : String)
  | forbidden (what : String)
  | internalServerError (what : String)
  | other (e : StdException)
deriving DecidableEq

structure UserNameAndPassword where
  mUserName : Frame
  mPassword : Frame := []
  mHavePassword : Bool := false
  userName_ne_nil : mUserName ≠ []
deriving DecidableEq

/-- The constructor from a user name and a password; an empty password is none. -/
def UserNameAndPassword.new (userName password : Frame) :
    Except AuthException UserNameAndPassword :=
  if h : userName = [] then .error (.other (.invalidArgument "User name is empty"))
  else if password = [] then .ok { mUserName := userName, userName_ne_nil := h }
  else
    .ok {
      mUserName := userName
      mPassword := password
      mHavePassword := true
      userName_ne_nil := h }

structure KeyPair where
  mPublicKey : Frame
  mPrivateKey : Frame := []
  publicKey_ne_nil : mPublicKey ≠ []
deriving DecidableEq

def KeyPair.new (publicKey : Frame) : Except AuthException KeyPair :=
  if h : publicKey = [] then .error (.other (.invalidArgument "Public key is empty"))
  else .ok { mPublicKey := publicKey, publicKey_ne_nil := h }

/-- An authenticator is known by its four checks: each accepts or throws. -/
structure IAuthenticator where
  whiteListed : Frame → Except AuthException Unit
  blackListed : Frame → Except AuthException Unit
  authenticateUser : UserNameAndPassword → Except AuthException String
  authenticateKey : KeyPair → Except AuthException String

def grasslands : IAuthenticator where
  whiteListed _ := .ok ()
  blackListed _ := .ok ()
  authenticateUser _ := .ok "OK"
  authenticateKey _ := .ok "OK"

def Accepts {α : Type} (check : Except AuthException α) : Prop := ∃ a, check = .ok a

/-! ### The service -/

structure ServiceImpl where
  mAuthenticator : Option IAuthenticator
  mAuthenticatorIdentifier : String := "US8ZMAAuth"

/-- `multipart_t::at`. -/
def frameAt (request : List Frame) (index : Nat) : Except StdException Frame :=
  match request[index]? with
  | some frame => .ok frame
  | none => .error (.outOfRange "deque::_M_range_check")

def credentialAt (request : List Frame) (index : Nat) : Except AuthException Frame :=
  match frameAt request index with
  | .ok frame => .ok frame
  | .error e => .error (.other e)

def checkPlain (request : List Frame) : Except AuthException Unit := do
  let user ← credentialAt request 5
  let password ← credentialAt request 6
  if user = [] then throw (.badRequest "User name is empty")
  let _plainText ← UserNameAndPassword.new user password
  return ()

def checkCurve (request : List Frame) : Except AuthException Unit := do
  let keyExpectedLength := 32
  let publicKey ← credentialAt request 6
  if publicKey.length ≠ keyExpectedLength then
    throw (.badRequest ("Key must be length " ++ toString keyExpectedLength))
  let _key ← KeyPair.new publicKey
  return ()

/-- The block that ends normally where the peer is let in. -/
def checkRequest (authenticator : IAuthenticator) (request : List Frame)
    (ipAddress mechanism : Frame) : Except AuthException Unit := do
  authenticator.whiteListed ipAddress
  authenticator.blackListed ipAddress
  if mechanism = bytes "PLAIN" then checkPlain request
  else if mechanism = bytes "CURVE" then checkCurve request
  else if mechanism = bytes "NULL" then return ()
  else throw (.internalServerError "Undefined ZAP mechanism")

def zapStatus : Except AuthException Unit → Nat × String
  | .ok _ => (200, "OK")
  | .error (.badRequest what) => (400, what)
  | .error (.unauthorized _) => (401, "Unauthorized")
  | .error (.forbidden _) => (403, "Forbidden")
  | .error (.internalServerError _) => (500, "Internal server error")
  | .error (.other _) => (500, "Internal server error")

/-- The reply to one request.  Without an authenticator everyone is let in. -/
def ServiceImpl.reply (service : ServiceImpl) (request : List Frame) :
    Except StdException (List Frame) := do
  let _domain ← frameAt request 2
  let ipAddress ← frameAt request 3
  let _identity ← frameAt request 4
  let mechanism ← frameAt request 5
  let (statusCode, statusText) :=
    match service.mAuthenticator with
    | some authenticator => zapStatus (checkRequest authenticator request ipAddress mechanism)
    | none => (200, "OK")
  let version ← frameAt request 0
  let sequenceNumber ← frameAt request 1
  return [version, sequenceNumber, bytes (toString statusCode), bytes statusText,
    bytes service.mAuthenticatorIdentifier, []]

def Grants (service : ServiceImpl) (request : List Frame) : Prop :=
  ∃ reply, service.reply request = .ok reply ∧ reply[2]? = some (bytes (toString 200))

/-! ### What the service looks at -/

theorem frameAt_eq_ok_iff {request : List Frame} {index : Nat} {frame : Frame} :
    frameAt request index = .ok frame ↔ request[index]? = some frame := by
  unfold frameAt
  cases request[index]? <;> simp

theorem credentialAt_eq_ok_iff {request : List Frame} {index : Nat} {frame : Frame} :
    credentialAt request index = .ok frame ↔ request[index]? = some frame := by
  unfold credentialAt
  rw [← frameAt_eq_ok_iff]
  cases frameAt request index <;> simp

theorem UserNameAndPassword.new_ok {userName : Frame} (h : userName ≠ []) (password : Frame) :
    ∃ credentials, new userName password = .ok credentials := by
  unfold new
  rw [dif_neg h]
  split_ifs
  · exact ⟨_, rfl⟩
  · exact ⟨_, rfl⟩

theorem KeyPair.new_ok {publicKey : Frame} (h : publicKey ≠ []) :
    ∃ keys, new publicKey = .ok keys :=
  ⟨_, dif_neg h⟩

/-- A PLAIN request needs one frame after the mechanism, whatever is in it. -/
theorem checkPlain_eq_ok_iff {request : List Frame} (h : request[5]? = some (bytes "PLAIN")) :
    checkPlain request = .ok () ↔ ∃ frame, request[6]? = some frame := by
  have hplain : bytes "PLAIN" ≠ [] := by decide
  unfold checkPlain
  rw [credentialAt_eq_ok_iff.mpr h, ok_bind]
  cases hframe : request[6]? with
  | none => simp [credentialAt, frameAt, hframe]
  | some frame =>
    obtain ⟨credentials, hnew⟩ := UserNameAndPassword.new_ok hplain frame
    simp [credentialAt_eq_ok_iff.mpr hframe, hplain, hnew]

/-- A CURVE request needs 32 bytes after the mechanism, whatever they are. -/
theorem checkCurve_eq_ok_iff {request : List Frame} :
    checkCurve request = .ok () ↔ ∃ key, request[6]? = some key ∧ key.length = 32 := by
  unfold checkCurve
  cases hframe : request[6]? with
  | none => simp [credentialAt, frameAt, hframe]
  | some key =>
    by_cases hlength : key.length = 32
    · have hne : key ≠ [] := by
        rintro rfl
        simp at hlength
      obtain ⟨keys, hnew⟩ := KeyPair.new_ok hne
      simp [credentialAt_eq_ok_iff.mpr hframe, hlength, hnew]
    · simp [credentialAt_eq_ok_iff.mpr hframe, hlength]

theorem zapStatus_eq_iff (outcome : Except AuthException Unit) :
    bytes (toString (zapStatus outcome).1) = bytes (toString 200) ↔ outcome = .ok () := by
  rcases outcome with (_ | _ | _ | _ | _) | ⟨⟩
  all_goals simp only [zapStatus, reduceCtorEq, iff_false]
  all_goals decide

/-- With an authenticator, the reply carries 200 exactly where the block ends
    normally. -/
theorem grants_iff {service : ServiceImpl} {authenticator : IAuthenticator}
    (hheld : service.mAuthenticator = some authenticator) {request : List Frame}
    (h : 6 ≤ request.length) :
    Grants service request ↔ ∃ ipAddress mechanism, request[3]? = some ipAddress ∧
      request[5]? = some mechanism ∧
      checkRequest authenticator request ipAddress mechanism = .ok () := by
  have hframe : ∀ index < 6, ∃ frame, request[index]? = some frame := fun index hindex =>
    ⟨_, List.getElem?_eq_getElem (by omega)⟩
  obtain ⟨version, hversion⟩ := hframe 0 (by omega)
  obtain ⟨sequenceNumber, hsequence⟩ := hframe 1 (by omega)
  obtain ⟨domain, hdomain⟩ := hframe 2 (by omega)
  obtain ⟨ipAddress, haddress⟩ := hframe 3 (by omega)
  obtain ⟨identity, hidentity⟩ := hframe 4 (by omega)
  obtain ⟨mechanism, hmechanism⟩ := hframe 5 (by omega)
  have hreply : service.reply request =
      .ok [version, sequenceNumber,
        bytes (toString
          (zapStatus (checkRequest authenticator request ipAddress mechanism)).1),
        bytes (zapStatus (checkRequest authenticator request ipAddress mechanism)).2,
        bytes service.mAuthenticatorIdentifier, []] := by
    simp only [ServiceImpl.reply, frameAt_eq_ok_iff.mpr hversion,
      frameAt_eq_ok_iff.mpr hsequence, frameAt_eq_ok_iff.mpr hdomain,
      frameAt_eq_ok_iff.mpr haddress, frameAt_eq_ok_iff.mpr hidentity,
      frameAt_eq_ok_iff.mpr hmechanism, ok_bind, hheld, pure_eq_ok]
  unfold Grants
  simp only [hreply, haddress, hmechanism, Except.ok.injEq, Option.some.injEq, exists_eq_left',
    List.getElem?_cons_succ, List.getElem?_cons_zero, zapStatus_eq_iff]
  constructor
  · intro hcheck
    exact ⟨ipAddress, mechanism, rfl, rfl, hcheck⟩
  · rintro ⟨_, _, rfl, rfl, hcheck⟩
    exact hcheck

theorem accepts_unit_iff {check : Except AuthException Unit} :
    Accepts check ↔ check = .ok () := Unique.exists_iff

theorem plain_ne_curve : bytes "PLAIN" ≠ bytes "CURVE" := by decide

theorem plain_ne_null : bytes "PLAIN" ≠ bytes "NULL" := by decide

theorem curve_ne_null : bytes "CURVE" ≠ bytes "NULL" := by decide

/-- When the block ends normally: both address lists accept, and the mechanism finds
    the frames it wants. -/
theorem checkRequest_eq_ok_iff {authenticator : IAuthenticator} {request : List Frame}
    {ipAddress mechanism : Frame} (h : request[5]? = some mechanism) :
    checkRequest authenticator request ipAddress mechanism = .ok () ↔
      Accepts (authenticator.whiteListed ipAddress) ∧
      Accepts (authenticator.blackListed ipAddress) ∧
      (mechanism = bytes "NULL" ∨
        (mechanism = bytes "PLAIN" ∧ ∃ frame, request[6]? = some frame) ∨
        (mechanism = bytes "CURVE" ∧ ∃ key, request[6]? = some key ∧ key.length = 32)) := by
  simp only [checkRequest, bind_eq_ok_iff, accepts_unit_iff, Unique.exists_iff]
  refine and_congr_right fun _ => and_congr_right fun _ => ?_
  by_cases hplain : mechanism = bytes "PLAIN"
  · subst hplain
    simp [checkPlain_eq_ok_iff h, plain_ne_curve, plain_ne_null]
  · by_cases hcurve : mechanism = bytes "CURVE"
    · subst hcurve
      simp [checkCurve_eq_ok_iff, hplain, curve_ne_null]
    · by_cases hnull : mechanism = bytes "NULL"
      · subst hnull
        simp [hplain, hcurve]
      · simp [hplain, hcurve, hnull]

/-! ### What a status of 200 should mean -/

/-- The two frames after the mechanism are a user name and a password that the
    authenticator accepts. -/
def UserEntitled (authenticator : IAuthenticator) (request : List Frame) : Prop :=
  ∃ user password credentials, request[6]? = some user ∧ request[7]? = some password ∧
    user ≠ [] ∧ UserNameAndPassword.new user password = .ok credentials ∧
    Accepts (authenticator.authenticateUser credentials)

def KeyEntitled (authenticator : IAuthenticator) (request : List Frame) : Prop :=
  ∃ key keys, request[6]? = some key ∧ key.length = 32 ∧ KeyPair.new key = .ok keys ∧
    Accepts (authenticator.authenticateKey keys)

/-- The peer may be let in: the authenticator accepts its address and, for the
    mechanisms that have credentials, the credentials. -/
def Entitled (authenticator : IAuthenticator) (request : List Frame) : Prop :=
  ∃ ipAddress mechanism, request[3]? = some ipAddress ∧ request[5]? = some mechanism ∧
    Accepts (authenticator.whiteListed ipAddress) ∧
    Accepts (authenticator.blackListed ipAddress) ∧
    (mechanism = bytes "NULL" ∨
      (mechanism = bytes "PLAIN" ∧ UserEntitled authenticator request) ∨
      (mechanism = bytes "CURVE" ∧ KeyEntitled authenticator request))

/-- Not asking about the credentials makes no difference: the address is refused, or
    the mechanism has no credentials, or the service finds too little to build some, or
    the authenticator would have accepted them. -/
def SkipHarmless (authenticator : IAuthenticator) (request : List Frame) : Prop :=
  ∃ ipAddress mechanism, request[3]? = some ipAddress ∧ request[5]? = some mechanism ∧
    (¬ Accepts (authenticator.whiteListed ipAddress) ∨
      ¬ Accepts (authenticator.blackListed ipAddress) ∨
      (mechanism ≠ bytes "PLAIN" ∧ mechanism ≠ bytes "CURVE") ∨
      (mechanism = bytes "PLAIN" ∧
        (request[6]? = none ∨ UserEntitled authenticator request)) ∨
      (mechanism = bytes "CURVE" ∧
        ((∀ key, request[6]? = some key → key.length ≠ 32) ∨
          KeyEntitled authenticator request)))

theorem iff_iff_not_or_of_imp {granted entitled : Prop} (h : entitled → granted) :
    (granted ↔ entitled) ↔ ¬ granted ∨ entitled := by
  rw [← imp_iff_not_or]
  exact ⟨fun hiff => hiff.mp, fun himp => ⟨himp, h⟩⟩

/-- **When a status of 200 is right.**  On a request of at least six frames, a service
    with an authenticator grants exactly what it should if and only if not asking about
    the credentials makes no difference. -/
theorem grant_correct_iff (service : ServiceImpl) (authenticator : IAuthenticator)
    (hheld : service.mAuthenticator = some authenticator) (request : List Frame)
    (h : 6 ≤ request.length) :
    (Grants service request ↔ Entitled authenticator request) ↔
      SkipHarmless authenticator request := by
  obtain ⟨ipAddress, haddress⟩ : ∃ frame, request[3]? = some frame :=
    ⟨_, List.getElem?_eq_getElem (by omega)⟩
  obtain ⟨mechanism, hmechanism⟩ : ∃ frame, request[5]? = some frame :=
    ⟨_, List.getElem?_eq_getElem (by omega)⟩
  have huser : UserEntitled authenticator request → ∃ frame, request[6]? = some frame := by
    rintro ⟨user, -, -, hframe, -⟩
    exact ⟨user, hframe⟩
  have hkey : KeyEntitled authenticator request →
      ∃ key, request[6]? = some key ∧ key.length = 32 := by
    rintro ⟨key, -, hframe, hlength, -⟩
    exact ⟨key, hframe, hlength⟩
  rw [grants_iff hheld h]
  unfold Entitled SkipHarmless
  simp only [haddress, hmechanism, Option.some.injEq, exists_and_left, exists_eq_left',
    checkRequest_eq_ok_iff hmechanism]
  by_cases hwhite : Accepts (authenticator.whiteListed ipAddress)
  · by_cases hblack : Accepts (authenticator.blackListed ipAddress)
    · simp only [hwhite, hblack, true_and, not_true_eq_false, false_or]
      by_cases hplain : mechanism = bytes "PLAIN"
      · subst hplain
        have hnone : request[6]? = none ↔ ¬ ∃ frame, request[6]? = some frame := by
          rw [← Option.ne_none_iff_exists', not_not]
        simp only [plain_ne_curve, plain_ne_null, hnone, false_and, true_and, false_or, or_false,
          ne_eq, not_true_eq_false]
        exact iff_iff_not_or_of_imp huser
      · by_cases hcurve : mechanism = bytes "CURVE"
        · subst hcurve
          have hshort : (∀ key, request[6]? = some key → key.length ≠ 32) ↔
              ¬ ∃ key, request[6]? = some key ∧ key.length = 32 := by
            simp
          simp only [hplain, curve_ne_null, hshort, false_and, true_and, false_or,
            ne_eq, not_true_eq_false, and_false]
          exact iff_iff_not_or_of_imp hkey
        · simp [hplain, hcurve]
    · simp [hblack]
  · simp [hwhite]

def plainRequest : List Frame :=
  [bytes "1.0", bytes "1", bytes "global", bytes "127.0.0.1", [], bytes "PLAIN", bytes "us8",
    bytes "seismo"]

theorem grasslands_plain_grant_correct :
    (Grants { mAuthenticator := some grasslands } plainRequest ↔
      Entitled grasslands plainRequest) ↔ SkipHarmless grasslands plainRequest :=
  grant_correct_iff _ grasslands rfl plainRequest (by decide)

def lockedOut : IAuthenticator where
  whiteListed _ := .ok ()
  blackListed _ := .ok ()
  authenticateUser _ := .error (.unauthorized "Unknown user")
  authenticateKey _ := .error (.unauthorized "Unknown key")

theorem lockedOut_user_granted :
    Grants { mAuthenticator := some lockedOut } plainRequest ∧
      ¬ Entitled lockedOut plainRequest := by
  constructor
  · exact ⟨_, rfl, by decide⟩
  · rintro ⟨ipAddress, mechanism, -, hmechanism, -, -, hnull | ⟨-, huser⟩ | ⟨hcurve, -⟩⟩
    · obtain rfl : bytes "PLAIN" = mechanism := Option.some.inj hmechanism
      revert hnull
      decide
    · obtain ⟨user, password, credentials, -, -, -, -, message, haccepts⟩ := huser
      cases haccepts
    · obtain rfl : bytes "PLAIN" = mechanism := Option.some.inj hmechanism
      revert hcurve
      decide

end Us8
