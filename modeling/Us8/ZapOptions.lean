/-
  Us8/ZapOptions.lean
  ===================
  **The options of a Stonehouse socket** (`StonehouseClient` and `StonehouseServer` of
  `messaging/zeromq/authentication/zapOptions.cpp`).

  Both check that their keys have 32 bytes when they are made, and later hand the keys to
  ZeroMQ as pointers to characters.  What is set is then the string that begins there, and it
  ends at the first zero byte.  ZeroMQ takes a key of 32 bytes and refuses a shorter one; so a
  key with a zero byte in it is a good key that can never be set (`setCurveKey_eq`), and the
  options that come after it are not set either.

  Of ZeroMQ only what it documents of the three keys is used (`CurveKeys`).
-/
import Us8.ZapService

namespace Us8

/-! ### The socket -/

/-- What ZeroMQ makes of a value for a key.  A key has 32 bytes, or it is a text of 40
    characters, with or without the zero at its end; nothing else is taken. -/
structure CurveKeys where
  decode : Frame → Option Frame
  decode_binary : ∀ data, data.length = 32 → decode data = some data
  decode_other : ∀ data, data.length ≠ 32 → data.length ≠ 40 → data.length ≠ 41 →
    decode data = none

/-- Without the texts. -/
def CurveKeys.binary : CurveKeys where
  decode data := if data.length = 32 then some data else none
  decode_binary _ hlength := if_pos hlength
  decode_other _ hlength _ _ := if_neg hlength

/-- A socket as far as its options for CURVE go. -/
structure CurveSocket where
  zap_domain : String := ""
  curve_server : Bool := false
  curve_serverkey : Frame := []
  curve_publickey : Frame := []
  curve_secretkey : Frame := []
deriving DecidableEq

inductive SocketOption where
  | zap_domain (domain : String)
  | curve_server (isServer : Bool)
  | curve_serverkey (key : Frame)
  | curve_publickey (key : Frame)
  | curve_secretkey (key : Frame)

/-- How setting options can fail: `zmqError` is what ZeroMQ refuses. -/
inductive OptionFailure where
  | thrown (e : StdException)
  | zmqError (what : String)
  | undefinedBehaviour
deriving DecidableEq

/-- The string that begins at `data()`. -/
def cString (data : Frame) : Frame := data.takeWhile (· != 0)

def setCurveKey (zmq : CurveKeys) (data : Frame) : Except OptionFailure Frame :=
  match zmq.decode (cString data) with
  | some key => .ok key
  | none => .error (.zmqError "Invalid argument")

def CurveSocket.set (zmq : CurveKeys) (socket : CurveSocket) :
    SocketOption → Except OptionFailure CurveSocket
  | .zap_domain domain => .ok { socket with zap_domain := domain }
  | .curve_server isServer => .ok { socket with curve_server := isServer }
  | .curve_serverkey key => do
      let key ← setCurveKey zmq key
      return { socket with curve_serverkey := key }
  | .curve_publickey key => do
      let key ← setCurveKey zmq key
      return { socket with curve_publickey := key }
  | .curve_secretkey key => do
      let key ← setCurveKey zmq key
      return { socket with curve_secretkey := key }

/-- One after the other, up to the first that fails. -/
def CurveSocket.setAll (zmq : CurveKeys) (socket : CurveSocket) :
    List SocketOption → CurveSocket × Except OptionFailure Unit
  | [] => (socket, .ok ())
  | option :: options =>
      match socket.set zmq option with
      | .ok next => next.setAll zmq options
      | .error failure => (socket, .error failure)

/-! ### Clients and servers -/

def zeroMQKeySize : Nat := 32

def KeyPair.getPrivateKey (keyPair : KeyPair) : Option Frame :=
  if keyPair.mPrivateKey = [] then none else some keyPair.mPrivateKey

structure StonehouseClient where
  mClientKeyPair : KeyPair
  mServerPublicKey : KeyPair
  mDomain : String := "global"
  publicKey_length : mClientKeyPair.mPublicKey.length = zeroMQKeySize
  privateKey_length : mClientKeyPair.mPrivateKey.length = zeroMQKeySize
  serverKey_length : mServerPublicKey.mPublicKey.length = zeroMQKeySize

structure StonehouseServer where
  mServerKeyPair : KeyPair
  mDomain : String := "global"
  publicKey_length : mServerKeyPair.mPublicKey.length = zeroMQKeySize
  privateKey_length : mServerKeyPair.mPrivateKey.length = zeroMQKeySize

def StonehouseClient.new (clientKeyPair serverPublicKey : KeyPair) :
    Except StdException StonehouseClient :=
  if hpublic : clientKeyPair.mPublicKey.length = zeroMQKeySize then
    if clientKeyPair.getPrivateKey = none then
      .error (.invalidArgument "Client's private key not set")
    else if hprivate : clientKeyPair.mPrivateKey.length = zeroMQKeySize then
      if hserver : serverPublicKey.mPublicKey.length = zeroMQKeySize then
        .ok {
          mClientKeyPair := clientKeyPair
          mServerPublicKey := serverPublicKey
          publicKey_length := hpublic
          privateKey_length := hprivate
          serverKey_length := hserver }
      else
        .error (.invalidArgument
          ("Server public key must have length " ++ toString zeroMQKeySize))
    else
      .error (.invalidArgument
        ("Client private key must have length " ++ toString zeroMQKeySize))
  else
    .error (.invalidArgument ("Client public key must have length " ++ toString zeroMQKeySize))

def StonehouseServer.new (serverKeyPair : KeyPair) : Except StdException StonehouseServer :=
  if hpublic : serverKeyPair.mPublicKey.length = zeroMQKeySize then
    if serverKeyPair.getPrivateKey = none then
      .error (.invalidArgument "Server's private key not set")
    else if hprivate : serverKeyPair.mPrivateKey.length = zeroMQKeySize then
      .ok {
        mServerKeyPair := serverKeyPair
        publicKey_length := hpublic
        privateKey_length := hprivate }
    else
      .error (.invalidArgument
        ("Server private key must have length " ++ toString zeroMQKeySize))
  else
    .error (.invalidArgument ("Server public key must have length " ++ toString zeroMQKeySize))

namespace StonehouseClient

def isAuthenticationServer (_client : StonehouseClient) : Bool := false

def options (client : StonehouseClient) : List SocketOption :=
  [.zap_domain client.mDomain,
    .curve_server client.isAuthenticationServer,
    .curve_serverkey client.mServerPublicKey.mPublicKey,
    .curve_publickey client.mClientKeyPair.mPublicKey,
    .curve_secretkey client.mClientKeyPair.mPrivateKey]

/-- `none` is a null pointer. -/
def setSocketOptions (client : StonehouseClient) (zmq : CurveKeys)
    (socket : Option CurveSocket) : Option CurveSocket × Except OptionFailure Unit :=
  match socket with
  | none => (none, .error (.thrown (.runtimeError "Socket pointer is NULL")))
  | some socket =>
      let set := socket.setAll zmq client.options
      (some set.1, set.2)

end StonehouseClient

namespace StonehouseServer

def isAuthenticationServer (_server : StonehouseServer) : Bool := true

def options (server : StonehouseServer) : List SocketOption :=
  [.zap_domain server.mDomain,
    .curve_server server.isAuthenticationServer,
    .curve_publickey server.mServerKeyPair.mPublicKey,
    .curve_secretkey server.mServerKeyPair.mPrivateKey]

/-- A null pointer is not looked for. -/
def setSocketOptions (server : StonehouseServer) (zmq : CurveKeys)
    (socket : Option CurveSocket) : Option CurveSocket × Except OptionFailure Unit :=
  match socket with
  | none => (none, .error .undefinedBehaviour)
  | some socket =>
      let set := socket.setAll zmq server.options
      (some set.1, set.2)

end StonehouseServer

/-! ### Which keys can be set -/

theorem length_cString_le (data : Frame) : (cString data).length ≤ data.length :=
  (List.takeWhile_prefix _).length_le

/-- A string is as long as its data exactly when there is no zero in them. -/
theorem length_cString_eq_iff (data : Frame) :
    (cString data).length = data.length ↔ 0 ∉ data := by
  induction data with
  | nil => simp [cString]
  | cons byte data ih =>
    by_cases hzero : byte = 0
    · simp [cString, hzero]
    · have hkeep : cString (byte :: data) = byte :: cString data := by
        simp [cString, hzero]
      rw [hkeep, List.length_cons, List.length_cons, Nat.add_right_cancel_iff, ih, List.mem_cons,
        not_or]
      constructor
      · intro hrest
        exact ⟨fun heq => hzero heq.symm, hrest⟩
      · exact fun hboth => hboth.2

theorem cString_eq_self {data : Frame} (h : 0 ∉ data) : cString data = data := by
  apply (List.takeWhile_prefix _).eq_of_length
  exact (length_cString_eq_iff data).mpr h

/-- A key of the right length can be set, as it is, exactly when there is no zero in it. -/
theorem setCurveKey_eq (zmq : CurveKeys) {data : Frame} (hlength : data.length = zeroMQKeySize) :
    setCurveKey zmq data =
      if 0 ∈ data then .error (.zmqError "Invalid argument") else .ok data := by
  unfold setCurveKey
  by_cases hzero : 0 ∈ data
  · have hle := length_cString_le data
    have hne : (cString data).length ≠ data.length := by
      intro heq
      exact (length_cString_eq_iff data).mp heq hzero
    rw [hlength, zeroMQKeySize] at hle hne
    rw [if_pos hzero, zmq.decode_other (cString data) hne (by omega) (by omega)]
  · rw [if_neg hzero, cString_eq_self hzero, zmq.decode_binary data hlength]

/-! ### Options one after the other -/

namespace SocketOption

/-- The key that the option sets. -/
def key : SocketOption → Option Frame
  | .zap_domain _ => none
  | .curve_server _ => none
  | .curve_serverkey key => some key
  | .curve_publickey key => some key
  | .curve_secretkey key => some key

def Sized (option : SocketOption) : Prop := ∀ key ∈ option.key, key.length = zeroMQKeySize

def ZeroFree (option : SocketOption) : Prop := ∀ key ∈ option.key, 0 ∉ key

def IsSecret : SocketOption → Prop
  | .curve_secretkey _ => True
  | _ => False

end SocketOption

namespace CurveSocket

/-- The socket with the option as it is given. -/
def given (socket : CurveSocket) : SocketOption → CurveSocket
  | .zap_domain domain => { socket with zap_domain := domain }
  | .curve_server isServer => { socket with curve_server := isServer }
  | .curve_serverkey key => { socket with curve_serverkey := key }
  | .curve_publickey key => { socket with curve_publickey := key }
  | .curve_secretkey key => { socket with curve_secretkey := key }

variable (zmq : CurveKeys) (socket : CurveSocket)

theorem set_of_zeroFree {option : SocketOption} (hsized : option.Sized) (hfree : option.ZeroFree) :
    socket.set zmq option = .ok (socket.given option) := by
  have hset (key : Frame) (hkey : key ∈ option.key) : setCurveKey zmq key = .ok key := by
    rw [setCurveKey_eq zmq (hsized key hkey), if_neg (hfree key hkey)]
  cases option with
  | zap_domain domain => rfl
  | curve_server isServer => rfl
  | curve_serverkey key =>
    rw [set, hset key rfl]
    rfl
  | curve_publickey key =>
    rw [set, hset key rfl]
    rfl
  | curve_secretkey key =>
    rw [set, hset key rfl]
    rfl

theorem set_of_not_zeroFree {option : SocketOption} (hsized : option.Sized)
    (hzero : ¬ option.ZeroFree) :
    socket.set zmq option = .error (.zmqError "Invalid argument") := by
  have hset (key : Frame) (hkey : option.key = some key) :
      setCurveKey zmq key = .error (.zmqError "Invalid argument") := by
    have hmem : 0 ∈ key := by simpa [SocketOption.ZeroFree, hkey] using hzero
    rw [setCurveKey_eq zmq (hsized key hkey), if_pos hmem]
  cases option with
  | zap_domain domain => exact absurd nofun hzero
  | curve_server isServer => exact absurd nofun hzero
  | curve_serverkey key =>
    rw [set, hset key rfl]
    rfl
  | curve_publickey key =>
    rw [set, hset key rfl]
    rfl
  | curve_secretkey key =>
    rw [set, hset key rfl]
    rfl

/-- All options are set, or those before the first that has a zero in it. -/
theorem setAll_cases {options : List SocketOption} (hsized : ∀ option ∈ options, option.Sized) :
    ((∀ option ∈ options, option.ZeroFree) ∧
      socket.setAll zmq options = (options.foldl given socket, .ok ())) ∨
    ∃ before refused later, options = before ++ refused :: later ∧
      (∀ option ∈ before, option.ZeroFree) ∧ ¬ refused.ZeroFree ∧
      socket.setAll zmq options =
        (before.foldl given socket, .error (.zmqError "Invalid argument")) := by
  induction options generalizing socket with
  | nil => exact .inl ⟨nofun, rfl⟩
  | cons option options ih =>
    rw [List.forall_mem_cons] at hsized
    by_cases hfree : option.ZeroFree
    · have hset := socket.set_of_zeroFree zmq hsized.1 hfree
      rw [setAll, hset]
      rcases ih (socket.given option) hsized.2 with
        ⟨hall, hdone⟩ | ⟨before, refused, later, rfl, hbefore, hrefused, hdone⟩
      · exact .inl ⟨List.forall_mem_cons.mpr ⟨hfree, hall⟩, hdone⟩
      · exact .inr ⟨option :: before, refused, later, rfl,
          List.forall_mem_cons.mpr ⟨hfree, hbefore⟩, hrefused, hdone⟩
    · have hset := socket.set_of_not_zeroFree zmq hsized.1 hfree
      rw [setAll, hset]
      exact .inr ⟨[], option, options, rfl, nofun, hfree, rfl⟩

/-- The secret key stays what it was as long as other options are set. -/
theorem secretkey_foldl_given {options : List SocketOption}
    (hother : ∀ option ∈ options, ¬ option.IsSecret) :
    (options.foldl given socket).curve_secretkey = socket.curve_secretkey := by
  induction options generalizing socket with
  | nil => rfl
  | cons option options ih =>
    rw [List.forall_mem_cons] at hother
    rw [List.foldl_cons, ih (socket.given option) hother.2]
    cases option with
    | curve_secretkey key => exact absurd trivial hother.1
    | zap_domain | curve_server | curve_serverkey | curve_publickey => rfl

end CurveSocket

/-- How setting the options of a socket ends: everything is set, or ZeroMQ refuses an option with
    a zero byte in its key; those before it are set then, none after it is, and the secret key
    is what it was. -/
def SetOrRefused (socket secured : CurveSocket) (options : List SocketOption) (canSet : Prop)
    (set : Option CurveSocket × Except OptionFailure Unit) : Prop :=
  (canSet ∧ set = (some secured, .ok ())) ∨
    (¬ canSet ∧ set.2 = .error (.zmqError "Invalid argument") ∧
      ∃ (before : List SocketOption) (refused : SocketOption) (later : List SocketOption),
        options = before ++ refused :: later ∧
        (∀ option ∈ before, option.ZeroFree) ∧ ¬ refused.ZeroFree ∧
        ∃ next : CurveSocket, set.1 = some next ∧ next = before.foldl CurveSocket.given socket ∧
          next.curve_secretkey = socket.curve_secretkey)

/-- With the secret key last, it is set only if everything is. -/
theorem setOrRefused_of_setAll (zmq : CurveKeys) (socket : CurveSocket)
    (others : List SocketOption) (secret : SocketOption)
    (hsized : ∀ option ∈ others ++ [secret], option.Sized)
    (hothers : ∀ option ∈ others, ¬ option.IsSecret) :
    SetOrRefused socket ((others ++ [secret]).foldl CurveSocket.given socket)
      (others ++ [secret]) (∀ option ∈ others ++ [secret], option.ZeroFree)
      (some (socket.setAll zmq (others ++ [secret])).1,
        (socket.setAll zmq (others ++ [secret])).2) := by
  rcases socket.setAll_cases zmq hsized with
    ⟨hall, hset⟩ | ⟨before, refused, later, hoptions, hbefore, hrefused, hset⟩
  · rw [hset]
    exact .inl ⟨hall, rfl⟩
  · rw [hset]
    have hnot : ¬ ∀ option ∈ others ++ [secret], option.ZeroFree := by
      intro hall
      apply hrefused
      apply hall
      rw [hoptions]
      exact List.mem_append_right _ List.mem_cons_self
    have hearlier : before <+: others := by
      have hsplit : before <+: others ++ [secret] := ⟨refused :: later, hoptions.symm⟩
      apply List.prefix_of_prefix_length_le hsplit (List.prefix_append others [secret])
      have hlength := congrArg List.length hoptions
      simp only [List.length_append, List.length_cons, List.length_nil] at hlength
      omega
    have hsecret := socket.secretkey_foldl_given fun option hmem =>
      hothers option (hearlier.subset hmem)
    exact .inr ⟨hnot, rfl, before, refused, later, hoptions, hbefore, hrefused, _, rfl, rfl,
      hsecret⟩

/-! ### Clients and servers, again -/

namespace StonehouseClient

/-- The constructor takes exactly the keys of 32 bytes. -/
theorem new_ok_iff (clientKeyPair serverPublicKey : KeyPair) :
    (∃ client, new clientKeyPair serverPublicKey = .ok client) ↔
      clientKeyPair.mPublicKey.length = zeroMQKeySize ∧
        clientKeyPair.mPrivateKey.length = zeroMQKeySize ∧
        serverPublicKey.mPublicKey.length = zeroMQKeySize := by
  unfold new KeyPair.getPrivateKey
  split_ifs <;> simp_all [zeroMQKeySize]

theorem sized_options (client : StonehouseClient) : ∀ option ∈ client.options, option.Sized := by
  simp [options, SocketOption.Sized, SocketOption.key, client.serverKey_length,
    client.publicKey_length, client.privateKey_length]

theorem zeroFree_options_iff (client : StonehouseClient) :
    (∀ option ∈ client.options, option.ZeroFree) ↔
      0 ∉ client.mServerPublicKey.mPublicKey ∧ 0 ∉ client.mClientKeyPair.mPublicKey ∧
        0 ∉ client.mClientKeyPair.mPrivateKey := by
  simp [options, SocketOption.ZeroFree, SocketOption.key]

/-- The socket of a client whose keys can be set. -/
def secured (client : StonehouseClient) (socket : CurveSocket) : CurveSocket :=
  { socket with
    zap_domain := client.mDomain
    curve_server := false
    curve_serverkey := client.mServerPublicKey.mPublicKey
    curve_publickey := client.mClientKeyPair.mPublicKey
    curve_secretkey := client.mClientKeyPair.mPrivateKey }

theorem setSocketOptions_spec (zmq : CurveKeys) (client : StonehouseClient)
    (socket : CurveSocket) :
    SetOrRefused socket (client.secured socket) client.options
      (0 ∉ client.mServerPublicKey.mPublicKey ∧ 0 ∉ client.mClientKeyPair.mPublicKey ∧
        0 ∉ client.mClientKeyPair.mPrivateKey)
      (client.setSocketOptions zmq (some socket)) := by
  rw [← client.zeroFree_options_iff]
  apply setOrRefused_of_setAll zmq socket
    [.zap_domain client.mDomain, .curve_server client.isAuthenticationServer,
      .curve_serverkey client.mServerPublicKey.mPublicKey,
      .curve_publickey client.mClientKeyPair.mPublicKey]
    (.curve_secretkey client.mClientKeyPair.mPrivateKey) client.sized_options
  simp [SocketOption.IsSecret]

end StonehouseClient

namespace StonehouseServer

theorem new_ok_iff (serverKeyPair : KeyPair) :
    (∃ server, new serverKeyPair = .ok server) ↔
      serverKeyPair.mPublicKey.length = zeroMQKeySize ∧
        serverKeyPair.mPrivateKey.length = zeroMQKeySize := by
  unfold new KeyPair.getPrivateKey
  split_ifs <;> simp_all [zeroMQKeySize]

theorem sized_options (server : StonehouseServer) : ∀ option ∈ server.options, option.Sized := by
  simp [options, SocketOption.Sized, SocketOption.key, server.publicKey_length,
    server.privateKey_length]

theorem zeroFree_options_iff (server : StonehouseServer) :
    (∀ option ∈ server.options, option.ZeroFree) ↔
      0 ∉ server.mServerKeyPair.mPublicKey ∧ 0 ∉ server.mServerKeyPair.mPrivateKey := by
  simp [options, SocketOption.ZeroFree, SocketOption.key]

def secured (server : StonehouseServer) (socket : CurveSocket) : CurveSocket :=
  { socket with
    zap_domain := server.mDomain
    curve_server := true
    curve_publickey := server.mServerKeyPair.mPublicKey
    curve_secretkey := server.mServerKeyPair.mPrivateKey }

theorem setSocketOptions_spec (zmq : CurveKeys) (server : StonehouseServer)
    (socket : CurveSocket) :
    SetOrRefused socket (server.secured socket) server.options
      (0 ∉ server.mServerKeyPair.mPublicKey ∧ 0 ∉ server.mServerKeyPair.mPrivateKey)
      (server.setSocketOptions zmq (some socket)) := by
  rw [← server.zeroFree_options_iff]
  apply setOrRefused_of_setAll zmq socket
    [.zap_domain server.mDomain, .curve_server server.isAuthenticationServer,
      .curve_publickey server.mServerKeyPair.mPublicKey]
    (.curve_secretkey server.mServerKeyPair.mPrivateKey) server.sized_options
  simp [SocketOption.IsSecret]

end StonehouseServer

/-- **Which Stonehouse clients and servers can secure a socket.**  Exactly those of whose keys,
    32 bytes each, none has a zero byte; everything is set then.  Otherwise ZeroMQ refuses: the
    options before the first such key are set, none after it is, and the socket keeps the
    secret key it had. -/
theorem stonehouse_secures_iff (zmq : CurveKeys) (socket : CurveSocket) :
    (∀ client : StonehouseClient,
      SetOrRefused socket (client.secured socket) client.options
        (0 ∉ client.mServerPublicKey.mPublicKey ∧ 0 ∉ client.mClientKeyPair.mPublicKey ∧
          0 ∉ client.mClientKeyPair.mPrivateKey)
        (client.setSocketOptions zmq (some socket))) ∧
    (∀ server : StonehouseServer,
      SetOrRefused socket (server.secured socket) server.options
        (0 ∉ server.mServerKeyPair.mPublicKey ∧ 0 ∉ server.mServerKeyPair.mPrivateKey)
        (server.setSocketOptions zmq (some socket))) := by
  constructor
  · intro client
    exact client.setSocketOptions_spec zmq socket
  · intro server
    exact server.setSocketOptions_spec zmq socket

end Us8
