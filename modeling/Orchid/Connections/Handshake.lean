import Orchid.Circuits.Extender
import Orchid.Connections.Connection
import Orchid.Lib.Formats

/-!
# Orchid — the link handshake

`ConnectionImpl.connect` opens the socket, starts the reading thread and runs one of two
handshakes. Version 3 authenticates the router with the certificates of a CERTS cell, version 2
with the certificate chain of the TLS session.

What is not the client's own code is a parameter: X.509 (`X509`), and what the network and the
other threads do while the call runs. The latter is a script. `takes` is what the calls of
`connectionControlCells.take` give, in their order, each with whether the reading thread has met
the end of the socket's input by then; a call for which nothing is left waits. `sendErrors` is
what the calls of `output.write` meet.

The fields of the handshake object live as long as the call: they are passed on as values.
-/

namespace Orchid

open Prog

/-! ## Keys and certificates -/

structure RSAPublicKey where
  modulus : Nat
  publicExponent : Nat
  deriving DecidableEq

/-- A `PublicKey` is an RSA key, or one that the client has no use for. -/
inductive PublicKey where
  | rsa (key : RSAPublicKey)
  | other
  deriving DecidableEq

/-- `BigInteger.bitLength`. -/
def bitLength (n : Nat) : Nat := if n = 0 then 0 else n.log2 + 1

/-- How `Certificate.verify` ends. -/
inductive Verification where
  | verified
  | securityException
  | certificateException
  deriving DecidableEq

/-- X.509 and the encoding of RSA keys; `checkValidity` is asked at the time of the handshake. -/
structure X509 (C : Type) where
  generateCertificate : List UInt8 → Option C
  getPublicKey : C → PublicKey
  checkValidity : C → Bool
  verify : C → PublicKey → Verification
  subjectDN : C → JString
  issuerDN : C → JString
  getPKCS1Encoded : RSAPublicKey → List UInt8

/-- `TorPublicKey.getFingerprint` of an RSA key. -/
def X509.getFingerprint {C : Type} (X : X509 C) (P : Platform) (key : RSAPublicKey) : HexDigest :=
  HexDigest.createDigestForData P (X.getPKCS1Encoded key)

/-! ## The world around the call -/

/-- What a call of `connectionControlCells.take` gives. -/
inductive Take where
  | cell (cell : InboundCell) (linkEnded : Bool)
  | interrupted
  deriving DecidableEq

inductive SocketConnect where
  | connected
  | timeout
  | failed (message : JString)
  deriving DecidableEq

/-- The second TLS handshake, and the wait for its end. -/
inductive Renegotiation where
  | finished
  | failed (message : JString)
  | interrupted
  | unfinished
  deriving DecidableEq

/-- What the call finds: the configuration, the router's address, the clock in milliseconds, what
the socket does, and the peer's certificate chain in the TLS session, when the handshake is chosen
and when it looks again. The messages of I/O errors start with the class of the exception. -/
structure Endpoint (C : Type) where
  handshakeV3Enabled : Bool
  handshakeV2Enabled : Bool
  routerAddress : IPv4Address
  currentTimeMillis : Nat
  connect : SocketConnect
  streamError : Option JString
  renegotiation : Renegotiation
  chainAtStart : Option (C × List C)
  chainLater : Option (C × List C)

/-- What the handshake sees of the router. A bridge may have no identity yet. -/
structure LinkRouter where
  isBridge : Bool
  identityHash : Option HexDigest
  deriving DecidableEq

/-- The connection and its router. -/
structure Link where
  router : LinkRouter
  takes : List Take
  sendErrors : List (Option JString)
  isSocketConnected : Bool := false
  isConnected : Bool := false
  isClosed : Bool := false
  sent : List (List UInt8) := []
  deriving DecidableEq

abbrev LinkM := Prog JavaException Link

namespace Link

def closeSocket (s : Link) : Link := { s with isClosed := true, isConnected := false }

/-- Whether the socket is open. -/
def isOpen (s : Link) : Bool := s.isSocketConnected && !s.isClosed

/-- What the next write meets. -/
def nextSendError (s : Link) : Option JString := s.sendErrors.head?.join

/-- The link after the next write has succeeded. -/
def sentNext (s : Link) (cellBytes : List UInt8) : Link :=
  { s with sendErrors := s.sendErrors.tail, sent := s.sent ++ [cellBytes] }

def sendCell (cellBytes : List UInt8) : LinkM Unit := fun s =>
  if !s.isSocketConnected then
    .error (.connectionIOException
      (some (lit "Cannot send cell because connection is not connected"))) s
  else
    match s.nextSendError with
    | some message => .error (.connectionIOException (some message))
        (closeSocket { s with sendErrors := s.sendErrors.tail })
    | none => .ok () (s.sentNext cellBytes)

/-- `readConnectionControlCell`. The reading thread closes the socket at the end of its input. -/
def readConnectionControlCell : LinkM InboundCell := do
  match (← get).takes with
  | [] => throw .blocked
  | .interrupted :: rest =>
    modify fun s => closeSocket { s with takes := rest }
    throw (.connectionIOException none)
  | .cell cell linkEnded :: rest =>
    modify fun s => { s with takes := rest }
    if linkEnded then modify closeSocket
    return cell

end Link

namespace ConnectionHandshake

open Link

/-! ## What both handshakes do -/

/-- `List.toString` of numbers. -/
def showList : List Nat → JString
  | [] => lit "[]"
  | n :: ns => lit "[" ++ showInt n ++ (ns.flatMap fun m => lit ", " ++ showInt m) ++ lit "]"

/-- The message of `expectCell` for an exception with this text. -/
def connectionException (text : JString) : JavaException :=
  .connectionHandshake (lit "Connection exception while performing handshake " ++
    lit "com.subgraph.orchid." ++ text)

/-- `expectCell`. The exception for the wrong command is a `ConnectionIOException` as well, so that
the handler around it wraps it once more. -/
def expectCell (expectedTypes : List Nat) : LinkM InboundCell := fun s =>
  match readConnectionControlCell s with
  | .ok c s' =>
    if c.command ∈ expectedTypes then .ok c s'
    else .error (connectionException (lit "ConnectionHandshakeException: Expecting Cell command " ++
      showList expectedTypes ++ lit " and got [ " ++ showInt c.command ++ lit " ] instead")) s'
  | .error (.connectionIOException none) s' =>
    .error (connectionException (lit "ConnectionIOException")) s'
  | .error (.connectionIOException (some message)) s' =>
    .error (connectionException (lit "ConnectionIOException: " ++ message)) s'
  | .error e s' => .error e s'

/-- The cell of `sendVersions`. -/
def versionsCell (versions : List Nat) : List UInt8 :=
  CellBytes.shortBytes 0 ++ [UInt8.ofNat Cell.VERSIONS] ++
    CellBytes.shortBytes (versions.length * 2) ++ versions.flatMap CellBytes.shortBytes

def sendVersions (versions : List Nat) : LinkM Unit := sendCell (versionsCell versions)

/-- The loop of `receiveVersions`. -/
def readVersions : List UInt8 → List Nat
  | high :: low :: rest => wireShort high low :: readVersions rest
  | _ => []

def receiveVersions : LinkM (List Nat) := do
  let c ← expectCell [Cell.VERSIONS]
  return readVersions c.payload

def ADDRESS_TYPE_IPV4 : Nat := 4

/-- `putInt`. -/
def intBytes (value : Nat) : List UInt8 :=
  [UInt8.ofNat (value / 2 ^ 24), UInt8.ofNat (value / 2 ^ 16), UInt8.ofNat (value / 2 ^ 8),
    UInt8.ofNat value]

def putIPv4Address (cell : Cell) (address : IPv4Address) : Except JavaException Cell := do
  let data := address.getAddressDataBytes
  let cell ← cell.putByte ADDRESS_TYPE_IPV4
  let cell ← cell.putByte data.length
  cell.putByteArray data

def putMyAddresses (cell : Cell) : Except JavaException Cell := do
  putIPv4Address (← cell.putByte 1) ⟨0⟩

/-- The cell of `sendNetinfo`. -/
def netinfoCell (currentTimeMillis : Nat) (address : IPv4Address) : Except JavaException Cell := do
  let cell ← (Cell.createCell 0 Cell.NETINFO).put (intBytes (currentTimeMillis / 1000))
  putMyAddresses (← putIPv4Address cell address)

def sendNetinfo (currentTimeMillis : Nat) (address : IPv4Address) : LinkM Unit := do
  let cell ← fromExcept (netinfoCell currentTimeMillis address)
  sendCell cell.cellBytes.bytes

/-! ## Reading a cell -/

/-- A program that reads the rest of a cell's buffer. -/
abbrev PayloadM := Prog JavaException (List UInt8)

def PayloadM.getByte : PayloadM Nat := UInt8.toNat <$> getNext .bufferUnderflow

def PayloadM.getByteArray (length : Nat) : PayloadM (List UInt8) := getMany .bufferUnderflow length

/-- The value of bytes of the wire, the first one the highest. -/
def wireNat (bytes : List UInt8) : Nat := bytes.foldl (fun n b => n * 256 + b.toNat) 0

def PayloadM.getShort : PayloadM Nat := wireNat <$> PayloadM.getByteArray 2

/-- `getInt`, by its 32 bits. -/
def PayloadM.getInt : PayloadM Nat := wireNat <$> PayloadM.getByteArray 4

structure NetInfo where
  remoteTimestamp : Nat
  myAddress : Option IPv4Address
  remoteAddresses : List IPv4Address

/-- `readAddress` behind the type and the length. -/
def readAddressData (type len : Nat) : PayloadM (Option IPv4Address) :=
  if type = ADDRESS_TYPE_IPV4 ∧ len = 4 then
    (fun data => some ⟨BitVec.ofNat 32 data⟩) <$> PayloadM.getInt
  else
    (fun _ => none) <$> PayloadM.getByteArray len

def readAddress : PayloadM (Option IPv4Address) := do
  let type ← PayloadM.getByte
  let len ← PayloadM.getByte
  readAddressData type len

def processNetInfo : PayloadM NetInfo := do
  let remoteTimestamp ← PayloadM.getInt
  let myAddress ← readAddress
  let addressCount ← PayloadM.getByte
  let addresses ← getRepeated readAddress addressCount
  return ⟨remoteTimestamp, myAddress, addresses.filterMap id⟩

/-- Run a reader on the buffer of a cell. -/
def readPayload {α : Type} (x : PayloadM α) (cell : InboundCell) : LinkM α := fun s =>
  match x cell.payload with
  | .ok a _ => .ok a s
  | .error e _ => .error e s

def recvNetinfo : LinkM NetInfo := do
  readPayload processNetInfo (← expectCell [Cell.NETINFO])

/-! ## The identity -/

variable {C : Type} (X : X509 C) (P : Platform)

/-- `verifyIdentityKey`: a bridge without an identity gets the one of the key. -/
def verifyIdentityKey (publicKey : PublicKey) : LinkM Unit := do
  match publicKey with
  | .other => throw (.connectionHandshake
      (lit "Identity certificate public key is not an RSA key as expected"))
  | .rsa key =>
    let router := (← get).router
    if router.isBridge ∧ router.identityHash = none then
      modify fun s =>
        { s with router := { router with identityHash := some (X.getFingerprint P key) } }
    else if some (X.getFingerprint P key) ≠ router.identityHash then
      throw (.connectionHandshake (lit "Router identity does not match certificate key"))

end ConnectionHandshake

end Orchid
