import Orchid.Connections.Handshake

/-!
# Orchid — the two handshakes and `connect`

* `ConnectionHandshakeV3`: VERSIONS, CERTS, NETINFO, then the checks on the certificates.
* `ConnectionHandshakeV2`: a second TLS handshake and its chain, then VERSIONS and NETINFO.
* `connect`: the exceptions of `doConnect`, as its handlers pass them on. A `RuntimeException` is
  passed on by none of them.
-/

namespace Orchid

open Prog Link

variable {C : Type} (X : X509 C) (P : Platform)

/-! ## Version 3 -/

namespace ConnectionHandshakeV3

open ConnectionHandshake

/-- The certificates that a CERTS cell can carry. -/
inductive CertificateType where
  | link
  | identity
  | signing
  | tls
  | cross
  deriving DecidableEq

namespace CertificateType

def byte : CertificateType → UInt8
  | link => 1
  | identity => 2
  | signing => 4
  | tls => 5
  | cross => 7

def label : CertificateType → JString
  | link => lit "Link (type = 1)"
  | identity => lit "Identity (type = 2)"
  | signing => lit "Ed25519 signing key (type = 4)"
  | tls => lit "TLS Link certificate (type = 5)"
  | cross => lit "RSA Identity cross verification (type = 7)"

def ofByte (type : Nat) : Option CertificateType :=
  if type = 1 then some link
  else if type = 2 then some identity
  else if type = 4 then some signing
  else if type = 5 then some tls
  else if type = 7 then some cross
  else none

end CertificateType

/-- The fields `linkCertificate`, `identityCertificate`, `signing`, `tls` and `cross`. -/
abbrev Certificates (C : Type) := CertificateType → Option C

/-- `readCertificateFromCell`: a certificate that cannot be parsed is null. -/
def readCertificateFromCell : PayloadM (Option C) := do
  let clen ← PayloadM.getShort
  let certificateBuffer ← PayloadM.getByteArray clen
  return X.generateCertificate certificateBuffer

def testAndReadCertificate (currentValue : Option C) (type : JString) : PayloadM (Option C) :=
  match currentValue with
  | none => readCertificateFromCell X
  | some _ => throw (.connectionHandshake
      (lit "Duplicate " ++ type ++ lit " certificates in CERTS cell"))

/-- The loop of `recvCerts`. -/
def readCertificates : Nat → Certificates C → PayloadM (Certificates C)
  | 0, certificates => return certificates
  | n + 1, certificates => do
    let type ← PayloadM.getByte
    match CertificateType.ofByte type with
    | some slot =>
      let certificate ← testAndReadCertificate X (certificates slot) slot.label
      readCertificates n (Function.update certificates slot certificate)
    | none => throw (.connectionHandshake
        (lit "Unexpected certificate type = " ++ showInt type ++ lit " in CERTS cell"))

/-- `recvCerts` after its cell has come. -/
def readCerts : PayloadM (Certificates C) := do
  let ncerts ← PayloadM.getByte
  if ncerts ≠ 2 ∧ ncerts ≠ 5 then
    throw (.connectionHandshake (lit "Expecting 2 or 5 certificates and got " ++ showInt ncerts))
  readCertificates X ncerts fun _ => none

def recvCerts : LinkM (Certificates C) := do
  readPayload (readCerts X) (← expectCell [Cell.CERTS])

def recvAuthChallengeAndNetinfo : LinkM NetInfo := do
  let cell ← expectCell [Cell.AUTH_CHALLENGE, Cell.NETINFO]
  if cell.command = Cell.NETINFO then readPayload processNetInfo cell
  else recvNetinfo

/-- `getConnectionPublicKey`; null without a certificate of the peer. -/
def getConnectionPublicKey (chain : Option (C × List C)) :
    Except JavaException (Option RSAPublicKey) :=
  match chain with
  | none => .ok none
  | some (certificate, _) =>
    match X.getPublicKey certificate with
    | .rsa key => .ok (some key)
    | .other => .error .classCast

def invalidChain : JavaException :=
  .connectionHandshake (lit "Router presented invalid certificate chain in CERTS cell")

/-- The calls of `checkValidity` and `verify`, and the handler around them. -/
def checkCertificate (certificate : Option C) (key : PublicKey) : Except JavaException C :=
  match certificate with
  | none => .error .nullPointer
  | some certificate =>
    if X.checkValidity certificate && X.verify certificate key = .verified then .ok certificate
    else .error invalidChain

/-- The last comparison of `verifyCertificates`. -/
def checkLinkKey (linkCertificate : C) (chain : Option (C × List C)) : Except JavaException Unit :=
  match X.getPublicKey linkCertificate with
  | .other => .error .classCast
  | .rsa linkKey => do
    match ← getConnectionPublicKey X chain with
    | none => throw .nullPointer
    | some connectionKey =>
      if connectionKey.modulus ≠ linkKey.modulus then
        throw (.connectionHandshake
          (lit "Link certificate in CERTS cell does not match connection certificate"))

/-- `verifyCertificates` behind `verifyIdentityKey`. -/
def checkChain (certificates : Certificates C) (key : RSAPublicKey)
    (chain : Option (C × List C)) : Except JavaException Unit := do
  if bitLength key.modulus ≠ 1024 then
    throw (.connectionHandshake (lit "Invalid RSA modulus length in router identity key"))
  let _ ← checkCertificate X (certificates .identity) (.rsa key)
  let linkCertificate ← checkCertificate X (certificates .link) (.rsa key)
  checkLinkKey X linkCertificate chain

def verifyCertificates (certificates : Certificates C) (chain : Option (C × List C)) :
    LinkM Unit := do
  match certificates .identity with
  | none => throw .nullPointer
  | some identityCertificate =>
    let publicKey := X.getPublicKey identityCertificate
    verifyIdentityKey X P publicKey
    match publicKey with
    | .other => throw .classCast
    | .rsa key => fromExcept (checkChain X certificates key chain)

/-- The part of `runHandshake` that takes what the peer sends. -/
def receive : LinkM (Certificates C) := do
  let _ ← receiveVersions
  let certificates ← recvCerts X
  let _ ← recvAuthChallengeAndNetinfo
  return certificates

def runHandshake (E : Endpoint C) : LinkM Unit := do
  sendVersions [3]
  let certificates ← receive X
  verifyCertificates X P certificates E.chainLater
  sendNetinfo E.currentTimeMillis E.routerAddress

/-! ### Whether the session's certificate asks for version 3 -/

/-- `getCN`. -/
def getCN (dname : JString) : JString :=
  match dname.tails.find? fun s => startsWith s (lit "CN=") with
  | none => []
  | some cn => cn.takeWhile (· ≠ ',')

def testDName (dname : JString) : Bool :=
  dname.contains ',' || !endsWith (getCN dname) (lit ".net")

def testModulusLength (certificate : C) : Bool :=
  match X.getPublicKey certificate with
  | .rsa key => bitLength key.modulus > 1024
  | .other => false

def isSelfSigned (certificate : C) : Bool :=
  X.verify certificate (X.getPublicKey certificate) = .verified

def sessionSupportsHandshake (chain : Option (C × List C)) : Bool :=
  match chain with
  | none => false
  | some (certificate, _) =>
    isSelfSigned X certificate || testDName (X.subjectDN certificate) ||
      testDName (X.issuerDN certificate) || testModulusLength X certificate

end ConnectionHandshakeV3

/-! ## Version 2 -/

namespace ConnectionHandshakeV2

open ConnectionHandshake

/-- `getIdentityCertificateFromSession`. -/
def getIdentityCertificateFromSession (chain : Option (C × List C)) : Except JavaException C :=
  match chain with
  | none => .error (.connectionHandshake (lit "No certificates received from router"))
  | some (certificate, [identityCertificate]) =>
    match X.verify certificate (X.getPublicKey identityCertificate) with
    | .verified => .ok identityCertificate
    | .securityException =>
      .error (.connectionHandshake (lit "Incorrect signature on certificate chain"))
    | .certificateException => .error (.connectionHandshake (lit "Malformed certificate received"))
  | some (_, rest) => .error (.connectionHandshake
      (lit "Expecting 2 certificate chain from router and received chain length " ++
        showInt (rest.length + 1)))

/-- The second TLS handshake. -/
def renegotiate (renegotiation : Renegotiation) : Except JavaException Unit :=
  match renegotiation with
  | .finished => .ok ()
  | .failed message => .error (.io message)
  | .interrupted => .error .interrupted
  | .unfinished => .error .blocked

def getIdentityKey (E : Endpoint C) : Except JavaException PublicKey := do
  renegotiate E.renegotiation
  return X.getPublicKey (← getIdentityCertificateFromSession X E.chainLater)

/-- `runHandshake` behind `verifyIdentityKey`. -/
def exchange (E : Endpoint C) : LinkM Unit := do
  sendVersions [2]
  let _ ← receiveVersions
  sendNetinfo E.currentTimeMillis E.routerAddress
  let _ ← recvNetinfo

def runHandshake (E : Endpoint C) : LinkM Unit := do
  verifyIdentityKey X P (← fromExcept (getIdentityKey X E))
  exchange E

end ConnectionHandshakeV2

/-! ## Connecting -/

inductive HandshakeVersion where
  | v3
  | v2
  deriving DecidableEq

/-- `ConnectionHandshake.createHandshake`. -/
def createHandshake (E : Endpoint C) : Except JavaException HandshakeVersion :=
  if E.handshakeV3Enabled &&
      ConnectionHandshakeV3.sessionSupportsHandshake X E.chainAtStart then .ok .v3
  else if E.handshakeV2Enabled then .ok .v2
  else .error (.connectionHandshake
    (lit "No valid handshake type available for this connection"))

namespace Link

def connectSocket (E : Endpoint C) : LinkM Unit :=
  match E.connect with
  | .connected => modify fun s => { s with isSocketConnected := true }
  | .timeout => throw .socketTimeout
  | .failed message => throw (.io message)

/-- `getInputStream` and `getOutputStream`. -/
def openStreams (E : Endpoint C) : Except JavaException Unit :=
  match E.streamError with
  | none => .ok ()
  | some message => .error (.io message)

def runHandshake (E : Endpoint C) : HandshakeVersion → LinkM Unit
  | .v3 => ConnectionHandshakeV3.runHandshake X P E
  | .v2 => ConnectionHandshakeV2.runHandshake X P E

def doConnect (E : Endpoint C) : LinkM Unit := do
  connectSocket E
  let version ← fromExcept (createHandshake X E)
  fromExcept (openStreams E)
  runHandshake X P E version

/-- What the handlers of `connect` make of an exception. -/
def passedOn : JavaException → JavaException
  | .socketTimeout => .connectionTimeout
  | .io message => .connectionFailed message
  | .interrupted => .connectionHandshake (lit "Handshake interrupted")
  | .connectionIOException message => .connectionFailed (message.getD (lit "null"))
  | e => e

def connect (E : Endpoint C) : LinkM Unit := fun s =>
  if s.isConnected then .ok () s
  else
    match doConnect X P E s with
    | .ok _ s' => .ok () { s' with isConnected := true }
    | .error e s' => .error (passedOn e) s'

end Link

end Orchid
