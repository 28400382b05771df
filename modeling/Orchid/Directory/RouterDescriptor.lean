import Orchid.Consensus.Document
import Orchid.Directory.DocumentParser

/-!
# Orchid — router descriptors and microdescriptors

`RouterDescriptorParser` reads descriptors one behind the other: each ends with its
`router-signature`, and the next begins there. `RouterMicrodescriptorParser` reads
microdescriptors, which are not signed: each begins with an `onion-key` and ends where the next
begins, or with the document. Both first check how many arguments a line has.

* `RouterDescriptorParser.parse`, `RouterMicrodescriptorParser.parse`.
* `processKeywordLine_front`, for both: a line is handled from the lines it occupies.
-/

namespace Orchid

open Prog ArgM

/-! ## Exit policies -/

/-- `Network`, with the text it was made from. -/
structure Network where
  network : IPv4Address
  maskValue : BitVec 32
  originalString : JString
  deriving DecidableEq

namespace Network

/-- `createMask`; the distance of a shift counts modulo 32. -/
def createMask (maskBits : Int) : BitVec 32 :=
  if maskBits = 0 then 0 else (0x80000000#32).sshiftRight ((maskBits - 1) % 32).toNat

example : createMask 8 = 0xFF000000#32 ∧ createMask 32 = 0xFFFFFFFF#32 := by decide

def ALL_ADDRESSES : Network := ⟨⟨0⟩, createMask 0, lit "*"⟩

/-- `createFromString`. A string of slashes alone has no first part. -/
def createFromString (networkString : JString) : Except JavaException Network :=
  match split '/' networkString with
  | [] => throw .indexOutOfBounds
  | address :: parts => do
    let network ← IPv4Address.createFromString address
    match parts with
    | [] => return ⟨network, createMask 32, networkString⟩
    | [bits] =>
      match parseInt bits with
      | some maskBits => return ⟨network, createMask maskBits, networkString⟩
      | none => throw (.torParsing (lit "Invalid netblock mask bit value: " ++ bits))
    | _ => throw (.torParsing (lit "Invalid network CIDR notation: " ++ networkString))

end Network

structure PolicyRule where
  network : Network
  portRange : PortRange
  isAcceptRule : Bool
  deriving DecidableEq

namespace PolicyRule

def WILDCARD : JString := lit "*"

def ALL_PORTS : PortRange := ⟨1, MAX_PORT⟩

def parseNetwork (network : JString) : Except JavaException Network :=
  if network = WILDCARD then return Network.ALL_ADDRESSES else Network.createFromString network

def parsePortRange (portRange : JString) : Except JavaException PortRange :=
  if portRange = WILDCARD then return ALL_PORTS else PortRange.createFromString portRange

def createRule (rule : JString) (isAccept : Bool) : Except JavaException PolicyRule :=
  match split ':' rule with
  | [network, ports] => do
    let network ← parseNetwork network
    let portRange ← parsePortRange ports
    return ⟨network, portRange, isAccept⟩
  | _ => throw (.torParsing (lit "Could not parse exit policy rule: " ++ rule))

end PolicyRule

/-! ## What both parsers use of the field parser -/

/-- `verifyExpectedArgumentCount`; none stands for any number. -/
def verifyExpectedArgumentCount (keyword : JString) (expected : Option Nat) : ArgM Unit := do
  let argumentCount ← argumentsRemaining
  match expected with
  | none => return ()
  | some expected =>
    if argumentCount < expected then
      throw (.torParsing (lit "Not enough arguments for keyword '" ++ keyword ++
        lit "' expected " ++ showInt expected ++ lit " and got " ++ showInt argumentCount))
    if argumentCount > expected then
      throw (.torParsing (lit "Too many arguments for keyword '" ++ keyword ++
        lit "' expected " ++ showInt expected ++ lit " and got " ++ showInt argumentCount))

def CURVE25519_PUBKEY_LEN : Nat := 32

def parseNtorPublicKey : ArgM (List UInt8) := do
  let key ← parseBase64Data
  if key.length ≠ CURVE25519_PUBKEY_LEN then
    throw (.torParsing (lit "NTor public key was not expected length after base64 decoding.  " ++
      lit "Length is " ++ showInt key.length))
  return key

/-! ## Router descriptors -/

structure BandwidthHistory where
  reportingTime : Int
  reportingInterval : Int
  samples : List Int := []
  deriving DecidableEq

/-- The fields of `RouterDescriptorImpl` that its parser sets. -/
structure RouterDescriptor where
  nickname : Option JString := none
  address : Option IPv4Address := none
  routerPort : Int := 0
  directoryPort : Int := 0
  averageBandwidth : Int := -1
  burstBandwidth : Int := -1
  observedBandwidth : Int := -1
  platform : Option JString := none
  published : Option Int := none
  fingerprint : Option HexDigest := none
  hibernating : Bool := false
  uptime : Int := 0
  onionKey : Option TorPublicKey := none
  ntorOnionKey : Option (List UInt8) := none
  identityKey : Option TorPublicKey := none
  exitPolicy : List PolicyRule := []
  contact : Option JString := none
  familyMembers : List JString := []
  linkProtocols : List Int := []
  circuitProtocols : List Int := []
  readHistory : Option BandwidthHistory := none
  writeHistory : Option BandwidthHistory := none
  eventDNS : Bool := false
  cachesExtraInfo : Bool := false
  hiddenServiceDir : Bool := false
  extraInfoDigest : Option HexDigest := none
  allowSingleHopExits : Bool := false
  hasValidSignature : Bool := false
  descriptorDigest : Option HexDigest := none
  rawDocumentData : Option JString := none
  deriving DecidableEq

def RouterDescriptor.isValidDocument (d : RouterDescriptor) : Bool :=
  d.hasValidSignature && d.nickname.isSome && d.address.isSome && d.averageBandwidth ≠ -1 &&
    (d.routerPort ≠ 0 || d.directoryPort ≠ 0) && d.published.isSome && d.onionKey.isSome &&
    d.identityKey.isSome && d.descriptorDigest.isSome

inductive RouterDescriptorKeyword where
  | ROUTER
  | BANDWIDTH
  | PLATFORM
  | PUBLISHED
  | FINGERPRINT
  | HIBERNATING
  | UPTIME
  | ONION_KEY
  | NTOR_ONION_KEY
  | SIGNING_KEY
  | ACCEPT
  | REJECT
  | ROUTER_SIGNATURE
  | CONTACT
  | FAMILY
  | READ_HISTORY
  | WRITE_HISTORY
  | EVENTDNS
  | CACHES_EXTRA_INFO
  | EXTRA_INFO_DIGEST
  | HIDDEN_SERVICE_DIR
  | PROTOCOLS
  | ALLOW_SINGLE_HOP_EXITS
  | UNKNOWN_KEYWORD
  deriving DecidableEq, Repr

namespace RouterDescriptorKeyword

/-- The keyword table: each keyword with its number of arguments. -/
def values : List (RouterDescriptorKeyword × JString × Option Nat) :=
  [(ROUTER, lit "router", some 5),
    (BANDWIDTH, lit "bandwidth", some 3),
    (PLATFORM, lit "platform", none),
    (PUBLISHED, lit "published", some 2),
    (FINGERPRINT, lit "fingerprint", some 10),
    (HIBERNATING, lit "hibernating", some 1),
    (UPTIME, lit "uptime", some 1),
    (ONION_KEY, lit "onion-key", some 0),
    (NTOR_ONION_KEY, lit "ntor-onion-key", some 1),
    (SIGNING_KEY, lit "signing-key", some 0),
    (ACCEPT, lit "accept", some 1),
    (REJECT, lit "reject", some 1),
    (ROUTER_SIGNATURE, lit "router-signature", some 0),
    (CONTACT, lit "contact", none),
    (FAMILY, lit "family", none),
    (READ_HISTORY, lit "read-history", none),
    (WRITE_HISTORY, lit "write-history", none),
    (EVENTDNS, lit "eventdns", some 1),
    (CACHES_EXTRA_INFO, lit "caches-extra-info", some 0),
    (EXTRA_INFO_DIGEST, lit "extra-info-digest", some 1),
    (HIDDEN_SERVICE_DIR, lit "hidden-service-dir", none),
    (PROTOCOLS, lit "protocols", none),
    (ALLOW_SINGLE_HOP_EXITS, lit "allow-single-hop-exits", some 0),
    (UNKNOWN_KEYWORD, lit "KEYWORD NOT FOUND", none)]

def findKeyword (keyword : JString) : RouterDescriptorKeyword :=
  match values.find? fun k => k.2.1 = keyword with
  | some k => k.1
  | none => UNKNOWN_KEYWORD

def getArgumentCount (keyword : RouterDescriptorKeyword) : Option Nat :=
  match values.find? fun k => k.1 = keyword with
  | some k => k.2.2
  | none => none

def getKeyword (keyword : RouterDescriptorKeyword) : JString :=
  match values.find? fun k => k.1 = keyword with
  | some k => k.2.1
  | none => []

end RouterDescriptorKeyword

/-- The fields of `RouterDescriptorParser` next to the field parser. -/
structure RouterParser where
  currentDescriptor : RouterDescriptor := { }
  result : DocumentParsingResult RouterDescriptor := { }

namespace RouterDescriptorParser

variable (P : Platform) (verifySignatures : Bool)

abbrev RouterM := ParserM RouterParser

def setDescriptor (f : RouterDescriptor → RouterDescriptor) : HandlerM RouterParser Unit :=
  onDocument fun p => { p with currentDescriptor := f p.currentDescriptor }

/-- Arguments are read and stored. -/
def store {α : Type} (x : ArgM α) (f : α → RouterDescriptor → RouterDescriptor) : RouterM Unit := do
  let a ← read (args x)
  handle (setDescriptor (f a))

def startNewDescriptor : HandlerM RouterParser Unit := do
  onRecorder Recorder.resetRawDocument
  onRecorder Recorder.startSignedEntity
  onDocument fun p => { p with currentDescriptor := { } }

/-- The arguments of a `router` line; the SOCKS port is read and dropped. -/
def parseRouterArgs : ArgM (JString × IPv4Address × Int × Int) := do
  let nickname ← parseNickname
  let address ← parseAddress
  let routerPort ← parsePort
  let _ ← parsePort
  let directoryPort ← parsePort
  return (nickname, address, routerPort, directoryPort)

def parseBandwidthArgs : ArgM (Int × Int × Int) := do
  let average ← parseInteger
  let burst ← parseInteger
  let observed ← parseInteger
  return (average, burst, observed)

def parseRule (isAccept : Bool) : ArgM PolicyRule := do
  PolicyRule.createRule (← parseString) isAccept

/-- The loop up to the word `Circuit`: the link versions, and what follows them. -/
def takeLinkVersions : List JString → Except JavaException (List Int × List JString)
  | [] => throw (.torParsing (lit "Overrun while reading arguments"))
  | kw :: items =>
    if kw = lit "Circuit" then return ([], items)
    else
      match parseInt kw with
      | none => throw (.torParsing (lit "Failed to parse expected integer value: " ++ kw))
      | some version => do
        let (versions, items) ← takeLinkVersions items
        return (version :: versions, items)

def parseProtocols : ArgM (List Int × List Int) := do
  let kw ← parseString
  if kw ≠ lit "Link" then
    throw (.torParsing (lit "Expected 'Link' token in protocol line got: " ++ kw))
  let link ← takeLinkVersions
  let circuit ← (← remainingItems).mapM parseIntegerOf
  return (link, circuit)

/-- `parseHistory`. The interval follows an opening bracket, which `substring(1)` skips. -/
def parseHistory : ArgM BandwidthHistory := do
  let ts ← parseTimestamp P
  let nsec ← parseString
  let _ ← parseString
  let interval ← parseIntegerOf (← substring nsec 1 nsec.length)
  if (← argumentsRemaining) = 0 then return ⟨ts, interval, []⟩
  let samples ← (split ',' (← parseString)).mapM parseIntegerOf
  return ⟨ts, interval, samples⟩

def documentInvalid (message : JString) : HandlerM RouterParser Unit :=
  onDocument fun p => { p with result := p.result.documentInvalid p.currentDescriptor message }

def verifyCurrentDescriptor (signature : TorSignature) : HandlerM RouterParser Bool := do
  let identityKey := (← get).document.currentDescriptor.identityKey
  let verified ← if verifySignatures then verifySignedEntity P identityKey signature else pure true
  if !verified then
    documentInvalid (lit "Signature failed.")
    return false
  setDescriptor fun d => { d with hasValidSignature := true }
  let isValid := (← get).document.currentDescriptor.isValidDocument
  if !isValid then documentInvalid (lit "Router data invalid")
  return isValid

/-- The part of `processSignature` in front of the signature: the digest of the text so far. -/
def setDescriptorHash : HandlerM RouterParser Unit := do
  onRecorder Recorder.endSignedEntity
  match (← get).recorder.signatureDigest with
  | none => throw .nullPointer
  | some digest => setDescriptor fun d => { d with descriptorDigest := some (digest.getHexDigest P) }

/-- And the part behind it. -/
def finishDescriptor (signature : TorSignature) : HandlerM RouterParser Unit := do
  let raw := (← get).recorder.rawDocumentBuffer
  setDescriptor fun d => { d with rawDocumentData := some raw }
  if ← verifyCurrentDescriptor P verifySignatures signature then
    onDocument fun p => { p with result := p.result.documentParsed p.currentDescriptor }
  startNewDescriptor

def processSignature : RouterM Unit := do
  handle (setDescriptorHash P)
  let signature ← read parseSignature
  handle (finishDescriptor P verifySignatures signature)

/-- The `switch` of `processKeyword`. -/
def processKeywordArgs : RouterDescriptorKeyword → RouterM Unit
  | .ROUTER => store parseRouterArgs fun a d =>
      { d with nickname := some a.1, address := some a.2.1, routerPort := a.2.2.1
               directoryPort := a.2.2.2 }
  | .BANDWIDTH => store parseBandwidthArgs fun a d =>
      { d with averageBandwidth := a.1, burstBandwidth := a.2.1, observedBandwidth := a.2.2 }
  | .PLATFORM => store parseConcatenatedString fun a d => { d with platform := some a }
  | .PUBLISHED => store (parseTimestamp P) fun a d => { d with published := some a }
  | .FINGERPRINT => store parseFingerprint fun a d => { d with fingerprint := some a }
  | .HIBERNATING => store parseBoolean fun a d => { d with hibernating := a }
  | .UPTIME => store parseInteger fun a d => { d with uptime := a }
  | .ONION_KEY => do
    let key ← read parsePublicKey
    handle (setDescriptor fun d => { d with onionKey := some key })
  | .NTOR_ONION_KEY => store parseNtorPublicKey fun a d => { d with ntorOnionKey := some a }
  | .SIGNING_KEY => do
    let key ← read parsePublicKey
    handle (setDescriptor fun d => { d with identityKey := some key })
  | .ROUTER_SIGNATURE => processSignature P verifySignatures
  | .ACCEPT => store (parseRule true) fun a d => { d with exitPolicy := d.exitPolicy ++ [a] }
  | .REJECT => store (parseRule false) fun a d => { d with exitPolicy := d.exitPolicy ++ [a] }
  | .CONTACT => store parseConcatenatedString fun a d => { d with contact := some a }
  | .FAMILY => store remainingItems fun a d =>
      { d with familyMembers := a.foldl (fun s v => s.insert v) d.familyMembers }
  | .EVENTDNS => store parseBoolean fun a d => { d with eventDNS := a || d.eventDNS }
  | .PROTOCOLS => store parseProtocols fun a d =>
      { d with
        linkProtocols := a.1.foldl (fun s v => s.insert v) d.linkProtocols
        circuitProtocols := a.2.foldl (fun s v => s.insert v) d.circuitProtocols }
  | .CACHES_EXTRA_INFO => handle (setDescriptor fun d => { d with cachesExtraInfo := true })
  | .HIDDEN_SERVICE_DIR => handle (setDescriptor fun d => { d with hiddenServiceDir := true })
  | .ALLOW_SINGLE_HOP_EXITS => handle (setDescriptor fun d => { d with allowSingleHopExits := true })
  | .EXTRA_INFO_DIGEST => store parseHexDigest fun a d => { d with extraInfoDigest := some a }
  | .READ_HISTORY => store (parseHistory P) fun a d => { d with readHistory := some a }
  | .WRITE_HISTORY => store (parseHistory P) fun a d => { d with writeHistory := some a }
  | .UNKNOWN_KEYWORD => return ()

def processKeyword (keyword : RouterDescriptorKeyword) : RouterM Unit := do
  read (args (verifyExpectedArgumentCount keyword.getKeyword keyword.getArgumentCount))
  processKeywordArgs P verifySignatures keyword

def processKeywordLine : RouterM Unit := do
  let keyword := RouterDescriptorKeyword.findKeyword (← getCurrentKeyword)
  if keyword ≠ .UNKNOWN_KEYWORD then processKeyword P verifySignatures keyword

/-- `parse(resultHandler)`. -/
def parse : RouterM Bool := do
  handle startNewDescriptor
  catchParsingError (processDocument true (processKeywordLine P verifySignatures)
    (handle (return ())))
    fun message => onDocument fun p => { p with result := p.result.parsingError message }

theorem store_front {α : Type} (x : ArgM α) (f : α → RouterDescriptor → RouterDescriptor) :
    Front unreadLines (store x f) :=
  (read_front (args_front x)).bind fun _ => handle_front _

theorem processKeywordLine_front : Front unreadLines (processKeywordLine P verifySignatures) := by
  refine getCurrentKeyword_front.bind fun keyword => Front.ite ?_ (Front.pure _)
  refine (read_front (args_front _)).bind fun _ => ?_
  cases RouterDescriptorKeyword.findKeyword keyword with
  | ONION_KEY | SIGNING_KEY =>
    exact (read_front parsePublicKey_front).bind fun _ => handle_front _
  | ROUTER_SIGNATURE =>
    refine (handle_front _).bind fun _ => ?_
    exact (read_front parseSignature_front).bind fun _ => handle_front _
  | CACHES_EXTRA_INFO | HIDDEN_SERVICE_DIR | ALLOW_SINGLE_HOP_EXITS =>
    unfold processKeywordArgs
    exact handle_front _
  | UNKNOWN_KEYWORD => exact Front.pure _
  | _ => exact store_front _ _

end RouterDescriptorParser

/-! ## Microdescriptors -/

/-- The fields of `RouterMicrodescriptorImpl` that its parser sets. -/
structure RouterMicrodescriptor where
  onionKey : Option TorPublicKey := none
  ntorOnionKey : Option (List UInt8) := none
  familyMembers : List JString := []
  acceptPorts : Option ExitPorts := none
  rejectPorts : Option ExitPorts := none
  rawDocumentData : Option JString := none
  descriptorDigest : Option HexDigest := none
  deriving DecidableEq

def RouterMicrodescriptor.isValidDocument (d : RouterMicrodescriptor) : Bool :=
  d.descriptorDigest.isSome && d.onionKey.isSome

inductive RouterMicrodescriptorKeyword where
  | ONION_KEY
  | NTOR_ONION_KEY
  | A
  | FAMILY
  | P
  | UNKNOWN_KEYWORD
  deriving DecidableEq, Repr

namespace RouterMicrodescriptorKeyword

def getKeyword : RouterMicrodescriptorKeyword → JString
  | ONION_KEY => lit "onion-key"
  | NTOR_ONION_KEY => lit "ntor-onion-key"
  | A => lit "a"
  | FAMILY => lit "family"
  | P => lit "p"
  | UNKNOWN_KEYWORD => lit "KEYWORD NOT FOUNE"

def getArgumentCount : RouterMicrodescriptorKeyword → Option Nat
  | ONION_KEY => some 0
  | NTOR_ONION_KEY | A => some 1
  | FAMILY => none
  | P => some 2
  | UNKNOWN_KEYWORD => none

def values : List RouterMicrodescriptorKeyword :=
  [ONION_KEY, NTOR_ONION_KEY, A, FAMILY, P, UNKNOWN_KEYWORD]

def findKeyword (keyword : JString) : RouterMicrodescriptorKeyword :=
  (values.find? fun k => k.getKeyword = keyword).getD UNKNOWN_KEYWORD

end RouterMicrodescriptorKeyword

structure MicrodescriptorParser where
  currentDescriptor : Option RouterMicrodescriptor := none
  result : DocumentParsingResult RouterMicrodescriptor := { }

namespace RouterMicrodescriptorParser

variable (P : Platform)

abbrev MicroM := ParserM MicrodescriptorParser

/-- A field of the current descriptor is set. -/
def setDescriptor (f : RouterMicrodescriptor → RouterMicrodescriptor) :
    HandlerM MicrodescriptorParser Unit :=
  onDocument fun p => { p with currentDescriptor := p.currentDescriptor.map f }

def current : MicroM (Option RouterMicrodescriptor) :=
  handle do return (← get).document.currentDescriptor

/-- `finalizeDescriptor` of the current descriptor, if there is one. The digest of no text is a
null argument. -/
def finalizeCurrent : HandlerM MicrodescriptorParser Unit := do
  match (← get).document.currentDescriptor with
  | none => return ()
  | some descriptor =>
    match descriptor.rawDocumentData with
    | none => throw .nullPointer
    | some raw =>
      let digest := ({ isDigest256 := true } : TorMessageDigest).update (latin1 raw)
      let descriptor := { descriptor with descriptorDigest := some (digest.getHexDigest P) }
      onDocument fun p => { p with
        currentDescriptor := some descriptor
        result :=
          if descriptor.isValidDocument then p.result.documentParsed descriptor
          else p.result.documentInvalid descriptor (lit "Microdescriptor data invalid") }

/-- The part of `processOnionKeyLine` in front of the key. -/
def startDescriptor : HandlerM MicrodescriptorParser Unit := do
  finalizeCurrent P
  onDocument fun p => { p with currentDescriptor := some { } }
  onRecorder fun r => { r with
    rawDocumentBuffer := RouterMicrodescriptorKeyword.ONION_KEY.getKeyword ++ lit "\n" }

def processOnionKeyLine : MicroM Unit := do
  handle (startDescriptor P)
  let key ← read parsePublicKey
  handle (setDescriptor fun d => { d with onionKey := some key })

/-- `processP` for a current descriptor. -/
def parsePortsArgs : ArgM (RouterMicrodescriptor → RouterMicrodescriptor) := do
  let ruleType ← parseString
  if ruleType = lit "accept" then
    let ports ← ExitPorts.create true (← parseString)
    return fun d => { d with acceptPorts := some ports }
  else if ruleType = lit "reject" then
    let ports ← ExitPorts.create false (← parseString)
    return fun d => { d with rejectPorts := some ports }
  else return id

/-- Arguments are read and stored if there is a current descriptor. -/
def store {α : Type} (x : ArgM α) (f : α → RouterMicrodescriptor → RouterMicrodescriptor) :
    MicroM Unit := do
  if (← current).isSome then
    let a ← read (args x)
    handle (setDescriptor (f a))

def processKeywordArgs : RouterMicrodescriptorKeyword → MicroM Unit
  | .ONION_KEY => processOnionKeyLine P
  | .NTOR_ONION_KEY => store parseNtorPublicKey fun a d => { d with ntorOnionKey := some a }
  | .FAMILY => store remainingItems fun a d =>
      { d with familyMembers := a.foldl (fun s v => s.insert v) d.familyMembers }
  | .P => store parsePortsArgs id
  | _ => return ()

def processKeyword (keyword : RouterMicrodescriptorKeyword) : MicroM Unit := do
  read (args (verifyExpectedArgumentCount keyword.getKeyword keyword.getArgumentCount))
  processKeywordArgs P keyword

/-- The text so far becomes the text of the current descriptor. -/
def updateRawDocumentData : HandlerM MicrodescriptorParser Unit := do
  let raw := (← get).recorder.rawDocumentBuffer
  setDescriptor fun d => { d with rawDocumentData := some raw }

def processKnownKeyword (keyword : RouterMicrodescriptorKeyword) : MicroM Unit := do
  if keyword ≠ .UNKNOWN_KEYWORD then processKeyword P keyword

def processKeywordLine : MicroM Unit := do
  let keyword := RouterMicrodescriptorKeyword.findKeyword (← getCurrentKeyword)
  processKnownKeyword P keyword
  handle updateRawDocumentData

/-- `parse(resultHandler)`. -/
def parse : MicroM Bool :=
  catchParsingError (processDocument false (processKeywordLine P) (handle (finalizeCurrent P)))
    fun message => onDocument fun p => { p with result := p.result.parsingError message }

theorem store_front {α : Type} (x : ArgM α)
    (f : α → RouterMicrodescriptor → RouterMicrodescriptor) : Front unreadLines (store x f) := by
  refine (handle_front _).bind fun descriptor => Front.ite ?_ (Front.pure _)
  exact (read_front (args_front x)).bind fun _ => handle_front _

theorem processKeywordLine_front : Front unreadLines (processKeywordLine P) := by
  refine getCurrentKeyword_front.bind fun keyword => ?_
  refine (Front.ite ?_ (Front.pure _)).bind fun _ => handle_front _
  refine (read_front (args_front _)).bind fun _ => ?_
  cases RouterMicrodescriptorKeyword.findKeyword keyword with
  | ONION_KEY =>
    refine (handle_front _).bind fun _ => ?_
    exact (read_front parsePublicKey_front).bind fun _ => handle_front _
  | NTOR_ONION_KEY | FAMILY | P => exact store_front _ _
  | A | UNKNOWN_KEYWORD => exact Front.pure _

end RouterMicrodescriptorParser

end Orchid
