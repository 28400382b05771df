import Orchid.Lib.Prog
import Orchid.Lib.Lists
import Orchid.Data.Codec

/-!
# Orchid — SOCKS requests

A SOCKS client sends a request of version 4 or 5 and waits for one reply. `Socks4Request` and
`Socks5Request` read the request from the client's socket byte by byte and write the replies; what
they have read so far is kept in fields, and a reply of version 5 repeats the address and the port
from there.

* `SocksSocket` is the socket as the request sees it: the bytes that the client still sends and
  the buffers that were written to it.
* Each reader has an `_eq_ok` lemma: which bytes it reads, and what it leaves.
-/

namespace Orchid

open Prog

/-! ## The socket -/

/-- The client's socket. When no bytes are left the client has ended its stream or a read fails,
which `readByte` and `readAll` do not tell apart; of the writes to come `receives` succeed. -/
structure SocksSocket where
  input : List UInt8
  receives : Nat
  written : List (List UInt8) := []
  isClosed : Bool := false
  deriving DecidableEq

/-- What a request asks for. -/
inductive SocksTarget where
  | hostname (name : JString) (port : Nat)
  | address (address : IPv4Address) (port : Nat)
  deriving DecidableEq

/-- The fields of `SocksRequest`, `Socks4Request` and `Socks5Request`. -/
structure SocksRequest where
  address : Option IPv4Address := none
  hostname : Option JString := none
  port : Nat := 0
  command : UInt8 := 0
  addressType : UInt8 := 0
  addressBytes : List UInt8 := []
  portBytes : List UInt8 := []
  deriving DecidableEq

/-- The request, its socket, and the targets to which streams were opened for it. -/
structure SocksState where
  socket : SocksSocket
  request : SocksRequest := { }
  opened : List SocksTarget := []
  deriving DecidableEq

/-- The exceptions of a session: `SocksRequestException` is the checked one, the others are runtime
exceptions. -/
inductive SocksException where
  | socksRequest (message : JString)
  | runtime (message : JString)
  deriving DecidableEq

abbrev SocksM := Prog SocksException SocksState

namespace SocksRequest

def onRequest (f : SocksRequest → SocksRequest) : SocksM Unit :=
  modify fun s => { s with request := f s.request }

def setInput (input : List UInt8) : SocksM Unit :=
  modify fun s => { s with socket := { s.socket with input := input } }

def readByte : SocksM UInt8 := do
  match (← get).socket.input with
  | [] => throw (.socksRequest [])
  | n :: input =>
    setInput input
    return n

/-- `readAll` into a buffer of `length` bytes; what was read before the end of the stream is gone. -/
def readAll (length : Nat) : SocksM (List UInt8) := do
  let input := (← get).socket.input
  setInput (input.drop length)
  if input.length < length then throw (.socksRequest [])
  return input.take length

def readPortData : SocksM (List UInt8) := readAll 2

def readIPv4AddressData : SocksM (List UInt8) := readAll 4

def readIPv6AddressData : SocksM (List UInt8) := readAll 16

/-- The loop of `readNullTerminatedString` over the bytes of the client. -/
def untilNull : List UInt8 → JString → Option (JString × List UInt8)
  | [], _ => none
  | c :: input, sb => if c = 0 then some (sb, input) else untilNull input (sb ++ [charOfByte c])

def readNullTerminatedString : SocksM JString := do
  match untilNull (← get).socket.input [] with
  | none =>
    setInput []
    throw (.socksRequest [])
  | some (string, input) =>
    setInput input
    return string

/-- `socketWrite`. -/
def socketWrite (buffer : List UInt8) : SocksM Unit := do
  let socket := (← get).socket
  if socket.receives = 0 then throw (.socksRequest [])
  modify fun s => { s with socket :=
    { socket with written := socket.written ++ [buffer], receives := socket.receives - 1 } }

/-- The two bytes of a port. -/
def portOf (data : List UInt8) : Nat := (data.getD 0 0).toNat * 256 + (data.getD 1 0).toNat

def setPortData (data : List UInt8) : SocksM Unit := do
  if data.length ≠ 2 then throw (.socksRequest [])
  onRequest fun r => { r with port := portOf data }

def addressOf (data : List UInt8) : IPv4Address :=
  ⟨data.foldl (fun value b => (value <<< 8) ||| BitVec.ofNat 32 b.toNat) 0⟩

/-- `setIPv4AddressData`; with `SafeSocks` a request that names an address is refused. -/
def setIPv4AddressData (safeSocks : Bool) (data : List UInt8) : SocksM Unit := do
  if safeSocks then throw (.socksRequest (lit "Rejecting unsafe SOCKS request"))
  if data.length ≠ 4 then throw (.socksRequest [])
  onRequest fun r => { r with address := some (addressOf data) }

def setHostname (name : JString) : SocksM Unit :=
  onRequest fun r => { r with hostname := some name }

end SocksRequest

/-! ## Version 4 -/

namespace Socks4Request

open SocksRequest

def SOCKS_COMMAND_CONNECT : UInt8 := 1
def SOCKS_STATUS_SUCCESS : UInt8 := 0x5a
def SOCKS_STATUS_FAILURE : UInt8 := 0x5b

def isConnectRequest (request : SocksRequest) : Bool := request.command == SOCKS_COMMAND_CONNECT

def isVersion4aHostname (data : List UInt8) : Bool :=
  match data with
  | [a, b, c, d] => a == 0 && b == 0 && c == 0 && d != 0
  | _ => false

def sendResponse (code : UInt8) : SocksM Unit := socketWrite [0, code, 0, 0, 0, 0, 0, 0]

def sendError (_isUnsupportedCommand : Bool) : SocksM Unit := sendResponse SOCKS_STATUS_FAILURE

def sendSuccess : SocksM Unit := sendResponse SOCKS_STATUS_SUCCESS

def sendConnectionRefused : SocksM Unit := sendError false

def readRequest (safeSocks : Bool) : SocksM Unit := do
  let command ← readByte
  onRequest fun r => { r with command := command }
  setPortData (← readPortData)
  let ipv4Data ← readIPv4AddressData
  let _ ← readNullTerminatedString
  if isVersion4aHostname ipv4Data then setHostname (← readNullTerminatedString)
  else setIPv4AddressData safeSocks ipv4Data

end Socks4Request

/-! ## Version 5 -/

namespace Socks5Request

open SocksRequest

def SOCKS5_VERSION : UInt8 := 5
def SOCKS5_AUTH_NONE : UInt8 := 0
def SOCKS5_COMMAND_CONNECT : UInt8 := 1
def SOCKS5_ADDRESS_IPV4 : UInt8 := 1
def SOCKS5_ADDRESS_HOSTNAME : UInt8 := 3
def SOCKS5_ADDRESS_IPV6 : UInt8 := 4
def SOCKS5_STATUS_SUCCESS : UInt8 := 0
def SOCKS5_STATUS_FAILURE : UInt8 := 1
def SOCKS5_STATUS_CONNECTION_REFUSED : UInt8 := 5
def SOCKS5_STATUS_COMMAND_NOT_SUPPORTED : UInt8 := 7

def isConnectRequest (request : SocksRequest) : Bool := request.command == SOCKS5_COMMAND_CONNECT

def addressBytesToHostname (request : SocksRequest) : Except SocksException JString :=
  if request.addressType ≠ SOCKS5_ADDRESS_HOSTNAME then
    .error (.runtime (lit "SOCKS 4 request is not a hostname request"))
  else .ok ((request.addressBytes.drop 1).map charOfByte)

/-- The reply as the fields stand when it is built. -/
def response (request : SocksRequest) (status : UInt8) : List UInt8 :=
  [SOCKS5_VERSION, status, 0, request.addressType] ++ request.addressBytes ++ request.portBytes

def sendResponse (status : UInt8) : SocksM Unit := do
  socketWrite (response (← get).request status)

def sendConnectionRefused : SocksM Unit := sendResponse SOCKS5_STATUS_CONNECTION_REFUSED

def sendError (isUnsupportedCommand : Bool) : SocksM Unit :=
  if isUnsupportedCommand then sendResponse SOCKS5_STATUS_COMMAND_NOT_SUPPORTED
  else sendResponse SOCKS5_STATUS_FAILURE

def sendSuccess : SocksM Unit := sendResponse SOCKS5_STATUS_SUCCESS

def sendAuthenticationResponse (method : UInt8) : SocksM Unit :=
  socketWrite [SOCKS5_VERSION, method]

/-- The loop over the methods that the client offers. -/
def readMethods : Nat → Bool → SocksM Bool
  | 0, foundAuthNone => return foundAuthNone
  | n + 1, foundAuthNone => do
    let meth ← readByte
    readMethods n (foundAuthNone || meth == SOCKS5_AUTH_NONE)

def processAuthentication : SocksM Bool := do
  let nmethods ← readByte
  let foundAuthNone ← readMethods nmethods.toNat false
  if foundAuthNone then
    sendAuthenticationResponse SOCKS5_AUTH_NONE
    return true
  else
    sendAuthenticationResponse 0xFF
    return false

def readHostnameData : SocksM (List UInt8) := do
  let length ← readByte
  return length :: (← readAll length.toNat)

def readAddressBytes (addressType : UInt8) : SocksM (List UInt8) :=
  if addressType = SOCKS5_ADDRESS_IPV4 then readIPv4AddressData
  else if addressType = SOCKS5_ADDRESS_IPV6 then readIPv6AddressData
  else if addressType = SOCKS5_ADDRESS_HOSTNAME then readHostnameData
  else throw (.socksRequest [])

/-- The request behind the greeting, up to its address. -/
def readAddress : SocksM (List UInt8) := do
  if (← readByte) ≠ SOCKS5_VERSION then throw (.socksRequest [])
  let command ← readByte
  onRequest fun r => { r with command := command }
  let _ ← readByte
  let addressType ← readByte
  onRequest fun r => { r with addressType := addressType }
  readAddressBytes addressType

/-- The fields of the request behind the greeting. -/
def readFields : SocksM Unit := do
  let addressBytes ← readAddress
  onRequest fun r => { r with addressBytes := addressBytes }
  let portBytes ← readPortData
  onRequest fun r => { r with portBytes := portBytes }

/-- What is made of the fields. -/
def useFields (safeSocks : Bool) : SocksM Unit := do
  let request := (← get).request
  if request.addressType = SOCKS5_ADDRESS_IPV4 then
    setIPv4AddressData safeSocks request.addressBytes
    setPortData request.portBytes
  else if request.addressType = SOCKS5_ADDRESS_HOSTNAME then
    setHostname (← fromExcept (addressBytesToHostname request))
    setPortData request.portBytes
  else throw (.socksRequest [])

def readRequest (safeSocks : Bool) : SocksM Unit := do
  if !(← processAuthentication) then
    throw (.socksRequest (lit "Failed to negotiate authentication"))
  readFields
  useFields safeSocks

end Socks5Request

/-! ## What the readers read -/

namespace SocksState

/-- The state with other bytes left to read. -/
def withInput (s : SocksState) (input : List UInt8) : SocksState :=
  { s with socket := { s.socket with input := input } }

variable (s : SocksState) (input : List UInt8)

@[simp] theorem withInput_input :
    (s.withInput input).socket.input = input := rfl

@[simp] theorem withInput_request :
    (s.withInput input).request = s.request := rfl

@[simp] theorem withInput_withInput (input' : List UInt8) :
    (s.withInput input).withInput input' = s.withInput input' := rfl

/-- The state with another request. -/
def withRequest (s : SocksState) (request : SocksRequest) : SocksState :=
  { s with request := request }

@[simp] theorem withRequest_input (request : SocksRequest) :
    (s.withRequest request).socket.input = s.socket.input := rfl

/-- The state once a buffer has been written. -/
def wrote (s : SocksState) (buffer : List UInt8) : SocksState :=
  { s with socket :=
    { s.socket with written := s.socket.written ++ [buffer], receives := s.socket.receives - 1 } }

/-- Nothing has been written, and nothing closed or opened. -/
structure Quiet (s s' : SocksState) : Prop where
  written : s'.socket.written = s.socket.written
  receives : s'.socket.receives = s.socket.receives
  isClosed : s'.socket.isClosed = s.socket.isClosed
  opened : s'.opened = s.opened

theorem Quiet.refl : Quiet s s := ⟨rfl, rfl, rfl, rfl⟩

end SocksState

namespace SocksRequest

variable {s s' : SocksState} {data : List UInt8} {f : SocksRequest → SocksRequest}

theorem onRequest_eq_ok : onRequest f s = .ok () s' ↔ s' = s.withRequest (f s.request) := by
  constructor
  · intro h
    cases h
    rfl
  · rintro rfl
    rfl

theorem readByte_eq_ok {n : UInt8} :
    readByte s = .ok n s' ↔ ∃ input, s.socket.input = n :: input ∧ s' = s.withInput input := by
  unfold readByte
  rw [get_bind_run]
  cases hinput : s.socket.input with
  | nil => simp
  | cons b input =>
    constructor
    · intro h
      cases h
      exact ⟨input, rfl, rfl⟩
    · rintro ⟨input', hsame, rfl⟩
      cases hsame
      rfl

theorem readAll_eq_ok {length : Nat} :
    readAll length s = .ok data s' ↔
      ∃ rest, s.socket.input = data ++ rest ∧ data.length = length ∧ s' = s.withInput rest := by
  have hrun : readAll length s = if s.socket.input.length < length then
      .error (.socksRequest []) (s.withInput (s.socket.input.drop length))
      else .ok (s.socket.input.take length) (s.withInput (s.socket.input.drop length)) := by
    show (if s.socket.input.length < length then _ else _ : SocksM (List UInt8)) _ = _
    split <;> rfl
  rw [hrun]
  split
  · rename_i hshort
    refine iff_of_false (by simp) ?_
    rintro ⟨rest, hinput, hlength, -⟩
    rw [hinput, List.length_append] at hshort
    omega
  · rename_i hlong
    constructor
    · intro h
      cases h
      exact ⟨s.socket.input.drop length, (List.take_append_drop ..).symm,
        by rw [List.length_take]; omega, rfl⟩
    · rintro ⟨rest, hinput, rfl, rfl⟩
      rw [hinput, List.take_left, List.drop_left]

/-! What follows a reader starts behind the bytes that it has read. -/

variable {α : Type} {a : α} {g : Unit → SocksM α}

theorem onRequest_bind : (onRequest f >>= g) s = g () (s.withRequest (f s.request)) := rfl

theorem readByte_bind {g : UInt8 → SocksM α} :
    (readByte >>= g) s = .ok a s' ↔
      ∃ n input, s.socket.input = n :: input ∧ g n (s.withInput input) = .ok a s' := by
  simp only [bind_eq_ok, readByte_eq_ok]
  constructor
  · rintro ⟨n, _, ⟨input, hinput, rfl⟩, hg⟩
    exact ⟨n, input, hinput, hg⟩
  · rintro ⟨n, input, hinput, hg⟩
    exact ⟨n, _, ⟨input, hinput, rfl⟩, hg⟩

theorem readAll_bind {length : Nat} {g : List UInt8 → SocksM α} :
    (readAll length >>= g) s = .ok a s' ↔
      ∃ data rest, s.socket.input = data ++ rest ∧ data.length = length ∧
        g data (s.withInput rest) = .ok a s' := by
  simp only [bind_eq_ok, readAll_eq_ok]
  constructor
  · rintro ⟨data, _, ⟨rest, hinput, hlength, rfl⟩, hg⟩
    exact ⟨data, rest, hinput, hlength, hg⟩
  · rintro ⟨data, rest, hinput, hlength, hg⟩
    exact ⟨data, _, ⟨rest, hinput, hlength, rfl⟩, hg⟩

theorem untilNull_eq_some {input rest : List UInt8} {sb string : JString} :
    untilNull input sb = some (string, rest) ↔
      ∃ text rest', input = text ++ 0 :: rest' ∧ 0 ∉ text ∧
        string = sb ++ text.map charOfByte ∧ rest' = rest := by
  induction input generalizing sb with
  | nil => exact iff_of_false (by simp [untilNull]) (by simp)
  | cons c input ih =>
    rw [Lists.upTo_cons, untilNull]
    split
    · rename_i hnull
      simp [hnull, eq_comm]
    · rename_i hchar
      simp [hchar, ih]

theorem readNullTerminatedString_eq_ok {string : JString} :
    readNullTerminatedString s = .ok string s' ↔
      ∃ text rest, s.socket.input = text ++ 0 :: rest ∧ 0 ∉ text ∧
        string = text.map charOfByte ∧ s' = s.withInput rest := by
  unfold readNullTerminatedString
  rw [get_bind_run]
  cases huntil : untilNull s.socket.input [] with
  | none =>
    refine iff_of_false ?_ ?_
    · intro h
      cases h
    · rintro ⟨text, rest, hinput, htext, -⟩
      have hsome : untilNull s.socket.input [] = some (text.map charOfByte, rest) :=
        untilNull_eq_some.mpr ⟨text, rest, hinput, htext, rfl, rfl⟩
      cases huntil.symm.trans hsome
  | some p =>
    obtain ⟨string', rest⟩ := p
    constructor
    · intro h
      cases h
      obtain ⟨text, _, hinput, htext, hstring, rfl⟩ := untilNull_eq_some.mp huntil
      exact ⟨text, _, hinput, htext, hstring, rfl⟩
    · rintro ⟨text, rest', hinput, htext, rfl, rfl⟩
      have hsome : untilNull s.socket.input [] = some (text.map charOfByte, rest') :=
        untilNull_eq_some.mpr ⟨text, rest', hinput, htext, rfl, rfl⟩
      cases huntil.symm.trans hsome
      rfl

theorem readNullTerminatedString_bind {g : JString → SocksM α} :
    (readNullTerminatedString >>= g) s = .ok a s' ↔
      ∃ text rest, s.socket.input = text ++ 0 :: rest ∧ 0 ∉ text ∧
        g (text.map charOfByte) (s.withInput rest) = .ok a s' := by
  simp only [bind_eq_ok, readNullTerminatedString_eq_ok]
  constructor
  · rintro ⟨_, _, ⟨text, rest, hinput, htext, rfl, rfl⟩, hg⟩
    exact ⟨text, rest, hinput, htext, hg⟩
  · rintro ⟨text, rest, hinput, htext, hg⟩
    exact ⟨_, _, ⟨text, rest, hinput, htext, rfl, rfl⟩, hg⟩

theorem socketWrite_run (buffer : List UInt8) (s : SocksState) :
    socketWrite buffer s =
      if s.socket.receives = 0 then .error (.socksRequest []) s else .ok () (s.wrote buffer) := by
  show (if s.socket.receives = 0 then _ else _ : SocksM Unit) s = _
  split <;> rfl

theorem setPortData_eq_ok :
    setPortData data s = .ok () s' ↔
      data.length = 2 ∧ s' = s.withRequest { s.request with port := portOf data } := by
  have hrun : setPortData data s = if data.length ≠ 2 then .error (.socksRequest []) s
      else .ok () (s.withRequest { s.request with port := portOf data }) := by
    show (if data.length ≠ 2 then _ else _ : SocksM Unit) s = _
    split <;> rfl
  rw [hrun]
  split
  · rename_i hother
    simp [hother]
  · rename_i htwo
    simp [not_not.mp htwo, eq_comm]

theorem setPortData_bind :
    (setPortData data >>= g) s = .ok a s' ↔ data.length = 2 ∧
      g () (s.withRequest { s.request with port := portOf data }) = .ok a s' := by
  rw [bind_eq_ok]
  constructor
  · rintro ⟨⟨⟩, _, h, hg⟩
    obtain ⟨hlength, rfl⟩ := setPortData_eq_ok.mp h
    exact ⟨hlength, hg⟩
  · rintro ⟨hlength, hg⟩
    exact ⟨(), _, setPortData_eq_ok.mpr ⟨hlength, rfl⟩, hg⟩

theorem setIPv4AddressData_eq_ok {safeSocks : Bool} :
    setIPv4AddressData safeSocks data s = .ok () s' ↔
      safeSocks = false ∧ data.length = 4 ∧
        s' = s.withRequest { s.request with address := some (addressOf data) } := by
  have hrun : setIPv4AddressData safeSocks data s =
      if safeSocks = true then .error (.socksRequest (lit "Rejecting unsafe SOCKS request")) s
      else if data.length ≠ 4 then .error (.socksRequest []) s
      else .ok () (s.withRequest { s.request with address := some (addressOf data) }) := by
    show (if safeSocks = true then _ else _ : SocksM Unit) s = _
    split
    · rfl
    · show (if data.length ≠ 4 then _ else _ : SocksM Unit) s = _
      split <;> rfl
  rw [hrun]
  split
  · rename_i hsafe
    simp [hsafe]
  · rename_i hrefused
    split
    · rename_i hother
      simp [hother]
    · rename_i hfour
      simp [hrefused, not_not.mp hfour, eq_comm]

end SocksRequest

end Orchid
