import Orchid.Socks.Request
import Orchid.Lib.Safe

/-!
# Orchid — the bytes of a SOCKS request

What a client has to send for its request to be read.

* `Request4`: a request of version 4 with its command and target. **`readRequest4_iff`**.
* `Greeting` and `Request5`: the two parts of a request of version 5. **`processAuthentication_cases`**
  and **`readFields_cases`**: where the second part is cut short, the address or the port is missing
  from the fields that a reply is built from.
-/

namespace Orchid

open Prog SocksRequest SocksState Socks4Request

/-- What the request asks for, once it is read. -/
def SocksRequest.target (request : SocksRequest) : Option SocksTarget :=
  match request.hostname with
  | some name => some (.hostname name request.port)
  | none => request.address.map (.address · request.port)

/-- The only exception that reading raises. -/
def IsSocksRequest : SocksException → Prop
  | .socksRequest _ => True
  | .runtime _ => False

/-! ## Reading is quiet

What does not depend on the bytes left to read survives the readers. -/

section Readers

variable {J : SocksState → Prop} (hJ : ∀ s input, J s → J (s.withInput input))

include hJ

theorem setInput_safe (input : List UInt8) : Safe J IsSocksRequest (setInput input) fun _ => True :=
  Safe.modify fun s hs => hJ s input hs

theorem readByte_safe : Safe J IsSocksRequest readByte fun _ => True := by
  refine Safe.get.bind fun s _ => ?_
  cases s.socket.input with
  | nil => exact Safe.throw trivial
  | cons n input => exact (setInput_safe hJ input).bind fun _ _ => Safe.pure trivial

theorem readAll_safe (length : Nat) : Safe J IsSocksRequest (readAll length) fun _ => True := by
  refine Safe.get.bind fun s _ => (setInput_safe hJ _).bind fun _ _ => ?_
  exact Safe.guard trivial (Safe.pure trivial)

theorem readNullTerminatedString_safe :
    Safe J IsSocksRequest readNullTerminatedString fun _ => True := by
  refine Safe.get.bind fun s _ => ?_
  cases untilNull s.socket.input [] with
  | none => exact (setInput_safe hJ []).bind fun _ _ => Safe.throw trivial
  | some p => exact (setInput_safe hJ p.2).bind fun _ _ => Safe.pure trivial

theorem readMethods_safe (n : Nat) (found : Bool) :
    Safe J IsSocksRequest (Socks5Request.readMethods n found) fun _ => True := by
  induction n generalizing found with
  | zero => exact Safe.pure trivial
  | succ n ih => exact (readByte_safe hJ).bind fun _ _ => ih _

theorem readAddressBytes_safe (addressType : UInt8) :
    Safe J IsSocksRequest (Socks5Request.readAddressBytes addressType) fun _ => True := by
  refine Safe.ite (fun _ => readAll_safe hJ 4) fun _ => ?_
  refine Safe.ite (fun _ => readAll_safe hJ 16) fun _ => ?_
  refine Safe.ite (fun _ => ?_) fun _ => Safe.throw trivial
  exact (readByte_safe hJ).bind fun length _ =>
    (readAll_safe hJ length.toNat).bind fun _ _ => Safe.pure trivial

end Readers

namespace SocksState.Quiet

variable {s₀ : SocksState} {s : SocksState}

theorem withInput (h : Quiet s₀ s) (input : List UInt8) :
    Quiet s₀ (s.withInput input) := ⟨h.written, h.receives, h.isClosed, h.opened⟩

theorem withRequest (h : Quiet s₀ s) (request : SocksRequest) :
    Quiet s₀ (s.withRequest request) := ⟨h.written, h.receives, h.isClosed, h.opened⟩

theorem onRequest_safe (f : SocksRequest → SocksRequest) :
    Safe (Quiet s₀) IsSocksRequest (onRequest f) fun _ => True :=
  Safe.modify fun _ hs => hs.withRequest _

theorem setPortData_safe (data : List UInt8) :
    Safe (Quiet s₀) IsSocksRequest (setPortData data) fun _ => True := by
  unfold setPortData
  exact Safe.guard trivial (onRequest_safe _)

theorem setIPv4AddressData_safe (safeSocks : Bool) (data : List UInt8) :
    Safe (Quiet s₀) IsSocksRequest (setIPv4AddressData safeSocks data) fun _ => True := by
  unfold setIPv4AddressData
  exact Safe.guard trivial (Safe.guard trivial (onRequest_safe _))

theorem readRequest4_safe (safeSocks : Bool) :
    Safe (Quiet s₀) IsSocksRequest (readRequest safeSocks) fun _ => True := by
  have hJ : ∀ s input, Quiet s₀ s → Quiet s₀ (s.withInput input) := fun _ input h =>
    h.withInput input
  refine (readByte_safe hJ).bind fun command _ => (onRequest_safe _).bind fun _ _ => ?_
  refine (readAll_safe hJ 2).bind fun port _ => (setPortData_safe port).bind fun _ _ => ?_
  refine (readAll_safe hJ 4).bind fun ipv4Data _ => ?_
  refine (readNullTerminatedString_safe hJ).bind fun _ _ => ?_
  exact Safe.ite (fun _ => (readNullTerminatedString_safe hJ).bind fun _ _ => onRequest_safe _)
    fun _ => setIPv4AddressData_safe safeSocks ipv4Data

end SocksState.Quiet

/-! ## Version 4 -/

/-- The bytes behind the version: a command, a port, an address, a user and, behind an address that
stands for none, a host name. -/
def Request4 (safeSocks : Bool) (input : List UInt8) (command : UInt8) (target : SocksTarget) :
    Prop :=
  ∃ port data user rest, input = command :: (port ++ data ++ user ++ 0 :: rest) ∧
    port.length = 2 ∧ data.length = 4 ∧ 0 ∉ user ∧
    ((isVersion4aHostname data = true ∧ ∃ name more, rest = name ++ 0 :: more ∧
        0 ∉ name ∧ target = .hostname (name.map charOfByte) (portOf port)) ∨
      isVersion4aHostname data = false ∧ safeSocks = false ∧
        target = .address (addressOf data) (portOf port))

variable {safeSocks : Bool} {s' : SocksState}

theorem readRequest4_eq_ok :
    readRequest safeSocks s = .ok () s' ↔
      ∃ command port data user rest, s.socket.input = command :: (port ++ data ++ user ++ 0 :: rest) ∧
        port.length = 2 ∧ data.length = 4 ∧ 0 ∉ user ∧
        ((isVersion4aHostname data = true ∧ ∃ name more, rest = name ++ 0 :: more ∧
            0 ∉ name ∧ s' = (s.withInput more).withRequest { s.request with
              command := command, port := portOf port, hostname := some (name.map charOfByte) }) ∨
          isVersion4aHostname data = false ∧ safeSocks = false ∧
            s' = (s.withInput rest).withRequest { s.request with
              command := command, port := portOf port, address := some (addressOf data) }) := by
  unfold readRequest readPortData readIPv4AddressData
  simp only [readByte_bind, onRequest_bind, readAll_bind, setPortData_bind,
    readNullTerminatedString_bind, withInput_input, withRequest_input]
  constructor
  · rintro ⟨command, _, hinput, port, _, rfl, hport, -, data, _, rfl, hdata, user, rest, rfl, huser, h⟩
    refine ⟨command, port, data, user, rest, by simp [hinput], hport, hdata, huser, ?_⟩
    split at h
    · rename_i hname
      obtain ⟨name, more, rfl, hnull, h⟩ := readNullTerminatedString_bind.mp h
      exact Or.inl ⟨hname, name, more, rfl, hnull, onRequest_eq_ok.mp h⟩
    · rename_i hname
      obtain ⟨hsafe, -, rfl⟩ := setIPv4AddressData_eq_ok.mp h
      exact Or.inr ⟨by simpa using hname, hsafe, rfl⟩
  · rintro ⟨command, port, data, user, rest, hinput, hport, hdata, huser, hrest⟩
    refine ⟨command, _, hinput, port, data ++ (user ++ 0 :: rest), by simp, hport, hport, data, _,
      rfl, hdata, user, rest, rfl, huser, ?_⟩
    rcases hrest with ⟨hname, name, more, rfl, hnull, rfl⟩ | ⟨hname, hsafe, rfl⟩
    · rw [if_pos hname]
      exact readNullTerminatedString_bind.mpr ⟨name, more, rfl, hnull, rfl⟩
    · rw [if_neg (by simp [hname])]
      exact setIPv4AddressData_eq_ok.mpr ⟨hsafe, hdata, rfl⟩

/-- A request that was read has a target. -/
theorem readRequest4_target (h : readRequest safeSocks s = .ok () s') :
    ∃ target, s'.request.target = some target := by
  obtain ⟨command, port, data, user, rest, -, -, -, -, hrest⟩ := readRequest4_eq_ok.mp h
  rcases hrest with ⟨-, name, more, -, -, rfl⟩ | ⟨-, -, rfl⟩
  · exact ⟨_, rfl⟩
  · refine Option.isSome_iff_exists.mp ?_
    cases hname : s.request.hostname with
    | none | some name => simp [SocksRequest.target, withRequest, hname]

theorem readRequest4_iff (hs : s.request = { }) (command : UInt8) (target : SocksTarget) :
    (∃ s', readRequest safeSocks s = .ok () s' ∧ s'.request.command = command ∧
        s'.request.target = some target) ↔
      Request4 safeSocks s.socket.input command target := by
  simp only [readRequest4_eq_ok, hs]
  constructor
  · rintro ⟨s', ⟨command, port, data, user, rest, hinput, hport, hdata, huser, hrest⟩, rfl, htarget⟩
    refine ⟨port, data, user, rest, ?_, hport, hdata, huser, ?_⟩
    · rcases hrest with ⟨-, name, more, -, -, rfl⟩ | ⟨-, -, rfl⟩ <;> exact hinput
    · rcases hrest with ⟨hname, name, more, rfl, hnull, rfl⟩ | ⟨hname, hsafe, rfl⟩
      · exact Or.inl ⟨hname, name, more, rfl, hnull, (Option.some.inj htarget).symm⟩
      · exact Or.inr ⟨hname, hsafe, (Option.some.inj htarget).symm⟩
  · rintro ⟨port, data, user, rest, hinput, hport, hdata, huser, hrest⟩
    rcases hrest with ⟨hname, name, more, rfl, hnull, rfl⟩ | ⟨hname, hsafe, rfl⟩
    · exact ⟨_, ⟨command, port, data, user, _, hinput, hport, hdata, huser,
        Or.inl ⟨hname, name, more, rfl, hnull, rfl⟩⟩, rfl, rfl⟩
    · exact ⟨_, ⟨command, port, data, user, _, hinput, hport, hdata, huser,
        Or.inr ⟨hname, hsafe, rfl⟩⟩, rfl, rfl⟩

/-! ## Version 5: the greeting -/

/-- A number of methods, the methods, and what follows them. -/
def Greeting (input methods rest : List UInt8) : Prop :=
  ∃ n, input = n :: (methods ++ rest) ∧ methods.length = n.toNat

/-- A greeting is read in one way. -/
theorem Greeting.unique {input methods rest methods' rest' : List UInt8}
    (h : Greeting input methods rest) (h' : Greeting input methods' rest') :
    methods' = methods ∧ rest' = rest := by
  obtain ⟨n, hinput, hlength⟩ := h
  obtain ⟨n', hinput', hlength'⟩ := h'
  rw [hinput, List.cons.injEq] at hinput'
  obtain ⟨rfl, happend⟩ := hinput'
  obtain ⟨hmethods, hrest⟩ := List.append_inj happend (by rw [hlength, hlength'])
  exact ⟨hmethods.symm, hrest.symm⟩

namespace Socks5Request

theorem found_cons (found : Bool) (meth : UInt8) (methods : List UInt8) :
    (found || (meth == SOCKS5_AUTH_NONE) || methods.contains SOCKS5_AUTH_NONE) =
      (found || (meth :: methods).contains SOCKS5_AUTH_NONE) := by
  rw [List.contains_cons, Bool.or_assoc, BEq.comm]

theorem readMethods_eq_ok {n : Nat} {found b : Bool} :
    readMethods n found s = .ok b s' ↔
      ∃ methods rest, s.socket.input = methods ++ rest ∧ methods.length = n ∧
        b = (found || methods.contains SOCKS5_AUTH_NONE) ∧ s' = s.withInput rest := by
  induction n generalizing found s with
  | zero =>
    constructor
    · intro h
      cases h
      exact ⟨[], s'.socket.input, rfl, rfl, by simp, rfl⟩
    · rintro ⟨methods, rest, hinput, hlength, rfl, rfl⟩
      cases List.length_eq_zero_iff.mp hlength
      rw [show rest = s.socket.input from hinput.symm]
      simp [readMethods, withInput]
  | succ n ih =>
    unfold readMethods
    simp only [readByte_bind, ih, withInput_input]
    constructor
    · rintro ⟨meth, _, hinput, methods, rest, rfl, hlength, rfl, rfl⟩
      exact ⟨meth :: methods, rest, hinput, by simp [hlength], found_cons found meth methods, rfl⟩
    · rintro ⟨methods, rest, hinput, hlength, rfl, rfl⟩
      cases methods with
      | nil => cases hlength
      | cons meth methods =>
        exact ⟨meth, methods ++ rest, hinput, methods, rest, rfl, by simpa using hlength,
          (found_cons found meth methods).symm, rfl⟩

/-- The method that is chosen. -/
def chosenMethod (methods : List UInt8) : UInt8 :=
  if methods.contains SOCKS5_AUTH_NONE then SOCKS5_AUTH_NONE else 0xFF

/-- The greeting is read before it is answered. -/
def readGreeting : SocksM Bool := do
  let nmethods ← readByte
  readMethods nmethods.toNat false

def answer (found : Bool) : SocksM Bool :=
  if found then do
    sendAuthenticationResponse SOCKS5_AUTH_NONE
    return true
  else do
    sendAuthenticationResponse 0xFF
    return false

theorem processAuthentication_eq : processAuthentication = readGreeting >>= answer := by
  unfold readGreeting
  rw [bind_assoc]
  rfl

theorem readGreeting_eq_ok {found : Bool} :
    readGreeting s = .ok found s' ↔ ∃ methods rest, Greeting s.socket.input methods rest ∧
      found = methods.contains SOCKS5_AUTH_NONE ∧ s' = s.withInput rest := by
  unfold readGreeting
  simp only [readByte_bind, readMethods_eq_ok, withInput_input, Bool.false_or]
  constructor
  · rintro ⟨n, _, hinput, methods, rest, rfl, hlength, hfound, hs'⟩
    exact ⟨methods, rest, ⟨n, hinput, hlength⟩, hfound, hs'⟩
  · rintro ⟨methods, rest, ⟨n, hinput, hlength⟩, hfound, hs'⟩
    exact ⟨n, _, hinput, methods, rest, rfl, hlength, hfound, hs'⟩

theorem answer_run (methods : List UInt8) (s : SocksState) :
    answer (methods.contains SOCKS5_AUTH_NONE) s =
      if s.socket.receives = 0 then .error (.socksRequest []) s
      else .ok (methods.contains SOCKS5_AUTH_NONE)
        (s.wrote [SOCKS5_VERSION, chosenMethod methods]) := by
  unfold answer chosenMethod sendAuthenticationResponse
  cases methods.contains SOCKS5_AUTH_NONE <;> by_cases hzero : s.socket.receives = 0 <;>
    simp [bind_run, socketWrite_run, hzero]

theorem processAuthentication_cases (s : SocksState) :
    (∃ methods rest, Greeting s.socket.input methods rest ∧ s.socket.receives ≠ 0 ∧
        processAuthentication s = .ok (methods.contains SOCKS5_AUTH_NONE)
          ((s.withInput rest).wrote [SOCKS5_VERSION, chosenMethod methods])) ∨
      ¬ ((∃ methods rest, Greeting s.socket.input methods rest) ∧ s.socket.receives ≠ 0) ∧
        ∃ e s', processAuthentication s = .error e s' ∧ IsSocksRequest e ∧ Quiet s s' ∧
          s'.request = s.request := by
  rw [processAuthentication_eq]
  cases hgreeting : readGreeting s with
  | error e s' =>
    let J : SocksState → Prop := fun t => Quiet s t ∧ t.request = s.request
    have hJ : ∀ t input, J t → J (t.withInput input) :=
      fun t input ht => ⟨ht.1.withInput input, ht.2⟩
    obtain ⟨⟨hquiet, hrequest⟩, he⟩ := ((readByte_safe hJ).bind fun _ _ =>
      readMethods_safe hJ _ _).error ⟨Quiet.refl s, rfl⟩ hgreeting
    refine Or.inr ⟨?_, e, s', bind_of_error hgreeting, he, hquiet, hrequest⟩
    rintro ⟨⟨methods, rest, hread⟩, -⟩
    cases hgreeting.symm.trans (readGreeting_eq_ok.mpr ⟨methods, rest, hread, rfl, rfl⟩)
  | ok found s' =>
    obtain ⟨methods, rest, hread, rfl, rfl⟩ := readGreeting_eq_ok.mp hgreeting
    rw [bind_of_ok hgreeting, answer_run]
    by_cases hreceives : (s.withInput rest).socket.receives = 0
    · rw [if_pos hreceives]
      exact Or.inr ⟨fun h => h.2 hreceives, .socksRequest [], s.withInput rest, rfl, trivial,
        (Quiet.refl s).withInput rest, rfl⟩
    · rw [if_neg hreceives]
      exact Or.inl ⟨methods, rest, hread, hreceives, rfl⟩

end Socks5Request

/-! ## Version 5: the request -/

/-- An address as long as its type requires. -/
def AddressBytes (addressType : UInt8) (addressBytes : List UInt8) : Prop :=
  (addressType = Socks5Request.SOCKS5_ADDRESS_IPV4 ∧ addressBytes.length = 4) ∨
    (addressType = Socks5Request.SOCKS5_ADDRESS_IPV6 ∧ addressBytes.length = 16) ∨
    (addressType = Socks5Request.SOCKS5_ADDRESS_HOSTNAME ∧
      ∃ length name, addressBytes = length :: name ∧ name.length = length.toNat)

/-- The bytes behind the greeting: the version, a command, a reserved byte, the type of the address,
the address and the port. -/
def Request5 (input : List UInt8) (command addressType : UInt8)
    (addressBytes portBytes : List UInt8) : Prop :=
  ∃ reserved rest, input = Socks5Request.SOCKS5_VERSION :: command :: reserved :: addressType ::
    (addressBytes ++ portBytes ++ rest) ∧
    AddressBytes addressType addressBytes ∧ portBytes.length = 2

/-- What a request of version 5 asks for; it may not name an address of version 6. -/
def Target5 (safeSocks : Bool) (addressType : UInt8) (addressBytes portBytes : List UInt8)
    (target : SocksTarget) : Prop :=
  (addressType = Socks5Request.SOCKS5_ADDRESS_IPV4 ∧ safeSocks = false ∧
      target = .address (addressOf addressBytes) (portOf portBytes)) ∨
    (addressType = Socks5Request.SOCKS5_ADDRESS_HOSTNAME ∧
      target = .hostname ((addressBytes.drop 1).map charOfByte) (portOf portBytes))

section AddressTypes

open Socks5Request

variable {data : List UInt8}

theorem addressBytes_ipv4 : AddressBytes SOCKS5_ADDRESS_IPV4 data ↔ data.length = 4 := by
  simp [AddressBytes, SOCKS5_ADDRESS_IPV4, SOCKS5_ADDRESS_IPV6, SOCKS5_ADDRESS_HOSTNAME]

theorem addressBytes_ipv6 : AddressBytes SOCKS5_ADDRESS_IPV6 data ↔ data.length = 16 := by
  simp [AddressBytes, SOCKS5_ADDRESS_IPV4, SOCKS5_ADDRESS_IPV6, SOCKS5_ADDRESS_HOSTNAME]

theorem addressBytes_hostname : AddressBytes SOCKS5_ADDRESS_HOSTNAME data ↔
    ∃ length name, data = length :: name ∧ name.length = length.toNat := by
  simp [AddressBytes, SOCKS5_ADDRESS_IPV4, SOCKS5_ADDRESS_IPV6, SOCKS5_ADDRESS_HOSTNAME]

end AddressTypes

variable {addressType : UInt8}

/-- No address goes on behind another of its type. -/
theorem AddressBytes.eq_nil {addressBytes more : List UInt8}
    (h : AddressBytes addressType addressBytes) (hmore : AddressBytes addressType (addressBytes ++ more)) :
    more = [] := by
  have hlength : (addressBytes ++ more).length = addressBytes.length := by
    rcases h with ⟨rfl, hfour⟩ | ⟨rfl, hsixteen⟩ | ⟨rfl, length, name, rfl, hname⟩
    · rw [hfour, addressBytes_ipv4.mp hmore]
    · rw [hsixteen, addressBytes_ipv6.mp hmore]
    · -- the length stands in front, so both names have the same one
      obtain ⟨length', name', hsame, hname'⟩ := addressBytes_hostname.mp hmore
      rw [List.cons_append, List.cons.injEq] at hsame
      obtain ⟨rfl, hsame⟩ := hsame
      rw [List.cons_append, hsame, List.length_cons, List.length_cons, hname, hname']
  rw [List.length_append] at hlength
  exact List.length_eq_zero_iff.mp (by omega)

/-- A request of version 5 has one target. -/
theorem Target5.unique {addressBytes portBytes : List UInt8}
    {target target' : SocksTarget} (h : Target5 safeSocks addressType addressBytes portBytes target)
    (h' : Target5 safeSocks addressType addressBytes portBytes target') : target' = target := by
  rcases h with ⟨htype, -, rfl⟩ | ⟨htype, rfl⟩
  · rcases h' with ⟨-, -, rfl⟩ | ⟨htype', -⟩
    · rfl
    · cases htype.symm.trans htype'
  · rcases h' with ⟨htype', -⟩ | ⟨-, rfl⟩
    · cases htype.symm.trans htype'
    · rfl

namespace Socks5Request

variable {addressType : UInt8} {s s' : SocksState} {addressBytes portBytes : List UInt8}

variable {data : List UInt8}

theorem readAddressBytes_eq_ok :
    readAddressBytes addressType s = .ok data s' ↔
      ∃ rest, s.socket.input = data ++ rest ∧ AddressBytes addressType data ∧
        s' = s.withInput rest := by
  unfold readAddressBytes
  split
  · rename_i htype
    rw [htype, addressBytes_ipv4]
    exact readAll_eq_ok
  · rename_i hipv4
    split
    · rename_i htype
      rw [htype, addressBytes_ipv6]
      exact readAll_eq_ok
    · rename_i hipv6
      split
      · rename_i htype
        simp only [htype, addressBytes_hostname]
        unfold readHostnameData
        simp only [readByte_bind, readAll_bind, withInput_input]
        constructor
        · rintro ⟨length, _, hinput, name, rest, rfl, hlength, h⟩
          cases h
          exact ⟨rest, hinput, ⟨length, name, rfl, hlength⟩, rfl⟩
        · rintro ⟨rest, hinput, ⟨length, name, rfl, hlength⟩, rfl⟩
          exact ⟨length, name ++ rest, hinput, name, rest, rfl, hlength, rfl⟩
      · rename_i hhostname
        simp [AddressBytes, hipv4, hipv6, hhostname]

/-- The request that the fields make, before they are used. -/
def fields (command addressType : UInt8) (addressBytes portBytes : List UInt8) : SocksRequest :=
  { command := command, addressType := addressType, addressBytes := addressBytes
    portBytes := portBytes }

theorem readAddress_eq_ok :
    readAddress s = .ok data s' ↔
      ∃ command reserved addressType rest,
        s.socket.input = SOCKS5_VERSION :: command :: reserved :: addressType :: (data ++ rest) ∧
        AddressBytes addressType data ∧
        s' = (s.withInput rest).withRequest
          { s.request with command := command, addressType := addressType } := by
  unfold readAddress
  simp only [readByte_bind]
  constructor
  · rintro ⟨version, _, hinput, h⟩
    by_cases hversion : version ≠ SOCKS5_VERSION
    · rw [if_pos hversion] at h
      cases h
    · rw [if_neg hversion] at h
      simp only [readByte_bind, onRequest_bind, withInput_input, withRequest_input] at h
      obtain ⟨command, _, rfl, reserved, _, rfl, addressType, _, rfl, h⟩ := h
      obtain ⟨rest, rfl, haddress, rfl⟩ := readAddressBytes_eq_ok.mp h
      rw [not_not.mp hversion] at hinput
      exact ⟨command, reserved, addressType, rest, hinput, haddress, rfl⟩
  · rintro ⟨command, reserved, addressType, rest, hinput, haddress, rfl⟩
    refine ⟨_, _, hinput, ?_⟩
    rw [if_neg (by simp)]
    simp only [readByte_bind, onRequest_bind, withInput_input, withRequest_input]
    exact ⟨command, _, rfl, reserved, _, rfl, addressType, _, rfl,
      readAddressBytes_eq_ok.mpr ⟨rest, rfl, haddress, rfl⟩⟩

/-- A reply built now would lack its port, and perhaps its address. -/
def Unfinished (request : SocksRequest) : Prop :=
  request.portBytes = [] ∧ (request.addressBytes = [] ∨
    AddressBytes request.addressType request.addressBytes)

theorem Unfinished.incomplete {request : SocksRequest} (h : Unfinished request)
    {status status' : UInt8} (haddress : AddressBytes addressType addressBytes)
    (hport : portBytes.length = 2) :
    response request status ≠
      [SOCKS5_VERSION, status', 0, addressType] ++ addressBytes ++ portBytes := by
  intro hreply
  obtain ⟨hempty, hbytes⟩ := h
  simp only [response, hempty, List.append_nil, List.cons_append, List.nil_append,
    List.cons.injEq, true_and] at hreply
  obtain ⟨-, rfl, hsame⟩ := hreply
  rw [hsame] at hbytes
  rcases hbytes with hnil | hbytes
  · rw [(List.append_eq_nil_iff.mp hnil).2] at hport
    cases hport
  · rw [haddress.eq_nil hbytes] at hport
    cases hport

theorem readAddress_error {e : SocksException} (hs : s.request = { })
    (h : readAddress s = .error e s') :
    IsSocksRequest e ∧ Quiet s s' ∧ Unfinished s'.request := by
  -- up to the address the two fields stay empty
  let J : SocksState → Prop := fun t =>
    Quiet s t ∧ t.request.addressBytes = [] ∧ t.request.portBytes = []
  have hsafe : Safe J IsSocksRequest readAddress fun _ => True := by
    have hJ : ∀ t input, J t → J (t.withInput input) :=
      fun t input ht => ⟨ht.1.withInput input, ht.2⟩
    refine Safe.bind (readByte_safe hJ) fun version _ => Safe.guard trivial ?_
    refine Safe.bind (readByte_safe hJ) fun command _ => ?_
    refine Safe.bind (Q := fun _ => True) (Safe.modify fun t ht => ⟨ht.1.withRequest _, ht.2⟩)
      fun _ _ => ?_
    refine Safe.bind (readByte_safe hJ) fun _ _ => ?_
    refine Safe.bind (readByte_safe hJ) fun addressType _ => ?_
    refine Safe.bind (Q := fun _ => True) (Safe.modify fun t ht => ⟨ht.1.withRequest _, ht.2⟩)
      fun _ _ => ?_
    exact readAddressBytes_safe hJ addressType
  have hstart : J s := ⟨Quiet.refl s, by rw [hs], by rw [hs]⟩
  obtain ⟨⟨hquiet, haddress, hport⟩, he⟩ := hsafe.error hstart h
  exact ⟨he, hquiet, hport, Or.inl haddress⟩

theorem readFields_eq_ok :
    readFields s = .ok () s' ↔
      ∃ command reserved addressType addressBytes portBytes rest,
        s.socket.input = SOCKS5_VERSION :: command :: reserved :: addressType ::
          (addressBytes ++ portBytes ++ rest) ∧
        AddressBytes addressType addressBytes ∧ portBytes.length = 2 ∧
        s' = (s.withInput rest).withRequest { s.request with
          command := command, addressType := addressType, addressBytes := addressBytes
          portBytes := portBytes } := by
  unfold readFields readPortData
  simp only [bind_eq_ok (x := readAddress), readAddress_eq_ok, onRequest_bind, readAll_bind,
    onRequest_eq_ok]
  constructor
  · rintro ⟨addressBytes, _, ⟨command, reserved, addressType, _, hinput, haddress, rfl⟩, portBytes,
      rest, rfl, hport, rfl⟩
    rw [← List.append_assoc] at hinput
    exact ⟨command, reserved, addressType, addressBytes, portBytes, rest, hinput, haddress, hport, rfl⟩
  · rintro ⟨command, reserved, addressType, addressBytes, portBytes, rest, hinput, haddress, hport,
      rfl⟩
    rw [List.append_assoc] at hinput
    exact ⟨addressBytes, _, ⟨command, reserved, addressType, _, hinput, haddress, rfl⟩, portBytes,
      rest, rfl, hport, rfl⟩

/-- A request is read in one way. -/
theorem request5_unique {input : List UInt8} {command command' addressType' : UInt8}
    {addressBytes' portBytes' : List UInt8}
    (h : Request5 input command addressType addressBytes portBytes)
    (h' : Request5 input command' addressType' addressBytes' portBytes') :
    command' = command ∧ addressType' = addressType ∧ addressBytes' = addressBytes ∧
      portBytes' = portBytes := by
  obtain ⟨reserved, rest, hinput, haddress, hport⟩ := h
  obtain ⟨reserved', rest', hinput', haddress', hport'⟩ := h'
  let s : SocksState := { socket := { input := input, receives := 0 } }
  have hread := readFields_eq_ok (s := s).mpr
    ⟨command, reserved, addressType, addressBytes, portBytes, rest, hinput, haddress, hport, rfl⟩
  have hread' := readFields_eq_ok (s := s).mpr
    ⟨command', reserved', addressType', addressBytes', portBytes', rest', hinput', haddress',
      hport', rfl⟩
  rw [hread] at hread'
  simp only [EStateM.Result.ok.injEq, true_and, withRequest, SocksState.mk.injEq,
    SocksRequest.mk.injEq] at hread'
  obtain ⟨-, ⟨hcommand, htype, hbytes, hports⟩, -⟩ := hread'
  exact ⟨hcommand.symm, htype.symm, hbytes.symm, hports.symm⟩

/-- The fields are read to their end, or the reply would be unfinished. -/
theorem readFields_cases (hs : s.request = { }) :
    (∃ command addressType addressBytes portBytes s',
        Request5 s.socket.input command addressType addressBytes portBytes ∧
        readFields s = .ok () s' ∧ Quiet s s' ∧
        s'.request = fields command addressType addressBytes portBytes) ∨
      (¬ ∃ command addressType addressBytes portBytes,
          Request5 s.socket.input command addressType addressBytes portBytes) ∧
        ∃ e s', readFields s = .error e s' ∧ IsSocksRequest e ∧ Quiet s s' ∧
          Unfinished s'.request := by
  cases hrun : readFields s with
  | ok u s' =>
    obtain ⟨command, reserved, addressType, addressBytes, portBytes, rest, hinput, haddress, hport,
      rfl⟩ := readFields_eq_ok.mp hrun
    refine Or.inl ⟨command, addressType, addressBytes, portBytes, _,
      ⟨reserved, rest, hinput, haddress, hport⟩, rfl, ⟨rfl, rfl, rfl, rfl⟩, ?_⟩
    simp [withRequest, hs, fields]
  | error e s' =>
    refine Or.inr ⟨?_, e, s', rfl, ?_⟩
    · rintro ⟨command, addressType, addressBytes, portBytes, reserved, rest, hinput, haddress, hport⟩
      have hok := readFields_eq_ok.mpr ⟨command, reserved, addressType, addressBytes, portBytes,
        rest, hinput, haddress, hport, rfl⟩
      cases hrun.symm.trans hok
    · rcases bind_eq_error.mp hrun with haddress | ⟨addressBytes, s₁, haddress, hbehind⟩
      · exact readAddress_error hs haddress
      · obtain ⟨command, reserved, addressType, rest, -, hbytes, rfl⟩ :=
          readAddress_eq_ok.mp haddress
        -- the address has been read, and the port is cut short
        rcases bind_eq_error.mp hbehind with hset | ⟨_, t, hset, hport⟩
        · cases hset
        · cases hset
          have hsafe : Safe (fun t => Quiet s t ∧ Unfinished t.request) IsSocksRequest
              readPortData fun _ => True :=
            readAll_safe (fun t input ht => ⟨ht.1.withInput input, ht.2⟩) 2
          rcases bind_eq_error.mp hport with hread | ⟨portBytes, t, -, hset⟩
          · have herror := fun hstart => hsafe.error hstart hread
            obtain ⟨⟨hquiet, hunfinished⟩, he⟩ := herror
              ⟨⟨rfl, rfl, rfl, rfl⟩, congrArg SocksRequest.portBytes hs, Or.inr hbytes⟩
            exact ⟨he, hquiet, hunfinished⟩
          · cases hset

/-- The fields are used. -/
theorem useFields_cases (safeSocks : Bool) {command : UInt8}
    (haddress : AddressBytes addressType addressBytes) (hport : portBytes.length = 2)
    (hs : s.request = fields command addressType addressBytes portBytes) :
    (∃ target s', Target5 safeSocks addressType addressBytes portBytes target ∧
        useFields safeSocks s = .ok () s' ∧ Quiet s s' ∧
        s'.request.target = some target ∧ s'.request.command = command ∧
        s'.request.addressType = addressType ∧ s'.request.addressBytes = addressBytes ∧
        s'.request.portBytes = portBytes) ∨
      (¬ ∃ target, Target5 safeSocks addressType addressBytes portBytes target) ∧
        ∃ e, useFields safeSocks s = .error e s ∧ IsSocksRequest e := by
  have hlength : addressType = SOCKS5_ADDRESS_IPV4 → addressBytes.length = 4 := by
    intro htype
    rw [htype] at haddress
    exact addressBytes_ipv4.mp haddress
  have hrun : useFields safeSocks s = (if addressType = SOCKS5_ADDRESS_IPV4 then do
        setIPv4AddressData safeSocks addressBytes
        setPortData portBytes
      else if addressType = SOCKS5_ADDRESS_HOSTNAME then do
        setHostname (← fromExcept (addressBytesToHostname
          (fields command addressType addressBytes portBytes)))
        setPortData portBytes
      else throw (.socksRequest []) : SocksM Unit) s := by
    unfold useFields
    rw [get_bind_run, hs]
    rfl
  rw [hrun]
  by_cases hipv4 : addressType = SOCKS5_ADDRESS_IPV4
  · rw [if_pos hipv4]
    cases safeSocks with
    | true =>
      refine Or.inr ⟨?_, _, rfl, trivial⟩
      rintro ⟨target, ⟨-, hsafe, -⟩ | ⟨hother, -⟩⟩
      · cases hsafe
      · cases hipv4.symm.trans hother
    | false =>
      refine Or.inl ⟨_, (s.withRequest { s.request with address := some (addressOf addressBytes)
                                                        port := portOf portBytes }),
        Or.inl ⟨hipv4, rfl, rfl⟩, ?_, ⟨rfl, rfl, rfl, rfl⟩, ?_⟩
      · refine bind_eq_ok.mpr ⟨(), _, setIPv4AddressData_eq_ok.mpr ⟨rfl, hlength hipv4, rfl⟩, ?_⟩
        exact setPortData_eq_ok.mpr ⟨hport, rfl⟩
      · simp [withRequest, hs, fields, SocksRequest.target]
  · rw [if_neg hipv4]
    by_cases hhostname : addressType = SOCKS5_ADDRESS_HOSTNAME
    · rw [if_pos hhostname]
      have hname : addressBytesToHostname (fields command addressType addressBytes portBytes) =
          .ok ((addressBytes.drop 1).map charOfByte) := by
        unfold addressBytesToHostname
        rw [if_neg (by simp [fields, hhostname])]
        rfl
      refine Or.inl ⟨_, (s.withRequest { s.request with
          hostname := some ((addressBytes.drop 1).map charOfByte), port := portOf portBytes }),
        Or.inr ⟨hhostname, rfl⟩, ?_, ⟨rfl, rfl, rfl, rfl⟩, ?_⟩
      · rw [hname]
        refine bind_eq_ok.mpr ⟨_, _, rfl, bind_eq_ok.mpr ⟨(), _, rfl, ?_⟩⟩
        exact setPortData_eq_ok.mpr ⟨hport, rfl⟩
      · simp [withRequest, hs, fields, SocksRequest.target]
    · rw [if_neg hhostname]
      refine Or.inr ⟨?_, _, rfl, trivial⟩
      rintro ⟨target, ⟨htype, -⟩ | ⟨htype, -⟩⟩
      · exact hipv4 htype
      · exact hhostname htype

end Socks5Request

end Orchid
