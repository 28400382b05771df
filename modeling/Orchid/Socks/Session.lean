import Orchid.Socks.ClientTask

/-!
# Orchid — SOCKS sessions in order

What a client may expect of a session, and which sessions keep it.

* `SessionOk`: the socket is closed, and a client of version 4 or 5 has got at most one final reply,
  a complete one, with a success only if a stream was opened to what it asked for.
* `Regular`: the version is not the first letter of an HTTP request, the open call raises no runtime
  exception, and a request of version 5 is not cut short before its address and port are read.
* `Arrived`, **`processRequest_arrived`**: how far the request of a client is read, byte by byte, and
  what a reply repeats of it then.
* **`session_iff`**: a session is in order exactly if it is regular.
-/

namespace Orchid

open Prog SocksRequest Socks5Request

/-! ## What a session should be -/

/-- The replies behind the choice of a method, which is the only write of two bytes. -/
def finalReplies (s : SocksState) : List (List UInt8) :=
  s.socket.written.filter fun buffer => buffer.length ≠ 2

namespace SocksVersion

/-- A complete reply. -/
def Complete : SocksVersion → List UInt8 → Prop
  | v4, reply => reply.length = 8
  | v5, reply => ∃ status addressType addressBytes portBytes,
      reply = [Socks5Request.SOCKS5_VERSION, status, 0, addressType] ++ addressBytes ++ portBytes ∧
      AddressBytes addressType addressBytes ∧ portBytes.length = 2

def IsSuccess (version : SocksVersion) (reply : List UInt8) : Prop :=
  reply[1]? = some version.successStatus

/-- The bytes behind the version ask for a connection to the target. -/
def Requests (safeSocks : Bool) : SocksVersion → List UInt8 → SocksTarget → Prop
  | v4, input, target =>
    Request4 safeSocks input Socks4Request.SOCKS_COMMAND_CONNECT target
  | v5, input, target => ∃ methods rest addressType addressBytes portBytes,
      Greeting input methods rest ∧ methods.contains Socks5Request.SOCKS5_AUTH_NONE = true ∧
      Request5 rest Socks5Request.SOCKS5_COMMAND_CONNECT addressType addressBytes portBytes ∧
      Target5 safeSocks addressType addressBytes portBytes target

end SocksVersion

/-- The version by which a request is recognised, and what follows it. -/
def recognised : List UInt8 → Option (SocksVersion × List UInt8)
  | [] => none
  | b :: rest => if b = 4 then some (.v4, rest) else if b = 5 then some (.v5, rest) else none

/-- A session in order. -/
structure SessionOk (E : SocksEnvironment) (input : List UInt8) (s : SocksState) : Prop where
  closed : s.socket.isClosed = true
  once : ∀ version rest, recognised input = some (version, rest) → (finalReplies s).length ≤ 1
  complete : ∀ version rest, recognised input = some (version, rest) →
    ∀ reply ∈ finalReplies s, version.Complete reply
  success : ∀ version rest, recognised input = some (version, rest) →
    ∀ reply ∈ finalReplies s, version.IsSuccess reply →
      ∃ target, version.Requests E.safeSocks rest target ∧ target ∈ s.opened

/-- A request of version 5 that ends or goes wrong before its address and its port are read, while
the client still takes a reply. -/
def CutShort (input : List UInt8) (receives : Nat) : Prop :=
  ((¬ ∃ methods rest, Greeting input methods rest) ∧ receives ≠ 0) ∨
    ∃ methods rest, Greeting input methods rest ∧ 2 ≤ receives ∧
      ¬ (methods.contains Socks5Request.SOCKS5_AUTH_NONE = true ∧
        ∃ command addressType addressBytes portBytes,
          Request5 rest command addressType addressBytes portBytes)

/-- The sessions that end in order. -/
structure Regular (E : SocksEnvironment) (input : List UInt8) (receives : Nat) : Prop where
  noHttp : ∀ b rest, input = b :: rest → b ≠ 72 ∧ b ≠ 71 ∧ b ≠ 80
  noRuntimeError : ∀ version rest target, recognised input = some (version, rest) →
    version.Requests E.safeSocks rest target → (version = .v5 → receives ≠ 0) →
    E.openExitStreamTo target ≠ .runtimeError
  notCutShort : ∀ rest, recognised input = some (.v5, rest) → ¬ CutShort rest receives

/-! ## How far a request is read -/

/-- Nothing but the choice of a method was written, and nothing closed or opened. -/
structure Heard (s : SocksState) : Prop where
  replies : finalReplies s = []
  isClosed : s.socket.isClosed = false
  opened : s.opened = []

variable {s : SocksState}

theorem Heard.quiet {s' : SocksState} (h : Heard s) (hquiet : SocksState.Quiet s s') :
    Heard s' := by
  refine ⟨?_, hquiet.isClosed.trans h.isClosed, hquiet.opened.trans h.opened⟩
  unfold finalReplies
  rw [hquiet.written]
  exact h.replies

theorem finalReplies_wrote (s : SocksState) (buffer : List UInt8) :
    finalReplies (s.wrote buffer) =
      finalReplies s ++ if buffer.length ≠ 2 then [buffer] else [] := by
  unfold finalReplies SocksState.wrote
  rw [List.filter_append]
  by_cases hlength : buffer.length = 2
  · simp [hlength]
  · simp [hlength]

theorem Heard.wrote_method (h : Heard s) (a b : UInt8) : Heard (s.wrote [a, b]) := by
  refine ⟨?_, h.isClosed, h.opened⟩
  rw [finalReplies_wrote, h.replies]
  rfl

namespace SocksVersion

/-- A reply built now is complete, whatever its status. -/
def Repeats (version : SocksVersion) (request : SocksRequest) : Prop :=
  ∀ status, version.Complete (version.reply request status)

theorem repeats4 (request : SocksRequest) : SocksVersion.v4.Repeats request := fun _ => rfl

theorem repeats5 {request : SocksRequest}
    (haddress : AddressBytes request.addressType request.addressBytes)
    (hport : request.portBytes.length = 2) : SocksVersion.v5.Repeats request :=
  fun status => ⟨status, request.addressType, request.addressBytes, request.portBytes, rfl, haddress,
    hport⟩

end SocksVersion

namespace SocksClientTask

variable (E : SocksEnvironment)

/-- How far the request in `input` is read, and what is done then: a request of version 5 goes wrong
before its port is read; or all was read and is rejected; or it is served. -/
inductive Arrived (version : SocksVersion) (input : List UInt8) (receives : Nat) :
    EStateM.Result SocksException SocksState Unit → Prop where
  | cut (s : SocksState) (heard : Heard s) (hversion : version = .v5)
      (hunfinished : Socks5Request.Unfinished s.request)
      (hcut : s.socket.receives ≠ 0 ↔ CutShort input receives)
      (hrequests : ∀ target, version.Requests E.safeSocks input target → receives = 0) :
      Arrived version input receives (answerFailure version s)
  | rejected (s : SocksState) (heard : Heard s) (hrepeats : version.Repeats s.request)
      (hcut : version = .v5 → ¬ CutShort input receives)
      (hrequests : ∀ target, ¬ version.Requests E.safeSocks input target) :
      Arrived version input receives (answerFailure version s)
  | read (s : SocksState) (target : SocksTarget) (heard : Heard s)
      (hrepeats : version.Repeats s.request) (hcut : version = .v5 → ¬ CutShort input receives)
      (hreceives : version = .v5 → receives ≠ 0) (htarget : s.request.target = some target)
      (hconnect : version.isConnectRequest s.request = true →
        version.Requests E.safeSocks input target)
      (hrequests : ∀ target', version.Requests E.safeSocks input target' →
        version.isConnectRequest s.request = true ∧ target' = target) :
      Arrived version input receives
        (catchSocksRequest (serve E version) (answerFailure version) s)

variable {s s' : SocksState} {input methods rest : List UInt8} {version : SocksVersion}

/-- Reading that fails goes to the handler. -/
theorem processRequest_of_error (version : SocksVersion) {e : SocksException}
    (h : version.readRequest E.safeSocks s = .error e s') (he : IsSocksRequest e) :
    processRequest E version s = answerFailure version s' := by
  unfold processRequest catchSocksRequest
  rw [bind_of_error h]
  cases e with
  | socksRequest message => rfl
  | runtime message => exact absurd he id

theorem processRequest_of_ok (version : SocksVersion)
    (h : version.readRequest E.safeSocks s = .ok () s') :
    processRequest E version s =
      catchSocksRequest (serve E version) (answerFailure version) s' := by
  unfold processRequest catchSocksRequest
  rw [bind_of_ok h]

theorem processRequest_arrived4 (hs : s.request = { }) (heard : Heard s) :
    Arrived E .v4 s.socket.input s.socket.receives (processRequest E .v4 s) := by
  have hsafe : Safe (SocksState.Quiet s) IsSocksRequest (Socks4Request.readRequest E.safeSocks)
      fun _ => True := SocksState.Quiet.readRequest4_safe E.safeSocks
  cases hread : Socks4Request.readRequest E.safeSocks s with
  | error e s' =>
    obtain ⟨hquiet, he⟩ := hsafe.error (SocksState.Quiet.refl s) hread
    rw [processRequest_of_error E .v4 hread he]
    refine .rejected s' (heard.quiet hquiet) (SocksVersion.repeats4 _) (fun h => nomatch h) ?_
    intro target hrequest
    obtain ⟨s'', hok, -⟩ := (readRequest4_iff hs _ target).mpr hrequest
    cases hread.symm.trans hok
  | ok u s' =>
    have hquiet := (hsafe.ok (SocksState.Quiet.refl s) hread).1
    obtain ⟨target, htarget⟩ := readRequest4_target hread
    rw [processRequest_of_ok E .v4 hread]
    refine .read s' target (heard.quiet hquiet) (SocksVersion.repeats4 _) (fun h => nomatch h)
      (fun h => nomatch h) htarget ?_ ?_
    · intro hconnect
      exact (readRequest4_iff hs _ target).mp ⟨s', hread, eq_of_beq hconnect, htarget⟩
    · intro target' hrequest
      obtain ⟨s'', hok, hcommand, htarget'⟩ := (readRequest4_iff hs _ target').mpr hrequest
      cases hread.symm.trans hok
      rw [htarget, Option.some.injEq] at htarget'
      exact ⟨beq_iff_eq.mpr hcommand, htarget'.symm⟩

/-- Behind the greeting: a client that offers no method is refused, and the fields of another one's
request are read. -/
theorem readRequest5_of_greeting {found : Bool} (h : processAuthentication s = .ok found s') :
    readRequest E.safeSocks s =
      if found = true then
        (readFields >>= fun _ => useFields E.safeSocks) s'
      else .error (.socksRequest (lit "Failed to negotiate authentication")) s' := by
  unfold readRequest
  rw [bind_of_ok h]
  cases found with
  | false | true => rfl

/-- Behind a greeting a request is cut short if its fields are not read and a reply is taken. -/
theorem cutShort_iff (receives : Nat) (hgreeting : Greeting input methods rest) :
    CutShort input receives ↔ receives - 1 ≠ 0 ∧
      ¬ (methods.contains SOCKS5_AUTH_NONE = true ∧
        ∃ command addressType addressBytes portBytes,
          Request5 rest command addressType addressBytes portBytes) := by
  constructor
  · rintro (⟨hnone, -⟩ | ⟨methods', rest', hgreeting', htwo, hunread⟩)
    · exact absurd ⟨methods, rest, hgreeting⟩ hnone
    · obtain ⟨rfl, rfl⟩ := hgreeting.unique hgreeting'
      exact ⟨by omega, hunread⟩
  · rintro ⟨hone, hunread⟩
    exact Or.inr ⟨methods, rest, hgreeting, by omega, hunread⟩

variable {target : SocksTarget}

/-- Behind a greeting, a connection is asked for by the fields. -/
theorem requests5_of_greeting {safeSocks : Bool} (hgreeting : Greeting input methods rest)
    (h : SocksVersion.v5.Requests safeSocks input target) :
    methods.contains SOCKS5_AUTH_NONE = true ∧
      ∃ addressType addressBytes portBytes,
        Request5 rest SOCKS5_COMMAND_CONNECT addressType addressBytes portBytes ∧
        Target5 safeSocks addressType addressBytes portBytes target := by
  obtain ⟨methods', rest', addressType, addressBytes, portBytes, hgreeting', hfound, hrequest,
    htarget⟩ := h
  obtain ⟨rfl, rfl⟩ := hgreeting.unique hgreeting'
  exact ⟨hfound, addressType, addressBytes, portBytes, hrequest, htarget⟩

/-- The greeting was accepted, and the state is `t`. -/
theorem processRequest_arrived_fields {t : SocksState}
    (hgreeting : Greeting s.socket.input methods rest) (hreceives : s.socket.receives ≠ 0)
    (hfound : methods.contains SOCKS5_AUTH_NONE = true)
    (hread : readRequest E.safeSocks s = (readFields >>= fun _ => useFields E.safeSocks) t)
    (htHeard : Heard t) (htReceives : t.socket.receives = s.socket.receives - 1)
    (htRequest : t.request = { }) (htInput : t.socket.input = rest) :
    Arrived E .v5 s.socket.input s.socket.receives (processRequest E .v5 s) := by
  have hcut := cutShort_iff s.socket.receives hgreeting
  rw [hfound] at hcut
  rcases readFields_cases htRequest with
    ⟨command, addressType, addressBytes, portBytes, t', hrequest, hfields, hquiet, hrequest'⟩ |
    ⟨hunread, e, t', hfields, he, hquiet, hunfinished⟩
  · rw [bind_of_ok hfields] at hread
    rw [htInput] at hrequest
    have hwhole : ¬ CutShort s.socket.input s.socket.receives := by
      rw [hcut]
      rintro ⟨-, hunread⟩
      exact hunread ⟨rfl, command, addressType, addressBytes, portBytes, hrequest⟩
    have ⟨_, _, _, haddress, hport⟩ := hrequest
    rcases useFields_cases E.safeSocks haddress hport hrequest' with
      ⟨target, t'', htarget, huse, hquiet', htarget', hcommand, htype, hbytes, hports⟩ |
      ⟨hnone, e, huse, he⟩
    · rw [processRequest_of_ok E .v5 (hread.trans huse)]
      refine .read t'' target ((htHeard.quiet hquiet).quiet hquiet') ?_ (fun _ => hwhole)
        (fun _ => hreceives) htarget' ?_ ?_
      · refine SocksVersion.repeats5 ?_ ?_
        · rw [htype, hbytes]
          exact haddress
        · rw [hports]
          exact hport
      · intro hconnect
        have hconnect' : command = SOCKS5_COMMAND_CONNECT := by
          rw [← hcommand]
          exact eq_of_beq hconnect
        rw [hconnect'] at hrequest
        exact ⟨methods, rest, addressType, addressBytes, portBytes, hgreeting, hfound, hrequest,
          htarget⟩
      · intro target' hrequests
        obtain ⟨-, _, _, _, hrequest'', htarget''⟩ := requests5_of_greeting hgreeting hrequests
        obtain ⟨hsame, rfl, rfl, rfl⟩ := request5_unique hrequest hrequest''
        refine ⟨?_, htarget.unique htarget''⟩
        show (t''.request.command == SOCKS5_COMMAND_CONNECT) = true
        rw [hcommand, ← hsame]
        rfl
    · -- an address that may not be asked for is repeated in the reply
      rw [processRequest_of_error E .v5 (hread.trans huse) he]
      refine .rejected t' (htHeard.quiet hquiet) ?_ (fun _ => hwhole) ?_
      · rw [hrequest']
        exact SocksVersion.repeats5 haddress hport
      · intro target hrequests
        obtain ⟨-, _, _, _, hrequest'', htarget⟩ := requests5_of_greeting hgreeting hrequests
        obtain ⟨-, rfl, rfl, rfl⟩ := request5_unique hrequest hrequest''
        exact hnone ⟨target, htarget⟩
  · rw [bind_of_error hfields] at hread
    rw [processRequest_of_error E .v5 hread he]
    rw [htInput] at hunread
    refine .cut t' (htHeard.quiet hquiet) rfl hunfinished ?_ ?_
    · rw [hcut, hquiet.receives, htReceives]
      simp only [true_and]
      exact ⟨fun h => ⟨h, hunread⟩, fun h => h.1⟩
    · intro target hrequests
      obtain ⟨-, addressType, addressBytes, portBytes, hrequest, -⟩ :=
        requests5_of_greeting hgreeting hrequests
      exact absurd ⟨_, addressType, addressBytes, portBytes, hrequest⟩ hunread

theorem processRequest_arrived5 (hs : s.request = { }) (heard : Heard s) :
    Arrived E .v5 s.socket.input s.socket.receives (processRequest E .v5 s) := by
  have hempty : Unfinished s.request := by
    rw [hs]
    exact ⟨rfl, Or.inl rfl⟩
  rcases processAuthentication_cases s with
    ⟨methods, rest, hgreeting, hreceives, hgreet⟩ | ⟨hnone, e, s', hgreet, he, hquiet, hrequest⟩
  · have htHeard : Heard ((s.withInput rest).wrote [SOCKS5_VERSION, chosenMethod methods]) :=
      (heard.quiet ((SocksState.Quiet.refl s).withInput rest)).wrote_method _ _
    have hread := readRequest5_of_greeting E hgreet
    cases hfound : methods.contains SOCKS5_AUTH_NONE with
    | true =>
      rw [hfound, if_pos rfl] at hread
      exact processRequest_arrived_fields E hgreeting hreceives hfound hread htHeard rfl hs rfl
    | false =>
      rw [hfound, if_neg Bool.false_ne_true] at hread
      rw [processRequest_of_error E .v5 hread trivial]
      refine .cut _ htHeard rfl hempty ?_ ?_
      · rw [cutShort_iff s.socket.receives hgreeting, hfound]
        show s.socket.receives - 1 ≠ 0 ↔ _
        simp
      · intro target hrequest
        rw [(requests5_of_greeting hgreeting hrequest).1] at hfound
        cases hfound
  · have hread : readRequest E.safeSocks s = .error e s' := bind_of_error hgreet
    rw [processRequest_of_error E .v5 hread he]
    refine .cut s' (heard.quiet hquiet) rfl (by rw [hrequest]; exact hempty) ?_ ?_
    · rw [hquiet.receives]
      constructor
      · intro hreceives
        exact Or.inl ⟨fun hgreeting => hnone ⟨hgreeting, hreceives⟩, hreceives⟩
      · rintro (⟨-, hreceives⟩ | ⟨methods, rest, -, htwo, -⟩)
        · exact hreceives
        · omega
    · rintro target ⟨methods, rest, -, -, -, hgreeting, -⟩
      by_contra hreceives
      exact hnone ⟨⟨methods, rest, hgreeting⟩, hreceives⟩

/-- How the request of a client that has just come is read. -/
theorem processRequest_arrived (version : SocksVersion) (hs : s.request = { }) (heard : Heard s) :
    Arrived E version s.socket.input s.socket.receives (processRequest E version s) := by
  cases version with
  | v4 => exact processRequest_arrived4 E hs heard
  | v5 => exact processRequest_arrived5 E hs heard

/-! ## How the session ends -/

/-- The end of `run`: the socket is closed unless an exception has come before. -/
def settle : EStateM.Result SocksException SocksState Unit → SocksState
  | .ok _ s => closed s
  | .error _ s => s

theorem session_cons (b : UInt8) (rest : List UInt8) (receives : Nat) :
    session E (b :: rest) receives =
      settle (dispatchRequest E (some b) { socket := { input := rest, receives := receives } }) := by
  show final ((dispatchRequest E (some b) >>= fun _ => closeSocket)
    { socket := { input := rest, receives := receives } }) = _
  rw [bind_run]
  cases dispatchRequest E (some b) { socket := { input := rest, receives := receives } } with
  | ok | error => rfl

/-- What `SessionOk` asks of a session of a version. -/
structure InOrder (version : SocksVersion) (input : List UInt8) (s : SocksState) : Prop where
  closed : s.socket.isClosed = true
  once : (finalReplies s).length ≤ 1
  complete : ∀ reply ∈ finalReplies s, version.Complete reply
  success : ∀ reply ∈ finalReplies s, version.IsSuccess reply →
    ∃ target, version.Requests E.safeSocks input target ∧ target ∈ s.opened

/-- A closed socket without a final reply is in order. -/
theorem inOrder_silent (hclosed : s.socket.isClosed = true) (hreplies : finalReplies s = []) :
    InOrder E version input s :=
  ⟨hclosed, by simp [hreplies], by simp [hreplies], by simp [hreplies]⟩

theorem finalReplies_reply {status : UInt8} (heard : Heard s) (hwritten : s'.socket.written =
      (s.wrote (version.reply s.request status)).socket.written) :
    finalReplies s' = [version.reply s.request status] := by
  have hsame : finalReplies s' = finalReplies (s.wrote (version.reply s.request status)) := by
    unfold finalReplies
    rw [hwritten]
  rw [hsame, finalReplies_wrote, heard.replies, if_pos (version.reply_length s.request status)]
  rfl

/-- One complete reply is in order, if it is no success or the stream is there. -/
theorem inOrder_reply {status : UInt8} (heard : Heard s) (hrepeats : version.Repeats s.request)
    (hclosed : s'.socket.isClosed = true)
    (hwritten : s'.socket.written = (s.wrote (version.reply s.request status)).socket.written)
    (hstatus : status = version.successStatus →
      ∃ target, version.Requests E.safeSocks input target ∧ target ∈ s'.opened) :
    InOrder E version input s' := by
  have hreplies := finalReplies_reply heard hwritten
  refine ⟨hclosed, by simp [hreplies], ?_, ?_⟩
  · intro reply hreply
    rw [hreplies, List.mem_singleton] at hreply
    rw [hreply]
    exact hrepeats status
  · intro reply hreply hsuccess
    rw [hreplies, List.mem_singleton] at hreply
    rw [hreply] at hsuccess
    unfold SocksVersion.IsSuccess at hsuccess
    rw [version.reply_status, Option.some.injEq] at hsuccess
    exact hstatus hsuccess

variable {r : EStateM.Result SocksException SocksState Unit}

/-- A request that was read is in order once it is served, unless the open call raises a runtime
exception: the socket stays open then. -/
theorem Served.inOrder_iff (h : Served E version s r) (heard : Heard s)
    (hrepeats : version.Repeats s.request) (htarget : s.request.target = some target)
    (hconnect : version.isConnectRequest s.request = true →
      version.Requests E.safeSocks input target) :
    InOrder E version input (settle r) ↔ OpensQuietly E version s.request := by
  cases h with
  | silent opened hzero hopens => exact iff_of_true (inOrder_silent E rfl heard.replies) hopens
  | refused status hstatus htaken hopens =>
    refine iff_of_true ?_ hopens
    exact inOrder_reply E heard hrepeats rfl rfl fun hsuccess => absurd hsuccess hstatus
  | connected target' r hconnect' htarget' htaken hopens hfinal =>
    refine iff_of_true ?_ hopens
    rw [htarget, Option.some.injEq] at htarget'
    subst htarget'
    have hopened : ∃ target', version.Requests E.safeSocks input target' ∧
        target' ∈ s.opened ++ [target] :=
      ⟨target, hconnect hconnect', List.mem_append_right _ (List.mem_singleton_self target)⟩
    cases r with
    | ok u s' =>
      rcases hfinal with ⟨rfl, -⟩ | rfl
      · exact inOrder_reply E heard hrepeats rfl rfl fun _ => hopened
      · exact inOrder_reply E heard hrepeats rfl rfl fun _ => hopened
    | error e s' =>
      rcases hfinal with ⟨-, s'', hok⟩ | rfl
      · cases hok
      · exact inOrder_reply E heard hrepeats rfl rfl fun _ => hopened
  | failed e hraised hfails =>
    obtain ⟨hconnect', hnone | ⟨target', htarget', hopen⟩⟩ := hfails
    · cases htarget.symm.trans hnone
    · refine iff_of_false ?_ fun hopens => hopens hconnect' target' htarget' hopen
      intro horder
      exact Bool.false_ne_true (heard.isClosed.symm.trans horder.closed)

theorem Arrived.inOrder_iff {receives : Nat} (h : Arrived E version input receives r) :
    InOrder E version input (settle r) ↔
      (version = .v5 → ¬ CutShort input receives) ∧
        ∀ target, version.Requests E.safeSocks input target → (version = .v5 → receives ≠ 0) →
          E.openExitStreamTo target ≠ .runtimeError := by
  cases h with
  | cut s heard hversion hunfinished hcut hrequests =>
    rw [answerFailure_run]
    by_cases hreceives : s.socket.receives = 0
    · rw [if_pos hreceives]
      refine iff_of_true (inOrder_silent E rfl heard.replies) ⟨?_, ?_⟩
      · intro _ hshort
        exact hcut.mpr hshort hreceives
      · intro target hrequest htaken
        exact absurd (hrequests target hrequest) (htaken hversion)
    · rw [if_neg hreceives]
      refine iff_of_false ?_ fun hregular => hregular.1 hversion (hcut.mp hreceives)
      -- the reply lacks its port
      intro horder
      have hreplies : finalReplies (settle (.ok () (closed (s.wrote
          (version.reply s.request (version.errorStatus false)))))) =
          [version.reply s.request (version.errorStatus false)] := finalReplies_reply heard rfl
      have hcomplete := horder.complete _ (hreplies ▸ List.mem_singleton_self _)
      subst hversion
      obtain ⟨status, addressType, addressBytes, portBytes, hreply, haddress, hport⟩ := hcomplete
      exact hunfinished.incomplete haddress hport hreply
  | rejected s heard hrepeats hcut hrequests =>
    refine iff_of_true ?_ ⟨hcut, fun target hrequest => absurd hrequest (hrequests target)⟩
    rw [answerFailure_run]
    by_cases hreceives : s.socket.receives = 0
    · rw [if_pos hreceives]
      exact inOrder_silent E rfl heard.replies
    · rw [if_neg hreceives]
      exact inOrder_reply E heard hrepeats rfl rfl
        fun hsuccess => absurd hsuccess (version.errorStatus_ne false)
  | read s target heard hrepeats hcut hreceives htarget hconnect hrequests =>
    have hserved : Served E version s
        (catchSocksRequest (serve E version) (answerFailure version) s) := serve_cases E version s
    rw [hserved.inOrder_iff E heard hrepeats htarget hconnect]
    constructor
    · intro hopens
      refine ⟨hcut, fun target' hrequest _ => ?_⟩
      obtain ⟨hconnect', rfl⟩ := hrequests target' hrequest
      exact hopens hconnect' target' htarget
    · rintro ⟨-, hruns⟩ hconnect' target' htarget'
      rw [htarget, Option.some.injEq] at htarget'
      rw [← htarget']
      exact hruns target (hconnect hconnect') hreceives

end SocksClientTask

open SocksClientTask

/-! ## Sessions -/

variable {version : SocksVersion} {E : SocksEnvironment}

theorem sessionOk_iff_inOrder {input rest : List UInt8}
    (h : recognised input = some (version, rest)) :
    SessionOk E input s ↔ SocksClientTask.InOrder E version rest s := by
  constructor
  · intro hok
    exact ⟨hok.closed, hok.once _ _ h, hok.complete _ _ h, hok.success _ _ h⟩
  · intro horder
    refine ⟨horder.closed, fun _ _ _ => horder.once, ?_, ?_⟩
    · intro version' rest' h'
      cases h.symm.trans h'
      exact horder.complete
    · intro version' rest' h'
      cases h.symm.trans h'
      exact horder.success

/-- Of a client that is not recognised nothing is asked but a closed socket. -/
theorem sessionOk_iff_closed {input : List UInt8}
    (h : recognised input = none) : SessionOk E input s ↔ s.socket.isClosed = true := by
  exact ⟨fun hok => hok.closed, fun hclosed => ⟨hclosed, by simp [h], by simp [h], by simp [h]⟩⟩

/-- A session of a version is in order if it is regular. -/
theorem session_iff_of_version (E : SocksEnvironment) {b : UInt8} {rest : List UInt8}
    (receives : Nat) (hdispatch : dispatchRequest E (some b) = processRequest E version)
    (hrecognised : recognised (b :: rest) = some (version, rest))
    (hletter : b ≠ 72 ∧ b ≠ 71 ∧ b ≠ 80) :
    SessionOk E (b :: rest) (session E (b :: rest) receives) ↔ Regular E (b :: rest) receives := by
  let s : SocksState := { socket := { input := rest, receives := receives } }
  have harrived : Arrived E version rest receives (processRequest E version s) :=
    processRequest_arrived E version (s := s) rfl ⟨rfl, rfl, rfl⟩
  rw [sessionOk_iff_inOrder hrecognised, session_cons, hdispatch, harrived.inOrder_iff]
  constructor
  · rintro ⟨hwhole, hruns⟩
    refine ⟨?_, ?_, ?_⟩
    · intro b' rest' hinput
      cases hinput
      exact hletter
    · intro version' rest' target h'
      cases hrecognised.symm.trans h'
      exact hruns target
    · intro rest' h'
      cases hrecognised.symm.trans h'
      exact hwhole rfl
  · intro hregular
    refine ⟨?_, fun target => hregular.noRuntimeError version rest target hrecognised⟩
    rintro rfl
    exact hregular.notCutShort rest hrecognised

theorem session_iff (E : SocksEnvironment) (input : List UInt8) (receives : Nat) :
    SessionOk E input (session E input receives) ↔ Regular E input receives := by
  cases input with
  | nil =>
    refine iff_of_true ((sessionOk_iff_closed rfl).mpr rfl) ⟨?_, ?_, ?_⟩
    · intro b rest hinput
      cases hinput
    · intro version rest target h
      cases h
    · intro rest h
      cases h
  | cons b rest =>
    rcases eq_or_ne b 4 with rfl | hfour
    · exact session_iff_of_version E receives rfl rfl (by decide)
    · rcases eq_or_ne b 5 with rfl | hfive
      · exact session_iff_of_version E receives rfl rfl (by decide)
      · have hnone : recognised (b :: rest) = none := by simp [recognised, hfour, hfive]
        rw [sessionOk_iff_closed hnone, session_cons]
        by_cases hletter : b = 72 ∨ b = 71 ∨ b = 80
        · -- the page is not implemented, and nobody catches the exception
          have hpage : dispatchRequest E (some b) = sendHttpPage := by
            simp [dispatchRequest, hletter]
          rw [hpage]
          refine iff_of_false (fun h => nomatch h) fun hregular => ?_
          obtain ⟨hH, hG, hP⟩ := hregular.noHttp b rest rfl
          exact hletter.elim hH fun h => h.elim hG hP
        · have hreturn : dispatchRequest E (some b) = pure () := by
            simp [dispatchRequest, hletter, hfour, hfive]
          rw [hreturn]
          refine iff_of_true rfl ⟨?_, by simp [hnone], by simp [hnone]⟩
          intro b' rest' hinput
          cases hinput
          simpa using hletter

/-- A client that sends an HTTP request is left with an open socket; one of version 5 that ends
behind its greeting gets a reply without an address and a port; and so is a client left whose open
call raises a runtime exception. -/
theorem sessions_out_of_order :
    let E : SocksEnvironment :=
      { safeSocks := true, openExitStreamTo := fun _ => .runtimeError
        runConnection := fun _ => .interrupted }
    (session E [71, 69, 84] 5).socket.isClosed = false ∧
      finalReplies (session E [5, 1, 0] 5) = [[5, 1, 0, 0]] ∧
      (session E [5, 1, 0, 5, 1, 0, 3, 1, 97, 0, 80] 5).socket.isClosed = false ∧
      ¬ SessionOk E [71, 69, 84] (session E [71, 69, 84] 5) ∧
      ¬ SessionOk E [5, 1, 0] (session E [5, 1, 0] 5) ∧
      ¬ SessionOk E [5, 1, 0, 5, 1, 0, 3, 1, 97, 0, 80]
        (session E [5, 1, 0, 5, 1, 0, 3, 1, 97, 0, 80] 5) := by
  intro E
  have hhttp : (session E [71, 69, 84] 5).socket.isClosed = false := by decide +kernel
  have hshort : finalReplies (session E [5, 1, 0] 5) = [[5, 1, 0, 0]] := by decide +kernel
  have hraised : (session E [5, 1, 0, 5, 1, 0, 3, 1, 97, 0, 80] 5).socket.isClosed = false := by
    decide +kernel
  refine ⟨hhttp, hshort, hraised, ?_, ?_, ?_⟩
  · intro hok
    exact Bool.false_ne_true (hhttp.symm.trans hok.closed)
  · intro hok
    obtain ⟨status, addressType, addressBytes, portBytes, hreply, -, hport⟩ :=
      hok.complete .v5 [1, 0] rfl [5, 1, 0, 0] (hshort ▸ List.mem_singleton_self _)
    have hlength := congrArg List.length hreply
    simp only [List.length_append, List.length_cons, List.length_nil, hport] at hlength
    omega
  · intro hok
    exact Bool.false_ne_true (hraised.symm.trans hok.closed)

end Orchid
