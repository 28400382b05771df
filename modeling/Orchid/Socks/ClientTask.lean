import Orchid.Socks.RequestBytes

/-!
# Orchid — a SOCKS session

`SocksClientTask.run` reads the version of a request, lets the request of that version read the
rest, asks the circuit manager for a stream and answers the client. Then it closes the socket, unless
an exception that nobody catches has ended it before.

* `reply`: what the request's answers are, all written by `socketWrite`.
* `Served`, **`serve_cases`**: how a request that has been read is served, in every case of the open
  call and whether or not the client takes the answer.
-/

namespace Orchid

open Prog SocksRequest Socks5Request

/-! ## The task -/

/-- What comes of `openExitStreamTo`. -/
inductive OpenOutcome where
  | stream
  | interrupted
  | timeout
  | openFailed
  | runtimeError
  deriving DecidableEq

/-- What comes of `SocksStreamConnection.runConnection`: it has closed the socket, and closing the
stream behind it may have raised; or its thread was interrupted and it has closed nothing. -/
inductive TransferEnd where
  | finished (raises : Bool)
  | interrupted
  deriving DecidableEq

/-- The configuration, the circuit manager and the transfer. -/
structure SocksEnvironment where
  safeSocks : Bool
  openExitStreamTo : SocksTarget → OpenOutcome
  runConnection : SocksTarget → TransferEnd

/-- The two kinds of requests. -/
inductive SocksVersion where
  | v4
  | v5
  deriving DecidableEq

namespace SocksVersion

def readRequest : SocksVersion → Bool → SocksM Unit
  | v4, safeSocks => Socks4Request.readRequest safeSocks
  | v5, safeSocks => Socks5Request.readRequest safeSocks

def isConnectRequest : SocksVersion → SocksRequest → Bool
  | v4, request => Socks4Request.isConnectRequest request
  | v5, request => Socks5Request.isConnectRequest request

def sendError : SocksVersion → Bool → SocksM Unit
  | v4, isUnsupportedCommand => Socks4Request.sendError isUnsupportedCommand
  | v5, isUnsupportedCommand => Socks5Request.sendError isUnsupportedCommand

def sendSuccess : SocksVersion → SocksM Unit
  | v4 => Socks4Request.sendSuccess
  | v5 => Socks5Request.sendSuccess

def sendConnectionRefused : SocksVersion → SocksM Unit
  | v4 => Socks4Request.sendConnectionRefused
  | v5 => Socks5Request.sendConnectionRefused

end SocksVersion

namespace SocksClientTask

variable (E : SocksEnvironment)

def closeSocket : SocksM Unit :=
  modify fun s => { s with socket := { s.socket with isClosed := true } }

def runOpenConnection (target : SocksTarget) : SocksM Unit :=
  match E.runConnection target with
  | .finished raises => do
    closeSocket
    if raises then throw (.runtime [])
  | .interrupted => return ()

/-- The inner `try` of `processRequest`: a stream is asked for, and the client gets its answer. An
address that was never set would be handed on as null. -/
def connect (version : SocksVersion) : SocksM Unit := do
  match (← get).request.target with
  | none => throw (.runtime [])
  | some target =>
    match E.openExitStreamTo target with
    | .stream => do
      modify fun s => { s with opened := s.opened ++ [target] }
      version.sendSuccess
      runOpenConnection E target
    | .interrupted => version.sendError false
    | .timeout => version.sendError false
    | .openFailed => version.sendConnectionRefused
    | .runtimeError => throw (.runtime [])

/-- What `processRequest` does with a request that it has read. -/
def serve (version : SocksVersion) : SocksM Unit := do
  if !version.isConnectRequest (← get).request then version.sendError true
  else connect E version

/-- The handler of `SocksRequestException`; what it raises itself is ignored. -/
def answerFailure (version : SocksVersion) : SocksM Unit := fun s =>
  match (version.sendError false >>= fun _ => closeSocket) s with
  | .ok _ s' => .ok () s'
  | .error _ s' => .ok () s'

def catchSocksRequest (x handler : SocksM Unit) : SocksM Unit := fun s =>
  match x s with
  | .error (.socksRequest _) s' => handler s'
  | r => r

def processRequest (version : SocksVersion) : SocksM Unit :=
  catchSocksRequest (do version.readRequest E.safeSocks; serve E version) (answerFailure version)

/-- `sendHttpPage`. -/
def sendHttpPage : SocksM Unit := throw (.runtime (lit "Returning HTTP page not implemented"))

def dispatchRequest (versionByte : Option UInt8) : SocksM Unit :=
  if versionByte = some 72 ∨ versionByte = some 71 ∨ versionByte = some 80 then sendHttpPage
  else if versionByte = some 4 then processRequest E .v4
  else if versionByte = some 5 then processRequest E .v5
  else return ()

/-- `readByte` of the task: none is the end of the stream. -/
def readVersion : SocksM (Option UInt8) := fun s =>
  match s.socket.input with
  | [] => .ok none s
  | b :: input => .ok (some b) (s.withInput input)

def run : SocksM Unit := do
  let version ← readVersion
  dispatchRequest E version
  closeSocket

/-- A client that sends `input` and takes as many writes as `receives` says. -/
def session (input : List UInt8) (receives : Nat) : SocksState :=
  final (run E { socket := { input := input, receives := receives } })

end SocksClientTask

/-! ## Replies -/

namespace SocksVersion

/-- The reply that is written for a request in its present state. -/
def reply : SocksVersion → SocksRequest → UInt8 → List UInt8
  | v4, _, status => [0, status, 0, 0, 0, 0, 0, 0]
  | v5, request, status => response request status

def successStatus : SocksVersion → UInt8
  | v4 => Socks4Request.SOCKS_STATUS_SUCCESS
  | v5 => SOCKS5_STATUS_SUCCESS

def errorStatus : SocksVersion → Bool → UInt8
  | v4, _ => Socks4Request.SOCKS_STATUS_FAILURE
  | v5, true => SOCKS5_STATUS_COMMAND_NOT_SUPPORTED
  | v5, false => SOCKS5_STATUS_FAILURE

def refusedStatus : SocksVersion → UInt8
  | v4 => Socks4Request.SOCKS_STATUS_FAILURE
  | v5 => SOCKS5_STATUS_CONNECTION_REFUSED

variable (version : SocksVersion)

theorem sendError_run (isUnsupportedCommand : Bool) (s : SocksState) :
    version.sendError isUnsupportedCommand s =
      socketWrite (version.reply s.request (version.errorStatus isUnsupportedCommand)) s := by
  cases version <;> cases isUnsupportedCommand <;> rfl

theorem sendSuccess_run (s : SocksState) :
    version.sendSuccess s = socketWrite (version.reply s.request version.successStatus) s := by
  cases version <;> rfl

theorem sendConnectionRefused_run (s : SocksState) :
    version.sendConnectionRefused s =
      socketWrite (version.reply s.request version.refusedStatus) s := by
  cases version <;> rfl

theorem errorStatus_ne (isUnsupportedCommand : Bool) :
    version.errorStatus isUnsupportedCommand ≠ version.successStatus := by
  cases version <;> cases isUnsupportedCommand <;> decide

theorem refusedStatus_ne : version.refusedStatus ≠ version.successStatus := by
  cases version <;> decide

theorem reply_status (request : SocksRequest) (status : UInt8) :
    (version.reply request status)[1]? = some status := by
  cases version <;> rfl

/-- No reply is taken for the choice of a method. -/
theorem reply_length (request : SocksRequest) (status : UInt8) :
    (version.reply request status).length ≠ 2 := by
  cases version with
  | v4 => simp [reply]
  | v5 =>
    simp only [reply, response, List.length_append, List.length_cons]
    omega

end SocksVersion

namespace SocksClientTask

variable (E : SocksEnvironment)

/-- The state with a closed socket. -/
def closed (s : SocksState) : SocksState := { s with socket := { s.socket with isClosed := true } }

/-- Without an answer to write to, a failure leaves everything as it was. -/
theorem answerFailure_run (version : SocksVersion) (s : SocksState) :
    answerFailure version s = .ok () (if s.socket.receives = 0 then s
      else closed (s.wrote (version.reply s.request (version.errorStatus false)))) := by
  unfold answerFailure
  rw [bind_run, SocksVersion.sendError_run, socketWrite_run]
  by_cases hreceives : s.socket.receives = 0
  · rw [if_pos hreceives, if_pos hreceives]
  · rw [if_neg hreceives, if_neg hreceives]
    rfl

/-- The request makes no open call that raises a runtime exception. -/
def OpensQuietly (version : SocksVersion) (request : SocksRequest) : Prop :=
  version.isConnectRequest request = true →
    ∀ target, request.target = some target → E.openExitStreamTo target ≠ .runtimeError

variable {version : SocksVersion} {target : SocksTarget}

theorem opensQuietly_of_target {request : SocksRequest}
    (htarget : request.target = some target) (hopen : E.openExitStreamTo target ≠ .runtimeError) :
    OpensQuietly E version request := by
  intro _ target' htarget'
  cases htarget.symm.trans htarget'
  exact hopen

/-- How a request that has been read is served: nobody takes an answer; an error is answered; a
stream is opened and the success answered; or the open call raises. -/
inductive Served (version : SocksVersion) (s : SocksState) :
    EStateM.Result SocksException SocksState Unit → Prop where
  | silent (opened : List SocksTarget) (hreceives : s.socket.receives = 0)
      (hopens : OpensQuietly E version s.request) :
      Served version s (.ok () { s with opened := opened })
  | refused (status : UInt8) (hstatus : status ≠ version.successStatus)
      (hreceives : s.socket.receives ≠ 0) (hopens : OpensQuietly E version s.request) :
      Served version s (.ok () (s.wrote (version.reply s.request status)))
  | connected (target : SocksTarget) (r : EStateM.Result SocksException SocksState Unit)
      (hconnect : version.isConnectRequest s.request = true)
      (htarget : s.request.target = some target) (hreceives : s.socket.receives ≠ 0)
      (hopens : OpensQuietly E version s.request)
      (hfinal : final r = ({ s with opened := s.opened ++ [target] } : SocksState).wrote
          (version.reply s.request version.successStatus) ∧ (∃ s', r = .ok () s') ∨
        final r = closed (({ s with opened := s.opened ++ [target] } : SocksState).wrote
          (version.reply s.request version.successStatus))) :
      Served version s r
  | failed (e : SocksException) (hraised : e = .runtime [])
      (hfails : version.isConnectRequest s.request = true ∧
        (s.request.target = none ∨ ∃ target, s.request.target = some target ∧
          E.openExitStreamTo target = .runtimeError)) :
      Served version s (.error e s)

theorem served_of_write {s : SocksState} {status : UInt8} (hstatus : status ≠ version.successStatus)
    (hopens : OpensQuietly E version s.request) {x : SocksM Unit}
    (hx : x s = socketWrite (version.reply s.request status) s) :
    Served E version s (catchSocksRequest x (answerFailure version) s) := by
  unfold catchSocksRequest
  rw [hx, socketWrite_run]
  by_cases hreceives : s.socket.receives = 0
  · rw [if_pos hreceives]
    show Served E version s (answerFailure version s)
    rw [answerFailure_run, if_pos hreceives]
    exact .silent s.opened hreceives hopens
  · rw [if_neg hreceives]
    exact .refused status hstatus hreceives hopens

/-- A stream was opened: the success is written and the connection run. -/
theorem served_stream {s : SocksState} {x : SocksM Unit}
    (hconnect : version.isConnectRequest s.request = true)
    (htarget : s.request.target = some target) (hopens : OpensQuietly E version s.request)
    (hx : x s = (version.sendSuccess >>= fun _ => runOpenConnection E target)
      { s with opened := s.opened ++ [target] }) :
    Served E version s (catchSocksRequest x (answerFailure version) s) := by
  unfold catchSocksRequest
  rw [hx, bind_run, SocksVersion.sendSuccess_run, socketWrite_run]
  by_cases hreceives : s.socket.receives = 0
  · rw [if_pos (show _ = 0 from hreceives)]
    show Served E version s (answerFailure version _)
    rw [answerFailure_run, if_pos (show s.socket.receives = 0 from hreceives)]
    exact .silent _ hreceives hopens
  · rw [if_neg (show _ ≠ 0 from hreceives)]
    unfold runOpenConnection
    cases E.runConnection target with
    | interrupted => exact .connected target _ hconnect htarget hreceives hopens (Or.inl ⟨rfl, _, rfl⟩)
    | finished raises =>
      cases raises with
      | false | true => exact .connected target _ hconnect htarget hreceives hopens (Or.inr rfl)

theorem serve_cases (version : SocksVersion) (s : SocksState) :
    Served E version s (catchSocksRequest (serve E version) (answerFailure version) s) := by
  have hserve : serve E version s = (if (!version.isConnectRequest s.request) = true then
      version.sendError true else connect E version) s := rfl
  cases hconnect : version.isConnectRequest s.request with
  | false =>
    refine served_of_write E (version.errorStatus_ne true) (by simp [OpensQuietly, hconnect]) ?_
    rw [hserve, hconnect]
    exact version.sendError_run true s
  | true =>
    rw [hconnect] at hserve
    have hrun : serve E version s = _ := hserve.trans (get_bind_run _ s)
    cases htarget : s.request.target with simp only [htarget] at hrun
    | none =>
      unfold catchSocksRequest
      rw [hrun]
      exact .failed _ rfl ⟨hconnect, Or.inl htarget⟩
    | some target =>
      cases hopen : E.openExitStreamTo target with simp only [hopen] at hrun
      | stream =>
        exact served_stream E hconnect htarget
          (opensQuietly_of_target E htarget (by simp [hopen])) hrun
      | interrupted | timeout =>
        exact served_of_write E (version.errorStatus_ne false)
          (opensQuietly_of_target E htarget (by simp [hopen]))
          (hrun.trans (version.sendError_run false s))
      | openFailed =>
        exact served_of_write E version.refusedStatus_ne
          (opensQuietly_of_target E htarget (by simp [hopen]))
          (hrun.trans (version.sendConnectionRefused_run s))
      | runtimeError =>
        unfold catchSocksRequest
        rw [hrun]
        exact .failed _ rfl ⟨hconnect, Or.inr ⟨target, htarget, hopen⟩⟩

end SocksClientTask

end Orchid
