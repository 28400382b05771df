import Orchid.HiddenService.DescriptorText

/-!
# Orchid — downloading hidden service descriptors

`HSDescriptorDownloader` asks the responsible directories one after another and takes the
first descriptor that one of them sends. What the directory answers is arbitrary. The parser
checks that the descriptor is signed by the key it contains; whose key that is, and which
descriptor was asked for, is not looked at again.

* `downloadDescriptor` is the loop over the directories.
* **`downloaded_belongs_iff`**: the descriptor belongs to the service exactly when the text of
  the answer names the service's key and the requested id.
-/

namespace Orchid

open Prog LastValue HSDescriptorParser

/-! ## Hidden services -/

structure TorConfig where
  getHidServAuth : JString → Option HSDescriptorCookie

/-- A service, by the ten bytes its onion address encodes. -/
structure HiddenService where
  config : TorConfig
  permanentId : List UInt8

namespace HiddenService

def getOnionAddress (hs : HiddenService) : Except JavaException JString := do
  return (← Base32.base32Encode hs.permanentId) ++ lit ".onion"

def getAuthenticationCookie (hs : HiddenService) :
    Except JavaException (Option HSDescriptorCookie) := do
  return hs.config.getHidServAuth (← hs.getOnionAddress)

end HiddenService

/-! ## The download -/

/-- A directory and the descriptor id to ask it for. -/
structure HSDescriptorDirectory where
  descriptorId : HexDigest

/-- What comes of asking a directory: no stream to it, a request that failed on the way, or an
HTTP answer. -/
inductive Reply where
  | notOpened
  | failed
  | response (statusCode : Int) (messageBody : List UInt8)
  deriving DecidableEq

namespace HSDescriptorDownloader

variable (P : Platform) (hiddenService : HiddenService)

def readDocument (body : List UInt8) : Except JavaException (Option HSDescriptor) := do
  let cookie ← hiddenService.getAuthenticationCookie
  parseDocument P cookie body

/-- `downloadDescriptorFrom`. The request names the descriptor id in Base32, once there is a
stream to write it to. -/
def downloadDescriptorFrom (dd : HSDescriptorDirectory) :
    Reply → Except JavaException (Option HSDescriptor)
  | .notOpened => return none
  | .failed => do
    let _ ← dd.descriptorId.toBase32
    return none
  | .response statusCode messageBody => do
    let _ ← dd.descriptorId.toBase32
    if statusCode = 200 then readDocument P hiddenService messageBody else return none

/-- The directories in order, each with its reply, until one yields a descriptor. -/
def downloadDescriptor :
    List (HSDescriptorDirectory × Reply) → Except JavaException (Option HSDescriptor)
  | [] => return none
  | (dd, reply) :: directories => do
    match ← downloadDescriptorFrom P hiddenService dd reply with
    | some descriptor => return some descriptor
    | none => downloadDescriptor directories

/-! ## Whose descriptor it is -/

/-- The descriptor is the one asked for: its key hashes to the service's permanent id, and it
carries the requested descriptor id. -/
structure Belongs (requested : HexDigest) (d : HSDescriptor) : Prop where
  key : ∃ key fingerprint, d.permanentKey = some key ∧ key.getFingerprint P = .ok fingerprint ∧
    fingerprint.digestBytes.take 10 = hiddenService.permanentId
  descriptorId : d.descriptorId = some requested

/-- What a body says, read with the service's cookie. -/
def bodyStatements (body : List UInt8) : List Entry :=
  match hiddenService.getAuthenticationCookie with
  | .ok cookie => statements P cookie (lines body)
  | .error _ => []

/-- The body names the service: its last permanent key hashes to the permanent id and its
last descriptor id is the requested one. -/
structure NamesService (requested : HexDigest) (body : List UInt8) : Prop where
  key : ∃ key fingerprint,
    lastSome Entry.permanentKey? (bodyStatements P hiddenService body) = some key ∧
      key.getFingerprint P = .ok fingerprint ∧
      fingerprint.digestBytes.take 10 = hiddenService.permanentId
  descriptorId :
    lastSome Entry.descriptorId? (bodyStatements P hiddenService body) = some requested

variable {P hiddenService} {d : HSDescriptor}

/-- A document that is accepted has the key and the id its body states last. -/
theorem readDocument_fields {body : List UInt8}
    (h : readDocument P hiddenService body = .ok (some d)) :
    d.permanentKey = lastSome Entry.permanentKey? (bodyStatements P hiddenService body) ∧
      d.descriptorId = lastSome Entry.descriptorId? (bodyStatements P hiddenService body) := by
  obtain ⟨cookie, hcookie, hparse⟩ := except_bind_eq_ok.mp h
  have hfields := parseDocument_fields P cookie hparse
  unfold bodyStatements
  rw [hcookie]
  -- the descriptor starts out empty, so only the statements count
  have hkey := hfields.permanentKey
  have hid := hfields.descriptorId
  rw [show (({ } : HSDescriptor).permanentKey) = none from rfl, Option.or_none] at hkey
  rw [show (({ } : HSDescriptor).descriptorId) = none from rfl, Option.or_none] at hid
  exact ⟨hkey, hid⟩

/-- Only the body of a successful answer can become a descriptor. -/
theorem downloadDescriptorFrom_some {dd : HSDescriptorDirectory} {reply : Reply}
    (h : downloadDescriptorFrom P hiddenService dd reply = .ok (some d)) :
    ∃ body, reply = .response 200 body ∧ readDocument P hiddenService body = .ok (some d) := by
  cases reply with
  | notOpened => cases h
  | failed =>
    obtain ⟨name, -, hnone⟩ := except_bind_eq_ok.mp h
    cases hnone
  | response statusCode body =>
    obtain ⟨name, -, hread⟩ := except_bind_eq_ok.mp h
    by_cases hcode : statusCode = 200
    · rw [if_pos hcode] at hread
      exact ⟨body, by rw [hcode], hread⟩
    · rw [if_neg hcode] at hread
      cases hread

/-- The descriptor that is returned comes from the first directory that sent one. -/
theorem downloadDescriptor_some {directories : List (HSDescriptorDirectory × Reply)}
    (h : downloadDescriptor P hiddenService directories = .ok (some d)) :
    ∃ earlier dd reply later, directories = earlier ++ (dd, reply) :: later ∧
      (∀ x ∈ earlier, downloadDescriptorFrom P hiddenService x.1 x.2 = .ok none) ∧
      downloadDescriptorFrom P hiddenService dd reply = .ok (some d) := by
  induction directories with
  | nil => cases h
  | cons x directories ih =>
    obtain ⟨dd, reply⟩ := x
    obtain ⟨o, ho, hrest⟩ := except_bind_eq_ok.mp h
    cases o with
    | some d' =>
      cases hrest
      exact ⟨[], dd, reply, directories, rfl, fun x hx => absurd hx List.not_mem_nil, ho⟩
    | none =>
      obtain ⟨earlier, dd', reply', later, rfl, hearlier, hfrom⟩ := ih hrest
      refine ⟨(dd, reply) :: earlier, dd', reply', later, rfl, fun x hx => ?_, hfrom⟩
      rcases List.mem_cons.mp hx with rfl | hx
      · exact ho
      · exact hearlier x hx

/-- A downloaded descriptor comes from the first directory that sent one, and it belongs to
the service exactly when the body that directory sent names the service and the id it was
asked for. -/
theorem downloaded_belongs_iff (P : Platform) (hiddenService : HiddenService)
    (directories : List (HSDescriptorDirectory × Reply)) (d : HSDescriptor)
    (h : downloadDescriptor P hiddenService directories = .ok (some d)) :
    ∃ earlier dd body later, directories = earlier ++ (dd, .response 200 body) :: later ∧
      (∀ x ∈ earlier, downloadDescriptorFrom P hiddenService x.1 x.2 = .ok none) ∧
      downloadDescriptorFrom P hiddenService dd (.response 200 body) = .ok (some d) ∧
      (Belongs P hiddenService dd.descriptorId d ↔
        NamesService P hiddenService dd.descriptorId body) := by
  obtain ⟨earlier, dd, reply, later, rfl, hearlier, hfrom⟩ := downloadDescriptor_some h
  obtain ⟨body, rfl, hread⟩ := downloadDescriptorFrom_some hfrom
  obtain ⟨hkey, hid⟩ := readDocument_fields hread
  refine ⟨earlier, dd, body, later, rfl, hearlier, hfrom, ?_⟩
  constructor
  · intro hbelongs
    refine ⟨?_, ?_⟩
    · rw [← hkey]
      exact hbelongs.key
    · rw [← hid]
      exact hbelongs.descriptorId
  · intro hnames
    refine ⟨?_, ?_⟩
    · rw [hkey]
      exact hnames.key
    · rw [hid]
      exact hnames.descriptorId

/-! ## One descriptor, two services -/

/-- The service whose permanent id is the hash of the sample key. -/
def sampleService : HiddenService where
  config := ⟨fun _ => none⟩
  permanentId := (Platform.checksum.sha1 (latin1 (unlines sampleKeyLines))).take 10

/-- A service with another permanent id. -/
def otherService : HiddenService where
  config := ⟨fun _ => none⟩
  permanentId := List.replicate 10 1

def sampleReply : Reply := .response 200 (textOf signedLines)

theorem sampleService_names :
    NamesService Platform.checksum sampleService zeroDigest (textOf signedLines) where
  key := ⟨⟨unlines sampleKeyLines⟩, _, by decide +kernel, rfl, rfl⟩
  descriptorId := by decide +kernel

theorem sample_descriptor_belongs :
    ∃ d, downloadDescriptor Platform.checksum sampleService [(⟨zeroDigest⟩, sampleReply)] =
        .ok (some d) ∧ Belongs Platform.checksum sampleService zeroDigest d := by
  have hdownload : downloadDescriptor Platform.checksum sampleService
      [(⟨zeroDigest⟩, sampleReply)] = .ok (some (sampleDescriptor zeroDigest)) := by decide +kernel
  obtain ⟨earlier, dd, body, later, hlist, -, -, hiff⟩ := downloaded_belongs_iff Platform.checksum
    sampleService [(⟨zeroDigest⟩, sampleReply)] (sampleDescriptor zeroDigest) hdownload
  -- there is only one directory to come from
  cases earlier with
  | nil =>
    cases hlist
    exact ⟨sampleDescriptor zeroDigest, hdownload, hiff.mpr sampleService_names⟩
  | cons x earlier =>
    have hlength := congrArg List.length hlist
    simp at hlength

/-- The same answer, given for another service and another descriptor id: it is accepted, its
key does not hash to the service's permanent id and its id is not the requested one. -/
theorem foreign_descriptor_accepted :
    downloadDescriptor Platform.checksum otherService [(⟨otherDigest⟩, sampleReply)] =
        .ok (some (sampleDescriptor zeroDigest)) ∧
      (sampleDescriptor zeroDigest).descriptorId ≠ some otherDigest ∧
      ¬ Belongs Platform.checksum otherService otherDigest (sampleDescriptor zeroDigest) ∧
      ∀ key fingerprint, (sampleDescriptor zeroDigest).permanentKey = some key →
        key.getFingerprint Platform.checksum = .ok fingerprint →
        fingerprint.digestBytes.take 10 ≠ otherService.permanentId := by
  have hid : (sampleDescriptor zeroDigest).descriptorId ≠ some otherDigest := by decide
  refine ⟨by decide +kernel, hid, fun hbelongs => hid hbelongs.descriptorId, ?_⟩
  intro key fingerprint hkey hfingerprint
  cases hkey
  cases hfingerprint
  decide +kernel

end HSDescriptorDownloader

end Orchid
