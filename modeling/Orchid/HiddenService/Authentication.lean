import Orchid.Crypto.TorStreamCipher
import Orchid.Lib.Prog

/-!
# Orchid — encrypted introduction points

`HSAuthentication` decrypts the introduction points of a service that asks for
authentication. With *basic* authentication the content begins with a table of session keys,
one for each client, encrypted with the client's cookie; with *stealth* authentication the
cookie is the key.
-/

namespace Orchid

open Prog

inductive CookieType where
  | COOKIE_BASIC
  | COOKIE_STEALTH
  deriving DecidableEq, Repr

structure HSDescriptorCookie where
  type : CookieType
  value : List UInt8
  deriving DecidableEq

/-- Programs that read a `ByteBuffer` from the front. -/
abbrev BufferM := Prog JavaException (List UInt8)

/-- `get(byte[])`: all the bytes asked for, or an exception with nothing taken. -/
def getBytes (n : Nat) : BufferM (List UInt8) := fun buffer =>
  if n ≤ buffer.length then .ok (buffer.take n) (buffer.drop n)
  else .error .bufferUnderflow buffer

def getByte : BufferM UInt8 := fun buffer =>
  match buffer with
  | [] => .error .bufferUnderflow buffer
  | b :: rest => .ok b rest

namespace HSAuthentication

def BASIC_ID_LENGTH : Nat := 4

structure BasicAuthEntry where
  id : List UInt8
  skey : List UInt8

variable (P : Platform)

def createEntry : BufferM BasicAuthEntry := do
  let id ← getBytes BASIC_ID_LENGTH
  let skey ← getBytes TorStreamCipher.KEY_LEN
  return ⟨id, skey⟩

def readBasicEntries : BufferM (List BasicAuthEntry) := do
  let blockCount := (← getByte).toNat
  let entryCount := blockCount * 16
  (List.range entryCount).mapM fun _ => createEntry

def readAuthIV : BufferM (List UInt8) := getBytes 16

def generateAuthId (cookieValue iv : List UInt8) : List UInt8 :=
  let md := (({ } : TorMessageDigest).update cookieValue).update iv
  (md.getDigestBytes P).take BASIC_ID_LENGTH

def decryptAuthEntry (cookieValue : List UInt8) (entry : BasicAuthEntry) :
    Except JavaException (List UInt8) := do
  let cipher ← TorStreamCipher.createFromKeyBytes cookieValue
  return (cipher.encrypt P entry.skey).1

def findKeyInAuthEntries (cookieValue : List UInt8) (entries : List BasicAuthEntry)
    (id : List UInt8) : Except JavaException (List UInt8) :=
  match entries.find? fun e => id = e.id with
  | some e => decryptAuthEntry P cookieValue e
  | none =>
    .error (.hsAuthentication (lit "Could not find matching cookie id for basic authentication"))

def decryptRemaining (key iv : List UInt8) : BufferM (List UInt8) := do
  let streamCipher ← fromExcept (TorStreamCipher.createFromKeyBytesWithIV key iv)
  let remaining ← getBytes (← get).length
  return (streamCipher.encrypt P remaining).1

def decryptIntroductionPointsWithBasicAuth (cookie : Option HSDescriptorCookie) :
    BufferM (List UInt8) :=
  match cookie with
  | some ⟨.COOKIE_BASIC, value⟩ => do
    let entries ← readBasicEntries
    let iv ← readAuthIV
    let id := generateAuthId P value iv
    let k ← fromExcept (findKeyInAuthEntries P value entries id)
    decryptRemaining P k iv
  | _ => throw (.torParsing (lit
      "Introduction points encrypted with 'basic' authentication and no cookie available to decrypt"))

def decryptIntroductionPointsWithStealthAuth (cookie : Option HSDescriptorCookie) :
    BufferM (List UInt8) :=
  match cookie with
  | some ⟨.COOKIE_STEALTH, value⟩ => do
    let iv ← readAuthIV
    decryptRemaining P value iv
  | _ => throw (.torParsing (lit
      "Introduction points encrypted with 'stealth' authentication and no cookie available to descrypt"))

def decryptIntroductionPoints (cookie : Option HSDescriptorCookie) : BufferM (List UInt8) := do
  let firstByte := (← getByte).toNat
  if firstByte = 1 then decryptIntroductionPointsWithBasicAuth P cookie
  else if firstByte = 2 then decryptIntroductionPointsWithStealthAuth P cookie
  else throw (.hsAuthentication (lit "Introduction points section begins with unrecognized byte (" ++
    showInt firstByte ++ lit ")"))

end HSAuthentication

end Orchid
