import Mathlib

/-!
# Orchid — the Java values the parsers work on

Documents are read byte by byte and every byte becomes one character
(`(char) (inputBuffer.get() & 0xFF)`), so a Java string is modelled by the list of its
characters. This module holds that type, the exceptions the code raises, and the few
library operations the parsers call: `String.split`, `startsWith`, `endsWith`,
`substring`, `getBytes("ISO-8859-1")` and `Integer.parseInt`.
-/

namespace Orchid

/-- A Java string. -/
abbrev JString := List Char

/-- A string literal of the source. -/
def lit (s : String) : JString := s.toList

/-- The exceptions the modelled code raises, by class. `torParsing` is a subclass of `tor`
and the only one the document parsers catch; `decoder` is a subclass of `illegalState`,
`socketTimeout` one of `io`, and the three other exceptions of connections are subclasses of
`connectionIOException`.
`stuck` and `blocked` are not Java exceptions: the first marks a loop of the model that used up
its bound, the second a call that waits for something that does not come. -/
inductive JavaException where
  | torParsing (message : JString)
  | tor (message : JString)
  | illegalArgument (message : JString)
  | illegalState (message : JString)
  | decoder (message : JString)
  | hsAuthentication (message : JString)
  | connectionIOException (message : Option JString)
  | connectionTimeout
  | connectionFailed (message : JString)
  | connectionHandshake (message : JString)
  | pathSelectionFailed (message : JString)
  | interrupted
  | nullPointer
  | classCast
  | indexOutOfBounds
  | bufferUnderflow
  | bufferOverflow
  | negativeArraySize
  | arithmetic
  | io (message : JString)
  | socketTimeout
  | blocked
  | stuck
  deriving DecidableEq, Repr

/-! ## Strings -/

/-- `String.split` with a one-character delimiter: trailing empty parts are dropped, and a
string without the delimiter is its own single part. -/
def split (delimiter : Char) (s : JString) : List JString :=
  if s.contains delimiter then
    ((s.splitOn delimiter).reverse.dropWhile List.isEmpty).reverse
  else
    [s]

/-- Joining parts without the delimiter and splitting again gives the parts. -/
theorem split_intercalate {delimiter : Char} {parts : List JString} (htwo : 2 ≤ parts.length)
    (hne : ∀ p ∈ parts, p ≠ []) (hfree : ∀ p ∈ parts, delimiter ∉ p) :
    split delimiter (List.intercalate [delimiter] parts) = parts := by
  have hparts : parts ≠ [] := by
    intro hnil
    rw [hnil] at htwo
    cases htwo
  have hcontains : (List.intercalate [delimiter] parts).contains delimiter = true := by
    match parts, htwo with
    | p :: q :: rest, _ => simp [List.intercalate, List.intersperse]
  have hlast : ∀ p ∈ parts.reverse, ¬ p.isEmpty = true := by
    intro p hp hempty
    exact hne p (List.mem_reverse.mp hp) (List.isEmpty_iff.mp hempty)
  unfold split
  rw [if_pos hcontains, List.splitOn_intercalate _ hfree hparts]
  -- no part is empty, so nothing is dropped at the end
  cases hrev : parts.reverse with
  | nil => exact absurd (List.reverse_eq_nil_iff.mp hrev) hparts
  | cons p rest =>
    have hp := hlast p (by rw [hrev]; exact List.mem_cons_self ..)
    rw [List.dropWhile_cons_of_neg hp, ← hrev, List.reverse_reverse]

example : split ' ' (lit "a  b ") = [lit "a", [], lit "b"] := by decide
example : split ' ' (lit "") = [lit ""] ∧ split ' ' (lit "  ") = [] := by decide

def startsWith (s token : JString) : Bool := token.isPrefixOf s

def endsWith (s token : JString) : Bool := token.isSuffixOf s

/-- `substring(from, to)`. -/
def substring (s : JString) (start stop : Nat) : Except JavaException JString :=
  if start ≤ stop ∧ stop ≤ s.length then .ok ((s.take stop).drop start)
  else .error .indexOutOfBounds

/-- `getBytes("ISO-8859-1")`: a character outside Latin-1 becomes `?`. -/
def latin1 (s : JString) : List UInt8 :=
  s.map fun c => if c.toNat < 256 then UInt8.ofNat c.toNat else 63

/-- `(char) (b & 0xFF)`. -/
def charOfByte (b : UInt8) : Char := Char.ofNat b.toNat

/-! ## `Integer.parseInt` -/

def digitValue (c : Char) : Option Nat :=
  if '0' ≤ c ∧ c ≤ '9' then some (c.toNat - '0'.toNat) else none

/-- The value of a non-empty string of decimal digits. -/
def parseDigits : JString → Option Nat
  | [] => none
  | cs => cs.foldlM (fun n c => (digitValue c).map (10 * n + ·)) 0

/-- `Integer.parseInt`: an optional sign, then digits, in the range of a 32-bit `int`;
`none` stands for `NumberFormatException`. -/
def parseInt (s : JString) : Option Int :=
  match s with
  | '-' :: ds => (parseDigits ds).bind fun n => if n ≤ 2 ^ 31 then some (-(n : Int)) else none
  | '+' :: ds => (parseDigits ds).bind fun n => if n < 2 ^ 31 then some (n : Int) else none
  | ds => (parseDigits ds).bind fun n => if n < 2 ^ 31 then some (n : Int) else none

example : parseInt (lit "-2147483648") = some (-2147483648) ∧ parseInt (lit "2147483648") = none
    ∧ parseInt (lit "") = none ∧ parseInt (lit "1a") = none := by decide

/-! ## Arithmetic -/

/-- The value an `int` has after an operation with the exact result `x`. -/
def javaInt (x : Int) : Int := x.bmod (2 ^ 32)

theorem javaInt_of_range {x : Int} (hlow : -2 ^ 31 ≤ x) (hhigh : x < 2 ^ 31) : javaInt x = x := by
  unfold javaInt
  rw [Int.bmod_eq_of_le (by omega) (by omega)]

/-- An `int` inside a message. -/
def showInt (i : Int) : JString := lit (toString i)

end Orchid
