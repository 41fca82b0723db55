import Advent.Hash.Md5
import Advent.Solver.Dispatch
import Advent.Text.Blank
import Advent.Text.Bytes
import Advent.Text.Quoted

/-!
# Coins

A coin for a key is a positive number below a limit whose digest, taken of the key followed by the
number in decimal, starts with enough zero digits in hexadecimal. The first part asks for the lowest
number with five zeroes and the second for the lowest with six. Whatever has six has five, so the
second search starts at the first answer, which the state keeps once it is known. The digest is a
parameter of the search.
-/
namespace Advent.Coins

/-- Numbers from here on are not tried. -/
def searchLimit : Nat := 100000000

/-- Whether the hexadecimal form of a digest starts with so many zeroes. -/
def hasLeadingZeroes : List UInt8 → Nat → Bool
  | _, 0 => true
  | [], _ => false
  | byte :: _, 1 => byte / 16 = 0
  | byte :: rest, zeroes + 2 => byte = 0 && hasLeadingZeroes rest zeroes

structure Prospect where
  key : List Char
  /-- The answer with five zeroes, once known. -/
  fiveZeroes : Option Nat
  deriving Repr, DecidableEq

structure MineError where
  zeroes : Nat
  deriving Repr, DecidableEq

def MineError.message (error : MineError) : String :=
  s!"no hash with {error.zeroes} leading zeroes below {searchLimit}"

section Search

variable (hash : List UInt8 → List UInt8)

/-- What a number is hashed with: the bytes of the key, then the digits of the number. -/
def candidate (key : List UInt8) (number : Nat) : List UInt8 :=
  key ++ Text.bytes (Nat.toDigits 10 number)

/-- The first coin among so many numbers. -/
def search (key : List UInt8) (zeroes number : Nat) : Nat → Option Nat
  | 0 => none
  | count + 1 =>
    if hasLeadingZeroes (hash (candidate key number)) zeroes then some number
    else search key zeroes (number + 1) count

def coinRecord (key : List Char) (zeroes number : Nat) : Log.Record where
  level := .debug
  target := "aoc_solutions::year_2015::day_4"
  message := "found coin"
  fields := [("key", Text.quote key), ("zeroes", toString zeroes), ("n", toString number)]

/-- The lowest coin from `start` on. -/
def mine (key : List Char) (zeroes start : Nat) : Except MineError (Nat × Log.Record) :=
  match search hash (Text.bytes key) zeroes start (searchLimit - start) with
  | some number => .ok (number, coinRecord key zeroes number)
  | none => .error ⟨zeroes⟩

/-- The coin with five zeroes, mined at most once. -/
def mineFive (prospect : Prospect) : Except MineError (Nat × Prospect × List Log.Record) :=
  match prospect.fiveZeroes with
  | some number => .ok (number, prospect, [])
  | none =>
    (mine hash prospect.key 5 1).map fun (number, record) =>
      (number, { prospect with fiveZeroes := some number }, [record])

def failedStep (prospect : Prospect) (records : List Log.Record) (error : MineError) : Step Prospect :=
  { answer := .error (.failed error.message), state := prospect, records }

def solvePart (part : Nat) (prospect : Prospect) : Step Prospect :=
  match mineFive hash prospect with
  | .error error => failedStep prospect [] error
  | .ok (number, prospect, records) =>
    if part = 1 then { answer := .ok (toString number), state := prospect, records }
    else
      match mine hash prospect.key 6 number with
      | .error error => failedStep prospect records error
      | .ok (number, record) =>
        { answer := .ok (toString number), state := prospect, records := records ++ [record] }

end Search

def parse (input : String) : Except ParseError Prospect :=
  let key := Text.trim input.toList
  if key.isEmpty then .error (.missingData "secret key is empty") else .ok ⟨key, none⟩

def solverWith (hash : List UInt8 → List UInt8) : Solver :=
  (Dispatch.upTo 2).solver parse (solvePart hash)

def solver : Solver :=
  solverWith Hash.Md5.digest

end Advent.Coins
