import Mathlib.Data.List.Basic

/-! Byte strings with the ASCII operations of Rust's `u8` and `str`. -/

namespace Library.Bytes

def toAsciiLowercase (b : UInt8) : UInt8 := if 65 ≤ b ∧ b ≤ 90 then b + 32 else b

def isAsciiUppercase (b : UInt8) : Bool := 65 ≤ b && b ≤ 90

def isAsciiDigit (b : UInt8) : Bool := 48 ≤ b && b ≤ 57

def eqIgnoreAsciiCase (a b : List UInt8) : Bool := a.map toAsciiLowercase == b.map toAsciiLowercase

/-- `str::split_once` with a string pattern: the text before the first occurrence of `sep` and
the text after it. -/
def splitOnce (sep : List UInt8) : List UInt8 → Option (List UInt8 × List UInt8)
  | [] => if sep.isEmpty then some ([], []) else none
  | b :: s =>
    if sep.isPrefixOf (b :: s) then some ([], (b :: s).drop sep.length)
    else (splitOnce sep s).map fun parts => (b :: parts.1, parts.2)

def rsplitOnce (c : UInt8) (s : List UInt8) : Option (List UInt8 × List UInt8) :=
  (s.reverse.findIdx? (· == c)).map fun i => (s.take (s.length - 1 - i), s.drop (s.length - i))

def parseDigitsU16 (digits : List UInt8) : Option Nat :=
  let n := digits.foldl (fun n b => 10 * n + (b.toNat - 48)) 0
  if n < 65536 then some n else none

def isAsciiWhitespace (b : UInt8) : Bool := b == 32 || (9 ≤ b && b ≤ 13)

def trim (s : List UInt8) : List UInt8 :=
  ((s.dropWhile isAsciiWhitespace).reverse.dropWhile isAsciiWhitespace).reverse

def split (c : UInt8) : List UInt8 → List (List UInt8)
  | [] => [[]]
  | b :: s =>
    if b = c then [] :: split c s
    else
      match split c s with
      | [] => [[b]]
      | piece :: pieces => (b :: piece) :: pieces

def crc32Bit (crc : Nat) : Nat := if crc % 2 = 1 then crc / 2 ^^^ 0xEDB88320 else crc / 2

def crc32 (bytes : List UInt8) : Nat :=
  bytes.foldl (fun crc b => Nat.repeat crc32Bit 8 (crc ^^^ b.toNat)) 0xFFFFFFFF ^^^ 0xFFFFFFFF

example : crc32 [0, 0, 0, 16, 0, 0, 0, 0] = 0x05c248eb := by decide +kernel

end Library.Bytes
