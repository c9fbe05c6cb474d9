import Mathlib

/-! The arithmetic of `std::time` on Unix, in nanoseconds. -/

namespace Library.StdTime

def durationMax : Nat := 2 ^ 64 * 10 ^ 9 - 1

def fromSecs (secs : Nat) : Nat := secs * 10 ^ 9

def fromMillis (millis : Nat) : Nat := millis * 10 ^ 6

def saturatingMul (d k : Nat) : Nat := min (d * k) durationMax

def timeBound : Nat := 2 ^ 63 * 10 ^ 9

def addDuration (t d : Nat) : Option Nat := if t + d < timeBound then some (t + d) else none

def durationSince (t earlier : Nat) : Option Nat := if earlier ≤ t then some (t - earlier) else none

variable {t d k k' : Nat}

lemma addDuration_of_le (h : timeBound ≤ t + d) : addDuration t d = none := if_neg (Nat.not_lt.2 h)

end Library.StdTime
