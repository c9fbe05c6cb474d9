import Mathlib

/-! Text as the list of its characters, with the `str` operations request handlers use. -/

namespace Library.Text

def splitOnce (c : Char) (s : List Char) : Option (List Char × List Char) :=
  (s.findIdx? (· == c)).map fun i => (s.take i, s.drop (i + 1))

def byteLen (s : List Char) : Nat := (s.map Char.utf8Size).sum

def isWhitespace (c : Char) : Bool :=
  (0x09 ≤ c.toNat && c.toNat ≤ 0x0D) || c.toNat == 0x20 || c.toNat == 0x85 || c.toNat == 0xA0 ||
    c.toNat == 0x1680 || (0x2000 ≤ c.toNat && c.toNat ≤ 0x200A) || c.toNat == 0x2028 ||
    c.toNat == 0x2029 || c.toNat == 0x202F || c.toNat == 0x205F || c.toNat == 0x3000

example : isWhitespace '\x0B' && isWhitespace '\u00A0' && isWhitespace '\u3000' && !isWhitespace 'a' := by decide

variable {p : Char → Bool} {l r : List Char} {c : Char}

lemma findIdx?_append_of_forall (hl : ∀ x ∈ l, p x = false) :
    (l ++ r).findIdx? p = (r.findIdx? p).map (· + l.length) := by
  rw [List.findIdx?_append, List.findIdx?_eq_none_iff.2 hl, Option.none_or]

lemma findIdx?_append_cons (hl : ∀ x ∈ l, p x = false) (hc : p c = true) :
    (l ++ c :: r).findIdx? p = some l.length := by
  rw [findIdx?_append_of_forall hl, List.findIdx?_cons, if_pos hc]
  simp

lemma splitOnce_append (hc : c ∉ l) : splitOnce c (l ++ c :: r) = some (l, r) := by
  have hl : ∀ x ∈ l, (x == c) = false := fun x hx => by
    rw [beq_eq_false_iff_ne]
    rintro rfl
    exact hc hx
  unfold splitOnce
  rw [findIdx?_append_cons hl (beq_self_eq_true c)]
  simp

lemma eq_of_toLower_eq {c x : Char} (hx : ¬ ('a'.val ≤ x.val ∧ x.val ≤ 'z'.val)) (h : c.toLower = x) :
    c = x := by
  unfold Char.toLower at h
  split_ifs at h with hu
  · subst h
    exfalso
    apply hx
    -- the code points of the four bounds
    have hA : 'A'.val.toNat = 65 := rfl
    have hZ : 'Z'.val.toNat = 90 := rfl
    have ha : 'a'.val.toNat = 97 := rfl
    have hz : 'z'.val.toNat = 122 := rfl
    simp only [UInt32.le_iff_toNat_le, UInt32.toNat_add, UInt32.toNat_sub, hA, hZ, ha, hz] at hu ⊢
    omega
  · exact h

/-! ### Trimming a character from the end -/

lemma rtakeWhile_beq_eq_nil_or_head (c : Char) (l : List Char) :
    l.rtakeWhile (· == c) = [] ∨ (l.rtakeWhile (· == c)).head? = some c := by
  cases h : l.rtakeWhile (· == c) with
  | nil => exact Or.inl rfl
  | cons x t =>
    have hmem : x ∈ l.rtakeWhile (· == c) := by
      rw [h]
      exact List.mem_cons_self
    have hx : (x == c) = true := List.mem_rtakeWhile_imp (p := (· == c)) hmem
    exact Or.inr (by simpa using hx)

lemma rdropWhile_beq_of_not_suffix {c : Char} {r : List Char} (h : ¬ [c, c] <:+ r) :
    r.rdropWhile (· == c) = if r.getLast? = some c then r.dropLast else r := by
  rcases List.eq_nil_or_concat r with rfl | ⟨r', x, rfl⟩
  · simp
  rw [List.concat_eq_append] at h ⊢
  by_cases hx : x = c
  · subst hx
    have hr' : r'.rdropWhile (· == x) = r' := by
      rw [List.rdropWhile_eq_self_iff]
      intro hne hlast
      -- otherwise `r'` ends with `x` and `r' ++ [x]` with two of them
      have hl : r'.getLast hne = x := by simpa using hlast
      apply h
      refine ⟨r'.dropLast, ?_⟩
      calc r'.dropLast ++ [x, x] = (r'.dropLast ++ [r'.getLast hne]) ++ [x] := by rw [hl]; simp
        _ = r' ++ [x] := by rw [List.dropLast_append_getLast]
    rw [List.rdropWhile_concat_pos _ r' x (by simp), hr']
    simp
  · rw [List.rdropWhile_concat_neg _ r' x (by simpa using hx)]
    simp [hx]

end Library.Text
