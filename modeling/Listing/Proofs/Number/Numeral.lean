import Listing.Number.Numeral

/-!
# Whole numbers read back

An integer's digits read as that integer, as long as there are not too many of them
(`whole?_intDigits`).
-/

namespace Listing

namespace Text

/-- Trimming leaves a text alone that has nothing to trim. -/
theorem trimBoth_eq_self {p : Char → Bool} {cs : List Char} (h : ∀ c ∈ cs, p c = false) :
    trimBoth p cs = cs := by
  have hdrop : ∀ ds : List Char, (∀ c ∈ ds, p c = false) → ds.dropWhile p = ds := by
    intro ds hds
    cases ds with
    | nil => rfl
    | cons d ds => rw [List.dropWhile_cons, hds d List.mem_cons_self]; rfl
  have hreverse : ∀ c ∈ cs.reverse, p c = false := fun c hc => h c (List.mem_reverse.1 hc)
  -- dropping from the front, then from the front of the reverse
  rw [trimBoth, hdrop cs h, hdrop cs.reverse hreverse, List.reverse_reverse]

end Text

/-! ## Digits -/

theorem isDigit_of_mem_natDigits {n : Nat} {c : Char} (h : c ∈ natDigits n) : c.isDigit = true :=
  Nat.isDigit_of_mem_toDigits (by decide) (by decide) h

theorem natDigits_ne_nil (n : Nat) : natDigits n ≠ [] := Nat.toDigits_ne_nil

/-- A number below a power of ten has no more digits than the power says. -/
theorem length_natDigits_le {n digits : Nat} (hd : 0 < digits) (h : n < Nat.pow 10 digits) :
    (natDigits n).length ≤ digits := (Nat.length_toDigits_le_iff (by decide) hd).2 h

theorem toNat_of_isDigit {c : Char} (h : c.isDigit = true) : 48 ≤ c.toNat ∧ c.toNat ≤ 57 := by
  simp only [Char.isDigit, Bool.and_eq_true, decide_eq_true_eq] at h
  exact ⟨h.1, h.2⟩

/-- An integer is written in digits, with a minus sign before them if it is negative. -/
theorem mem_intDigits {n : Int} {c : Char} (h : c ∈ intDigits n) :
    c = '-' ∨ c.isDigit = true := by
  cases n with
  | ofNat n => exact Or.inr (isDigit_of_mem_natDigits h)
  | negSucc n =>
    rcases List.mem_cons.1 h with h | h
    · exact Or.inl h
    · exact Or.inr (isDigit_of_mem_natDigits h)

namespace Numeral

/-- Characters of ASCII stay as they are. -/
theorem plain_eq_self {cs : List Char} (h : ∀ c ∈ cs, c.toNat < 127) : plain cs = cs := by
  rw [plain]
  apply (List.map_congr_left _).trans (List.map_id cs)
  intro c hc
  rw [if_pos (h c hc)]
  rfl

/-- Characters of a class without an underscore are one group. -/
theorem grouped?_eq_self {p : Char → Bool} {cs : List Char} (hne : cs ≠ [])
    (h : ∀ c ∈ cs, p c = true) (hu : '_' ∉ cs) : grouped? p cs = some cs := by
  have hsplit : cs.splitOn '_' = [cs] := List.splitOn_eq_singleton hu
  have hall : cs.all p = true := List.all_eq_true.2 h
  simp [grouped?, hsplit, hall, hne]

theorem splitSign_natDigits (n : Nat) : splitSign (natDigits n) = (false, natDigits n) := by
  have hdigit : ∀ c ∈ natDigits n, c.isDigit = true := fun c => isDigit_of_mem_natDigits
  unfold splitSign
  -- a sign in front would be a digit
  split
  · next h =>
    have hminus := hdigit '-' (by rw [h]; exact List.mem_cons_self)
    cases hminus
  · next h =>
    have hplus := hdigit '+' (by rw [h]; exact List.mem_cons_self)
    cases hplus
  · rfl

/-- A written integer is parted into its sign and the digits of its size. -/
theorem splitSign_intDigits (n : Int) :
    splitSign (intDigits n) = (decide (n < 0), natDigits n.natAbs) := by
  cases n with
  | ofNat n =>
    have hneg : decide (Int.ofNat n < 0) = false := by
      rw [decide_eq_false_iff_not, Int.ofNat_eq_natCast]
      omega
    rw [hneg]
    exact splitSign_natDigits n
  | negSucc n =>
    have hneg : decide (Int.negSucc n < 0) = true := decide_eq_true (Int.negSucc_lt_zero n)
    rw [hneg]
    rfl

theorem signed_natAbs (n : Int) : signed (decide (n < 0)) n.natAbs = n := by
  by_cases h : n < 0
  · simp only [signed, h, decide_true, if_true]
    omega
  · simp only [signed, h, decide_false, Bool.false_eq_true, if_false]
    omega

/-- Numbers are written without underscores. -/
theorem grouped?_natDigits (n : Nat) : grouped? Char.isDigit (natDigits n) = some (natDigits n) := by
  apply grouped?_eq_self (natDigits_ne_nil n)
  · intro c hc
    exact isDigit_of_mem_natDigits hc
  · intro hu
    cases isDigit_of_mem_natDigits hu

/-- Nothing of a written integer is trimmed or replaced. -/
theorem trimBoth_plain_intDigits (n : Int) :
    Text.trimBoth Text.isAsciiBlank (plain (intDigits n)) = intDigits n := by
  have hascii : ∀ c ∈ intDigits n, c.toNat < 127 := by
    intro c hc
    rcases mem_intDigits hc with rfl | hd
    · decide
    · have hle := toNat_of_isDigit hd
      omega
  have hblank : ∀ c ∈ intDigits n, Text.isAsciiBlank c = false := by
    intro c hc
    rcases mem_intDigits hc with rfl | hd
    · decide
    · have hle := toNat_of_isDigit hd
      have hspace : c ≠ ' ' := by
        rintro rfl
        cases hd
      simp [Text.isAsciiBlank, hspace]
      omega
  rw [plain_eq_self hascii, Text.trimBoth_eq_self hblank]

/-- The digits of an integer read as that integer, if there are not too many. -/
theorem whole?_intDigits {n : Int} (h : n.natAbs < Nat.pow 10 maxDigits) :
    whole? (intDigits n) = some n := by
  have hlen : (natDigits n.natAbs).length ≤ maxDigits := length_natDigits_le (by decide) h
  -- trimming, splitting off the sign and grouping each leave the digits alone
  rw [whole?, trimBoth_plain_intDigits, splitSign_intDigits]
  simp only [grouped?_natDigits, if_pos hlen, ofDigits_natDigits, signed_natAbs]

end Numeral

end Listing
