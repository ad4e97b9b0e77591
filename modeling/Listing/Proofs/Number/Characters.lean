import Listing.Number.Decimal
import Listing.Proofs.Number.Numeral

/-!
# The characters of number texts

Binary numbers are written with digits, small letters, signs and points, and each of their texts has
a point or a letter that no whole number has.  Decimals have capital letters besides.
-/

namespace Listing

/-- Whether binary numbers are written with a character: a digit, a small letter, a sign or a point. -/
def isNumberMark (c : Char) : Bool := c.isDigit || c.isLower || c == '+' || c == '-' || c == '.'

def isDecimalMark (c : Char) : Bool := isNumberMark c || c.isUpper

section Marks

variable {p : Char → Bool} {cs : List Char}

/-- A sign in front adds a minus to the characters of a text. -/
theorem forall_mem_signed {negative : Bool} (hsign : p '-' = true) (h : ∀ c ∈ cs, p c = true) :
    ∀ c ∈ Binary64.signed negative cs, p c = true := by
  cases negative with
  | false => exact h
  | true => exact List.forall_mem_cons.2 ⟨hsign, h⟩

theorem forall_mem_zeros (n : Nat) (hzero : p '0' = true) : ∀ c ∈ List.replicate n '0', p c = true := by
  intro c hc
  rw [List.eq_of_mem_replicate hc]
  exact hzero

/-- What holds of all digits holds of all characters of a number written in digits. -/
theorem forall_mem_natDigits (h : ∀ c, c.isDigit = true → p c = true) (n : Nat) :
    ∀ c ∈ natDigits n, p c = true := fun c hc => h c (isDigit_of_mem_natDigits hc)

/-- Digits with a point among them. -/
theorem forall_mem_pointed (hpoint : p '.' = true) (h : ∀ c ∈ cs, p c = true) (n : Nat) :
    ∀ c ∈ cs.take n ++ '.' :: cs.drop n, p c = true := by
  rw [List.forall_mem_append, List.forall_mem_cons]
  exact ⟨fun c hc => h c (List.mem_of_mem_take hc), hpoint, fun c hc => h c (List.mem_of_mem_drop hc)⟩

end Marks

theorem isNumberMark_of_isDigit {c : Char} (h : c.isDigit = true) : isNumberMark c = true := by
  simp [isNumberMark, h]

theorem isNumberMark_natDigits (n : Nat) : ∀ c ∈ natDigits n, isNumberMark c = true :=
  forall_mem_natDigits (fun _ => isNumberMark_of_isDigit) n

theorem isNumberMark_intDigits (n : Int) : ∀ c ∈ intDigits n, isNumberMark c = true := by
  intro c hc
  rcases mem_intDigits hc with rfl | hdigit
  · decide
  · exact isNumberMark_of_isDigit hdigit

theorem toNat_of_isLower {c : Char} (h : c.isLower = true) : 97 ≤ c.toNat ∧ c.toNat ≤ 122 := by
  have hbounds : (decide (97 ≤ c.val) && decide (c.val ≤ 122)) = true := h
  rw [Bool.and_eq_true, decide_eq_true_eq, decide_eq_true_eq] at hbounds
  exact hbounds

theorem toNat_of_isUpper {c : Char} (h : c.isUpper = true) : 65 ≤ c.toNat ∧ c.toNat ≤ 90 := by
  have hbounds : decide (65 ≤ c.val ∧ c.val ≤ 90) = true := h
  rw [decide_eq_true_eq] at hbounds
  exact hbounds

/-- Decimals are written in printable ASCII. -/
theorem toNat_of_isDecimalMark {c : Char} (h : isDecimalMark c = true) :
    32 ≤ c.toNat ∧ c.toNat < 127 := by
  simp only [isDecimalMark, isNumberMark, Bool.or_eq_true, beq_iff_eq] at h
  rcases h with ((((hdigit | hlower) | rfl) | rfl) | rfl) | hupper
  · have hcode := toNat_of_isDigit hdigit
    omega
  · have hcode := toNat_of_isLower hlower
    omega
  · decide
  · decide
  · decide
  · have hcode := toNat_of_isUpper hupper
    omega

namespace FloatLayout

/-- The texts of numbers have a point or an exponent. -/
theorem exists_mem_write (layout : FloatLayout) (coefficient : Nat) (power : Int) :
    ∃ c ∈ layout.write coefficient power, c = '.' ∨ c = 'e' := by
  unfold write
  simp only
  split
  · split
    · exact ⟨'.', by simp, .inl rfl⟩
    · split
      · exact ⟨'.', by simp, .inl rfl⟩
      · exact ⟨'.', by simp, .inl rfl⟩
  · exact ⟨'e', by simp, .inr rfl⟩

/-- Whatever the layout, a number is written with the characters of numbers only. -/
theorem isNumberMark_write (layout : FloatLayout) (coefficient : Nat) (power : Int) :
    ∀ c ∈ layout.write coefficient power, isNumberMark c = true := by
  have hdigits := isNumberMark_natDigits coefficient
  have hzeros : ∀ n, ∀ c ∈ List.replicate n '0', isNumberMark c = true :=
    fun n => forall_mem_zeros n (by decide)
  have htake : ∀ c ∈ (natDigits coefficient).take 1, isNumberMark c = true :=
    fun c hc => hdigits c (List.mem_of_mem_take hc)
  have hdrop : ∀ c ∈ (natDigits coefficient).drop 1, isNumberMark c = true :=
    fun c hc => hdigits c (List.mem_of_mem_drop hc)
  have hpoint : isNumberMark '.' = true := by decide
  have hzero : isNumberMark '0' = true := by decide
  have he : isNumberMark 'e' = true := by decide
  -- small numbers, whole numbers, numbers with a point, and those with an exponent
  unfold write
  simp only
  split
  · split
    · simp only [List.forall_mem_cons, List.forall_mem_append]
      exact ⟨hzero, hpoint, hzeros _, hdigits⟩
    · split
      · simp only [List.forall_mem_cons, List.forall_mem_append]
        exact ⟨⟨hdigits, hzeros _⟩, hpoint, hzero, List.forall_mem_nil _⟩
      · exact forall_mem_pointed hpoint hdigits _
  · simp only [List.forall_mem_cons, List.forall_mem_append]
    refine ⟨⟨htake, ?_⟩, he, ?_, ?_⟩
    · split
      · split
        · exact List.all_eq_true.1 rfl
        · exact List.forall_mem_nil _
      · exact List.forall_mem_cons.2 ⟨hpoint, hdrop⟩
    · split <;> decide
    · rw [paddedDigits, padZeros, List.forall_mem_append]
      exact ⟨hzeros _, isNumberMark_natDigits _⟩

end FloatLayout

namespace Binary64

/-- Every binary number is written with these characters, infinities and not-a-number included. -/
theorem isNumberMark_digits (x : Binary64) : ∀ c ∈ x.digits, isNumberMark c = true := by
  cases x with
  | nan => exact List.all_eq_true.1 rfl
  | infinite negative => exact forall_mem_signed (by decide) (List.all_eq_true.1 rfl)
  | finite negative m e =>
    rw [digits]
    split
    · exact forall_mem_signed (by decide) (List.all_eq_true.1 rfl)
    · exact forall_mem_signed (by decide) (layout.isNumberMark_write _ _)

theorem mem_signed {negative : Bool} {cs : List Char} {c : Char} (h : c ∈ cs) :
    c ∈ signed negative cs := by
  cases negative with
  | false => exact h
  | true => exact List.mem_cons_of_mem _ h

/-- Every text of a binary number shows that it is no whole number. -/
theorem exists_mem_digits (x : Binary64) : ∃ c ∈ x.digits, c = '.' ∨ c = 'e' ∨ c = 'n' := by
  cases x with
  -- `nan` and `inf` both have an `n`
  | nan => exact ⟨'n', by decide, by decide⟩
  | infinite negative => exact ⟨'n', mem_signed (by decide), by decide⟩
  | finite negative m e =>
    rw [digits]
    split
    · exact ⟨'.', mem_signed (by decide), by decide⟩
    · rcases layout.exists_mem_write (shortest m e).1 (shortest m e).2 with ⟨c, hmem, hc⟩
      exact ⟨c, mem_signed hmem, hc.imp_right .inl⟩

end Binary64

namespace Decimal

/-- The exponent of a decimal is announced by a capital letter. -/
theorem isDecimalMark_magnitudeDigits (coefficient : Nat) (exponent : Int) :
    ∀ c ∈ magnitudeDigits coefficient exponent, isDecimalMark c = true := by
  have hdigit : ∀ n, ∀ c ∈ natDigits n, isDecimalMark c = true :=
    forall_mem_natDigits fun c hc => by rw [isDecimalMark, isNumberMark_of_isDigit hc, Bool.true_or]
  have hpoint : isDecimalMark '.' = true := by decide
  have hzero : isDecimalMark '0' = true := by decide
  unfold magnitudeDigits
  extract_lets digits place point body
  have hbody : ∀ c ∈ body, isDecimalMark c = true := by
    unfold body
    split
    · simp only [List.forall_mem_cons, List.forall_mem_append]
      exact ⟨hzero, hpoint, forall_mem_zeros _ hzero, hdigit _⟩
    · split
      · exact hdigit _
      · exact forall_mem_pointed hpoint (hdigit _) _
  split
  · exact hbody
  · simp only [List.forall_mem_append, List.forall_mem_cons]
    refine ⟨hbody, by decide, ?_, hdigit _⟩
    split <;> decide

theorem isDecimalMark_digits (d : Decimal) : ∀ c ∈ d.digits, isDecimalMark c = true := by
  cases d with
  | finite negative c x => exact forall_mem_signed (by decide) (isDecimalMark_magnitudeDigits c x)
  | infinite negative => exact forall_mem_signed (by decide) (List.all_eq_true.1 rfl)
  | nan negative signalling payload =>
    refine forall_mem_signed (by decide) (List.forall_mem_append.2 ⟨?_, ?_⟩)
    · split <;> exact List.all_eq_true.1 rfl
    · split
      · exact List.forall_mem_nil _
      · exact forall_mem_natDigits
          (fun c hc => by rw [isDecimalMark, isNumberMark_of_isDigit hc, Bool.true_or]) _

end Decimal

end Listing
