import Listing.Request.Percent
import Mathlib.Data.List.Infix

/-!
# Signs in percent-encoded text

Octets beyond ASCII never make up a character of ASCII, so such a character is in a decoded text
only if it stands in the encoded text or an octet there is its number (`mem_decode`).  An equals
sign that does not stand in the encoded text is written as `%3D` or `%3d` there
(`equals_mem_decode`).
-/

namespace Listing.Percent

/-! ## Characters of ASCII -/

/-- A character of ASCII other than U+0000, which octets that are no character would stand for. -/
structure IsSign (c : Char) : Prop where
  pos : 0 < c.toNat
  ascii : c.toNat < 128

/-- A sign has one number, and no invalid number stands for it. -/
theorem IsSign.ofNat_eq_iff {c : Char} (h : IsSign c) (n : Nat) :
    Char.ofNat n = c ↔ n = c.toNat := by
  constructor
  · rintro rfl
    have hpos := h.pos
    unfold Char.ofNat at hpos ⊢
    -- a number that is no character's gives U+0000, which is no sign
    by_cases hvalid : n.isValidChar
    · rw [dif_pos hvalid]
      rfl
    · rw [dif_neg hvalid] at hpos
      exact absurd hpos (lt_irrefl 0)
  · rintro rfl
    exact Char.ofNat_toNat c

theorem IsSign.ne_replacement {c : Char} (h : IsSign c) : c ≠ replacement := by
  rintro rfl
  have hascii := h.ascii
  revert hascii
  decide

/-- What octets have been read of a character beyond ASCII: with the next one it has at least two
units of 64 if that is the last, and still two bits of more than that if not. -/
structure Pending.Wide (p : Pending) : Prop where
  low : 128 ≤ p.low
  last : p.missing ≤ 1 → 2 ≤ p.bits
  more : 1 < p.missing → 2 ≤ 64 * p.bits + (p.low - 128)

/-- An octet by itself is a character of ASCII, and otherwise it starts one beyond ASCII. -/
theorem start?_cases {n : Nat} {r : Char ⊕ Pending} (h : start? n = some r) :
    r = .inl (Char.ofNat n) ∨ 128 ≤ n ∧ ∃ p : Pending, r = .inr p ∧ p.Wide := by
  unfold start? at h
  -- one octet, then the starts of characters of two, three and four octets
  split at h
  · cases h
    exact Or.inl rfl
  · split at h
    · cases h
    · split at h
      · cases h
        refine Or.inr ⟨by omega, _, rfl, le_refl 128, fun _ => ?_, fun hm => ?_⟩
        · show 2 ≤ n - 0xC0
          omega
        · exact absurd hm (lt_irrefl 1)
      · split at h
        · cases h
          refine Or.inr ⟨by omega, _, rfl, ?_, fun hm => ?_, fun _ => ?_⟩
          · show 128 ≤ if n = 0xE0 then 0xA0 else 0x80
            split <;> omega
          · exact absurd hm (Nat.not_succ_le_self 1)
          · show 2 ≤ 64 * (n - 0xE0) + ((if n = 0xE0 then 0xA0 else 0x80) - 128)
            split <;> omega
        · split at h
          · cases h
            refine Or.inr ⟨by omega, _, rfl, ?_, fun hm => ?_, fun _ => ?_⟩
            · show 128 ≤ if n = 0xF0 then 0x90 else 0x80
              split <;> omega
            · have htwo : 3 ≤ 1 := hm
              omega
            · show 2 ≤ 64 * (n - 0xF0) + ((if n = 0xF0 then 0x90 else 0x80) - 128)
              split <;> omega
          · cases h

variable {c : Char}

/-- What is read of an octet has a sign just if the octet is its number. -/
structure Reads (n : Nat) (read : List Char × Option Pending) : Prop where
  sign : ∀ c, IsSign c → (c ∈ read.1 ↔ n = c.toNat)
  wide : ∀ p ∈ read.2, p.Wide

/-- The first octet of a character is a sign just if it has the number of one. -/
theorem reads_begin (n : Nat) : Reads n (begin n) := by
  unfold begin
  cases hs : start? n with
  | none =>
    refine ⟨fun c hc => ?_, by simp⟩
    -- octets below 128 always start a character
    have hlarge : 128 ≤ n := by
      apply Classical.byContradiction
      intro hn
      have hsmall : n < 0x80 := by omega
      simp [start?, hsmall] at hs
    have hne : n ≠ c.toNat := by
      have hascii := hc.ascii
      omega
    simp [hne, hc.ne_replacement]
  | some r =>
    rcases start?_cases hs with rfl | ⟨hlarge, p, rfl, hwide⟩
    · refine ⟨fun c hc => ?_, by simp⟩
      rw [← hc.ofNat_eq_iff, List.mem_singleton]
      exact eq_comm
    · refine ⟨fun c hc => ?_, ?_⟩
      · have hne : n ≠ c.toNat := by
          have hascii := hc.ascii
          omega
        simp [hne]
      · intro q hq
        cases hq
        exact hwide

/-- An octet that is read into a character beyond ASCII makes no sign. -/
theorem reads_resume {p : Pending} (hp : p.Wide) (n : Nat) : Reads n (resume p n) := by
  have hlow := hp.low
  unfold resume
  split
  · next hrange =>
    -- the octet goes on with the character, which is beyond ASCII
    have hne : ∀ c, IsSign c → n ≠ c.toNat := by
      intro c hc
      have hascii := hc.ascii
      omega
    simp only
    split
    · next hlast =>
      have hbits := hp.last hlast
      refine ⟨fun c hc => ?_, by simp⟩
      have hbeyond : 64 * p.bits + (n - 0x80) ≠ c.toNat := by
        have hascii := hc.ascii
        omega
      have hchar : Char.ofNat (64 * p.bits + (n - 0x80)) ≠ c := fun h =>
        hbeyond ((hc.ofNat_eq_iff _).1 h)
      simp [hne c hc, Ne.symm hchar]
    · next hmore =>
      have hbits := hp.more (by omega)
      refine ⟨fun c hc => by simp [hne c hc], ?_⟩
      intro q hq
      cases hq
      exact ⟨le_refl 128, fun _ => by simp only; omega, fun _ => by simp only; omega⟩
  · -- the character is given up, and the octet starts another one
    have hbegin := reads_begin n
    refine ⟨fun c hc => ?_, hbegin.wide⟩
    simp only
    rw [List.mem_cons, hbegin.sign c hc]
    simp [hc.ne_replacement]

/-- Whatever has been read before, a sign is among the characters to come just if it stands among
the pieces or its number does. -/
theorem mem_decodeFrom (hc : IsSign c) (ps : List Piece) (pending : Option Pending)
    (hwide : ∀ p ∈ pending, p.Wide) :
    c ∈ decodeFrom pending ps ↔ Piece.plain c ∈ ps ∨ Piece.octet c.toNat ∈ ps := by
  -- piece by piece, with any unfinished character
  induction ps generalizing pending with
  | nil => cases pending <;> simp [decodeFrom, hc.ne_replacement]
  | cons piece ps ih =>
    cases piece with
    | plain d =>
      have hnone := ih none (by simp)
      cases pending <;> simp [decodeFrom, hnone, hc.ne_replacement, or_assoc]
    | octet n =>
      have hstep : ∃ read, Reads n read ∧
          decodeFrom pending (.octet n :: ps) = read.1 ++ decodeFrom read.2 ps := by
        cases pending with
        | none => exact ⟨begin n, reads_begin n, rfl⟩
        | some p => exact ⟨resume p n, reads_resume (hwide p rfl) n, rfl⟩
      obtain ⟨read, hread, heq⟩ := hstep
      have hoctet : Piece.octet c.toNat = Piece.octet n ↔ n = c.toNat := by
        rw [Piece.octet.injEq]
        exact eq_comm
      rw [heq, List.mem_append, hread.sign c hc, ih read.2 hread.wide]
      simp only [List.mem_cons, hoctet, reduceCtorEq, false_or]
      exact or_left_comm

/-- A sign is in a decoded text just if it stands among the pieces or its number does. -/
theorem mem_decode (hc : IsSign c) (cs : List Char) :
    c ∈ decode cs ↔ Piece.plain c ∈ pieces cs ∨ Piece.octet c.toNat ∈ pieces cs :=
  mem_decodeFrom hc (pieces cs) none (by simp)

/-! ## The equals sign -/

/-- The equals sign as an octet, with a capital or a small letter. -/
def EncodesEquals (cs : List Char) : Prop := ∃ d ∈ ['D', 'd'], ['%', '3', d] <:+: cs

/-- The hexadecimal digits that matter for an equals sign. -/
structure HexDigit (c : Char) : Prop where
  lt : Numeral.hexValue c < 16
  three : Numeral.hexValue c = 3 ↔ c = '3'
  thirteen : Numeral.hexValue c = 13 ↔ c = 'D' ∨ c = 'd'
  percent : c ≠ '%'

theorem hexDigit {c : Char} (h : Numeral.isHexDigit c = true) : HexDigit c := by
  have hall : ∀ n < 128, Numeral.isHexDigit (Char.ofNat n) = true →
      Numeral.hexValue (Char.ofNat n) < 16 ∧
      (Numeral.hexValue (Char.ofNat n) = 3 ↔ Char.ofNat n = '3') ∧
      (Numeral.hexValue (Char.ofNat n) = 13 ↔ Char.ofNat n = 'D' ∨ Char.ofNat n = 'd') ∧
      Char.ofNat n ≠ '%' := by decide +kernel
  have hascii : c.toNat < 128 := by
    simp only [Numeral.isHexDigit, Char.isDigit, Bool.or_eq_true, Bool.and_eq_true,
      decide_eq_true_eq, Char.le_def, UInt32.le_iff_toNat_le] at h
    have hnine : ('9' : Char).val.toNat = 57 := rfl
    have hf : ('f' : Char).val.toNat = 102 := rfl
    have hF : ('F' : Char).val.toNat = 70 := rfl
    show c.val.toNat < 128
    omega
  have hc := hall c.toNat hascii
  rw [Char.ofNat_toNat] at hc
  obtain ⟨hlt, hthree, hthirteen, hpercent⟩ := hc h
  exact ⟨hlt, hthree, hthirteen, hpercent⟩

/-- Two hexadecimal digits are the number of the equals sign just if they are written so. -/
theorem octet_equals_iff {a b : Char} (ha : HexDigit a) (hb : HexDigit b) :
    16 * Numeral.hexValue a + Numeral.hexValue b = 61 ↔ a = '3' ∧ (b = 'D' ∨ b = 'd') := by
  rw [← ha.three, ← hb.thirteen]
  have hlt := hb.lt
  omega

/-- An equals sign is written at the start of a text or behind it. -/
theorem encodesEquals_cons {c : Char} {cs : List Char} :
    EncodesEquals (c :: cs) ↔ (∃ d ∈ ['D', 'd'], ['%', '3', d] <+: c :: cs) ∨ EncodesEquals cs := by
  simp only [EncodesEquals, List.infix_cons_iff]
  constructor
  · rintro ⟨d, hd, hprefix | hinfix⟩
    · exact Or.inl ⟨d, hd, hprefix⟩
    · exact Or.inr ⟨d, hd, hinfix⟩
  · rintro (⟨d, hd, hprefix⟩ | ⟨d, hd, hinfix⟩)
    · exact ⟨d, hd, Or.inl hprefix⟩
    · exact ⟨d, hd, Or.inr hinfix⟩

/-- It is not written at the start of a text that does not start with a percent sign. -/
theorem encodesEquals_cons_of_ne {c : Char} (hc : c ≠ '%') {cs : List Char} :
    EncodesEquals (c :: cs) ↔ EncodesEquals cs := by
  rw [encodesEquals_cons]
  apply or_iff_right
  rintro ⟨d, -, hprefix⟩
  rw [List.cons_prefix_cons] at hprefix
  exact hc hprefix.1.symm

/-- At the place of a percent sign the next two characters decide. -/
theorem start_equals_iff {a b : Char} {rest : List Char} :
    (∃ d ∈ ['D', 'd'], ['%', '3', d] <+: '%' :: a :: b :: rest) ↔
      a = '3' ∧ (b = 'D' ∨ b = 'd') := by
  simp only [List.cons_prefix_cons, List.nil_prefix, and_true, true_and]
  constructor
  · rintro ⟨d, hd, rfl, rfl⟩
    exact ⟨rfl, by simpa using hd⟩
  · rintro ⟨rfl, hb⟩
    exact ⟨b, by simpa using hb, rfl, rfl⟩

/-- The octet of an equals sign is among the pieces just if it is written somewhere. -/
theorem octet_equals_mem_pieces (cs : List Char) :
    Piece.octet 61 ∈ pieces cs ↔ EncodesEquals cs := by
  fun_induction pieces cs with
  | case1 a b rest hhex ih =>
    rw [Bool.and_eq_true] at hhex
    have ha := hexDigit hhex.1
    have hb := hexDigit hhex.2
    have hoctet : Piece.octet 61 = Piece.octet (16 * Numeral.hexValue a + Numeral.hexValue b) ↔
        a = '3' ∧ (b = 'D' ∨ b = 'd') := by
      rw [Piece.octet.injEq, eq_comm, octet_equals_iff ha hb]
    -- neither digit is a percent sign, so the next one is written behind them
    rw [List.mem_cons, hoctet, ih, encodesEquals_cons, start_equals_iff,
      encodesEquals_cons_of_ne ha.percent, encodesEquals_cons_of_ne hb.percent]
  | case2 a b rest hhex ih =>
    -- the two characters are no hexadecimal digits, and those of the equals sign are
    have hnone : ¬(a = '3' ∧ (b = 'D' ∨ b = 'd')) := by
      rintro ⟨rfl, rfl | rfl⟩
      · exact hhex rfl
      · exact hhex rfl
    rw [List.mem_cons, ih, encodesEquals_cons (c := '%'), start_equals_iff, or_iff_right hnone]
    exact or_iff_right (by simp)
  | case3 c rest hother ih =>
    have hnone : ¬∃ d ∈ ['D', 'd'], ['%', '3', d] <+: c :: rest := by
      rintro ⟨d, -, hprefix⟩
      rw [List.cons_prefix_cons] at hprefix
      obtain ⟨rfl, tail, rfl⟩ := hprefix
      exact hother '3' d tail rfl rfl
    rw [List.mem_cons, ih, encodesEquals_cons, or_iff_right hnone]
    exact or_iff_right (by simp)
  | case4 => simp [EncodesEquals]

/-- Besides blanks, only what stands in a text is a piece of it as it is. -/
theorem plain_mem_pieces {c : Char} (hspace : c ≠ ' ') {cs : List Char}
    (h : Piece.plain c ∈ pieces cs) : c ∈ cs := by
  fun_induction pieces cs with
  | case1 a b rest hhex ih =>
    simp only [List.mem_cons, reduceCtorEq, false_or] at h
    exact List.mem_cons_of_mem _ (List.mem_cons_of_mem _ (List.mem_cons_of_mem _ (ih h)))
  | case2 a b rest hhex ih =>
    rcases List.mem_cons.1 h with h | h
    · cases h
      exact List.mem_cons_self
    · exact List.mem_cons_of_mem _ (ih h)
  | case3 d rest hother ih =>
    rcases List.mem_cons.1 h with h | h
    · rw [Piece.plain.injEq] at h
      split at h
      · exact absurd h hspace
      · exact List.mem_cons.2 (Or.inl h)
    · exact List.mem_cons_of_mem _ (ih h)
  | case4 => cases h

/-- A text without an equals sign stands for one with an equals sign just if it encodes one. -/
theorem equals_mem_decode {cs : List Char} (h : '=' ∉ cs) :
    '=' ∈ decode cs ↔ EncodesEquals cs := by
  have hsign : IsSign '=' := ⟨by decide, by decide⟩
  -- the sign itself does not stand in the text, so only its number is left
  have hplain : Piece.plain '=' ∉ pieces cs := fun hmem => h (plain_mem_pieces (by decide) hmem)
  have hnumber : ('=' : Char).toNat = 61 := rfl
  rw [mem_decode hsign, hnumber, octet_equals_mem_pieces]
  exact or_iff_right hplain

end Listing.Percent
