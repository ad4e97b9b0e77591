import Listing.Text.Lower
import Listing.Text.Search
import Mathlib.Tactic.SplitIfs

/-!
# Small letters of ASCII and beyond

Text of ASCII in small letters is written in those of ASCII (`lower_ascii`), and so is the Kelvin
sign, whose small form is `k` (`lower_writtenAscii`).  Every other character beyond ASCII leaves one
beyond ASCII in the text in small letters (`exists_mem_lower`).
-/

namespace Listing.Text

/-! ## Parts of a text -/

/-- A part occurs in a text if the text has it without a gap. -/
theorem occursIn_iff {part cs : List Char} : occursIn part cs = true ↔ part <:+: cs := by
  induction cs with
  | nil => simp [occursIn]
  | cons c rest ih =>
    rw [occursIn, Bool.or_eq_true, List.isPrefixOf_iff_prefix, ih, List.infix_cons_iff]

/-! ## Small letters of ASCII -/

theorem ne_of_ascii {c d : Char} (hc : c.toNat < 128) (hd : 128 ≤ d.toNat) : c ≠ d := by
  rintro rfl
  omega

/-- Capital letters of ASCII are 32 places before their small forms. -/
theorem toNat_toLower (c : Char) :
    c.toLower.toNat = if 65 ≤ c.toNat ∧ c.toNat ≤ 90 then c.toNat + 32 else c.toNat := by
  have hbounds : (c.val ≥ 'A'.val ∧ c.val ≤ 'Z'.val) ↔ (65 ≤ c.toNat ∧ c.toNat ≤ 90) := Iff.rfl
  delta Char.toLower
  split
  · rename_i h
    have hcode := hbounds.1 h
    rw [if_pos hcode]
    show (c.val + 32).toNat = _
    rw [UInt32.toNat_add]
    show (c.toNat + 32) % _ = _
    omega
  · rename_i h
    rw [if_neg fun hcode => h (hbounds.2 hcode)]

/-- The small form of ASCII is ASCII, and of nothing else. -/
theorem toNat_toLower_lt_iff {c : Char} : c.toLower.toNat < 128 ↔ c.toNat < 128 := by
  rw [toNat_toLower]
  split <;> omega

theorem toLower_toLower (c : Char) : c.toLower.toLower = c.toLower := by
  rw [← Char.toNat_inj, toNat_toLower, toNat_toLower c]
  split_ifs <;> omega

def Ascii (cs : List Char) : Prop := ∀ c ∈ cs, c.toNat < 128

instance (cs : List Char) : Decidable (Ascii cs) := List.decidableBAll _ cs

theorem Ascii.asciiLower {cs : List Char} (h : Ascii cs) : Ascii (asciiLower cs) := by
  intro c hc
  obtain ⟨d, hd, rfl⟩ := List.mem_map.1 hc
  exact toNat_toLower_lt_iff.2 (h d hd)

/-- A character that is no letter of ASCII. -/
abbrev NoLetter (c : Char) : Prop :=
  c.toNat < 65 ∨ 90 < c.toNat ∧ c.toNat < 97 ∨ 122 < c.toNat

/-- What is no letter of ASCII is the small form of nothing else. -/
theorem toLower_eq_iff {c d : Char} (hd : NoLetter d) : c.toLower = d ↔ c = d := by
  rw [← Char.toNat_inj, ← Char.toNat_inj, toNat_toLower]
  split <;> omega

/-- What is no letter of ASCII is in a text in small letters just when it is in the text. -/
theorem mem_asciiLower_iff {d : Char} (hd : NoLetter d) {cs : List Char} :
    d ∈ asciiLower cs ↔ d ∈ cs := by
  rw [asciiLower, List.mem_map]
  constructor
  · rintro ⟨c, hc, h⟩
    rw [← (toLower_eq_iff hd).1 h]
    exact hc
  · intro h
    exact ⟨d, h, (toLower_eq_iff hd).2 rfl⟩

/-! ## Small letters by the table -/

/-- The Kelvin sign, the one character beyond ASCII with a small form in ASCII. -/
def kelvin : Char := '\u212a'

/-- On ASCII the table says what ASCII says. -/
theorem lowerChar_ascii {c : Char} (hc : c.toNat < 128) : lowerChar c = c.toLower := by
  have hall : ∀ n < 128, lowerChar (Char.ofNat n) = (Char.ofNat n).toLower := by decide +kernel
  have hn := hall c.toNat hc
  rwa [Char.ofNat_toNat] at hn

/-- The runs of the table that lie beyond ASCII lead beyond ASCII, the Kelvin sign apart. -/
theorem lowerRuns_beyond : ∀ r ∈ lowerRuns, r.2.1 < 128 ∨ (r.1 = kelvin.toNat ∧ r.2.1 = r.1) ∨
    128 ≤ (r.1 : Int) + r.2.2.2 ∧ ((r.2.1 : Int) + r.2.2.2 < 0xD800 ∨
      0xDFFF < (r.1 : Int) + r.2.2.2 ∧ (r.2.1 : Int) + r.2.2.2 < 0x110000) := by
  decide +kernel

/-- Beyond ASCII only the Kelvin sign has a small form in ASCII. -/
theorem lowerChar_beyond {c : Char} (hc : 128 ≤ c.toNat) (hk : c ≠ kelvin) :
    128 ≤ (lowerChar c).toNat := by
  unfold lowerChar
  dsimp only
  split
  · rename_i r hfind
    have hmem := List.mem_of_find?_eq_some hfind
    have hrun := List.find?_some hfind
    simp only [Bool.and_eq_true, decide_eq_true_eq] at hrun
    obtain ⟨⟨hfirst, hlast⟩, -⟩ := hrun
    -- the run is within ASCII, the Kelvin sign's own, or one that leads beyond ASCII
    rcases lowerRuns_beyond r hmem with hascii | ⟨hkelvin, hone⟩ | ⟨hlow, hhigh⟩
    · omega
    · have hcode : c.toNat = kelvin.toNat := by omega
      exact absurd (Char.toNat_inj.1 hcode) hk
    · have hvalid : Nat.isValidChar ((c.toNat : Int) + r.2.2.2).toNat := by
        unfold Nat.isValidChar
        omega
      rw [Char.ofNat, dif_pos hvalid]
      show 128 ≤ ((c.toNat : Int) + r.2.2.2).toNat
      omega
  · exact hc

/-! ## Small letters of a text -/

/-- What a character becomes is part of what its text becomes. -/
theorem lowerBetween_subset {c : Char} {cs : List Char} (hc : c ∈ cs) :
    ∃ before after, lowerBetween before c after ⊆ lower cs := by
  -- what has been passed is looked at when the rest is written
  have hfrom : ∀ before, ∃ earlier after, lowerBetween earlier c after ⊆ lowerFrom before cs := by
    induction cs with
    | nil => cases hc
    | cons d rest ih =>
      intro before
      rw [lowerFrom]
      rcases List.mem_cons.1 hc with rfl | hrest
      · exact ⟨before, rest, List.subset_append_left _ _⟩
      · obtain ⟨earlier, after, hsub⟩ := ih hrest (d :: before)
        exact ⟨earlier, after, List.Subset.trans hsub (List.subset_append_right _ _)⟩
  exact hfrom []

/-- A character beyond ASCII leaves one in the text in small letters, unless it is the Kelvin
sign. -/
theorem exists_mem_lower {c : Char} {cs : List Char} (hc : c ∈ cs) (hbeyond : 128 ≤ c.toNat)
    (hk : c ≠ kelvin) : ∃ d ∈ lower cs, 128 ≤ d.toNat := by
  obtain ⟨before, after, hsub⟩ := lowerBetween_subset hc
  have hbetween : ∃ d ∈ lowerBetween before c after, 128 ≤ d.toNat := by
    -- a sigma, the dotted I with its own dot, or a character that is looked up
    unfold lowerBetween
    split
    · split
      · exact ⟨'ς', by simp, by decide⟩
      · exact ⟨'σ', by simp, by decide⟩
    · split
      · exact ⟨'\u0307', by simp, by decide⟩
      · exact ⟨lowerChar c, by simp, lowerChar_beyond hbeyond hk⟩
  obtain ⟨d, hd, hcode⟩ := hbetween
  exact ⟨d, hsub hd, hcode⟩

/-- A character as it is written in ASCII: `k` for the Kelvin sign. -/
def writtenAscii (c : Char) : Char := if c = kelvin then 'k' else c

theorem writtenAscii_ascii {c : Char} (hc : c.toNat < 128) : writtenAscii c = c :=
  if_neg (ne_of_ascii hc (by decide))

/-- Such a character becomes its small form of ASCII, whatever stands around it. -/
theorem lowerBetween_writtenAscii {c : Char} (hc : c.toNat < 128 ∨ c = kelvin)
    (before after : List Char) : lowerBetween before c after = [(writtenAscii c).toLower] := by
  rcases hc with hascii | rfl
  · have hsigma : (c == 'Σ') = false := beq_false_of_ne (ne_of_ascii hascii (by decide))
    have hdotted : (c == 'İ') = false := beq_false_of_ne (ne_of_ascii hascii (by decide))
    simp only [lowerBetween, hsigma, hdotted, Bool.false_eq_true, if_false,
      writtenAscii_ascii hascii, lowerChar_ascii hascii]
  · have hlower : lowerChar kelvin = 'k' := by decide +kernel
    exact congrArg (fun k => [k]) hlower

/-- A character of ASCII stands in its small form in the text in small letters. -/
theorem toLower_mem_lower {c : Char} {cs : List Char} (hc : c ∈ cs) (hascii : c.toNat < 128) :
    c.toLower ∈ lower cs := by
  obtain ⟨before, after, hsub⟩ := lowerBetween_subset hc
  rw [lowerBetween_writtenAscii (.inl hascii), writtenAscii_ascii hascii] at hsub
  exact hsub (List.mem_singleton_self _)

/-- Text of ASCII and Kelvin signs has the small letters of the text written in ASCII. -/
theorem lower_writtenAscii {cs : List Char} (h : ∀ c ∈ cs, c.toNat < 128 ∨ c = kelvin) :
    lower cs = asciiLower (cs.map writtenAscii) := by
  have hfrom : ∀ before, lowerFrom before cs = asciiLower (cs.map writtenAscii) := by
    induction cs with
    | nil => exact fun _ => rfl
    | cons c rest ih =>
      intro before
      have hrest := ih (fun d hd => h d (List.mem_cons_of_mem c hd)) (c :: before)
      rw [lowerFrom, lowerBetween_writtenAscii (h c List.mem_cons_self), hrest]
      rfl
  exact hfrom []

/-- Text of ASCII has the small letters of ASCII. -/
theorem lower_ascii {cs : List Char} (h : Ascii cs) : lower cs = asciiLower cs := by
  have hwritten : cs.map writtenAscii = cs :=
    (List.map_congr_left fun c hc => writtenAscii_ascii (h c hc)).trans (List.map_id' cs)
  rw [lower_writtenAscii fun c hc => .inl (h c hc), hwritten]

end Listing.Text
