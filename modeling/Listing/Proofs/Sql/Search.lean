import Listing.Proofs.Sql.Like
import Listing.Proofs.Sql.Selection
import Listing.Proofs.Text.Lower
import Mathlib.Data.List.TakeWhile

/-!
# Search in memory and in the database

In memory a term is looked for as a part of a text, in the database it is put between two signs for
any text and read as a pattern.  On text of ASCII both select alike for terms that are no pattern
(`Literal`) and for terms that neither side finds (`Unfindable`), and for no others
(`Schema.search_alike_iff`).
-/

namespace Listing

namespace Text

/-- The part of a text before the first character with the code zero, where the database stops
reading. -/
def beforeNul (cs : List Char) : List Char := cs.takeWhile (· != '\x00')

variable {cs : List Char}

/-- What is read of a text is part of it and has no code zero. -/
theorem of_mem_beforeNul {c : Char} (hc : c ∈ beforeNul cs) : c ∈ cs ∧ c ≠ '\x00' := by
  have hne := List.mem_takeWhile_imp hc
  exact ⟨(List.takeWhile_prefix _).subset hc, by simpa using hne⟩

theorem Ascii.beforeNul (h : Ascii cs) : Ascii (beforeNul cs) :=
  fun c hc => h c (of_mem_beforeNul hc).1

theorem beforeNul_eq_self (h : '\x00' ∉ cs) : beforeNul cs = cs := by
  refine List.takeWhile_eq_self_iff.2 fun c hc => ?_
  have hne : c ≠ '\x00' := ne_of_mem_of_not_mem hc h
  simpa using hne

/-- Reading stops in a text, or goes on behind it. -/
theorem beforeNul_append (cs ds : List Char) :
    beforeNul (cs ++ ds) = if '\x00' ∈ cs then beforeNul cs else cs ++ beforeNul ds := by
  induction cs with
  | nil => rfl
  | cons c cs ih =>
    -- the first character may be the one that reading stops at
    by_cases hc : c = '\x00'
    · subst hc
      simp [beforeNul]
    · have hcons : ∀ rest, beforeNul (c :: rest) = c :: beforeNul rest :=
        fun rest => List.takeWhile_cons_of_pos (by simpa using hc)
      have hmem : '\x00' ∈ c :: cs ↔ '\x00' ∈ cs := by simp [Ne.symm hc]
      rw [List.cons_append, hcons, ih]
      simp only [hmem, hcons]
      split <;> rfl

end Text

namespace Sql

/-! ## Terms and values -/

/-- A term that stands for itself in a pattern: text of ASCII without signs that mean something else
and without the character with the code zero. -/
def Literal (term : List Char) : Prop :=
  Text.Ascii term ∧ '\x00' ∉ term ∧ Verbatim term

instance (term : List Char) : Decidable (Literal term) := inferInstanceAs (Decidable (_ ∧ _))

/-- A term that is in no text of ASCII without the character with the code zero: not as memory looks
for it, and not as far as the database reads it. -/
def Unfindable (term : List Char) : Prop :=
  (∃ c ∈ term, c = '\x00' ∨ 128 ≤ c.toNat ∧ c ≠ Text.kelvin) ∧
    ∃ c ∈ Text.beforeNul term, 128 ≤ c.toNat

/-- The pattern that a term becomes. -/
def searchPattern (term : String) : String := "%" ++ term ++ "%"

/-- A term is found in a text in memory. -/
def Occurs (term value : String) : Prop := Text.lower term.toList <:+: Text.lower value.toList

/-- A term is found in a text in the database. -/
def Matches (term value : String) : Prop := Like (likeText (searchPattern term)) (likeText value)

variable {term value : String}

/-- The pattern of a term has the term as far as the database reads it. -/
theorem likeText_searchPattern (term : String) :
    likeText (searchPattern term) = '%' :: Text.asciiLower (Text.beforeNul term.toList) ++
      if '\x00' ∈ term.toList then [] else ['%'] := by
  have hpattern : (searchPattern term).toList = '%' :: (term.toList ++ ['%']) := by
    simp [searchPattern]
  -- the sign in front is read in any case, the one behind only if reading does not stop before
  have hread : Text.beforeNul ('%' :: (term.toList ++ ['%'])) =
      '%' :: Text.beforeNul (term.toList ++ ['%']) := rfl
  rw [likeText, hpattern]
  show Text.asciiLower (Text.beforeNul _) = _
  rw [hread, Text.beforeNul_append]
  split
  · simp [Text.asciiLower]
  · rename_i h
    rw [Text.beforeNul_eq_self h]
    simp [Text.asciiLower, Text.beforeNul]

/-! ## What memory finds -/

/-- What is no letter of ASCII is in every text of ASCII that has a term with it. -/
theorem Occurs.mem (h : Occurs term value) (hvalue : Text.Ascii value.toList) {d : Char}
    (hmem : d ∈ term.toList) (hd : Text.NoLetter d) (hascii : d.toNat < 128) :
    d ∈ value.toList := by
  -- it is its own small form, so it is among the small letters of the term
  have hlower := Text.toLower_mem_lower hmem hascii
  rw [(Text.toLower_eq_iff hd).2 rfl] at hlower
  have hfound := h.subset hlower
  rw [Text.lower_ascii hvalue] at hfound
  exact (Text.mem_asciiLower_iff hd).1 hfound

/-- Beyond ASCII, only the Kelvin sign is ever found in text of ASCII. -/
theorem Occurs.eq_kelvin (h : Occurs term value) (hvalue : Text.Ascii value.toList)
    {c : Char} (hc : c ∈ term.toList) (hbeyond : 128 ≤ c.toNat) : c = Text.kelvin := by
  by_contra hk
  -- any other would leave a character beyond ASCII in the small letters of the value
  obtain ⟨d, hd, hcode⟩ := Text.exists_mem_lower hc hbeyond hk
  have hfound := h.subset hd
  rw [Text.lower_ascii hvalue] at hfound
  have hascii := hvalue.asciiLower d hfound
  omega

/-! ## What the database finds -/

/-- What stands for itself in a pattern is in every text that is found. -/
theorem Matches.mem (h : Matches term value) {c : Char} (hc : c ∈ Text.beforeNul term.toList)
    (hrun : c ≠ '%') (hone : c ≠ '_') : c.toLower ∈ likeText value := by
  have hpattern : c.toLower ∈ likeText (searchPattern term) := by
    rw [likeText_searchPattern]
    exact List.mem_append_left _ (List.mem_cons_of_mem _ (List.mem_map_of_mem hc))
  refine Like.mem h hpattern ?_ ?_
  · rwa [Ne, Text.toLower_eq_iff (by decide)]
  · rwa [Ne, Text.toLower_eq_iff (by decide)]

/-- In text of ASCII only terms of ASCII are found, as far as they are read. -/
theorem Matches.ascii (h : Matches term value) (hvalue : Text.Ascii value.toList) :
    Text.Ascii (Text.beforeNul term.toList) := by
  intro c hc
  by_contra hbeyond
  have hbelow : ∀ d : Char, d.toNat < 128 → c ≠ d := fun d hd heq => hbeyond (heq ▸ hd)
  have hfound := h.mem hc (hbelow _ (by decide)) (hbelow _ (by decide))
  have hascii := hvalue.beforeNul.asciiLower _ hfound
  exact hbeyond (Text.toNat_toLower_lt_iff.1 hascii)

/-- A literal term is looked for as a part. -/
theorem matches_iff (h : Literal term.toList) :
    Matches term value ↔ Text.asciiLower term.toList <:+: likeText value := by
  obtain ⟨-, hnul, hrun, hone⟩ := h
  have hverbatim : Verbatim (Text.asciiLower term.toList) := by
    constructor
    · rwa [Text.mem_asciiLower_iff (by decide)]
    · rwa [Text.mem_asciiLower_iff (by decide)]
  rw [Matches, likeText_searchPattern, Text.beforeNul_eq_self hnul, if_neg hnul,
    like_part_iff hverbatim]

/-- A text that the pattern of a term is like. -/
def sampleText (term : String) : String := String.ofList (sample (likeText (searchPattern term)))

/-- Besides letters for single characters, a sample has what its pattern has. -/
theorem of_mem_sampleText {c : Char} (hc : c ∈ (sampleText term).toList) :
    c = 'x' ∨ c ∈ likeText (searchPattern term) ∧ c ≠ '%' ∧ c ≠ '_' := by
  rw [sampleText, String.toList_ofList] at hc
  exact of_mem_sample hc

/-- What the database compares has small letters and no code zero. -/
theorem of_mem_likeText {c : Char} {s : String} (hc : c ∈ likeText s) :
    c ≠ '\x00' ∧ c.toLower = c := by
  obtain ⟨d, hd, rfl⟩ := List.mem_map.1 hc
  have hnul := (Text.of_mem_beforeNul hd).2
  exact ⟨by rwa [Ne, Text.toLower_eq_iff (by decide)], Text.toLower_toLower d⟩

theorem likeText_sampleText (term : String) :
    likeText (sampleText term) = sample (likeText (searchPattern term)) := by
  have hsmall : ∀ c ∈ (sampleText term).toList, c ≠ '\x00' ∧ c.toLower = c := by
    intro c hc
    rcases of_mem_sampleText hc with rfl | ⟨hmem, -⟩
    · decide
    · exact of_mem_likeText hmem
  have hread : Text.beforeNul (sampleText term).toList = (sampleText term).toList :=
    Text.beforeNul_eq_self fun hnul => (hsmall _ hnul).1 rfl
  have hlower : Text.asciiLower (sampleText term).toList = (sampleText term).toList :=
    (List.map_congr_left fun c hc => (hsmall c hc).2).trans (List.map_id' _)
  show Text.asciiLower (Text.beforeNul _) = _
  rw [hread, hlower, sampleText, String.toList_ofList]

/-- The sample of a term's pattern is found. -/
theorem matches_sampleText (term : String) : Matches term (sampleText term) := by
  rw [Matches, likeText_sampleText]
  exact like_sample _

/-- The signs that mean something else in a pattern, and the code zero, are in no such text. -/
theorem not_mem_sampleText (term : String) {c : Char} (hc : c ∈ ['%', '_', '\x00']) :
    c ∉ (sampleText term).toList := by
  intro hmem
  rcases of_mem_sampleText hmem with rfl | ⟨hlike, hrun, hone⟩
  · exact absurd hc (by decide)
  · have hnul := (of_mem_likeText hlike).1
    simp [hrun, hone, hnul] at hc

theorem ascii_sampleText (h : Text.Ascii (Text.beforeNul term.toList)) :
    Text.Ascii (sampleText term).toList := by
  intro c hc
  rcases of_mem_sampleText hc with rfl | ⟨hlike, hrun, -⟩
  · decide
  · rw [likeText_searchPattern, List.mem_append, List.mem_cons] at hlike
    rcases hlike with (hrun' | hterm) | hend
    · exact absurd hrun' hrun
    · exact h.asciiLower c hterm
    · split at hend
      · cases hend
      · exact absurd (List.mem_singleton.1 hend) hrun

/-! ## Where both sides find alike -/

/-- Memory finds a literal term wherever the database does, but may also find it behind a character
with the code zero. -/
theorem Literal.matches_iff_occurs_iff (h : Literal term.toList)
    (hvalue : Text.Ascii value.toList) :
    (Matches term value ↔ Occurs term value) ↔
      (Occurs term value → Occurs term (String.ofList (Text.beforeNul value.toList))) := by
  -- the database looks for the part in what it reads of the value
  have hmatches :
      Matches term value ↔ Occurs term (String.ofList (Text.beforeNul value.toList)) := by
    rw [matches_iff h, Occurs, String.toList_ofList, Text.lower_ascii h.1,
      Text.lower_ascii hvalue.beforeNul]
    rfl
  -- what it finds there memory finds in the whole
  have hoccurs : Matches term value → Occurs term value := by
    intro hfound
    have hprefix : likeText value <+: Text.asciiLower value.toList :=
      (List.takeWhile_prefix _).map Char.toLower
    rw [Occurs, Text.lower_ascii h.1, Text.lower_ascii hvalue]
    exact ((matches_iff h).1 hfound).trans hprefix.isInfix
  rw [← hmatches]
  exact ⟨Iff.mpr, fun hback => ⟨hoccurs, hback⟩⟩

/-- Neither side finds an unfindable term. -/
theorem Unfindable.not_found (h : Unfindable term.toList)
    (hvalue : Text.Ascii value.toList) (hnul : '\x00' ∉ value.toList) :
    ¬ Matches term value ∧ ¬ Occurs term value := by
  obtain ⟨⟨c, hc, hbad⟩, d, hd, hbeyond⟩ := h
  constructor
  · intro hfound
    have hascii := hfound.ascii hvalue d hd
    omega
  · intro hfound
    rcases hbad with rfl | ⟨hcode, hk⟩
    · exact hnul (hfound.mem hvalue hc (by decide) (by decide))
    · exact hk (hfound.eq_kelvin hvalue hc hcode)

/-- The sides find a term differently in some text of ASCII without the code zero. -/
def FoundDifferently (term : String) : Prop :=
  ∃ value : String, Text.Ascii value.toList ∧ '\x00' ∉ value.toList ∧
    ¬ (Matches term value ↔ Occurs term value)

/-- Only the database finds a term with a sign in the sample of its pattern, which has no sign. -/
theorem foundDifferently_of_sign (h : Text.Ascii (Text.beforeNul term.toList)) {d : Char}
    (hd : d ∈ ['%', '_', '\x00']) (hmem : d ∈ term.toList) : FoundDifferently term := by
  have hsign : Text.NoLetter d ∧ d.toNat < 128 := by
    simp only [List.mem_cons, List.not_mem_nil, or_false] at hd
    rcases hd with rfl | rfl | rfl <;> decide
  have hascii := ascii_sampleText h
  refine ⟨sampleText term, hascii, not_mem_sampleText term (by simp), ?_⟩
  intro hiff
  have hoccurs := hiff.1 (matches_sampleText term)
  exact not_mem_sampleText term hd (hoccurs.mem hascii hmem hsign.1 hsign.2)

/-- Only memory finds a term with a Kelvin sign where it is written with `k`. -/
theorem foundDifferently_of_kelvin
    (h : ∀ c ∈ term.toList, c ≠ '\x00' ∧ (c.toNat < 128 ∨ c = Text.kelvin))
    (hk : Text.kelvin ∈ term.toList) : FoundDifferently term := by
  have hwritten : ∀ c ∈ term.toList.map Text.writtenAscii, c.toNat < 128 ∧ c ≠ '\x00' := by
    intro c hc
    obtain ⟨d, hd, rfl⟩ := List.mem_map.1 hc
    rcases h d hd with ⟨hnul, hascii | rfl⟩
    · rw [Text.writtenAscii_ascii hascii]
      exact ⟨hascii, hnul⟩
    · decide
  obtain ⟨value, hvalue⟩ : ∃ value : String, value.toList = term.toList.map Text.writtenAscii :=
    ⟨_, String.toList_ofList⟩
  rw [← hvalue] at hwritten
  have hascii : Text.Ascii value.toList := fun c hc => (hwritten c hc).1
  have hoccurs : Occurs term value := by
    rw [Occurs, Text.lower_writtenAscii fun c hc => (h c hc).2, Text.lower_ascii hascii, hvalue]
  -- the pattern keeps the sign, which is beyond ASCII
  have hmatches : ¬ Matches term value := by
    intro hfound
    have hnul : '\x00' ∉ term.toList := fun hmem => (h _ hmem).1 rfl
    have hterm := hfound.ascii hascii
    rw [Text.beforeNul_eq_self hnul] at hterm
    exact absurd (hterm _ hk) (by decide)
  exact ⟨value, hascii, fun hc => (hwritten _ hc).2 rfl, fun hiff => hmatches (hiff.2 hoccurs)⟩

/-- Terms that are neither literal nor unfindable are found differently. -/
theorem foundDifferently_of_not (hliteral : ¬ Literal term.toList)
    (hunfindable : ¬ Unfindable term.toList) : FoundDifferently term := by
  by_cases hbad : ∃ c ∈ term.toList, c = '\x00' ∨ 128 ≤ c.toNat ∧ c ≠ Text.kelvin
  · -- memory never finds the term, but what the database reads of it is text of ASCII
    have hread : Text.Ascii (Text.beforeNul term.toList) := by
      intro c hc
      by_contra hbeyond
      exact hunfindable ⟨hbad, c, hc, by omega⟩
    have hnul : '\x00' ∈ term.toList := by
      by_contra hnul
      rw [Text.beforeNul_eq_self hnul] at hread
      obtain ⟨c, hc, rfl | ⟨hbeyond, -⟩⟩ := hbad
      · exact hnul hc
      · have hascii := hread c hc
        omega
    exact foundDifferently_of_sign hread (by simp) hnul
  · have hnice : ∀ c ∈ term.toList, c ≠ '\x00' ∧ (c.toNat < 128 ∨ c = Text.kelvin) := by
      intro c hc
      refine ⟨fun hnul => hbad ⟨c, hc, .inl hnul⟩, ?_⟩
      by_contra hneither
      rw [not_or] at hneither
      exact hbad ⟨c, hc, .inr ⟨by omega, hneither.2⟩⟩
    by_cases hk : Text.kelvin ∈ term.toList
    · exact foundDifferently_of_kelvin hnice hk
    · -- the term is text of ASCII, so only a sign keeps it from being literal
      have hascii : Text.Ascii term.toList := fun c hc =>
        (hnice c hc).2.resolve_right (ne_of_mem_of_not_mem hc hk)
      have hnul : '\x00' ∉ term.toList := fun hmem => (hnice _ hmem).1 rfl
      by_cases hrun : '%' ∈ term.toList
      · exact foundDifferently_of_sign hascii.beforeNul (by simp) hrun
      · by_cases hone : '_' ∈ term.toList
        · exact foundDifferently_of_sign hascii.beforeNul (by simp) hone
        · exact absurd ⟨hascii, hnul, hrun, hone⟩ hliteral

/-! ## Rows and items -/

variable {s : Schema} {column : String} {c : Column} {item : Value} {row : Row}

/-- A search of a column becomes a pattern. -/
theorem leafTest_contains (hc : s.find? column = some c) (term : String) :
    leafTest s registry Comparator.contains.symbol (some (.text column)) (.text term) =
      .ok (.like c false (searchPattern term)) := by
  show s.column column >>= _ = _
  rw [Schema.column_eq_ok hc]
  rfl

/-- Both sides select a row alike if the pattern is as true of the row as the search is of the
item. -/
theorem Schema.selectsAlike_contains_iff (hc : s.find? column = some c) {truth : Truth}
    (htruth : Condition.leafTruth Memory.registry item .contains (some (.text column))
      (.text term) = .ok truth) :
    s.SelectsAlike (.leaf .contains column (.text term)) item row ↔
      (Test.like c false (searchPattern term)).truth row = truth :=
  selectsAlike_leaf_iff (by decide) (leafTest_contains hc term) rfl htruth row

/-- Without a value, neither side finds anything, nor finds that there is nothing. -/
theorem Schema.selectsAlike_contains_null (hc : s.find? column = some c)
    (h : c.Shares .null item row) (term : String) :
    s.SelectsAlike (.leaf .contains column (.text term)) item row := by
  have hfield : item.field column = .null := (Schema.of_find? hc).2 ▸ h.field
  refine (selectsAlike_contains_iff hc (leafTruth_field hfield _ _)).2 ?_
  rw [Test.truth, h.cell]
  rfl

/-- Both sides select a row with a text alike if they find the term alike in the text. -/
theorem Schema.selectsAlike_contains_text_iff (hc : s.find? column = some c)
    (h : c.Shares (.text value) item row) :
    s.SelectsAlike (.leaf .contains column (.text term)) item row ↔
      (Matches term value ↔ Occurs term value) := by
  have hfield : item.field column = .text value := (Schema.of_find? hc).2 ▸ h.field
  have hinjective : ∀ a b : Bool, Truth.ofBool a = Truth.ofBool b ↔ a = b := by decide
  refine (selectsAlike_contains_iff hc (leafTruth_field hfield _ _)).trans ?_
  rw [Test.truth, h.cell]
  show Truth.ofBool (isLike (likeText (searchPattern term)) (likeText value)) =
    Truth.ofBool (Text.occursIn (Text.lower term.toList) (Text.lower value.toList)) ↔ _
  -- both sides are definite, so their truths are the same when they find the same
  rw [hinjective, Bool.eq_iff_iff, isLike_iff, Text.occursIn_iff]
  rfl

/-- A value of a column of ASCII text: nothing, or a text of ASCII without the character with the
code zero. -/
inductive HoldsAscii : Value → Prop
  | null : HoldsAscii .null
  | text {value : String} (hascii : Text.Ascii value.toList)
      (hnul : '\x00' ∉ value.toList) : HoldsAscii (.text value)

/-- A search selects rows of ASCII text alike in memory and in the database, alone and negated, just
when its term is literal or unfindable.  A literal term also selects a text with a character of
code zero alike, unless it is only found behind that character. -/
theorem Schema.search_alike_iff (hs : s.Flat) (hc : s.find? column = some c) (term : String) :
    ((∀ v item row, HoldsAscii v → c.Shares v item row →
        s.SelectsAlike (.leaf .contains column (.text term)) item row) ↔
      Literal term.toList ∨ Unfindable term.toList) ∧
    (Literal term.toList → ∀ value item row, Text.Ascii value.toList →
      c.Shares (.text value) item row →
      (s.SelectsAlike (.leaf .contains column (.text term)) item row ↔
        (Occurs term value → Occurs term (String.ofList (Text.beforeNul value.toList))))) := by
  constructor
  · constructor
    · intro halike
      by_contra hneither
      rw [not_or] at hneither
      obtain ⟨value, hascii, hnul, hdiffer⟩ := foundDifferently_of_not hneither.1 hneither.2
      obtain ⟨item, row, hshares⟩ :=
        Column.exists_shares (hs c (Schema.of_find? hc).1) (.text value)
      have hselects := halike _ item row (.text hascii hnul) hshares
      exact hdiffer ((selectsAlike_contains_text_iff hc hshares).1 hselects)
    · intro hterm v item row hv hshares
      cases hv with
      | null => exact selectsAlike_contains_null hc hshares term
      | text hascii hnul =>
        refine (selectsAlike_contains_text_iff hc hshares).2 ?_
        rcases hterm with hliteral | hunfindable
        · refine (hliteral.matches_iff_occurs_iff hascii).2 fun hoccurs => ?_
          rwa [Text.beforeNul_eq_self hnul, String.ofList_toList]
        · have hnot := hunfindable.not_found hascii hnul
          exact iff_of_false hnot.1 hnot.2
  · intro hliteral value item row hascii hshares
    rw [selectsAlike_contains_text_iff hc hshares, hliteral.matches_iff_occurs_iff hascii]

def guestSchema : Schema := ⟨"Guest", "guests", [⟨"id", some .int⟩, ⟨"name", some .text⟩]⟩

/-- A name with a hyphen is looked for alike in all names of ASCII. -/
theorem search_alike_guests :
    guestSchema.Flat ∧ guestSchema.find? "name" = some ⟨"name", some .text⟩ ∧
      ∀ v item row, HoldsAscii v → Column.Shares ⟨"name", some .text⟩ v item row →
        guestSchema.SelectsAlike (.leaf .contains "name" (.text "Mary-Lou")) item row := by
  have hflat : guestSchema.Flat := by
    unfold Schema.Flat
    decide
  have hliteral : Literal "Mary-Lou".toList := by decide
  exact ⟨hflat, rfl, (Schema.search_alike_iff hflat rfl "Mary-Lou").1.2 (.inl hliteral)⟩

/-- A term with `_` selects a name without it in the database only. -/
theorem guest_found_by_pattern :
    guestSchema.selects (.leaf .contains "name" (.text "a_b")) [("name", .text "acb")] = .ok true ∧
      (Condition.leaf .contains "name" (.text "a_b")).holds Memory.registry
        (.record [("name", .text "acb")]) = .ok false := by
  have hc : guestSchema.find? "name" = some ⟨"name", some .text⟩ := rfl
  have hselects := Schema.selects_leaf (by decide) (leafTest_contains hc "a_b") rfl
    [("name", .text "acb")]
  exact ⟨hselects.1.trans rfl, rfl⟩

end Sql

end Listing
