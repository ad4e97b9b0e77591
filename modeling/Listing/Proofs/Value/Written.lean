import Listing.Proofs.Number.Characters
import Listing.Proofs.Text.Delimited
import Listing.Value.Written

/-!
# Written forms are delimited

Every written form of a value ends where its own brackets and quotes do, whatever stands behind it
(`isDelimited_written`): names and numbers have no brackets, and what may hold some is quoted or written
within brackets.  So the forms of members can be told apart in the form of a list.
-/

namespace Listing

open Text Place

/-! ## Decimals between quotes -/

/-- No character of a number opens, closes or parts anything. -/
theorem mark_of_isDecimalMark {c : Char} (h : isDecimalMark c = true) : mark c = .plain := by
  -- none of the twelve characters with a meaning of their own is among those of decimals
  have hnot : ∀ d ∈ ['(', '[', '\x7b', '<', ')', ']', '\x7d', '>', ',', ':', apostrophe, '"'],
      ¬isDecimalMark d = true := List.any_eq_false.1 rfl
  have hne : ∀ ds ⊆ ['(', '[', '\x7b', '<', ')', ']', '\x7d', '>', ',', ':', apostrophe, '"'],
      c ∉ ds := fun ds hds hc => hnot c (hds hc) h
  rw [mark, if_neg (hne _ (by decide)), if_neg (hne _ (by decide)), if_neg (hne _ (by decide)),
    if_neg (hne _ (by decide))]

/-- A character of a decimal's text is quoted as it is. -/
theorem escapeIn_of_isDecimalMark {c : Char} (h : isDecimalMark c = true) :
    escapeIn apostrophe c = [c] := by
  have hne : ∀ d, isDecimalMark d = false → c ≠ d := by
    rintro d hd rfl
    rw [hd] at h
    cases h
  have hvisible : isVisible c = true := by
    have hcode := toNat_of_isDecimalMark h
    rw [isVisible, if_pos (Nat.lt_trans hcode.2 (by decide)), Bool.and_eq_true, decide_eq_true_eq,
      decide_eq_true_eq]
    exact hcode
  rw [escapeIn]
  simp only [hne apostrophe (by decide), hne '\\' (by decide), hne '\n' (by decide),
    hne '\r' (by decide), hne '\t' (by decide), hvisible, beq_iff_eq, Bool.or_eq_true, or_self,
    if_false, if_true]

/-- The text of a decimal is put between apostrophes and not changed. -/
theorem quoted_of_isDecimalMark {s : String} (h : ∀ c ∈ s.toList, isDecimalMark c = true) :
    quoted s = String.ofList (apostrophe :: s.toList ++ [apostrophe]) := by
  have hnot : apostrophe ∉ s.toList := by
    intro hmem
    cases (h _ hmem : isDecimalMark apostrophe = true)
  -- without an apostrophe in the text the apostrophe is the quote
  have hquote : quoteFor s.toList = apostrophe := by
    rw [quoteFor, if_neg]
    simp [hnot]
  have hplain : s.toList.flatMap (escapeIn apostrophe) = s.toList := by
    rw [List.flatMap_def, List.map_congr_left fun c hc => escapeIn_of_isDecimalMark (h c hc),
      ← List.flatMap_def, List.flatMap_singleton']
  rw [quoted, hquote, hplain]

/-- A decimal's text can be read off between the quotes. -/
theorem Decimal.quoted_toText_injective {d e : Decimal} (h : quoted d.toText = quoted e.toText) :
    d.toText = e.toText := by
  have hmarks : ∀ d : Decimal, ∀ c ∈ d.toText.toList, isDecimalMark c = true := by
    intro d
    rw [Decimal.toText, String.toList_ofList]
    exact d.isDecimalMark_digits
  rw [quoted_of_isDecimalMark (hmarks d), quoted_of_isDecimalMark (hmarks e), String.ofList_inj] at h
  exact String.toList_inj.1 (List.append_cancel_right (List.cons.inj h).2)

/-! ## Parts of written forms -/

theorem isDelimited_append {s t : String} (hs : IsDelimited s.toList) (ht : IsDelimited t.toList) :
    IsDelimited (s ++ t).toList := by
  rw [String.toList_append]
  exact hs.append ht

/-- Brackets around what ends nothing within them make a delimited text. -/
theorem isDelimited_enclosed {s t u : String} (h : IsInner t.toList)
    (hs : (outside 0).walk s.toList = some (outside 1))
    (hu : (outside 1).walk u.toList = some (outside 0)) : IsDelimited (s ++ t ++ u).toList := by
  rw [String.toList_append, String.toList_append]
  exact h.enclosed 0 hs hu

theorem isDelimited_intText (n : Int) : IsDelimited (intText n).toList := by
  rw [intText, String.toList_ofList]
  refine isDelimited_of_plain fun c hc => mark_of_isDecimalMark ?_
  rw [isDecimalMark, isNumberMark_intDigits n c hc, Bool.true_or]

theorem isInner_commaSeparated (ns : List Nat) : IsInner (commaSeparated ns).toList := by
  refine isInner_joinWith (List.forall_mem_map.2 fun n _ => ?_)
  exact (isDelimited_intText n).inner

theorem Date.isDelimited_written (d : Date) : IsDelimited d.written.toList :=
  isDelimited_enclosed (isInner_commaSeparated _) (by decide) (by decide)

/-- The offset of a clock is a duration with named parts, in brackets of its own. -/
theorem Moment.isInner_writtenOffset (offset : Int) : IsInner (writtenOffset offset).toList := by
  unfold writtenOffset
  split
  · decide
  · extract_lets day rest parts texts
    have hnames : ∀ p ∈ parts, IsDelimited p.1.toList := by
      simp only [parts, List.forall_mem_cons]
      decide
    have htexts : ∀ t ∈ texts, IsInner t.toList := by
      refine List.forall_mem_map.2 fun p hp => ?_
      have hname := hnames p ((List.mem_filter.1 hp).1)
      exact (isDelimited_append (isDelimited_append hname (by decide)) (isDelimited_intText p.2)).inner
    rw [String.toList_append, String.toList_append]
    -- the parts stand two brackets deeper
    exact (isInner_joinWith htexts).enclosed 2 (by decide) (by decide)

/-- A moment is a call with its numbers and its offset. -/
theorem Moment.isDelimited_written (m : Moment) : IsDelimited m.written.toList := by
  unfold written
  extract_lets small numbers zone
  have hzone : IsInner zone.toList := by
    unfold zone
    split
    · rw [String.toList_append]
      exact IsInner.append (by decide) (isInner_writtenOffset _)
    · decide
  rw [String.toList_append, String.toList_append, String.toList_append,
    List.append_assoc _ _ zone.toList]
  exact ((isInner_commaSeparated numbers).append hzone).enclosed 0 (by decide) (by decide)

namespace Value

theorem isDelimited_boolText (b : Bool) : IsDelimited (boolText b).toList := by
  cases b <;> decide

/-- An operator is written between angle brackets, with a colon inside them. -/
theorem isDelimited_symbol (o : Operator) : IsDelimited (symbol o).written.toList := by
  -- the colon stands within the angle brackets
  have hlabel : IsInner (o.shown ++ ": ").toList := by
    show IsInner ("FilterOperator." ++ o.label ++ ": ").toList
    rw [String.toList_append, String.toList_append]
    exact IsInner.append (IsInner.append (by decide) (by cases o <;> decide)) (by decide)
  have hinner := hlabel.append (isDelimited_quoted o.symbol).inner
  have henclosed : IsDelimited ("<".toList ++ _ ++ ">".toList) :=
    hinner.enclosed 0 (by decide) (by decide)
  simpa only [written, writtenScalar, String.toList_append, List.append_assoc] using henclosed

theorem isDelimited_toText (x : Binary64) : IsDelimited x.toText.toList := by
  rw [Binary64.toText, String.toList_ofList]
  refine isDelimited_of_plain fun c hc => mark_of_isDecimalMark ?_
  rw [isDecimalMark, x.isNumberMark_digits c hc, Bool.true_or]

/-- A tuple is written in brackets, with a comma behind a single member. -/
theorem isDelimited_inBrackets {parts : List String} (h : ∀ t ∈ parts, IsDelimited t.toList) :
    IsDelimited (inBrackets parts).toList := by
  have hinner : ∀ t ∈ parts, IsInner t.toList := fun t ht => (h t ht).inner
  unfold inBrackets
  split
  · exact isDelimited_enclosed (hinner _ List.mem_cons_self) (by decide) (by decide)
  · exact isDelimited_enclosed (isInner_joinWith hinner) (by decide) (by decide)

mutual

/-- The written form of a value is delimited. -/
theorem isDelimited_written : ∀ v : Value, IsDelimited v.written.toList
  | list xs => by
    have hinner := isInner_joinWith fun t ht => (isDelimited_writtenAll xs t ht).inner
    exact isDelimited_enclosed hinner (by decide) (by decide)
  | tuple xs => isDelimited_inBrackets (isDelimited_writtenAll xs)
  | map es => isDelimited_enclosed (isInner_joinWith (isInner_writtenEntries es)) (by decide) (by decide)
  | null => (by decide : IsDelimited "None".toList)
  | bool b => isDelimited_boolText b
  | int n => isDelimited_intText n
  | float x => isDelimited_toText x
  | decimal d => isDelimited_enclosed (isDelimited_quoted d.toText).inner (by decide) (by decide)
  | text s => isDelimited_quoted s
  | symbol o => isDelimited_symbol o
  | uuid u => isDelimited_enclosed (isDelimited_quoted u.toText).inner (by decide) (by decide)
  | date d => d.isDelimited_written
  | moment m => m.isDelimited_written
  | record _ => (by decide : IsDelimited "<item>".toList)

theorem isDelimited_writtenAll : ∀ xs : List Value, ∀ t ∈ writtenAll xs, IsDelimited t.toList
  | [] => List.forall_mem_nil _
  | x :: xs => List.forall_mem_cons.2 ⟨isDelimited_written x, isDelimited_writtenAll xs⟩

/-- The entries of a map have colons, which end nothing within its brackets. -/
theorem isInner_writtenEntries :
    ∀ es : List (Value × Value), ∀ t ∈ writtenEntries es, IsInner t.toList
  | [] => List.forall_mem_nil _
  | (k, v) :: es => by
    refine List.forall_mem_cons.2 ⟨?_, isInner_writtenEntries es⟩
    rw [String.toList_append, String.toList_append]
    exact ((isDelimited_written k).inner.append (by decide)).append (isDelimited_written v).inner

end

end Value

end Listing
