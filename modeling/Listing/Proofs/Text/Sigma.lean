import Listing.Text.Lower
import Mathlib.Data.List.TakeWhile

/-!
# Small letters of a part of a text

Small letters are looked up one by one, but for capital sigmas: whether one takes its final form
is seen from what stands around it.  So a part is written small in a text as it is by itself, unless
one of its sigmas is torn there (`lowerPart_eq_lower_iff`).  Only a sigma at an open end of the part
can be torn (`OpenEnded.of_torn`), and some text does tear it, so that the small letters of the part
are nowhere in those of this text (`OpenEnded.exists_not_isInfix`).
-/

namespace Listing.Text

variable {before after before' after' part left right cs ds : List Char}

/-! ## The neighbours of a letter -/

/-- A text of characters that are skipped when the neighbours of a letter are looked at. -/
def Skipped (cs : List Char) : Prop := ∀ c ∈ cs, inRanges caseIgnorableRanges c = true

instance (cs : List Char) : Decidable (Skipped cs) := List.decidableBAll _ cs

theorem Skipped.reverse (h : Skipped cs) : Skipped cs.reverse :=
  fun c hc => h c (List.mem_reverse.1 hc)

theorem skipped_reverse : Skipped cs.reverse ↔ Skipped cs :=
  ⟨fun h => List.reverse_reverse cs ▸ h.reverse, Skipped.reverse⟩

/-- Where everything is skipped, no letter is found. -/
theorem Skipped.startsCased_eq (h : Skipped cs) : startsCased cs = false := by
  have hall : cs.dropWhile (inRanges caseIgnorableRanges) = [] := List.dropWhile_eq_nil_iff.2 h
  rw [startsCased, hall]

/-- What is skipped does not hide what comes behind it. -/
theorem Skipped.startsCased_append (h : Skipped cs) :
    startsCased (cs ++ ds) = startsCased ds := by
  have hall : cs.dropWhile (inRanges caseIgnorableRanges) = [] := List.dropWhile_eq_nil_iff.2 h
  rw [startsCased, List.dropWhile_append, hall]
  rfl

/-- What is not skipped hides what comes behind it. -/
theorem startsCased_append_of_not_skipped (h : ¬Skipped cs) :
    startsCased (cs ++ ds) = startsCased cs := by
  unfold startsCased
  rw [List.dropWhile_append]
  cases hrest : cs.dropWhile (inRanges caseIgnorableRanges) with
  | nil => exact absurd (List.dropWhile_eq_nil_iff.1 hrest) h
  | cons c rest => rfl

theorem startsCased_append_of_startsCased (h : startsCased cs = true) :
    startsCased (cs ++ ds) = true := by
  -- a letter that is found is not skipped
  have hnot : ¬Skipped cs := by
    intro hskipped
    rw [hskipped.startsCased_eq] at h
    cases h
  rw [startsCased_append_of_not_skipped hnot, h]

/-- A letter with case stands before a place of a text and none behind it. -/
def endsWord (before after : List Char) : Bool := startsCased before.reverse && !startsCased after

/-- The small form of a sigma that ends a word or does not. -/
def smallSigma (final : Bool) : Char := if final then 'ς' else 'σ'

theorem smallSigma_inj {a b : Bool} : smallSigma a = smallSigma b ↔ a = b := by
  cases a <;> cases b <;> decide

/-- A capital sigma becomes the form that its neighbours ask for. -/
theorem lowerBetween_sigma (before after : List Char) :
    lowerBetween before.reverse 'Σ' after = [smallSigma (endsWord before after)] := rfl

/-- The neighbours of a character make a difference to a capital sigma only. -/
theorem lowerBetween_of_ne {c : Char} (hc : c ≠ 'Σ') (before after before' after' : List Char) :
    lowerBetween before c after = lowerBetween before' c after' := by
  have hsigma : (c == 'Σ') = false := beq_false_of_ne hc
  rw [lowerBetween, lowerBetween, hsigma]
  rfl

/-! ## Parts -/

/-- The small form of a part between the text before it and the text after it. -/
def lowerPart (before : List Char) : List Char → List Char → List Char
  | [], _ => []
  | c :: rest, after =>
    lowerBetween before.reverse c (rest ++ after) ++ lowerPart (before ++ [c]) rest after

/-- The small form of a text is that of a part, then that of the rest. -/
theorem lowerFrom_append (before part after : List Char) :
    lowerFrom before.reverse (part ++ after) =
      lowerPart before part after ++ lowerFrom (before ++ part).reverse after := by
  induction part generalizing before with
  | nil => rw [List.append_nil]; rfl
  | cons c rest ih =>
    have hbefore : c :: before.reverse = (before ++ [c]).reverse := by simp
    rw [List.cons_append, lowerFrom, hbefore, ih, lowerPart, List.append_assoc, List.append_assoc]
    rfl

/-- A text is a part with nothing around it. -/
theorem lowerPart_nil (cs : List Char) : lowerPart [] cs [] = lower cs := by
  have hwhole := lowerFrom_append [] cs []
  rw [List.append_nil] at hwhole
  rw [lower]
  exact (hwhole.trans (List.append_nil _)).symm

/-- A text written small has the small form of each of its parts. -/
theorem lower_append (before part after : List Char) :
    lower (before ++ part ++ after) =
      lowerPart [] before (part ++ after) ++ lowerPart before part after ++
        lowerFrom (before ++ part).reverse after := by
  rw [lower, List.append_assoc]
  show lowerFrom [].reverse (before ++ (part ++ after)) = _
  rw [lowerFrom_append, List.nil_append, lowerFrom_append, List.append_assoc]

/-- What holds at each capital sigma of a text holds at the first character, if it is one, and at
each behind it. -/
theorem forall_sigma_cons {c : Char} {rest : List Char} {P : List Char → List Char → Prop} :
    (∀ left right, c :: rest = left ++ 'Σ' :: right → P left right) ↔
      (c = 'Σ' → P [] rest) ∧
        ∀ left right, rest = left ++ 'Σ' :: right → P (c :: left) right := by
  constructor
  · intro h
    refine ⟨?_, ?_⟩
    · rintro rfl
      exact h [] rest rfl
    · rintro left right rfl
      exact h (c :: left) right rfl
  · rintro ⟨hfirst, hrest⟩ left right heq
    -- the sigma is the first character or stands in the rest
    cases left with
    | nil =>
      obtain ⟨rfl, rfl⟩ := List.cons.inj heq
      exact hfirst rfl
    | cons d left =>
      obtain ⟨rfl, htail⟩ := List.cons.inj heq
      exact hrest left right htail

/-- A part is written alike in two places just when each of its capital sigmas is. -/
theorem lowerPart_eq_iff :
    lowerPart before part after = lowerPart before' part after' ↔
      ∀ left right, part = left ++ 'Σ' :: right →
        endsWord (before ++ left) (right ++ after) =
          endsWord (before' ++ left) (right ++ after') := by
  -- what has been passed stands before the rest, so both texts before the part are general
  induction part generalizing before before' with
  | nil => simp [lowerPart]
  | cons c rest ih =>
    have hrest := @ih (before ++ [c]) (before' ++ [c])
    simp only [List.append_assoc, List.singleton_append] at hrest
    rw [forall_sigma_cons, ← hrest, lowerPart, lowerPart]
    by_cases hc : c = 'Σ'
    · subst hc
      simp [lowerBetween_sigma, smallSigma_inj]
    · rw [lowerBetween_of_ne hc before.reverse _ before'.reverse (rest ++ after'),
        List.append_cancel_left_eq]
      simp [hc]

/-- If sigmas that take a form in one place also do in another, there are at least as many of this
form in the other, and as many only if the part is written alike. -/
theorem count_lowerPart_le (final : Bool)
    (h : ∀ left right, part = left ++ 'Σ' :: right →
      endsWord (before ++ left) (right ++ after) = final →
        endsWord (before' ++ left) (right ++ after') = final) :
    (lowerPart before part after).count (smallSigma final) ≤
        (lowerPart before' part after').count (smallSigma final) ∧
      ((lowerPart before part after).count (smallSigma final) =
          (lowerPart before' part after').count (smallSigma final) →
        lowerPart before part after = lowerPart before' part after') := by
  induction part generalizing before before' with
  | nil => exact ⟨le_refl _, fun _ => rfl⟩
  | cons c rest ih =>
    rw [forall_sigma_cons] at h
    obtain ⟨hle, heq⟩ := @ih (before ++ [c]) (before' ++ [c]) (by simpa using h.2)
    rw [lowerPart, lowerPart, List.count_append, List.count_append]
    by_cases hc : c = 'Σ'
    · subst hc
      have hfirst := h.1 rfl
      rw [List.append_nil, List.append_nil] at hfirst
      rw [lowerBetween_sigma, lowerBetween_sigma]
      -- the first sigma takes the form in both places, in the other one only, or in neither
      by_cases hthere : endsWord before' (rest ++ after') = final
      · by_cases hhere : endsWord before (rest ++ after) = final
        · rw [hthere, hhere]
          exact ⟨by omega, fun hcount => by rw [heq (by omega)]⟩
        · -- it counts in the other place only, so there the number is larger
          have hno : [smallSigma (endsWord before (rest ++ after))].count (smallSigma final) = 0 :=
            List.count_eq_zero.2 (by simpa [smallSigma_inj, eq_comm] using hhere)
          rw [hthere, hno, List.count_singleton_self]
          exact ⟨by omega, fun hcount => by omega⟩
      · have hhere : endsWord before (rest ++ after) = endsWord before' (rest ++ after') := by
          have hother : endsWord before (rest ++ after) ≠ final := fun hf => hthere (hfirst hf)
          rw [Bool.eq_not.2 hother, Bool.eq_not.2 hthere]
        rw [hhere]
        exact ⟨by omega, fun hcount => by rw [heq (by omega)]⟩
    · rw [lowerBetween_of_ne hc before.reverse _ before'.reverse (rest ++ after')]
      exact ⟨by omega, fun hcount => by rw [heq (by omega)]⟩

/-! ## Torn sigmas -/

/-- A capital sigma of a part takes another form in a text than it has in the part alone. -/
def Torn (before part after : List Char) : Prop :=
  ∃ left right, part = left ++ 'Σ' :: right ∧
    endsWord (before ++ left) (right ++ after) ≠ endsWord left right

/-- A part has a capital sigma whose form hangs on what stands around the part: none of its letters
stands before the sigma, and none right behind it, or it ends the last word of the part. -/
def OpenEnded (part : List Char) : Prop :=
  ∃ left right, part = left ++ 'Σ' :: right ∧
    (Skipped left ∧ startsCased right = false ∨ startsCased left.reverse = true ∧ Skipped right)

/-- A part stands in a text, at a place where none of its sigmas is torn. -/
def StandsWhole (part text : List Char) : Prop :=
  ∃ before after, text = before ++ part ++ after ∧ ¬Torn before part after

/-- A part is written in a text as it is by itself just when no sigma is torn. -/
theorem lowerPart_eq_lower_iff :
    lowerPart before part after = lower part ↔ ¬Torn before part after := by
  rw [← lowerPart_nil, lowerPart_eq_iff, Torn]
  simp

/-- The small letters of a part that stands whole are found. -/
theorem StandsWhole.isInfix_lower {text : List Char} (h : StandsWhole part text) :
    lower part <:+: lower text := by
  rcases h with ⟨before, after, rfl, hwhole⟩
  rw [lower_append, lowerPart_eq_lower_iff.2 hwhole]
  exact List.infix_append _ _ _

/-- A sigma is torn at an open end only. -/
theorem OpenEnded.of_torn (h : Torn before part after) : OpenEnded part := by
  rcases h with ⟨left, right, hpart, hforms⟩
  refine ⟨left, right, hpart, ?_⟩
  have hbehind : startsCased right = true → startsCased (right ++ after) = true :=
    startsCased_append_of_startsCased
  unfold endsWord at hforms
  rw [List.reverse_append] at hforms
  by_cases hleft : Skipped left
  · -- the sigma has no letter before it in the part
    rw [hleft.reverse.startsCased_eq, Bool.false_and, Ne, Bool.not_eq_false,
      Bool.and_eq_true] at hforms
    have hright : startsCased right = false := by
      cases hcased : startsCased right with
      | false => rfl
      | true => simp [hbehind hcased] at hforms
    exact Or.inl ⟨hleft, hright⟩
  · -- it has the same neighbour before it in both
    rw [startsCased_append_of_not_skipped (mt skipped_reverse.1 hleft)] at hforms
    have hcased : startsCased left.reverse = true := by
      by_contra hno
      rw [Bool.not_eq_true] at hno
      simp [hno] at hforms
    have hright : Skipped right := by
      by_contra hno
      rw [startsCased_append_of_not_skipped hno] at hforms
      exact hforms rfl
    exact Or.inr ⟨hcased, hright⟩

/-- A part without open ends stands whole wherever it stands. -/
theorem standsWhole_of_isInfix {text : List Char} (hclosed : ¬OpenEnded part) (h : part <:+: text) :
    StandsWhole part text := by
  rcases h with ⟨before, after, rfl⟩
  exact ⟨before, after, rfl, fun htorn => hclosed (.of_torn htorn)⟩

/-- Where a place only takes a form of sigma away from a part, and the rest of the text has none of
this form, the small letters of the part are not found. -/
theorem not_isInfix_lower (final : Bool) (htorn : Torn before part after)
    (hforms : ∀ left right, part = left ++ 'Σ' :: right →
      endsWord (before ++ left) (right ++ after) = final → endsWord left right = final)
    (hbefore : smallSigma final ∉ lowerPart [] before (part ++ after))
    (hafter : smallSigma final ∉ lowerFrom (before ++ part).reverse after) :
    ¬lower part <:+: lower (before ++ part ++ after) := by
  intro hfound
  have halone : ∀ left right, part = left ++ 'Σ' :: right →
      endsWord (before ++ left) (right ++ after) = final →
        endsWord ([] ++ left) (right ++ []) = final := by simpa using hforms
  obtain ⟨hle, heq⟩ := count_lowerPart_le final halone
  rw [lowerPart_nil] at hle heq
  -- all sigmas of the form stand within the part, which has no more of them there than alone
  have hcount := hfound.sublist.count_le (smallSigma final)
  rw [lower_append, List.count_append, List.count_append, List.count_eq_zero.2 hbefore,
    List.count_eq_zero.2 hafter] at hcount
  exact lowerPart_eq_lower_iff.1 (heq (by omega)) htorn

/-- A letter before or behind a part with an open end makes a text that has the part but not its
small letters. -/
theorem OpenEnded.exists_not_isInfix (h : OpenEnded part) :
    ∃ text, part <:+: text ∧ ¬lower part <:+: lower text := by
  have hletter : startsCased ['a'] = true := by decide +kernel
  have hsmall : ∀ before after, lowerBetween before 'a' after = ['a'] := by
    intro before after
    rw [lowerBetween_of_ne (by decide) before after [] []]
    decide +kernel
  have hnone : ∀ final, smallSigma final ∉ ['a'] := by decide
  rcases h with ⟨left, right, rfl, ⟨hleft, hright⟩ | ⟨hleft, hright⟩⟩
  · -- the sigma comes to stand behind the letter
    refine ⟨['a'] ++ (left ++ 'Σ' :: right) ++ [], ⟨_, _, rfl⟩,
      not_isInfix_lower false ?_ ?_ ?_ ?_⟩
    · refine ⟨left, right, rfl, ?_⟩
      simp [endsWord, hleft.reverse.startsCased_append, hleft.reverse.startsCased_eq, hright,
        hletter]
    · intro left' right' _ hform
      by_contra hcased
      rw [Bool.not_eq_false, endsWord, Bool.and_eq_true] at hcased
      simp [endsWord, startsCased_append_of_startsCased hcased.1] at hform
      simp [hform] at hcased
    · rw [lowerPart, hsmall]
      exact hnone false
    · exact List.not_mem_nil
  · -- the sigma no longer ends the word
    refine ⟨[] ++ (left ++ 'Σ' :: right) ++ ['a'], ⟨_, _, rfl⟩,
      not_isInfix_lower true ?_ ?_ ?_ ?_⟩
    · refine ⟨left, right, rfl, ?_⟩
      simp [endsWord, hright.startsCased_append, hright.startsCased_eq, hleft, hletter]
    · intro left' right' _ hform
      rw [endsWord, Bool.and_eq_true, Bool.not_eq_true'] at hform ⊢
      refine ⟨hform.1, ?_⟩
      by_contra hcased
      rw [Bool.not_eq_false] at hcased
      simp [startsCased_append_of_startsCased hcased] at hform
    · exact List.not_mem_nil
    · rw [lowerFrom, hsmall]
      exact hnone true

end Listing.Text
