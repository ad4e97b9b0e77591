import Listing.Sql.Truth
import Mathlib.Data.List.Infix

/-!
# Patterns

`Like` says what the signs of a pattern stand for, one constructor for each; the search through the
rests of a text finds out whether a text is like a pattern (`isLike_iff`).  Between two signs for any
text, a text without signs is looked for as a part (`like_part_iff`).
-/

namespace Listing.Sql

/-- A text is like a pattern: `%` stands for any text and `_` for any character, every other sign
for itself. -/
inductive Like : List Char → List Char → Prop
  | nil : Like [] []
  | run {pattern rest : List Char} (before : List Char) (h : Like pattern rest) :
      Like ('%' :: pattern) (before ++ rest)
  | one {pattern rest : List Char} (c : Char) (h : Like pattern rest) :
      Like ('_' :: pattern) (c :: rest)
  | same {pattern rest : List Char} {c : Char} (hc : c ≠ '%') (h : Like pattern rest) :
      Like (c :: pattern) (c :: rest)

variable {pattern text : List Char}

/-! ## One sign -/

theorem like_nil_iff : Like [] text ↔ text = [] := by
  constructor
  · intro h
    cases h
    rfl
  · rintro rfl
    exact .nil

/-- A sign for any text may take any part in front. -/
theorem like_run_iff : Like ('%' :: pattern) text ↔ ∃ rest, rest <:+ text ∧ Like pattern rest := by
  constructor
  · intro h
    cases h with
    | run before h => exact ⟨_, List.suffix_append before _, h⟩
    | same hc => exact absurd rfl hc
  · rintro ⟨rest, ⟨before, rfl⟩, h⟩
    exact .run before h

/-- A sign other than `%` takes one character. -/
theorem like_cons_iff {sign : Char} (hs : sign ≠ '%') :
    Like (sign :: pattern) text ↔
      ∃ c rest, text = c :: rest ∧ (sign = '_' ∨ sign = c) ∧ Like pattern rest := by
  constructor
  · intro h
    cases h with
    | run => exact absurd rfl hs
    | one c h => exact ⟨c, _, rfl, .inl rfl, h⟩
    | same _ h => exact ⟨sign, _, rfl, .inr rfl, h⟩
  · rintro ⟨c, rest, rfl, rfl | rfl, h⟩
    · exact .one c h
    · exact .same hs h

/-! ## The search through the rests of a text -/

theorem suffixes_eq_tails (cs : List Char) : suffixes cs = cs.tails := by
  induction cs with
  | nil => rfl
  | cons c cs ih => rw [suffixes, ih, List.tails]

/-- The rests of a text from long to short, each an end of all before it. -/
def Descending (rests : List (List Char)) : Prop := rests.Pairwise fun a b => b <:+ a

/-- The rests of a text are in order, as each is an end of the one before. -/
theorem descending_suffixes (cs : List Char) : Descending (suffixes cs) := by
  induction cs with
  | nil => exact List.pairwise_singleton _ _
  | cons c cs ih =>
    refine List.pairwise_cons.2 ⟨fun rest hrest => ?_, ih⟩
    rw [suffixes_eq_tails, List.mem_tails] at hrest
    exact hrest.trans (List.suffix_cons c cs)

theorem restsAfter_run (longest : List Char) (rests : List (List Char)) :
    restsAfter (longest :: rests) '%' = suffixes longest := rfl

/-- Behind a sign other than `%` each rest has lost the character that the sign takes. -/
theorem mem_restsAfter_iff {rests : List (List Char)} {sign : Char} (hs : sign ≠ '%')
    {rest : List Char} :
    rest ∈ restsAfter rests sign ↔ ∃ c, c :: rest ∈ rests ∧ (sign = '_' ∨ sign = c) := by
  unfold restsAfter
  rw [if_neg (by simpa using hs), List.mem_filterMap]
  constructor
  · rintro ⟨whole, hwhole, htaken⟩
    cases whole with
    | nil => cases htaken
    | cons c rest =>
      obtain ⟨hsign, hrest⟩ := Option.ite_none_right_eq_some.1 htaken
      cases hrest
      exact ⟨c, hwhole, by simpa using hsign⟩
  · rintro ⟨c, hwhole, hsign⟩
    exact ⟨c :: rest, hwhole, if_pos (by simpa using hsign)⟩

/-- What is left behind a sign is descending again. -/
theorem Descending.restsAfter {rests : List (List Char)} (h : Descending rests) (sign : Char) :
    Descending (restsAfter rests sign) := by
  unfold Sql.restsAfter
  split
  · cases rests with
    | nil => exact List.Pairwise.nil
    | cons longest rests => exact descending_suffixes longest
  · refine List.Pairwise.filterMap _ ?_ h
    intro a b hab rest hrest rest' hrest'
    cases a with
    | nil => cases hrest
    | cons c a =>
      cases b with
      | nil => cases hrest'
      | cons d b =>
        obtain ⟨-, ha⟩ := Option.ite_none_right_eq_some.1 hrest
        obtain ⟨-, hb⟩ := Option.ite_none_right_eq_some.1 hrest'
        cases ha
        cases hb
        -- equal texts lose equal characters, and a shorter one is still an end of what is left
        rcases List.suffix_cons_iff.1 hab with heq | hsuffix
        · rw [List.cons.injEq] at heq
          rw [heq.2]
        · exact (List.suffix_cons _ _).trans hsuffix

/-- What is left of a text behind a sign is like the rest of a pattern just when the text is like
the pattern. -/
theorem exists_mem_restsAfter_iff {rests : List (List Char)} (h : Descending rests) (sign : Char) :
    (∃ rest ∈ restsAfter rests sign, Like pattern rest) ↔
      ∃ text ∈ rests, Like (sign :: pattern) text := by
  by_cases hs : sign = '%'
  · subst hs
    cases rests with
    | nil => simp [restsAfter]
    | cons longest rests =>
      simp only [restsAfter_run, suffixes_eq_tails, List.mem_tails, like_run_iff]
      constructor
      · rintro ⟨rest, hrest, hlike⟩
        exact ⟨longest, List.mem_cons_self, rest, hrest, hlike⟩
      · rintro ⟨text, htext, rest, hrest, hlike⟩
        -- every rest is an end of the longest one, so nothing is lost
        have hlongest : text <:+ longest := by
          rcases List.mem_cons.1 htext with rfl | hmem
          · exact List.suffix_refl _
          · exact (List.pairwise_cons.1 h).1 text hmem
        exact ⟨rest, hrest.trans hlongest, hlike⟩
  · simp only [mem_restsAfter_iff hs, like_cons_iff hs]
    constructor
    · rintro ⟨rest, ⟨c, hmem, hsign⟩, hlike⟩
      exact ⟨c :: rest, hmem, c, rest, rfl, hsign, hlike⟩
    · rintro ⟨text, hmem, c, rest, rfl, hsign, hlike⟩
      exact ⟨rest, ⟨c, hmem, hsign⟩, hlike⟩

/-- The search finds out whether one of some rests is like a pattern. -/
theorem foldl_restsAfter_iff {rests : List (List Char)} (h : Descending rests) :
    (pattern.foldl restsAfter rests).any List.isEmpty = true ↔
      ∃ rest ∈ rests, Like pattern rest := by
  -- sign by sign, with what may be left of the text
  induction pattern generalizing rests with
  | nil => simp [like_nil_iff]
  | cons sign pattern ih =>
    rw [List.foldl_cons, ih (h.restsAfter sign), exists_mem_restsAfter_iff h]

/-- The search finds out whether a text is like a pattern. -/
theorem isLike_iff : isLike pattern text = true ↔ Like pattern text := by
  rw [isLike, foldl_restsAfter_iff (List.pairwise_singleton _ _)]
  simp

/-! ## Patterns around a text -/

/-- A text without signs that mean something else. -/
def Verbatim (part : List Char) : Prop := '%' ∉ part ∧ '_' ∉ part

instance (part : List Char) : Decidable (Verbatim part) := inferInstanceAs (Decidable (_ ∧ _))

/-- What stands for itself at the start of a pattern stands at the start of the text. -/
theorem like_append_iff {part : List Char} (h : Verbatim part) :
    Like (part ++ pattern) text ↔ ∃ rest, text = part ++ rest ∧ Like pattern rest := by
  induction part generalizing text with
  | nil => simp
  | cons c part ih =>
    have hruns := List.ne_and_not_mem_of_not_mem_cons h.1
    have hones := List.ne_and_not_mem_of_not_mem_cons h.2
    have hpart : Verbatim part := ⟨hruns.2, hones.2⟩
    rw [List.cons_append, like_cons_iff hruns.1.symm]
    constructor
    · rintro ⟨d, rest, rfl, hc | rfl, hlike⟩
      · exact absurd hc.symm hones.1
      · obtain ⟨after, rfl, hafter⟩ := (ih hpart).1 hlike
        exact ⟨after, rfl, hafter⟩
    · rintro ⟨rest, rfl, hlike⟩
      exact ⟨c, part ++ rest, rfl, .inr rfl, (ih hpart).2 ⟨rest, rfl, hlike⟩⟩

/-- Between two signs for any text, a text that stands for itself is looked for as a part. -/
theorem like_part_iff {part : List Char} (h : Verbatim part) :
    Like ('%' :: part ++ ['%']) text ↔ part <:+: text := by
  have hany : ∀ rest, Like ['%'] rest := fun rest =>
    like_run_iff.2 ⟨[], List.nil_suffix, .nil⟩
  rw [List.cons_append, like_run_iff]
  simp only [like_append_iff h, hany, and_true]
  constructor
  · rintro ⟨_, ⟨before, rfl⟩, after, rfl⟩
    exact ⟨before, after, List.append_assoc _ _ _⟩
  · rintro ⟨before, after, rfl⟩
    exact ⟨part ++ after, ⟨before, (List.append_assoc _ _ _).symm⟩, after, rfl⟩

/-- A sign that stands for itself is in every text that is like the pattern. -/
theorem Like.mem (h : Like pattern text) {c : Char} (hc : c ∈ pattern) (hrun : c ≠ '%')
    (hone : c ≠ '_') : c ∈ text := by
  induction h with
  | nil => exact hc
  -- the sign stands in the rest of the pattern, as it is none of the two
  | run before _ ih =>
    exact List.mem_append_right before (ih ((List.mem_cons.1 hc).resolve_left hrun))
  | one d _ ih =>
    exact List.mem_cons_of_mem d (ih ((List.mem_cons.1 hc).resolve_left hone))
  | same _ _ ih =>
    rcases List.mem_cons.1 hc with rfl | hmem
    · exact List.mem_cons_self
    · exact List.mem_cons_of_mem _ (ih hmem)

/-- A text that is like a pattern: it has nothing for `%` and an `x` for `_`. -/
def sample : List Char → List Char
  | [] => []
  | c :: pattern =>
    if c = '%' then sample pattern
    else (if c = '_' then 'x' else c) :: sample pattern

theorem like_sample (pattern : List Char) : Like pattern (sample pattern) := by
  induction pattern with
  | nil => exact .nil
  | cons c pattern ih =>
    rw [sample]
    split
    · subst c
      exact .run [] ih
    · rename_i hrun
      split
      · subst c
        exact .one 'x' ih
      · exact .same hrun ih

/-- The sample of a pattern has signs of the pattern that stand for themselves, and `x`. -/
theorem of_mem_sample {c : Char} (hc : c ∈ sample pattern) :
    c = 'x' ∨ c ∈ pattern ∧ c ≠ '%' ∧ c ≠ '_' := by
  induction pattern with
  | nil => cases hc
  | cons d pattern ih =>
    have hrest : c ∈ sample pattern → c = 'x' ∨ c ∈ d :: pattern ∧ c ≠ '%' ∧ c ≠ '_' :=
      fun h => (ih h).imp_right (And.imp_left (List.mem_cons_of_mem d))
    rw [sample] at hc
    split at hc
    · exact hrest hc
    · rename_i hrun
      rcases List.mem_cons.1 hc with rfl | hmem
      · split
        · exact .inl rfl
        · rename_i hone
          exact .inr ⟨List.mem_cons_self, hrun, hone⟩
      · exact hrest hmem

end Listing.Sql
