import Mathlib.Data.Nat.Find
import Listing.Proofs.Filter.Lookup
import Listing.Proofs.Filter.Spelling

/-!
# The tokens of a text

A text is cut at its markers from left to right, and each search goes on behind the marker found
before (`Cut`).  Markers do not overlap, so wherever a marker stands in a text, it is one of those
that the text is cut at (`Cut.exists_part`).  Taking the markers out of a text as one piece therefore
takes them out where they were found, or takes out nothing if they do not stand together
(`Cut.valueWithout_pair`).  With that the tokens of a text are known exactly (`tokens_of_cut`).
-/

namespace Listing

namespace Text

variable {part gap rest : List Char}

/-- What is taken out of a text is taken out behind a part of it in which it does not start. -/
theorem eraseFirst_append_of_first
    (h : ∀ before after, gap ++ rest = before ++ (part ++ after) → gap.length ≤ before.length) :
    eraseFirst part (gap ++ rest) = gap ++ eraseFirst part rest := by
  induction gap with
  | nil => rfl
  | cons c gap ih =>
    -- at the start it would be found too early
    have hstart : ¬part.isPrefixOf (c :: (gap ++ rest)) = true := by
      intro hprefix
      rcases List.isPrefixOf_iff_prefix.1 hprefix with ⟨after, hafter⟩
      have hlength := h [] after hafter.symm
      simp at hlength
    rw [List.cons_append, eraseFirst, if_neg hstart, ih, List.cons_append]
    intro before after heq
    have hlength := h (c :: before) after (congrArg (List.cons c) heq)
    simpa using hlength

/-- A text in which a part does not occur is left as it is. -/
theorem eraseFirst_eq_self {cs : List Char} (h : ∀ before after, cs ≠ before ++ (part ++ after)) :
    eraseFirst part cs = cs := by
  have hfirst : eraseFirst part (cs ++ []) = cs ++ eraseFirst part [] := by
    apply eraseFirst_append_of_first
    intro before after heq
    rw [List.append_nil] at heq
    exact absurd heq (h before after)
  rwa [List.append_nil, eraseFirst, List.append_nil] at hfirst

/-- What stands in front of a sign and holds no such sign ends before it. -/
theorem exists_append_of_not_mem {sign : Char} {start after before later : List Char}
    (h : sign ∉ start) (heq : start ++ after = before ++ sign :: later) :
    ∃ between, before = start ++ between ∧ after = between ++ sign :: later := by
  induction start generalizing before with
  | nil => exact ⟨before, rfl, heq⟩
  | cons c start ih =>
    rw [List.mem_cons, not_or] at h
    rcases before with - | ⟨b, before⟩
    · rw [List.nil_append, List.cons_append, List.cons.injEq] at heq
      exact absurd heq.1.symm h.1
    · rw [List.cons_append, List.cons_append, List.cons.injEq] at heq
      rcases ih h.2 heq.2 with ⟨between, rfl, hafter⟩
      exact ⟨between, by rw [heq.1, List.cons_append], hafter⟩

end Text

namespace Statement

/-! ## Where markers stand -/

/-- A marker, given without its colon, stands in a text between two parts of it. -/
structure Stands (cs before m after : List Char) : Prop where
  isMarker : IsMarker (m ++ [':'])
  text : cs = before ++ (m ++ ':' :: after)

variable {cs before after before' after' m n gap rest last : List Char}

/-- A text is without markers just when none stands anywhere in it. -/
theorem unmarked_iff_not_stands :
    Unmarked cs ↔ ∀ before m after, ¬Stands cs before m after := by
  constructor
  · intro h before m after hm
    refine h _ hm.isMarker ⟨before, after, ?_⟩
    rw [hm.text]
    simp
  · rintro h m ⟨word, rfl, hne, hword⟩ ⟨before, after, rfl⟩
    refine h before ('$' :: word) after ⟨⟨word, rfl, hne, hword⟩, ?_⟩
    simp

/-- A marker that stands at the start of a text is found there. -/
theorem Stands.markerAt?_eq (h : Stands cs [] m after) : markerAt? cs = some m := by
  rcases h with ⟨⟨word, hm, hne, hword⟩, rfl⟩
  have hm : m = '$' :: word := List.append_cancel_right hm
  subst hm
  exact markerAt?_eq_some hne hword after

/-- What is found at the start of a text stands there. -/
theorem stands_of_markerAt? (h : markerAt? cs = some m) : ∃ after, Stands cs [] m after := by
  rcases isMarker_of_markerAt? h with ⟨hm, after, hafter⟩
  refine ⟨after, hm, ?_⟩
  rw [← hafter]
  simp

/-- A marker of a text in front of which something is put. -/
theorem Stands.append (h : Stands rest before m after) (front : List Char) :
    Stands (front ++ rest) (front ++ before) m after := by
  refine ⟨h.isMarker, ?_⟩
  rw [h.text, List.append_assoc]

/-- Only one marker stands at the start of a text. -/
theorem Stands.eq_of_start (h : Stands cs [] m after) (h' : Stands cs [] n after') :
    n = m ∧ after' = after := by
  have hm : n = m := Option.some.inj (h'.markerAt?_eq.symm.trans h.markerAt?_eq)
  subst hm
  have hrest : ':' :: after' = ':' :: after :=
    List.append_cancel_left (h'.text.symm.trans h.text)
  exact ⟨rfl, (List.cons.inj hrest).2⟩

/-- What starts with a marker starts with a `$`, and no other one follows in the marker. -/
theorem IsMarker.exists_dollar (h : IsMarker (m ++ [':'])) :
    ∃ t, '$' ∉ t ∧ ∀ rest, m ++ ':' :: rest = '$' :: (t ++ rest) := by
  rcases h.eq_dollar with ⟨t, ht, hdollar⟩
  refine ⟨t, hdollar, fun rest => ?_⟩
  rw [← List.cons_append, ← ht]
  simp

/-- No marker starts inside another one: the next one stands behind it. -/
theorem Stands.behind_start {c : Char} (h : Stands cs [] m after)
    (h' : Stands cs (c :: before') n after') :
    ∃ between, c :: before' = m ++ ':' :: between ∧ Stands after between n after' := by
  rcases h.isMarker.exists_dollar with ⟨t, hdollar, ht⟩
  rcases h'.isMarker.exists_dollar with ⟨u, -, hu⟩
  have htext : '$' :: (t ++ after) = c :: (before' ++ '$' :: (u ++ after')) := by
    rw [← ht, ← hu]
    exact h.text.symm.trans h'.text
  -- the later marker starts with a `$`, which is none of those of the first one
  rcases List.cons.inj htext with ⟨rfl, hrest⟩
  rcases Text.exists_append_of_not_mem hdollar hrest with ⟨between, rfl, hafter⟩
  exact ⟨between, (ht between).symm, h'.isMarker, by rw [hafter, hu]⟩

/-- Of two markers of a text, the one that starts no earlier is the other one or stands behind it. -/
theorem Stands.same_or_behind (h : Stands cs before m after) (h' : Stands cs before' n after')
    (hle : before.length ≤ before'.length) :
    before' = before ∧ n = m ∧ after' = after ∨
      ∃ between, before' = before ++ (m ++ ':' :: between) ∧ Stands after between n after' := by
  -- both are what stands in front of a marker in one text, so the shorter one starts the longer
  have hprefix : before <+: before' :=
    List.prefix_of_prefix_length_le ⟨_, h.text.symm⟩ ⟨_, h'.text.symm⟩ hle
  rcases hprefix with ⟨d, rfl⟩
  have hrest : m ++ ':' :: after = d ++ (n ++ ':' :: after') := by
    have htext := h.text.symm.trans h'.text
    rw [List.append_assoc] at htext
    exact List.append_cancel_left htext
  have hfirst : Stands (m ++ ':' :: after) [] m after := ⟨h.isMarker, rfl⟩
  rcases d with - | ⟨c, d⟩
  · have hsecond : Stands (m ++ ':' :: after) [] n after' := ⟨h'.isMarker, hrest⟩
    exact Or.inl ⟨List.append_nil before, hfirst.eq_of_start hsecond⟩
  · rcases hfirst.behind_start ⟨h'.isMarker, hrest⟩ with ⟨between, hd, hbehind⟩
    exact Or.inr ⟨between, by rw [hd], hbehind⟩

/-! ## Cutting a text at its markers -/

/-- A text cut at its markers from left to right: each marker, without its colon, with what stands in
front of it behind the one before, and then what stands behind the last one.  A marker is found where
the first one starts, and the search goes on behind it. -/
inductive Cut : List Char → List (List Char × List Char) → List Char → Prop
  | rest {cs : List Char} (h : Unmarked cs) : Cut cs [] cs
  | marker {cs gap m rest last : List Char} {parts : List (List Char × List Char)}
      (h : Stands cs gap m rest)
      (hfirst : ∀ before n after, Stands cs before n after → gap.length ≤ before.length)
      (hrest : Cut rest parts last) : Cut cs ((gap, m) :: parts) last

variable {parts : List (List Char × List Char)}

/-- A text has a first marker if it has any. -/
theorem exists_first (h : ¬Unmarked cs) : ∃ gap m rest, Stands cs gap m rest ∧
    ∀ before n after, Stands cs before n after → gap.length ≤ before.length := by
  classical
  have hsome : ∃ k before m after, Stands cs before m after ∧ before.length = k := by
    by_contra hnone
    refine h (unmarked_iff_not_stands.2 fun before m after hm => hnone ?_)
    exact ⟨before.length, before, m, after, hm, rfl⟩
  rcases Nat.find_spec hsome with ⟨gap, m, rest, hm, hlength⟩
  refine ⟨gap, m, rest, hm, fun before n after hn => ?_⟩
  rw [hlength]
  exact Nat.find_min' hsome ⟨before, n, after, hn, rfl⟩

/-- Every text can be cut at its markers. -/
theorem exists_cut (cs : List Char) : ∃ parts last, Cut cs parts last := by
  by_cases h : Unmarked cs
  · exact ⟨[], cs, .rest h⟩
  · rcases exists_first h with ⟨gap, m, rest, hm, hfirst⟩
    have hshorter : rest.length < cs.length := by
      rw [hm.text, List.length_append, List.length_append, List.length_cons]
      omega
    rcases exists_cut rest with ⟨parts, last, hrest⟩
    exact ⟨(gap, m) :: parts, last, .marker hm hfirst hrest⟩
termination_by cs.length

/-- The markers that a text is cut at, each with what stands in front of it. -/
def cutOff (parts : List (List Char × List Char)) : List Char :=
  parts.flatMap fun p => p.1 ++ (p.2 ++ [':'])

/-- Wherever a marker stands in a text, the text is cut at it. -/
theorem Cut.exists_part (h : Cut cs parts last) (hm : Stands cs before m after) :
    ∃ found gap later, parts = found ++ (gap, m) :: later ∧ before = cutOff found ++ gap ∧
      Cut after later last := by
  induction h generalizing before with
  | rest hunmarked => exact absurd hm (unmarked_iff_not_stands.1 hunmarked before m after)
  | @marker cs gap n rest last parts hn hfirst hrest ih =>
    -- induction on the cut: the marker is its first one, or it stands in the text behind that
    rcases hn.same_or_behind hm (hfirst before m after hm) with
      ⟨rfl, rfl, rfl⟩ | ⟨between, rfl, hbehind⟩
    · exact ⟨[], before, parts, rfl, rfl, hrest⟩
    · rcases ih hbehind with ⟨found, gap', later, rfl, rfl, hlater⟩
      refine ⟨(gap, n) :: found, gap', later, rfl, ?_, hlater⟩
      simp [cutOff]

/-! ## The markers and the value of a text -/

/-- No marker is found in front of the first one. -/
theorem markers_append_of_first
    (h : ∀ before n after, Stands (gap ++ rest) before n after → gap.length ≤ before.length) :
    markers (gap ++ rest) = markers rest := by
  induction gap with
  | nil => rfl
  | cons c gap ih =>
    have hstart : markerAt? (c :: (gap ++ rest)) = none := by
      rw [Option.eq_none_iff_forall_ne_some]
      intro m hm
      rcases stands_of_markerAt? hm with ⟨after, hafter⟩
      have hlength := h [] m after hafter
      simp at hlength
    rw [List.cons_append, markers, hstart, Option.toList_none, List.nil_append]
    apply ih
    intro before n after hn
    have hlength := h (c :: before) n after (hn.append [c])
    simpa using hlength

/-- The markers of a text are those that it is cut at. -/
theorem Cut.markers_eq (h : Cut cs parts last) : markers cs = parts.map Prod.snd := by
  induction h with
  | rest hunmarked => exact markers_eq_nil_iff.2 hunmarked
  | marker hm hfirst _ ih =>
    rw [hm.text] at hfirst ⊢
    rw [markers_append_of_first hfirst, markers_marker hm.isMarker, ih, List.map_cons]

/-- Where two markers stand one directly behind the other, the text is cut at both. -/
theorem Cut.exists_parts (h : Cut cs parts last) (hm : IsMarker (m ++ [':']))
    (hn : IsMarker (n ++ [':'])) (hcs : cs = before ++ (joined [m, n] ++ after)) :
    ∃ found gap later, parts = found ++ (gap, m) :: ([], n) :: later ∧
      before = cutOff found ++ gap := by
  have htext : cs = before ++ (m ++ ':' :: (n ++ ':' :: after)) := by
    rw [hcs]
    simp [joined]
  rcases h.exists_part ⟨hm, htext⟩ with ⟨found, gap, later, hparts, hbefore, hlater⟩
  have hnext : Stands (n ++ ':' :: after) [] n after := ⟨hn, rfl⟩
  rcases hlater.exists_part hnext with ⟨skipped, gap', later', rfl, hnil, -⟩
  rcases List.append_eq_nil_iff.1 hnil.symm with ⟨hskipped, rfl⟩
  -- nothing stands between the two, so no other marker is found there
  have hfound : skipped = [] := by
    rcases skipped with - | ⟨p, skipped⟩
    · rfl
    · simp [cutOff] at hskipped
  subst hfound
  exact ⟨found, gap, later', hparts, hbefore⟩

/-- The value of a text with one marker is what stands in front of it and behind it. -/
theorem Cut.valueWithout_single (h : Cut cs [(gap, m)] last) :
    valueWithout [m] cs = gap ++ last := by
  cases h with
  | marker hm hfirst hrest =>
    cases hrest with
    | rest hunmarked =>
      have hjoined : joined [m] = m ++ [':'] := by simp [joined]
      have hcs : cs = gap ++ (joined [m] ++ last) := by
        rw [hm.text, hjoined]
        simp
      have hmarker := valueWithout_joined (List.cons_ne_nil m []) last
      rw [valueWithout] at hmarker ⊢
      rw [hcs, Text.eraseFirst_append_of_first, hmarker]
      intro before after heq
      refine hfirst before m after ⟨hm.isMarker, ?_⟩
      rw [hcs, heq, hjoined]
      simp

/-- The value of a text with two markers that stand together is what stands in front of them and
behind them; if they do not stand together, it is all of the text. -/
theorem Cut.valueWithout_pair {between : List Char}
    (h : Cut cs [(gap, m), (between, n)] last) :
    valueWithout [m, n] cs = if between = [] then gap ++ last else cs := by
  -- the markers occur as one piece only where the text is cut at both
  have hwhere : IsMarker (m ++ [':']) → IsMarker (n ++ [':']) → ∀ before after,
      cs = before ++ (joined [m, n] ++ after) → between = [] ∧ before = gap := by
    intro hm hn before after hcs
    rcases h.exists_parts hm hn hcs with ⟨found, gap', later, hparts, hbefore⟩
    rcases found with - | ⟨p, found⟩
    · rw [List.nil_append, List.cons.injEq, List.cons.injEq, Prod.mk.injEq, Prod.mk.injEq] at hparts
      exact ⟨hparts.2.1.1, hbefore.trans hparts.1.1.symm⟩
    · have hlength := congrArg List.length hparts
      simp only [List.length_cons, List.length_nil, List.length_append] at hlength
      omega
  cases h with
  | marker hm hfirst hrest =>
    cases hrest with
    | marker hn hnfirst hlast =>
      cases hlast with
      | rest hunmarked =>
        specialize hwhere hm.isMarker hn.isMarker
        split
        · next hbetween =>
          subst hbetween
          have hcs : cs = gap ++ (joined [m, n] ++ last) := by
            rw [hm.text, hn.text]
            simp [joined]
          have hmarkers := valueWithout_joined (List.cons_ne_nil m [n]) last
          rw [valueWithout] at hmarkers ⊢
          rw [hcs, Text.eraseFirst_append_of_first, hmarkers]
          intro before after heq
          rw [(hwhere before after (hcs.trans heq)).2]
        · next hbetween =>
          apply Text.eraseFirst_eq_self
          intro before after hcs
          exact hbetween (hwhere before after hcs).1

/-! ## Tokens -/

/-- The tokens of a text that is cut at its markers.  Only one or two markers leave a value, and one
marker in front of the symbol of the test for absence stands outside it. -/
def cutTokens (raw : String) : List (List Char × List Char) → List Char → List (Option String)
  | [], _ => if raw = "$null" then [none, some "$null", none] else [none, some "$eq", some raw]
  | [(before, m)], last =>
    if String.ofList (before ++ last) = "$null" then [some (String.ofList m), some "$null", none]
    else [none, some (String.ofList m), some (String.ofList (before ++ last))]
  | [(before, m), (between, n)], last =>
    [some (String.ofList m), some (String.ofList n),
      some (if between = [] then String.ofList (before ++ last) else raw)]
  | _, _ => []

/-- Any cut of a text tells its tokens. -/
theorem Cut.tokens_eq {raw : String} (h : Cut raw.toList parts last) :
    tokens raw = cutTokens raw parts last := by
  have hmarkers := h.markers_eq
  unfold tokens
  simp only [hmarkers]
  -- no marker, one, two that may stand together, and too many
  match parts with
  | [] => rfl
  | [(before, m)] =>
    simp only [List.map_cons, List.map_nil, h.valueWithout_single, cutTokens]
    generalize String.ofList (before ++ last) = value
    by_cases hnull : value = "$null" <;> simp [hnull, Operator.symbol]
  | [(before, m), (between, n)] =>
    simp only [List.map_cons, List.map_nil, h.valueWithout_pair]
    by_cases hbetween : between = []
    · simp [cutTokens, hbetween]
    · simp [cutTokens, hbetween]
  | p :: q :: r :: parts => simp [cutTokens]

/-- The tokens of a text are known from where its markers stand, which can be said of every text.
There are no tokens or three of them, which are those of the statement that the text makes; the one
in the middle is always there, and only behind a test for absence the last one is not. -/
theorem tokens_of_cut (raw : String) :
    (∃ parts last, Cut raw.toList parts last) ∧
    (∀ parts last, Cut raw.toList parts last → tokens raw = cutTokens raw parts last) ∧
    (tokens raw = [] ∨ ∃ outer inner value, tokens raw = [outer, some inner, value] ∧
      (value = none → inner = "$null")) ∧
    tokens raw = match read? raw with
      | none => []
      | some s => [s.outer, some s.inner, s.value] := by
  refine ⟨exists_cut raw.toList, fun parts last h => h.tokens_eq, ?_, tokens_eq raw⟩
  rw [tokens_eq]
  cases hread : read? raw with
  | none => exact Or.inl rfl
  | some s => exact Or.inr ⟨s.outer, s.inner, s.value, rfl, inner_of_read? hread⟩

/-- Two markers that do not stand together are both taken, and stay in the value too. -/
example : tokens "1$gte:2$lt:3" = [some "$gte", some "$lt", some "1$gte:2$lt:3"] := by decide +kernel

end Statement

end Listing
