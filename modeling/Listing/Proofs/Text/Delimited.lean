import Listing.Text.Quoted
import Listing.Text.Search

/-!
# Texts that end where their brackets and quotes do

Reading a text from the left, one knows at each place how deep in brackets one is and whether between
quotes.  A text is delimited if no comma, colon or closing bracket in it stands outside of brackets
and quotes of its own, and all of these end in it.  So where a delimited text ends within a longer
text does not depend on what it is (`IsDelimited.append_inj`), and delimited texts between commas can
be told apart again (`joinWith_inj`).
-/

namespace Listing.Text

/-- What a character does to the place behind it. -/
inductive Mark where
  | opening
  | closing
  | part
  | quote
  | plain
  deriving DecidableEq

/-- The mark that a character is outside of quotes. -/
def mark (c : Char) : Mark :=
  if c ∈ ['(', '[', '\x7b', '<'] then .opening
  else if c ∈ [')', ']', '\x7d', '>'] then .closing
  else if c ∈ [',', ':'] then .part
  else if c ∈ [apostrophe, '"'] then .quote
  else .plain

/-- A place in a text: in so many brackets, between quotes within them, or behind a backslash there. -/
inductive Place where
  | outside (depth : Nat)
  | inside (depth : Nat) (quote : Char)
  | escaped (depth : Nat) (quote : Char)
  deriving DecidableEq

namespace Place

/-- The place behind a character that stands outside of quotes.  There is none behind one that ends a
delimited text. -/
def beyond : Nat → Mark → Char → Option Place
  | d, .opening, _ => some (outside (d + 1))
  | 0, .closing, _ => none
  | d + 1, .closing, _ => some (outside d)
  | 0, .part, _ => none
  | d + 1, .part, _ => some (outside (d + 1))
  | d, .quote, c => some (inside d c)
  | d, .plain, _ => some (outside d)

/-- The place behind a character. -/
def step : Place → Char → Option Place
  | outside d, c => beyond d (mark c) c
  | inside d q, c =>
    if c = '\\' then some (escaped d q) else if c = q then some (outside d) else some (inside d q)
  | escaped d q, _ => some (inside d q)

/-- The place behind a text. -/
def walk (p : Place) (cs : List Char) : Option Place := cs.foldlM step p

def deeper (k : Nat) : Place → Place
  | outside d => outside (d + k)
  | inside d q => inside (d + k) q
  | escaped d q => escaped (d + k) q

theorem walk_cons (p : Place) (c : Char) (cs : List Char) :
    p.walk (c :: cs) = (p.step c).bind fun p => p.walk cs := List.foldlM_cons

theorem walk_append (p : Place) (as bs : List Char) :
    p.walk (as ++ bs) = (p.walk as).bind fun p => p.walk bs := List.foldlM_append

/-- What ends nothing in some brackets ends nothing in more. -/
theorem beyond_deeper {d : Nat} {m : Mark} {c : Char} {p : Place} (h : beyond d m c = some p)
    (k : Nat) : beyond (d + k) m c = some (p.deeper k) := by
  cases m with
  | opening =>
    cases h
    rw [beyond, deeper, Nat.add_right_comm]
  | closing =>
    -- a closing bracket ends the text unless there is one to close
    cases d with
    | zero => cases h
    | succ d =>
      cases h
      rw [Nat.add_right_comm, beyond, deeper]
  | part =>
    cases d with
    | zero => cases h
    | succ d =>
      cases h
      rw [deeper, Nat.add_right_comm, beyond]
  | quote =>
    cases h
    rw [beyond, deeper]
  | plain =>
    cases h
    rw [beyond, deeper]

/-- No character tells how many brackets there are around, as long as it ends nothing. -/
theorem step_deeper {p p' : Place} {c : Char} (h : p.step c = some p') (k : Nat) :
    (p.deeper k).step c = some (p'.deeper k) := by
  cases p with
  | outside d => exact beyond_deeper h k
  | inside d q =>
    rw [step] at h
    rw [deeper, step]
    split at h
    · next hc =>
      cases h
      rw [if_pos hc, deeper]
    · next hc =>
      rw [if_neg hc]
      split at h
      · next hq =>
        cases h
        rw [if_pos hq, deeper]
      · next hq =>
        cases h
        rw [if_neg hq, deeper]
  | escaped d q =>
    cases h
    rfl

/-- A text leads to the same place in more brackets, as long as it ends nothing. -/
theorem walk_deeper {p p' : Place} {cs : List Char} (h : p.walk cs = some p') (k : Nat) :
    (p.deeper k).walk cs = some (p'.deeper k) := by
  induction cs generalizing p with
  | nil =>
    cases h
    rfl
  | cons c cs ih =>
    rw [walk_cons, Option.bind_eq_some_iff] at h
    rcases h with ⟨p'', hstep, hwalk⟩
    rw [walk_cons, step_deeper hstep k]
    exact ih hwalk

end Place

open Place

/-- All brackets and quotes of a text end in it, and nothing outside of them ends it. -/
def IsDelimited (cs : List Char) : Prop := (outside 0).walk cs = some (outside 0)

/-- The same within brackets, where commas and colons end nothing. -/
def IsInner (cs : List Char) : Prop := (outside 1).walk cs = some (outside 1)

instance (cs : List Char) : Decidable (IsDelimited cs) :=
  inferInstanceAs (Decidable ((outside 0).walk cs = some (outside 0)))

instance (cs : List Char) : Decidable (IsInner cs) :=
  inferInstanceAs (Decidable ((outside 1).walk cs = some (outside 1)))

variable {as bs cs : List Char}

/-- A delimited text may stand within brackets. -/
theorem IsDelimited.inner (h : IsDelimited cs) : IsInner cs := walk_deeper h 1

/-- Within brackets, what ends nothing may be put together. -/
theorem IsInner.append (ha : IsInner as) (hb : IsInner bs) : IsInner (as ++ bs) := by
  rw [IsInner, walk_append, ha]
  exact hb

theorem IsDelimited.append (ha : IsDelimited as) (hb : IsDelimited bs) : IsDelimited (as ++ bs) := by
  rw [IsDelimited, walk_append, ha]
  exact hb

/-- What ends nothing within brackets, with opening brackets before it that are closed behind it. -/
theorem IsInner.enclosed {d : Nat} (h : IsInner bs) (k : Nat)
    (ha : (outside d).walk as = some (outside (1 + k)))
    (hc : (outside (1 + k)).walk cs = some (outside d)) :
    (outside d).walk (as ++ bs ++ cs) = some (outside d) := by
  -- more brackets around change nothing for what stands within
  have hdeep : (outside (1 + k)).walk bs = some (outside (1 + k)) := walk_deeper h k
  rw [List.append_assoc, walk_append, ha, Option.bind_some, walk_append, hdeep, Option.bind_some, hc]

/-- A text without brackets, quotes, commas and colons is delimited. -/
theorem isDelimited_of_plain (h : ∀ c ∈ cs, mark c = .plain) : IsDelimited cs := by
  induction cs with
  | nil => rfl
  | cons c cs ih =>
    rw [List.forall_mem_cons] at h
    rw [IsDelimited, walk_cons, step, h.1]
    exact ih h.2

/-- Texts between commas end nothing within brackets. -/
theorem isInner_intercalate {css : List (List Char)} (h : ∀ cs ∈ css, IsInner cs) :
    IsInner ([',', ' '].intercalate css) := by
  have hcomma : IsInner [',', ' '] := by decide
  induction css with
  | nil => rfl
  | cons cs css ih =>
    rw [List.forall_mem_cons] at h
    cases css with
    | nil =>
      rw [List.intercalate_singleton]
      exact h.1
    | cons ds css =>
      rw [List.intercalate_cons_cons]
      exact (h.1.append hcomma).append (ih h.2)

theorem isInner_joinWith {ss : List String} (h : ∀ s ∈ ss, IsInner s.toList) :
    IsInner (joinWith ", " ss).toList := by
  rw [joinWith, String.toList_ofList]
  exact isInner_intercalate (List.forall_mem_map.2 h)

/-! ## Telling delimited texts apart -/

/-- What a delimited text cannot go on with: nothing, or what starts with a character that would end
it. -/
def Ends (cs : List Char) : Prop := ∀ c ∈ cs.head?, (outside 0).step c = none

/-- A comma ends a delimited text. -/
theorem ends_comma (cs : List Char) : Ends (',' :: cs) := by
  intro c hc
  cases hc
  decide

/-- A delimited text does not go on with what would end it. -/
theorem IsDelimited.eq_nil_of_ends (ha : IsDelimited as) (hab : IsDelimited (as ++ bs))
    (h : Ends (bs ++ cs)) : bs = [] := by
  cases bs with
  | nil => rfl
  | cons b bs =>
    -- the next character would have no place behind it
    have hend : (outside 0).step b = none := h b rfl
    rw [IsDelimited, walk_append, ha, Option.bind_some, walk_cons, hend] at hab
    cases hab

/-- Where a delimited text ends does not depend on what it is. -/
theorem IsDelimited.append_inj {as' bs' : List Char} (ha : IsDelimited as) (hb : IsDelimited bs)
    (ha' : Ends as') (hb' : Ends bs') (h : as ++ as' = bs ++ bs') : as = bs ∧ as' = bs' := by
  -- one of the two starts with the other
  rcases List.append_eq_append_iff.1 h with ⟨ds, rfl, rfl⟩ | ⟨ds, rfl, rfl⟩
  · have hnil := ha.eq_nil_of_ends hb ha'
    subst hnil
    simp
  · have hnil := hb.eq_nil_of_ends ha hb'
    subst hnil
    simp

/-- Delimited texts between commas are told apart, if there are as many of them. -/
theorem intercalate_inj {ass bss : List (List Char)} (hlength : ass.length = bss.length)
    (ha : ∀ as ∈ ass, IsDelimited as) (hb : ∀ bs ∈ bss, IsDelimited bs)
    (h : [',', ' '].intercalate ass = [',', ' '].intercalate bss) : ass = bss := by
  induction ass generalizing bss with
  | nil => exact (List.length_eq_zero_iff.1 hlength.symm).symm
  | cons as ass ih =>
    rcases bss with - | ⟨bs, bss⟩
    · cases hlength
    · rw [List.forall_mem_cons] at ha hb
      rw [List.length_cons, List.length_cons, Nat.succ.injEq] at hlength
      rcases ass with - | ⟨as', ass⟩
      · have hbss : bss = [] := List.length_eq_zero_iff.1 hlength.symm
        subst hbss
        rw [List.intercalate_singleton, List.intercalate_singleton] at h
        rw [h]
      · rcases bss with - | ⟨bs', bss⟩
        · cases hlength
        · simp only [List.intercalate_cons_cons, List.append_assoc, List.cons_append,
            List.nil_append] at h
          -- the first texts end at the first commas behind them
          rcases ha.1.append_inj hb.1 (ends_comma _) (ends_comma _) h with ⟨hfirst, hrest⟩
          simp only [List.cons.injEq, true_and] at hrest
          rw [hfirst, ih hlength ha.2 hb.2 hrest]

theorem joinWith_singleton (sep s : String) : joinWith sep [s] = s := by
  rw [joinWith, List.map_singleton, List.intercalate_singleton, String.ofList_toList]

theorem joinWith_cons (sep s t : String) (ss : List String) :
    joinWith sep (s :: t :: ss) = s ++ sep ++ joinWith sep (t :: ss) := by
  rw [joinWith, joinWith, List.map_cons, List.map_cons, List.intercalate_cons_cons,
    String.ofList_append, String.ofList_append, String.ofList_toList, String.ofList_toList]

/-- As many delimited texts between commas are told apart. -/
theorem joinWith_inj {ss ts : List String} (hlength : ss.length = ts.length)
    (hs : ∀ s ∈ ss, IsDelimited s.toList) (ht : ∀ t ∈ ts, IsDelimited t.toList)
    (h : joinWith ", " ss = joinWith ", " ts) : ss = ts := by
  rw [joinWith, joinWith, String.ofList_inj] at h
  have hlengths : (ss.map String.toList).length = (ts.map String.toList).length := by
    rw [List.length_map, List.length_map, hlength]
  have hsame := intercalate_inj hlengths (List.forall_mem_map.2 hs) (List.forall_mem_map.2 ht) h
  exact (List.map_inj_right fun _ _ => String.toList_inj.1).1 hsame

/-! ## Quoted texts -/

/-- Hexadecimal digits neither escape nor quote anything. -/
theorem hexDigits_ne (width n : Nat) :
    ∀ c ∈ hexDigits width n, c ≠ '\\' ∧ c ≠ apostrophe ∧ c ≠ '"' := by
  -- sixteen digits are all there are
  have hdigit : ∀ k < 16, Nat.digitChar k ≠ '\\' ∧ Nat.digitChar k ≠ apostrophe ∧
      Nat.digitChar k ≠ '"' := by decide
  induction width generalizing n with
  | zero => simp [hexDigits]
  | succ width ih =>
    intro c hc
    rw [hexDigits, List.mem_append, List.mem_singleton] at hc
    rcases hc with hc | rfl
    · exact ih _ c hc
    · exact hdigit _ (Nat.mod_lt _ (by decide))

/-- Between quotes only a backslash and the quote itself change the place. -/
theorem walk_inside {d : Nat} {q : Char} (h : ∀ c ∈ cs, c ≠ '\\' ∧ c ≠ q) :
    (inside d q).walk cs = some (inside d q) := by
  induction cs with
  | nil => rfl
  | cons c cs ih =>
    rw [List.forall_mem_cons] at h
    rw [walk_cons, step, if_neg h.1.1, if_neg h.1.2]
    exact ih h.2

/-- What stands between quotes does not end them. -/
theorem walk_escapeIn {q : Char} (hq : q = apostrophe ∨ q = '"') (c : Char) :
    (inside 0 q).walk (escapeIn q c) = some (inside 0 q) := by
  have hback : ∀ c cs, (inside 0 q).walk ('\\' :: c :: cs) = (inside 0 q).walk cs := by
    intro c cs
    rw [walk_cons, step, if_pos rfl, Option.bind_some, walk_cons, step, Option.bind_some]
  have hcode : ∀ width n, (inside 0 q).walk (hexDigits width n) = some (inside 0 q) := by
    intro width n
    refine walk_inside fun c hc => ?_
    have hne := hexDigits_ne width n c hc
    rcases hq with rfl | rfl
    · exact ⟨hne.1, hne.2.1⟩
    · exact ⟨hne.1, hne.2.2⟩
  unfold escapeIn
  split
  · exact hback c []
  · next hplain =>
    split
    · exact hback 'n' []
    · split
      · exact hback 'r' []
      · split
        · exact hback 't' []
        · split
          · refine walk_inside ?_
            simpa [and_comm] using hplain
          · rw [escapeCode]
            split
            · exact (hback _ _).trans (hcode _ _)
            · split
              · exact (hback _ _).trans (hcode _ _)
              · exact (hback _ _).trans (hcode _ _)

/-- A text whose characters are escaped one by one does not end the quotes around it. -/
theorem walk_flatMap_escapeIn {q : Char} (hq : q = apostrophe ∨ q = '"') (cs : List Char) :
    (inside 0 q).walk (cs.flatMap (escapeIn q)) = some (inside 0 q) := by
  induction cs with
  | nil => rfl
  | cons c cs ih => rw [List.flatMap_cons, walk_append, walk_escapeIn hq, Option.bind_some, ih]

theorem quoteFor_eq (cs : List Char) : quoteFor cs = apostrophe ∨ quoteFor cs = '"' := by
  unfold quoteFor
  split
  · exact .inr rfl
  · exact .inl rfl

/-- A quoted text ends with its closing quote. -/
theorem isDelimited_quoted (s : String) : IsDelimited (quoted s).toList := by
  have hq := quoteFor_eq s.toList
  have hmark : mark (quoteFor s.toList) = .quote := by
    rcases hq with h | h <;> rw [h] <;> decide
  have hback : quoteFor s.toList ≠ '\\' := by
    rcases hq with h | h <;> rw [h] <;> decide
  rw [quoted, String.toList_ofList, List.cons_append, IsDelimited, walk_cons, step, hmark, beyond,
    Option.bind_some, walk_append, walk_flatMap_escapeIn hq, Option.bind_some, walk_cons, step,
    if_neg hback, if_pos rfl]
  rfl

end Listing.Text
