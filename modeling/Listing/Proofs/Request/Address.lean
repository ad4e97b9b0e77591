import Listing.Proofs.Number.Numeral
import Listing.Proofs.Page.Links
import Listing.Proofs.Request.Parameters
import Listing.Request.Address

/-!
# Addresses read back

An address made of a path and of parameters that are written as they are is read as that path and
those parameters (`ofAddress_addressText`).
-/

namespace Listing

namespace Address

/-- A path that an address can start with: one slash in front, no sign that ends a path, and nothing
that is dropped from addresses. -/
structure IsPath (path : List Char) : Prop where
  slash : path.head? = some '/'
  noHost : path.tail.head? ≠ some '/'
  signs : ∀ c ∈ ['?', '#', '\t', '\r', '\n'], c ∉ path

instance (path : List Char) : Decidable (IsPath path) :=
  have : Decidable (∀ c ∈ ['?', '#', '\t', '\r', '\n'], c ∉ path) := List.decidableBAll _ _
  decidable_of_iff (path.head? = some '/' ∧ path.tail.head? ≠ some '/' ∧
      ∀ c ∈ ['?', '#', '\t', '\r', '\n'], c ∉ path)
    ⟨fun h => ⟨h.1, h.2.1, h.2.2⟩, fun h => ⟨h.slash, h.noHost, h.signs⟩⟩

theorem dropScheme_of_slash (cs : List Char) : dropScheme ('/' :: cs) = '/' :: cs := by
  unfold dropScheme
  split
  · next c _ _ _ _ heq _ =>
    cases heq
    rfl
  · rfl

/-- What is read of the text behind the question mark: without the characters that are dropped, and
up to the sign that ends the parameters. -/
def visible (query : List Char) : List Char :=
  (Text.cut '#' (query.filter fun c => !isLineBreak c)).1

theorem filter_isLineBreak {cs : List Char} (h : ∀ c ∈ ['\t', '\r', '\n'], c ∉ cs) :
    cs.filter (fun c => !isLineBreak c) = cs := by
  rw [List.filter_eq_self]
  intro c hc
  have htab : c ≠ '\t' := by rintro rfl; exact h _ (by simp) hc
  have hreturn : c ≠ '\r' := by rintro rfl; exact h _ (by simp) hc
  have hfeed : c ≠ '\n' := by rintro rfl; exact h _ (by simp) hc
  simp [isLineBreak, htab, hreturn, hfeed]

theorem visible_eq_self {query : List Char} (h : ∀ c ∈ ['#', '\t', '\r', '\n'], c ∉ query) :
    visible query = query := by
  have hkept := filter_isLineBreak fun c hc => h c (List.mem_cons_of_mem '#' hc)
  rw [visible, hkept, Text.cut_of_not_mem (h '#' (by simp))]

/-- Dropping line breaks neither adds nor removes the sign that ends parameters. -/
theorem mem_filter_isLineBreak (cs : List Char) :
    '#' ∈ cs.filter (fun c => !isLineBreak c) ↔ '#' ∈ cs := by
  have hsign : isLineBreak '#' = false := by decide
  simp [List.mem_filter, hsign]

/-- What stands behind a text that has no sign that ends the parameters is read behind it. -/
theorem visible_append {xs : List Char} (h : '#' ∉ xs) (ys : List Char) :
    visible (xs ++ ys) = visible xs ++ visible ys := by
  have hkept : '#' ∉ xs.filter fun c => !isLineBreak c := fun hmem =>
    h ((mem_filter_isLineBreak xs).1 hmem)
  rw [visible, List.filter_append, Text.fst_cut_append hkept, visible,
    Text.cut_of_not_mem hkept]
  rfl

/-- Behind a text that has it nothing is read. -/
theorem visible_append_of_mem {xs : List Char} (h : '#' ∈ xs) (ys : List Char) :
    visible (xs ++ ys) = visible xs := by
  rw [visible, List.filter_append,
    Text.fst_cut_append_of_mem ((mem_filter_isLineBreak xs).2 h)]
  rfl

/-- An address with a path in front is parted at the question mark. -/
theorem read_visible {path : List Char} (hpath : IsPath path) (query : List Char) :
    read (path ++ '?' :: query) = .ok ⟨path, visible query⟩ := by
  -- the path has none of the characters that are dropped
  have hbreaks : (path ++ '?' :: query).filter (fun c => !isLineBreak c) =
      path ++ '?' :: query.filter fun c => !isLineBreak c := by
    have hkept := filter_isLineBreak fun c hc =>
      hpath.signs c (List.mem_cons_of_mem '?' (List.mem_cons_of_mem '#' hc))
    rw [List.filter_append, hkept]
    rfl
  have hfragment : (Text.cut '#' (path ++ '?' :: query.filter fun c => !isLineBreak c)).1 =
      path ++ '?' :: visible query := by
    have hmark : '#' ∉ path ++ ['?'] := by
      simp [hpath.signs '#' (by simp)]
    have hcut := Text.fst_cut_append hmark (query.filter fun c => !isLineBreak c)
    simpa [visible] using hcut
  have hparts : Text.cut '?' (path ++ '?' :: visible query) = (path, some (visible query)) :=
    Text.cut_append (hpath.signs '?' (by simp)) _
  -- behind one slash there is neither a scheme nor a host to be dropped
  obtain ⟨hslash, hhost, -⟩ := hpath
  cases path with
  | nil => cases hslash
  | cons c rest =>
    cases hslash
    have hjunk : (('/' :: rest) ++ '?' :: query).dropWhile isLeadingJunk =
        ('/' :: rest) ++ '?' :: query := rfl
    generalize query.filter (fun c => !isLineBreak c) = kept at hbreaks hfragment
    have hscheme : dropScheme (('/' :: rest) ++ '?' :: kept) = ('/' :: rest) ++ '?' :: kept :=
      dropScheme_of_slash _
    have hdrop : dropHost (('/' :: rest) ++ '?' :: kept) = .ok (('/' :: rest) ++ '?' :: kept) := by
      -- a second slash would begin the name of a host
      have hnone : Text.after? ['/', '/'] (('/' :: rest) ++ '?' :: kept) = none := by
        cases rest with
        | nil => rfl
        | cons d rest =>
          have hd : d ≠ '/' := fun h => hhost (by rw [h]; rfl)
          simp [Text.after?, List.isPrefixOf, Ne.symm hd]
      rw [dropHost, hnone]
      rfl
    rw [read, hjunk, hbreaks, hscheme, hdrop, Outcome.ok_bind, hfragment, hparts]
    rfl

end Address

namespace Links

/-- A text that is written into an address as it is: no sign that parts or encodes parameters, none
that ends them, and no character that is dropped from addresses. -/
def Plain (s : String) : Prop := ∀ c ∈ ['&', '#', '+', '%', '\t', '\r', '\n'], c ∉ s.toList

instance (s : String) : Decidable (Plain s) :=
  List.decidableBAll (fun c => c ∉ s.toList) ['&', '#', '+', '%', '\t', '\r', '\n']

theorem Plain.append {s t : String} (hs : Plain s) (ht : Plain t) : Plain (s ++ t) := by
  intro c hc hmem
  rw [String.toList_append, List.mem_append] at hmem
  rcases hmem with h | h
  · exact hs c hc h
  · exact ht c hc h

theorem plain_intText (n : Int) : Plain (intText n) := by
  intro c hc hmem
  rw [intText, String.toList_ofList] at hmem
  rcases mem_intDigits hmem with rfl | hd
  · simp at hc
  · simp only [List.mem_cons, List.not_mem_nil, or_false] at hc
    rcases hc with rfl | rfl | rfl | rfl | rfl | rfl | rfl <;> cases hd

/-- A parameter that is written into an address as it is. -/
structure PlainPair (pair : String × String) : Prop where
  name : Plain pair.1
  equals : '=' ∉ pair.1.toList
  text : Plain pair.2

/-- A parameter of this kind is read as it is written. -/
theorem PlainPair.unencoded {pair : String × String} (h : PlainPair pair) :
    Parameters.Unencoded pair where
  name := by
    intro c hc
    simp only [List.mem_cons, List.not_mem_nil, or_false] at hc
    rcases hc with rfl | rfl | rfl | rfl
    · exact h.name _ (by simp)
    · exact h.name _ (by simp)
    · exact h.name _ (by simp)
    · exact h.equals
  text := by
    intro c hc
    simp only [List.mem_cons, List.not_mem_nil, or_false] at hc
    rcases hc with rfl | rfl | rfl <;> exact h.text _ (by simp)

/-- Nothing in such a parameter ends the parameters or is dropped. -/
theorem PlainPair.encoded {pair : String × String} (h : PlainPair pair) :
    ∀ c ∈ ['#', '\t', '\r', '\n'], c ∉ Parameters.encoded pair := by
  intro c hc hmem
  have hplain : c ∈ ['&', '#', '+', '%', '\t', '\r', '\n'] := by
    simp only [List.mem_cons, List.not_mem_nil, or_false] at hc
    rcases hc with rfl | rfl | rfl | rfl <;> simp
  rw [Parameters.encoded, List.mem_append, List.mem_cons] at hmem
  rcases hmem with hmem | hmem | hmem
  · exact h.name c hplain hmem
  · subst hmem
    simp at hc
  · exact h.text c hplain hmem

/-- Strings joined without anything between them. -/
theorem toList_joinWith_empty (parts : List String) :
    (Text.joinWith "" parts).toList = parts.flatMap String.toList := by
  rw [Text.joinWith, String.toList_ofList]
  induction parts with
  | nil => rfl
  | cons part parts ih =>
    cases parts with
    | nil => simp
    | cons next parts =>
      rw [List.map_cons, List.map_cons, List.intercalate_cons_cons, List.flatMap_cons, ← ih]
      simp

theorem toList_suffix (ps : List (String × String)) :
    (suffix ps).toList = ps.flatMap fun p => '&' :: Parameters.encoded p := by
  rw [suffix, toList_joinWith_empty, List.flatMap_map]
  congr 1
  funext p
  simp [Parameters.encoded]

/-- The address of a page is its path and its parameters, the page number first. -/
theorem toList_addressText (path : String) (page : Int) (ps : List (String × String)) :
    (addressText path page (suffix ps)).toList =
      path.toList ++ '?' :: (Parameters.encoded ("page", intText page) ++
        ps.flatMap fun p => '&' :: Parameters.encoded p) := by
  rw [addressText, String.toList_append, toList_suffix]
  simp [Parameters.encoded]

/-- The address of a page is read as its path and its parameters. -/
theorem ofAddress_addressText {path : String} (hpath : Address.IsPath path.toList) (page : Int)
    {ps : List (String × String)} (hps : ∀ p ∈ ps, PlainPair p) :
    Request.ofAddress (addressText path page (suffix ps)) =
      .ok (Request.ofParameters path (Parameters.ofPairs (("page", intText page) :: ps))) := by
  have hname : Plain "page" ∧ '=' ∉ "page".toList := by decide +kernel
  have hpage : PlainPair ("page", intText page) := ⟨hname.1, hname.2, plain_intText page⟩
  have hall : ∀ p ∈ ("page", intText page) :: ps, PlainPair p := by
    intro p hp
    rcases List.mem_cons.1 hp with rfl | hp
    · exact hpage
    · exact hps p hp
  -- so the parameters are visible as a whole
  have hquery : ∀ c ∈ ['#', '\t', '\r', '\n'], c ∉ Parameters.encoded ("page", intText page) ++
      ps.flatMap fun p => '&' :: Parameters.encoded p := by
    intro c hc hmem
    rcases List.mem_append.1 hmem with h | h
    · exact hpage.encoded c hc h
    · obtain ⟨p, hp, h⟩ := List.mem_flatMap.1 h
      rcases List.mem_cons.1 h with rfl | h
      · simp at hc
      · exact (hps p hp).encoded c hc h
  have hread := Address.read_visible hpath (Parameters.encoded ("page", intText page) ++
    ps.flatMap fun p => '&' :: Parameters.encoded p)
  rw [Address.visible_eq_self hquery] at hread
  have hpairs := Parameters.readPairs_encoded fun p hp => (hall p hp).unencoded
  rw [Request.ofAddress, toList_addressText, hread]
  simp only [Outcome.ok_bind, String.ofList_toList, Parameters.ofText, String.toList_ofList, hpairs]
  rfl

end Links

end Listing
