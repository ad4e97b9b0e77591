import Listing.Proofs.Page.Reading
import Listing.Proofs.Request.Percent
import Mathlib.Data.List.DropRight

/-!
# Requests that are read

What is read from parameters has no empty lists, and its names are parted as they are in links: a
column to sort by ends before a colon, and columns to search stand between commas without blanks
around them (`asRead_ofParameters`).  Only the name of a filter's column may have a sign that parts
parameters: an equals sign, if it is percent-encoded (`equals_mem_column_iff`).
-/

namespace Listing

namespace Text

/-- There is no separator before the place where a text is cut. -/
theorem not_mem_cut (sep : Char) (cs : List Char) : sep ∉ (cut sep cs).1 := by
  intro h
  rw [cut] at h
  split at h
  · next hdrop =>
    -- nothing is left from the first separator on, so there is none
    have hall : sep ≠ sep := by simpa using List.dropWhile_eq_nil_iff.1 hdrop sep h
    exact hall rfl
  · have hne : sep ≠ sep := by simpa using List.mem_takeWhile_imp h
    exact hne rfl

/-- There is no separator in the pieces between separators. -/
theorem not_mem_of_mem_splitOn {sep : Char} {piece cs : List Char}
    (h : piece ∈ cs.splitOn sep) : sep ∉ piece := by
  induction cs generalizing piece with
  | nil =>
    rw [List.splitOn_nil, List.mem_singleton] at h
    rw [h]
    exact List.not_mem_nil
  | cons c cs ih =>
    -- a separator starts a new piece, any other character goes to the first one
    rw [List.splitOn_cons_eq_if_modifyHead] at h
    split at h
    · rcases List.mem_cons.1 h with rfl | h
      · exact List.not_mem_nil
      · exact ih h
    · next hc =>
      -- the character belongs to the first piece
      cases hs : cs.splitOn sep with
      | nil => exact absurd hs (List.splitOn_ne_nil sep cs)
      | cons first rest =>
        rw [hs] at ih h
        rcases List.mem_cons.1 h with rfl | h
        · rw [List.mem_cons, not_or]
          refine ⟨?_, ih List.mem_cons_self⟩
          rintro rfl
          simp at hc
        · exact ih (List.mem_cons_of_mem first h)

/-- A trimmed text is part of the text. -/
theorem trimBoth_subset (p : Char → Bool) (cs : List Char) : trimBoth p cs ⊆ cs := by
  intro c hc
  have hright : trimBoth p cs <+: cs.dropWhile p := List.rdropWhile_prefix p _
  exact (List.dropWhile_suffix p).subset (hright.subset hc)

/-- A trimmed text has nothing to trim. -/
theorem trimBoth_trimBoth (p : Char → Bool) (cs : List Char) :
    trimBoth p (trimBoth p cs) = trimBoth p cs := by
  have hleft : (trimBoth p cs).dropWhile p = trimBoth p cs := by
    have hprefix : trimBoth p cs <+: cs.dropWhile p := List.rdropWhile_prefix p _
    cases htrim : trimBoth p cs with
    | nil => rfl
    | cons c rest =>
      -- it starts as the text does behind its blanks
      rw [htrim] at hprefix
      obtain ⟨tail, htail⟩ := hprefix
      have hc : p c = false := by
        apply Classical.byContradiction
        intro hp
        have hagain := List.dropWhile_idempotent p cs
        rw [← htail, List.cons_append, List.dropWhile_cons, if_pos (by simpa using hp)] at hagain
        have hlength := congrArg List.length hagain
        have hle := (List.dropWhile_suffix p (l := rest ++ tail)).length_le
        rw [List.length_cons] at hlength
        omega
      rw [List.dropWhile_cons, hc]
      rfl
  have hright : (trimBoth p cs).rdropWhile p = trimBoth p cs := List.rdropWhile_idempotent p _
  show ((trimBoth p cs).dropWhile p).rdropWhile p = trimBoth p cs
  rw [hleft, hright]

end Text

theorem ne_nil_of_nonempty? {α : Type} {xs ys : List α} (h : nonempty? xs = some ys) :
    ys ≠ [] ∧ ys = xs := by
  cases xs with
  | nil => cases h
  | cons x xs =>
    cases h
    exact ⟨List.cons_ne_nil x xs, rfl⟩

theorem nonempty?_getD {α : Type} (xs : Option (List α)) :
    nonempty? (xs.getD []) = xs.bind nonempty? := by
  cases xs <;> rfl

/-- A list that has members if it is there stays as it is. -/
theorem bind_nonempty?_eq_self {α : Type} {xs : Option (List α)} (h : ∀ ys ∈ xs, ys ≠ []) :
    xs.bind nonempty? = xs := by
  cases xs with
  | none => rfl
  | some ys =>
    cases ys with
    | nil => exact absurd rfl (h [] rfl)
    | cons y ys => rfl

namespace Request

/-! ## What is read -/

/-- What requests are like that are read from parameters. -/
structure AsRead (r : Request) : Prop where
  sortBy : ∀ keys ∈ r.sortBy, keys ≠ [] ∧ ∀ k ∈ keys, ':' ∉ k.column.toList
  searchBy : ∀ columns ∈ r.searchBy, columns ≠ [] ∧ ∀ column ∈ columns, IsColumn column
  filter : ∀ f ∈ r.filter, f.entries ≠ [] ∧
    ∀ e ∈ f.entries, e.2.toList ≠ [] ∧ e.2.collapse = e.2

/-- A sort key is cut at its first colon, so its column has none. -/
theorem colon_of_readSortKey? {s : String} {k : SortKey} (h : readSortKey? s = some k) :
    ':' ∉ k.column.toList := by
  have hcut := Text.not_mem_cut ':' s.toList
  unfold readSortKey? at h
  split at h
  · cases h
  · next heq =>
    rw [heq] at hcut
    cases h
    simpa using hcut

/-- Columns are read between commas, trimmed, and left out if nothing is left of them. -/
theorem isColumn_of_mem_readColumns {s column : String} (h : column ∈ readColumns s) :
    IsColumn column := by
  obtain ⟨trimmed, htrimmed, hcolumn⟩ := List.mem_filterMap.1 h
  obtain ⟨piece, hpiece, rfl⟩ := List.mem_map.1 htrimmed
  split at hcolumn
  · cases hcolumn
  · next hne =>
    cases hcolumn
    refine ⟨?_, ?_, ?_⟩
    · intro hempty
      rw [String.ofList_eq_empty_iff] at hempty
      rw [hempty] at hne
      exact hne rfl
    · rw [String.toList_ofList]
      intro hcomma
      exact Text.not_mem_of_mem_splitOn hpiece (Text.trimBoth_subset _ _ hcomma)
    · rw [String.toList_ofList]
      exact Text.trimBoth_trimBoth _ _

/-- The name of a parameter that filters is what was taken off and the column behind it. -/
theorem append_of_filterColumn? {start name column : String}
    (h : filterColumn? start name = some column) : start ++ column = name := by
  rw [filterColumn?, Text.after?] at h
  split at h
  · next hprefix =>
    cases h
    obtain ⟨rest, hrest⟩ := List.isPrefixOf_iff_prefix.1 hprefix
    apply String.toList_inj.1
    rw [String.toList_append, String.toList_ofList, ← hrest, List.drop_left]
  · cases h

/-- What a parameter adds to the filter: its column, if it filters on one, with its statements. -/
def readColumn? (start : String) (e : String × List String) : Option (String × Statements) := do
  let column ← filterColumn? start e.1
  let statements ← nonempty? e.2
  return (column, .ofList statements)

/-- The column stands behind the start of the name, and its statements are not empty. -/
theorem readColumn?_eq_some {start : String} {e : String × List String} {d : String × Statements}
    (h : readColumn? start e = some d) :
    start ++ d.1 = e.1 ∧ d.2.toList ≠ [] ∧ d.2.collapse = d.2 := by
  obtain ⟨column, hcolumn, hrest⟩ := Option.bind_eq_some_iff.1 h
  obtain ⟨statements, hstatements, hd⟩ := Option.bind_eq_some_iff.1 hrest
  obtain ⟨hne, -⟩ := ne_nil_of_nonempty? hstatements
  cases hd
  refine ⟨append_of_filterColumn? hcolumn, ?_, ?_⟩
  · rw [Statements.toList_ofList]
    exact hne
  · rw [Statements.collapse, Statements.toList_ofList]

/-- As the names of parameters differ, so do the columns, and each makes an entry of its own. -/
theorem entries_readFilter_eq (start : String) (ps : Parameters) :
    (readFilter start ps).entries = ps.entries.filterMap (readColumn? start) := by
  apply Table.entries_ofList
  have hnames : ps.entries.Pairwise fun e e' => e.1 ≠ e'.1 := List.pairwise_map.1 ps.distinct
  rw [List.Nodup, List.pairwise_map]
  refine List.Pairwise.filterMap (readColumn? start) ?_ hnames
  intro e e' hne d hd d' hd' hcolumns
  -- the same column behind the same start would be the same name
  apply hne
  rw [← (readColumn?_eq_some hd).1, ← (readColumn?_eq_some hd').1, hcolumns]

/-- A filter that is read has only columns with statements, from parameters of their names. -/
theorem mem_readFilter {start : String} {ps : Parameters} {e : String × Statements}
    (h : e ∈ (readFilter start ps).entries) :
    start ++ e.1 ∈ ps.names ∧ e.2.toList ≠ [] ∧ e.2.collapse = e.2 := by
  rw [entries_readFilter_eq] at h
  obtain ⟨d, hd, hread⟩ := List.mem_filterMap.1 h
  obtain ⟨hname, hstatements⟩ := readColumn?_eq_some hread
  refine ⟨?_, hstatements⟩
  rw [hname]
  exact List.mem_map_of_mem hd

/-- Every request that is read from parameters is like this. -/
theorem asRead_ofParameters (path : String) (ps : Parameters) (keys : Keys) :
    (ofParameters path ps keys).AsRead where
  sortBy ks hks := by
    obtain ⟨hne, rfl⟩ := ne_nil_of_nonempty? hks
    refine ⟨hne, fun k hk => ?_⟩
    obtain ⟨s, -, hread⟩ := List.mem_filterMap.1 hk
    exact colon_of_readSortKey? hread
  searchBy columns hcolumns := by
    obtain ⟨hne, rfl⟩ := ne_nil_of_nonempty? hcolumns
    refine ⟨hne, fun column hcolumn => ?_⟩
    obtain ⟨s, -, hread⟩ := List.mem_flatMap.1 hcolumn
    exact isColumn_of_mem_readColumns hread
  filter f hf := by
    simp only [ofParameters] at hf
    split at hf
    · cases hf
    · next hne =>
      cases hf
      refine ⟨fun hnil => hne ?_, fun e he => (mem_readFilter he).2⟩
      rw [Table.isEmpty, hnil]
      rfl

/-! ## The names of filters -/

/-- A name of some parameters is the name of one of the pairs. -/
theorem mem_names_ofPairs {pairs : List (String × String)} {name : String}
    (h : name ∈ (Parameters.ofPairs pairs).names) : ∃ pair ∈ pairs, pair.1 = name := by
  have hadd : ∀ ps : Parameters, name ∈ (pairs.foldl Parameters.add ps).names →
      name ∈ ps.names ∨ ∃ pair ∈ pairs, pair.1 = name := by
    clear h
    induction pairs with
    | nil => exact fun ps h => Or.inl h
    | cons pair pairs ih =>
      intro ps h
      rcases ih (ps.add pair) h with h | ⟨p, hp, hname⟩
      · rcases Table.mem_alterEntries.1 h with rfl | h
        · exact Or.inr ⟨pair, List.mem_cons_self, rfl⟩
        · exact Or.inl h
      · exact Or.inr ⟨p, List.mem_cons_of_mem pair hp, hname⟩
  exact (hadd .empty h).resolve_left List.not_mem_nil

/-- The name in a piece has an equals sign just if the piece encodes one before its own. -/
theorem equals_mem_readPair (piece : List Char) :
    '=' ∈ (Parameters.readPair piece).1.toList ↔
      Percent.EncodesEquals (Text.cut '=' piece).1 := by
  show '=' ∈ (String.ofList (Percent.decode (Text.cut '=' piece).1)).toList ↔ _
  rw [String.toList_ofList]
  exact Percent.equals_mem_decode (Text.not_mem_cut '=' piece)

/-- A column that is filtered on has an equals sign just if a name that gives it encodes one. -/
theorem equals_mem_column_iff {path s : String} {f : Filter} {e : String × Statements}
    (hf : f ∈ (ofParameters path (.ofText s)).filter) (he : e ∈ f.entries) :
    '=' ∈ e.1.toList ↔ ∃ piece ∈ s.toList.splitOn '&',
      (Parameters.readPair piece).1 = "filter." ++ e.1 ∧
      Percent.EncodesEquals (Text.cut '=' piece).1 := by
  -- what stands before the column has no equals sign, so it is the column's
  have hstart : '=' ∉ "filter.".toList := by decide +kernel
  have hname : '=' ∈ ("filter." ++ e.1).toList ↔ '=' ∈ e.1.toList := by
    rw [String.toList_append, List.mem_append]
    exact or_iff_right hstart
  constructor
  · intro hequals
    have hread : e ∈ (readFilter "filter." (.ofText s)).entries := by
      simp only [ofParameters] at hf
      split at hf <;> cases hf
      exact he
    obtain ⟨pair, hpair, hpairname⟩ := mem_names_ofPairs (mem_readFilter hread).1
    obtain ⟨piece, hpiece, rfl⟩ := List.mem_map.1 hpair
    refine ⟨piece, (List.mem_filter.1 hpiece).1, hpairname, ?_⟩
    rw [← equals_mem_readPair, hpairname]
    exact hname.2 hequals
  · rintro ⟨piece, -, hpairname, hencodes⟩
    rw [← equals_mem_readPair, hpairname] at hencodes
    exact hname.1 hencodes

end Request

end Listing
