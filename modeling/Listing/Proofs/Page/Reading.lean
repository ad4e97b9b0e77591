import Listing.Proofs.Page.Answer
import Listing.Proofs.Request.Address

/-!
# Links read back

The parameters of a link come in groups: the page number, the page size, the sort keys, the search,
its columns, and then the statements of each filtered column.  A request read from a link has just
these parts (`ofAddress_verbatim`): what is empty is left out, and a list of one statement becomes
that statement.  If nothing is empty and no column to sort by has a colon, it is the request that
the link was written for (`ofAddress_link`).
-/

namespace Listing

/-- The members of a list that may be absent. -/
theorem forall_mem_getD {α : Type} {P : α → Prop} {xs : Option (List α)} :
    (∀ x ∈ xs.getD [], P x) ↔ ∀ ys ∈ xs, ∀ y ∈ ys, P y := by
  cases xs <;> simp

/-! ## Single parameters -/

namespace Request

/-- A number that can be written is read back from its text, the first of several. -/
theorem readNumber?_intText {n : Int} (h : Links.Writable n) (texts : List String) :
    readNumber? (intText n :: texts) = some n := by
  rw [readNumber?, List.head?_cons, Option.bind_some, intText, String.toList_ofList]
  exact Numeral.whole?_intDigits h.lt_bound

def keyText (k : SortKey) : String := k.column ++ ":" ++ k.direction

/-- A sort key is read back if no colon in its column comes before the one behind it. -/
theorem readSortKey?_keyText {k : SortKey} (h : ':' ∉ k.column.toList) :
    readSortKey? (keyText k) = some k := by
  have htext : (keyText k).toList = k.column.toList ++ ':' :: k.direction.toList := by
    simp [keyText]
  rw [readSortKey?, htext, Text.cut_append h]
  simp

theorem filterMap_readSortKey? {keys : List SortKey} (h : ∀ k ∈ keys, ':' ∉ k.column.toList) :
    (keys.map keyText).filterMap readSortKey? = keys := by
  induction keys with
  | nil => rfl
  | cons k keys ih =>
    have hk := readSortKey?_keyText (h k List.mem_cons_self)
    rw [List.map_cons, List.filterMap_cons_some hk,
      ih fun l hl => h l (List.mem_cons_of_mem k hl)]

/-- A column that is read back from a list of columns: there is something of it, it has no comma,
and no blanks around it. -/
structure IsColumn (column : String) : Prop where
  ne_empty : column ≠ ""
  comma : ',' ∉ column.toList
  trimmed : Text.trim column.toList = column.toList

instance (column : String) : Decidable (IsColumn column) :=
  decidable_of_iff (column ≠ "" ∧ ',' ∉ column.toList ∧
      Text.trim column.toList = column.toList)
    ⟨fun h => ⟨h.1, h.2.1, h.2.2⟩, fun h => ⟨h.1, h.2, h.3⟩⟩

/-- A column of this kind is the only one that is read from its text. -/
theorem readColumns_eq {column : String} (h : IsColumn column) : readColumns column = [column] := by
  have hsplit : column.toList.splitOn ',' = [column.toList] := List.splitOn_eq_singleton h.comma
  -- a text without characters would be dropped
  have hne : column.toList ≠ [] := fun hnil => h.ne_empty (String.toList_inj.1 hnil)
  simp [readColumns, hsplit, h.trimmed, hne]

theorem flatMap_readColumns {columns : List String} (h : ∀ column ∈ columns, IsColumn column) :
    columns.flatMap readColumns = columns := by
  induction columns with
  | nil => rfl
  | cons column columns ih =>
    rw [List.flatMap_cons, readColumns_eq (h column List.mem_cons_self),
      ih fun d hd => h d (List.mem_cons_of_mem column hd)]
    rfl

/-- A column is read from the name of its parameter. -/
theorem filterColumn?_append (start column : String) :
    filterColumn? start (start ++ column) = some column := by
  have hprefix : start.toList.isPrefixOf (start ++ column).toList = true := by
    rw [String.toList_append, List.isPrefixOf_iff_prefix]
    exact List.prefix_append _ _
  rw [filterColumn?, Text.after?, if_pos hprefix, String.toList_append, List.drop_left]
  simp

end Request

namespace Links

open Request

variable {page limit : Int} {sortBy : List SortKey} {search : Option String}
  {searchBy : Option (List String)} {filter : List (String × Statements)}

/-! ## The groups of a link -/

/-- The groups of parameters that do not filter. -/
def leadingGroups (page limit : Int) (sortBy : List SortKey) (search : Option String)
    (searchBy : Option (List String)) : List (String × List String) := [
  ("page", [intText page]),
  ("limit", [intText limit]),
  ("sortBy", sortBy.map keyText),
  ("search", search.toList.filter fun s => !s.isEmpty),
  ("searchBy", searchBy.getD [])]

/-- The groups of parameters that filter. -/
def filterGroups (filter : List (String × Statements)) : List (String × List String) :=
  filter.map fun e => ("filter." ++ e.1, e.2.toList)

/-- The parameters of a link are its groups. -/
theorem cons_parameters (page limit : Int) (sortBy : List SortKey) (search : Option String)
    (searchBy : Option (List String)) (filter : List (String × Statements)) :
    ("page", intText page) :: parameters limit sortBy search searchBy filter =
      Parameters.ungrouped
        (leadingGroups page limit sortBy search searchBy ++ filterGroups filter) := by
  simp [parameters, Parameters.ungrouped, leadingGroups, filterGroups, filterPairs, keyText,
    List.flatMap_map, Function.comp_def]

/-- The names of the leading groups are not those of filters. -/
theorem filterColumn?_leading :
    ∀ g ∈ leadingGroups page limit sortBy search searchBy, filterColumn? "filter." g.1 = none := by
  have hnames : ∀ name ∈ ["page", "limit", "sortBy", "search", "searchBy"],
      filterColumn? "filter." name = none := by decide +kernel
  intro g hg
  apply hnames
  simp only [leadingGroups, List.mem_cons, List.not_mem_nil, or_false] at hg
  rcases hg with rfl | rfl | rfl | rfl | rfl <;> simp

/-- No two groups of a link have one name, so none is read as part of another. -/
theorem nodup_groups (page limit : Int) (sortBy : List SortKey) (search : Option String)
    (searchBy : Option (List String)) (h : (filter.map Prod.fst).Nodup) :
    ((leadingGroups page limit sortBy search searchBy ++ filterGroups filter).map
      Prod.fst).Nodup := by
  rw [List.map_append, List.nodup_append]
  refine ⟨by simp [leadingGroups], ?_, ?_⟩
  · have hnames : (filterGroups filter).map Prod.fst =
        (filter.map Prod.fst).map fun column => "filter." ++ column := by
      simp [filterGroups, Function.comp_def]
    rw [hnames, List.nodup_iff_pairwise_ne, List.pairwise_map]
    -- a column is read back from the name of its group, so the names differ as the columns do
    apply h.imp
    intro a b hab heq
    have ha := filterColumn?_append "filter." a
    rw [heq, filterColumn?_append] at ha
    exact hab (Option.some.inj ha).symm
  · -- no column is read from the name of a leading group
    intro name hname other hother heq
    obtain ⟨g, hg, rfl⟩ := List.mem_map.1 hname
    obtain ⟨g', hg', rfl⟩ := List.mem_map.1 hother
    obtain ⟨e, -, rfl⟩ := List.mem_map.1 hg'
    have hnone := filterColumn?_leading g hg
    rw [heq, filterColumn?_append] at hnone
    cases hnone

/-- The column and the statements of a group that filters. -/
def readGroup? (g : String × List String) : Option (String × Statements) := do
  let column ← filterColumn? "filter." g.1
  let statements ← nonempty? g.2
  return (column, .ofList statements)

/-- Nothing is read from the leading groups, whether they have texts or not. -/
theorem filterMap_leading :
    ((leadingGroups page limit sortBy search searchBy).filter
      fun g => !g.2.isEmpty).filterMap readGroup? = [] := by
  rw [List.filterMap_eq_nil_iff]
  intro g hg
  rw [readGroup?, filterColumn?_leading g (List.mem_filter.1 hg).1]
  rfl

/-- From a group that filters its column and its statements are read, if there are statements. -/
theorem filterMap_filterGroups (filter : List (String × Statements)) :
    ((filterGroups filter).filter fun g => !g.2.isEmpty).filterMap readGroup? =
      (filter.filter fun e => !e.2.toList.isEmpty).map fun e => (e.1, e.2.collapse) := by
  induction filter with
  | nil => rfl
  | cons e filter ih =>
    rw [filterGroups] at ih
    rw [filterGroups, List.map_cons, List.filter_cons, List.filter_cons]
    by_cases hne : e.2.toList = []
    · -- a column without statements has a group without texts
      have hdropped : ¬(!e.2.toList.isEmpty) = true := by simp [hne]
      rw [if_neg hdropped, if_neg hdropped, ih]
    · have hread : readGroup? ("filter." ++ e.1, e.2.toList) = some (e.1, e.2.collapse) := by
        rw [readGroup?, filterColumn?_append]
        -- one statement or several: either way it is the collapsed list
        cases hl : e.2.toList with
        | nil => exact absurd hl hne
        | cons raw raws => simp [nonempty?, Statements.collapse, hl]
      have hkept : (!e.2.toList.isEmpty) = true := by simpa using hne
      rw [if_pos hkept, if_pos hkept, List.filterMap_cons_some hread, ih, List.map_cons]

/-- The entries of the filter that is read from a link. -/
theorem entries_readFilter (hnodup : (filter.map Prod.fst).Nodup) :
    (readFilter "filter." (.ofPairs (Parameters.ungrouped
      (leadingGroups page limit sortBy search searchBy ++ filterGroups filter)))).entries =
      (filter.filter fun e => !e.2.toList.isEmpty).map fun e => (e.1, e.2.collapse) := by
  have hread : (Parameters.ofPairs (Parameters.ungrouped
      (leadingGroups page limit sortBy search searchBy ++ filterGroups filter))).entries.filterMap
        readGroup? =
      (filter.filter fun e => !e.2.toList.isEmpty).map fun e => (e.1, e.2.collapse) := by
    rw [Parameters.entries_ofPairs_ungrouped (nodup_groups _ _ _ _ _ hnodup), List.filter_append,
      List.filterMap_append, filterMap_leading, filterMap_filterGroups, List.nil_append]
  have hdistinct : (((filter.filter fun e => !e.2.toList.isEmpty).map
      fun e => (e.1, e.2.collapse)).map Prod.fst).Nodup := by
    rw [List.map_map]
    exact hnodup.sublist (List.filter_sublist.map Prod.fst)
  show (Table.ofList (List.filterMap readGroup? _)).entries = _
  rw [hread, Table.entries_ofList hdistinct]

end Links

/-- What is left of a filter in a link: columns without statements are dropped, a list of one
statement is that statement, and a filter without columns is none. -/
def Filter.carried? (f : Filter) : Option Filter :=
  let kept := (f.filter fun statements => !statements.toList.isEmpty).map Statements.collapse
  if kept.isEmpty then none else some kept

/-- A filter with a statement for each of its columns is left as it is, up to lists of one. -/
theorem Filter.carried?_eq {f : Filter} (hne : f.entries ≠ [])
    (h : ∀ e ∈ f.entries, e.2.toList ≠ []) : f.carried? = some (f.map Statements.collapse) := by
  -- no column is dropped, as each has a statement
  have hkept : f.filter (fun statements => !statements.toList.isEmpty) = f := by
    apply Table.eq_of_entries
    apply List.filter_eq_self.2
    intro e he
    simpa using h e he
  have hsome : (f.map Statements.collapse).isEmpty = false := by
    simpa [Table.isEmpty, Table.map] using hne
  simp only [Filter.carried?, hkept, hsome, Bool.false_eq_true, if_false]

namespace Links

open Request

variable {page limit : Int} {sortBy : List SortKey} {search : Option String}
  {searchBy : Option (List String)}

/-! ## The request of a link -/

/-- What a link carries is written into an address as it is, and its columns are read as such.  A
column to sort by may have a colon, and lists may be empty. -/
structure Verbatim (sortBy : List SortKey) (search : Option String)
    (searchBy : Option (List String)) (filter : Option Filter) : Prop where
  sortBy : ∀ k ∈ sortBy, Plain k.column ∧ Plain k.direction
  search : ∀ term ∈ search, Plain term
  searchBy : ∀ columns ∈ searchBy, ∀ column ∈ columns, Plain column ∧ IsColumn column
  filter : ∀ f ∈ filter, ∀ e ∈ f.entries,
    Plain e.1 ∧ '=' ∉ e.1.toList ∧ ∀ raw ∈ e.2.toList, Plain raw

/-- The parameters of a link are written as they are. -/
theorem Verbatim.plainPair {filter : Option Filter} (h : Verbatim sortBy search searchBy filter) :
    ∀ p ∈ parameters limit sortBy search searchBy ((filter.map Table.entries).getD []),
      PlainPair p := by
  have hnames : ∀ name ∈ ["limit", "sortBy", "search", "searchBy", "filter.", ":"],
      Plain name ∧ '=' ∉ name.toList := by decide +kernel
  intro p hp
  simp only [parameters, List.mem_append, List.mem_singleton, List.mem_map, List.mem_filter,
    Option.mem_toList] at hp
  -- the page size, a sort key, the search, one of its columns, a statement
  rcases hp with (((rfl | ⟨k, hk, rfl⟩) | ⟨term, ⟨hterm, -⟩, rfl⟩) | ⟨column, hcolumn, rfl⟩) | hp
  · have hname := hnames "limit" (by simp)
    exact ⟨hname.1, hname.2, plain_intText limit⟩
  · have hname := hnames "sortBy" (by simp)
    obtain ⟨hcolumn, hdirection⟩ := h.sortBy k hk
    exact ⟨hname.1, hname.2, (hcolumn.append (hnames ":" (by simp)).1).append hdirection⟩
  · have hname := hnames "search" (by simp)
    exact ⟨hname.1, hname.2, h.search term hterm⟩
  · have hname := hnames "searchBy" (by simp)
    have hplain := forall_mem_getD.2 h.searchBy column hcolumn
    exact ⟨hname.1, hname.2, hplain.1⟩
  · have hname := hnames "filter." (by simp)
    cases filter with
    | none => cases hp
    | some f =>
      obtain ⟨e, he, hp⟩ := List.mem_flatMap.1 hp
      obtain ⟨raw, hraw, rfl⟩ := List.mem_map.1 hp
      obtain ⟨hcolumn, hequals, hraws⟩ := h.filter f rfl e he
      refine ⟨hname.1.append hcolumn, ?_, hraws raw hraw⟩
      rw [String.toList_append, List.mem_append, not_or]
      exact ⟨hname.2, hequals⟩

/-- The filter of a request survives in the parameters of its links. -/
theorem readFilter_link (filter : Option Filter) :
    let read := readFilter "filter." (.ofPairs (Parameters.ungrouped
      (leadingGroups page limit sortBy search searchBy ++
        filterGroups ((filter.map Table.entries).getD []))))
    (if read.isEmpty then none else some read) = filter.bind Filter.carried? := by
  intro read
  cases filter with
  | none =>
    have hentries : read.entries = [] := entries_readFilter List.nodup_nil
    simp [Table.isEmpty, hentries]
  | some f =>
    have hread : read = (f.filter fun statements => !statements.toList.isEmpty).map
        Statements.collapse := Table.eq_of_entries (entries_readFilter f.distinct)
    rw [hread]
    rfl

/-- A link is read as a request with everything that the link carries. -/
theorem ofAddress_verbatim {path : String} {filter : Option Filter}
    (hpath : Address.IsPath path.toList) (hpage : Writable page) (hlimit : Writable limit)
    (h : Verbatim sortBy search searchBy filter) :
    Request.ofAddress (addressText path page (suffix
      (parameters limit sortBy search searchBy ((filter.map Table.entries).getD [])))) =
      .ok {
        path := path
        page := some page
        limit := some limit
        sortBy := nonempty? ((sortBy.map keyText).filterMap readSortKey?)
        search := search.filter fun term => !term.isEmpty
        searchBy := nonempty? (searchBy.getD [])
        filter := filter.bind Filter.carried? } := by
  have hnodup : (((filter.map Table.entries).getD []).map Prod.fst).Nodup := by
    cases filter with
    | none => exact List.nodup_nil
    | some f => exact f.distinct
  have htexts := Parameters.texts_ofPairs_ungrouped
    (nodup_groups page limit sortBy search searchBy hnodup)
  -- an empty search is not written, so there is none to be read
  have hsearch : (search.toList.filter fun s => !s.isEmpty).head? =
      search.filter fun term => !term.isEmpty := by
    cases search with
    | none => rfl
    | some term => by_cases hterm : term.isEmpty <;> simp [Option.filter, hterm]
  have hcolumns : (searchBy.getD []).flatMap readColumns = searchBy.getD [] := by
    apply flatMap_readColumns
    intro column hcolumn
    exact (forall_mem_getD.2 h.searchBy column hcolumn).2
  rw [ofAddress_addressText hpath page h.plainPair, cons_parameters]
  congr 1
  simp only [ofParameters, htexts, readFilter_link]
  simp [leadingGroups, List.lookup_cons, readNumber?_intText hpage, readNumber?_intText hlimit,
    hsearch, hcolumns]

/-- What a link carries is read back just as it is: besides, no column to sort by has a colon, and
neither a search nor a filter nor one of its lists is empty. -/
structure Carries (sortBy : List SortKey) (search : Option String) (searchBy : Option (List String))
    (filter : Option Filter) : Prop where
  sortBy : ∀ k ∈ sortBy, Plain k.column ∧ ':' ∉ k.column.toList ∧ Plain k.direction
  search : ∀ term ∈ search, term ≠ "" ∧ Plain term
  searchBy : ∀ columns ∈ searchBy, ∀ column ∈ columns, Plain column ∧ IsColumn column
  filter : ∀ f ∈ filter, f.entries ≠ [] ∧ ∀ e ∈ f.entries,
    Plain e.1 ∧ '=' ∉ e.1.toList ∧ e.2.toList ≠ [] ∧ ∀ raw ∈ e.2.toList, Plain raw

/-- What is read back just as it is has been written as it is. -/
theorem Carries.verbatim {filter : Option Filter} (h : Carries sortBy search searchBy filter) :
    Verbatim sortBy search searchBy filter where
  sortBy k hk := ⟨(h.sortBy k hk).1, (h.sortBy k hk).2.2⟩
  search term hterm := (h.search term hterm).2
  searchBy := h.searchBy
  filter f hf e he := by
    obtain ⟨hcolumn, hequals, -, hraws⟩ := (h.filter f hf).2 e he
    exact ⟨hcolumn, hequals, hraws⟩

/-- Then the request has the same keys, search and columns, and the filter up to lists of one. -/
theorem ofAddress_link {path : String} {filter : Option Filter}
    (hpath : Address.IsPath path.toList) (hpage : Writable page) (hlimit : Writable limit)
    (h : Carries sortBy search searchBy filter) :
    Request.ofAddress (addressText path page (suffix
      (parameters limit sortBy search searchBy ((filter.map Table.entries).getD [])))) =
      .ok {
        path := path
        page := some page
        limit := some limit
        sortBy := nonempty? sortBy
        search := search
        searchBy := nonempty? (searchBy.getD [])
        filter := filter.map (Table.map Statements.collapse) } := by
  have hkeys := filterMap_readSortKey? fun k hk => (h.sortBy k hk).2.1
  have hsearch : (search.filter fun term => !term.isEmpty) = search := by
    cases search with
    | none => rfl
    | some term => simp [Option.filter, (h.search term rfl).1]
  have hfilter : filter.bind Filter.carried? = filter.map (Table.map Statements.collapse) := by
    cases filter with
    | none => rfl
    | some f =>
      obtain ⟨hne, hall⟩ := h.filter f rfl
      exact Filter.carried?_eq hne fun e he => (hall e he).2.2.1
  rw [ofAddress_verbatim hpath hpage hlimit h.verbatim, hkeys, hsearch, hfilter]

end Links

end Listing
