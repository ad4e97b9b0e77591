import Listing.Proofs.Request.Reading

/-!
# Reading undoes writing

A request that is written as a link and read again keeps its sort keys, its search, its columns and
its statements, all in order; only what is empty goes (`read_link`).  The texts must be such as an
address keeps, and a name must not have the sign that ends it.  Requests that were themselves read
have such names already, all but the column of a filter whose name was sent with an encoded equals
sign (`link_read_back`).
-/

namespace Listing

open Links

namespace Request

/-! ## The link of a request -/

/-- The link of a request to a page of a size. -/
def link (r : Request) (page limit : Int) : Outcome String := do
  let ps ← Links.pairs limit (r.sortBy.getD []) r.search r.searchBy
    ((r.filter.map Table.entries).getD [])
  Links.address r.path page (Links.suffix ps)

/-- What a link keeps of a request: lists that are empty are none, and so is an empty search. -/
def kept (r : Request) (page limit : Int) : Request where
  path := r.path
  page := some page
  limit := some limit
  sortBy := r.sortBy.bind nonempty?
  search := r.search.filter fun term => !term.isEmpty
  searchBy := r.searchBy.bind nonempty?
  filter := r.filter.bind Filter.carried?

/-- The texts of a request are written into an address as they are. -/
structure IsPlain (r : Request) : Prop where
  sortBy : ∀ keys ∈ r.sortBy, ∀ k ∈ keys, Plain k.column ∧ Plain k.direction
  search : ∀ term ∈ r.search, Plain term
  searchBy : ∀ columns ∈ r.searchBy, ∀ column ∈ columns, Plain column
  filter : ∀ f ∈ r.filter, ∀ e ∈ f.entries, Plain e.1 ∧ ∀ raw ∈ e.2.toList, Plain raw

/-- The names in a request end where the sign behind them stands. -/
structure IsParted (r : Request) : Prop where
  sortBy : ∀ keys ∈ r.sortBy, ∀ k ∈ keys, ':' ∉ k.column.toList
  searchBy : ∀ columns ∈ r.searchBy, ∀ column ∈ columns, IsColumn column
  filter : ∀ f ∈ r.filter, ∀ e ∈ f.entries, '=' ∉ e.1.toList

instance (r : Request) : Decidable r.IsPlain :=
  decidable_of_iff
    ((∀ keys ∈ r.sortBy, ∀ k ∈ keys, Plain k.column ∧ Plain k.direction) ∧
      (∀ term ∈ r.search, Plain term) ∧
      (∀ columns ∈ r.searchBy, ∀ column ∈ columns, Plain column) ∧
      ∀ f ∈ r.filter, ∀ e ∈ f.entries, Plain e.1 ∧ ∀ raw ∈ e.2.toList, Plain raw)
    ⟨fun h => ⟨h.1, h.2.1, h.2.2.1, h.2.2.2⟩, fun h => ⟨h.1, h.2, h.3, h.4⟩⟩

instance (r : Request) : Decidable r.IsParted :=
  decidable_of_iff
    ((∀ keys ∈ r.sortBy, ∀ k ∈ keys, ':' ∉ k.column.toList) ∧
      (∀ columns ∈ r.searchBy, ∀ column ∈ columns, IsColumn column) ∧
      ∀ f ∈ r.filter, ∀ e ∈ f.entries, '=' ∉ e.1.toList)
    ⟨fun h => ⟨h.1, h.2.1, h.2.2⟩, fun h => ⟨h.1, h.2, h.3⟩⟩

variable {r : Request}

/-- Both together are what links are written from without loss. -/
theorem IsPlain.verbatim (hplain : r.IsPlain) (hparted : r.IsParted) :
    Verbatim (r.sortBy.getD []) r.search r.searchBy r.filter where
  sortBy := forall_mem_getD.2 hplain.sortBy
  search := hplain.search
  searchBy columns hcolumns column hcolumn :=
    ⟨hplain.searchBy columns hcolumns column hcolumn,
      hparted.searchBy columns hcolumns column hcolumn⟩
  filter f hf e he := by
    obtain ⟨hcolumn, hraws⟩ := hplain.filter f hf e he
    exact ⟨hcolumn, hparted.filter f hf e he, hraws⟩

/-- A link is there when its numbers can be written. -/
theorem link_eq (r : Request) (page limit : Int) :
    r.link page limit =
      if Writable page ∧ Writable limit then
        .ok (addressText r.path page (suffix (parameters limit (r.sortBy.getD []) r.search
          r.searchBy ((r.filter.map Table.entries).getD []))))
      else .error .tooManyDigits := by
  rw [link, pairs_eq]
  by_cases hlimit : Writable limit
  · rw [if_pos hlimit, Outcome.ok_bind, address_eq]
    simp [hlimit]
  · simp [hlimit]

/-- Reading a link gives what it keeps of the request. -/
theorem read_link (hpath : Address.IsPath r.path.toList) (hplain : r.IsPlain)
    (hparted : r.IsParted) (page limit : Int) :
    (r.link page limit >>= ofAddress) =
      if Writable page ∧ Writable limit then .ok (r.kept page limit)
      else .error .tooManyDigits := by
  rw [link_eq]
  split
  · next hw =>
    -- a sort key is cut at its first colon, and its column has none
    have hkeys : ((r.sortBy.getD []).map keyText).filterMap readSortKey? = r.sortBy.getD [] :=
      filterMap_readSortKey? (forall_mem_getD.2 hparted.sortBy)
    rw [Outcome.ok_bind, ofAddress_verbatim hpath hw.1 hw.2 (hplain.verbatim hparted), hkeys,
      nonempty?_getD, nonempty?_getD]
    rfl
  · rfl

/-! ## Requests that were read -/

/-- Only the equals sign in the name of a filter has to be asked for. -/
theorem AsRead.isParted (h : r.AsRead)
    (hequals : ∀ f ∈ r.filter, ∀ e ∈ f.entries, '=' ∉ e.1.toList) : r.IsParted where
  sortBy keys hkeys := (h.sortBy keys hkeys).2
  searchBy columns hcolumns := (h.searchBy columns hcolumns).2
  filter := hequals

/-- A request that was read has nothing empty to lose but its search. -/
theorem AsRead.kept_eq (h : r.AsRead) (page limit : Int) :
    r.kept page limit = { r with
      page := some page
      limit := some limit
      search := r.search.filter fun term => !term.isEmpty } := by
  have hsort : r.sortBy.bind nonempty? = r.sortBy :=
    bind_nonempty?_eq_self fun keys hkeys => (h.sortBy keys hkeys).1
  have hsearch : r.searchBy.bind nonempty? = r.searchBy :=
    bind_nonempty?_eq_self fun columns hcolumns => (h.searchBy columns hcolumns).1
  have hfilter : r.filter.bind Filter.carried? = r.filter := by
    cases hf : r.filter with
    | none => rfl
    | some f =>
      obtain ⟨hne, hall⟩ := h.filter f hf
      -- a column that was read once has a statement, not a list of one
      have hcollapse : f.map Statements.collapse = f := by
        apply Table.eq_of_entries
        apply (List.map_congr_left _).trans (List.map_id _)
        intro e he
        show (e.1, e.2.collapse) = e
        rw [(hall e he).2]
      rw [Option.bind_some, Filter.carried?_eq hne fun e he => (hall e he).1, hcollapse]
  simp only [kept, hsort, hsearch, hfilter]

/-- Reading undoes writing, for every request whose texts and names an address keeps.  A request
that was read from parameters has such names, as long as none of them is the name of a filter with
an encoded equals sign, and then only an empty search is lost. -/
theorem link_read_back :
    (∀ (r : Request) (page limit : Int),
      Address.IsPath r.path.toList → r.IsPlain → r.IsParted →
        (r.link page limit >>= ofAddress) =
          if Writable page ∧ Writable limit then .ok (r.kept page limit)
          else .error .tooManyDigits) ∧
    ∀ (path s : String), let r := ofParameters path (.ofText s)
      r.AsRead ∧
      (∀ f ∈ r.filter, ∀ e ∈ f.entries, ('=' ∈ e.1.toList ↔
        ∃ piece ∈ s.toList.splitOn '&', (Parameters.readPair piece).1 = "filter." ++ e.1 ∧
          Percent.EncodesEquals (Text.cut '=' piece).1)) ∧
      ∀ page limit : Int, Address.IsPath path.toList → r.IsPlain →
        (∀ f ∈ r.filter, ∀ e ∈ f.entries, '=' ∉ e.1.toList) →
          (r.link page limit >>= ofAddress) =
            if Writable page ∧ Writable limit then
              .ok { r with
                page := some page
                limit := some limit
                search := r.search.filter fun term => !term.isEmpty }
            else .error .tooManyDigits := by
  constructor
  · intro r page limit hpath hplain hparted
    exact read_link hpath hplain hparted page limit
  · intro path s r
    -- reading leaves nothing empty, whatever the text
    have hread : r.AsRead := asRead_ofParameters path (.ofText s) {}
    refine ⟨hread, ?_, ?_⟩
    · intro f hf e he
      exact equals_mem_column_iff hf he
    · intro page limit hpath hplain hequals
      rw [read_link hpath hplain (hread.isParted hequals) page limit, hread.kept_eq]

/-- A request with signs in its texts, a list of one statement and a column without statements. -/
def signsRequest : Request where
  path := "/cats/a:b"
  page := none
  limit := none
  sortBy := some [⟨"name", "DESC:x"⟩, ⟨"name", "ASC"⟩]
  search := some "x=1, y?"
  searchBy := some ["name", "fur colour"]
  filter := some (.ofList [("fur", .many []), ("age", .many ["$gte:3", "a=b"]),
    ("name", .many ["$in:x,y"])])

/-- Its link keeps all of it but that column; and so do the links of a request that was read, here
with an encoded space and an encoded dollar sign. -/
theorem link_read_back_signs :
    (Address.IsPath signsRequest.path.toList ∧ signsRequest.IsPlain ∧ signsRequest.IsParted ∧
      (signsRequest.kept 2 5).filter.map Table.entries =
        some [("age", .many ["$gte:3", "a=b"]), ("name", .one "$in:x,y")] ∧
      (signsRequest.link 2 5 >>= ofAddress) = .ok (signsRequest.kept 2 5)) ∧
    let r := ofParameters "/cats" (.ofText "sortBy=name:ASC&search=&filter.fur+age=%24gte:3")
    r.filter.map Table.entries = some [("fur age", .one "$gte:3")] ∧
      Address.IsPath "/cats".toList ∧ r.IsPlain ∧
      (∀ f ∈ r.filter, ∀ e ∈ f.entries, '=' ∉ e.1.toList) ∧
      (r.link 2 5 >>= ofAddress) = .ok { r with
        page := some 2
        limit := some 5
        search := r.search.filter fun term => !term.isEmpty } := by
  have hsmall : Writable 2 ∧ Writable 5 :=
    ⟨Writable.of_lt_ten (by decide), Writable.of_lt_ten (by decide)⟩
  constructor
  · have hpath : Address.IsPath signsRequest.path.toList := by decide +kernel
    have hplain : signsRequest.IsPlain := by decide +kernel
    have hparted : signsRequest.IsParted := by decide +kernel
    have hread := link_read_back.1 signsRequest 2 5 hpath hplain hparted
    rw [if_pos hsmall] at hread
    exact ⟨hpath, hplain, hparted, by decide +kernel, hread⟩
  · intro r
    have hpath : Address.IsPath "/cats".toList := by decide +kernel
    have hplain : r.IsPlain := by decide +kernel
    have hequals : ∀ f ∈ r.filter, ∀ e ∈ f.entries, '=' ∉ e.1.toList := by decide +kernel
    have hread := (link_read_back.2 "/cats"
      "sortBy=name:ASC&search=&filter.fur+age=%24gte:3").2.2 2 5 hpath hplain hequals
    rw [if_pos hsmall] at hread
    exact ⟨by decide +kernel, hpath, hplain, hequals, hread⟩

/-- The column of a filter can be read with an equals sign, and its link gives another column then;
and a page number with one digit too many has no link at all. -/
theorem link_not_read_back :
    let r := ofParameters "/x" (.ofText "filter.a%3Db=x")
    (Address.IsPath r.path.toList ∧ r.IsPlain ∧ ¬r.IsParted ∧
      r.filter.map Table.entries = some [("a=b", .one "x")] ∧
      ((r.link 1 8 >>= ofAddress).toOption.bind fun q => q.filter.map Table.entries) =
        some [("a", .one "b=x")]) ∧
    Address.IsPath signsRequest.path.toList ∧ signsRequest.IsPlain ∧ signsRequest.IsParted ∧
      (signsRequest.link (Nat.pow 10 Numeral.maxDigits) 5 >>= ofAddress) =
        .error .tooManyDigits := by
  intro r
  constructor
  · exact ⟨by decide +kernel, by decide +kernel, by decide +kernel, by decide +kernel,
      by decide +kernel⟩
  · have hfar : ¬(Writable (Nat.pow 10 Numeral.maxDigits) ∧ Writable 5) := by
      rintro ⟨hw, -⟩
      have hlt := hw.lt_bound
      omega
    refine ⟨by decide +kernel, by decide +kernel, by decide +kernel, ?_⟩
    rw [link_eq, if_neg hfar]
    rfl

end Request

end Listing
