import Listing.Proofs.Plan.Whitelist
import Listing.Proofs.Request.Reading

/-!
# What a search text does to links

A search text is written into the links of a page as it is.  What stands in it behind an ampersand
is read as parameters of its own, and a `#` in it ends all parameters.  This is all that gets out of
its own parameter (`readBack_search`), and only the parameters for the order, the search columns and
the filter are looked at (`spill`): two searches with the same spill, such as two texts without
these signs, have links that are read as requests that differ in the search only, and no search text
changes the page number or the page size (`currentLink_noninterference`).
-/

namespace Listing

/-! ## What a text spills -/

/-- Whether the parameters of a name say how a listing is ordered, which columns are searched or what
it is filtered by. -/
def Keys.shapes (keys : Keys) (name : String) : Bool :=
  name == keys.sortBy || name == keys.searchBy || (Request.filterColumn? keys.filter name).isSome

/-- The parameters that are read from a text itself: what stands behind its first ampersand. -/
def overflow (text : String) : List (String × String) :=
  Parameters.readPairs ((Text.cut '&' (Address.visible text.toList)).2.getD [])

/-- What a text changes besides the parameter that it is written into. -/
structure Spill where
  /-- The parameters that the text adds to those for the order, the search columns and the filter. -/
  pairs : List (String × String)
  /-- Nothing behind the text is read. -/
  ends : Bool
  deriving DecidableEq, Repr

/-- What a text spills when it is written as it is. -/
def spill (text : String) : Spill where
  pairs := (overflow text).filter fun p => Keys.shapes {} p.1
  ends := text.toList.contains '#'

/-- A text without ampersands and without the sign that ends parameters spills nothing. -/
theorem spill_eq_nothing {text : String} (h : ∀ c ∈ ['&', '#'], c ∉ text.toList) :
    spill text = ⟨[], false⟩ := by
  have hsign : '#' ∉ text.toList := h '#' (by simp)
  -- line breaks are taken out of an address before it is cut at the sign
  have hkept : '#' ∉ text.toList.filter fun c => !Address.isLineBreak c := fun hmem =>
    hsign (List.mem_filter.1 hmem).1
  have hparts : '&' ∉ Address.visible text.toList := by
    rw [Address.visible, Text.cut_of_not_mem hkept]
    exact fun hmem => h '&' (by simp) (List.mem_filter.1 hmem).1
  have hcontains : text.toList.contains '#' = false := by simpa using hsign
  rw [spill, overflow, Text.cut_of_not_mem hparts, hcontains]
  rfl

namespace Parameters

/-! ## Parameters of a text with a text written into it -/

/-- A name that is written as it is and a text: the parameter, and what the text holds behind an
ampersand. -/
theorem readPairs_named {name : String} (h : ∀ c ∈ ['&', '+', '%', '='], c ∉ name.toList)
    (text : List Char) :
    readPairs (name.toList ++ '=' :: text) =
      (name, String.ofList (Percent.decode (Text.cut '&' text).1)) ::
        readPairs ((Text.cut '&' text).2.getD []) := by
  -- a text without an ampersand belongs to the name as a whole
  have hsingle : ∀ cs, '&' ∉ cs →
      readPairs (name.toList ++ '=' :: cs) = [(name, String.ofList (Percent.decode cs))] := by
    intro cs hcs
    have hpiece : '&' ∉ name.toList ++ '=' :: cs := by simp [h '&' (by simp), hcs]
    have hname := Percent.decode_eq_self (h '+' (by simp)) (h '%' (by simp))
    rw [readPairs, List.splitOn_eq_singleton hpiece]
    simp [readPair, Text.cut_append (h '=' (by simp)), hname]
  -- otherwise only what stands in front of the first ampersand does
  by_cases hmem : '&' ∈ text
  · obtain ⟨own, rest, rfl, hown⟩ := List.eq_append_cons_of_mem hmem
    rw [Text.cut_append hown, ← List.cons_append, ← List.append_assoc, readPairs_append,
      hsingle own hown]
    rfl
  · rw [Text.cut_of_not_mem hmem, hsingle text hmem]
    rfl

end Parameters

namespace Links

open Parameters

variable {page limit : Int}

/-- Parameters written one after the other are read in two parts. -/
theorem toList_suffix_append (ps qs : List (String × String)) :
    (suffix (ps ++ qs)).toList = (suffix ps).toList ++ (suffix qs).toList := by
  rw [toList_suffix, toList_suffix, toList_suffix, List.flatMap_append]

theorem toList_suffix_cons (p : String × String) (ps : List (String × String)) :
    (suffix (p :: ps)).toList = '&' :: (encoded p ++ (suffix ps).toList) := by
  rw [toList_suffix, toList_suffix]
  rfl

/-- Whatever stands in front of them, the parameters of a link begin with an ampersand. -/
theorem readPairs_append_suffix (cs : List Char) (ps : List (String × String)) :
    readPairs (cs ++ Address.visible (suffix ps).toList) =
      readPairs cs ++ readPairs (Address.visible (suffix ps).toList) := by
  cases ps with
  | nil =>
    have hnil : Address.visible (suffix []).toList = [] := by decide
    rw [hnil, List.append_nil]
    exact (List.append_nil _).symm
  | cons p ps =>
    have hfirst : Address.visible (suffix (p :: ps)).toList =
        '&' :: Address.visible (encoded p ++ (suffix ps).toList) := by
      rw [toList_suffix_cons]
      have hampersand : '#' ∉ ['&'] := by decide
      exact Address.visible_append hampersand _
    rw [hfirst, readPairs_append, readPairs_cons]

/-- The parameters that are read from a link, for those written behind the page number. -/
def readBack (page : Int) (ps : List (String × String)) : List (String × String) :=
  readPairs (Address.visible (encoded ("page", intText page) ++ (suffix ps).toList))

/-- A link is read as the request of these parameters, whatever is written into it. -/
theorem ofAddress_readBack {path : String} (hpath : Address.IsPath path.toList) (page : Int)
    (ps : List (String × String)) :
    Request.ofAddress (addressText path page (suffix ps)) =
      .ok (Request.ofParameters path (.ofPairs (readBack page ps))) := by
  rw [Request.ofAddress, toList_addressText, Address.read_visible hpath, ← toList_suffix]
  simp only [Outcome.ok_bind, String.ofList_toList, ofText, String.toList_ofList]
  rfl

/-- The page number and the page size come first. -/
theorem readBack_numbers (page limit : Int) (ps : List (String × String)) :
    readBack page (("limit", intText limit) :: ps) =
      ("page", intText page) :: ("limit", intText limit) ::
        readPairs (Address.visible (suffix ps).toList) := by
  have hnames : ∀ name ∈ ["page", "limit"], Plain name ∧ '=' ∉ name.toList := by decide +kernel
  have hplain : ∀ p ∈ [("page", intText page), ("limit", intText limit)], PlainPair p := by
    intro p hp
    simp only [List.mem_cons, List.not_mem_nil, or_false] at hp
    rcases hp with rfl | rfl
    · exact ⟨(hnames "page" (by simp)).1, (hnames "page" (by simp)).2, plain_intText page⟩
    · exact ⟨(hnames "limit" (by simp)).1, (hnames "limit" (by simp)).2, plain_intText limit⟩
  have hread :
      readPairs (encoded ("page", intText page) ++ '&' :: encoded ("limit", intText limit)) =
        [("page", intText page), ("limit", intText limit)] := by
    have hpairs := readPairs_encoded fun p hp => (hplain p hp).unencoded
    simpa using hpairs
  have hsigns : ∀ c ∈ ['#', '\t', '\r', '\n'],
      c ∉ encoded ("page", intText page) ++ '&' :: encoded ("limit", intText limit) := by
    intro c hc hmem
    rcases List.mem_append.1 hmem with hmem | hmem
    · exact (hplain _ (by simp)).encoded c hc hmem
    · rcases List.mem_cons.1 hmem with rfl | hmem
      · simp at hc
      · exact (hplain _ (by simp)).encoded c hc hmem
  rw [readBack, toList_suffix_cons, ← List.cons_append, ← List.append_assoc,
    Address.visible_append (hsigns '#' (by simp)), Address.visible_eq_self hsigns,
    readPairs_append_suffix, hread]
  rfl

/-- The parameters of a link with a search text: those in front of it, its own, those in it, and those
behind it unless it ends them. -/
theorem readBack_search (page : Int) (lead trail : List (String × String)) (text : String) :
    let front := encoded ("page", intText page) ++ (suffix lead).toList
    readBack page (lead ++ ("search", text) :: trail) =
      if '#' ∈ front then readPairs (Address.visible front)
      else readPairs (Address.visible front) ++
        ("search",
          String.ofList (Percent.decode (Text.cut '&' (Address.visible text.toList)).1)) ::
            (overflow text ++
              if (spill text).ends then []
              else readPairs (Address.visible (suffix trail).toList)) := by
  intro front
  have hname : ∀ c ∈ ['&', '+', '%', '='], c ∉ "search".toList := by simp
  -- the text stands between two groups of parameters
  have htext : encoded ("page", intText page) ++
      (suffix (lead ++ ("search", text) :: trail)).toList =
        front ++ '&' :: ("search=".toList ++ (text.toList ++ (suffix trail).toList)) := by
    rw [toList_suffix_append, toList_suffix_cons, ← List.append_assoc]
    simp [front, encoded]
  rw [readBack, htext]
  split
  · next hends => rw [Address.visible_append_of_mem hends]
  · next hopen =>
    have hsearch : '#' ∉ "&search=".toList := by decide
    have hbehind : Address.visible
        ('&' :: ("search=".toList ++ (text.toList ++ (suffix trail).toList))) =
          '&' :: ("search".toList ++
            '=' :: Address.visible (text.toList ++ (suffix trail).toList)) :=
      Address.visible_append hsearch _
    rw [Address.visible_append hopen, hbehind, readPairs_append]
    congr 1
    by_cases hmem : '#' ∈ text.toList
    · -- the text ends the parameters
      have hspill : (spill text).ends = true := by simpa [spill] using hmem
      rw [Address.visible_append_of_mem hmem, readPairs_named hname, if_pos hspill,
        List.append_nil]
      rfl
    · have hspill : ¬(spill text).ends = true := by simpa [spill] using hmem
      rw [Address.visible_append hmem, ← List.cons_append, ← List.append_assoc,
        readPairs_append_suffix, readPairs_named hname, if_neg hspill]
      rfl

end Links

namespace Request

open Links

variable {α : Type} {c : Config}

/-! ## Requests that differ in the search -/

/-- The request with a text to search for. -/
def searching (r : Request) (text : String) : Request := { r with search := some text }

theorem path_ofParameters (path : String) (ps : Parameters) :
    (ofParameters path ps).path = path := rfl

section

variable {keys : Keys} {pairs pairs' : List (String × String)}

/-- The texts of a name that shapes a listing come from the pairs of such names. -/
theorem texts_of_shapes {name : String} (hname : keys.shapes name = true)
    (h : pairs'.filter (fun p => keys.shapes p.1) = pairs.filter fun p => keys.shapes p.1) :
    (Parameters.ofPairs pairs').texts name = (Parameters.ofPairs pairs).texts name := by
  have hshaping : ∀ ps : List (String × String),
      ps.filter (fun p => p.1 == name) =
        (ps.filter fun p => keys.shapes p.1).filter fun p => p.1 == name := by
    intro ps
    rw [List.filter_filter]
    apply List.filter_congr
    intro p _
    by_cases hp : p.1 = name
    · simp [hp, hname]
    · simp [hp]
  rw [Parameters.texts_ofPairs, Parameters.texts_ofPairs, hshaping pairs', h, ← hshaping pairs]

/-- A filter is read from the pairs of names that shape a listing. -/
theorem readFilter_of_shapes
    (h : pairs'.filter (fun p => keys.shapes p.1) = pairs.filter fun p => keys.shapes p.1) :
    readFilter keys.filter (.ofPairs pairs') = readFilter keys.filter (.ofPairs pairs) := by
  have hshaping : ∀ ps : List (String × String),
      (readFilter keys.filter (.ofPairs ps)).entries =
        (Parameters.ofPairs (ps.filter fun p => keys.shapes p.1)).entries.filterMap
          (readColumn? keys.filter) := by
    intro ps
    rw [entries_readFilter_eq, ← Parameters.entries_ofPairs_filter, List.filterMap_filter]
    congr 1
    funext e
    split
    · rfl
    · next he =>
      -- nothing is read from the other names
      have hcolumn : filterColumn? keys.filter e.1 = none := by
        rw [Keys.shapes, Bool.or_eq_true, not_or] at he
        simpa using he.2
      rw [readColumn?, hcolumn]
      rfl
  apply Table.eq_of_entries
  rw [hshaping, hshaping, h]

/-- Pairs that have the same for the order, the search columns and the filter make requests that have
them in common. -/
theorem ofParameters_of_shapes (path : String)
    (h : pairs'.filter (fun p => keys.shapes p.1) = pairs.filter fun p => keys.shapes p.1) :
    (ofParameters path (.ofPairs pairs') keys).sortBy =
        (ofParameters path (.ofPairs pairs) keys).sortBy ∧
      (ofParameters path (.ofPairs pairs') keys).searchBy =
        (ofParameters path (.ofPairs pairs) keys).searchBy ∧
      (ofParameters path (.ofPairs pairs') keys).filter =
        (ofParameters path (.ofPairs pairs) keys).filter := by
  have hsortBy : keys.shapes keys.sortBy = true := by simp [Keys.shapes]
  have hsearchBy : keys.shapes keys.searchBy = true := by simp [Keys.shapes]
  simp only [ofParameters, readFilter_of_shapes h, texts_of_shapes hsortBy h,
    texts_of_shapes hsearchBy h, and_self]

end

/-- Searches that spill the same leave the same parameters for what is listed besides them. -/
theorem readBack_of_spill {text text' : String} (h : spill text' = spill text) (page : Int)
    (lead trail : List (String × String)) :
    (readBack page (lead ++ ("search", text') :: trail)).filter (fun p => Keys.shapes {} p.1) =
      (readBack page (lead ++ ("search", text) :: trail)).filter fun p => Keys.shapes {} p.1 := by
  have hoverflow : (overflow text').filter (fun p => Keys.shapes {} p.1) =
      (overflow text).filter fun p => Keys.shapes {} p.1 := congrArg Spill.pairs h
  have hsearch : Keys.shapes {} "search" = false := by decide +kernel
  rw [readBack_search, readBack_search, h]
  -- a sign in front of the text ends both links alike
  split
  · rfl
  · rw [List.filter_append, List.filter_append, List.filter_cons, List.filter_cons,
      List.filter_append, List.filter_append, hoverflow, hsearch]
    rfl

/-- The page number and the page size are read from a link as they were written. -/
theorem readBack_page_limit {page limit : Int} (hpage : Writable page) (hlimit : Writable limit)
    (path : String) (ps : List (String × String)) :
    (ofParameters path (.ofPairs (readBack page (("limit", intText limit) :: ps)))).page =
        some page ∧
      (ofParameters path (.ofPairs (readBack page (("limit", intText limit) :: ps)))).limit =
        some limit := by
  simp only [ofParameters, Parameters.texts_ofPairs, readBack_numbers, List.filter_cons]
  exact ⟨readNumber?_intText hpage _, readNumber?_intText hlimit _⟩

def leadParameters (limit : Int) (sortBy : List SortKey) : List (String × String) :=
  ("limit", intText limit) :: sortBy.map fun k => ("sortBy", keyText k)

def trailParameters (r : Request) (searchBy : List String) : List (String × String) :=
  ((r.searchBy.map fun _ => searchBy).getD []).map (fun column => ("searchBy", column)) ++
    filterPairs ((r.filter.map Table.entries).getD [])

/-- A search that is not empty stands between the sort keys and the columns. -/
theorem linkParameters_searching (r : Request) (limit : Int) (sortBy : List SortKey)
    (searchBy : List String) {text : String} (h : text ≠ "") :
    (r.searching text).linkParameters limit sortBy searchBy =
      leadParameters limit sortBy ++ ("search", text) :: r.trailParameters searchBy := by
  simp [linkParameters, parameters, searching, leadParameters, trailParameters, keyText, h]

/-- The request that is read from the link of a page to itself, for a text to search for. -/
def readSearching (r : Request) (c : Config) (keys : List SortKey) (text : String) : Request :=
  ofParameters r.path (.ofPairs (readBack (resolvePage r.page)
    (leadParameters (c.resolveLimit r.limit) keys ++
      ("search", text) :: r.trailParameters (c.resolveSearch r.searchBy))))

/-- The link of a page to itself is read as that request, whatever the text has in it. -/
theorem ofAddress_searching {r : Request} (hpath : Address.IsPath r.path.toList) (c : Config)
    (keys : List SortKey) {text : String} (h : text ≠ "") (items : List α) (total : Int) :
    ofAddress ((r.searching text).answer (resolvePage r.page) (c.resolveLimit r.limit) keys
      (c.resolveSearch r.searchBy) items total).links.current =
      .ok (r.readSearching c keys text) := by
  rw [readSearching, ← linkParameters_searching r _ keys _ h]
  exact ofAddress_readBack hpath _ _

theorem readSearching_path (r : Request) (c : Config) (keys : List SortKey) (text : String) :
    (r.readSearching c keys text).path = r.path := path_ofParameters _ _

/-- No search text changes the page number or the page size that is read. -/
theorem readSearching_page {r : Request} {c : Config} (hpage : Writable (resolvePage r.page))
    (hlimit : Writable (c.resolveLimit r.limit)) (keys : List SortKey) (text : String) :
    (r.readSearching c keys text).page = some (resolvePage r.page) ∧
      (r.readSearching c keys text).limit = some (c.resolveLimit r.limit) :=
  readBack_page_limit hpage hlimit r.path _

/-- Texts with the same spill leave what is listed besides the search as it is. -/
theorem readSearching_of_spill {text text' : String} (h : spill text' = spill text) (r : Request)
    (c : Config) (keys : List SortKey) :
    (r.readSearching c keys text').sortBy = (r.readSearching c keys text).sortBy ∧
      (r.readSearching c keys text').searchBy = (r.readSearching c keys text).searchBy ∧
      (r.readSearching c keys text').filter = (r.readSearching c keys text).filter :=
  ofParameters_of_shapes r.path (readBack_of_spill h _ _ _)

/-- What is read from the link of a page to itself is its page number and page size, whatever is
searched, and of requests that differ in the search only, with the same spill, it is the same
besides the search. -/
theorem currentLink_noninterference (r : Request) {c : Config} (hs : c.sortable ≠ [])
    (hpath : Address.IsPath r.path.toList) {text text' : String} (htext : text ≠ "")
    (htext' : text' ≠ "") :
    ∃ plan plan', (r.searching text).plan c = .ok plan ∧ (r.searching text').plan c = .ok plan' ∧
      ∀ {α : Type} (executor : Executor α) (items items' : List α) (total : Int),
        executor plan = .ok (items, total) → executor plan' = .ok (items', total) →
        ((r.searching text).paginate executor c = .error .tooManyDigits ∧
          (r.searching text').paginate executor c = .error .tooManyDigits) ∨
        ∃ p p' q q', (r.searching text).paginate executor c = .ok p ∧
          (r.searching text').paginate executor c = .ok p' ∧
          ofAddress p.links.current = .ok q ∧ ofAddress p'.links.current = .ok q' ∧
          (q.path = r.path ∧ q'.path = r.path) ∧
          (q.page = some (resolvePage r.page) ∧ q'.page = q.page) ∧
          (q.limit = some (c.resolveLimit r.limit) ∧ q'.limit = q.limit) ∧
          (spill text' = spill text →
            q'.sortBy = q.sortBy ∧ q'.searchBy = q.searchBy ∧ q'.filter = q.filter) := by
  obtain ⟨keys, hkeys, -⟩ := Config.exists_resolveSort hs r.sortBy
  refine ⟨_, _, plan_eq_ok.2 ⟨keys, hkeys, rfl⟩, plan_eq_ok.2 ⟨keys, hkeys, rfl⟩, ?_⟩
  intro α executor items items' total hfetch hfetch'
  obtain ⟨hanswer, hfault⟩ := paginate_of_fetched (r := r.searching text) executor hkeys hfetch
  obtain ⟨hanswer', hfault'⟩ := paginate_of_fetched (r := r.searching text') executor hkeys hfetch'
  -- the numbers in the links are those of both pages, so both answers are there or neither is
  by_cases hw : Writable (c.resolveLimit r.limit) ∧ Writable (resolvePage r.page) ∧
      Writable (pageCount total (c.resolveLimit r.limit))
  · right
    obtain ⟨hpage, hlimit⟩ := readSearching_page hw.2.1 hw.1 keys text
    obtain ⟨hpage', hlimit'⟩ := readSearching_page hw.2.1 hw.1 keys text'
    exact ⟨_, _, r.readSearching c keys text, r.readSearching c keys text', hanswer hw, hanswer' hw,
      ofAddress_searching hpath c keys htext items total,
      ofAddress_searching hpath c keys htext' items' total,
      ⟨readSearching_path r c keys text, readSearching_path r c keys text'⟩,
      ⟨hpage, hpage'.trans hpage.symm⟩, ⟨hlimit, hlimit'.trans hlimit.symm⟩,
      fun hspill => readSearching_of_spill hspill r c keys⟩
  · exact Or.inl ⟨hfault hw, hfault' hw⟩

def catConfig : Config where
  sortable := ["name", "age"]
  searchable := some ["name"]
  maxLimit := 70
  defaultSort := none
  defaultLimit := 12
  criteria := none
  filterable := .ofList [("age", [.gt])]
  maxLimit_pos := by decide
  defaultLimit_pos := by decide

def catRequest : Request :=
  ⟨"/cats", some 2, none, some [⟨"name", "ASC"⟩], none, none,
    some (.ofList [("age", .one "$gt:3")])⟩

/-- The request that is read from the link to the page itself, when cats are searched. -/
def readCats (text : String) : Option Request :=
  let page := (catRequest.searching text).paginate (fun _ => .ok (([] : List Nat), 30)) catConfig
  page.toOption.bind fun p => (ofAddress p.links.current).toOption

/-- A text with signs that encode characters, one that is dropped and an ampersand in front of
something that is no parameter of the listing changes nothing but the search. -/
theorem currentLink_noninterference_cats :
    Address.IsPath catRequest.path.toList ∧ spill "50%+\tof toms & cats" = spill "tom" ∧
      ∃ q q', readCats "tom" = some q ∧ readCats "50%+\tof toms & cats" = some q' ∧
        q'.page = some 2 ∧ q'.limit = some 12 ∧ q'.sortBy = some [⟨"name", "ASC"⟩] ∧
        q'.searchBy = none ∧ q'.filter = q.filter := by
  have hsortable : catConfig.sortable ≠ [] := List.cons_ne_nil _ _
  have hpath : Address.IsPath catRequest.path.toList := by decide +kernel
  have hspill : spill "50%+\tof toms & cats" = spill "tom" := by
    have hnothing : spill "tom" = ⟨[], false⟩ := spill_eq_nothing (by simp)
    rw [hnothing]
    decide +kernel
  have hread : (readCats "tom").map (fun q => (q.sortBy, q.searchBy)) =
      some (some [⟨"name", "ASC"⟩], none) := by decide +kernel
  have htext : "tom" ≠ "" := by decide
  have htext' : "50%+\tof toms & cats" ≠ "" := by decide
  obtain ⟨plan, plan', -, -, hanswers⟩ :=
    currentLink_noninterference catRequest hsortable hpath htext htext'
  rcases hanswers (fun _ => .ok (([] : List Nat), 30)) [] [] 30 rfl rfl with
    ⟨hfault, -⟩ | ⟨p, p', q, q', hp, hp', hq, hq', -, ⟨hpage, hpage'⟩, ⟨hlimit, hlimit'⟩, hsame⟩
  · rw [readCats, hfault] at hread
    cases hread
  · have hq : readCats "tom" = some q := by
      rw [readCats, hp]
      exact congrArg Except.toOption hq
    have hq' : readCats "50%+\tof toms & cats" = some q' := by
      rw [readCats, hp']
      exact congrArg Except.toOption hq'
    rw [hq, Option.map_some, Option.some.injEq, Prod.mk.injEq] at hread
    obtain ⟨hsortBy, hsearchBy, hfilter⟩ := hsame hspill
    exact ⟨hpath, hspill, q, q', hq, hq', hpage'.trans hpage, hlimit'.trans hlimit,
      hsortBy.trans hread.1, hsearchBy.trans hread.2, hfilter⟩

/-- A text with an ampersand brings a sort key and a filter of its own into the link, and one with
the sign that ends parameters takes the filter out of it. -/
theorem currentLink_injected :
    let filtered (q : Request) : Option (List String) :=
      (q.filter.bind (·.lookup "age")).map Statements.toList
    Address.IsPath catRequest.path.toList ∧ catConfig.sortable ≠ [] ∧
      (readCats "tom").map (fun q => (q.sortBy, filtered q)) =
        some (some [⟨"name", "ASC"⟩], some ["$gt:3"]) ∧
      (readCats "tom&sortBy=age:DESC&filter.age=$gt:9").map (fun q => (q.sortBy, filtered q)) =
        some (some [⟨"name", "ASC"⟩, ⟨"age", "DESC"⟩], some ["$gt:9", "$gt:3"]) ∧
      (readCats "tom#").map (fun q => (q.sortBy, filtered q)) =
        some (some [⟨"name", "ASC"⟩], none) := by
  refine ⟨?_, List.cons_ne_nil _ _, ?_, ?_, ?_⟩ <;> decide +kernel

end Request

end Listing
