import Listing.Check.Request
import Listing.Page.Envelope
import Listing.Proofs.Request.Reading

/-!
# Requests pass their checks

A request written out as fields is accepted (`ofFields_fields`): it comes back as it is, but for
lists of one statement in its filter.  A request that is read from parameters has none, and so
nothing that can be read is turned away (`ofFields_ofParameters`).
-/

namespace Listing

namespace Check

variable {α β : Type}

@[simp] theorem passed_seq (f : α → β) (a : α) :
    (passed f : Check (α → β)) <*> passed a = passed (f a) := rfl

@[simp] theorem map_passed (f : α → β) (a : α) : f <$> (passed a : Check α) = passed (f a) := rfl

@[simp] theorem within_passed (step : Step) (a : α) : within step (passed a) = passed a := rfl

/-- Members that are written as values the check takes are taken. -/
theorem members_map {f : β → Check α} {g : α → β} (h : ∀ a, f (g a) = passed a) (position : Nat)
    (as : List α) : members f position (as.map g) = passed as := by
  induction as generalizing position with
  | nil => rfl
  | cons a as ih =>
    rw [List.map_cons, members, h, ih]
    rfl

/-- What may be left out is taken either way. -/
theorem optional_elim {f : Value → Check α} {g : α → Value} (h : ∀ a, f (g a) = passed a)
    (hnull : ∀ a, (g a).isNull = false) (o : Option α) :
    optional f (o.elim .null g) = passed o := by
  -- only a missing value is read as left out
  have hsome : ∀ v : Value, v.isNull = false → optional f v = (f v).map some := by
    intro v hv
    cases v with
    | null => cases hv
    | _ => rfl
  cases o with
  | none => rfl
  | some a =>
    rw [Option.elim_some, hsome (g a) (hnull a), h a]
    rfl

theorem text_written (s : String) : text (.text s) = passed s := rfl

theorem list_written {f : Value → Check α} {g : α → Value} (h : ∀ a, f (g a) = passed a)
    (as : List α) : list f (.list (as.map g)) = passed as := members_map h 0 as

/-- One statement or several: either is taken as it is written. -/
theorem statements_written (s : Statements) :
    statements (PageInfo.statementsValue s) = passed s := by
  cases s with
  | one raw => rfl
  | many raws =>
    have hmembers : members text 0 (raws.map .text) = passed raws := members_map text_written 0 raws
    simp only [statements, PageInfo.statementsValue, PageInfo.textsValue, Value.asText?,
      Value.items?, hmembers]

/-- A filter that is written column by column is read as the same filter. -/
theorem table_written (f : Filter) : table statements (PageInfo.filterValue f) = passed f := by
  have hentries : ∀ es : List (String × Statements),
      tableEntries statements (es.map fun e => (.text e.1, PageInfo.statementsValue e.2)) =
        passed es := by
    intro es
    induction es with
    | nil => rfl
    | cons e es ih =>
      rw [List.map_cons, tableEntries, statements_written, ih]
      rfl
  -- no column stands twice, so none replaces another
  have htable : Table.ofList f.entries = f :=
    Table.eq_of_entries (Table.entries_ofList f.distinct)
  show (tableEntries statements _).map Table.ofList = passed f
  rw [hentries]
  exact congrArg passed htable

end Check

namespace Request

/-- A request as the fields that it is made of. -/
def fields (r : Request) : Check.Fields := [
  ("path", .text r.path),
  ("page", r.page.elim .null .int),
  ("limit", r.limit.elim .null .int),
  ("sort_by", r.sortBy.elim .null fun keys =>
    .list (keys.map fun k => .tuple [.text k.column, .text k.direction])),
  ("search", r.search.elim .null .text),
  ("search_by", r.searchBy.elim .null PageInfo.textsValue),
  ("filter", r.filter.elim .null PageInfo.filterValue)]

open Check

/-- A request is made of its fields, but for lists of one statement. -/
theorem ofFields_fields (r : Request) :
    ofFields r.fields = .ok { r with filter := r.filter.map (Table.map Statements.collapse) } := by
  have hpath : required r.fields "path" text = passed r.path := rfl
  have hpage : field r.fields "page" none (optional integer) = passed r.page :=
    congrArg (within (.name "page"))
      (optional_elim (g := .int) (fun _ => rfl) (fun _ => rfl) r.page)
  have hlimit : field r.fields "limit" none (optional integer) = passed r.limit :=
    congrArg (within (.name "limit"))
      (optional_elim (g := .int) (fun _ => rfl) (fun _ => rfl) r.limit)
  have hsortBy : field r.fields "sort_by" none (optional (list sortKey)) = passed r.sortBy :=
    congrArg (within (.name "sort_by"))
      (optional_elim (list_written (f := sortKey)
        (g := fun k => .tuple [.text k.column, .text k.direction]) fun _ => rfl)
        (fun _ => rfl) r.sortBy)
  have hsearch : field r.fields "search" none (optional text) = passed r.search :=
    congrArg (within (.name "search")) (optional_elim text_written (fun _ => rfl) r.search)
  have hsearchBy : field r.fields "search_by" none (optional (list text)) = passed r.searchBy :=
    congrArg (within (.name "search_by"))
      (optional_elim (list_written text_written) (fun _ => rfl) r.searchBy)
  have hfilter : field r.fields "filter" none (optional (table statements)) = passed r.filter :=
    congrArg (within (.name "filter")) (optional_elim table_written (fun _ => rfl) r.filter)
  rw [ofFields, Check.request, hpath, hpage, hlimit, hsortBy, hsearch, hsearchBy, hfilter]
  rfl

/-- What is read from parameters is a request. -/
theorem ofFields_ofParameters (path : String) (ps : Parameters) :
    ofFields (ofParameters path ps).fields = .ok (ofParameters path ps) := by
  have hfilter : (ofParameters path ps).filter.map (Table.map Statements.collapse) =
      (ofParameters path ps).filter := by
    cases hf : (ofParameters path ps).filter with
    | none => rfl
    | some f =>
      -- a filter that was read has no list of one statement
      have hentries := ((asRead_ofParameters path ps {}).filter f hf).2
      have hcollapse : f.map Statements.collapse = f := by
        apply Table.eq_of_entries
        show f.entries.map (fun e => (e.1, e.2.collapse)) = f.entries
        apply (List.map_congr_left fun e he => ?_).trans (List.map_id _)
        rw [(hentries e he).2]
        rfl
      exact congrArg some hcollapse
  rw [ofFields_fields, hfilter]

end Request

end Listing
