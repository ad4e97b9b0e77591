import Listing.Value.Basic

/-!
# Fields of an item

A field is named by a path of names with points between them.  Each name steps into a map by key or
into a record by field; whatever has no such part gives nothing, and a path that reaches nothing
stays there.
-/

namespace Listing.Value

/-- The part of a value under a name. -/
def part (v : Value) (name : String) : Value :=
  match v with
  | map entries => (find? name entries).getD null
  | record fields => (fields.lookup name).getD null
  | _ => null

/-- The value at a path in an item. -/
def field (item : Value) (path : String) : Value := (Text.pieces '.' path).foldl part item

/-- Nothing has parts. -/
@[simp] theorem part_null (name : String) : null.part name = null := rfl

/-- A path that starts from nothing leads nowhere. -/
theorem field_null (path : String) : null.field path = null := by
  unfold field
  generalize Text.pieces '.' path = names
  induction names with
  | nil => rfl
  | cons n ns ih => exact ih

/-- A path without points is one name. -/
theorem field_record {name : String} (h : '.' ∉ name.toList)
    (fields : List (String × Value)) :
    (Value.record fields).field name = (fields.lookup name).getD .null := by
  have hsplit : name.toList.splitOn '.' = [name.toList] := List.splitOn_eq_singleton h
  rw [field, Text.pieces, hsplit, List.map_cons, String.ofList_toList]
  rfl

end Listing.Value
