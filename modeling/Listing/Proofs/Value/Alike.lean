import Listing.Proofs.Number.Characters
import Listing.Proofs.Outcome
import Listing.Proofs.Value.Written
import Listing.Value.Equal
import Mathlib.Data.List.Forall2

/-!
# Equal values that are written the same

Equality looks through the kinds of numbers, the spellings of one number, the offsets of one instant
and the order of a map's entries, and the written form shows all of these.  Two values are alike if
they do not differ in any of them.  Values that are alike are written the same (`Alike.written_eq`),
and of equal values only those are (`written_eq_iff_alike`).
-/

namespace Listing

open Text

namespace Value

/-- Values that do not differ in kind, in the spelling of a number, in the clock of an instant, or in
what is written for a map, and neither do their members. -/
inductive Alike : Value → Value → Prop
  | null : Alike null null
  | bool (b : Bool) : Alike (bool b) (bool b)
  | int (n : Int) : Alike (int n) (int n)
  | float {x y : Binary64} (h : x.toText = y.toText) : Alike (float x) (float y)
  | decimal {d e : Decimal} (h : d.toText = e.toText) : Alike (decimal d) (decimal e)
  | text (s : String) : Alike (text s) (text s)
  | symbol (o : Operator) : Alike (symbol o) (symbol o)
  | uuid (u : Identifier) : Alike (uuid u) (uuid u)
  | date (d : Date) : Alike (date d) (date d)
  | moment {m n : Moment} (h : m.written = n.written) : Alike (moment m) (moment n)
  | list {xs ys : List Value} (h : List.Forall₂ Alike xs ys) : Alike (list xs) (list ys)
  | tuple {xs ys : List Value} (h : List.Forall₂ Alike xs ys) : Alike (tuple xs) (tuple ys)
  | map {es fs : List (Value × Value)} (h : (map es).written = (map fs).written) :
    Alike (map es) (map fs)

mutual

/-- Values that are alike are written the same. -/
theorem Alike.written_eq : ∀ {v w : Value}, Alike v w → v.written = w.written
  | _, _, .null | _, _, .bool _ | _, _, .int _ | _, _, .text _ | _, _, .symbol _ | _, _, .uuid _
  | _, _, .date _ => rfl
  | _, _, .float h => h
  | _, _, .decimal h => congrArg (fun t => "Decimal(" ++ quoted t ++ ")") h
  | _, _, .moment h => h
  | _, _, .list h => by rw [written, written, writtenAll_eq h]
  | _, _, .tuple h => by rw [written, written, writtenAll_eq h]
  | _, _, .map h => h

theorem writtenAll_eq : ∀ {xs ys : List Value}, List.Forall₂ Alike xs ys →
    writtenAll xs = writtenAll ys
  | _, _, .nil => rfl
  | _, _, .cons h hs => by rw [writtenAll, writtenAll, h.written_eq, writtenAll_eq hs]

end

/-! ## Numbers of different kinds -/

theorem isNumberMark_intText (n : Int) : ∀ c ∈ (intText n).toList, isNumberMark c = true := by
  rw [intText, String.toList_ofList]
  exact isNumberMark_intDigits n

theorem isNumberMark_toText (x : Binary64) : ∀ c ∈ x.toText.toList, isNumberMark c = true := by
  rw [Binary64.toText, String.toList_ofList]
  exact x.isNumberMark_digits

/-- A capital letter or bracket tells a text from those of whole and binary numbers. -/
theorem ne_of_not_isNumberMark {s t : String} (hs : ∀ c ∈ s.toList, isNumberMark c = true)
    (ht : ∃ c ∈ t.toList, isNumberMark c = false) : s ≠ t := by
  rintro rfl
  rcases ht with ⟨c, hmem, hc⟩
  rw [hs c hmem] at hc
  cases hc

/-- The truth values are written with a capital letter. -/
theorem exists_capital_boolText (b : Bool) :
    ∃ c ∈ (boolText b).toList, isNumberMark c = false := by
  cases b
  · exact ⟨'F', by decide, by decide⟩
  · exact ⟨'T', by decide, by decide⟩

/-- The written form of a decimal is a call. -/
theorem bracket_mem_decimal (d : Decimal) : '(' ∈ (decimal d).written.toList := by
  have hmem : '(' ∈ ("Decimal(" ++ quoted d.toText ++ ")").toList := by
    rw [String.toList_append, String.toList_append, List.mem_append, List.mem_append]
    exact .inl (.inl (by decide))
  exact hmem

theorem intText_ne_boolText (n : Int) (b : Bool) : intText n ≠ boolText b :=
  ne_of_not_isNumberMark (isNumberMark_intText n) (exists_capital_boolText b)

theorem toText_ne_boolText (x : Binary64) (b : Bool) : x.toText ≠ boolText b :=
  ne_of_not_isNumberMark (isNumberMark_toText x) (exists_capital_boolText b)

theorem intText_ne_decimal (n : Int) (d : Decimal) : intText n ≠ (decimal d).written :=
  ne_of_not_isNumberMark (isNumberMark_intText n) ⟨'(', bracket_mem_decimal d, by decide⟩

theorem toText_ne_decimal (x : Binary64) (d : Decimal) : x.toText ≠ (decimal d).written :=
  ne_of_not_isNumberMark (isNumberMark_toText x) ⟨'(', bracket_mem_decimal d, by decide⟩

theorem boolText_ne_decimal (b : Bool) (d : Decimal) : boolText b ≠ (decimal d).written := by
  intro h
  have hmem := bracket_mem_decimal d
  rw [← h] at hmem
  cases b <;> revert hmem <;> decide

/-- A binary number shows that it is none by a point or a letter. -/
theorem intText_ne_toText (n : Int) (x : Binary64) : intText n ≠ x.toText := by
  intro h
  rcases x.exists_mem_digits with ⟨c, hmem, hc⟩
  rw [intText, Binary64.toText, String.ofList_inj] at h
  rw [← h] at hmem
  -- an integer has digits and a minus sign, and neither is one of the three
  rcases mem_intDigits hmem with rfl | hdigit
  · revert hc
    decide
  · rcases hc with rfl | rfl | rfl <;> revert hdigit <;> decide

/-! ## Equal values

Equality compares numbers of all kinds, and operators with texts; all other values are equal only to
values of their kind. -/

variable {w : Value}

/-- A truth value equals numbers, but is not written as one. -/
theorem alike_of_bool {b : Bool} (h : equal (bool b) w = .ok true)
    (hw : (bool b).written = w.written) : Alike (bool b) w := by
  cases w with
  | bool c =>
    have hbool : b = c := by
      revert hw
      cases b <;> cases c <;> decide
    exact hbool ▸ .bool b
  | int n => cases intText_ne_boolText n b hw.symm
  | float x => cases toText_ne_boolText x b hw.symm
  | decimal d => cases boolText_ne_decimal b d hw
  | _ => cases h

/-- An integer is written as no number of another kind that it equals. -/
theorem alike_of_int {m : Int} (h : equal (int m) w = .ok true)
    (hw : (int m).written = w.written) : Alike (int m) w := by
  cases w with
  | bool b => cases intText_ne_boolText m b hw
  | int n =>
    have hcompare : (some (compare m n) == some .eq) = true := Except.ok.inj h
    rw [beq_iff_eq, Option.some.injEq] at hcompare
    exact Std.compare_eq_iff_eq.1 hcompare ▸ .int m
  | float x => cases intText_ne_toText m x hw
  | decimal d => cases intText_ne_decimal m d hw
  | _ => cases h

/-- Binary numbers with one text are alike. -/
theorem alike_of_float {x : Binary64} (h : equal (float x) w = .ok true)
    (hw : (float x).written = w.written) : Alike (float x) w := by
  cases w with
  | bool b => cases toText_ne_boolText x b hw
  | int n => cases intText_ne_toText n x hw.symm
  | float y => exact .float hw
  | decimal d => cases toText_ne_decimal x d hw
  | _ => cases h

/-- Decimals with one text are alike, as it can be read off between the quotes. -/
theorem alike_of_decimal {d : Decimal} (h : equal (decimal d) w = .ok true)
    (hw : (decimal d).written = w.written) : Alike (decimal d) w := by
  cases w with
  | bool b => cases boolText_ne_decimal b d hw.symm
  | int n => cases intText_ne_decimal n d hw.symm
  | float x => cases toText_ne_decimal x d hw.symm
  | decimal e =>
    have hquoted : "Decimal(" ++ quoted d.toText ++ ")" = "Decimal(" ++ quoted e.toText ++ ")" := hw
    rw [String.append_left_inj, String.append_right_inj] at hquoted
    exact .decimal (Decimal.quoted_toText_injective hquoted)
  | _ => cases h

/-- A quoted text starts with a quote, a symbol with a bracket. -/
theorem quoted_ne_symbol (s : String) (o : Operator) : quoted s ≠ (symbol o).written := by
  intro h
  have hhead : (quoted s).toList.head? = some (quoteFor s.toList) := by
    rw [quoted, String.toList_ofList]
    rfl
  have hbracket : (symbol o).written.toList.head? = some '<' := by
    cases o <;> decide
  rw [h, hbracket, Option.some.injEq] at hhead
  rcases quoteFor_eq s.toList with hq | hq <;> rw [hq] at hhead <;> revert hhead <;> decide

/-- A text may equal an operator, which is written between angle brackets. -/
theorem alike_of_text {s : String} (h : equal (text s) w = .ok true)
    (hw : (text s).written = w.written) : Alike (text s) w := by
  cases w with
  | text t =>
    have hsame : (s == t) = true := Except.ok.inj h
    exact beq_iff_eq.1 hsame ▸ .text s
  | symbol o => cases quoted_ne_symbol s o hw
  | _ => cases h

theorem alike_of_symbol {o : Operator} (h : equal (symbol o) w = .ok true)
    (hw : (symbol o).written = w.written) : Alike (symbol o) w := by
  cases w with
  | text t => cases quoted_ne_symbol t o hw.symm
  | symbol o' =>
    have hsame : (o.symbol == o'.symbol) = true := Except.ok.inj h
    have hoperator := Operator.ofSymbol?_symbol o
    rw [beq_iff_eq.1 hsame, Operator.ofSymbol?_symbol, Option.some.injEq] at hoperator
    exact hoperator ▸ .symbol o'
  | _ => cases h

/-! ## Members -/

theorem length_writtenAll (xs : List Value) : (writtenAll xs).length = xs.length := by
  induction xs with
  | nil => rfl
  | cons x xs ih => rw [writtenAll, List.length_cons, List.length_cons, ih]

/-- Written members are told apart between commas, if there are as many of them. -/
theorem writtenAll_of_joinWith {xs ys : List Value} (hlength : xs.length = ys.length)
    (h : joinWith ", " (writtenAll xs) = joinWith ", " (writtenAll ys)) :
    writtenAll xs = writtenAll ys := by
  have hlengths : (writtenAll xs).length = (writtenAll ys).length := by
    rw [length_writtenAll, length_writtenAll, hlength]
  exact joinWith_inj hlengths (isDelimited_writtenAll xs) (isDelimited_writtenAll ys) h

theorem equalAll_cons {x y : Value} {xs ys : List Value} :
    equalAll (x :: xs) (y :: ys) = .ok true ↔ equal x y = .ok true ∧ equalAll xs ys = .ok true :=
  Outcome.bind_ite_eq_true

theorem length_eq_of_equalAll {xs ys : List Value} (h : equalAll xs ys = .ok true) :
    xs.length = ys.length := by
  induction xs generalizing ys with
  | nil =>
    cases ys with
    | nil => rfl
    | cons y ys => cases h
  | cons x xs ih =>
    cases ys with
    | nil => cases h
    | cons y ys => rw [List.length_cons, List.length_cons, ih (equalAll_cons.1 h).2]

/-- Written tuples with as many members tell their members apart. -/
theorem inBrackets_inj {xs ys : List Value} (hlength : xs.length = ys.length)
    (h : inBrackets (writtenAll xs) = inBrackets (writtenAll ys)) :
    writtenAll xs = writtenAll ys := by
  rcases xs with - | ⟨x, - | ⟨x', xs⟩⟩ <;> rcases ys with - | ⟨y, - | ⟨y', ys⟩⟩
  case cons.nil.cons.nil =>
    have hone : "(" ++ x.written ++ ",)" = "(" ++ y.written ++ ",)" := h
    rw [String.append_left_inj, String.append_right_inj] at hone
    rw [writtenAll, writtenAll, hone]
    rfl
  case cons.cons.cons.cons =>
    simp only [writtenAll, inBrackets, String.append_left_inj, String.append_right_inj] at h
    exact writtenAll_of_joinWith hlength h
  case nil.nil => rfl
  -- the other cases have members on one side only
  all_goals simp at hlength

mutual

/-- Equal values are alike if they are written the same. -/
theorem alike_of_written_eq : ∀ {v w : Value}, equal v w = .ok true → v.written = w.written →
    Alike v w
  | null, w, h, _ => by
    cases w with
    | null => exact .null
    | _ => cases h
  | bool _, _, h, hw => alike_of_bool h hw
  | int _, _, h, hw => alike_of_int h hw
  | float _, _, h, hw => alike_of_float h hw
  | decimal _, _, h, hw => alike_of_decimal h hw
  | text _, _, h, hw => alike_of_text h hw
  | symbol _, _, h, hw => alike_of_symbol h hw
  | uuid u, w, h, _ => by
    cases w with
    | uuid v =>
      have hsame : (u == v) = true := Except.ok.inj h
      exact beq_iff_eq.1 hsame ▸ .uuid u
    | _ => cases h
  | date d, w, h, _ => by
    cases w with
    | date e =>
      have hsame : (d == e) = true := Except.ok.inj h
      exact beq_iff_eq.1 hsame ▸ .date d
    | _ => cases h
  | moment m, w, h, hw => by
    cases w with
    | moment n => exact .moment hw
    | _ => cases h
  | list xs, w, h, hw => by
    cases w with
    | list ys =>
      -- lists are measured before their members are compared
      rw [equal] at h
      split at h
      · next hlength =>
        rw [written, written, String.append_left_inj, String.append_right_inj] at hw
        exact .list (alike_of_writtenAll_eq h (writtenAll_of_joinWith hlength hw))
      · cases h
    | _ => cases h
  | tuple xs, w, h, hw => by
    cases w with
    | tuple ys =>
      -- tuples are not measured first, their members tell that they are of one length
      have hall : equalAll xs ys = .ok true := h
      exact .tuple (alike_of_writtenAll_eq hall (inBrackets_inj (length_eq_of_equalAll hall) hw))
    | _ => cases h
  | map es, w, h, hw => by
    cases w with
    | map fs => exact .map hw
    | _ => cases h
  | record fields, w, h, _ => by cases w <;> cases h

theorem alike_of_writtenAll_eq : ∀ {xs ys : List Value}, equalAll xs ys = .ok true →
    writtenAll xs = writtenAll ys → List.Forall₂ Alike xs ys
  | [], [], _, _ => .nil
  | [], _ :: _, h, _ => by cases h
  | _ :: _, [], h, _ => by cases h
  | _ :: _, _ :: _, h, hw => by
    have hequal := equalAll_cons.1 h
    rw [writtenAll, writtenAll, List.cons.injEq] at hw
    exact .cons (alike_of_written_eq hequal.1 hw.1) (alike_of_writtenAll_eq hequal.2 hw.2)

end

/-- Of equal values just those are written the same that are alike. -/
theorem written_eq_iff_alike {v w : Value} (h : equal v w = .ok true) :
    v.written = w.written ↔ Alike v w :=
  ⟨alike_of_written_eq h, Alike.written_eq⟩

end Value

end Listing
