import Listing.Memory.Operation
import Listing.Proofs.Outcome

/-!
# Comparing a field with a text

A field usually holds nothing or a scalar.  Compared with a text it equals it or does not, and stands
before it, behind it or in no order to it.  The one exception is a decimal field: a text that reads
as not-a-number cannot be ordered with it (`ordered_cases`), and one that reads as a signalling
not-a-number cannot even be told apart from it (`equals_cases`).  A text that a field is not made to
be compared with does not match.
-/

namespace Listing

namespace Value

/-- Whether a value is nothing or a scalar of a kind that has an exact order: no binary number, and
a decimal only if it is finite. -/
def isOrdinary : Value → Bool
  | null => true
  | bool _ => true
  | int _ => true
  | text _ => true
  | uuid _ => true
  | date _ => true
  | moment _ => true
  | decimal (.finite ..) => true
  | _ => false

/-- Whether a text that is compared with a decimal field reads as a decimal with some property. -/
def readsAs (p : Decimal → Bool) (field : Value) (s : String) : Bool :=
  match field with
  | decimal _ => (Numeral.decimal? s.toList).any p
  | _ => false

/-- What a text is taken for when it is compared with an ordinary value: the text itself, or a value
of the same kind. -/
inductive TakenFor (s : String) : Value → Value → Prop
  | text {field : Value} (h : ∀ p, field.readsAs p s = false) : TakenFor s field (text s)
  | bool (b c : Bool) : TakenFor s (bool b) (bool c)
  | int (m n : Int) : TakenFor s (int m) (int n)
  | uuid (u v : Identifier) : TakenFor s (uuid u) (uuid v)
  | date (d e : Date) : TakenFor s (date d) (date e)
  | moment (m n : Moment) : TakenFor s (moment m) (moment n)
  | decimal (negative : Bool) (c : Nat) (x : Int) {d : Decimal}
      (h : Numeral.decimal? s.toList = some d) :
      TakenFor s (decimal (.finite negative c x)) (decimal d)

/-- A text is taken for what it is read as, or else for itself. -/
theorem takenFor_getD {α : Type} {s : String} {field : Value} (read : Option α) (f : α → Value)
    (hread : ∀ a, read = some a → TakenFor s field (f a))
    (hnone : read = none → ∀ p, field.readsAs p s = false) :
    TakenFor s field ((read.map f).getD (text s)) := by
  cases read with
  | none => exact .text (hnone rfl)
  | some a => exact hread a rfl

/-- A text is cast to the kind of the field, or stays as it is. -/
theorem takenFor_castLike {field : Value} (h : field.isOrdinary = true) (s : String) :
    TakenFor s field ((text s).castLike field) := by
  cases field with
  | null => exact .text fun _ => rfl
  | text t => exact .text fun _ => rfl
  | bool b => exact takenFor_getD (readBool? s) bool (fun c _ => .bool b c) fun _ _ => rfl
  | int m => exact takenFor_getD (Numeral.whole? s.toList) int (fun n _ => .int m n) fun _ _ => rfl
  | uuid u => exact takenFor_getD (Identifier.ofText? s) uuid (fun v _ => .uuid u v) fun _ _ => rfl
  | date d => exact takenFor_getD (Time.date? s) date (fun e _ => .date d e) fun _ _ => rfl
  | moment m =>
    exact takenFor_getD (Time.moment? s.toList) moment (fun n _ => .moment m n) fun _ _ => rfl
  | decimal d =>
    cases d with
    | infinite negative => cases h
    | nan negative signalling payload => cases h
    | finite negative c x =>
      refine takenFor_getD (Numeral.decimal? s.toList) decimal
        (fun _ hd => .decimal negative c x hd) fun hs p => ?_
      rw [readsAs, hs]
      rfl
  | _ => cases h

variable {field v : Value} {s : String}

/-- Whether anything equals a text can always be told. -/
theorem equal_text (field : Value) (s : String) : ∃ b, field.equal (text s) = .ok b := by
  cases field <;> exact ⟨_, rfl⟩

theorem equal_decimal (negative : Bool) (c : Nat) (x : Int) (d : Decimal) :
    (decimal (.finite negative c x)).equal (decimal d) =
      if d.isSignalling then .error .notANumber
      else .ok (Decimal.order (.finite negative c x) d == some .eq) := rfl

/-- A decimal that is not a number has no order, and to ask for one is a fault. -/
theorem order?_decimal (negative : Bool) (c : Nat) (x : Int) (d : Decimal) :
    (decimal (.finite negative c x)).order? (decimal d) =
      if d.isNan then .error .notANumber
      else .ok (Decimal.order (.finite negative c x) d) := by
  cases d <;> rfl

theorem equal_moment (m n : Moment) :
    (moment m).equal (moment n) = .ok (m.order? n == some .eq) := rfl

theorem order?_moment (m n : Moment) :
    (moment m).order? (moment n) =
      match m.order? n with
      | some o => .ok (some o)
      | none => .error .incompatible := rfl

/-- What a text reads as next to a decimal has the property or has not. -/
theorem readsAs_decimal {d : Decimal} (h : Numeral.decimal? s.toList = some d) (p : Decimal → Bool)
    (field : Decimal) : (decimal field).readsAs p s = p d := by
  rw [readsAs, h]
  rfl

/-- An ordinary value is told apart from everything but a signalling not-a-number. -/
theorem TakenFor.equal_cases (h : TakenFor s field v) :
    field.readsAs Decimal.isSignalling s = true ∧ field.equal v = .error .notANumber ∨
      field.readsAs Decimal.isSignalling s = false ∧ ∃ b, field.equal v = .ok b := by
  cases h with
  | text hs => exact Or.inr ⟨hs _, equal_text field s⟩
  | bool b c => exact Or.inr ⟨rfl, _, rfl⟩
  | int m n => exact Or.inr ⟨rfl, _, rfl⟩
  | uuid u v => exact Or.inr ⟨rfl, _, rfl⟩
  | date d e => exact Or.inr ⟨rfl, _, rfl⟩
  | moment m n => exact Or.inr ⟨rfl, _, rfl⟩
  | decimal negative c x hd =>
    rw [readsAs_decimal hd, equal_decimal]
    split
    · next hsig => exact Or.inl ⟨hsig, rfl⟩
    · next hsig => exact Or.inr ⟨by simpa using hsig, _, rfl⟩

/-- An ordinary value has an order with a text or is not made to be compared with it, unless the text
is read as not-a-number. -/
theorem TakenFor.order_cases (h : TakenFor s field v) :
    field.readsAs Decimal.isNan s = true ∧ field.order? v = .error .notANumber ∨
      field.readsAs Decimal.isNan s = false ∧
        ((∃ o, field.order? v = .ok o) ∨ field.order? v = .error .incompatible) := by
  cases h with
  | text hs =>
    refine Or.inr ⟨hs _, ?_⟩
    cases field <;> first | exact Or.inl ⟨_, rfl⟩ | exact Or.inr rfl
  | bool b c => exact Or.inr ⟨rfl, Or.inl ⟨_, rfl⟩⟩
  | int m n => exact Or.inr ⟨rfl, Or.inl ⟨_, rfl⟩⟩
  | uuid u v => exact Or.inr ⟨rfl, Or.inl ⟨_, rfl⟩⟩
  | date d e => exact Or.inr ⟨rfl, Or.inl ⟨_, rfl⟩⟩
  | moment m n =>
    -- only one of the two may have an offset
    rw [order?_moment]
    cases m.order? n with
    | none => exact Or.inr ⟨rfl, Or.inr rfl⟩
    | some o => exact Or.inr ⟨rfl, Or.inl ⟨_, rfl⟩⟩
  | decimal negative c x hd =>
    rw [readsAs_decimal hd, order?_decimal]
    split
    · next hnan => exact Or.inl ⟨hnan, rfl⟩
    · next hnan => exact Or.inr ⟨by simpa using hnan, Or.inl ⟨_, rfl⟩⟩

/-- What an ordinary value is not made to be compared with is different from it. -/
theorem TakenFor.equal_of_incompatible (h : TakenFor s field v)
    (ho : field.order? v = .error .incompatible) : field.equal v = .ok false := by
  cases h with
  | text hs => cases field <;> first | rfl | cases ho
  | bool b c => cases ho
  | int m n => cases ho
  | uuid u v => cases ho
  | date d e => cases ho
  | moment m n =>
    rw [order?_moment] at ho
    rw [equal_moment]
    cases hmn : m.order? n with
    | none => rfl
    | some o =>
      rw [hmn] at ho
      cases ho
  | decimal negative c x hd =>
    rw [order?_decimal] at ho
    split at ho <;> cases ho

end Value

namespace Memory

variable {field : Value} {s : String}

/-- To tell an ordinary field and a text apart fails just when the text signals. -/
theorem equals_cases (h : field.isOrdinary = true) (s : String) :
    field.readsAs Decimal.isSignalling s = true ∧ equals field (.text s) = .error .notANumber ∨
      field.readsAs Decimal.isSignalling s = false ∧ ∃ b, equals field (.text s) = .ok b :=
  (Value.takenFor_castLike h s).equal_cases

/-- To order them fails just when the text is not a number. -/
theorem ordered_cases (h : field.isOrdinary = true) (accepted : Ordering → Bool) (s : String) :
    field.readsAs Decimal.isNan s = true ∧ ordered accepted field (.text s) = .error .notANumber ∨
      field.readsAs Decimal.isNan s = false ∧ ∃ b, ordered accepted field (.text s) = .ok b := by
  unfold ordered
  split
  · next hnull =>
    rw [Value.isNull_iff] at hnull
    subst hnull
    exact Or.inr ⟨rfl, _, rfl⟩
  · rcases (Value.takenFor_castLike h s).order_cases with ⟨hnan, horder⟩ | ⟨hnan, ⟨o, horder⟩ | horder⟩
    · rw [horder]
      exact Or.inl ⟨hnan, rfl⟩
    · rw [horder]
      cases o <;> exact Or.inr ⟨hnan, _, rfl⟩
    · rw [horder]
      exact Or.inr ⟨hnan, _, rfl⟩

/-- Values are looked at up to the first equal one, which makes no difference if each can be told
apart from the field. -/
theorem equalsOne_eq_any {vs : List Value} {f : Value → Bool}
    (h : ∀ v ∈ vs, equals field v = .ok (f v)) : equalsOne field vs = .ok (vs.any f) := by
  induction vs with
  | nil => rfl
  | cons v vs ih =>
    rw [List.forall_mem_cons] at h
    rw [equalsOne, h.1, Outcome.ok_bind, ih h.2, List.any_cons]
    cases f v <;> rfl

/-- Texts that a field is looked for among, one of which cannot be told apart from it and is reached
because none before it is equal. -/
def Jams (field : Value) (ss : List String) : Prop :=
  ∃ before s after, ss = before ++ s :: after ∧
    (∀ t ∈ before, equals field (.text t) = .ok false) ∧
    field.readsAs Decimal.isSignalling s = true

theorem jams_cons_of_differs {ss : List String} (hsig : field.readsAs Decimal.isSignalling s = false)
    (h : equals field (.text s) = .ok false) : Jams field (s :: ss) ↔ Jams field ss := by
  constructor
  · rintro ⟨before, t, after, hss, hbefore, ht⟩
    cases before with
    -- the search would jam at the first text, which does not signal
    | nil =>
      cases hss
      rw [hsig] at ht
      cases ht
    | cons b before =>
      cases hss
      exact ⟨before, t, after, rfl, fun u hu => hbefore u (List.mem_cons_of_mem _ hu), ht⟩
  · rintro ⟨before, t, after, rfl, hbefore, ht⟩
    exact ⟨s :: before, t, after, rfl, List.forall_mem_cons.2 ⟨h, hbefore⟩, ht⟩

theorem not_jams_of_equal {ss : List String} (hsig : field.readsAs Decimal.isSignalling s = false)
    (h : equals field (.text s) = .ok true) : ¬Jams field (s :: ss) := by
  rintro ⟨before, t, after, hss, hbefore, ht⟩
  cases before with
  | nil =>
    cases hss
    rw [hsig] at ht
    cases ht
  | cons b before =>
    cases hss
    rw [hbefore s List.mem_cons_self] at h
    cases h

/-- Looking for a field among texts fails just when it jams. -/
theorem equalsOne_cases (h : field.isOrdinary = true) (ss : List String) :
    Jams field ss ∧ equalsOne field (ss.map .text) = .error .notANumber ∨
      ¬Jams field ss ∧ ∃ b, equalsOne field (ss.map .text) = .ok b := by
  induction ss with
  | nil =>
    refine Or.inr ⟨?_, _, rfl⟩
    rintro ⟨before, s, after, hss, -⟩
    exact absurd hss (by simp)
  | cons s ss ih =>
    rw [List.map_cons, equalsOne]
    -- the first text jams the search, ends it, or is passed over
    rcases equals_cases h s with ⟨hsig, hs⟩ | ⟨hsig, b, hs⟩
    · rw [hs]
      exact Or.inl ⟨⟨[], s, ss, rfl, fun _ ht => absurd ht List.not_mem_nil, hsig⟩, rfl⟩
    · rw [hs]
      cases b with
      | true => exact Or.inr ⟨not_jams_of_equal hsig hs, _, rfl⟩
      | false =>
        rw [jams_cons_of_differs hsig hs]
        exact ih

/-- A search fails just when the field has no text. -/
theorem contains_cases (field : Value) (term : String) :
    field.isWritable = false ∧ contains field (.text term) = .error .tooManyDigits ∨
      field.isWritable = true ∧ ∃ b, contains field (.text term) = .ok b := by
  by_cases hnull : field.isNull = true
  · rw [Value.isNull_iff] at hnull
    subst hnull
    exact Or.inr ⟨rfl, _, rfl⟩
  · have hterm : spell (.text term) = .ok term := rfl
    rw [contains, if_neg hnull, hterm, Outcome.ok_bind, spell]
    cases hfield : field.isWritable with
    | false => exact Or.inl ⟨rfl, rfl⟩
    | true => exact Or.inr ⟨rfl, _, rfl⟩

/-! ## What cannot be compared -/

/-- A text that a field is not made to be compared with, as what it is read as. -/
def Incomparable (field : Value) (s : String) : Prop :=
  field.order? ((Value.text s).castLike field) = .error .incompatible

/-- What cannot be compared with a field is not equal to it. -/
theorem Incomparable.equals_eq (hc : Incomparable field s) (h : field.isOrdinary = true) :
    equals field (.text s) = .ok false :=
  (Value.takenFor_castLike h s).equal_of_incompatible hc

/-- It stands in no order to the field either. -/
theorem Incomparable.ordered_eq (hc : Incomparable field s) (accepted : Ordering → Bool) :
    ordered accepted field (.text s) = .ok false := by
  unfold ordered
  rw [hc]
  split <;> rfl

/-- A field is not found among texts that it cannot be compared with. -/
theorem equalsOne_of_incomparable {ss : List String} (h : field.isOrdinary = true)
    (hc : ∀ s ∈ ss, Incomparable field s) : equalsOne field (ss.map .text) = .ok false := by
  induction ss with
  | nil => rfl
  | cons s ss ih =>
    rw [List.forall_mem_cons] at hc
    rw [List.map_cons, equalsOne, hc.1.equals_eq h]
    exact ih hc.2

end Memory

end Listing
