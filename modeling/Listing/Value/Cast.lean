import Listing.Text.Lower
import Listing.Time.Reading
import Listing.Value.Basic

/-!
# Casting text to the kind of a field

Conditions carry text.  Before a comparison the text is read as the kind of the field; a text that
cannot be read stays a text, and a value that is no text stays as it is.
-/

namespace Listing

/-- The texts that are read as true. -/
def trueWords : List String := ["true", "1", "yes"]

/-- The texts that are read as false. -/
def falseWords : List String := ["false", "0", "no"]

/-- The truth that a word stands for, blanks around it and capitals not counting. -/
def readBool? (s : String) : Option Bool :=
  let word := String.ofList (Text.lower (Text.trim s.toList))
  if trueWords.contains word then some true
  else if falseWords.contains word then some false
  else none

namespace Kind

/-- Read a text as a value of a kind. -/
def read? (k : Kind) (s : String) : Option Value :=
  match k with
  | int => (Numeral.whole? s.toList).map .int
  | float => (Numeral.binary? s.toList).map .float
  | decimal => (Numeral.decimal? s.toList).map .decimal
  | uuid => (Identifier.ofText? s).map .uuid
  | bool => (readBool? s).map .bool
  | date => (Time.date? s).map .date
  | moment => (Time.moment? s.toList).map .moment
  | text => none
  | list => none
  | map => none

end Kind

namespace Value

/-- The kind that a text is cast to when it is compared with a field of this value. -/
def kind? : Value → Option Kind
  | bool _ => some .bool
  | int _ => some .int
  | float _ => some .float
  | decimal _ => some .decimal
  | text _ => some .text
  | uuid _ => some .uuid
  | date _ => some .date
  | moment _ => some .moment
  | list _ => some .list
  | map _ => some .map
  | _ => none

/-- A text read as a value of a kind, if it can be; any other value as it is. -/
def cast (k : Kind) : Value → Value
  | text s => (k.read? s).getD (text s)
  | v => v

/-- A value cast to a kind, where there is one. -/
def castTo (k : Option Kind) (v : Value) : Value :=
  match k with
  | some k => v.cast k
  | none => v

/-- A condition's value cast to the kind of a field's value. -/
def castLike (v field : Value) : Value := v.castTo field.kind?

end Value

end Listing
