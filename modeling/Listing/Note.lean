import Listing.Text.Quoted

/-!
# Notes on dropped parts of a request

Nothing in a request is an error.  A part that cannot be used is dropped, and a note says why.
-/

namespace Listing

/-- Why a part of a request was dropped. -/
inductive Note where
  | columnNotFilterable (column : String)
  | malformed (raw column : String)
  | notAllowed (symbol column : String)
  | onlyNotWraps (symbol column : String)
  | sortNotAllowed (column direction : String)
  deriving DecidableEq, Repr

namespace Note

def sentence : Note → String
  | columnNotFilterable column =>
    "Ignoring filter on non-filterable column " ++ Text.quoted column
  | malformed raw column =>
    "Ignoring malformed filter " ++ Text.quoted raw ++ " on " ++ Text.quoted column
  | notAllowed symbol column =>
    "Ignoring operator " ++ Text.quoted symbol ++ " on " ++ Text.quoted column ++ ": not allowed"
  | onlyNotWraps symbol column =>
    "Ignoring operator " ++ Text.quoted symbol ++ " on " ++ Text.quoted column ++
      ": only $not wraps"
  | sortNotAllowed column direction =>
    "Ignoring sort " ++ Text.quoted column ++ ":" ++ Text.quoted direction

end Note

end Listing
