import Listing.Check.Issue
import Listing.Value.Basic

/-!
# Why no answer can be given

A fault says what went wrong, as data.  Some of its kinds have texts of their own: an unknown
symbol, an operation that a registry lacks, a malformed host, an integer that is too long, and a
failure of the listing service, which is reported with a message and the option or column it
concerns.
-/

namespace Listing

/-- A failure of the listing service that callers report: of no particular kind, of the
configuration of a listing, or of an executor that cannot carry out a plan. -/
inductive Failure where
  | general (parts : List Value)
  | configuration (message : Value) (setting : Value)
  | executor (message : Value) (column : Value)
  deriving Repr

/-- What is wrong with the host of an address. -/
inductive HostFault where
  /-- A bracket without its partner, or brackets with something before or behind them. -/
  | strayBracket
  /-- A text in brackets that is no network address. -/
  | notNetwork (host : String)
  /-- A network address of version 4 in brackets. -/
  | versionFour
  /-- A text in brackets that starts as an address of a later version and is none. -/
  | laterVersion
  /-- A character that is equivalent to a text with a sign that parts an address. -/
  | hiddenSign (host : String)
  deriving Repr

/-- Why no answer can be given. -/
inductive Fault where
  /-- A text that names no comparator. -/
  | unknownComparator (text : String)
  /-- A value, given as it is written, that names no operator. -/
  | unknownOperator (written : String)
  /-- A comparator that the registry in memory has no operation for. -/
  | unregistered (c : Comparator)
  /-- An address whose host is malformed. -/
  | malformedHost (f : HostFault)
  /-- An integer with more digits than are written out. -/
  | tooManyDigits
  /-- Values that an operation is not made for. -/
  | incompatible
  /-- A condition on a field that does not name the field. -/
  | missingField
  /-- A value that should be a text. -/
  | notText
  /-- A condition that is no node. -/
  | notNode
  /-- A number of pages asked for at zero items a page. -/
  | zeroLimit
  /-- A comparison with a decimal that is not a number. -/
  | notANumber
  /-- A number that the database cannot hold. -/
  | outOfRange
  /-- An order comparison with nothing, true or false in a database clause. -/
  | unorderedOperand
  /-- A parameter of a database clause that does not suit the type it is handed over in. -/
  | unsuitedOperand
  /-- A parameter of a database clause that the database has no form for. -/
  | foreignOperand
  /-- A failure of the service. -/
  | failure (f : Failure)
  /-- Input that breaks rules. -/
  | invalid (model : String) (issues : List Issue)
  deriving Repr

namespace HostFault

/-- The message of a malformed host. -/
def message : HostFault → String
  | strayBracket => "Invalid IPv6 URL"
  | notNetwork host => Text.quoted host ++ " does not appear to be an IPv4 or IPv6 address"
  | versionFour => "An IPv4 address cannot be in brackets"
  | laterVersion => "IPvFuture address is invalid"
  | hiddenSign host =>
    "netloc '" ++ host ++ "' contains invalid characters under NFKC normalization"

end HostFault

namespace Fault

def unknownComparatorText (text : String) : String :=
  Text.quoted text ++ " is not a valid Comparator"

def unknownOperatorText (written : String) : String := written ++ " is not a valid FilterOperator"

def comparatorText (c : Comparator) : String := "Comparator." ++ c.label

/-- The message of a fault that has one and is no failure of the service. -/
def message? : Fault → Option String
  | unknownComparator text => some (unknownComparatorText text)
  | unknownOperator written => some (unknownOperatorText written)
  | unregistered c =>
    some ("Unsupported operator for in-memory evaluation: " ++ comparatorText c)
  | malformedHost f => some f.message
  | tooManyDigits =>
    some ("Exceeds the limit (4300 digits) for integer string conversion; " ++
      "use sys.set_int_max_str_digits() to increase the limit")
  | _ => none

/-- A listing without a sortable column cannot answer anything. -/
def noSortableColumns : Fault :=
  failure (.configuration (.text "sortable_columns must contain at least one column")
    (.text "sortable_columns"))

/-- A condition names a column that the model does not have. -/
def noColumn (model column : String) : Fault :=
  failure (.executor (.text ("Model " ++ model ++ " has no column " ++ Text.quoted column))
    (.text column))

/-- A condition on a column uses a symbol that names no comparator. -/
def noComparator (text column : String) : Fault :=
  failure (.executor (.text (unknownComparatorText text)) (.text column))

/-- A condition on a column uses a comparator that the database has no operation for. -/
def notCompiled (c : Comparator) (column : String) : Fault :=
  failure (.executor (.text ("Unsupported operator for SQLAlchemy: " ++ comparatorText c))
    (.text column))

end Fault

/-- The result of an operation that may fail. -/
abbrev Outcome := Except Fault

end Listing
