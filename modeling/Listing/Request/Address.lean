import Listing.Request.Host
import Listing.Request.Parameters

/-!
# Requests from addresses

An address is `scheme://host/path?parameters#fragment`, where everything but the path may be left
out.  Only the path and the parameters count; the path is taken as it is written.
-/

namespace Listing

/-- The parts of an address that a request is read from. -/
structure Address where
  path : List Char
  query : List Char

namespace Address

/-- Characters dropped from the start of an address: the space and the controls. -/
def isLeadingJunk (c : Char) : Bool := c.toNat ≤ 32

/-- Characters dropped everywhere: tab, carriage return and line feed. -/
def isLineBreak (c : Char) : Bool := c == '\t' || c == '\r' || c == '\n'

/-- Characters that a scheme may have behind its first letter. -/
def isSchemeChar (c : Char) : Bool :=
  c.isAlpha || c.isDigit || c == '+' || c == '-' || c == '.'

/-- The address without a scheme. -/
def dropScheme (cs : List Char) : List Char :=
  match cs, Text.cut ':' cs with
  | c :: _, (scheme, some rest) =>
    -- a colon behind any other character belongs to the path
    if c.isAlpha && scheme.all isSchemeChar then rest else cs
  | cs, _ => cs

def endsHost (c : Char) : Bool := c == '/' || c == '?' || c == '#'

/-- The address without a host, which must be in order. -/
def dropHost (cs : List Char) : Outcome (List Char) :=
  match Text.after? ['/', '/'] cs with
  | none => pure cs
  | some rest => do
    Host.check (rest.takeWhile fun c => !endsHost c)
    return rest.dropWhile fun c => !endsHost c

/-- The path and the parameters of an address. -/
def read (cs : List Char) : Outcome Address := do
  -- line breaks go before anything is cut, so they hide none of the signs that are looked for
  let cs := (cs.dropWhile isLeadingJunk).filter fun c => !isLineBreak c
  let rest ← dropHost (dropScheme cs)
  let (path, query) := Text.cut '?' (Text.cut '#' rest).1
  return ⟨path, query.getD []⟩

end Address

/-- The request that an address makes. -/
def Request.ofAddress (s : String) : Outcome Request := do
  let a ← Address.read s.toList
  return ofParameters (String.ofList a.path) (.ofText (String.ofList a.query))

end Listing
