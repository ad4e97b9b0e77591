import Listing.Fault
import Listing.Number.Numeral

/-!
# Hosts of addresses

The host of an address may have a user before an `@` and a number behind a `:`.  Brackets are for
network addresses that have colons themselves: those of version 6, and those of later versions,
which start with a `v`.  No character may be equivalent to a text with a sign that parts an address,
so a host means the same in whichever equivalent form it is written.
-/

namespace Listing.Host

/-- Whether a text is a number below 256 without leading zeros. -/
def isOctet (cs : List Char) : Bool :=
  areDigits cs && cs.length ≤ 3 && (cs == ['0'] || cs.head? != some '0') && ofDigits cs ≤ 255

/-- Whether a text is a network address of version 4: four octets. -/
def isVersionFour (cs : List Char) : Bool :=
  let parts := cs.splitOn '.'
  parts.length == 4 && parts.all isOctet

/-- Whether a text is a group of a network address of version 6. -/
def isGroup (cs : List Char) : Bool :=
  !cs.isEmpty && cs.length ≤ 4 && cs.all Numeral.isHexDigit

/-- How many groups stand on one side of a gap.  A side may be empty, which takes nothing there. -/
def groupsAtGap? (parts : List (List Char)) : Option Nat :=
  if parts == [[]] then some 0 else if parts.all isGroup then some parts.length else none

/-- Whether the parts between colons make up the eight groups of a network address.  One empty part
that is neither first nor last is a gap, which stands for at least one group of zeros. -/
def areGroups (parts : List (List Char)) : Bool :=
  let before := (parts.drop 1).takeWhile fun p => !p.isEmpty
  -- the first empty part between the outer ones is the gap; a second one is no group
  if before.length + 1 < parts.length - 1 then
    match groupsAtGap? (parts.take (before.length + 1)),
      groupsAtGap? (parts.drop (before.length + 2)) with
    | some m, some n => m + n < 8
    | _, _ => false
  else parts.length == 8 && parts.all isGroup

/-- The parts of a network address between colons.  An address of version 4 in the last place stands
for two groups. -/
def parts? (cs : List Char) : Option (List (List Char)) :=
  let parts := cs.splitOn ':'
  let last := parts.getLast?.getD []
  if parts.length < 3 then none
  else if last.contains '.' then
    if isVersionFour last then some (parts.dropLast ++ [['0'], ['0']]) else none
  else some parts

/-- Whether a text is a network address of version 6, perhaps with a zone behind a percent sign. -/
def isVersionSix (cs : List Char) : Bool :=
  let (address, zone) := Text.cut '%' cs
  (match zone with
    | some z => !z.isEmpty && !z.contains '%'
    | none => true) &&
  (match parts? address with
    | some parts => areGroups parts
    | none => false)

/-- Whether a text that starts with a `v` is a network address of a later version. -/
def isLaterVersion (cs : List Char) : Bool :=
  match (cs.drop 1).takeWhile Numeral.isHexDigit, (cs.drop 1).dropWhile Numeral.isHexDigit with
  | [], _ => false
  | _, '.' :: rest => !rest.isEmpty
  | _, _ => false

/-- Check a name that stands in brackets. -/
def checkBracketed (name : List Char) : Outcome Unit :=
  if name.head? == some 'v' then
    if isLaterVersion name then pure () else throw (.malformedHost .laterVersion)
  else if isVersionFour name then throw (.malformedHost .versionFour)
  else if isVersionSix name then pure ()
  else throw (.malformedHost (.notNetwork (String.ofList name)))

/-- The host without the user in front of it. -/
def withoutUser (host : List Char) : List Char := (host.reverse.takeWhile (· != '@')).reverse

/-- Check a host that has brackets of both kinds. -/
def checkBrackets (host : List Char) : Outcome Unit :=
  match Text.cut '[' (withoutUser host) with
  | (before, some inside) =>
    let (name, rest) := Text.cut ']' inside
    let behind := rest.getD []
    if before.isEmpty && (behind.isEmpty || behind.head? == some ':') then checkBracketed name
    else throw (.malformedHost .strayBracket)
  -- the brackets stand in front of the `@`; what is checked is the host behind it
  | (place, none) => checkBracketed (Text.cut ':' place).1

/-- The characters beyond ASCII that are equivalent to a text with one of the signs `/`, `?`, `#`,
`@` and `:`. -/
def hiddenSigns : List Nat := [
  0x2047, 0x2048, 0x2049, 0x2100, 0x2101, 0x2105, 0x2106, 0x2A74, 0xFE13, 0xFE16, 0xFE55, 0xFE56,
  0xFE5F, 0xFE6B, 0xFF03, 0xFF0F, 0xFF1A, 0xFF1F, 0xFF20]

def check (host : List Char) : Outcome Unit := do
  match host.contains '[', host.contains ']' with
  | true, true => checkBrackets host
  | false, false => pure ()
  | _, _ => throw (.malformedHost .strayBracket)
  if host.any fun c => hiddenSigns.contains c.toNat then
    throw (.malformedHost (.hiddenSign (String.ofList host)))

/-- A host without brackets and without characters that hide a sign is in order. -/
theorem check_eq_ok {host : List Char} (ho : '[' ∉ host) (hc : ']' ∉ host)
    (hs : ∀ c ∈ host, c.toNat ∉ hiddenSigns) : check host = .ok () := by
  simpa [check, ho, hc, pure, Except.pure] using hs

end Listing.Host
