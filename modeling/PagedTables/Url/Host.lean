import PagedTables.Text.Digits
import PagedTables.Text.Split

/-!
# Hosts between brackets

The addresses that may stand between brackets in the authority of a URL: an address of eight
groups of hexadecimal digits, a run of zero groups abbreviated by two colons, perhaps with four
decimal octets at its end and with a zone; or an address of a later version that names it.
-/
namespace PagedTables

/-- What is wrong with the authority of a URL. -/
inductive UrlFault where
  /-- One bracket without the other. -/
  | brackets
  /-- A host between brackets that is no address. -/
  | notAnAddress (host : String)
  /-- Four octets need no brackets. -/
  | octetsInBrackets
  /-- An address of a later version without a version or without an address. -/
  | laterVersion
  /-- A character that is taken for a separator once it is normalized. -/
  | lookalike (authority : String)
  deriving DecidableEq

namespace UrlFault

/-- The wording of a fault. -/
def message : UrlFault → String
  | brackets => "Invalid IPv6 URL"
  | notAnAddress host => host ++ " does not appear to be an IPv4 or IPv6 address"
  | octetsInBrackets => "An IPv4 address cannot be in brackets"
  | laterVersion => "IPvFuture address is invalid"
  | lookalike authority =>
    "netloc '" ++ authority ++ "' contains invalid characters under NFKC normalization"

end UrlFault

namespace Host

/-- One to three decimal digits without a leading zero, at most 255. -/
def isOctet (cs : List Char) : Bool :=
  !cs.isEmpty && cs.all Char.isDigit && cs.length ≤ 3 && (cs = ['0'] || cs.head? ≠ some '0') &&
    Nat.ofDigitChars 10 cs 0 ≤ 255

/-- Four octets between points. -/
def isOctets (cs : List Char) : Bool :=
  let parts := Text.splitAt '.' cs
  parts.length = 4 && parts.all isOctet

/-- One to four hexadecimal digits. -/
def isGroup (cs : List Char) : Bool :=
  !cs.isEmpty && cs.all (fun c => (Text.hexValue? c).isSome) && cs.length ≤ 4

/-- The groups of an address, the octets at its end counting as two groups. -/
def groups? (cs : List Char) : Option (List (List Char)) :=
  let parts := Text.splitAt ':' cs
  let final := parts.getLastD []
  if parts.length < 3 then none
  else if final.contains '.' then
    if isOctets final then some (parts.dropLast ++ [['0'], ['0']]) else none
  else some parts

/-- The groups before the first empty one that is not at an end, and those after it. -/
def cut? (parts : List (List Char)) : Option (List (List Char) × List (List Char)) :=
  let inner := (parts.drop 1).dropLast
  if inner.all (!·.isEmpty) then none
  else
    let before := parts.take 1 ++ inner.takeWhile (!·.isEmpty)
    some (before, parts.drop (before.length + 1))

/-- The groups at one side of an abbreviation; an empty group may only stand there alone. -/
def side? (outer : Option (List Char)) (parts : List (List Char)) : Option (List (List Char)) :=
  if outer = some [] then (if parts.length = 1 then some [] else none) else some parts

/-- Eight groups, or fewer with one abbreviation. -/
def isGroups (cs : List Char) : Bool :=
  match groups? cs with
  | none => false
  | some parts =>
    if 9 < parts.length then false
    else match cut? parts with
      | none => parts.length = 8 && parts.all isGroup
      | some (before, after) =>
        match side? before.head? before, side? after.getLast? after with
        | some high, some low =>
          high.length + low.length < 8 && high.all isGroup && low.all isGroup
        | _, _ => false

/-- An address of groups, perhaps with a zone after a percent sign. -/
def isAddress (cs : List Char) : Bool :=
  let zone := (cs.dropWhile (· ≠ '%')).drop 1
  isGroups (cs.takeWhile (· ≠ '%')) &&
    (!cs.contains '%' || (!zone.isEmpty && !zone.contains '%'))

/-- An address of a later version: its version in hexadecimal, a point and the address. -/
def isLaterVersion (cs : List Char) : Bool :=
  let version := (cs.drop 1).takeWhile (· ≠ '.')
  let address := ((cs.drop 1).dropWhile (· ≠ '.')).drop 1
  !version.isEmpty && version.all (fun c => (Text.hexValue? c).isSome) && !address.isEmpty &&
    !address.contains '\n'

/-- What is wrong with a host between brackets. -/
def check (quoted : String → String) (cs : List Char) : Except UrlFault Unit :=
  if cs.head? = some 'v' then
    if isLaterVersion cs then .ok () else .error .laterVersion
  else if isOctets cs then .error .octetsInBrackets
  else if isAddress cs then .ok ()
  else .error (.notAnAddress (quoted (String.ofList cs)))

end Host

end PagedTables
