import ContentPack.HostName.Basic
import ContentPack.Http.Escape
import ContentPack.Text.Case
import ContentPack.Text.Pieces

/-!
# Hosts

The host of an address is an address of the Internet Protocol in one of its two forms, or a name.
`Host.encode?` checks a host and writes it in the form in which it is asked.
-/

namespace ContentPack.Http.Host

/-! ### Four numbers -/

mutual

/-- Runs of digits with one character between two of them, inside of a run before a number of
others. -/
def inDigitRun : Nat → List Char → Bool
  | n, [] => n == 0
  | n, c :: cs =>
    (c.isDigit && inDigitRun n cs) ||
      match n with
      | 0 => false
      | n + 1 => atDigitRun n cs

/-- Runs of digits with one character between two of them, at the start of a run before a number of
others. -/
def atDigitRun : Nat → List Char → Bool
  | _, [] => false
  | n, c :: cs => c.isDigit && inDigitRun n cs

end

/-- The host looks like four numbers, whatever stands between them. -/
def looksLikeNumbers (host : List Char) : Bool := atDigitRun 3 host

/-- A number from 0 to 255 without leading zeros. -/
def isOctet (cs : List Char) : Bool :=
  !cs.isEmpty && cs.all Char.isDigit && cs.length ≤ 3 && (cs == ['0'] || cs.head? != some '0') &&
    cs.foldl (fun n c => 10 * n + (c.toNat - '0'.toNat)) 0 ≤ 255

/-- Four numbers from 0 to 255 with points between them. -/
def isFourNumbers (host : List Char) : Bool :=
  let pieces := Text.splitOn '.' host
  pieces.length == 4 && pieces.all isOctet

/-! ### Eight groups -/

/-- A hexadecimal digit, capital or small. -/
def isHexDigit (c : Char) : Bool :=
  c.isDigit || ('a' ≤ c && c ≤ 'f') || ('A' ≤ c && c ≤ 'F')

/-- A group of one to four hexadecimal digits. -/
def isGroup (cs : List Char) : Bool := !cs.isEmpty && cs.length ≤ 4 && cs.all isHexDigit

/-- Groups, given by what stands between colons; the last two may be written as four numbers, and
one run of zero groups may be left out, for which two colons stand. -/
def areGroups (pieces : List (List Char)) : Bool :=
  let last := pieces.getLast?.getD []
  let isMixed := last.contains '.'
  let pieces := if isMixed then pieces.dropLast ++ [['0'], ['0']] else pieces
  let inner := (pieces.drop 1).dropLast
  (!isMixed || isFourNumbers last) && 3 ≤ pieces.length && pieces.length ≤ 9 &&
    match inner.findIdx? (·.isEmpty) with
    | none => pieces.length == 8 && pieces.all isGroup
    | some place =>
      let before := pieces.take (place + 1)
      let after := pieces.drop (place + 2)
      let before := if before == [[]] then [] else before
      let after := if after == [[]] then [] else after
      before.all isGroup && after.all isGroup && before.length + after.length ≤ 7

/-- Eight groups, perhaps with a zone after a percent sign. -/
def isGroups (host : List Char) : Bool :=
  match Text.cut '%' host with
  | (groups, none) => areGroups (Text.splitOn ':' groups)
  | (groups, some zone) =>
    !zone.isEmpty && !zone.contains '%' && areGroups (Text.splitOn ':' groups)

/-! ### Names -/

/-- A name in the form in which it is asked: characters of ASCII are escaped where they have to be,
and any others are written in ASCII. -/
def encodeName? (name : List Char) : Option (List Char) :=
  if name.all (·.toNat < 128) then some (escape isHostChar (name.map Char.toLower))
  else (HostName.encode (Text.lower name)).toOption

/-! ### All hosts -/

/-- A host in the form in which it is asked; groups stand in brackets before and not after. -/
def encode? (host : List Char) : Option (List Char) :=
  if looksLikeNumbers host then
    if isFourNumbers host then some host else none
  else
    match host with
    | '[' :: rest =>
      if rest.getLast? == some ']' then
        if isGroups rest.dropLast then some rest.dropLast else none
      else encodeName? host
    | _ => encodeName? host

/-- A request can be sent to a host: it is written in ASCII, and if it is a name that was brought
into this form, it can be read again. -/
def check (host : List Char) : Except AddressFault Unit :=
  if host.any (127 < ·.toNat) then .error .unwritten
  else if HostName.Label.mark.isPrefixOf host then (HostName.check host).mapError .host
  else .ok ()

end ContentPack.Http.Host
