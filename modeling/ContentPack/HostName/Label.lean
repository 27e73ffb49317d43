import ContentPack.Error
import ContentPack.HostName.Punycode
import ContentPack.HostName.Repertoire
import ContentPack.Text.Composition
import ContentPack.Text.Direction
import ContentPack.Text.Joining
import ContentPack.Text.Script

/-!
# Labels of host names

A label is a part of the name of a host. It is composed, has no hyphens at its ends or after its
second character, does not start with a mark, has characters of the repertoire and others only where
they can stand, and is written in one direction. A label with characters that are not of ASCII has a
second form in ASCII, which starts with `xn--`.
-/

namespace ContentPack.HostName.Label

/-! ### Contexts -/

/-- The character that is made of two letters does not join them. -/
def nonJoiner : Nat := 0x200C

/-- The character that joins two letters. -/
def joiner : Nat := 0x200D

/-- The combining class of the marks that take a vowel away. -/
def vowelKiller : Nat := 9

/-- What stands before is such a mark. -/
def followsVowelKiller (before : List Nat) : Bool :=
  before.head?.any fun n => Text.combiningClass n == vowelKiller

/-- Without transparent characters, what stands first satisfies a condition. -/
def startsWith (p : Nat → Bool) (ns : List Nat) : Bool :=
  (ns.dropWhile Text.isTransparent).head?.any p

/-- A digit as it is used with Arabic letters. -/
def isArabicDigit (n : Nat) : Bool := 0x660 ≤ n && n ≤ 0x669

/-- A digit as it is used with Arabic letters in other languages. -/
def isExtendedDigit (n : Nat) : Bool := 0x6F0 ≤ n && n ≤ 0x6F9

/-- A character that can stand in some places can stand where it does: after what is before it,
which is given in reverse, and before what is after it. Other characters give nothing. -/
def fits? (before : List Nat) (n : Nat) (after : List Nat) : Option Bool :=
  if n = nonJoiner then
    some (followsVowelKiller before ||
      (startsWith Text.joinsNext before && startsWith Text.joinsPrevious after))
  else if n = joiner then some (followsVowelKiller before)
  else if n = 0xB7 then some (before.head? == some 'l'.toNat && after.head? == some 'l'.toNat)
  else if n = 0x375 then some (after.head?.any Text.greek.contains)
  else if n = 0x5F3 || n = 0x5F4 then some (before.head?.any Text.hebrew.contains)
  else if n = 0x30FB then some ((before ++ after).any fun m => m != n && Text.japanese.contains m)
  else if isArabicDigit n then some (!(before ++ after).any isExtendedDigit)
  else if isExtendedDigit n then some (!(before ++ after).any isArabicDigit)
  else none

/-- What is wrong with a character where it cannot stand; a joiner in a wrong place spoils the form
of the label. -/
def misplaced (n : Nat) : HostFault := if n = nonJoiner || n = joiner then .form else .context

/-- All characters can stand where they do, after what is before them, which is given in reverse. -/
def checkCharacters (before : List Nat) : List Nat → Except HostFault Unit
  | [] => .ok ()
  | n :: after =>
    if repertoire.contains n then checkCharacters (n :: before) after
    else
      match fits? before n after with
      | some true => checkCharacters (n :: before) after
      | some false => .error (misplaced n)
      | none => .error .character

/-! ### Directions -/

open Text (Direction)

/-- Directions that a label from right to left can have, in which letters from left to right
cannot stand. -/
def standsRightToLeft (d : Direction) : Bool := d != .leftToRight

/-- Directions that a label from left to right can have. -/
def standsLeftToRight (d : Direction) : Bool :=
  d != .rightToLeft && d != .arabicLetter && d != .arabicNumber

/-- A label from right to left can end with it. -/
def endsRightToLeft (d : Direction) : Bool :=
  d == .rightToLeft || d == .arabicLetter || d == .europeanNumber || d == .arabicNumber

/-- The last direction that is not that of a mark. -/
def lastOf (ds : List Direction) : Option Direction := (ds.filter (· != .nonspacingMark)).getLast?

/-- A row of directions is that of a label that is written in one direction. A label without
anything from right to left always is. -/
def areAligned (ds : List Direction) : Bool :=
  if ds.all standsLeftToRight then true
  else
    match ds.head? with
    | some .rightToLeft | some .arabicLetter =>
      ds.all standsRightToLeft && (lastOf ds).any endsRightToLeft &&
        !(ds.contains .europeanNumber && ds.contains .arabicNumber)
    | _ => false

/-- A label is written in one direction. -/
def checkDirection (label : List Nat) : Except HostFault Unit :=
  match label.mapM Text.direction? with
  | some ds => if areAligned ds then .ok () else .error .direction
  | none => .error .direction

/-! ### Labels -/

/-- The most characters of a name, with the point at its end. -/
def maxName : Nat := 254

/-- The most characters of the form of a label in ASCII. -/
def maxLabel : Nat := 63

/-- Hyphens stand neither at the ends nor in the third and the fourth place. -/
def areHyphensPlaced (label : List Nat) : Bool :=
  let hyphen := '-'.toNat
  (label.drop 2).take 2 != [hyphen, hyphen] && label.head? != some hyphen &&
    label.getLast? != some hyphen

/-- A label is one of a host. -/
def check (label : List Nat) : Except HostFault Unit := do
  let isFormed := !label.isEmpty && label.length ≤ maxName && Text.isComposed label &&
    areHyphensPlaced label && !label.head?.any Text.isMark
  if !isFormed then throw .form
  checkCharacters [] label
  checkDirection label

/-- What the form of a label in ASCII starts with. -/
def mark : List Char := ['x', 'n', '-', '-']

/-- Check a label that may be in its form in ASCII. -/
def checkEither (label : List Char) : Except HostFault Unit :=
  let small := label.map Char.toLower
  if !label.all (·.toNat < 128) then check (label.map Char.toNat)
  else if mark.isPrefixOf small then
    let rest := small.drop mark.length
    if rest.isEmpty || rest.getLast? == some '-' then .error .form
    else
      match Punycode.decode? rest with
      | some label => check label
      | none => .error .form
  else check (small.map Char.toNat)

/-- The form of a label in ASCII. -/
def encode (label : List Char) : Except HostFault (List Char) := do
  checkEither label
  let encoded := if label.all (·.toNat < 128) then label
    else mark ++ Punycode.encode (label.map Char.toNat)
  if encoded.length ≤ maxLabel then return encoded else throw .form

end ContentPack.HostName.Label
