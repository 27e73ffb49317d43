/-!
# Percent escapes

In an address a character either stands for itself or is written as percent escapes of its bytes.
Which characters stand for themselves depends on the part of the address; a percent sign always
does, so an escape that is already there stays as it is.
-/

namespace ContentPack.Http

/-- The printable characters of ASCII, without the space. -/
def isGraphic (c : Char) : Bool := '!' ≤ c && c ≤ '~'

/-- The characters that stand for themselves in a fragment. -/
def isFragmentChar (c : Char) : Bool := isGraphic c && !(['"', '<', '>', '\x60'].contains c)

/-- The characters that stand for themselves in a query. -/
def isQueryChar (c : Char) : Bool := isGraphic c && !(['"', '#', '<', '>'].contains c)

/-- The characters that stand for themselves in a path. -/
def isPathChar (c : Char) : Bool := isQueryChar c && !(['?', '\x60', '\x7b', '\x7d'].contains c)

/-- The characters that stand for themselves in the name of a user and a password. -/
def isUserChar (c : Char) : Bool :=
  isPathChar c && !(['/', ';', '=', '@', '[', '\\', ']', '^', '|'].contains c)

/-- The characters that stand for themselves in the name of a host. -/
def isHostChar (c : Char) : Bool :=
  c.isAlphanum || ['-', '.', '_', '~', '!', '$', '&', '\'', '(', ')', '*', '+', ',', ';', '=',
    '"', '\x60', '\x7b', '\x7d', '%', '|', '\\'].contains c

/-- A hexadecimal digit. -/
def hexDigit (n : Nat) : Char := (Nat.digitChar n).toUpper

/-- The percent escape of a byte. -/
def escapeByte (b : UInt8) : List Char := ['%', hexDigit (b.toNat / 16), hexDigit (b.toNat % 16)]

/-- Write the characters that cannot stand for themselves as escapes. -/
def escape (stands : Char → Bool) (cs : List Char) : List Char :=
  cs.flatMap fun c => if stands c then [c] else (String.utf8EncodeChar c).flatMap escapeByte

end ContentPack.Http
