/-!
# Blank characters

Two classes of blank characters. `isWhiteSpace` is the Unicode property `White_Space`, which
numbers may be padded with. `isBlank` adds the four information separators `U+001C` to `U+001F`;
it is what codes and identifiers are trimmed of (`trim`).
-/

namespace ContentPack.Text

/-- The Unicode property `White_Space`. -/
def isWhiteSpace (c : Char) : Bool :=
  let n := c.toNat
  (0x09 ≤ n && n ≤ 0x0D) || n == 0x20 || n == 0x85 || n == 0xA0 || n == 0x1680 ||
    (0x2000 ≤ n && n ≤ 0x200A) || n == 0x2028 || n == 0x2029 || n == 0x202F || n == 0x205F ||
    n == 0x3000

/-- White space, or one of the four information separators. -/
def isBlank (c : Char) : Bool :=
  isWhiteSpace c || (0x1C ≤ c.toNat && c.toNat ≤ 0x1F)

/-! ### Trimming -/

/-- The list without the longest run of characters of a class at its start. -/
def dropStart (p : Char → Bool) (cs : List Char) : List Char := cs.dropWhile p

/-- The list without the longest run of characters of a class at its end. -/
def dropEnd (p : Char → Bool) (cs : List Char) : List Char := (cs.reverse.dropWhile p).reverse

/-- The list without the runs of characters of a class at either end. -/
def trimChars (p : Char → Bool) (cs : List Char) : List Char := dropEnd p (dropStart p cs)

/-- The text without blank characters at either end. -/
def trim (s : String) : String := String.ofList (trimChars isBlank s.toList)

end ContentPack.Text
