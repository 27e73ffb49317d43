import ContentPack.Json.Reader

/-!
# Encodings of JSON texts

A JSON text that arrives as octets says by its first octets in which encoding it is written:
a byte order mark if there is one, else the places of the zero octets among the first four, because
the first characters of a JSON text are ASCII. `Json.readBytes?` decodes and reads such a text.
-/

namespace ContentPack.Json

/-- The encodings that are told apart. -/
inductive Encoding where
  /-- UTF-8 -/
  | utf8
  /-- UTF-16, the high octet first or last -/
  | utf16 (isBigEndian : Bool)
  /-- UTF-32, the high octet first or last -/
  | utf32 (isBigEndian : Bool)
  deriving DecidableEq, Repr

/-- The encoding of a text, and its octets without the byte order mark. -/
def detectEncoding : List Nat → Encoding × List Nat
  | 0x00 :: 0x00 :: 0xFE :: 0xFF :: rest => (.utf32 true, rest)
  | 0xFF :: 0xFE :: 0x00 :: 0x00 :: rest => (.utf32 false, rest)
  | 0xFE :: 0xFF :: rest => (.utf16 true, rest)
  | 0xFF :: 0xFE :: rest => (.utf16 false, rest)
  | 0xEF :: 0xBB :: 0xBF :: rest => (.utf8, rest)
  | bytes@(a :: b :: c :: d :: _) =>
    if a = 0 then (if b = 0 then .utf32 true else .utf16 true, bytes)
    else if b = 0 then (if c = 0 ∧ d = 0 then .utf32 false else .utf16 false, bytes)
    else (.utf8, bytes)
  | bytes@(a :: b :: []) =>
    if a = 0 then (.utf16 true, bytes)
    else if b = 0 then (.utf16 false, bytes)
    else (.utf8, bytes)
  | bytes => (.utf8, bytes)

/-! ### Decoding -/

/-- The octet continues a character of UTF-8. -/
def isTail (b : Nat) : Bool := 0x80 ≤ b && b < 0xC0

/-- The code points of a UTF-8 text; a surrogate is let through. -/
def decodeUtf8 : List Nat → Option (List Nat)
  | [] => some []
  | a :: rest =>
    if a < 0x80 then (decodeUtf8 rest).map (a :: ·)
    else
      match rest with
      | b :: rest =>
        if !isTail b then none
        else if 0xC2 ≤ a && a < 0xE0 then
          (decodeUtf8 rest).map (((a - 0xC0) * 64 + (b - 0x80)) :: ·)
        else
          match rest with
          | c :: rest =>
            if !isTail c then none
            else if 0xE0 ≤ a && a < 0xF0 then
              let n := ((a - 0xE0) * 64 + (b - 0x80)) * 64 + (c - 0x80)
              if n < 0x800 then none else (decodeUtf8 rest).map (n :: ·)
            else
              match rest with
              | d :: rest =>
                if !isTail d || !(0xF0 ≤ a && a < 0xF5) then none
                else
                  let n := (((a - 0xF0) * 64 + (b - 0x80)) * 64 + (c - 0x80)) * 64 + (d - 0x80)
                  if n < 0x10000 || 0x10FFFF < n then none else (decodeUtf8 rest).map (n :: ·)
              | [] => none
          | [] => none
      | [] => none

/-- The code units of a UTF-16 text. -/
def decodeUtf16 (isBigEndian : Bool) : List Nat → Option (List Nat)
  | [] => some []
  | [_] => none
  | a :: b :: rest =>
    (decodeUtf16 isBigEndian rest).map ((if isBigEndian then a * 256 + b else b * 256 + a) :: ·)

/-- The code points of a UTF-32 text. -/
def decodeUtf32 (isBigEndian : Bool) : List Nat → Option (List Nat)
  | [] => some []
  | a :: b :: c :: d :: rest =>
    let n :=
      if isBigEndian then ((a * 256 + b) * 256 + c) * 256 + d
      else ((d * 256 + c) * 256 + b) * 256 + a
    if 0x10FFFF < n then none else (decodeUtf32 isBigEndian rest).map (n :: ·)
  | _ => none

/-- The code points or code units of a text in an encoding. -/
def Encoding.units? (encoding : Encoding) (bytes : List Nat) : Option (List Nat) :=
  match encoding with
  | .utf8 => decodeUtf8 bytes
  | .utf16 isBigEndian => decodeUtf16 isBigEndian bytes
  | .utf32 isBigEndian => decodeUtf32 isBigEndian bytes

/-- The characters of a text in an encoding. In every encoding the two halves of a pair of
surrogates make one character. -/
def Encoding.decode? (encoding : Encoding) (bytes : List Nat) : Option (List Char) :=
  (encoding.units? bytes).map joinUnits

/-- Read one value from the octets of a text. -/
def readBytes? (bytes : List Nat) : Option Json := do
  let (encoding, body) := detectEncoding bytes
  readChars? (← encoding.decode? body)

end ContentPack.Json
