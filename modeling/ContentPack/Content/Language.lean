import ContentPack.Text.Blank

/-!
# Content languages

The languages that content is served in, their codes, and the reading of a language code written
by hand (`Language.ofCode`).
-/

namespace ContentPack

/-- A language of content. -/
inductive Language where
  /-- No known language. -/
  | unspecified
  /-- English -/
  | english
  /-- Arabic -/
  | arabic
  /-- Hindi -/
  | hindi
  /-- Hindi mixed with English -/
  | hinglish
  /-- Brazilian Portuguese, which is served under the general code of Portuguese -/
  | brazilianPortuguese
  /-- Swahili -/
  | swahili
  /-- Nigerian Pidgin -/
  | nigerianPidgin
  deriving DecidableEq, Repr, Inhabited

namespace Language

/-- Every value, in the order in which codes are compared. -/
def all : List Language :=
  [unspecified, english, arabic, hindi, hinglish, brazilianPortuguese, swahili, nigerianPidgin]

/-- The languages content is served in. -/
def supported : List Language :=
  [english, arabic, hindi, hinglish, brazilianPortuguese, swahili, nigerianPidgin]

/-- The code of a language. -/
def code : Language → String
  | unspecified => "unspecified"
  | english => "en"
  | arabic => "ar"
  | hindi => "hi"
  | hinglish => "hi-en"
  | brazilianPortuguese => "pt"
  | swahili => "sw"
  | nigerianPidgin => "pcm"

/-- The name of a language in capital letters. -/
def name : Language → String
  | unspecified => "LANGUAGE_CODE_UNSPECIFIED"
  | english => "ENGLISH"
  | arabic => "ARABIC"
  | hindi => "HINDI"
  | hinglish => "HINGLISH"
  | brazilianPortuguese => "BRAZILIAN_PORTUGUESE"
  | swahili => "SWAHILI"
  | nigerianPidgin => "NIGERIAN_PIDGIN"

/-- The value with exactly this code. -/
def withCode? (code : String) : Option Language := all.find? (·.code == code)

/-- A code without blanks around it and in small letters; `pt-br` is the same as `pt`. Codes are
ASCII, and no other character has an ASCII small letter of a code as its small form. -/
def normalizeCode (code : String) : String :=
  let small := String.ofList ((Text.trim code).toList.map Char.toLower)
  if small = "pt-br" then "pt" else small

/-- The supported language that a code written by hand stands for. -/
def ofCode (code : String) : Language :=
  (supported.find? (·.code == normalizeCode code)).getD unspecified

end Language

end ContentPack
