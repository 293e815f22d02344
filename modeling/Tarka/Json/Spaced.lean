import Tarka.Json.Text

/-! # JSON texts with spaces

`json.dumps` with its default separators puts a space after every comma and colon. -/

namespace Tarka.Json

open Tarka.Lib

section

variable (esc : Char → List Char) (floatText : F64 → String)

mutual

/-- The text of a value with a space after every comma and colon. -/
def spacedChars : Value → List Char
  | .null => "null".toList
  | .bool true => "true".toList
  | .bool false => "false".toList
  | .number n => numberChars floatText n
  | .string s => quoted esc s
  | .array [] => ['[', ']']
  | .array (v :: vs) => '[' :: (spacedChars v ++ spacedItemsTail vs)
  | .object [] => [Char.ofNat 123, Char.ofNat 125]
  | .object ((k, v) :: es) =>
    Char.ofNat 123 :: (quoted esc k ++ ':' :: ' ' :: (spacedChars v ++ spacedEntriesTail es))

def spacedItemsTail : List Value → List Char
  | [] => [']']
  | v :: vs => ',' :: ' ' :: (spacedChars v ++ spacedItemsTail vs)

def spacedEntriesTail : List (String × Value) → List Char
  | [] => [Char.ofNat 125]
  | (k, v) :: es =>
    ',' :: ' ' :: (quoted esc k ++ ':' :: ' ' :: (spacedChars v ++ spacedEntriesTail es))

end

end

/-- `json.dumps(value, sort_keys=True)`. -/
def pyDumpsSpaced (t : PyText) (v : Value) : List Char :=
  spacedChars escapeAscii t.reprFloat (v.sortedBy codePointLe)

end Tarka.Json
