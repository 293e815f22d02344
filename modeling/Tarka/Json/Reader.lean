import Tarka.Json.Text
import Tarka.Lib.Dict

/-! # Reading JSON texts

The reader of `serde_json::from_str`. It works in two stages. The grammar turns a text into a tree
in which a number is still the numeral that was written. The second stage makes a value of the tree:
an integer that fits in 64 bits stays one, every other number becomes a double, and the entries of
an object go into an ordered map, where the last entry of a key wins. -/

namespace Tarka.Json

open Tarka.Lib

/-! ## Tokens -/

def isJsonSpace (c : Char) : Bool := c == ' ' || c == '\n' || c == '\t' || c == '\r'

def skipSpace (cs : List Char) : List Char := cs.dropWhile isJsonSpace

def hexDigit? (c : Char) : Option Nat :=
  if c.isDigit then some (c.toNat - 48)
  else if 'a' ≤ c ∧ c ≤ 'f' then some (c.toNat - 87)
  else if 'A' ≤ c ∧ c ≤ 'F' then some (c.toNat - 55)
  else none

def readUnit : List Char → Option (Nat × List Char)
  | a :: b :: c :: d :: r =>
    match hexDigit? a, hexDigit? b, hexDigit? c, hexDigit? d with
    | some a, some b, some c, some d => some (((a * 16 + b) * 16 + c) * 16 + d, r)
    | _, _, _, _ => none
  | _ => none

def simpleEscape (e : Char) : Option Char :=
  if e = quote ∨ e = backslash ∨ e = '/' then some e
  else if e = 'b' then some (Char.ofNat 8)
  else if e = 'f' then some (Char.ofNat 12)
  else if e = 'n' then some (Char.ofNat 10)
  else if e = 'r' then some (Char.ofNat 13)
  else if e = 't' then some (Char.ofNat 9)
  else none

def readLowSurrogate (high : Nat) (cs : List Char) : Option (Char × List Char) :=
  ((expect [backslash, 'u'] cs).bind readUnit).bind (fun p =>
    if 0xDC00 ≤ p.1 ∧ p.1 < 0xE000 then
      some (Char.ofNat (0x10000 + (high - 0xD800) * 0x400 + (p.1 - 0xDC00)), p.2)
    else none)

def readEscape : List Char → Option (Char × List Char)
  | [] => none
  | e :: r =>
    if e = 'u' then
      (readUnit r).bind (fun p =>
        if p.1 < 0xD800 ∨ 0xE000 ≤ p.1 then some (Char.ofNat p.1, p.2)
        -- a surrogate without its other half is an error
        else if p.1 < 0xDC00 then readLowSurrogate p.1 p.2
        else none)
    else (simpleEscape e).map (fun d => (d, r))

def readChars : Nat → List Char → Option (List Char × List Char)
  | 0, _ => none
  | _ + 1, [] => none
  | fuel + 1, c :: r =>
    if c = quote then some ([], r)
    else if c = backslash then
      (readEscape r).bind (fun p => (readChars fuel p.2).map (fun q => (p.1 :: q.1, q.2)))
    -- control characters have to be escaped
    else if c.toNat < 0x20 then none
    else (readChars fuel r).map (fun q => (c :: q.1, q.2))

def readString (cs : List Char) : Option (String × List Char) :=
  (readChars cs.length cs).map (fun p => (String.ofList p.1, p.2))

/-! ## Numerals -/

/-- A number as it is written. -/
structure Numeral where
  negative : Bool
  /-- The digits before the point. -/
  int : List Char
  /-- The digits after the point; none when there is no point. -/
  frac : List Char
  exp : Option Int
  deriving DecidableEq

namespace Numeral

def isInteger (n : Numeral) : Bool := n.frac.isEmpty && n.exp.isNone

def toInt (n : Numeral) : Int :=
  if n.negative then -(Nat.ofDigitChars 10 n.int 0 : Int) else Nat.ofDigitChars 10 n.int 0

def ofInt : Int → Numeral
  | .ofNat m => ⟨false, Nat.toDigits 10 m, [], none⟩
  | .negSucc m => ⟨true, Nat.toDigits 10 (m + 1), [], none⟩

end Numeral

def readSign : List Char → Bool × List Char
  | [] => (false, [])
  | c :: r => if c = '-' then (true, r) else (false, c :: r)

def readDigits (cs : List Char) : Option (List Char × List Char) :=
  if cs.takeWhile Char.isDigit = [] then none
  else some (cs.takeWhile Char.isDigit, cs.dropWhile Char.isDigit)

def readFraction : List Char → Option (List Char × List Char)
  | [] => some ([], [])
  | c :: r => if c = '.' then readDigits r else some ([], c :: r)

def readExponentSign : List Char → Bool × List Char
  | [] => (false, [])
  | c :: r => if c = '+' then (false, r) else readSign (c :: r)

def readExponent : List Char → Option (Option Int × List Char)
  | [] => some (none, [])
  | c :: r =>
    if c = 'e' ∨ c = 'E' then
      (readDigits (readExponentSign r).2).map (fun p =>
        (some (if (readExponentSign r).1 then -(Nat.ofDigitChars 10 p.1 0 : Int)
          else Nat.ofDigitChars 10 p.1 0), p.2))
    else some (none, c :: r)

def readNumeral (cs : List Char) : Option (Numeral × List Char) :=
  (readDigits (readSign cs).2).bind (fun i =>
    if i.1.head? = some '0' ∧ i.1 ≠ ['0'] then none
    else (readFraction i.2).bind (fun f =>
      (readExponent f.2).map (fun e => (⟨(readSign cs).1, i.1, f.1, e.1⟩, e.2))))

/-! ## Trees -/

/-- A JSON text by its grammar. -/
inductive Tree where
  | null
  | bool (b : Bool)
  | number (n : Numeral)
  | string (s : String)
  | array (items : List Tree)
  | object (entries : List (String × Tree))

/-- Items separated by commas up to a closing character, at least one. -/
def readSeq {α : Type} (item : List Char → Option (α × List Char)) (close : Char) :
    Nat → List Char → Option (List α × List Char)
  | 0, _ => none
  | fuel + 1, cs =>
    (item cs).bind (fun p =>
      match skipSpace p.2 with
      | [] => none
      | c :: r =>
        if c = close then some ([p.1], r)
        else if c = ',' then (readSeq item close fuel r).map (fun q => (p.1 :: q.1, q.2))
        else none)

def readSeq? {α : Type} (item : List Char → Option (α × List Char)) (close : Char)
    (cs : List Char) : Option (List α × List Char) :=
  match skipSpace cs with
  | [] => none
  | c :: r => if c = close then some ([], r) else readSeq item close (c :: r).length (c :: r)

def readEntry (value : List Char → Option (Tree × List Char)) (cs : List Char) :
    Option ((String × Tree) × List Char) :=
  ((expect [quote] (skipSpace cs)).bind readString).bind (fun k =>
    ((expect [':'] (skipSpace k.2)).bind value).map (fun v => ((k.1, v.1), v.2)))

def closeBrace : Char := Char.ofNat 125

def readValue : Nat → List Char → Option (Tree × List Char)
  | 0, _ => none
  | depth + 1, cs =>
    match skipSpace cs with
    | [] => none
    | c :: r =>
      if c = 'n' then (expect "ull".toList r).map (fun r => (.null, r))
      else if c = 't' then (expect "rue".toList r).map (fun r => (.bool true, r))
      else if c = 'f' then (expect "alse".toList r).map (fun r => (.bool false, r))
      else if c = quote then (readString r).map (fun p => (.string p.1, p.2))
      else if c = '[' then
        if depth = 0 then none
        else (readSeq? (readValue depth) ']' r).map (fun p => (.array p.1, p.2))
      else if c = Char.ofNat 123 then
        if depth = 0 then none
        else (readSeq? (readEntry (readValue depth)) closeBrace r).map
          (fun p => (.object p.1, p.2))
      else (readNumeral (c :: r)).map (fun p => (.number p.1, p.2))

/-- The recursion limit of `serde_json`. -/
def recursionLimit : Nat := 128

/-- A whole text: nothing but white space follows the value. -/
def readTree (cs : List Char) : Option Tree :=
  (readValue recursionLimit cs).bind (fun p => if skipSpace p.2 = [] then some p.1 else none)

/-! ## From trees to values -/

/-- How `serde_json` writes and reads doubles, and its error texts. -/
structure Serde where
  /-- The shortest text of a finite double. -/
  floatText : F64 → String
  /-- The double read for a numeral; `none` when it is out of range. -/
  parseFloat : Numeral → Option FiniteF64
  /-- The message about a text that is not JSON. -/
  error : String → String

def Serde.number (s : Serde) (n : Numeral) : Option Number :=
  if n.isInteger then
    match n.toInt with
    | .ofNat m =>
      -- a zero with a sign is a double
      if m < 2 ^ 64 ∧ n.negative = false then some (.posInt (UInt64.ofNat m))
      else (s.parseFloat n).map .float
    | .negSucc m =>
      if h : m < 2 ^ 63 then some (.negInt ⟨m, h⟩) else (s.parseFloat n).map .float
  else (s.parseFloat n).map .float

/-- The ordered map of the entries: the last entry of a key wins. -/
def orderedMap {V : Type} (es : List (String × V)) : List (String × V) :=
  KeyMap.sortKeys (es.foldl (fun d e => Dict.set d e.1 e.2) [])

namespace Tree

section

variable (s : Serde)

mutual

def toValue : Tree → Option Value
  | null => some .null
  | bool b => some (.bool b)
  | number n => (s.number n).map .number
  | string t => some (.string t)
  | array items => (toItems items).map .array
  | object entries => (toEntries entries).map (fun es => .object (orderedMap es))

def toItems : List Tree → Option (List Value)
  | [] => some []
  | t :: ts => (toValue t).bind (fun v => (toItems ts).map (v :: ·))

def toEntries : List (String × Tree) → Option (List (String × Value))
  | [] => some []
  | (k, t) :: es => (toValue t).bind (fun v => (toEntries es).map ((k, v) :: ·))

end

end

end Tree

namespace Serde

variable (s : Serde)

def fromStr (text : String) : Except String Value :=
  match (readTree text.toList).bind (Tree.toValue s) with
  | some v => .ok v
  | none => .error (s.error text)

/-- `serde_json::to_string`. -/
def text (v : Value) : String := String.ofList (jsonChars escapeChar s.floatText v)

def numeral : Number → Numeral
  | .posInt n => Numeral.ofInt n.toNat
  | .negInt k => Numeral.ofInt (Int.negSucc k.val)
  | .float x => ((readNumeral (s.floatText x.val).toList).map Prod.fst).getD (Numeral.ofInt 0)

mutual

def tree : Value → Tree
  | .null => .null
  | .bool b => .bool b
  | .number n => .number (s.numeral n)
  | .string t => .string t
  | .array items => .array (treeItems items)
  | .object entries => .object (treeEntries entries)

def treeItems : List Value → List Tree
  | [] => []
  | v :: vs => tree v :: treeItems vs

def treeEntries : List (String × Value) → List (String × Tree)
  | [] => []
  | (k, v) :: es => (k, tree v) :: treeEntries es

end

end Serde

end Tarka.Json
