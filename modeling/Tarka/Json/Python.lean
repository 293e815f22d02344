import Tarka.Json.Value

/-! # JSON documents in Python

The Python services hold a document as `json.loads` returns it. A `Value` stands for such an
object as well: an integer is an `int`, a double a `float`, and the entries of a `dict` are in
the order of the document. Left out are the integers outside of 64 bits, which Rust reads as doubles
(`PyJson` has them), and the non-finite doubles, which Rust does not accept. -/

namespace Tarka.Json

open Tarka.Lib

/-- The texts CPython computes for doubles and for quoted strings. -/
structure PyText where
  /-- `repr` of a `float`. -/
  reprFloat : F64 → String
  /-- `repr` of a `str`. -/
  reprStr : String → String

def decimalText : Int → String
  | .ofNat n => Nat.repr n
  | .negSucc n => "-" ++ Nat.repr (n + 1)

/-- `repr` of a number. -/
def PyText.number (t : PyText) : Number → String
  | .posInt n => decimalText n.toNat
  | .negInt k => decimalText (Int.negSucc k.val)
  | .float x => t.reprFloat x.val

namespace Value

mutual

/-- `repr`. -/
def pyRepr (t : PyText) : Value → String
  | null => "None"
  | bool true => "True"
  | bool false => "False"
  | number n => t.number n
  | string s => t.reprStr s
  | array items => "[" ++ pyReprItems t items ++ "]"
  | object entries => "\x7b" ++ pyReprEntries t entries ++ "\x7d"

def pyReprItems (t : PyText) : List Value → String
  | [] => ""
  | [v] => pyRepr t v
  | v :: vs => pyRepr t v ++ ", " ++ pyReprItems t vs

def pyReprEntries (t : PyText) : List (String × Value) → String
  | [] => ""
  | [(k, v)] => t.reprStr k ++ ": " ++ pyRepr t v
  | (k, v) :: es => t.reprStr k ++ ": " ++ pyRepr t v ++ ", " ++ pyReprEntries t es

end

/-- `str`: a string is itself. -/
def pyStr (t : PyText) : Value → String
  | string s => s
  | v => pyRepr t v

/-- `bool`: empty collections, zeros, `False` and `None` are false. -/
def truthy : Value → Bool
  | null => false
  | bool b => b
  | number (.posInt n) => n != 0
  | number (.negInt _) => true
  | number (.float x) => x.val.magnitude != 0
  | string s => !s.isEmpty
  | array items => !items.isEmpty
  | object entries => !entries.isEmpty

end Value

end Tarka.Json
