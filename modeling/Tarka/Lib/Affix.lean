import Tarka.Lib.Text

/-! # Starts and parts of strings

The tests of code that tells labels and names apart by how they begin, or by a word in them. A text
that was built from a start and a rest has that start and gives the rest back. -/

namespace Tarka.Lib

open List String

/-- `s.startswith(start)`. -/
def hasStart (start s : String) : Bool := start.toList.isPrefixOf s.toList

/-- What stands after a start, `s[len(start):]`. -/
def afterStart (start s : String) : String := String.ofList (s.toList.drop start.toList.length)

/-- `part in s`. -/
def hasPart (part s : String) : Bool := s.toList.tails.any part.toList.isPrefixOf

/-- `s[:n]`. -/
def cut (n : Nat) (s : String) : String := String.ofList (s.toList.take n)

theorem hasStart_append (start s : String) : hasStart start (start ++ s) = true := by
  rw [hasStart, toList_append, isPrefixOf_iff_prefix]
  exact prefix_append _ _

theorem afterStart_append (start s : String) : afterStart start (start ++ s) = s := by
  rw [afterStart, toList_append, drop_left, ofList_toList]

/-- A text with another start, as long as the first one at least, does not have it. -/
theorem hasStart_append_eq_false {start other : String} (h : hasStart start other = false)
    (hlength : start.toList.length ≤ other.toList.length) (s : String) :
    hasStart start (other ++ s) = false := by
  rw [Bool.eq_false_iff] at h ⊢
  intro hstart
  apply h
  rw [hasStart, toList_append, isPrefixOf_iff_prefix] at hstart
  rw [hasStart, isPrefixOf_iff_prefix]
  exact prefix_of_prefix_length_le hstart (prefix_append _ _) hlength

end Tarka.Lib
