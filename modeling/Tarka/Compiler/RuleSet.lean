import Tarka.Lib.Float64

/-! # Compiled rule bundles (`rule_set.proto`)

The messages of `tarka.compiler.v1` as `prost` generates them: a message field and the arm of a
`oneof` may be unset. -/

namespace Tarka.Compiler

open Tarka.Lib

/-- The arm of `ScalarValue.value`. -/
inductive ScalarArm where
  | boolValue (b : Bool)
  | intValue (i : Int)
  | doubleValue (x : F64)
  | stringValue (s : String)
  deriving DecidableEq

structure ScalarValue where
  value : Option ScalarArm
  deriving DecidableEq

/-- Compare an input signal against a constant scalar. -/
structure SignalCompareLeaf where
  signalName : String
  op : String
  expected : Option ScalarValue
  deriving DecidableEq

/-- `RuleExpression` with the arm of its `oneof`. -/
inductive RuleExpression where
  | unset
  | and (children : List RuleExpression)
  | or (children : List RuleExpression)
  | not (child : Option RuleExpression)
  | compareSignal (leaf : SignalCompareLeaf)

namespace RuleExpression

mutual

def beq : RuleExpression → RuleExpression → Bool
  | unset, unset => true
  | and as, and bs => beqAll as bs
  | or as, or bs => beqAll as bs
  | not none, not none => true
  | not (some a), not (some b) => beq a b
  | compareSignal l, compareSignal m => l == m
  | _, _ => false

def beqAll : List RuleExpression → List RuleExpression → Bool
  | [], [] => true
  | a :: as, b :: bs => beq a b && beqAll as bs
  | _, _ => false

end

mutual

theorem eq_of_beq : ∀ {a b : RuleExpression}, beq a b → a = b
  | unset, unset, _ => rfl
  | and as, and bs, h => by rw [eq_of_beqAll (show beqAll as bs = true from h)]
  | or as, or bs, h => by rw [eq_of_beqAll (show beqAll as bs = true from h)]
  | not none, not none, _ => rfl
  | not (some a), not (some b), h => by rw [eq_of_beq (show beq a b = true from h)]
  | compareSignal l, compareSignal m, h => by
    rw [beq_iff_eq.mp (show (l == m) = true from h)]

theorem eq_of_beqAll : ∀ {as bs : List RuleExpression}, beqAll as bs → as = bs
  | [], [], _ => rfl
  | a :: as, b :: bs, h => by
    rw [beqAll, Bool.and_eq_true] at h
    rw [eq_of_beq h.1, eq_of_beqAll h.2]

end

mutual

theorem beq_self : ∀ a : RuleExpression, beq a a
  | unset => rfl
  | and as => beqAll_self as
  | or as => beqAll_self as
  | not none => rfl
  | not (some a) => beq_self a
  | compareSignal l => by rw [beq, beq_iff_eq]

theorem beqAll_self : ∀ as : List RuleExpression, beqAll as as
  | [] => rfl
  | a :: as => by rw [beqAll, beq_self a, beqAll_self as]; rfl

end

instance : DecidableEq RuleExpression := fun a b =>
  decidable_of_iff (beq a b = true) ⟨eq_of_beq, fun h => h ▸ beq_self a⟩

end RuleExpression

structure CompiledRule where
  id : String
  expression : Option RuleExpression
  deriving DecidableEq

structure RuleSet where
  version : UInt32
  rules : List CompiledRule
  deriving DecidableEq

def RuleSet.empty : RuleSet := ⟨0, []⟩

end Tarka.Compiler
