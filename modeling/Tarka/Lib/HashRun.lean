import Mathlib.Tactic
import Tarka.Lib.Loop

/-! # Computations that log what they hash

A statement such as "two runs that end in the same digest did the same thing, or they exhibit
a collision" has to say *which* two inputs collide: that a collision exists somewhere is true
of every hash function and says nothing. `HashRun` is the computation monad that keeps the
evidence. A run has a result, or an error, and the log of every input it has handed to the
hash, in order; `Collides` reads the collision off two such logs.

The hash itself is a parameter `H : Q → D` throughout.
-/

namespace Tarka.Lib

open List

/-- A computation that may fail with `ε` and logs every hash input of type `Q`. -/
structure HashRun (Q ε α : Type) where
  /-- The value the run returns, or the error it stops with. -/
  result : Except ε α
  /-- Every input handed to the hash, in order. -/
  log : List Q

namespace HashRun

variable {Q D ε ε' α β : Type}

/-- One step after another; an error ends the run and keeps the log so far. -/
protected def bind (x : HashRun Q ε α) (f : α → HashRun Q ε β) : HashRun Q ε β :=
  match x.result with
  | .ok a => ⟨(f a).result, x.log ++ (f a).log⟩
  | .error e => ⟨.error e, x.log⟩

instance : Monad (HashRun Q ε) where
  pure a := ⟨.ok a, []⟩
  bind := HashRun.bind

instance : MonadLift (Except ε) (HashRun Q ε) where
  monadLift x := ⟨x, []⟩

def fail (e : ε) : HashRun Q ε α := ⟨.error e, []⟩

/-- Stop with an error if the condition holds: an early `return Err(e)`. -/
def failIf (c : Prop) [Decidable c] (e : ε) : HashRun Q ε Unit := if c then fail e else pure ()

/-- The value of an option, or an error: `ok_or(e)?`. -/
def okOr (o : Option α) (e : ε) : HashRun Q ε α :=
  match o with
  | some a => pure a
  | none => fail e

/-- Hash `x`, and log that it was hashed. -/
def query (H : Q → D) (x : Q) : HashRun Q ε D := ⟨.ok (H x), [x]⟩

/-- Rename the errors of a run, as a `map_err` does. -/
def mapErr (f : ε → ε') (x : HashRun Q ε α) : HashRun Q ε' α := ⟨x.result.mapError f, x.log⟩

@[simp] theorem pure_eq (a : α) : (pure a : HashRun Q ε α) = ⟨.ok a, []⟩ := rfl

@[simp] theorem lift_eq (x : Except ε α) : (liftM x : HashRun Q ε α) = ⟨x, []⟩ := rfl

@[simp] theorem ok_bind (a : α) (l : List Q) (f : α → HashRun Q ε β) :
    ((⟨.ok a, l⟩ : HashRun Q ε α) >>= f) = ⟨(f a).result, l ++ (f a).log⟩ := rfl

@[simp] theorem error_bind (e : ε) (l : List Q) (f : α → HashRun Q ε β) :
    ((⟨.error e, l⟩ : HashRun Q ε α) >>= f) = ⟨.error e, l⟩ := rfl

instance : LawfulMonad (HashRun Q ε) := LawfulMonad.mk' _
  (by rintro α ⟨_ | _, l⟩ <;> simp [Functor.map, HashRun.bind])
  (by intro α β a f; simp)
  (by
    rintro α β γ ⟨_ | a, l⟩ f g
    · rfl
    · simp only [ok_bind]
      rcases f a with ⟨_ | b, l'⟩
      · rfl
      · simp)

variable {x : HashRun Q ε α} {l : List Q} {f : α → HashRun Q ε β}

/-- **Inversion of a successful sequence**: both steps succeeded, and the log is the first
step's followed by the second's. -/
theorem bind_eq_ok {b : β} :
    (x >>= f) = ⟨.ok b, l⟩ ↔
      ∃ a l₁ l₂, x = ⟨.ok a, l₁⟩ ∧ f a = ⟨.ok b, l₂⟩ ∧ l = l₁ ++ l₂ := by
  rcases x with ⟨r, lx⟩
  cases r with
  | error e =>
    constructor
    · intro h; simp at h
    · rintro ⟨a, l₁, l₂, h, -, -⟩; simp at h
  | ok a =>
    constructor
    · intro h
      rw [ok_bind, mk.injEq] at h
      exact ⟨a, lx, (f a).log, rfl, by rw [← h.1], h.2.symm⟩
    · rintro ⟨a', l₁, l₂, h, hf, rfl⟩
      obtain ⟨rfl, rfl⟩ := h
      rw [ok_bind, hf]

variable {a : α}

theorem lift_eq_ok {x : Except ε α} :
    (liftM x : HashRun Q ε α) = ⟨.ok a, l⟩ ↔ x = .ok a ∧ l = [] := by
  simp [eq_comm]

variable {H : Q → D}

theorem query_eq_ok {x : Q} {d : D} :
    (query H x : HashRun Q ε D) = ⟨.ok d, l⟩ ↔ H x = d ∧ l = [x] := by
  simp [query, eq_comm]

variable {e : ε}

theorem failIf_eq_ok {c : Prop} [Decidable c] :
    (failIf c e : HashRun Q ε Unit) = ⟨.ok (), l⟩ ↔ ¬c ∧ l = [] := by
  unfold failIf
  by_cases hc : c
  · simp [hc, fail]
  · simp [hc, eq_comm]

theorem okOr_eq_ok {o : Option α} :
    (okOr o e : HashRun Q ε α) = ⟨.ok a, l⟩ ↔ o = some a ∧ l = [] := by
  cases o with
  | none => simp [okOr, fail]
  | some b => simp [okOr, eq_comm]

theorem mapErr_eq_ok {f : ε → ε'} : x.mapErr f = ⟨.ok a, l⟩ ↔ x = ⟨.ok a, l⟩ := by
  rcases x with ⟨r, lx⟩
  cases r <;> simp [mapErr, Except.mapError]

/-- **Inversion of a failed sequence**: the first step failed, or the second did after it. -/
theorem bind_eq_error :
    (x >>= f).result = .error e ↔
      x.result = .error e ∨ ∃ a, x.result = .ok a ∧ (f a).result = .error e := by
  rcases x with ⟨r, l⟩
  cases r <;> simp

theorem mapErr_eq_error {f : ε → ε'} {e : ε'} :
    (x.mapErr f).result = .error e ↔ ∃ e', x.result = .error e' ∧ f e' = e := by
  rcases x with ⟨r, l⟩
  cases r <;> simp [mapErr, Except.mapError]

/-! ## Results

The result of a run whose next step is a check or another run. -/

theorem result_failIf_bind (c : Prop) [Decidable c] (e : ε) (f : Unit → HashRun Q ε β) :
    (failIf c e >>= f).result = if c then .error e else (f ()).result := by
  unfold failIf
  split_ifs <;> rfl

theorem result_failIf (c : Prop) [Decidable c] (e : ε) :
    (failIf c e : HashRun Q ε Unit).result = if c then .error e else .ok () := by
  unfold failIf
  split_ifs <;> rfl

theorem result_okOr_bind (o : Option α) (e : ε) (f : α → HashRun Q ε β) :
    (okOr o e >>= f).result = o.elim (.error e) (fun a => (f a).result) := by
  cases o <;> rfl

/-! ## Outcomes

Two implementations of one computation that raise different errors are compared by what they
return, if they return. -/

def outcome (x : HashRun Q ε α) : Option α := x.result.toOption

theorem outcome_pure (a : α) : (pure a : HashRun Q ε α).outcome = some a := rfl

@[simp] theorem outcome_lift (x : Except ε α) :
    (liftM x : HashRun Q ε α).outcome = x.toOption := rfl

@[simp] theorem outcome_query (H : Q → D) (x : Q) :
    (query H x : HashRun Q ε D).outcome = some (H x) := rfl

@[simp] theorem outcome_mapErr (f : ε → ε') (x : HashRun Q ε α) :
    (x.mapErr f).outcome = x.outcome := by
  rcases x with ⟨r, l⟩
  cases r <;> rfl

@[simp] theorem outcome_bind (x : HashRun Q ε α) (f : α → HashRun Q ε β) :
    (x >>= f).outcome = x.outcome.bind (fun a => (f a).outcome) := by
  rcases x with ⟨r, l⟩
  cases r <;> rfl

@[simp] theorem outcome_failIf (c : Prop) [Decidable c] (e : ε) :
    (failIf c e : HashRun Q ε Unit).outcome = if c then none else some () := by
  unfold failIf
  split_ifs <;> rfl

theorem outcome_okOr (o : Option α) (e : ε) : (okOr o e : HashRun Q ε α).outcome = o := by
  cases o <;> rfl

theorem result_mapErr_const_bind (x : HashRun Q ε α) (e : ε') (f : α → HashRun Q ε' β) :
    (x.mapErr (fun _ => e) >>= f).result = x.outcome.elim (.error e) (fun a => (f a).result) := by
  rcases x with ⟨r, l⟩
  cases r <;> rfl

theorem outcome_of_result (h : x.result = .ok a) : x.outcome = some a := by
  rw [outcome, h]
  rfl

theorem result_ne_error (h : x.outcome = some a) : x.result ≠ .error e := by
  intro he
  rw [outcome, he] at h
  cases h

theorem eq_of_outcome (h : x.outcome = some a) : x = ⟨.ok a, x.log⟩ := by
  rcases x with ⟨r, l⟩
  cases r with
  | error e => cases h
  | ok b =>
    cases h
    rfl

theorem outcome_mapM_map {γ : Type} {g : α → HashRun Q ε' γ} (h : β → γ)
    (hfg : ∀ a, (g a).outcome = (f a).outcome.map h) : ∀ l : List α,
    (l.mapM g).outcome = (l.mapM f).outcome.map (map h)
  | [] => rfl
  | a :: l => by
    rw [mapM_cons, mapM_cons]
    simp only [outcome_bind, outcome_pure, hfg a, outcome_mapM_map h hfg l]
    cases (f a).outcome with
    | none => rfl
    | some b => cases (l.mapM f).outcome <;> rfl

end HashRun

theorem toOption_bind {ε α β : Type} (x : Except ε α) (f : α → Except ε β) :
    (x >>= f).toOption = x.toOption.bind (fun a => (f a).toOption) := by
  cases x <;> rfl

theorem toOption_foldlM {ε ε' α β : Type} {f : β → α → Except ε β} {g : β → α → Except ε' β}
    (h : ∀ b a, (f b a).toOption = (g b a).toOption) : ∀ (l : List α) (b : β),
    (l.foldlM f b).toOption = (l.foldlM g b).toOption
  | [], _ => rfl
  | a :: l, b => by
    rw [foldlM_cons, foldlM_cons, toOption_bind, toOption_bind, h]
    simp [toOption_foldlM h l]

/-! ## Collisions between two logs -/

section

variable {Q D : Type}

/-- The logs `l₁` and `l₂` exhibit a collision of `H`: an entry of the one and a different
entry of the other have the same digest. -/
def Collides (H : Q → D) (l₁ l₂ : List Q) : Prop :=
  ∃ x ∈ l₁, ∃ y ∈ l₂, x ≠ y ∧ H x = H y

/-- The log `l` exhibits a preimage of the digest `d`. -/
def HitsDigest (H : Q → D) (d : D) (l : List Q) : Prop := ∃ x ∈ l, H x = d

variable {l₁ l₂ : List Q}

theorem Collides.mono {m₁ m₂ : List Q} (h : Collides H l₁ l₂)
    (h₁ : l₁ ⊆ m₁) (h₂ : l₂ ⊆ m₂) : Collides H m₁ m₂ := by
  obtain ⟨x, hx, y, hy, hne, he⟩ := h
  exact ⟨x, h₁ hx, y, h₂ hy, hne, he⟩

/-- **Two logged inputs with the same digest** are the same input, or a collision. -/
theorem eq_or_collides {x y : Q} (hx : x ∈ l₁) (hy : y ∈ l₂)
    (h : H x = H y) : x = y ∨ Collides H l₁ l₂ := by
  by_cases hxy : x = y
  · exact .inl hxy
  · exact .inr ⟨x, hx, y, hy, hxy, h⟩

end

end Tarka.Lib
