import Mathlib.Tactic

/-! # Short-circuit Boolean trees

Trees of conjunctions, disjunctions and negations over leaves that may fail. A leaf is evaluated
at a moment, since what it reads may change while the tree is walked; every evaluated leaf
takes one moment.

* `Evaluates` is the value of a tree together with the leaves that were evaluated for it, in
  order. It has no rule for a leaf that fails.
* `Reaches` says which leaf a walk arrives at after which others.
* `replay` recomputes the value from the outcomes of the leaves alone.

**`Evaluates.replay`**: the outcomes of the evaluated leaves are exactly what `replay` consumes.
**`evaluates_or_failsAt`**: a tree has a value unless a reached leaf fails. -/

namespace Tarka.Lib.ShortCircuit

open List

/-- A tree with labelled inner nodes. -/
inductive Tree (ν α : Type) where
  | and (id : ν) (children : List (Tree ν α))
  | or (id : ν) (children : List (Tree ν α))
  | not (id : ν) (child : Tree ν α)
  | leaf (l : α)

variable {ν α ρ ε : Type}

/-! ## Replay -/

mutual

/-- The value of a tree from the outcomes of its leaves, with the outcomes that are left over. -/
def replay : Tree ν α → List Bool → Option (Bool × List Bool)
  | .and _ cs, rs => replayAnd cs rs
  | .or _ cs, rs => replayOr cs rs
  | .not _ c, rs => (replay c rs).map (fun p => (!p.1, p.2))
  | .leaf _, [] => none
  | .leaf _, r :: rs => some (r, rs)

def replayAnd : List (Tree ν α) → List Bool → Option (Bool × List Bool)
  | [], rs => some (true, rs)
  | c :: cs, rs =>
    match replay c rs with
    | none => none
    | some (false, rs') => some (false, rs')
    | some (true, rs') => replayAnd cs rs'

def replayOr : List (Tree ν α) → List Bool → Option (Bool × List Bool)
  | [], rs => some (false, rs)
  | c :: cs, rs =>
    match replay c rs with
    | none => none
    | some (true, rs') => some (true, rs')
    | some (false, rs') => replayOr cs rs'

end

/-! ## Reference semantics -/

section

variable (leafAt : Nat → α → Except ε ρ) (passes : ρ → Bool)

/-- The value of a tree from moment `t` on, with the leaves evaluated for it and their records. -/
inductive Evaluates : Nat → Tree ν α → List (α × ρ) → Bool → Prop
  | leaf {t : Nat} {l : α} {r : ρ} (h : leafAt t l = .ok r) :
      Evaluates t (.leaf l) [(l, r)] (passes r)
  | andNil {t : Nat} {id : ν} : Evaluates t (.and id []) [] true
  | andStop {t : Nat} {id : ν} {c : Tree ν α} {cs : List (Tree ν α)} {log : List (α × ρ)}
      (h : Evaluates t c log false) : Evaluates t (.and id (c :: cs)) log false
  | andNext {t : Nat} {id : ν} {c : Tree ν α} {cs : List (Tree ν α)} {log log' : List (α × ρ)}
      {b : Bool} (h : Evaluates t c log true)
      (h' : Evaluates (t + log.length) (.and id cs) log' b) :
      Evaluates t (.and id (c :: cs)) (log ++ log') b
  | orNil {t : Nat} {id : ν} : Evaluates t (.or id []) [] false
  | orStop {t : Nat} {id : ν} {c : Tree ν α} {cs : List (Tree ν α)} {log : List (α × ρ)}
      (h : Evaluates t c log true) : Evaluates t (.or id (c :: cs)) log true
  | orNext {t : Nat} {id : ν} {c : Tree ν α} {cs : List (Tree ν α)} {log log' : List (α × ρ)}
      {b : Bool} (h : Evaluates t c log false)
      (h' : Evaluates (t + log.length) (.or id cs) log' b) :
      Evaluates t (.or id (c :: cs)) (log ++ log') b
  | not {t : Nat} {id : ν} {c : Tree ν α} {log : List (α × ρ)} {b : Bool}
      (h : Evaluates t c log b) : Evaluates t (.not id c) log (!b)

/-- The walk from moment `t` arrives at a leaf, having evaluated the leaves of the log. -/
inductive Reaches : Nat → Tree ν α → List (α × ρ) → α → Prop
  | leaf {t : Nat} {l : α} : Reaches t (.leaf l) [] l
  | andHead {t : Nat} {id : ν} {c : Tree ν α} {cs : List (Tree ν α)} {log : List (α × ρ)} {l : α}
      (h : Reaches t c log l) : Reaches t (.and id (c :: cs)) log l
  | andNext {t : Nat} {id : ν} {c : Tree ν α} {cs : List (Tree ν α)} {log log' : List (α × ρ)}
      {l : α} (h : Evaluates leafAt passes t c log true)
      (h' : Reaches (t + log.length) (.and id cs) log' l) :
      Reaches t (.and id (c :: cs)) (log ++ log') l
  | orHead {t : Nat} {id : ν} {c : Tree ν α} {cs : List (Tree ν α)} {log : List (α × ρ)} {l : α}
      (h : Reaches t c log l) : Reaches t (.or id (c :: cs)) log l
  | orNext {t : Nat} {id : ν} {c : Tree ν α} {cs : List (Tree ν α)} {log log' : List (α × ρ)}
      {l : α} (h : Evaluates leafAt passes t c log false)
      (h' : Reaches (t + log.length) (.or id cs) log' l) :
      Reaches t (.or id (c :: cs)) (log ++ log') l
  | not {t : Nat} {id : ν} {c : Tree ν α} {log : List (α × ρ)} {l : α}
      (h : Reaches t c log l) : Reaches t (.not id c) log l

/-- A tree fails at a leaf: the walk arrives there and the leaf fails with `e`. -/
def FailsAt (t : Nat) (tree : Tree ν α) (log : List (α × ρ)) (l : α) (e : ε) : Prop :=
  Reaches leafAt passes t tree log l ∧ leafAt (t + log.length) l = .error e

end

variable {leafAt : Nat → α → Except ε ρ} {passes : ρ → Bool} {t : Nat} {b : Bool}
  {log : List (α × ρ)} {tree : Tree ν α}

theorem Evaluates.log_ok
    (h : Evaluates leafAt passes t tree log b) : ∀ p ∈ log, ∃ i, leafAt i p.1 = .ok p.2 := by
  induction h with
  | leaf h =>
    intro p hp
    obtain rfl := mem_singleton.mp hp
    exact ⟨_, h⟩
  | andNil => simp
  | andStop _ ih => exact ih
  | andNext _ _ ih ih' => exact forall_mem_append.mpr ⟨ih, ih'⟩
  | orNil => simp
  | orStop _ ih => exact ih
  | orNext _ _ ih ih' => exact forall_mem_append.mpr ⟨ih, ih'⟩
  | not _ ih => exact ih

theorem Reaches.log_ok {l : α}
    (h : Reaches leafAt passes t tree log l) : ∀ p ∈ log, ∃ i, leafAt i p.1 = .ok p.2 := by
  induction h with
  | leaf => simp
  | andHead _ ih => exact ih
  | andNext h _ ih => exact forall_mem_append.mpr ⟨h.log_ok, ih⟩
  | orHead _ ih => exact ih
  | orNext h _ ih => exact forall_mem_append.mpr ⟨h.log_ok, ih⟩
  | not _ ih => exact ih

/-- **Replay**: the outcomes of the evaluated leaves, in order, are exactly what the tree needs
for its value. -/
theorem Evaluates.replay (h : Evaluates leafAt passes t tree log b) (rest : List Bool) :
    replay tree (log.map (fun p => passes p.2) ++ rest) = some (b, rest) := by
  induction h generalizing rest with
  | leaf _ => rfl
  | andNil => rfl
  | andStop _ ih =>
    rw [ShortCircuit.replay, replayAnd, ih]
  | andNext _ _ ih ih' =>
    rw [ShortCircuit.replay, replayAnd, map_append, append_assoc, ih]
    exact ih' rest
  | orNil => rfl
  | orStop _ ih =>
    rw [ShortCircuit.replay, replayOr, ih]
  | orNext _ _ ih ih' =>
    rw [ShortCircuit.replay, replayOr, map_append, append_assoc, ih]
    exact ih' rest
  | not _ ih =>
    rw [ShortCircuit.replay, ih]
    rfl

variable {leafAt' : Nat → α → Except ε ρ}

/-- **Only the logged leaves matter**: a tree has the same value and log over leaves that agree on
them. -/
theorem Evaluates.congr (h : Evaluates leafAt passes t tree log b)
    (hsame : ∀ p ∈ log, ∀ i, leafAt' i p.1 = .ok p.2) : Evaluates leafAt' passes t tree log b := by
  induction h with
  | leaf _ => exact .leaf (hsame _ (mem_singleton_self _) _)
  | andNil => exact .andNil
  | andStop _ ih => exact .andStop (ih hsame)
  | andNext _ _ ih ih' =>
    exact .andNext (ih fun p hp => hsame p (mem_append_left _ hp))
      (ih' fun p hp => hsame p (mem_append_right _ hp))
  | orNil => exact .orNil
  | orStop _ ih => exact .orStop (ih hsame)
  | orNext _ _ ih ih' =>
    exact .orNext (ih fun p hp => hsame p (mem_append_left _ hp))
      (ih' fun p hp => hsame p (mem_append_right _ hp))
  | not _ ih => exact .not (ih hsame)

/-- **Walks with matching records are one walk**: they evaluate the same leaves to the same value.
Records that match have the same outcome; what follows in the two lists is left over. -/
theorem Evaluates.match_leaves {R : ρ → ρ → Prop} (hR : ∀ r r', R r r' → passes r = passes r')
    {t' : Nat} {log' : List (α × ρ)} {b' : Bool} (h : Evaluates leafAt passes t tree log b)
    (h' : Evaluates leafAt' passes t' tree log' b') {rest rest' : List ρ}
    (hrows : Forall₂ R (log.map Prod.snd ++ rest) (log'.map Prod.snd ++ rest')) :
    Forall₂ (fun p p' => p.1 = p'.1 ∧ R p.2 p'.2) log log' ∧ b = b'
      ∧ Forall₂ R rest rest' := by
  induction h generalizing t' log' b' rest rest' with
  | leaf _ =>
    cases h' with
    | leaf _ =>
      obtain ⟨hrow, hrest⟩ := forall₂_cons.mp hrows
      exact ⟨.cons ⟨rfl, hrow⟩ .nil, hR _ _ hrow, hrest⟩
  | andNil =>
    cases h' with
    | andNil => exact ⟨.nil, rfl, hrows⟩
  | andStop _ ih =>
    cases h' with
    | andStop h₁ => exact ih h₁ hrows
    | andNext h₁ h₂ =>
      rw [map_append, append_assoc] at hrows
      exact absurd (ih h₁ hrows).2.1 Bool.false_ne_true
  | andNext _ _ ih ih' =>
    rw [map_append, append_assoc] at hrows
    cases h' with
    | andStop h₁ => exact absurd (ih h₁ hrows).2.1.symm Bool.false_ne_true
    | andNext h₁ h₂ =>
      rw [map_append, append_assoc] at hrows
      obtain ⟨hhead, -, htail⟩ := ih h₁ hrows
      obtain ⟨hlog, hvalue, hrest⟩ := ih' h₂ htail
      exact ⟨rel_append hhead hlog, hvalue, hrest⟩
  | orNil =>
    cases h' with
    | orNil => exact ⟨.nil, rfl, hrows⟩
  | orStop _ ih =>
    cases h' with
    | orStop h₁ => exact ih h₁ hrows
    | orNext h₁ h₂ =>
      rw [map_append, append_assoc] at hrows
      exact absurd (ih h₁ hrows).2.1.symm Bool.false_ne_true
  | orNext _ _ ih ih' =>
    rw [map_append, append_assoc] at hrows
    cases h' with
    | orStop h₁ => exact absurd (ih h₁ hrows).2.1 Bool.false_ne_true
    | orNext h₁ h₂ =>
      rw [map_append, append_assoc] at hrows
      obtain ⟨hhead, -, htail⟩ := ih h₁ hrows
      obtain ⟨hlog, hvalue, hrest⟩ := ih' h₂ htail
      exact ⟨rel_append hhead hlog, hvalue, hrest⟩
  | not _ ih =>
    cases h' with
    | not h₁ =>
      obtain ⟨hlog, hvalue, hrest⟩ := ih h₁ hrows
      exact ⟨hlog, congrArg Bool.not hvalue, hrest⟩

section

variable (leafAt : Nat → α → Except ε ρ) (passes : ρ → Bool)

mutual

/-- **Progress**: a tree has a value unless a reached leaf fails. -/
theorem evaluates_or_failsAt : ∀ (tree : Tree ν α) (t : Nat),
    (∃ log b, Evaluates leafAt passes t tree log b)
      ∨ ∃ log l e, FailsAt leafAt passes t tree log l e
  | .and id cs, t => evaluates_or_failsAt_and id cs t
  | .or id cs, t => evaluates_or_failsAt_or id cs t
  | .not id c, t => by
    rcases evaluates_or_failsAt c t with ⟨log, b, h⟩ | ⟨log, l, e, h, he⟩
    · exact .inl ⟨log, !b, .not h⟩
    · exact .inr ⟨log, l, e, .not h, he⟩
  | .leaf l, t => by
    cases hl : leafAt t l with
    | error e => exact .inr ⟨[], l, e, .leaf, hl⟩
    | ok r => exact .inl ⟨[(l, r)], passes r, .leaf hl⟩

theorem evaluates_or_failsAt_and (id : ν) : ∀ (cs : List (Tree ν α)) (t : Nat),
    (∃ log b, Evaluates leafAt passes t (.and id cs) log b)
      ∨ ∃ log l e, FailsAt leafAt passes t (.and id cs) log l e
  | [], _ => .inl ⟨[], true, .andNil⟩
  | c :: cs, t => by
    rcases evaluates_or_failsAt c t with ⟨log, b, h⟩ | ⟨log, l, e, h, he⟩
    · cases b with
      | false => exact .inl ⟨log, false, .andStop h⟩
      | true =>
        rcases evaluates_or_failsAt_and id cs (t + log.length) with
          ⟨log', b, h'⟩ | ⟨log', l, e, h', he⟩
        · exact .inl ⟨log ++ log', b, .andNext h h'⟩
        · refine .inr ⟨log ++ log', l, e, .andNext h h', ?_⟩
          rwa [length_append, ← Nat.add_assoc]
    · exact .inr ⟨log, l, e, .andHead h, he⟩

theorem evaluates_or_failsAt_or (id : ν) : ∀ (cs : List (Tree ν α)) (t : Nat),
    (∃ log b, Evaluates leafAt passes t (.or id cs) log b)
      ∨ ∃ log l e, FailsAt leafAt passes t (.or id cs) log l e
  | [], _ => .inl ⟨[], false, .orNil⟩
  | c :: cs, t => by
    rcases evaluates_or_failsAt c t with ⟨log, b, h⟩ | ⟨log, l, e, h, he⟩
    · cases b with
      | true => exact .inl ⟨log, true, .orStop h⟩
      | false =>
        rcases evaluates_or_failsAt_or id cs (t + log.length) with
          ⟨log', b, h'⟩ | ⟨log', l, e, h', he⟩
        · exact .inl ⟨log ++ log', b, .orNext h h'⟩
        · refine .inr ⟨log ++ log', l, e, .orNext h h', ?_⟩
          rwa [length_append, ← Nat.add_assoc]
    · exact .inr ⟨log, l, e, .orHead h, he⟩

end

end

end Tarka.Lib.ShortCircuit
