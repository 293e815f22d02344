import Mathlib.Data.List.Basic
import Mathlib.Data.List.Forall2

/-! # Loops that skip and abort

A loop over a list in which an element can be skipped, can add a result or can abort the whole
run. What an element does to the others is read off its own step: a skipped element can be left
out, an aborting one takes every result with it. -/

namespace Tarka.Lib

open List

variable {α β ε σ : Type} {b : β}

theorem elim_eq_ok {o : Option α} {e : ε} {f : α → Except ε β} :
    o.elim (.error e) f = .ok b ↔ ∃ a, o = some a ∧ f a = .ok b := by
  cases o <;> simp

theorem mapError_eq_ok {ε' : Type} {f : ε → ε'} {x : Except ε β} :
    x.mapError f = .ok b ↔ x = .ok b := by
  cases x <;> simp [Except.mapError]

/-- **Inversion of a successful sequence** of steps that only may fail. -/
theorem except_bind_eq_ok {x : Except ε α} {f : α → Except ε β} :
    (x >>= f) = .ok b ↔ ∃ a, x = .ok a ∧ f a = .ok b := by
  cases x <;> simp [bind, Except.bind]

theorem eq_ok_none {x : Except ε (Option α)} {fails : Bool} (hfails : (∃ e, x = .error e) ↔ fails)
    (hsome : ∀ a, x ≠ .ok (some a)) (h : fails = false) : x = .ok none := by
  cases x with
  | error e =>
    rw [hfails.mp ⟨e, rfl⟩] at h
    cases h
  | ok o =>
    cases o with
    | none => rfl
    | some a => exact absurd rfl (hsome a)

/-- A search over elements that are plain, or that finds a plain one. -/
def Decided (plain : α → Prop) (test : α → Bool) (as : List α) : Prop :=
  (∃ a ∈ as, plain a ∧ test a = true) ∨ ∀ a ∈ as, plain a

theorem any_eq_of_decided {plain : α → Prop} {test test' : α → Bool} {as : List α}
    (h : Decided plain test as) (hplain : ∀ a, plain a → test' a = test a) :
    as.any test' = as.any test := by
  rcases h with ⟨a, ha, hp, htest⟩ | hall
  · rw [any_eq_true.mpr ⟨a, ha, htest⟩, any_eq_true.mpr ⟨a, ha, (hplain a hp).trans htest⟩]
  · rw [Bool.eq_iff_iff, any_eq_true, any_eq_true]
    exact exists_congr fun a => and_congr_right fun ha => by rw [hplain a (hall a ha)]

/-- The results of a loop: `none` skips an element, an error ends the run. -/
def collect (f : α → Except ε (Option β)) : List α → Except ε (List β)
  | [] => .ok []
  | a :: as =>
    match f a with
    | .error e => .error e
    | .ok none => collect f as
    | .ok (some b) =>
      match collect f as with
      | .error e => .error e
      | .ok bs => .ok (b :: bs)

theorem collect_map {γ : Type} (f : α → Except ε (Option β)) (g : γ → α) (cs : List γ) :
    collect f (cs.map g) = collect (fun c => f (g c)) cs := by
  induction cs with
  | nil => rfl
  | cons c cs ih => rw [map_cons, collect, collect, ih]

variable {f : α → Except ε (Option β)} {as : List α}

theorem collect_append (f : α → Except ε (Option β)) (xs ys : List α) :
    collect f (xs ++ ys) = (collect f xs).bind (fun bs => (collect f ys).map (bs ++ ·)) := by
  induction xs with
  | nil =>
    show collect f ys = (collect f ys).map _
    cases collect f ys <;> rfl
  | cons x xs ih =>
    rw [cons_append, collect, collect, ih]
    cases f x with
    | error e => rfl
    | ok b =>
      cases b with
      | none => rfl
      | some b =>
        cases collect f xs with
        | error e => rfl
        | ok bs => cases collect f ys <;> rfl

variable {out : List β}

theorem collect_append_eq_ok {xs ys : List α} : collect f (xs ++ ys) = .ok out
      ↔ ∃ bs cs, collect f xs = .ok bs ∧ collect f ys = .ok cs ∧ out = bs ++ cs := by
  rw [collect_append]
  cases collect f xs with
  | error e => simp [Except.bind]
  | ok bs => cases collect f ys <;> simp [Except.bind, Except.map, eq_comm]

theorem collect_eq_filterMap {g : α → Option β} (h : ∀ a ∈ as, f a = .ok (g a)) :
    collect f as = .ok (as.filterMap g) := by
  induction as with
  | nil => rfl
  | cons a as ih =>
    have htail := ih (fun b hb => h b (mem_cons_of_mem _ hb))
    rw [collect, h a (by simp), htail]
    cases hg : g a with
    | none => rw [filterMap_cons_none hg]
    | some b => rw [filterMap_cons_some hg]

variable {a : α}

theorem collect_insert_skip (h : f a = .ok none) (pre post : List α) :
    collect f (pre ++ a :: post) = collect f (pre ++ post) := by
  have hskip : collect f (a :: post) = collect f post := by rw [collect, h]
  rw [collect_append, collect_append, hskip]

variable {bs : List β}

theorem collect_congr_at {a' : α} (h : f a = f a') (pre post : List α) :
    collect f (pre ++ a :: post) = collect f (pre ++ a' :: post) := by
  have hhead : collect f (a :: post) = collect f (a' :: post) := by rw [collect, collect, h]
  rw [collect_append, collect_append, hhead]

/-- An element with a result adds it at its place, unless the loop aborts with it and without. -/
theorem collect_insert_some (h : f a = .ok (some b)) (pre post : List α) :
    collect f (pre ++ a :: post) = collect f (pre ++ post)
      ∨ ∃ bs cs, collect f (pre ++ post) = .ok (bs ++ cs)
        ∧ collect f (pre ++ a :: post) = .ok (bs ++ b :: cs) := by
  rw [collect_append, collect_append, collect, h]
  cases collect f pre with
  | error e => exact .inl rfl
  | ok bs =>
    cases collect f post with
    | error e => exact .inl rfl
    | ok cs => exact .inr ⟨bs, cs, rfl, rfl⟩

/-- Two elements with results have them at the same place, unless the loop aborts with both. -/
theorem collect_some_at {a' : α} {b' : β} (h : f a = .ok (some b)) (h' : f a' = .ok (some b'))
    (pre post : List α) :
    collect f (pre ++ a' :: post) = collect f (pre ++ a :: post)
      ∨ ∃ bs cs, collect f (pre ++ a :: post) = .ok (bs ++ b :: cs)
        ∧ collect f (pre ++ a' :: post) = .ok (bs ++ b' :: cs) := by
  rw [collect_append, collect_append, collect, collect, h, h']
  cases collect f pre with
  | error e => exact .inl rfl
  | ok bs =>
    cases collect f post with
    | error e => exact .inl rfl
    | ok cs => exact .inr ⟨bs, cs, rfl, rfl⟩

theorem collect_cons_eq_ok (h : f a = .ok (some b)) {post : List α} :
    collect f (a :: post) = .ok out ↔ ∃ cs, collect f post = .ok cs ∧ out = b :: cs := by
  rw [collect, h]
  cases collect f post <;> simp [eq_comm]

/-- A loop with an accumulator whose steps do not read their position. -/
theorem foldlM_zipIdx {step : σ → α × Nat → Except ε σ} {step' : σ → α → Except ε σ}
    (h : ∀ s a i, step s (a, i) = step' s a) (as : List α) (i : Nat) (s : σ) :
    (as.zipIdx i).foldlM step s = as.foldlM step' s := by
  induction as generalizing i s with
  | nil => rfl
  | cons a as ih =>
    rw [zipIdx_cons, foldlM_cons, h]
    exact congrArg (fun k => step' s a >>= k) (funext fun s' => ih (i + 1) s')

theorem foldlM_filterMap_elim {f : α → Option β} {step : σ → β → Except ε σ} (as : List α) (s : σ) :
    (as.filterMap f).foldlM step s = as.foldlM (fun s a => (f a).elim (.ok s) (step s)) s := by
  induction as generalizing s with
  | nil => rfl
  | cons a as ih =>
    rw [foldlM_cons]
    cases hf : f a with
    | none =>
      rw [filterMap_cons_none hf]
      exact ih s
    | some b =>
      rw [filterMap_cons_some hf]
      exact congrArg (fun k => step s b >>= k) (funext fun s' => ih s')

variable {step : σ → α → Except ε σ}

theorem foldlM_congr_at {a' : α} (h : ∀ s, step s a = step s a') (pre post : List α) (s : σ) :
    (pre ++ a :: post).foldlM step s = (pre ++ a' :: post).foldlM step s := by
  rw [foldlM_append, foldlM_append]
  refine congrArg (fun k => pre.foldlM step s >>= k) (funext fun s' => ?_)
  rw [foldlM_cons, foldlM_cons, h]

theorem foldlM_insert_skip (h : ∀ s, step s a = .ok s) (pre post : List α) (s : σ) :
    (pre ++ a :: post).foldlM step s = (pre ++ post).foldlM step s := by
  rw [foldlM_append, foldlM_append]
  refine congrArg (fun k => pre.foldlM step s >>= k) (funext fun s' => ?_)
  rw [foldlM_cons, h]
  rfl

variable {s : σ}

/-- The computation aborts. -/
def Fails (x : Except ε α) : Prop := ∀ a, x ≠ .ok a

section

variable {γ : Type} {x : Except ε α} {pre post : List α}

theorem Fails.bind (h : Fails x) (f : α → Except ε γ) : Fails (x >>= f) := by
  intro c hc
  obtain ⟨a, ha, -⟩ := except_bind_eq_ok.mp hc
  exact h a ha

theorem Fails.map (h : Fails x) (f : α → γ) : Fails (x.map f) := by
  intro c hc
  cases x with
  | error e => cases hc
  | ok a => exact h a rfl

theorem Fails.after {f : α → Except ε γ} (h : ∀ a, Fails (f a)) : Fails (x >>= f) := by
  intro c hc
  obtain ⟨a, -, ha⟩ := except_bind_eq_ok.mp hc
  exact h a c ha

theorem fails_collect_at (h : Fails (f a)) : Fails (collect f (pre ++ a :: post)) := by
  intro out hout
  obtain ⟨-, cs, -, hcs, -⟩ := collect_append_eq_ok.mp hout
  cases ha : f a with
  | error e =>
    rw [collect, ha] at hcs
    cases hcs
  | ok b => exact h b ha

theorem fails_foldlM_at (h : ∀ s, Fails (step s a)) :
    Fails ((pre ++ a :: post).foldlM step s) := by
  rw [foldlM_append]
  refine Fails.after fun s' => ?_
  rw [foldlM_cons]
  exact (h s').bind _

end

/-- **Two loops in lock step**: a relation between the accumulators that every step keeps, while
neither loop aborts, holds at the end. -/
theorem foldlM_lockstep {σ' ε' : Type} {R : σ → σ' → Prop} {step' : σ' → α → Except ε' σ'}
    (h : ∀ a ∈ as, ∀ s s', R s s' → ∃ t t', step s a = .ok t ∧ step' s' a = .ok t' ∧ R t t')
    {s' : σ'} (hs : R s s') :
    ∃ t t', as.foldlM step s = .ok t ∧ as.foldlM step' s' = .ok t' ∧ R t t' := by
  induction as generalizing s s' with
  | nil => exact ⟨s, s', rfl, rfl, hs⟩
  | cons a as ih =>
    obtain ⟨t, t', hstep, hstep', ht⟩ := h a (by simp) s s' hs
    obtain ⟨u, u', hu, hu', hR⟩ := ih (fun b hb => h b (mem_cons_of_mem _ hb)) ht
    refine ⟨u, u', ?_, ?_, hR⟩
    · rw [foldlM_cons, hstep]
      exact hu
    · rw [foldlM_cons, hstep']
      exact hu'

theorem forM_eq_ok {f : α → Except ε Unit} : as.forM f = .ok () ↔ ∀ a ∈ as, f a = .ok () := by
  induction as with
  | nil => exact ⟨fun _ => by simp, fun _ => rfl⟩
  | cons a as ih =>
    show (f a >>= fun _ => as.forM f) = .ok () ↔ _
    rw [except_bind_eq_ok, forall_mem_cons, ← ih]
    constructor
    · rintro ⟨⟨⟩, ha, has⟩
      exact ⟨ha, has⟩
    · rintro ⟨ha, has⟩
      exact ⟨⟨⟩, ha, has⟩

theorem mapM_eq_ok {f : α → Except ε β} :
    as.mapM f = .ok bs ↔ Forall₂ (fun a b => f a = .ok b) as bs := by
  induction as generalizing bs with
  | nil =>
    rw [forall₂_nil_left_iff]
    exact ⟨fun h => (Except.ok.inj h).symm, fun h => by rw [h]; rfl⟩
  | cons a as ih =>
    rw [mapM_cons, except_bind_eq_ok, forall₂_cons_left_iff]
    constructor
    · rintro ⟨b, ha, h⟩
      obtain ⟨cs, has, hbs⟩ := except_bind_eq_ok.mp h
      exact ⟨b, cs, ha, ih.mp has, (Except.ok.inj hbs).symm⟩
    · rintro ⟨b, cs, ha, has, rfl⟩
      exact ⟨b, ha, except_bind_eq_ok.mpr ⟨cs, ih.mpr has, rfl⟩⟩

theorem map_eq_of_forall₂ {γ : Type} {f : α → γ} {g : β → γ}
    (h : Forall₂ (fun a b => g b = f a) as bs) : bs.map g = as.map f := by
  induction h with
  | nil => rfl
  | cons hab _ ih => rw [map_cons, map_cons, hab, ih]

theorem exists_of_mem_forall₂ {R : α → β → Prop} (h : Forall₂ R as bs) (hb : b ∈ bs) :
    ∃ a ∈ as, R a b := by
  induction h with
  | nil => simp at hb
  | cons hab _ ih =>
    rcases mem_cons.mp hb with rfl | hb
    · exact ⟨_, by simp, hab⟩
    · obtain ⟨a, ha, hr⟩ := ih hb
      exact ⟨a, mem_cons_of_mem _ ha, hr⟩

end Tarka.Lib
