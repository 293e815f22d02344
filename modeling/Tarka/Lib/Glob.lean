import Tarka.Lib.Text

/-! # Wildcard patterns

A pattern with `*` for any characters of a line and `?` for one of them, matched without regard
to the case of ASCII letters. Both engines turn such a pattern into a regular expression by
escaping it and putting the wildcards back. -/

namespace Tarka.Lib

open List Char

/-- Some suffix that a run of characters of one line leaves satisfies `k`. -/
def starMatch (k : List Char → Bool) : List Char → Bool
  | [] => k []
  | c :: s => k (c :: s) || (c != '\n' && starMatch k s)

def globMatch : List Char → List Char → Bool
  | [], s => s.isEmpty
  | '*' :: p, s => starMatch (globMatch p) s
  | _ :: _, [] => false
  | '?' :: p, c :: s => c != '\n' && globMatch p s
  | l :: p, c :: s => l.toLower == c.toLower && globMatch p s

def isAscii (s : String) : Bool := s.toList.all (fun c => decide (c.toNat < 128))

def replaceTwo (a b : Char) (by_ : List Char) : List Char → List Char
  | x :: y :: s =>
    if x = a ∧ y = b then by_ ++ replaceTwo a b by_ s else x :: replaceTwo a b by_ (y :: s)
  | s => s

def escapeSpecial (special : List Char) (s : List Char) : List Char :=
  s.flatMap (fun c => if special.contains c then [Char.ofNat 92, c] else [c])

/-- Escape a pattern and put its wildcards back: `*` as `.*` and `?` as `.`. -/
def globToRegex (special : List Char) (pattern : String) : List Char :=
  replaceTwo (Char.ofNat 92) '?' ['.']
    (replaceTwo (Char.ofNat 92) '*' ['.', '*'] (escapeSpecial special pattern.toList))

def globUnit (special : List Char) (c : Char) : List Char :=
  if c = '*' then ['.', '*']
  else if c = '?' then ['.']
  else if special.contains c then [Char.ofNat 92, c]
  else [c]

def regexToGlob : List Char → List Char
  | [] => []
  | [c] => [if c = '.' then '?' else c]
  | c :: d :: r =>
    if c = '.' ∧ d = '*' then '*' :: regexToGlob r
    else if c = '.' then '?' :: regexToGlob (d :: r)
    else if c = Char.ofNat 92 then d :: regexToGlob r
    else c :: regexToGlob (d :: r)

/-! ## Building the expression character by character -/

variable {a b : Char} {by_ r : List Char}

theorem replaceTwo_cons {x : Char} (h : x ≠ a ∨ r.head? ≠ some b) :
    replaceTwo a b by_ (x :: r) = x :: replaceTwo a b by_ r := by
  cases r with
  | nil => rfl
  | cons y r =>
    have hno : ¬ (x = a ∧ y = b) := by
      rintro ⟨rfl, rfl⟩
      simp at h
    rw [replaceTwo, if_neg hno]

theorem replaceTwo_escaped {c : Char} (hc : c ≠ b) (hr : r.head? ≠ some b) :
    replaceTwo a b by_ (a :: c :: r) = a :: c :: replaceTwo a b by_ r := by
  rw [replaceTwo_cons (.inr (by simpa using hc)), replaceTwo_cons (.inr hr)]

/-- A replacement that acts unit by unit, as no unit starts with its second character. -/
theorem replaceTwo_flatMap {u v : Char → List Char} (hhead : ∀ c, ∃ x l, u c = x :: l ∧ x ≠ b)
    (hstep : ∀ c r, r.head? ≠ some b →
      replaceTwo a b by_ (u c ++ r) = v c ++ replaceTwo a b by_ r) :
    ∀ s : List Char, replaceTwo a b by_ (s.flatMap u) = s.flatMap v := by
  have hrest : ∀ s : List Char, (s.flatMap u).head? ≠ some b := by
    intro s
    cases s with
    | nil => simp
    | cons c s =>
      obtain ⟨x, l, hu, hx⟩ := hhead c
      simpa [hu] using hx
  intro s
  induction s with
  | nil => rfl
  | cons c s ih =>
    rw [flatMap_cons, flatMap_cons, hstep c _ (hrest s), ih]

section

variable {special : List Char}

def starUnit (special : List Char) (c : Char) : List Char :=
  if c = '*' then ['.', '*'] else if special.contains c then [Char.ofNat 92, c] else [c]

section

variable (hback : ofNat 92 ∈ special)

include hback

theorem replace_star (hstar : '*' ∈ special) (s : List Char) :
    replaceTwo (ofNat 92) '*' ['.', '*'] (escapeSpecial special s)
      = s.flatMap (starUnit special) := by
  refine replaceTwo_flatMap (fun c => ?_) (fun c r hr => ?_) s
  · by_cases hc : special.contains c = true
    · exact ⟨ofNat 92, [c], by rw [if_pos hc], by decide⟩
    · refine ⟨c, [], by rw [if_neg hc], ?_⟩
      rintro rfl
      exact hc (by simpa using hstar)
  · by_cases hc : special.contains c = true
    · rw [if_pos hc]
      by_cases hcs : c = '*'
      · subst hcs
        simp [replaceTwo, starUnit]
      · rw [starUnit, if_neg hcs, if_pos hc]
        exact replaceTwo_escaped hcs hr
    · have hcb : c ≠ ofNat 92 := by
        rintro rfl
        exact hc (by simpa using hback)
      have hcs : c ≠ '*' := by
        rintro rfl
        exact hc (by simpa using hstar)
      rw [starUnit, if_neg hcs, if_neg hc]
      exact replaceTwo_cons (.inl hcb)

theorem replace_question (hq : '?' ∈ special) (s : List Char) :
    replaceTwo (ofNat 92) '?' ['.'] (s.flatMap (starUnit special))
      = s.flatMap (globUnit special) := by
  refine replaceTwo_flatMap (fun c => ?_) (fun c r hr => ?_) s
  · unfold starUnit
    split_ifs with hcs hc
    · exact ⟨_, _, rfl, by decide⟩
    · exact ⟨_, _, rfl, by decide⟩
    · refine ⟨c, [], rfl, ?_⟩
      rintro rfl
      exact hc (by simpa using hq)
  · unfold starUnit globUnit
    by_cases hcs : c = '*'
    · subst hcs
      rw [if_pos rfl, cons_append, cons_append, replaceTwo_cons (.inl (by decide)),
        replaceTwo_cons (Or.inl (by decide))]
      rfl
    · rw [if_neg hcs, if_neg hcs]
      by_cases hc : special.contains c = true
      · rw [if_pos hc]
        by_cases hcq : c = '?'
        · subst hcq
          simp [replaceTwo]
        · rw [if_neg hcq]
          exact replaceTwo_escaped hcq hr
      · have hcb : c ≠ ofNat 92 := by
          rintro rfl
          exact hc (by simpa using hback)
        have hcq : c ≠ '?' := by
          rintro rfl
          exact hc (by simpa using hq)
        rw [if_neg hc, if_neg hcq]
        exact replaceTwo_cons (.inl hcb)

/-- **Escaping a pattern and putting its wildcards back** treats its characters one by one. -/
theorem globToRegex_eq (hstar : '*' ∈ special)
    (hq : '?' ∈ special) (pattern : String) :
    globToRegex special pattern = pattern.toList.flatMap (globUnit special) := by
  rw [globToRegex, replace_star hback hstar, replace_question hback hq]

end

theorem head_globUnit (s : List Char) : (s.flatMap (globUnit special)).head? ≠ some '*' := by
  cases s with
  | nil => simp
  | cons c s =>
    rw [flatMap_cons, globUnit]
    split_ifs with hcs hcq hc
    · simp
    · simp
    · simp
    · simpa using hcs

theorem regexToGlob_dot (h : r.head? ≠ some '*') :
    regexToGlob ('.' :: r) = '?' :: regexToGlob r := by
  cases r with
  | nil => rfl
  | cons d r =>
    have hd : ¬ ('.' = '.' ∧ d = '*') := by
      rintro ⟨-, rfl⟩
      simp at h
    rw [regexToGlob, if_neg hd, if_pos rfl]

theorem regexToGlob_literal {c : Char} (hdot : c ≠ '.') (hback : c ≠ ofNat 92) :
    regexToGlob (c :: r) = c :: regexToGlob r := by
  cases r with
  | nil => simp [regexToGlob, hdot]
  | cons d r => rw [regexToGlob, if_neg (fun h => hdot h.1), if_neg hdot, if_neg hback]

/-- **Reading the pattern back** from its expression. -/
theorem regexToGlob_flatMap (hback : ofNat 92 ∈ special) (hdot : '.' ∈ special)
    (s : List Char) : regexToGlob (s.flatMap (globUnit special)) = s := by
  induction s with
  | nil => rfl
  | cons c s ih =>
    rw [flatMap_cons, globUnit]
    split_ifs with hcs hcq hc
    · show '*' :: regexToGlob (s.flatMap (globUnit special)) = c :: s
      rw [ih, hcs]
    · rw [cons_append, nil_append, regexToGlob_dot (head_globUnit s), ih, hcq]
    · show c :: regexToGlob (s.flatMap (globUnit special)) = c :: s
      rw [ih]
    · have hcd : c ≠ '.' := by
        rintro rfl
        exact hc (by simpa using hdot)
      have hcb : c ≠ ofNat 92 := by
        rintro rfl
        exact hc (by simpa using hback)
      rw [cons_append, nil_append, regexToGlob_literal hcd hcb, ih]

end

end Tarka.Lib
