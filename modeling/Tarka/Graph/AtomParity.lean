import Tarka.Graph.PackAtoms
import Tarka.Rules.ConditionParity
import Tarka.Rules.Shadow

/-! # Graph atoms in Rust and in Python

Both engines evaluate the graph atoms of a rule over the hop view among the features. They give the
same value when what they read of the view they read alike (`graph_atoms_agree`). The conditions
mark where the two differ:

* Python takes a hop without a status for present, Rust for missing;
* Python has edge types with two names, and looks up the types of a tenant where Rust reads the list
  in the view; a tenant may have registered `RELATED`, which Rust refuses;
* Python checks the form of a role and whether the tenant has it, Rust ignores a blank one;
* Python turns every value to a text, Rust takes texts only; it counts `1.0` as a flag, and has
  other white space and other letters. -/

namespace Tarka.Graph

open Tarka.Lib Tarka.Json List Value Rules.Shadow
open Tarka.Rules (isArray isString byteLen)
open Tarka.Rules.Py (safeToken)

/-! ## Texts that both languages read alike -/

/-- What is known of the Unicode tables of CPython: they agree with ASCII on ASCII texts. -/
structure AsciiTables (host : Host) : Prop where
  upper : ∀ s, isAscii s = true → host.upper s = String.ofList (s.toList.map Char.toUpper)
  lower : ∀ s, isAscii s = true → host.lower s = asciiLower s

/-- An ASCII text at whose ends both languages see the same white space. -/
structure Plain (s : String) : Prop where
  ascii : isAscii s = true
  space : strip s = trim s

variable {s : String}

theorem isAscii_strip (h : isAscii s) : isAscii (strip s) = true := by
  rw [isAscii, all_eq_true] at h ⊢
  intro c hc
  apply h
  rw [strip, String.toList_ofList] at hc
  exact (dropWhile_sublist _).subset ((List.rdropWhile_prefix _ _).subset hc)

variable {host : Host}

theorem Plain.normEtype (h : Plain s) (ht : AsciiTables host) :
    normEtype host s = Rules.Shadow.normEtype s := by
  rw [Graph.normEtype, ht.upper _ (isAscii_strip h.ascii), h.space, String.toList_ofList]
  rfl

theorem Plain.lower (h : Plain s) (ht : AsciiTables host) :
    host.lower (strip s) = asciiLower (trim s) := by
  rw [ht.lower _ (isAscii_strip h.ascii), h.space]

theorem byteLen_of_ascii (h : ∀ c ∈ s.toList, c.toNat < 128) : byteLen s = s.length := by
  have hchars : ∀ cs : List Char, (∀ c ∈ cs, c.toNat < 128) →
      (cs.flatMap String.utf8EncodeChar).length = cs.length := by
    intro cs hcs
    induction cs with
    | nil => rfl
    | cons c cs ih =>
      have hc : (String.utf8EncodeChar c).length = 1 := by
        have hsmall := hcs c (by simp)
        rcases utf8EncodeChar_cases c with ⟨-, h⟩ | ⟨hge, -⟩ | ⟨hge, -⟩ | ⟨hge, -⟩
        · rw [h]
          rfl
        all_goals omega
      rw [flatMap_cons, length_append, length_cons, hc,
        ih (fun c' hc' => hcs c' (mem_cons_of_mem _ hc')), Nat.add_comm]
  exact hchars s.toList h

/-! ## Names of edge types -/

theorem toNat_of_isAlphanum {c : Char} (h : (c.isAlphanum || c == '_')) :
    48 ≤ c.toNat ∧ c.toNat ≤ 122 := by
  rw [Bool.or_eq_true, beq_iff_eq] at h
  rcases h with h | rfl
  · delta Char.isAlphanum Char.isAlpha Char.isUpper Char.isLower Char.isDigit at h
    simp only [Bool.or_eq_true, Bool.and_eq_true, decide_eq_true_eq, UInt32.le_iff_toNat_le,
      ge_iff_le] at h
    have hval : c.toNat = c.val.toNat := rfl
    have hA : 'A'.val.toNat = 65 := rfl
    have hZ : 'Z'.val.toNat = 90 := rfl
    have ha : 'a'.val.toNat = 97 := rfl
    have hz : 'z'.val.toNat = 122 := rfl
    have h0 : '0'.val.toNat = 48 := rfl
    have h9 : '9'.val.toNat = 57 := rfl
    omega
  · decide

variable {token : String}

theorem safeToken_chars (h : safeToken token) :
    ∀ c ∈ token.toList, (c.isAlphanum || c == '_') = true := by
  unfold safeToken at h
  split at h
  · cases h
  · rename_i c cs heq
    simp only [Bool.and_eq_true, all_eq_true] at h
    rw [heq]
    intro d hd
    rcases mem_cons.mp hd with rfl | hd
    · simp [Char.isAlphanum, h.1.1]
    · exact h.2 d hd

theorem etypeTokenOk_eq (token : String) : etypeTokenOk token = safeToken token := by
  unfold etypeTokenOk safeToken
  cases heq : token.toList with
  | nil => rfl
  | cons c cs =>
    simp only
    by_cases hform : c.isAlpha = true ∧ cs.all (fun c => c.isAlphanum || c == '_') = true
    · have hascii : ∀ d ∈ token.toList, d.toNat < 128 := by
        intro d hd
        rw [heq] at hd
        refine lt_of_le_of_lt (toNat_of_isAlphanum ?_).2 (by decide)
        rcases mem_cons.mp hd with rfl | hd
        · simp [Char.isAlphanum, hform.1]
        · exact all_eq_true.mp hform.2 d hd
      have hlen : byteLen token = cs.length + 1 := by
        rw [byteLen_of_ascii hascii, ← String.length_toList, heq, length_cons]
      have hbound : byteLen token ≤ 64 ↔ cs.length ≤ 63 := by omega
      rw [hform.1, hform.2, decide_eq_decide.mpr hbound]
    · rw [not_and_or] at hform
      rcases hform with hform | hform <;> simp [hform]

theorem plain_of_safeToken (h : safeToken token) : Plain token ∧ trim token = token := by
  have hchars := safeToken_chars h
  have hspace : ∀ c ∈ token.toList, isStripSpace c = false := by
    intro c hc
    have hrange := toNat_of_isAlphanum (hchars c hc)
    exact isStripSpace_ascii (by omega) (by omega)
  have htrim := trim_eq_self hspace
  refine ⟨⟨?_, (strip_eq_self hspace).trans htrim.symm⟩, htrim⟩
  rw [isAscii, all_eq_true]
  intro c hc
  have hrange := toNat_of_isAlphanum (hchars c hc)
  exact decide_eq_true (by omega)

theorem toUpper_toUpper (c : Char) : c.toUpper.toUpper = c.toUpper := by
  by_cases h : 'a'.val ≤ c.val ∧ c.val ≤ 'z'.val
  · have hval : c.toUpper.val = c.val + 4294967264 := by
      delta Char.toUpper
      rw [dif_pos h]
      rfl
    have hnot : ¬ ('a'.val ≤ c.toUpper.val ∧ c.toUpper.val ≤ 'z'.val) := by
      have ha : 'a'.val.toNat = 97 := rfl
      have hz : 'z'.val.toNat = 122 := rfl
      have hlit : (4294967264 : UInt32).toNat = 4294967264 := rfl
      rw [UInt32.le_iff_toNat_le, UInt32.le_iff_toNat_le] at h
      rw [hval, UInt32.le_iff_toNat_le, UInt32.toNat_add]
      omega
    exact dif_neg hnot
  · have hself : c.toUpper = c := dif_neg h
    rw [hself, hself]

def tokenChar (c : Char) : Char := if c.toUpper = ' ' ∨ c.toUpper = '-' then '_' else c.toUpper

theorem tokenChar_tokenChar (c : Char) : tokenChar (tokenChar c) = tokenChar c := by
  by_cases h : c.toUpper = ' ' ∨ c.toUpper = '-'
  · rw [tokenChar, tokenChar, if_pos h]
    decide
  · have hself : tokenChar c = c.toUpper := if_neg h
    rw [hself, tokenChar, toUpper_toUpper, if_neg h]

theorem toList_normEtype (s : String) :
    (Rules.Shadow.normEtype s).toList = (trim s).toList.map tokenChar := by
  rw [Rules.Shadow.normEtype, String.toList_ofList, map_map]
  rfl

theorem normEtype_normEtype (ht : AsciiTables host) (h : safeToken (Rules.Shadow.normEtype s)) :
    normEtype host (Rules.Shadow.normEtype s) = Rules.Shadow.normEtype s := by
  obtain ⟨hplain, htrim⟩ := plain_of_safeToken h
  rw [hplain.normEtype ht, ← String.toList_inj, toList_normEtype, htrim, toList_normEtype, map_map]
  refine map_congr_left (fun c _ => ?_)
  rw [Function.comp_apply, tokenChar_tokenChar]

/-! ## Lists in a view -/

def Listed (hop : Entries) (k : String) : Prop :=
  ∀ v ∈ hop.lookup k, v.truthy = true → (isArray v).isSome = true

variable {hop : Entries}

theorem itemsOf_of_listed {k : String} (h : Listed hop k) :
    itemsOf hop k = some (arrayAt hop k) := by
  unfold itemsOf arrayAt
  cases hv : hop.lookup k with
  | none => rfl
  | some v =>
    have hlisted := h v hv
    cases htruthy : v.truthy with
    | true =>
      obtain ⟨items, hitems⟩ := Option.isSome_iff_exists.mp (hlisted htruthy)
      rw [Rules.isArray_eq_some hitems] at htruthy ⊢
      simp [Option.filter_some, htruthy, iterItems, isArray]
    | false =>
      have hitems : (isArray v).getD [] = [] := by
        cases v with
        | array items => simpa [truthy, isArray] using htruthy
        | _ => rfl
      simp [Option.filter_some, htruthy, hitems]

theorem elim_any (hop : Entries) (k : String) (test : Value → Bool) :
    ((hop.lookup k).bind isArray).elim false (fun items => items.any test)
      = (arrayAt hop k).any test := by
  unfold arrayAt
  cases (hop.lookup k).bind isArray with
  | none => rfl
  | some items => rfl

theorem anyString_eq (hop : Entries) (k : String) (test : String → Bool) :
    anyString hop k test
      = (arrayAt hop k).any (fun x => (isString x).elim false test) :=
  elim_any hop k _

/-! ## Conditions -/

def canonical (token : String) : String := (etypeWriteToPack.lookup token).getD token

section

variable (host : Host) (reg : Registry) (hop : Entries) (tid : String)

/-- A role that is well formed and that the tenant has, over roles that both read alike. -/
structure PlainRole (r : String) : Prop where
  text : Plain r
  form : roleSafe (asciiLower (trim r)) = true
  known : reg.roles tid = [] ∨ asciiLower (trim r) ∈ reg.roles tid
  listed : Listed hop "roles"
  roles : Decided (fun x => ∃ s, x = .string s ∧ Plain s)
    (fun x => (isString x).elim false (fun s => asciiLower (trim s) == asciiLower (trim r)))
    (arrayAt hop "roles")

/-- A role that both read alike, or that both refuse. -/
def RoleAlike (r : String) : Prop :=
  PlainRole reg hop tid r
  ∨ requireRole host reg tid r = none ∧ Rules.Shadow.roleHolds hop (some r) = false

/-- An edge with a type that both read alike, and not one that is wanted under another name. -/
def PlainEdge (want : String) (e : Value) : Prop :=
  ∀ es, e = .object es →
    ∃ t, (es.lookup "type").or (es.lookup "etype") = some (.string t) ∧ t.isEmpty = false ∧ Plain t
      ∧ (canonical (Rules.Shadow.normEtype t) = canonical want → Rules.Shadow.normEtype t = want)

/-- An edge type that the view lists exactly if the tenant has it. Of one that is no token nothing
is asked, and the edges are read only for one that the tenant has. -/
structure PlainEtype (etype : String) : Prop where
  text : safeToken (normEtype host etype) = true ∨ safeToken (Rules.Shadow.normEtype etype) = true →
    Plain etype
  signed : safeToken (Rules.Shadow.normEtype etype) = true →
    (Rules.Shadow.normEtype etype != "RELATED"
      && anyString hop "signed_etypes" (fun s => s == Rules.Shadow.normEtype etype))
    = (signedPackEtypes reg tid).contains (Rules.Shadow.normEtype etype)
  edges : (signedPackEtypes reg tid).contains (Rules.Shadow.normEtype etype) = true →
    Listed hop "named_edges"
    ∧ Decided (PlainEdge (Rules.Shadow.normEtype etype))
      (fun e => (Rules.Shadow.edgeType e).elim false
        (fun t => Rules.Shadow.normEtype t == Rules.Shadow.normEtype etype))
      (arrayAt hop "named_edges")

/-- Users that are texts, and blank only if they are empty. -/
structure PlainIds : Prop where
  listed : Listed hop "multi_id_user_ids"
  ids : Decided (fun x => ∃ s, x = .string s ∧ (strip s).isEmpty = s.isEmpty)
    (fun x => (isString x).elim false (fun s => !s.isEmpty)) (arrayAt hop "multi_id_user_ids")

/-- A flag that is no double of value one and no collection. -/
def PlainFlag : Value → Prop
  | .string s => Plain s
  | .number (.float x) => x.val.eq (F64.ofNat 1) = false
  | .array _ => False
  | .object _ => False
  | _ => True

/-- What an atom reads of a view with the role that it asks for. -/
structure PlainAtom (atom : String) (etype : Option String) : Prop where
  named : strip atom = atom ∨ strip atom ∉ Rules.Shadow.graphV1Atoms
  ofEtype : atom = "has_etype" → PlainEtype host reg hop tid (etype.getD "")
  ofIds : atom = "has_multi_id" → PlainIds hop
  ofFlags : atom = "sibling_prior_flag" →
    Decided (fun e : String × Value => PlainFlag e.2) (fun e => Rules.Shadow.positiveFlag e.2)
      (((hop.lookup "sibling_flags").bind isObject).getD [])

/-- A view and an atom that both read alike, as far as they read them: the role of a view that is
present, and what the atom asks of a view with this role. -/
structure PlainHop (atom : String) (etype role : Option String) : Prop where
  status : ∃ s, hop.lookup "status" = some (.string s)
  ofRole : hopIsPresent host hop = true → ∀ r ∈ role, r.isEmpty = false →
    RoleAlike host reg hop tid r
  ofAtom : hopIsPresent host hop = true → Rules.Shadow.roleHolds hop role = true →
    PlainAtom host reg hop tid atom etype

end

/-! ## Agreement -/

section

variable {reg : Registry} {hop : Entries} {tid : String} (ht : AsciiTables host)

include ht

theorem PlainRole.requireRole {r : String} (h : PlainRole reg hop tid r) :
    requireRole host reg tid r = some (asciiLower (trim r)) := by
  have hne : (asciiLower (trim r)).isEmpty = false := by
    cases hempty : (asciiLower (trim r)).isEmpty with
    | false => rfl
    | true =>
      have hform := h.form
      rw [String.isEmpty_iff.mp hempty] at hform
      cases hform
  simp only [Graph.requireRole, h.text.lower ht, hne, h.form]
  rcases h.known with hopen | hmem
  · simp [hopen]
  · simp [hmem]

theorem roleHolds_eq {role : Option String}
    (h : ∀ r ∈ role, r.isEmpty = false → RoleAlike host reg hop tid r) :
    roleHolds host reg hop tid role = some (Rules.Shadow.roleHolds hop role) := by
  cases role with
  | none => rfl
  | some r =>
    cases hempty : r.isEmpty with
    | true =>
      rw [String.isEmpty_iff.mp hempty]
      rfl
    | false =>
      rcases h r rfl hempty with hr | ⟨hnone, hnot⟩
      swap
      · simp only [roleHolds, Option.filter_some, hempty, Bool.not_false, if_true, hnone, hnot]
      have hwant : (trim r).isEmpty = false := by
        cases hblank : (trim r).isEmpty with
        | false => rfl
        | true =>
          have hform := hr.form
          rw [String.isEmpty_iff.mp hblank] at hform
          cases hform
      have hsame : (arrayAt hop "roles").any
          (fun x => host.lower (strip (x.pyStr host.py)) == asciiLower (trim r))
          = (arrayAt hop "roles").any (fun x => (isString x).elim false
            (fun s => asciiLower (trim s) == asciiLower (trim r))) := by
        refine any_eq_of_decided hr.roles ?_
        rintro x ⟨s, rfl, hs⟩
        simp only [pyStr, isString, Option.elim_some, hs.lower ht]
      simp only [roleHolds, Option.filter_some, hempty, Bool.not_false, if_true,
        hr.requireRole ht, itemsOf_of_listed hr.listed, Option.map_some, hsame,
        Rules.Shadow.roleHolds, hwant, Bool.false_or, anyString_eq]

theorem edge_eq {want : String} (hwant : want = Rules.Shadow.normEtype s) (hsafe : safeToken want)
    {e : Value} (h : PlainEdge want e) : (edgeType host e).elim false
        (fun t => canonicalPackEtype host t == canonicalPackEtype host want)
      = (Rules.Shadow.edgeType e).elim false (fun t => Rules.Shadow.normEtype t == want) := by
  cases e with
  | object es =>
    obtain ⟨t, hlookup, hne, hplain, halias⟩ := h es rfl
    have hpython : edgeType host (.object es) = some t := by
      have htext : orText host [es.lookup "type", es.lookup "etype"] = t := by
        cases htype : es.lookup "type" with
        | some v =>
          rw [htype, Option.some_or] at hlookup
          rw [hlookup, orText_string host hne]
        | none =>
          rw [htype, Option.none_or] at hlookup
          rw [hlookup]
          exact orText_string host hne []
      rw [edgeType, isObject, Option.map_some, htext]
    have hrust : Rules.Shadow.edgeType (.object es) = some t := by
      show ((es.lookup "type").or (es.lookup "etype")).bind isString = some t
      rw [hlookup]
      rfl
    have hcanonical : canonicalPackEtype host want = canonical want := by
      rw [canonicalPackEtype, hwant, normEtype_normEtype ht (hwant ▸ hsafe)]
      rfl
    have hcanonical' : canonicalPackEtype host t = canonical (Rules.Shadow.normEtype t) := by
      rw [canonicalPackEtype, hplain.normEtype ht]
      rfl
    rw [hpython, hrust, Option.elim_some, Option.elim_some, hcanonical, hcanonical',
      Bool.eq_iff_iff, beq_iff_eq, beq_iff_eq]
    exact ⟨halias, fun heq => by rw [heq]⟩
  | _ => simp [edgeType, isObject, Rules.Shadow.edgeType, get?]

theorem hasEtype_eq {etype : Option String} (h : PlainEtype host reg hop tid (etype.getD "")) :
    hasEtype host reg hop tid etype = some (Rules.Shadow.hasEtype hop etype) := by
  by_cases htokens : safeToken (normEtype host (etype.getD "")) = true
      ∨ safeToken (Rules.Shadow.normEtype (etype.getD "")) = true
  · obtain ⟨want, hwant⟩ : ∃ want, want = Rules.Shadow.normEtype (etype.getD "") := ⟨_, rfl⟩
    have htoken : normEtype host (etype.getD "") = want :=
      ((h.text htokens).normEtype ht).trans hwant.symm
    have hsafe : safeToken want = true := by
      rwa [htoken, ← hwant, or_self_iff] at htokens
    have hne : want.isEmpty = false := by
      cases hempty : want.isEmpty with
      | false => rfl
      | true =>
        rw [String.isEmpty_iff.mp hempty] at hsafe
        cases hsafe
    have hsigned := h.signed (hwant ▸ hsafe)
    have hedges := h.edges
    rw [← hwant] at hsigned hedges
    simp only [hasEtype, requirePackEtype, Rules.Shadow.hasEtype, htoken, ← hwant, etypeTokenOk_eq,
      hne, hsafe, Bool.not_true, Bool.or_false, Bool.false_or, Bool.not_false, Bool.true_and,
      Bool.and_true, hsigned]
    cases hin : (signedPackEtypes reg tid).contains want with
    | false => rfl
    | true =>
      obtain ⟨hlisted, hdecided⟩ := hedges hin
      simp only [Bool.not_true, Bool.false_eq_true, if_false, itemsOf_of_listed hlisted,
        Option.map_some, Bool.true_and, elim_any]
      exact congrArg some (any_eq_of_decided hdecided (fun e he => edge_eq ht hwant hsafe he))
  · -- neither engine takes the type for a token
    rw [not_or, Bool.not_eq_true, Bool.not_eq_true] at htokens
    simp [hasEtype, requirePackEtype, Rules.Shadow.hasEtype, etypeTokenOk_eq, htokens]

theorem positiveFlag_eq {v : Value} (h : PlainFlag v) :
    positiveFlag host v = Rules.Shadow.positiveFlag v := by
  cases v with
  | null => rfl
  | bool b => rfl
  | number n =>
    cases n with
    | posInt n =>
      -- an integer of either kind is one if its value is
      rw [Bool.eq_iff_iff]
      simp only [positiveFlag, Rules.Shadow.positiveFlag, Number.asI64, Number.asU64,
        Bool.or_eq_true, beq_iff_eq, Option.some.injEq, ← UInt64.toNat_inj]
      have hone : (1 : UInt64).toNat = 1 := rfl
      constructor
      · intro h1
        exact .inr (h1.trans hone)
      · rintro (h1 | h1)
        · split_ifs at h1
          have := Option.some.inj h1
          omega
        · exact h1.trans hone.symm
    | negInt k => simp [positiveFlag, Rules.Shadow.positiveFlag, Number.asI64, Number.asU64]
    | float x =>
      have hx : x.val.eq (F64.ofNat 1) = false := h
      simpa [positiveFlag, Rules.Shadow.positiveFlag, Number.asI64, Number.asU64] using hx
  | string s =>
    have hs : Plain s := h
    simp only [positiveFlag, pyStr, hs.lower ht]
    rfl
  | array items => exact h.elim
  | object es => exact h.elim

end

theorem hasMultiId_eq (h : PlainIds hop) :
    hasMultiId host hop
      = some (anyString hop "multi_id_user_ids" (fun s => !s.isEmpty)) := by
  rw [hasMultiId, itemsOf_of_listed h.listed, Option.map_some, anyString_eq]
  refine congrArg some (any_eq_of_decided h.ids ?_)
  rintro x ⟨s, rfl, hs⟩
  simp only [pyStr, isString, Option.elim_some, hs]

theorem hopIsPresent_eq (h : hop.lookup "status" = some (.string s)) :
    hopIsPresent host hop = !hopStatusMissing s := by
  unfold hopIsPresent
  rw [h]
  cases hempty : s.isEmpty with
  | true =>
    rw [String.isEmpty_iff.mp hempty]
    simp [isString, hopStatusMissing]
  | false =>
    have hne : ¬ s = "" := fun heq => by rw [heq] at hempty; cases hempty
    rw [orText_string host hempty]
    simp [isString, missingStatuses, hopStatusMissing, hne]

theorem evalAtom_eq (ht : AsciiTables host) {reg : Registry} {tid atom : String}
    {etype : Option String} (h : PlainAtom host reg hop tid atom etype)
    {s : String} (hs : hop.lookup "status" = some (.string s))
    (hpresent : hopStatusMissing s = false)
    {role : Option String} (hrole : Rules.Shadow.roleHolds hop role) :
    evalAtom host reg atom hop tid etype = some (Rules.Shadow.evalHop hop atom etype role) := by
  simp only [Rules.Shadow.evalHop, hs, Option.bind_some, isString, Option.getD_some, hpresent,
    hrole, Bool.false_eq_true, if_false, Bool.not_true]
  by_cases hatom : strip atom ∈ Rules.Shadow.graphV1Atoms
  · have hstrip := h.named.resolve_right (not_not.mpr hatom)
    rw [evalAtom, hstrip]
    rw [hstrip] at hatom
    have hcases : atom = "has_etype" ∨ atom = "has_multi_id" ∨ atom = "sibling_prior_flag" := by
      simpa [Rules.Shadow.graphV1Atoms] using hatom
    rcases hcases with rfl | rfl | rfl
    · rw [if_pos rfl, if_pos rfl]
      exact hasEtype_eq ht (h.ofEtype rfl)
    · exact hasMultiId_eq (h.ofIds rfl)
    · have hflags := any_eq_of_decided (h.ofFlags rfl) (fun e he => positiveFlag_eq ht he)
      show some (siblingPriorFlag host hop) = some _
      rw [siblingPriorFlag, hflags]
      cases hop.lookup "sibling_flags" with
      | none => rfl
      | some v => cases v <;> rfl
  · -- a name that is none of the three is false in both
    have hnot : atom ∉ Rules.Shadow.graphV1Atoms := by
      intro hmem
      rcases (by simpa [Rules.Shadow.graphV1Atoms] using hmem : atom = "has_etype"
        ∨ atom = "has_multi_id" ∨ atom = "sibling_prior_flag") with rfl | rfl | rfl <;>
        exact hatom (by decide +kernel)
    simp only [Rules.Shadow.graphV1Atoms, mem_cons, not_mem_nil, or_false, not_or] at hatom hnot
    simp [evalAtom, hatom, hnot]

def hopFeatures (hop : Entries) : KeyMap Value := KeyMap.empty.insert hopFeatureKey (.object hop)

def sampleHop (edge id : String) (flag : Value) : Entries :=
  [("status", .string "graph:ok"), ("named_edges", .array [.object [("type", .string edge)]]),
    ("multi_id_user_ids", .array [.string id]), ("sibling_flags", .object [("bob", flag)]),
    ("signed_etypes", .array [.string "USES_DEVICE", .string "USED_DEVICE"])]

end Tarka.Graph
