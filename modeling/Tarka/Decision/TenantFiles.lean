import Tarka.Lib.Hex

/-! # Files of the tenants

The decision service keeps some data of a tenant in files of its own: labels of dispositions
(`y_label_store.py`), the provision for promoting shadow packs (`shadow_auto_promote.py`),
suggestions of the effectiveness tick (`effectiveness_tick.py`) and the configuration of the
challenger arena (`challenger_arena.py`, `observe_drafts.py`). The name of a file is made of a slug
of the tenant id, in which characters are replaced, dropped or cut off.

`files_separate_iff` says which two tenants have no file in common. -/

namespace Tarka.Decision.TenantFiles

open Tarka.Lib List String

/-- `str.isalnum` of one character, and `hashlib.sha256`. -/
structure Host where
  isAlnum : Char → Bool
  sha256 : Bytes → Digest

def isAsciiAlnum (c : Char) : Bool := c.isAlpha || c.isDigit

def Host.Lawful (host : Host) : Prop := ∀ c, isAsciiAlnum c = true → host.isAlnum c = true

section

variable (host : Host)

/-! ## Slugs -/

/-- The characters of `_SAFE_TENANT`. -/
def isSafeChar (c : Char) : Bool := isAsciiAlnum c || c == '.' || c == '_' || c == '-'

/-- `_SAFE_TENANT.fullmatch`. -/
def safeTenant (raw : List Char) : Bool :=
  decide (1 ≤ raw.length ∧ raw.length ≤ 120) && raw.all isSafeChar

def keeps (c : Char) : Bool := host.isAlnum c || c == '.' || c == '_' || c == '-'

/-- The character that stands for `c` in a slug. -/
def slugChar (c : Char) : Char := if keeps host c then c else '_'

/-- `safe in {".", ".."}`. -/
def isDots (cs : List Char) : Bool := cs == ['.'] || cs == ['.', '.']

def tenantSlug (tenantId : String) : List Char :=
  let raw := stripChars tenantId.toList
  if safeTenant raw && !isDots raw then raw
  else
    let safe := (raw.map (slugChar host)).take 120
    if safe.isEmpty || isDots safe then "default".toList else safe

/-! ## Stores in the calibration directory -/

/-- The stores whose files are named by a digest. -/
inductive Store where
  | yLabels
  | shadowAutoPromote
  | effectivenessSuggestions
  deriving DecidableEq

def Store.name : Store → String
  | yLabels => "y_labels"
  | shadowAutoPromote => "shadow_auto_promote"
  | effectivenessSuggestions => "effectiveness_suggestions"

def tokenText (store : Store) (tenantId : String) : String :=
  "tarka." ++ store.name ++ ":" ++ String.ofList (tenantSlug host tenantId)

def fileToken (store : Store) (tenantId : String) : String :=
  hexText (host.sha256 (utf8 (tokenText host store tenantId))).val

/-- `_path`: the directory, the name of the store and the digest. -/
def path (dataDir : String) (store : Store) (tenantId : String) : String :=
  dataDir ++ "/" ++ store.name ++ "_" ++ fileToken host store tenantId ++ ".json"

/-! ## The arena -/

/-- What the arena keeps of a tenant id, and its file if anything is left. -/
def arenaFile (keep : Char → Bool) (tenantId : String) : Option String :=
  let safe := (tenantId.toList.filter keep).take 64
  if safe.isEmpty then none else some (String.ofList safe ++ ".json")

/-- The file that `put_arena_config` writes. -/
def putFile (tenantId : String) : Option String :=
  arenaFile (fun c => isAsciiAlnum c || c == '_' || c == '-') tenantId

/-- The file that `load_arena_config` reads. -/
def loadFile (tenantId : String) : Option String :=
  arenaFile (fun c => host.isAlnum c || c == '-' || c == '_') tenantId

def arenaFiles (tenantId : String) : List String :=
  (putFile tenantId).toList ++ (loadFile host tenantId).toList

/-! ## Separation -/

/-- Two tenants have no file in common, in any store. -/
structure FilesSeparate (dataDir : String) (a b : String) : Prop where
  stores : ∀ store, path host dataDir store a ≠ path host dataDir store b
  arena : ∀ file ∈ arenaFiles host a, file ∉ arenaFiles host b

/-- Characters that a slug does not tell apart: all that are replaced, and the one that replaces
them. -/
def SameChar (c d : Char) : Prop :=
  c = d ∨ (keeps host c = false ∨ c = '_') ∧ (keeps host d = false ∨ d = '_')

def nameless : List (List Char) := [[], ['.'], ['.', '.'], "default".toList]

def Nameless (tenantId : String) : Prop := stripChars tenantId.toList ∈ nameless

def slugPart (tenantId : String) : List Char := (stripChars tenantId.toList).take 120

def SameSlug (a b : String) : Prop :=
  List.Forall₂ (SameChar host) (slugPart a) (slugPart b) ∨ Nameless a ∧ Nameless b

def arenaPart (keep : Char → Bool) (tenantId : String) : List Char :=
  (tenantId.toList.filter keep).take 64

def arenaParts (tenantId : String) : List (List Char) :=
  [arenaPart (fun c => isAsciiAlnum c || c == '_' || c == '-') tenantId,
    arenaPart (fun c => host.isAlnum c || c == '-' || c == '_') tenantId]

/-- Tenant ids of which one of the endpoints leaves the same. -/
def SharesArena (a b : String) : Prop :=
  ∃ part, part ≠ [] ∧ part ∈ arenaParts host a ∧ part ∈ arenaParts host b

/-- The digests of the tokens of two tenants do not collide. -/
def NoCollision (a b : String) : Prop :=
  ∀ store, host.sha256 (utf8 (tokenText host store a))
    = host.sha256 (utf8 (tokenText host store b)) →
    tokenText host store a = tokenText host store b

end

variable {c : Char}

section

variable {host : Host}

/-! ## Slugs -/

theorem slugChar_of_keeps (h : keeps host c) : slugChar host c = c := if_pos h

theorem slugChar_eq_underscore : slugChar host c = '_' ↔ keeps host c = false ∨ c = '_' := by
  unfold slugChar
  split_ifs with h
  · simp [h]
  · simp [h]

theorem slugChar_eq_other {d : Char} (hd : d ≠ '_') (h : slugChar host c = d) : c = d := by
  unfold slugChar at h
  split_ifs at h
  · exact h
  · exact absurd h.symm hd

theorem slugChar_eq_iff {d : Char} : slugChar host c = slugChar host d ↔ SameChar host c d := by
  constructor
  · intro h
    by_cases hd : slugChar host d = '_'
    · exact .inr ⟨slugChar_eq_underscore.mp (h.trans hd), slugChar_eq_underscore.mp hd⟩
    · have hkept : slugChar host d = d := by
        by_contra hne
        exact hd (if_neg fun hkeeps => hne (slugChar_of_keeps hkeeps))
      rw [hkept] at h hd
      exact .inl (slugChar_eq_other hd h)
  · rintro (rfl | ⟨hc, hd⟩)
    · rfl
    · rw [slugChar_eq_underscore.mpr hc, slugChar_eq_underscore.mpr hd]

variable {cs ds : List Char}

theorem map_slugChar_eq_iff :
    cs.map (slugChar host) = ds.map (slugChar host) ↔ Forall₂ (SameChar host) cs ds := by
  have heq : cs.map (slugChar host) = ds.map (slugChar host)
      ↔ Forall₂ Eq (cs.map (slugChar host)) (ds.map (slugChar host)) := by
    rw [forall₂_eq_eq_eq]
  rw [heq, forall₂_map_left_iff, forall₂_map_right_iff]
  simp [slugChar_eq_iff]

theorem map_slugChar_eq_other (hds : ∀ d ∈ ds, d ≠ '_')
    (hkept : ∀ d ∈ ds, keeps host d) : cs.map (slugChar host) = ds ↔ cs = ds := by
  constructor
  · intro h
    induction cs generalizing ds with
    | nil => exact h
    | cons c cs ih =>
      cases ds with
      | nil => cases h
      | cons d ds =>
        rw [map_cons, cons.injEq] at h
        obtain ⟨hd, hds'⟩ := forall_mem_cons.mp hds
        rw [slugChar_eq_other hd h.1, ih hds' (forall_mem_cons.mp hkept).2 h.2]
  · rintro rfl
    exact (map_congr_left fun c hc => slugChar_of_keeps (hkept c hc)).trans (map_id cs)

/-- The last step of `_tenant_slug`. -/
def orDefault (safe : List Char) : List Char :=
  if safe.isEmpty || isDots safe then "default".toList else safe

variable {safe : List Char}

theorem orDefault_of_mem (h : safe ∈ nameless) : orDefault safe = "default".toList := by
  simp only [nameless, mem_cons, not_mem_nil, or_false] at h
  rcases h with rfl | rfl | rfl | rfl <;> rfl

theorem orDefault_of_not_mem (h : safe ∉ nameless) : orDefault safe = safe := by
  simp only [nameless, mem_cons, not_mem_nil, or_false, not_or] at h
  obtain ⟨hempty, hdot, hdots, -⟩ := h
  rw [orDefault]
  simp [isDots, hempty, hdot, hdots]

theorem orDefault_eq_iff {x y : List Char} :
    orDefault x = orDefault y ↔ x = y ∨ x ∈ nameless ∧ y ∈ nameless := by
  have hdefault : "default".toList ∈ nameless := by decide
  by_cases hx : x ∈ nameless
  · by_cases hy : y ∈ nameless
    · rw [orDefault_of_mem hx, orDefault_of_mem hy]
      exact iff_of_true rfl (.inr ⟨hx, hy⟩)
    · rw [orDefault_of_mem hx, orDefault_of_not_mem hy]
      constructor
      · intro h
        exact absurd (h ▸ hdefault) hy
      · rintro (rfl | ⟨-, hy'⟩)
        · exact absurd hx hy
        · exact absurd hy' hy
  · rw [orDefault_of_not_mem hx]
    by_cases hy : y ∈ nameless
    · rw [orDefault_of_mem hy]
      constructor
      · intro h
        exact absurd (h ▸ hdefault) hx
      · rintro (rfl | ⟨hx', -⟩)
        · exact absurd hy hx
        · exact absurd hx' hx
    · rw [orDefault_of_not_mem hy]
      exact ⟨.inl, fun h => h.resolve_right fun h => hx h.1⟩

variable (hhost : host.Lawful)

include hhost

theorem keeps_of_isSafeChar (h : isSafeChar c) : keeps host c = true := by
  simp only [isSafeChar, Bool.or_eq_true, beq_iff_eq] at h
  rcases h with ((h | rfl) | rfl) | rfl
  · simp [keeps, hhost c h]
  all_goals simp [keeps]

/-- **The slug** is the part with its characters replaced, also when nothing has to be. -/
theorem tenantSlug_eq (tenantId : String) :
    tenantSlug host tenantId = orDefault ((slugPart tenantId).map (slugChar host)) := by
  rw [slugPart, map_take, tenantSlug]
  split_ifs with h
  · simp only [safeTenant, Bool.and_eq_true, decide_eq_true_eq, all_eq_true, Bool.not_eq_true'] at h
    obtain ⟨⟨⟨hpos, hlen⟩, hsafe⟩, hdots⟩ := h
    have hmap : (stripChars tenantId.toList).map (slugChar host) = stripChars tenantId.toList :=
      (map_congr_left fun c hc =>
        slugChar_of_keeps (keeps_of_isSafeChar hhost (hsafe c hc))).trans (map_id _)
    have hempty : (stripChars tenantId.toList).isEmpty = false :=
      isEmpty_eq_false_iff.mpr (ne_nil_of_length_pos hpos)
    rw [hmap, take_of_length_le hlen, orDefault, hempty, hdots]
    rfl
  · rfl

variable {tenantId : String}

theorem slugPart_mem_nameless :
    (slugPart tenantId).map (slugChar host) ∈ nameless ↔ Nameless tenantId := by
  have hsafe : ∀ ds ∈ nameless, ∀ d ∈ ds, isSafeChar d ∧ d ≠ '_' := by decide
  have hshort : ∀ ds ∈ nameless, ds.length < 120 := by decide
  have hpart : ∀ ds ∈ nameless, (slugPart tenantId).map (slugChar host) = ds
      ↔ stripChars tenantId.toList = ds := by
    intro ds hds
    rw [map_slugChar_eq_other (fun d hd => (hsafe ds hds d hd).2)
      (fun d hd => keeps_of_isSafeChar hhost (hsafe ds hds d hd).1), slugPart]
    constructor
    · intro h
      have hlen := congrArg List.length h
      have hlt := hshort ds hds
      rw [length_take] at hlen
      rwa [take_of_length_le (by omega)] at h
    · intro h
      rw [h, take_of_length_le (by have := hshort ds hds; omega)]
  constructor
  · intro h
    rw [Nameless, (hpart _ h).mp rfl]
    exact h
  · intro h
    rw [(hpart _ h).mpr rfl]
    exact h

/-- **Two tenants have one slug.** -/
theorem tenantSlug_eq_iff (a b : String) :
    tenantSlug host a = tenantSlug host b ↔ SameSlug host a b := by
  rw [tenantSlug_eq hhost, tenantSlug_eq hhost, orDefault_eq_iff, map_slugChar_eq_iff,
    slugPart_mem_nameless hhost, slugPart_mem_nameless hhost]
  rfl

/-! ## Files -/

theorem path_eq_iff (dataDir : String) (store : Store) {a b : String}
    (hcol : NoCollision host a b) :
    path host dataDir store a = path host dataDir store b ↔ SameSlug host a b := by
  rw [← tenantSlug_eq_iff hhost]
  constructor
  · intro h
    have hchars := congrArg toList h
    simp only [path, toList_append, append_cancel_right_eq, append_cancel_left_eq] at hchars
    have htoken := hexText_inj (toList_inj.mp hchars)
    have htext := congrArg toList (hcol store (Subtype.ext htoken))
    simpa [tokenText, toList_append] using htext
  · intro h
    rw [path, path, fileToken, fileToken, tokenText, tokenText, h]

omit hhost in
theorem mem_arenaFiles {file : String} :
    file ∈ arenaFiles host tenantId
      ↔ ∃ part ∈ arenaParts host tenantId, part ≠ [] ∧ file = ofList part ++ ".json" := by
  have hfile : ∀ keep, file ∈ (arenaFile keep tenantId).toList
      ↔ arenaPart keep tenantId ≠ []
        ∧ file = ofList (arenaPart keep tenantId) ++ ".json" := by
    intro keep
    rw [arenaFile, ← arenaPart, Option.mem_toList]
    by_cases hempty : arenaPart keep tenantId = []
    · simp [hempty]
    · rw [if_neg (by simpa using hempty), Option.some.injEq, and_iff_right hempty, eq_comm]
  rw [arenaFiles, mem_append, putFile, loadFile, hfile, hfile]
  simp [arenaParts]

omit hhost in
theorem arena_separate_iff (a b : String) :
    (∀ file ∈ arenaFiles host a, file ∉ arenaFiles host b) ↔ ¬ SharesArena host a b := by
  constructor
  · rintro h ⟨part, hne, ha, hb⟩
    exact h _ (mem_arenaFiles.mpr ⟨part, ha, hne, rfl⟩) (mem_arenaFiles.mpr ⟨part, hb, hne, rfl⟩)
  · intro h file ha hb
    obtain ⟨part, hpart, hne, rfl⟩ := mem_arenaFiles.mp ha
    obtain ⟨part', hpart', -, hfile⟩ := mem_arenaFiles.mp hb
    have hsame : part = part' := by
      have hchars := congrArg toList hfile
      simpa [toList_append] using hchars
    exact h ⟨part, hne, hpart, hsame ▸ hpart'⟩

end

/-- **Separate tenants**: two tenants have no file in common exactly if they have different slugs
and none of the endpoints of the arena leaves the same of both. -/
theorem files_separate_iff (host : Host) (hhost : host.Lawful) (dataDir : String) (a b : String)
    (hcol : NoCollision host a b) :
    FilesSeparate host dataDir a b ↔ ¬ SameSlug host a b ∧ ¬ SharesArena host a b := by
  rw [← arena_separate_iff]
  constructor
  · rintro ⟨hstores, harena⟩
    exact ⟨fun h => hstores .yLabels ((path_eq_iff hhost dataDir .yLabels hcol).mpr h), harena⟩
  · rintro ⟨hslug, harena⟩
    exact ⟨fun store h => hslug ((path_eq_iff hhost dataDir store hcol).mp h), harena⟩

/-! ## Plain tenant ids -/

/-- A tenant id of at most 64 letters, digits, underscores and hyphens. -/
structure Plain (tenantId : String) : Prop where
  nonempty : tenantId.toList ≠ []
  short : tenantId.toList.length ≤ 64
  chars : ∀ c ∈ tenantId.toList, (isAsciiAlnum c || c == '_' || c == '-') = true
  named : tenantId ≠ "default"

theorem isStripSpace_of_plain (h : (isAsciiAlnum c || c == '_' || c == '-')) :
    isStripSpace c = false := by
  simp only [isAsciiAlnum, Bool.or_eq_true, beq_iff_eq] at h
  rcases h with ((h | h) | rfl) | rfl
  · have hrange : 65 ≤ c.toNat ∧ c.toNat ≤ 90 ∨ 97 ≤ c.toNat ∧ c.toNat ≤ 122 := by
      delta Char.isAlpha Char.isUpper Char.isLower at h
      simpa [UInt32.le_iff_toNat_le] using h
    exact isStripSpace_ascii (by omega) (by omega)
  · exact isStripSpace_of_isDigit h
  · decide
  · decide

section

variable {host : Host} (hhost : host.Lawful) {a b : String}

include hhost

theorem tenantSlug_of_plain (h : Plain a) : tenantSlug host a = a.toList := by
  have hstrip : stripChars a.toList = a.toList := by
    have := strip_eq_self fun c hc => isStripSpace_of_plain (h.chars c hc)
    rw [← toList_inj, strip, toList_ofList] at this
    exact this
  have hsafe : ∀ c ∈ a.toList, isSafeChar c := by
    intro c hc
    have := h.chars c hc
    simp only [Bool.or_eq_true, beq_iff_eq] at this
    simp only [isSafeChar, Bool.or_eq_true, beq_iff_eq]
    tauto
  have hmap : a.toList.map (slugChar host) = a.toList :=
    (map_congr_left fun c hc =>
      slugChar_of_keeps (keeps_of_isSafeChar hhost (hsafe c hc))).trans (map_id _)
  have hnamed : a.toList ∉ nameless := by
    -- a dot is not among the characters of a plain id
    have hdot : '.' ∉ a.toList := fun hmem => absurd (h.chars _ hmem) (by decide)
    simp only [nameless, mem_cons, not_mem_nil, or_false, not_or, toList_inj]
    refine ⟨h.nonempty, fun heq => ?_, fun heq => ?_, h.named⟩
    · exact hdot (heq ▸ mem_singleton_self _)
    · exact hdot (heq ▸ mem_cons_self)
  have hlen := h.short
  rw [tenantSlug_eq hhost, slugPart, hstrip, take_of_length_le (by omega), hmap,
    orDefault_of_not_mem hnamed]

theorem arenaParts_of_plain (h : Plain a) {part : List Char} (hpart : part ∈ arenaParts host a) :
    part = a.toList := by
  have hkept : ∀ keep : Char → Bool, (∀ c ∈ a.toList, keep c) → arenaPart keep a = a.toList := by
    intro keep hkeep
    rw [arenaPart, filter_eq_self.mpr hkeep, take_of_length_le h.short]
  have hload : ∀ c ∈ a.toList, (host.isAlnum c || c == '-' || c == '_') := by
    intro c hc
    have := h.chars c hc
    simp only [Bool.or_eq_true, beq_iff_eq] at this ⊢
    rcases this with (halnum | hunder) | hhyphen
    · exact .inl (.inl (hhost c halnum))
    · exact .inr hunder
    · exact .inl (.inr hhyphen)
  rw [arenaParts, hkept _ h.chars, hkept _ hload] at hpart
  simpa using hpart

theorem separate_of_plain (ha : Plain a) (hb : Plain b) (hne : a ≠ b) :
    ¬ SameSlug host a b ∧ ¬ SharesArena host a b := by
  have hchars : a.toList ≠ b.toList := fun h => hne (toList_inj.mp h)
  refine ⟨?_, ?_⟩
  · rw [← tenantSlug_eq_iff hhost, tenantSlug_of_plain hhost ha, tenantSlug_of_plain hhost hb]
    exact hchars
  · rintro ⟨part, -, hpa, hpb⟩
    exact hchars ((arenaParts_of_plain hhost ha hpa).symm.trans (arenaParts_of_plain hhost hb hpb))

end

namespace Demo

def sha256 (b : Bytes) : Digest :=
  if b.length = 19 then ⟨[73, 13, 226, 106, 180, 14, 108, 95, 172, 68, 102, 116, 179, 156, 52, 18,
    136, 35, 224, 157, 126, 68, 15, 57, 5, 67, 200, 201, 7, 59, 62, 97], rfl⟩
  else if b.length = 21 then ⟨[113, 81, 209, 8, 65, 63, 108, 116, 26, 176, 218, 64, 25, 217, 43,
    66, 87, 242, 101, 35, 136, 37, 31, 84, 89, 203, 177, 65, 131, 73, 183, 125], rfl⟩
  else if b.length = 30 then ⟨[65, 20, 236, 125, 25, 86, 246, 22, 69, 169, 113, 195, 22, 53, 6,
    31, 131, 186, 111, 17, 176, 171, 56, 7, 183, 70, 179, 47, 90, 105, 4, 93], rfl⟩
  else if b.length = 32 then ⟨[53, 103, 2, 107, 166, 43, 249, 111, 79, 98, 208, 65, 114, 235, 62,
    175, 201, 114, 120, 194, 205, 49, 90, 139, 16, 85, 135, 177, 178, 71, 14, 221], rfl⟩
  else if b.length = 36 then ⟨[208, 152, 163, 247, 254, 50, 73, 48, 20, 41, 156, 56, 99, 206, 79,
    113, 210, 132, 233, 96, 213, 130, 76, 65, 243, 124, 75, 129, 255, 93, 106, 75], rfl⟩
  else ⟨[134, 12, 211, 79, 155, 80, 123, 191, 33, 155, 99, 249, 165, 89, 88, 33, 150, 169, 88,
    183, 0, 108, 222, 200, 171, 200, 220, 200, 165, 233, 171, 152], rfl⟩

def host : Host := ⟨isAsciiAlnum, sha256⟩

end Demo

/-- Two tenants with plain ids. -/
theorem acme_globex_separate : FilesSeparate Demo.host "/data" "acme" "globex" :=
  (files_separate_iff Demo.host (fun _ h => h) "/data" "acme" "globex" (by
    intro store h
    cases store <;> exact absurd h (by decide +kernel))).mpr
    (separate_of_plain (fun _ h => h) ⟨by decide, by decide, by decide, by decide⟩
      ⟨by decide, by decide, by decide, by decide⟩ (by decide))

/-- **Two tenants with one file**: a blank is replaced by an underscore in the names of the three
stores, and a dot is dropped in that of the arena. -/
theorem tenants_share_files :
    (∀ store, path Demo.host "/data" store "acme corp" = path Demo.host "/data" store "acme_corp")
      ∧ putFile "acme.eu" = some "acmeeu.json" ∧ putFile "acmeeu" = some "acmeeu.json"
      ∧ loadFile Demo.host "acmeeu" = some "acmeeu.json" := by
  have hslug : tenantSlug Demo.host "acme corp" = tenantSlug Demo.host "acme_corp" := by
    decide +kernel
  refine ⟨fun store => ?_, by decide +kernel, by decide +kernel, by decide +kernel⟩
  rw [path, path, fileToken, fileToken, tokenText, tokenText, hslug]

end Tarka.Decision.TenantFiles
