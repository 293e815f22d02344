import Tarka.Lib.Strip

/-! # Hexadecimal texts

The text of a byte string as `hexdigest` writes it: two lower-case digits for each byte. Such a text
is visible ASCII in lower case, so that code which trims and lowers a key leaves it alone. -/

namespace Tarka.Lib

open List Nat

def hexPair (b : UInt8) : List Char :=
  [Nat.digitChar (b.toNat / 16), Nat.digitChar (b.toNat % 16)]

/-- `bytes.hex`. -/
def hexText (b : Bytes) : String := String.ofList (b.flatMap hexPair)

theorem length_hexText (b : Bytes) : (hexText b).toList.length = 2 * b.length := by
  rw [hexText, String.toList_ofList]
  induction b with
  | nil => rfl
  | cons x b ih =>
    rw [flatMap_cons, length_append]
    simp only [hexPair, length_cons, length_nil]
    omega

theorem hexText_ascii {b : Bytes} {c : Char} (h : c ∈ (hexText b).toList) :
    0x20 < c.toNat ∧ c.toNat < 0x7f := by
  rw [hexText, String.toList_ofList, mem_flatMap] at h
  obtain ⟨x, -, hx⟩ := h
  have hdigit : ∀ n < 16, 0x20 < (digitChar n).toNat ∧ (digitChar n).toNat < 0x7f := by
    decide
  have hlt : x.toNat < 256 := x.toNat_lt
  rcases mem_cons.mp hx with rfl | hx
  · exact hdigit _ (by omega)
  · rw [mem_singleton.mp hx]
    exact hdigit _ (by omega)

theorem strip_hexText (b : Bytes) : strip (hexText b) = hexText b :=
  strip_eq_self (fun _ hc => isStripSpace_ascii (hexText_ascii hc).1 (hexText_ascii hc).2)

theorem asciiLower_hexText (b : Bytes) : asciiLower (hexText b) = hexText b := by
  have hdigit : ∀ n < 16, (digitChar n).toLower = digitChar n := by decide
  rw [asciiLower, hexText, String.toList_ofList, map_flatMap]
  congr 1
  apply flatMap_congr
  intro x _
  have hlt : x.toNat < 256 := x.toNat_lt
  rw [hexPair, map_cons, map_cons, map_nil, hdigit _ (by omega), hdigit _ (by omega)]

theorem hexPair_inj {a b : UInt8} (h : hexPair a = hexPair b) : a = b := by
  have hdigit : ∀ m < 16, ∀ n < 16, digitChar m = digitChar n → m = n := by decide
  have ha : a.toNat < 256 := a.toNat_lt
  have hb : b.toNat < 256 := b.toNat_lt
  simp only [hexPair, List.cons.injEq, and_true] at h
  have hhigh := hdigit _ (by omega) _ (by omega) h.1
  have hlow := hdigit _ (by omega) _ (by omega) h.2
  exact UInt8.toNat_inj.mp (by omega)

theorem hexText_inj {a b : Bytes} (h : hexText a = hexText b) : a = b := by
  have hchars : a.flatMap hexPair = b.flatMap hexPair := String.ofList_injective h
  clear h
  induction a generalizing b with
  | nil =>
    cases b with
    | nil => rfl
    | cons y b => simp [hexPair] at hchars
  | cons x a ih =>
    cases b with
    | nil => simp [hexPair] at hchars
    | cons y b =>
      have hparts := append_inj hchars rfl
      rw [hexPair_inj hparts.1, ih hparts.2]

end Tarka.Lib
