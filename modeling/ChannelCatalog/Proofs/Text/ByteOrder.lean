import ChannelCatalog.Text.Bytes
import Mathlib.Data.String.Basic

/-!
# The order of texts by their bytes

Texts compare by their characters, and a store compares them by their bytes.  UTF-8 is made so that
both orders are one: a larger character has a larger byte at the first place where the encodings
differ, whatever follows.
-/

namespace ChannelCatalog
namespace Text

/-- The bytes of a character, as numbers. -/
def units (n : Nat) : List Nat :=
  if n ≤ 0x7f then [n]
  else if n ≤ 0x7ff then [n / 64 % 0x20 + 0xc0, n % 0x40 + 0x80]
  else if n ≤ 0xffff then [n / 4096 % 0x10 + 0xe0, n / 64 % 0x40 + 0x80, n % 0x40 + 0x80]
  else [n / 262144 % 0x08 + 0xf0, n / 4096 % 0x40 + 0x80, n / 64 % 0x40 + 0x80, n % 0x40 + 0x80]

theorem map_toNat_utf8EncodeChar (c : Char) :
    (String.utf8EncodeChar c).map UInt8.toNat = units c.toNat := by
  have hbyte : ∀ n, n < 256 → (UInt8.ofNat n).toNat = n := fun n hn => by
    rw [UInt8.toNat_ofNat']
    exact Nat.mod_eq_of_lt hn
  have hc : c.val.toNat = c.toNat := rfl
  unfold String.utf8EncodeChar units
  simp only [hc]
  split
  · simp only [List.map_cons, List.map_nil]
    rw [hbyte _ (by omega)]
  · split
    · simp only [List.map_cons, List.map_nil]
      rw [hbyte _ (by omega), hbyte _ (by omega)]
    · split
      · simp only [List.map_cons, List.map_nil]
        rw [hbyte _ (by omega), hbyte _ (by omega), hbyte _ (by omega)]
      · simp only [List.map_cons, List.map_nil]
        rw [hbyte _ (by omega), hbyte _ (by omega), hbyte _ (by omega), hbyte _ (by omega)]

/-- The first difference between the bytes of two characters is in the sense of their order. -/
theorem units_append_lt {m n : Nat} (hmn : m < n) (hn : n < 0x110000) (s t : List Nat) :
    units m ++ s < units n ++ t := by
  -- Each further place is a quotient by 64 of the one before.
  have hthird : ∀ k, k / 4096 = k / 64 / 64 := fun k => by rw [Nat.div_div_eq_div_mul]
  have hfourth : ∀ k, k / 262144 = k / 64 / 64 / 64 := fun k => by
    rw [Nat.div_div_eq_div_mul, Nat.div_div_eq_div_mul]
  -- With equal numbers of bytes the places decide, and else the first byte does.
  unfold units
  simp only [hthird, hfourth]
  split_ifs <;> simp only [List.cons_append, List.cons_lt_cons_iff] <;> omega

/-- Comparing lists of bytes is comparing the lists of their numbers. -/
theorem lt_iff_map_toNat_lt {a b : List UInt8} :
    a < b ↔ a.map UInt8.toNat < b.map UInt8.toNat := by
  induction a generalizing b with
  | nil =>
      cases b with
      | nil => simp
      | cons y ys => simp
  | cons x xs ih =>
      cases b with
      | nil => simp
      | cons y ys =>
          simp only [List.map_cons, List.cons_lt_cons_iff, ih, UInt8.lt_iff_toNat_lt,
            UInt8.toNat_inj]

theorem utf8EncodeChar_append_lt {c d : Char} (hcd : c < d) (s t : List UInt8) :
    String.utf8EncodeChar c ++ s < String.utf8EncodeChar d ++ t := by
  have hd : d.toNat < 0x110000 := by
    have hvalid := d.valid
    simp only [UInt32.isValidChar, Nat.isValidChar] at hvalid
    change d.val.toNat < 0x110000
    omega
  have hlt : c.toNat < d.toNat := Char.lt_def.1 hcd
  rw [lt_iff_map_toNat_lt, List.map_append, List.map_append, map_toNat_utf8EncodeChar,
    map_toNat_utf8EncodeChar]
  exact units_append_lt hlt hd _ _

theorem flatMap_utf8EncodeChar_lt {a b : List Char} (hab : a < b) :
    a.flatMap String.utf8EncodeChar < b.flatMap String.utf8EncodeChar := by
  induction a generalizing b with
  | nil =>
      cases b with
      | nil => exact absurd hab (lt_irrefl _)
      | cons d rest =>
          have hsome : (d :: rest).flatMap String.utf8EncodeChar ≠ [] := by
            simp [String.utf8EncodeChar_ne_nil]
          obtain ⟨byte, bytes, hbytes⟩ := List.exists_cons_of_ne_nil hsome
          rw [hbytes, List.flatMap_nil]
          exact List.nil_lt_cons byte bytes
  | cons c cs ih =>
      cases b with
      | nil => exact absurd hab (List.not_lt_nil _)
      | cons d rest =>
          rw [List.flatMap_cons, List.flatMap_cons]
          rcases List.cons_lt_cons_iff.1 hab with hcd | ⟨rfl, hrest⟩
          · exact utf8EncodeChar_append_lt hcd _ _
          · exact List.append_left_lt (ih hrest)

/-- A smaller text has smaller bytes. -/
theorem encode_lt_encode {a b : String} (hab : a < b) : encode a < encode b :=
  flatMap_utf8EncodeChar_lt (String.lt_iff_toList_lt.1 hab)

end Text
end ChannelCatalog
