import ChannelCatalog.Proofs.Text.ByteOrder
import ChannelCatalog.Store.Evaluate
import Mathlib.Data.Prod.Lex
import Mathlib.Order.Monotone.Basic

/-!
# The order of a listing

A listing is sorted by two columns of cells.  Both orders are total, so sorting by them leaves only
one list, provided that no two lines agree in both columns.  On texts the order of cells is the
order of their bytes.
-/

namespace ChannelCatalog
namespace Store
namespace TextCell

/-- The bytes of a cell. -/
def bytes : TextCell → List UInt8
  | null => []
  | text value => Text.encode value
  | blob bytes => bytes

/-- The place of a cell in the order of its column: its kind comes first, and then its bytes. -/
def rank : TextCell → Nat ×ₗ List Nat
  | null => toLex (0, [])
  | text value => toLex (1, (Text.encode value).map UInt8.toNat)
  | blob bytes => toLex (2, bytes.map UInt8.toNat)

theorem strictMono_encode : StrictMono fun value => (Text.encode value).map UInt8.toNat :=
  fun _ _ hlt => Text.lt_iff_map_toNat_lt.1 (Text.encode_lt_encode hlt)

theorem bytesLe_iff {a b : List UInt8} :
    bytesLe a b = true ↔ a.map UInt8.toNat ≤ b.map UInt8.toNat := by
  rw [← not_lt, ← Text.lt_iff_map_toNat_lt]
  induction a generalizing b with
  | nil => simp [bytesLe]
  | cons x xs ih =>
      cases b with
      | nil => simp [bytesLe]
      | cons y ys =>
          simp only [bytesLe, Bool.or_eq_true, Bool.and_eq_true, decide_eq_true_eq, ih,
            List.cons_lt_cons_iff, UInt8.lt_iff_toNat_lt, ← UInt8.toNat_inj]
          rcases Nat.lt_trichotomy x.toNat y.toNat with hxy | hxy | hxy
          · simp [hxy, hxy.ne', hxy.not_gt]
          · simp [hxy]
          · simp [hxy, hxy.ne', hxy.not_gt]

/-- Cells are ordered by their ranks. -/
theorem le_iff_rank_le {a b : TextCell} : a.le b = true ↔ a.rank ≤ b.rank := by
  have htexts : ∀ s t : String, s ≤ t ↔
      (Text.encode s).map UInt8.toNat ≤ (Text.encode t).map UInt8.toNat := fun s t =>
    strictMono_encode.le_iff_le.symm
  cases a with
  | null => cases b <;> simp [le, rank, Prod.Lex.toLex_le_toLex]
  | text s => cases b <;> simp [le, rank, Prod.Lex.toLex_le_toLex, htexts]
  | blob bytes => cases b <;> simp [le, rank, Prod.Lex.toLex_le_toLex, bytesLe_iff]

/-- A cell is determined by its place in the order. -/
theorem rank_injective : Function.Injective rank := by
  have hblobs : Function.Injective (List.map UInt8.toNat) :=
    List.map_injective_iff.2 fun _ _ => UInt8.toNat_inj.1
  intro a b hsame
  cases a with
  | null => cases b <;> simp_all [rank]
  | text s =>
      cases b with
      | text t =>
          -- Texts with the same bytes are equal, since neither comes before the other.
          have hbytes := congrArg (fun r => (ofLex r).2) hsame
          rw [strictMono_encode.injective hbytes]
      | _ => simp [rank] at hsame
  | blob bytes =>
      cases b with
      | blob others =>
          have hbytes := congrArg (fun r => (ofLex r).2) hsame
          rw [hblobs hbytes]
      | _ => simp [rank] at hsame

theorem le_or_le (a b : TextCell) : a.le b = true ∨ b.le a = true := by
  rw [le_iff_rank_le, le_iff_rank_le]
  exact le_total a.rank b.rank

theorem le_of_le_of_le {a b c : TextCell} (hab : a.le b = true) (hbc : b.le c = true) :
    a.le c = true := by
  rw [le_iff_rank_le] at hab hbc ⊢
  exact le_trans hab hbc

theorem eq_of_le_of_le {a b : TextCell} (hab : a.le b = true) (hba : b.le a = true) : a = b := by
  rw [le_iff_rank_le] at hab hba
  exact rank_injective (le_antisymm hab hba)

/-- Of two texts in order that differ, the first has the smaller bytes. -/
theorem bytes_lt_bytes {s t : String} (hle : (text s).le (text t) = true) (hne : s ≠ t) :
    (text s).bytes < (text t).bytes := by
  have hle : s ≤ t := of_decide_eq_true hle
  exact Text.encode_lt_encode (lt_of_le_of_ne hle hne)

end TextCell

namespace JoinedRow

theorem le_iff {a b : JoinedRow} :
    a.le b = true ↔
      (a.channelName = b.channelName ∧ a.propertyName.le b.propertyName = true) ∨
        (a.channelName ≠ b.channelName ∧ a.channelName.le b.channelName = true) := by
  unfold le
  split <;> simp_all

theorem le_or_le (a b : JoinedRow) : a.le b = true ∨ b.le a = true := by
  rw [le_iff, le_iff]
  by_cases hsame : a.channelName = b.channelName
  · rcases TextCell.le_or_le a.propertyName b.propertyName with h | h
    · exact Or.inl (Or.inl ⟨hsame, h⟩)
    · exact Or.inr (Or.inl ⟨hsame.symm, h⟩)
  · rcases TextCell.le_or_le a.channelName b.channelName with h | h
    · exact Or.inl (Or.inr ⟨hsame, h⟩)
    · exact Or.inr (Or.inr ⟨Ne.symm hsame, h⟩)

theorem le_of_le_of_le {a b c : JoinedRow} (hab : a.le b = true) (hbc : b.le c = true) :
    a.le c = true := by
  rw [le_iff] at hab hbc ⊢
  rcases hab with ⟨hsame, hab⟩ | ⟨hdiffer, hab⟩
  · rw [hsame]
    rcases hbc with ⟨hagain, hbc⟩ | hbc
    · exact Or.inl ⟨hagain, TextCell.le_of_le_of_le hab hbc⟩
    · exact Or.inr hbc
  · rcases hbc with ⟨hagain, -⟩ | ⟨hother, hbc⟩
    · rw [← hagain]
      exact Or.inr ⟨hdiffer, hab⟩
    · refine Or.inr ⟨fun hround => ?_, TextCell.le_of_le_of_le hab hbc⟩
      -- If the last name were the first again, the one between would be the same.
      rw [hround] at hab hdiffer
      exact hother (TextCell.eq_of_le_of_le hbc hab)

/-- Lines that come both before and after each other agree in the two columns of the order. -/
theorem names_eq_of_le_of_le {a b : JoinedRow} (hab : a.le b = true) (hba : b.le a = true) :
    a.channelName = b.channelName ∧ a.propertyName = b.propertyName := by
  rw [le_iff] at hab hba
  rcases hab with ⟨hsame, hab⟩ | ⟨hdiffer, hab⟩
  · rcases hba with ⟨-, hba⟩ | ⟨hdiffer, -⟩
    · exact ⟨hsame, TextCell.eq_of_le_of_le hab hba⟩
    · exact absurd hsame.symm hdiffer
  · rcases hba with ⟨hsame, -⟩ | ⟨-, hba⟩
    · exact absurd hsame.symm hdiffer
    · exact absurd (TextCell.eq_of_le_of_le hab hba) hdiffer

end JoinedRow
end Store
end ChannelCatalog
