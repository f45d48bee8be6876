import ChannelCatalog.Store.Evaluate
import Mathlib.Data.List.Basic

/-!
# What the tests of a query say

Each test of a single row is joined to the condition that it stands for.  A test may fail, since
a pattern can be too long for the store.  So there are two statements about each of them: what its
answer means when it gives one (`Decides`), and that it gives one when no pattern is too long.
-/

namespace ChannelCatalog

namespace Clause

/-- The patterns that a clause compares a value with. -/
def patterns : Clause → List String
  | .property _ patterns => patterns
  | .tag _ => []

/-- The name that a clause asks for. -/
def name : Clause → String
  | .property key _ => key
  | .tag name => name

end Clause

namespace Store

open Text (asciiLower)

/-- A sequence of two steps gives a result exactly when both steps do. -/
theorem bind_eq_ok_iff {ε α β : Type} {first : Except ε α} {next : α → Except ε β} {result : β} :
    (first >>= next) = .ok result ↔ ∃ a, first = .ok a ∧ next a = .ok result := by
  cases first with
  | error cause => simp [bind, Except.bind]
  | ok a => simp [bind, Except.bind]

/-- The answer of a test, if it gives one, tells whether `P` holds. -/
def Decides (test : Except StoreError Bool) (P : Prop) : Prop :=
  ∀ passed, test = .ok passed → (passed = true ↔ P)

/-- A cell is `LIKE` a pattern: there is something to read, and what is read matches. -/
def TextCell.Likes (cell : TextCell) (pattern : String) : Prop :=
  cell.likeText?.any (Like.holdsFor pattern) = true

instance (cell : TextCell) (pattern : String) : Decidable (cell.Likes pattern) :=
  inferInstanceAs (Decidable (_ = true))

theorem TextCell.likes_text_iff {value pattern : String} :
    (TextCell.text value).Likes pattern ↔
      Like.holdsFor pattern (Like.readText value.toList) = true :=
  Iff.rfl

theorem TextCell.Likes.ne_null {cell : TextCell} {pattern : String} (h : cell.Likes pattern) :
    cell ≠ .null := by
  rintro rfl
  cases h

namespace TextCell

theorem decides_isLike (cell : TextCell) (pattern : String) :
    Decides (cell.isLike pattern) (cell.Likes pattern) := by
  intro passed h
  unfold isLike at h
  split at h
  · cases h
  · cases h
    rfl

theorem exists_isLike {pattern : String} (cell : TextCell)
    (hshort : Like.isTooLong pattern = false) : ∃ passed, cell.isLike pattern = .ok passed := by
  simp [isLike, hshort]

theorem decides_isLikeAny (cell : TextCell) (patterns : List String) :
    Decides (cell.isLikeAny patterns) (∃ pattern ∈ patterns, cell.Likes pattern) := by
  induction patterns with
  | nil =>
      intro passed h
      cases h
      simp
  | cons pattern rest ih =>
      intro passed h
      obtain ⟨first, hfirst, h⟩ := bind_eq_ok_iff.1 h
      have hlike : first = true ↔ cell.Likes pattern := decides_isLike cell pattern first hfirst
      rw [List.exists_mem_cons_iff]
      cases first with
      | true =>
          cases h
          simpa using Or.inl (hlike.1 rfl)
      | false =>
          have hrest : passed = true ↔ ∃ pattern ∈ rest, cell.Likes pattern := ih passed h
          have hno : ¬ cell.Likes pattern := fun hyes => Bool.false_ne_true (hlike.2 hyes)
          simpa [hno] using hrest

theorem exists_isLikeAny (cell : TextCell) {patterns : List String}
    (hshort : ∀ pattern ∈ patterns, Like.isTooLong pattern = false) :
    ∃ passed, cell.isLikeAny patterns = .ok passed := by
  induction patterns with
  | nil => exact ⟨false, rfl⟩
  | cons pattern rest ih =>
      obtain ⟨first, hfirst⟩ := exists_isLike cell (hshort pattern List.mem_cons_self)
      obtain ⟨other, hother⟩ := ih fun p hp => hshort p (List.mem_cons_of_mem pattern hp)
      cases first with
      | true => exact ⟨true, by simp [isLikeAny, hfirst, bind, Except.bind, pure, Except.pure]⟩
      | false => exact ⟨other, by simp [isLikeAny, hfirst, hother, bind, Except.bind]⟩

end TextCell

theorem Folding.lower_null (folding : Folding) : TextCell.null.lower folding = .null := by
  cases folding <;> rfl

namespace PropertyRecord

/-- The folded name of a property is the folded form of a text. -/
def IsNamed (folding : Folding) (property : PropertyRecord) (name : String) : Prop :=
  property.name.lower folding = .text (folding.lower name)

instance (folding : Folding) (property : PropertyRecord) (name : String) :
    Decidable (property.IsNamed folding name) :=
  inferInstanceAs (Decidable (_ = _))

theorem IsNamed.name_ne_null {folding : Folding} {property : PropertyRecord} {name : String}
    (h : property.IsNamed folding name) : property.name ≠ .null := by
  intro hnull
  rw [IsNamed, hnull, folding.lower_null] at h
  cases h

/-- What a clause asks of a property. -/
def Passes (folding : Folding) (property : PropertyRecord) : Clause → Prop
  | .property key patterns =>
    property.IsNamed folding key ∧
      if patterns = [] then property.value ≠ .null
      else ∃ pattern ∈ patterns, property.value.Likes pattern
  | .tag name => property.IsNamed folding name ∧ property.value = .null

theorem decides_passes (folding : Folding) (property : PropertyRecord) (clause : Clause) :
    Decides (property.passes folding clause) (property.Passes folding clause) := by
  intro passed h
  cases clause with
  | tag name =>
      cases h
      simp [Passes, IsNamed]
  | property key patterns =>
      rw [passes] at h
      split at h
      · rename_i hname
        cases h
        simp [Passes, IsNamed, hname]
      · rename_i hname
        replace hname : property.IsNamed folding key := not_not.1 hname
        cases patterns with
        | nil =>
            cases h
            simp [Passes, hname]
        | cons pattern rest =>
            have hvalue := TextCell.decides_isLikeAny property.value (pattern :: rest) passed h
            simpa [Passes, hname] using hvalue

theorem decides_passesAny (folding : Folding) (property : PropertyRecord)
    (clauses : List Clause) :
    Decides (property.passesAny folding clauses)
      (∃ clause ∈ clauses, property.Passes folding clause) := by
  induction clauses with
  | nil =>
      intro passed h
      cases h
      simp
  | cons clause rest ih =>
      intro passed h
      obtain ⟨first, hfirst, h⟩ := bind_eq_ok_iff.1 h
      have hclause := decides_passes folding property clause first hfirst
      rw [List.exists_mem_cons_iff]
      cases first with
      | true =>
          cases h
          simpa using Or.inl (hclause.1 rfl)
      | false =>
          have hrest := ih passed h
          have hno : ¬ property.Passes folding clause :=
            fun hyes => Bool.false_ne_true (hclause.2 hyes)
          simpa [hno] using hrest

/-- What the query for a tag pattern asks of a property. -/
def IsTagLike (folding : Folding) (property : PropertyRecord) (pattern : String) : Prop :=
  property.value = .null ∧ (property.name.lower folding).Likes (folding.lower pattern)

instance (folding : Folding) (property : PropertyRecord) (pattern : String) :
    Decidable (property.IsTagLike folding pattern) :=
  inferInstanceAs (Decidable (_ ∧ _))

theorem decides_isTagLike (folding : Folding) (property : PropertyRecord) (pattern : String) :
    Decides (property.isTagLike folding pattern) (property.IsTagLike folding pattern) := by
  intro passed h
  obtain ⟨named, hnamed, h⟩ := bind_eq_ok_iff.1 h
  have hlike := TextCell.decides_isLike _ _ named hnamed
  cases h
  simp [IsTagLike, hlike, and_comm]

theorem Passes.isNamed {folding : Folding} {property : PropertyRecord} {clause : Clause}
    (h : property.Passes folding clause) : property.IsNamed folding clause.name := by
  cases clause with
  | property key patterns => exact h.1
  | tag name => exact h.1

theorem exists_passes (folding : Folding) (property : PropertyRecord) {clause : Clause}
    (hshort : ∀ pattern ∈ clause.patterns, Like.isTooLong pattern = false) :
    ∃ passed, property.passes folding clause = .ok passed := by
  cases clause with
  | tag name => exact ⟨_, rfl⟩
  | property key patterns =>
      rw [passes]
      split
      · exact ⟨_, rfl⟩
      · split
        · exact ⟨_, rfl⟩
        · exact TextCell.exists_isLikeAny property.value hshort

theorem exists_passesAny (folding : Folding) (property : PropertyRecord) {clauses : List Clause}
    (hshort : ∀ clause ∈ clauses, ∀ pattern ∈ clause.patterns, Like.isTooLong pattern = false) :
    ∃ passed, property.passesAny folding clauses = .ok passed := by
  induction clauses with
  | nil => exact ⟨false, rfl⟩
  | cons clause rest ih =>
      obtain ⟨first, hfirst⟩ :=
        exists_passes folding property (hshort clause List.mem_cons_self)
      obtain ⟨other, hother⟩ := ih fun c hc => hshort c (List.mem_cons_of_mem clause hc)
      cases first with
      | true => exact ⟨true, by simp [passesAny, hfirst, bind, Except.bind, pure, Except.pure]⟩
      | false => exact ⟨other, by simp [passesAny, hfirst, hother, bind, Except.bind]⟩

theorem exists_isTagLike (property : PropertyRecord) {folding : Folding} {pattern : String}
    (hshort : Like.isTooLong (folding.lower pattern) = false) :
    ∃ passed, property.isTagLike folding pattern = .ok passed := by
  obtain ⟨named, hnamed⟩ := TextCell.exists_isLike (property.name.lower folding) hshort
  exact ⟨_, by simp [isTagLike, hnamed, bind, Except.bind, pure, Except.pure]; rfl⟩

end PropertyRecord

/-- Selecting by a test that decides `P` keeps the members with `P`, in their order. -/
theorem eq_filter_of_select {α : Type} {test : α → Except StoreError Bool} {P : α → Prop}
    [DecidablePred P] (htest : ∀ x, Decides (test x) (P x)) {xs chosen : List α}
    (h : select test xs = .ok chosen) : chosen = xs.filter P := by
  induction xs generalizing chosen with
  | nil =>
      cases h
      rfl
  | cons x rest ih =>
      obtain ⟨passed, hpassed, h⟩ := bind_eq_ok_iff.1 h
      obtain ⟨others, hothers, h⟩ := bind_eq_ok_iff.1 h
      have hx : passed = true ↔ P x := htest x passed hpassed
      cases h
      rw [ih hothers]
      by_cases hP : P x
      · simp [hP, hx.2 hP]
      · have hfalse : passed = false := Bool.eq_false_iff.2 fun hp => hP (hx.1 hp)
        simp [hP, hfalse]

theorem exists_select {α : Type} {test : α → Except StoreError Bool} {xs : List α}
    (htest : ∀ x ∈ xs, ∃ passed, test x = .ok passed) : ∃ chosen, select test xs = .ok chosen := by
  induction xs with
  | nil => exact ⟨[], rfl⟩
  | cons x rest ih =>
      obtain ⟨passed, hpassed⟩ := htest x List.mem_cons_self
      obtain ⟨others, hothers⟩ := ih fun y hy => htest y (List.mem_cons_of_mem x hy)
      exact ⟨_, by simp [select, hpassed, hothers, bind, Except.bind, pure, Except.pure]; rfl⟩

end Store
end ChannelCatalog
