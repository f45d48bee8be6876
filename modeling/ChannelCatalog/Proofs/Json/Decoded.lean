import ChannelCatalog.Json.Decoder
import ChannelCatalog.Proofs.Store.Matching

/-!
# What has been decoded

A decoder that succeeds tells what the document is.  A text that is read is a document that can be
decoded.  An integer comes from a numeral.  A record comes from an object or from an array: a member of
the object is found by its name, however the name is escaped, and an item of the array that may be left
out is there or not.
-/

namespace ChannelCatalog
namespace Json

open Store (bind_eq_ok_iff)

theorem mismatch_ne_ok {α : Type} (expected : String) (document : Document) (value : α) :
    mismatch expected document ≠ .ok value := by
  intro h
  obtain ⟨description, -, h⟩ := bind_eq_ok_iff.1 h
  cases h

theorem readText_eq_ok_iff {spelling : List Char} {content : String} :
    readText spelling = .ok content ↔ unescape? spelling = some content.toList := by
  unfold readText
  split
  · rename_i chars hchars
    rw [hchars, Except.ok.injEq, Option.some.injEq, ← String.toList_inj, String.toList_ofList]
  · rename_i hnone
    simp [hnone]

theorem readNumber_eq_ok_iff {numeral : Numeral} {number : Number} :
    readNumber numeral = .ok number ↔ numeral.value? = some number := by
  unfold readNumber
  split
  · rename_i value hvalue
    rw [hvalue, Except.ok.injEq, Option.some.injEq]
  · rename_i hnone
    simp [hnone]

/-- A text is read as a value if it is a document from which the value is decoded. -/
theorem read_eq_ok_iff {α : Type} {decode : Decoder α} {content : String} {value : α} :
    read decode content = .ok value ↔
      ∃ document, parse? content = some document ∧ decode document = .ok value := by
  unfold read
  split
  · rename_i hnone
    simp [hnone]
  · rename_i document hparsed
    rw [hparsed]
    split
    · rename_i decoded hdecoded
      simp [hdecoded]
    · rename_i error hfailed
      simp [hfailed]

/-- An integer is decoded from a numeral, and it is in range. -/
theorem exists_numeral_of_integerAs {expected : String} {low high value : Int} {document : Document}
    (h : integerAs expected low high document = .ok value) :
    ∃ numeral, document = .number numeral ∧ numeral.value? = some (.integer value) ∧
      low ≤ value ∧ value ≤ high := by
  unfold integerAs at h
  split at h
  · rename_i numeral
    obtain ⟨number, hnumber, h⟩ := bind_eq_ok_iff.1 h
    split at h
    · split at h
      · rename_i hrange
        cases h
        exact ⟨numeral, rfl, readNumber_eq_ok_iff.1 hnumber, hrange⟩
      · cases h
    · cases h
  · exact absurd h (mismatch_ne_ok expected _ value)

/-! ## Records -/

/-- A record is decoded from the members of an object or from the items of an array. -/
theorem cases_of_recordOf {α : Type} {name : String} {known : List (String × Decoder Unit)}
    {ofMembers : List (String × Document) → Except DecodeError α}
    {ofItems : List Document → Except DecodeError α} {document : Document} {value : α}
    (h : recordOf name known ofMembers ofItems document = .ok value) :
    (∃ members named, document = .object members ∧ memberTexts members = .ok named ∧
      ofMembers named = .ok value) ∨
    ∃ items, document = .array items ∧ ofItems items = .ok value := by
  unfold recordOf at h
  split at h
  · rename_i members
    obtain ⟨named, hnamed, h⟩ := bind_eq_ok_iff.1 h
    obtain ⟨-, -, h⟩ := bind_eq_ok_iff.1 h
    exact Or.inl ⟨members, named, rfl, hnamed, h⟩
  · rename_i items
    exact Or.inr ⟨items, rfl, h⟩
  · exact absurd h (mismatch_ne_ok _ _ value)

/-- A member is found by its name, whether the names have been read or not. -/
theorem lookup_of_memberTexts {members : List (List Char × Document)}
    {named : List (String × Document)} (h : memberTexts members = .ok named) (name : String) :
    named.lookup name =
      (members.find? fun member => unescape? member.1 = some name.toList).map Prod.snd := by
  induction members generalizing named with
  | nil =>
      cases h
      rfl
  | cons member rest ih =>
      obtain ⟨spelling, value⟩ := member
      obtain ⟨first, hfirst, h⟩ := bind_eq_ok_iff.1 h
      obtain ⟨others, hothers, h⟩ := bind_eq_ok_iff.1 h
      cases h
      have hspelled := readText_eq_ok_iff.1 hfirst
      rw [List.lookup_cons, List.find?_cons, hspelled]
      by_cases hname : name = first
      · simp [hname]
      · have hother : first ≠ name := Ne.symm hname
        have hbeq : (name == first) = false := beq_eq_false_iff_ne.2 hname
        simp [hbeq, hother, String.toList_inj, ih hothers]

/-- The next item is decoded, or there is none and the default is taken. -/
theorem cases_of_nextItemOr {α : Type} {default value : α} {decode : Decoder α}
    {items rest : List Document} (h : nextItemOr default decode items = .ok (value, rest)) :
    (items = [] ∧ value = default ∧ rest = []) ∨
      ∃ item, items = item :: rest ∧ decode item = .ok value := by
  cases items with
  | nil =>
      cases h
      exact Or.inl ⟨rfl, rfl, rfl⟩
  | cons item others =>
      obtain ⟨decoded, hdecoded, h⟩ := bind_eq_ok_iff.1 h
      cases h
      exact Or.inr ⟨item, rfl, hdecoded⟩

theorem exists_item_of_nextItem {α : Type} {shape : String} {index : Nat} {value : α}
    {decode : Decoder α} {items rest : List Document}
    (h : nextItem shape index decode items = .ok (value, rest)) :
    ∃ item, items = item :: rest ∧ decode item = .ok value := by
  cases items with
  | nil => cases h
  | cons item others =>
      obtain ⟨decoded, hdecoded, h⟩ := bind_eq_ok_iff.1 h
      cases h
      exact ⟨item, rfl, hdecoded⟩

end Json
end ChannelCatalog
