import ChannelCatalog.Proofs.Json.Tokens

/-!
# Printed documents

Both printed forms of a document spell its tokens (`spaced_toText`, `spaced_toPrettyText_append`), so
both are read as the document.  Its literals and numerals must be ones that can be written, as those
of texts and integers are.
-/

namespace ChannelCatalog
namespace Json

/-- A token that can be spelled. -/
def Token.IsWellFormed : Token → Prop
  | .literal spelling => IsLiteral spelling
  | .numeral n => n.IsWellFormed
  | _ => True

instance : DecidablePred Token.IsWellFormed
  | .literal spelling => inferInstanceAs (Decidable (IsLiteral spelling))
  | .numeral n => inferInstanceAs (Decidable n.IsWellFormed)
  | .openArray | .closeArray | .openObject | .closeObject | .comma | .colon | .null | .bool _ =>
    isTrue trivial

namespace Document

/-- All literals and numerals of a document can be written, whether or not they stand for a text or
a number. -/
def IsGrammatical (document : Document) : Prop :=
  ∀ token ∈ document.tokens, token.IsWellFormed

instance (document : Document) : Decidable document.IsGrammatical :=
  List.decidableBAll _ document.tokens

theorem forall_mem_itemTokens_iff (items : List Document) :
    (∀ token ∈ itemTokens items, token.IsWellFormed) ↔ ∀ item ∈ items, item.IsGrammatical := by
  match items with
  | [] => simp [itemTokens]
  | [item] => simp [itemTokens, IsGrammatical]
  | item :: next :: more =>
      rw [itemTokens, List.forall_mem_append, List.forall_mem_cons,
        forall_mem_itemTokens_iff (next :: more), List.forall_mem_cons (l := next :: more)]
      · exact and_congr_right fun _ => and_iff_right trivial
      · exact List.cons_ne_nil next more

theorem forall_mem_memberTokens_iff (members : List (List Char × Document)) :
    (∀ token ∈ memberTokens members, token.IsWellFormed) ↔
      ∀ member ∈ members, IsLiteral member.1 ∧ member.2.IsGrammatical := by
  match members with
  | [] => simp [memberTokens]
  | [(name, value)] =>
      rw [memberTokens, List.forall_mem_cons, List.forall_mem_cons, List.forall_mem_singleton]
      exact and_congr_right fun _ => and_iff_right trivial
  | (name, value) :: next :: more =>
      rw [memberTokens, List.forall_mem_append, List.forall_mem_cons, List.forall_mem_cons,
        List.forall_mem_cons, forall_mem_memberTokens_iff (next :: more),
        List.forall_mem_cons (l := next :: more)]
      · refine and_congr (and_congr_right fun _ => and_iff_right trivial) (and_iff_right trivial)
      · exact List.cons_ne_nil next more

@[simp] theorem isGrammatical_array_iff {items : List Document} :
    (array items).IsGrammatical ↔ ∀ item ∈ items, item.IsGrammatical := by
  rw [← forall_mem_itemTokens_iff, IsGrammatical, tokens, List.forall_mem_append,
    List.forall_mem_cons, List.forall_mem_singleton]
  exact (and_iff_left trivial).trans (and_iff_right trivial)

@[simp] theorem isGrammatical_object_iff {members : List (List Char × Document)} :
    (object members).IsGrammatical ↔
      ∀ member ∈ members, IsLiteral member.1 ∧ member.2.IsGrammatical := by
  rw [← forall_mem_memberTokens_iff, IsGrammatical, tokens, List.forall_mem_append,
    List.forall_mem_cons, List.forall_mem_singleton]
  exact (and_iff_left trivial).trans (and_iff_right trivial)

@[simp] theorem isGrammatical_null : null.IsGrammatical :=
  List.forall_mem_singleton.2 trivial

@[simp] theorem isGrammatical_bool (value : Bool) : (bool value).IsGrammatical :=
  List.forall_mem_singleton.2 trivial

@[simp] theorem isGrammatical_text (content : String) : (text content).IsGrammatical :=
  List.forall_mem_singleton.2 (isLiteral_escape content.toList)

@[simp] theorem isGrammatical_int (n : Int) : (int n).IsGrammatical :=
  List.forall_mem_singleton.2 (Numeral.isWellFormed_ofInt n)

@[simp] theorem isGrammatical_record_iff {members : List (String × Document)} :
    (record members).IsGrammatical ↔ ∀ member ∈ members, member.2.IsGrammatical := by
  rw [record, isGrammatical_object_iff, List.forall_mem_map]
  exact forall₂_congr fun member _ => and_iff_right (isLiteral_escape member.1.toList)

end Document

namespace Spaced

variable {tokens : List Token} {rest : List Char}

theorem cons (hrest : Spaced tokens rest) (token : Token) {spelling : List Char}
    (hspelling : token.Spells spelling) : Spaced (token :: tokens) (spelling ++ rest) :=
  .token (List.forall_mem_nil _) hspelling hrest

/-- More white space may come first. -/
theorem blank_append {space : List Char} (hspace : ∀ c ∈ space, isSpace c = true)
    (h : Spaced tokens rest) : Spaced tokens (space ++ rest) := by
  cases h with
  | blank hrest => exact .blank (List.forall_mem_append.2 ⟨hspace, hrest⟩)
  | token hbefore hspelling hrest =>
      rw [← List.append_assoc, ← List.append_assoc]
      exact .token (List.forall_mem_append.2 ⟨hspace, hbefore⟩) hspelling hrest

end Spaced

namespace Document

/-! ## On one line -/

mutual

theorem spaced_compact (document : Document) (h : document.IsGrammatical) {behind : List Token}
    {rest : List Char} (hrest : Spaced behind rest) :
    Spaced (document.tokens ++ behind) (document.compact ++ rest) := by
  match document with
  | .null => exact hrest.cons _ rfl
  | .bool true => exact hrest.cons _ rfl
  | .bool false => exact hrest.cons _ rfl
  | .number n => exact hrest.cons _ ⟨h _ List.mem_cons_self, Or.inl rfl⟩
  | .string spelling => exact hrest.cons _ ⟨h _ List.mem_cons_self, rfl⟩
  | .array items =>
      have hinside := spaced_compactItems items (isGrammatical_array_iff.1 h)
        (hrest.cons .closeArray rfl)
      simpa [tokens, compact] using hinside.cons .openArray rfl
  | .object members =>
      have hinside := spaced_compactMembers members (isGrammatical_object_iff.1 h)
        (hrest.cons .closeObject rfl)
      simpa [tokens, compact] using hinside.cons .openObject rfl

theorem spaced_compactItems (items : List Document) (h : ∀ item ∈ items, item.IsGrammatical)
    {behind : List Token} {rest : List Char} (hrest : Spaced behind rest) :
    Spaced (itemTokens items ++ behind) (compactItems items ++ rest) := by
  match items with
  | [] => exact hrest
  | [item] => exact spaced_compact item (h item List.mem_cons_self) hrest
  | item :: next :: more =>
      rw [List.forall_mem_cons] at h
      have hmore := spaced_compactItems (next :: more) h.2 hrest
      simpa [itemTokens, compactItems] using
        spaced_compact item h.1 (hmore.cons .comma rfl)

theorem spaced_compactMembers (members : List (List Char × Document))
    (h : ∀ member ∈ members, IsLiteral member.1 ∧ member.2.IsGrammatical)
    {behind : List Token} {rest : List Char} (hrest : Spaced behind rest) :
    Spaced (memberTokens members ++ behind) (compactMembers members ++ rest) := by
  match members with
  | [] => exact hrest
  | [(name, value)] =>
      obtain ⟨hname, hvalue⟩ := h _ List.mem_cons_self
      have hinside := spaced_compact value hvalue hrest
      simpa [memberTokens, compactMembers] using
        (hinside.cons .colon rfl).cons (.literal name) ⟨hname, rfl⟩
  | (name, value) :: next :: more =>
      rw [List.forall_mem_cons] at h
      have hmore := spaced_compactMembers (next :: more) h.2 hrest
      have hinside := spaced_compact value h.1.2 (hmore.cons .comma rfl)
      simpa [memberTokens, compactMembers] using
        (hinside.cons .colon rfl).cons (.literal name) ⟨h.1.1, rfl⟩

end

/-! ## With line breaks -/

theorem isSpace_of_mem_newLine (level : Nat) : ∀ c ∈ newLine level, isSpace c = true := by
  intro c hc
  rcases List.mem_cons.1 hc with rfl | hc
  · rfl
  · rw [List.eq_of_mem_replicate hc]
    rfl

mutual

theorem spaced_prettyAt (level : Nat) (document : Document) (h : document.IsGrammatical)
    {behind : List Token} {rest : List Char} (hrest : Spaced behind rest) :
    Spaced (document.tokens ++ behind) (prettyAt level document ++ rest) := by
  match document with
  | .null => exact hrest.cons _ rfl
  | .bool true => exact hrest.cons _ rfl
  | .bool false => exact hrest.cons _ rfl
  | .number n => exact hrest.cons _ ⟨h _ List.mem_cons_self, Or.inl rfl⟩
  | .string spelling => exact hrest.cons _ ⟨h _ List.mem_cons_self, rfl⟩
  | .array [] =>
      have hclose := hrest.cons .closeArray rfl
      simpa [tokens, prettyAt, itemTokens] using hclose.cons .openArray rfl
  | .array (item :: more) =>
      have hinside := spaced_prettyItems (level + 1) (item :: more) (isGrammatical_array_iff.1 h)
        ((hrest.cons .closeArray rfl).blank_append (isSpace_of_mem_newLine level))
      simpa [tokens, prettyAt] using hinside.cons .openArray rfl
  | .object [] =>
      have hclose := hrest.cons .closeObject rfl
      simpa [tokens, prettyAt, memberTokens] using hclose.cons .openObject rfl
  | .object (member :: more) =>
      have hinside := spaced_prettyMembers (level + 1) (member :: more)
        (isGrammatical_object_iff.1 h)
        ((hrest.cons .closeObject rfl).blank_append (isSpace_of_mem_newLine level))
      simpa [tokens, prettyAt] using hinside.cons .openObject rfl

theorem spaced_prettyItems (level : Nat) (items : List Document)
    (h : ∀ item ∈ items, item.IsGrammatical) {behind : List Token} {rest : List Char}
    (hrest : Spaced behind rest) :
    Spaced (itemTokens items ++ behind) (prettyItems level items ++ rest) := by
  match items with
  | [] => exact hrest
  | [item] =>
      have hitem := spaced_prettyAt level item (h item List.mem_cons_self) hrest
      simpa [itemTokens, prettyItems] using hitem.blank_append (isSpace_of_mem_newLine level)
  | item :: next :: more =>
      rw [List.forall_mem_cons] at h
      have hmore := spaced_prettyItems level (next :: more) h.2 hrest
      have hitem := spaced_prettyAt level item h.1 (hmore.cons .comma rfl)
      simpa [itemTokens, prettyItems] using hitem.blank_append (isSpace_of_mem_newLine level)

theorem spaced_prettyMembers (level : Nat) (members : List (List Char × Document))
    (h : ∀ member ∈ members, IsLiteral member.1 ∧ member.2.IsGrammatical)
    {behind : List Token} {rest : List Char} (hrest : Spaced behind rest) :
    Spaced (memberTokens members ++ behind) (prettyMembers level members ++ rest) := by
  have hspace : ∀ c ∈ [' '], isSpace c = true := List.forall_mem_singleton.2 rfl
  match members with
  | [] => exact hrest
  | [(name, value)] =>
      obtain ⟨hname, hvalue⟩ := h _ List.mem_cons_self
      have hinside := (spaced_prettyAt level value hvalue hrest).blank_append hspace
      have hmember := (hinside.cons .colon rfl).cons (.literal name) ⟨hname, rfl⟩
      simpa [memberTokens, prettyMembers] using hmember.blank_append (isSpace_of_mem_newLine level)
  | (name, value) :: next :: more =>
      rw [List.forall_mem_cons] at h
      have hmore := spaced_prettyMembers level (next :: more) h.2 hrest
      have hinside := (spaced_prettyAt level value h.1.2
        (hmore.cons .comma rfl)).blank_append hspace
      have hmember := (hinside.cons .colon rfl).cons (.literal name)
        ⟨h.1.1, rfl⟩
      simpa [memberTokens, prettyMembers] using hmember.blank_append (isSpace_of_mem_newLine level)

end

/-! ## The whole text -/

/-- The text on one line spells the document. -/
theorem spaced_toText {document : Document} (h : document.IsGrammatical) :
    Spaced document.tokens document.toText.toList := by
  have hprinted := spaced_compact document h (.blank (List.forall_mem_nil _))
  simpa [toText] using hprinted

/-- So does the text with line breaks, also with more white space behind it. -/
theorem spaced_toPrettyText_append {document : Document} (h : document.IsGrammatical)
    {space : String} (hspace : ∀ c ∈ space.toList, isSpace c = true) :
    Spaced document.tokens (document.toPrettyText ++ space).toList := by
  have hprinted := spaced_prettyAt 0 document h (.blank hspace)
  simpa [toPrettyText] using hprinted

end Document
end Json
end ChannelCatalog
