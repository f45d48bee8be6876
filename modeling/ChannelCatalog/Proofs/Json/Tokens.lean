import ChannelCatalog.Proofs.Json.Literal
import ChannelCatalog.Proofs.Json.Numeral

/-!
# Texts of a document

A document is written as a row of tokens with white space before, between and behind them
(`Spaced`).  Every such text is read as the document.  The two printed forms are among them: one has
no white space at all, and the other has line breaks and indents where they make it legible.
-/

namespace ChannelCatalog
namespace Json

/-- The smallest parts of a text, between which there may be white space. -/
inductive Token
  | openArray
  | closeArray
  | openObject
  | closeObject
  | comma
  | colon
  | null
  | bool (value : Bool)
  | literal (spelling : List Char)
  | numeral (numeral : Numeral)

/-- The characters of a token.  A numeral may have either letter before its exponent. -/
def Token.Spells : Token → List Char → Prop
  | .openArray, text => text = ['[']
  | .closeArray, text => text = [']']
  | .openObject, text => text = ['{']
  | .closeObject, text => text = ['}']
  | .comma, text => text = [',']
  | .colon, text => text = [':']
  | .null, text => text = ['n', 'u', 'l', 'l']
  | .bool true, text => text = ['t', 'r', 'u', 'e']
  | .bool false, text => text = ['f', 'a', 'l', 's', 'e']
  | .literal spelling, text => IsLiteral spelling ∧ text = Document.quote spelling
  | .numeral n, text => n.IsWellFormed ∧ (text = n.spellingWith 'e' ∨ text = n.spellingWith 'E')

/-- The tokens with white space before each of them and behind the last. -/
inductive Spaced : List Token → List Char → Prop
  | blank {space : List Char} (hspace : ∀ c ∈ space, isSpace c = true) : Spaced [] space
  | token {space spelling rest : List Char} {token : Token} {tokens : List Token}
      (hspace : ∀ c ∈ space, isSpace c = true) (hspelling : token.Spells spelling)
      (hrest : Spaced tokens rest) : Spaced (token :: tokens) (space ++ spelling ++ rest)

namespace Document

mutual

/-- The tokens of a document, from left to right. -/
def tokens : Document → List Token
  | .null => [.null]
  | .bool value => [.bool value]
  | .number n => [.numeral n]
  | .string spelling => [.literal spelling]
  | .array items => .openArray :: itemTokens items ++ [.closeArray]
  | .object members => .openObject :: memberTokens members ++ [.closeObject]

/-- The tokens of items, with commas between them. -/
def itemTokens : List Document → List Token
  | [] => []
  | [item] => item.tokens
  | item :: rest => item.tokens ++ .comma :: itemTokens rest

/-- The tokens of members, with commas between them. -/
def memberTokens : List (List Char × Document) → List Token
  | [] => []
  | [(name, value)] => .literal name :: .colon :: value.tokens
  | (name, value) :: rest =>
    .literal name :: .colon :: value.tokens ++ .comma :: memberTokens rest

end

end Document

/-! ## White space and tokens -/

theorem skipSpace_append {space : List Char} (hspace : ∀ c ∈ space, isSpace c = true)
    (rest : List Char) : skipSpace (space ++ rest) = skipSpace rest :=
  List.dropWhile_append_of_pos hspace

/-- No token is empty, and none begins with white space. -/
theorem Token.Spells.exists_cons {token : Token} {spelling : List Char}
    (h : token.Spells spelling) : ∃ c more, spelling = c :: more ∧ isSpace c = false := by
  cases token with
  | bool value => cases value <;> exact ⟨_, _, h, rfl⟩
  | literal spelling => exact ⟨_, _, h.2, rfl⟩
  | numeral n =>
      obtain ⟨hn, hspelling⟩ := h
      have hfirst : ∀ letter, ∃ c more, n.spellingWith letter = c :: more ∧ isSpace c = false := by
        intro letter
        obtain ⟨c, more, hcons, hc⟩ := Numeral.exists_spellingWith_eq_cons hn letter
        refine ⟨c, more, hcons, Bool.eq_false_iff.2 fun hspace => ?_⟩
        simp only [isSpace, Bool.or_eq_true, decide_eq_true_eq] at hspace
        rcases hspace with ((rfl | rfl) | rfl) | rfl <;> rcases hc with hc | hc <;> cases hc
      rcases hspelling with rfl | rfl
      · exact hfirst 'e'
      · exact hfirst 'E'
  | _ => exact ⟨_, _, h, rfl⟩

namespace Spaced

variable {tokens : List Token} {token : Token} {text : List Char}

theorem skipSpace_eq_nil (h : Spaced [] text) : skipSpace text = [] := by
  cases h with
  | blank hspace =>
      have hskip := skipSpace_append hspace []
      rwa [List.append_nil] at hskip

/-- Behind the white space comes the first token. -/
theorem exists_skipSpace_eq (h : Spaced (token :: tokens) text) :
    ∃ spelling rest, skipSpace text = spelling ++ rest ∧ token.Spells spelling ∧
      Spaced tokens rest ∧ rest.length < text.length := by
  cases h with
  | @token space spelling rest _ _ hspace hspelling hrest =>
      obtain ⟨c, more, rfl, hc⟩ := hspelling.exists_cons
      refine ⟨c :: more, rest, ?_, hspelling, hrest, by simp; omega⟩
      rw [List.append_assoc, skipSpace_append hspace]
      exact List.dropWhile_cons_of_neg (by simp [hc])

theorem length_pos (h : Spaced (token :: tokens) text) : 0 < text.length := by
  obtain ⟨_, rest, -, -, -, hshorter⟩ := h.exists_skipSpace_eq
  omega

/-- The mark that a token is stands behind the white space. -/
theorem exists_skipSpace_eq_cons {mark : Char} (hmark : ∀ s, token.Spells s ↔ s = [mark])
    (h : Spaced (token :: tokens) text) :
    ∃ rest, skipSpace text = mark :: rest ∧ Spaced tokens rest ∧ rest.length < text.length := by
  obtain ⟨spelling, rest, hskip, hspelling, hrest, hshorter⟩ := h.exists_skipSpace_eq
  obtain rfl := (hmark spelling).1 hspelling
  exact ⟨rest, hskip, hrest, hshorter⟩

end Spaced

/-- Tokens that can stand behind a value. -/
def Token.IsDivider : Token → Prop
  | .closeArray | .closeObject | .comma => True
  | _ => False

/-- A numeral ends before white space and before what divides values. -/
theorem Spaced.endsNumeral {tokens : List Token} {text : List Char} (h : Spaced tokens text)
    (hdivider : ∀ token ∈ tokens.head?, token.IsDivider) : EndsNumeral text := by
  have hspaces : ∀ c, isSpace c = true → c.isDigit = false ∧ c ≠ '.' ∧ c ≠ 'e' ∧ c ≠ 'E' := by
    intro c hc
    simp only [isSpace, Bool.or_eq_true, decide_eq_true_eq] at hc
    rcases hc with ((rfl | rfl) | rfl) | rfl <;> decide
  intro c hc
  cases h with
  | blank hspace => exact hspaces c (hspace c (List.mem_of_mem_head? hc))
  | @token space spelling rest token tokens hspace hspelling hrest =>
      cases space with
      | cons first more =>
          obtain rfl : first = c := Option.some.inj hc
          exact hspaces first (hspace first List.mem_cons_self)
      | nil =>
          have hmark := hdivider token rfl
          cases token with
          | closeArray | closeObject | comma =>
              obtain rfl : spelling = _ := hspelling
              obtain rfl := Option.some.inj hc
              decide
          | _ => exact hmark.elim

/-! ## Steps of the reader -/

section Reader

variable {fuel : Nat} {text rest after last : List Char}

/-- A numeral is told from other values by its first character. -/
theorem readValue_numeral_append {n : Numeral} (hn : n.IsWellFormed) {letter : Char}
    (hletter : letter = 'e' ∨ letter = 'E') (hrest : EndsNumeral rest) :
    readValue (fuel + 1) (n.spellingWith letter ++ rest) = some (.number n, rest) := by
  have hread := Numeral.readNumeral_append hn hletter hrest
  obtain ⟨first, more, hspelling, hfirst⟩ := Numeral.exists_spellingWith_eq_cons hn letter
  have hother : ∀ c, c.isDigit = false → c ≠ '-' → first ≠ c := by
    rintro c hdigit hsign rfl
    rcases hfirst with h | h
    · exact hsign h
    · exact Bool.false_ne_true (hdigit.symm.trans h)
  rw [hspelling, List.cons_append] at hread ⊢
  rw [readValue]
  · simp [hread]
  all_goals
    intro _ h
    exact hother _ (by decide) (by decide) (List.cons.inj h).1

/-- No value begins with the bracket that closes an array. -/
theorem readItems_closeArray : readItems fuel (']' :: rest) = none := by
  cases fuel with
  | zero => rfl
  | succ fuel =>
      cases fuel with
      | zero => rfl
      | succ fuel => simp [readItems, readValue, readNumeral, readUnsigned, readWhole, readDigits]

/-- No member begins with the brace that closes an object. -/
theorem readMembers_closeObject : readMembers fuel ('}' :: rest) = none := by
  cases fuel with
  | zero => rfl
  | succ fuel => simp [readMembers]

theorem readValue_array_nil (hclose : skipSpace rest = ']' :: after) :
    readValue (fuel + 1) ('[' :: rest) = some (.array [], after) := by
  simp [readValue, hclose]

theorem readValue_object_nil (hclose : skipSpace rest = '}' :: after) :
    readValue (fuel + 1) ('{' :: rest) = some (.object [], after) := by
  simp [readValue, hclose]

theorem readValue_array {items : List Document}
    (hread : readItems fuel (skipSpace rest) = some (items, after)) :
    readValue (fuel + 1) ('[' :: rest) = some (.array items, after) := by
  rw [readValue]
  split
  · rename_i hclose
    rw [hclose, readItems_closeArray] at hread
    cases hread
  · simp [hread]

theorem readValue_object {members : List (List Char × Document)}
    (hread : readMembers fuel (skipSpace rest) = some (members, after)) :
    readValue (fuel + 1) ('{' :: rest) = some (.object members, after) := by
  rw [readValue]
  split
  · rename_i hclose
    rw [hclose, readMembers_closeObject] at hread
    cases hread
  · simp [hread]

theorem readItems_last {item : Document} (hitem : readValue fuel text = some (item, rest))
    (hclose : skipSpace rest = ']' :: after) :
    readItems (fuel + 1) text = some ([item], after) := by
  simp [readItems, hitem, hclose]

theorem readItems_cons {item : Document} {items : List Document}
    (hitem : readValue fuel text = some (item, rest)) (hcomma : skipSpace rest = ',' :: after)
    (hitems : readItems fuel (skipSpace after) = some (items, last)) :
    readItems (fuel + 1) text = some (item :: items, last) := by
  simp [readItems, hitem, hcomma, hitems]

section Members

variable {name : List Char} {value : Document} {colon start : List Char}

theorem readMembers_last (hname : IsLiteral name)
    (hcolon : skipSpace colon = ':' :: start)
    (hvalue : readValue fuel (skipSpace start) = some (value, rest))
    (hclose : skipSpace rest = '}' :: after) :
    readMembers (fuel + 1) (Document.quote name ++ colon) = some ([(name, value)], after) := by
  simp [readMembers, Document.quote, readLiteral_append hname, hcolon, hvalue, hclose]

theorem readMembers_cons (hname : IsLiteral name)
    (hcolon : skipSpace colon = ':' :: start)
    (hvalue : readValue fuel (skipSpace start) = some (value, rest))
    (hcomma : skipSpace rest = ',' :: after) {members : List (List Char × Document)}
    (hmembers : readMembers fuel (skipSpace after) = some (members, last)) :
    readMembers (fuel + 1) (Document.quote name ++ colon) =
      some ((name, value) :: members, last) := by
  simp [readMembers, Document.quote, readLiteral_append hname, hcolon, hvalue, hcomma, hmembers]

end Members

end Reader

/-! ## Reading documents -/

open Document

/-- A value of one token is read if its spelling is. -/
theorem Spaced.exists_readValue {document : Document} {token : Token} {tokens : List Token}
    {text : List Char} (h : Spaced (token :: tokens) text)
    (hread : ∀ {fuel : Nat} {spelling rest : List Char}, token.Spells spelling →
      Spaced tokens rest → readValue (fuel + 1) (spelling ++ rest) = some (document, rest))
    {fuel : Nat} (hfuel : 2 * text.length ≤ fuel) :
    ∃ rest, readValue fuel (skipSpace text) = some (document, rest) ∧ Spaced tokens rest ∧
      rest.length < text.length := by
  obtain ⟨spelling, rest, hskip, hspelling, hrest, hshorter⟩ := h.exists_skipSpace_eq
  obtain ⟨left, rfl⟩ : ∃ left, fuel = left + 1 := ⟨fuel - 1, by omega⟩
  exact ⟨rest, hskip ▸ hread hspelling hrest, hrest, hshorter⟩

mutual

/-- A value is read from its tokens, and what is behind them is left. -/
theorem readValue_of_spaced (document : Document) {fuel : Nat} {tokens : List Token}
    {text : List Char} (h : Spaced (document.tokens ++ tokens) text)
    (hdivider : ∀ token ∈ tokens.head?, token.IsDivider) (hfuel : 2 * text.length ≤ fuel) :
    ∃ rest, readValue fuel (skipSpace text) = some (document, rest) ∧ Spaced tokens rest ∧
      rest.length < text.length := by
  match document with
  | .null =>
      refine h.exists_readValue (fun hspelling _ => ?_) hfuel
      obtain rfl := hspelling
      simp [readValue]
  | .bool true =>
      refine h.exists_readValue (fun hspelling _ => ?_) hfuel
      obtain rfl := hspelling
      simp [readValue]
  | .bool false =>
      refine h.exists_readValue (fun hspelling _ => ?_) hfuel
      obtain rfl := hspelling
      simp [readValue]
  | .number n =>
      refine h.exists_readValue (fun hspelling hrest => ?_) hfuel
      obtain ⟨hn, rfl | rfl⟩ := hspelling
      · exact readValue_numeral_append hn (Or.inl rfl) (hrest.endsNumeral hdivider)
      · exact readValue_numeral_append hn (Or.inr rfl) (hrest.endsNumeral hdivider)
  | .string spelling =>
      refine h.exists_readValue (fun hspelling _ => ?_) hfuel
      obtain ⟨hliteral, rfl⟩ := hspelling
      simp [readValue, quote, readLiteral_append hliteral]
  | .array items =>
      have hlength := h.length_pos
      obtain ⟨left, rfl⟩ : ∃ left, fuel = left + 1 := ⟨fuel - 1, by omega⟩
      simp only [Document.tokens, List.cons_append, List.append_assoc, List.nil_append] at h
      obtain ⟨inner, hopen, hinner, hinside⟩ := h.exists_skipSpace_eq_cons fun _ => Iff.rfl
      rw [hopen]
      cases items with
      | nil =>
          obtain ⟨rest, hclose, hrest, hshorter⟩ := hinner.exists_skipSpace_eq_cons fun _ => Iff.rfl
          exact ⟨rest, readValue_array_nil hclose, hrest, by omega⟩
      | cons item more =>
          have hfuel' : 2 * inner.length + 1 ≤ left := by omega
          obtain ⟨rest, hread, hrest, hshorter⟩ :=
            readItems_of_spaced (item :: more) (List.cons_ne_nil item more) hinner hfuel'
          exact ⟨rest, readValue_array hread, hrest, by omega⟩
  | .object members =>
      have hlength := h.length_pos
      obtain ⟨left, rfl⟩ : ∃ left, fuel = left + 1 := ⟨fuel - 1, by omega⟩
      simp only [Document.tokens, List.cons_append, List.append_assoc, List.nil_append] at h
      obtain ⟨inner, hopen, hinner, hinside⟩ := h.exists_skipSpace_eq_cons fun _ => Iff.rfl
      rw [hopen]
      cases members with
      | nil =>
          obtain ⟨rest, hclose, hrest, hshorter⟩ := hinner.exists_skipSpace_eq_cons fun _ => Iff.rfl
          exact ⟨rest, readValue_object_nil hclose, hrest, by omega⟩
      | cons member more =>
          have hfuel' : 2 * inner.length + 1 ≤ left := by omega
          obtain ⟨rest, hread, hrest, hshorter⟩ :=
            readMembers_of_spaced (member :: more) (List.cons_ne_nil member more) hinner hfuel'
          exact ⟨rest, readValue_object hread, hrest, by omega⟩

/-- Items are read up to the bracket behind them. -/
theorem readItems_of_spaced (items : List Document) (hsome : items ≠ []) {fuel : Nat}
    {tokens : List Token} {text : List Char}
    (h : Spaced (itemTokens items ++ .closeArray :: tokens) text)
    (hfuel : 2 * text.length + 1 ≤ fuel) :
    ∃ rest, readItems fuel (skipSpace text) = some (items, rest) ∧ Spaced tokens rest ∧
      rest.length < text.length := by
  obtain ⟨left, rfl⟩ : ∃ left, fuel = left + 1 := ⟨fuel - 1, by omega⟩
  have hvalue : 2 * text.length ≤ left := by omega
  match items with
  | [] => exact absurd rfl hsome
  | [item] =>
      obtain ⟨behind, hread, hbehind, hread'⟩ :=
        readValue_of_spaced item h (by simp [Token.IsDivider]) hvalue
      obtain ⟨rest, hclose, hrest, hshorter⟩ := hbehind.exists_skipSpace_eq_cons fun _ => Iff.rfl
      exact ⟨rest, readItems_last hread hclose, hrest, by omega⟩
  | item :: next :: more =>
      simp only [itemTokens, List.append_assoc, List.cons_append] at h
      obtain ⟨behind, hread, hbehind, hread'⟩ :=
        readValue_of_spaced item h (by simp [Token.IsDivider]) hvalue
      obtain ⟨start, hcomma, hstart, hcomma'⟩ := hbehind.exists_skipSpace_eq_cons fun _ => Iff.rfl
      have hfuel' : 2 * start.length + 1 ≤ left := by omega
      obtain ⟨rest, hmore, hrest, hshorter⟩ :=
        readItems_of_spaced (next :: more) (List.cons_ne_nil next more) hstart hfuel'
      exact ⟨rest, readItems_cons hread hcomma hmore, hrest, by omega⟩

/-- Members are read up to the brace behind them. -/
theorem readMembers_of_spaced (members : List (List Char × Document)) (hsome : members ≠ [])
    {fuel : Nat} {tokens : List Token} {text : List Char}
    (h : Spaced (memberTokens members ++ .closeObject :: tokens) text)
    (hfuel : 2 * text.length + 1 ≤ fuel) :
    ∃ rest, readMembers fuel (skipSpace text) = some (members, rest) ∧ Spaced tokens rest ∧
      rest.length < text.length := by
  obtain ⟨left, rfl⟩ : ∃ left, fuel = left + 1 := ⟨fuel - 1, by omega⟩
  match members with
  | [] => exact absurd rfl hsome
  | [(name, value)] =>
      simp only [memberTokens, List.cons_append] at h
      obtain ⟨_, colon, hskip, ⟨hliteral, rfl⟩, hname, hname'⟩ := h.exists_skipSpace_eq
      obtain ⟨start, hcolon, hstart, hcolon'⟩ := hname.exists_skipSpace_eq_cons fun _ => Iff.rfl
      have hvalue : 2 * start.length ≤ left := by omega
      obtain ⟨behind, hread, hbehind, hread'⟩ :=
        readValue_of_spaced value hstart (by simp [Token.IsDivider]) hvalue
      obtain ⟨rest, hclose, hrest, hshorter⟩ := hbehind.exists_skipSpace_eq_cons fun _ => Iff.rfl
      exact ⟨rest, hskip ▸ readMembers_last hliteral hcolon hread hclose, hrest, by omega⟩
  | (name, value) :: next :: more =>
      simp only [memberTokens, List.cons_append, List.append_assoc] at h
      obtain ⟨_, colon, hskip, ⟨hliteral, rfl⟩, hname, hname'⟩ := h.exists_skipSpace_eq
      obtain ⟨start, hcolon, hstart, hcolon'⟩ := hname.exists_skipSpace_eq_cons fun _ => Iff.rfl
      have hvalue : 2 * start.length ≤ left := by omega
      obtain ⟨behind, hread, hbehind, hread'⟩ :=
        readValue_of_spaced value hstart (by simp [Token.IsDivider]) hvalue
      obtain ⟨second, hcomma, hsecond, hcomma'⟩ := hbehind.exists_skipSpace_eq_cons fun _ => Iff.rfl
      have hfuel' : 2 * second.length + 1 ≤ left := by omega
      obtain ⟨rest, hmore, hrest, hshorter⟩ :=
        readMembers_of_spaced (next :: more) (List.cons_ne_nil next more) hsecond hfuel'
      exact ⟨rest, hskip ▸ readMembers_cons hliteral hcolon hread hcomma hmore, hrest, by omega⟩

end

/-- **A text is read as the document whose tokens it spells**, wherever it has white space between
them. -/
theorem parse?_of_spaced {document : Document} {text : String}
    (h : Spaced document.tokens text.toList) : parse? text = some document := by
  have h : Spaced (document.tokens ++ []) text.toList := (List.append_nil _).symm ▸ h
  obtain ⟨rest, hread, hrest, -⟩ := readValue_of_spaced document h (by simp) (Nat.le_add_right _ 2)
  simp [parse?, hread, hrest.skipSpace_eq_nil]

end Json
end ChannelCatalog
