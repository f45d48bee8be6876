import ChannelCatalog.ChannelId
import ChannelCatalog.Proofs.Json.Numeral
import ChannelCatalog.Proofs.Text.Trimming

/-!
# Identifiers as numerals

A text is an identifier if there is nothing but a numeral between the blanks at its ends: digits after
at most one sign (`ChannelId.Spells`).  The number is built up digit by digit, and each step has to stay in
the range of the keys.  It grows away from zero, so it stays there if it ends there.  If a text is
refused, the first character that cannot be read on is to blame (`ChannelId.Faults`).
-/

namespace ChannelCatalog
namespace ChannelId

open Json (IsDigits)

/-- A number with a magnitude and a sign. -/
def withSign (negative : Bool) (magnitude : Nat) : Int :=
  if negative then -magnitude else magnitude

/-- The number that digits spell, with the given sign. -/
def signed (negative : Bool) (digits : List Char) : Int :=
  withSign negative (Nat.ofDigitChars 10 digits 0)

/-- The numerals of a number: one digit or more, after at most one sign. -/
inductive Spells : List Char → Int → Prop
  | unsigned {digits : List Char} (h : IsDigits digits) : Spells digits (signed false digits)
  | plus {digits : List Char} (h : IsDigits digits) : Spells ('+' :: digits) (signed false digits)
  | minus {digits : List Char} (h : IsDigits digits) : Spells ('-' :: digits) (signed true digits)

/-- Whether a text has a minus sign, and what comes after its sign if it has one. -/
def splitSign : List Char → Bool × List Char
  | '+' :: digits => (false, digits)
  | '-' :: digits => (true, digits)
  | digits => (false, digits)

/-! ## Positions that cannot be read -/

/-- The number leaves the range at a character: when what was read before is moved up by one place,
or when the digit is added. -/
def OverflowsAt (negative : Bool) (before : List Char) (c : Char) : Prop :=
  ¬ InRange (signed negative before * 10) ∨
    c.isDigit = true ∧ ¬ InRange (signed negative (before ++ [c]))

/-- A character cannot be read after digits: it is no digit, or the number leaves the range. -/
def FailsAt (negative : Bool) (before : List Char) (c : Char) : Prop :=
  c.isDigit = false ∨ OverflowsAt negative before c

/-- What is wrong with a character that cannot be read.  That it is no digit comes first. -/
def kindAt (negative : Bool) (c : Char) : ParseError :=
  if c.isDigit then (if negative then .tooSmall else .tooLarge) else .invalidDigit

/-- What is wrong with a row of characters that follows digits: the kind of the first one that cannot
be read. -/
def FirstFault (negative : Bool) (before rest : List Char) (error : ParseError) : Prop :=
  ∃ read c after, rest = read ++ c :: after ∧ FailsAt negative (before ++ read) c ∧
    (∀ earlier d later, read = earlier ++ d :: later → ¬ FailsAt negative (before ++ earlier) d) ∧
    error = kindAt negative c

/-- What is wrong with a text that is no numeral of a key. -/
inductive Faults : List Char → ParseError → Prop
  | empty : Faults [] .empty
  | loneSign {sign : Char} (h : sign = '+' ∨ sign = '-') : Faults [sign] .invalidDigit
  | position {body : List Char} {negative : Bool} {digits : List Char} {error : ParseError}
      (hsplit : splitSign body = (negative, digits)) (hfirst : FirstFault negative [] digits error) :
      Faults body error

/-! ## Numbers of digits -/

theorem toNat_of_isDigit {c : Char} (hc : c.isDigit = true) : 48 ≤ c.toNat ∧ c.toNat ≤ 57 := by
  simp only [Char.isDigit, Bool.and_eq_true, decide_eq_true_eq] at hc
  exact hc

theorem ofDigitChars_concat (before : List Char) (c : Char) :
    Nat.ofDigitChars 10 (before ++ [c]) 0 =
      Nat.ofDigitChars 10 before 0 * 10 + (c.toNat - '0'.toNat) := by
  rw [Nat.ofDigitChars_append, Nat.ofDigitChars_cons, Nat.ofDigitChars_nil, Nat.mul_comm]

theorem le_ofDigitChars (digits : List Char) (value : Nat) :
    value ≤ Nat.ofDigitChars 10 digits value := by
  induction digits generalizing value with
  | nil => exact Nat.le_refl _
  | cons c rest ih =>
      have hstep : value ≤ 10 * value + (c.toNat - '0'.toNat) := by omega
      rw [Nat.ofDigitChars_cons]
      exact Nat.le_trans hstep (ih _)

/-- Numbers between zero and a key are keys. -/
theorem inRange_withSign_of_le {negative : Bool} {small large : Nat} (hle : small ≤ large)
    (h : InRange (withSign negative large)) : InRange (withSign negative small) := by
  obtain ⟨hlow, hhigh⟩ := h
  cases negative with
  | false =>
      have hhigh : (large : Int) < 0x8000000000000000 := hhigh
      show -0x8000000000000000 ≤ (small : Int) ∧ (small : Int) < 0x8000000000000000
      omega
  | true =>
      have hlow : -0x8000000000000000 ≤ -(large : Int) := hlow
      show -0x8000000000000000 ≤ -(small : Int) ∧ -(small : Int) < 0x8000000000000000
      omega

@[simp] theorem signed_nil (negative : Bool) : signed negative [] = 0 := by
  cases negative <;> rfl

/-- A further digit moves those before it up by one place. -/
theorem signed_concat (negative : Bool) (before : List Char) {c : Char} (hc : c.isDigit = true) :
    signed negative (before ++ [c]) =
      if negative then signed negative before * 10 - ((c.toNat : Int) - '0'.toNat)
      else signed negative before * 10 + ((c.toNat : Int) - '0'.toNat) := by
  have hzero : '0'.toNat ≤ c.toNat := (toNat_of_isDigit hc).1
  rw [signed, signed, ofDigitChars_concat]
  cases negative with
  | false => simp only [withSign, Bool.false_eq_true, if_false]; omega
  | true => simp only [withSign, if_true]; omega

/-- **A number that ends in the range has been there all the time.** -/
theorem inRange_of_append {negative : Bool} {before rest : List Char}
    (h : InRange (signed negative (before ++ rest))) : InRange (signed negative before) := by
  refine inRange_withSign_of_le ?_ h
  rw [Nat.ofDigitChars_append]
  exact le_ofDigitChars rest _

/-- For a digit both ways to leave the range come to one, since it leads further away from zero. -/
theorem failsAt_of_isDigit {negative : Bool} {before : List Char} {c : Char} (hc : c.isDigit = true) :
    FailsAt negative before c ↔ ¬ InRange (signed negative (before ++ [c])) := by
  constructor
  · rintro (hother | hplace | ⟨-, hdigit⟩)
    · rw [hc] at hother
      cases hother
    · intro hrange
      have hmoved : signed negative before * 10 =
          withSign negative (Nat.ofDigitChars 10 before 0 * 10) := by
        cases negative with
        | false => rfl
        | true => exact Int.neg_mul _ _
      have hle : Nat.ofDigitChars 10 before 0 * 10 ≤ Nat.ofDigitChars 10 (before ++ [c]) 0 := by
        rw [ofDigitChars_concat]
        exact Nat.le_add_right _ _
      exact hplace (hmoved ▸ inRange_withSign_of_le hle hrange)
    · exact hdigit
  · exact fun h => Or.inr (Or.inr ⟨hc, h⟩)

/-! ## Reading digits -/

theorem readDigits_cons_of_isDigit {negative : Bool} {before rest : List Char} {c : Char}
    (hc : c.isDigit = true) :
    readDigits negative (signed negative before) (c :: rest) =
      if InRange (signed negative (before ++ [c])) then
        readDigits negative (signed negative (before ++ [c])) rest
      else .error (if negative then .tooSmall else .tooLarge) := by
  rw [readDigits, if_pos hc, signed_concat negative before hc]

/-- A character that cannot be read decides the error. -/
theorem readDigits_cons_of_failsAt {negative : Bool} {before rest : List Char} {c : Char}
    (h : FailsAt negative before c) :
    readDigits negative (signed negative before) (c :: rest) = .error (kindAt negative c) := by
  cases hc : c.isDigit with
  | false => rw [readDigits, kindAt, hc]; rfl
  | true =>
      rw [readDigits_cons_of_isDigit hc, if_neg ((failsAt_of_isDigit hc).1 h), kindAt, if_pos hc]

/-- A character that can be read is a digit, and the number goes on in the range. -/
theorem readDigits_cons_of_not_failsAt {negative : Bool} {before : List Char} {c : Char}
    (h : ¬ FailsAt negative before c) (rest : List Char) :
    c.isDigit = true ∧ InRange (signed negative (before ++ [c])) ∧
      readDigits negative (signed negative before) (c :: rest) =
        readDigits negative (signed negative (before ++ [c])) rest := by
  have hc : c.isDigit = true := Bool.not_eq_false _ ▸ fun hother => h (Or.inl hother)
  have hrange : InRange (signed negative (before ++ [c])) := by
    by_contra hleft
    exact h ((failsAt_of_isDigit hc).2 hleft)
  exact ⟨hc, hrange, by rw [readDigits_cons_of_isDigit hc, if_pos hrange]⟩

/-- **Digits are read if the number that they spell ends in the range.** -/
theorem readDigits_eq_ok_iff {negative : Bool} {before rest : List Char} {n : Int}
    (hbefore : InRange (signed negative before)) :
    readDigits negative (signed negative before) rest = .ok n ↔
      (∀ c ∈ rest, c.isDigit = true) ∧ n = signed negative (before ++ rest) ∧ InRange n := by
  induction rest generalizing before with
  | nil =>
      rw [readDigits, List.append_nil, Except.ok.injEq]
      constructor
      · rintro rfl
        exact ⟨List.forall_mem_nil _, rfl, hbefore⟩
      · exact fun h => h.2.1.symm
  | cons c more ih =>
      by_cases hfails : FailsAt negative before c
      · rw [readDigits_cons_of_failsAt hfails]
        refine iff_of_false (fun h => by cases h) ?_
        rintro ⟨hdigits, rfl, hrange⟩
        have hc : c.isDigit = true := hdigits c List.mem_cons_self
        rw [List.append_cons] at hrange
        exact (failsAt_of_isDigit hc).1 hfails (inRange_of_append hrange)
      · obtain ⟨hc, hrange, hread⟩ := readDigits_cons_of_not_failsAt hfails more
        rw [hread, ih hrange, List.append_assoc, List.forall_mem_cons]
        exact and_congr_left fun _ => (and_iff_right hc).symm

theorem not_firstFault_nil {negative : Bool} {before : List Char} {error : ParseError} :
    ¬ FirstFault negative before [] error := by
  rintro ⟨read, c, after, hrest, -⟩
  exact List.append_ne_nil_of_right_ne_nil read (List.cons_ne_nil c after) hrest.symm

theorem firstFault_cons_of_failsAt {negative : Bool} {before rest : List Char} {c : Char}
    {error : ParseError} (h : FailsAt negative before c) :
    FirstFault negative before (c :: rest) error ↔ error = kindAt negative c := by
  constructor
  · rintro ⟨read, d, after, hrest, -, hfirst, rfl⟩
    cases read with
    | nil => rw [(List.cons.inj hrest).1]
    | cons first more =>
        -- The character at the front would be read, but it cannot be.
        obtain rfl : c = first := (List.cons.inj hrest).1
        exact absurd h (by simpa using hfirst [] c more rfl)
  · intro herror
    refine ⟨[], c, rest, rfl, (List.append_nil before).symm ▸ h, fun earlier d later hread => ?_, herror⟩
    exact absurd hread.symm (List.append_ne_nil_of_right_ne_nil earlier (List.cons_ne_nil d later))

theorem firstFault_cons_of_not_failsAt {negative : Bool} {before rest : List Char} {c : Char}
    {error : ParseError} (h : ¬ FailsAt negative before c) :
    FirstFault negative before (c :: rest) error ↔ FirstFault negative (before ++ [c]) rest error := by
  constructor
  · rintro ⟨read, d, after, hrest, hfails, hfirst, herror⟩
    cases read with
    | nil =>
        obtain rfl : c = d := (List.cons.inj hrest).1
        exact absurd hfails (by simpa using h)
    | cons first more =>
        obtain ⟨rfl, hmore⟩ := List.cons.inj hrest
        refine ⟨more, d, after, hmore, by rwa [← List.append_cons], fun earlier e later hread => ?_,
          herror⟩
        rw [← List.append_cons]
        exact hfirst (c :: earlier) e later (congrArg (c :: ·) hread)
  · rintro ⟨read, d, after, rfl, hfails, hfirst, herror⟩
    refine ⟨c :: read, d, after, rfl, by rwa [List.append_cons], fun earlier e later hread => ?_,
      herror⟩
    cases earlier with
    | nil =>
        obtain rfl : c = e := (List.cons.inj hread).1
        simpa using h
    | cons first more =>
        obtain ⟨rfl, hmore⟩ := List.cons.inj hread
        rw [List.append_cons]
        exact hfirst more e later hmore

/-- **Otherwise the first character that cannot be read is to blame.** -/
theorem readDigits_eq_error_iff {negative : Bool} {before rest : List Char} {error : ParseError} :
    readDigits negative (signed negative before) rest = .error error ↔
      FirstFault negative before rest error := by
  induction rest generalizing before with
  | nil => exact iff_of_false (fun h => by cases h) not_firstFault_nil
  | cons c more ih =>
      by_cases hfails : FailsAt negative before c
      · rw [readDigits_cons_of_failsAt hfails, firstFault_cons_of_failsAt hfails, Except.error.injEq,
          eq_comm]
      · rw [(readDigits_cons_of_not_failsAt hfails more).2.2, ih,
          firstFault_cons_of_not_failsAt hfails]

/-! ## Reading numerals -/

theorem splitSign_of_not_sign {c : Char} (hplus : c ≠ '+') (hminus : c ≠ '-') (rest : List Char) :
    splitSign (c :: rest) = (false, c :: rest) := by
  rw [splitSign]
  · exact fun _ h => hplus (List.cons.inj h).1
  · exact fun _ h => hminus (List.cons.inj h).1

theorem readNumeral_of_not_sign {c : Char} (hplus : c ≠ '+') (hminus : c ≠ '-') (rest : List Char) :
    readNumeral (c :: rest) = readDigits false 0 (c :: rest) := by
  rw [readNumeral]
  · exact fun h => by cases h
  · exact fun h => hplus (List.cons.inj h).1
  · exact fun h => hminus (List.cons.inj h).1
  · exact fun _ h => hplus (List.cons.inj h).1
  · exact fun _ h => hminus (List.cons.inj h).1

/-- A text is read by what comes after its sign, unless that is nothing. -/
theorem readNumeral_cases (body : List Char) :
    (body = [] ∧ readNumeral body = .error .empty) ∨
    ((∃ sign, (sign = '+' ∨ sign = '-') ∧ body = [sign]) ∧
      readNumeral body = .error .invalidDigit) ∨
    ∃ negative digits, splitSign body = (negative, digits) ∧ digits ≠ [] ∧
      readNumeral body = readDigits negative (signed negative []) digits := by
  cases body with
  | nil => exact Or.inl ⟨rfl, rfl⟩
  | cons c rest =>
      by_cases hplus : c = '+'
      · subst hplus
        cases rest with
        | nil => exact Or.inr (Or.inl ⟨⟨'+', Or.inl rfl, rfl⟩, rfl⟩)
        | cons d more => exact Or.inr (Or.inr ⟨false, d :: more, rfl, List.cons_ne_nil d more, rfl⟩)
      · by_cases hminus : c = '-'
        · subst hminus
          cases rest with
          | nil => exact Or.inr (Or.inl ⟨⟨'-', Or.inr rfl, rfl⟩, rfl⟩)
          | cons d more => exact Or.inr (Or.inr ⟨true, d :: more, rfl, List.cons_ne_nil d more, rfl⟩)
        · exact Or.inr (Or.inr ⟨false, c :: rest, splitSign_of_not_sign hplus hminus rest,
            List.cons_ne_nil c rest, readNumeral_of_not_sign hplus hminus rest⟩)

theorem splitSign_sign {sign : Char} (h : sign = '+' ∨ sign = '-') :
    ∃ negative, splitSign [sign] = (negative, []) := by
  rcases h with rfl | rfl
  · exact ⟨false, rfl⟩
  · exact ⟨true, rfl⟩

/-- A numeral is told apart into its sign and its digits. -/
theorem spells_iff {body : List Char} {n : Int} :
    Spells body n ↔
      ∃ negative digits, splitSign body = (negative, digits) ∧ IsDigits digits ∧
        n = signed negative digits := by
  constructor
  · intro h
    cases h with
    | unsigned h =>
        obtain ⟨c, rest, rfl⟩ := List.exists_cons_of_ne_nil h.1
        have hc : c.isDigit = true := h.2 c List.mem_cons_self
        -- A digit is no sign.
        have hplus : c ≠ '+' := by rintro rfl; cases hc
        have hminus : c ≠ '-' := by rintro rfl; cases hc
        exact ⟨false, c :: rest, splitSign_of_not_sign hplus hminus rest, h, rfl⟩
    | plus h => exact ⟨false, _, rfl, h, rfl⟩
    | minus h => exact ⟨true, _, rfl, h, rfl⟩
  · rintro ⟨negative, digits, hsplit, hdigits, rfl⟩
    cases body with
    | nil =>
        cases hsplit
        exact absurd rfl hdigits.1
    | cons c rest =>
        by_cases hplus : c = '+'
        · subst hplus
          cases hsplit
          exact .plus hdigits
        · by_cases hminus : c = '-'
          · subst hminus
            cases hsplit
            exact .minus hdigits
          · rw [splitSign_of_not_sign hplus hminus] at hsplit
            cases hsplit
            exact .unsigned hdigits

/-- **A text is read if it is a numeral of a number in the range.** -/
theorem readNumeral_eq_ok_iff {body : List Char} {n : Int} :
    readNumeral body = .ok n ↔ Spells body n ∧ InRange n := by
  rw [spells_iff]
  rcases readNumeral_cases body with ⟨rfl, hread⟩ | ⟨⟨sign, hsign, rfl⟩, hread⟩ |
    ⟨negative, digits, hsplit, hne, hread⟩
  · rw [hread]
    refine iff_of_false (fun h => by cases h) ?_
    rintro ⟨⟨negative, digits, ⟨⟩, hdigits, -⟩, -⟩
    exact hdigits.1 rfl
  · rw [hread]
    refine iff_of_false (fun h => by cases h) ?_
    rintro ⟨⟨negative, digits, hsplit, hdigits, -⟩, -⟩
    obtain ⟨negative, hnone⟩ := splitSign_sign hsign
    cases hsplit.symm.trans hnone
    exact hdigits.1 rfl
  · have hzero : InRange (signed negative []) := by rw [signed_nil]; decide
    rw [hread, readDigits_eq_ok_iff hzero, hsplit]
    constructor
    · rintro ⟨hdigits, rfl, hrange⟩
      exact ⟨⟨negative, digits, rfl, ⟨hne, hdigits⟩, rfl⟩, hrange⟩
    · rintro ⟨⟨_, _, ⟨⟩, hdigits, rfl⟩, hrange⟩
      exact ⟨hdigits.2, rfl, hrange⟩

/-- **A text that is refused has the fault that is reported.** -/
theorem readNumeral_eq_error_iff {body : List Char} {error : ParseError} :
    readNumeral body = .error error ↔ Faults body error := by
  rcases readNumeral_cases body with ⟨rfl, hread⟩ | ⟨⟨sign, hsign, rfl⟩, hread⟩ |
    ⟨negative, digits, hsplit, hne, hread⟩
  · rw [hread, Except.error.injEq]
    constructor
    · rintro rfl
      exact .empty
    · intro h
      cases h with
      | empty => rfl
      | position hsplit hfirst =>
          cases hsplit
          exact absurd hfirst not_firstFault_nil
  · rw [hread, Except.error.injEq]
    constructor
    · rintro rfl
      exact .loneSign hsign
    · intro h
      cases h with
      | loneSign => rfl
      | position hsplit hfirst =>
          obtain ⟨negative, hnone⟩ := splitSign_sign hsign
          cases hsplit.symm.trans hnone
          exact absurd hfirst not_firstFault_nil
  · rw [hread, readDigits_eq_error_iff]
    refine ⟨.position hsplit, fun h => ?_⟩
    cases h with
    | empty =>
        cases hsplit
        exact absurd rfl hne
    | loneSign hsign =>
        obtain ⟨negative, hnone⟩ := splitSign_sign hsign
        cases hsplit.symm.trans hnone
        exact absurd rfl hne
    | position hother hfirst =>
        cases hsplit.symm.trans hother
        exact hfirst

/-! ## Numerals of keys -/

theorem inRange_toInt (id : ChannelId) : InRange id.toInt :=
  ⟨Int64.le_toInt id.key, Int64.toInt_lt id.key⟩

theorem mk_ofInt_eq_iff {n : Int} (h : InRange n) {id : ChannelId} :
    (⟨Int64.ofInt n⟩ : ChannelId) = id ↔ id.toInt = n := by
  have hkey : toInt ⟨Int64.ofInt n⟩ = n := Int64.toInt_ofInt_of_le h.1 h.2
  constructor
  · rintro rfl
    exact hkey
  · exact fun hid => toInt_injective (hkey.trans hid.symm)

theorem isDigits_toString (k : Nat) : IsDigits (toString k).toList := by
  rw [Nat.toString_eq_repr, Nat.toList_repr]
  exact ⟨Nat.toDigits_ne_nil, fun c hc => Nat.isDigit_of_mem_toDigits (by decide) (by decide) hc⟩

theorem ofDigitChars_toString (k : Nat) : Nat.ofDigitChars 10 (toString k).toList 0 = k := by
  rw [Nat.toString_eq_repr, Nat.toList_repr]
  exact Nat.ofDigitChars_toDigits (by decide) (by decide)

/-- **A number is spelled by its text.** -/
theorem spells_toString (n : Int) : Spells (toString n).toList n := by
  cases n with
  | ofNat k =>
      have hspells := Spells.unsigned (isDigits_toString k)
      rwa [signed, ofDigitChars_toString] at hspells
  | negSucc k =>
      have htext : (toString (Int.negSucc k)).toList = '-' :: (toString (k + 1)).toList := by
        rw [Int.toString_eq_repr, Int.repr, String.toList_append, Nat.toString_eq_repr]
        rfl
      have hspells := Spells.minus (isDigits_toString (k + 1))
      rw [signed, ofDigitChars_toString] at hspells
      rw [htext]
      exact hspells

/-- There are no blanks in numerals. -/
theorem Spells.not_isBlank {body : List Char} {n : Int} (h : Spells body n) :
    ∀ c ∈ body, Text.isBlank c = false := by
  have hdigit : ∀ {digits : List Char}, IsDigits digits → ∀ c ∈ digits, Text.isBlank c = false := by
    intro digits hdigits c hc
    obtain ⟨hlow, hhigh⟩ := toNat_of_isDigit (hdigits.2 c hc)
    -- The digits lie between the blanks of ASCII and the others.
    have hranges : ¬ c.toNat < 0x9 ∧ ¬ c.toNat ≤ 0xD ∧ ¬ c.toNat < 0x20 ∧ ¬ c.toNat ≤ 0x20 ∧
        c.toNat < 0x85 := by omega
    simp [Text.isBlank, Text.blankRanges, Text.inRanges, hranges]
  cases h with
  | unsigned hdigits => exact hdigit hdigits
  | plus hdigits => exact List.forall_mem_cons.2 ⟨rfl, hdigit hdigits⟩
  | minus hdigits => exact List.forall_mem_cons.2 ⟨rfl, hdigit hdigits⟩

/-! ## Reading identifiers -/

/-- **Exactly the numerals of keys are identifiers.** -/
theorem parse_eq_ok_iff {text : String} {id : ChannelId} :
    parse text = .ok id ↔
      ∃ body n, Text.Trims text.toList body ∧ Spells body n ∧ InRange n ∧ id.toInt = n := by
  have hparse : parse text = .ok id ↔ ∃ n, readNumeral (Text.trimBlanks text.toList) = .ok n ∧
      (⟨Int64.ofInt n⟩ : ChannelId) = id := by
    rw [parse]
    cases readNumeral (Text.trimBlanks text.toList) with
    | error error => simp [Except.map]
    | ok n => simp [Except.map]
  simp only [hparse, ← Text.trimBlanks_eq_iff, exists_and_left, exists_eq_left',
    readNumeral_eq_ok_iff]
  refine exists_congr fun n => ?_
  rw [and_assoc]
  exact and_congr_right fun _ => and_congr_right fun hrange => mk_ofInt_eq_iff hrange

theorem parse_eq_error_iff {text : String} {error : ParseError} :
    parse text = .error error ↔ ∃ body, Text.Trims text.toList body ∧ Faults body error := by
  have hparse : parse text = .error error ↔
      readNumeral (Text.trimBlanks text.toList) = .error error := by
    rw [parse]
    cases readNumeral (Text.trimBlanks text.toList) with
    | error error => simp [Except.map]
    | ok n => simp [Except.map]
  simp only [hparse, ← Text.trimBlanks_eq_iff, exists_eq_left', readNumeral_eq_error_iff]

/-- The text of an identifier is read as it, among blanks. -/
theorem parse_append_toText (id : ChannelId) {before after : String}
    (hbefore : ∀ c ∈ before.toList, Text.isBlank c = true)
    (hafter : ∀ c ∈ after.toList, Text.isBlank c = true) :
    parse (before ++ id.toText ++ after) = .ok id := by
  have hspells : Spells id.toText.toList id.toInt := spells_toString id.toInt
  have htrims : Text.Trims (before ++ id.toText ++ after).toList id.toText.toList := by
    refine ⟨⟨before.toList, after.toList, ?_, hbefore, hafter⟩,
      fun c hc => hspells.not_isBlank c (List.mem_of_mem_head? hc),
      fun c hc => hspells.not_isBlank c (List.mem_of_mem_getLast? hc)⟩
    rw [String.toList_append, String.toList_append, List.append_assoc]
  exact parse_eq_ok_iff.2 ⟨_, _, htrims, hspells, inRange_toInt id, rfl⟩

/-- **What is an identifier, and what is wrong with a text that is none.**  Between the blanks there is a
numeral of a number in the range, and that number is the key; so the text of an identifier is read as
it, whatever blanks surround it.  A text that is refused has nothing between the blanks, or no digit
after its sign, or else the first character that cannot be read is to blame. -/
theorem parse_numerals :
    (∀ text id, parse text = .ok id ↔
      ∃ body n, Text.Trims text.toList body ∧ Spells body n ∧ InRange n ∧ id.toInt = n) ∧
    (∀ (id : ChannelId) (before after : String), (∀ c ∈ before.toList, Text.isBlank c = true) →
      (∀ c ∈ after.toList, Text.isBlank c = true) →
        parse (before ++ id.toText ++ after) = .ok id) ∧
    ∀ text error, parse text = .error error ↔
      ∃ body, Text.Trims text.toList body ∧ Faults body error :=
  ⟨fun _ _ => parse_eq_ok_iff, fun id _ _ => parse_append_toText id, fun _ _ => parse_eq_error_iff⟩

/-- The lowest key, among blanks of which not all are ASCII. -/
theorem parse_numerals_lowest :
    parse ("\u3000\t" ++ toText ⟨Int64.minValue⟩ ++ "\n ") = .ok ⟨Int64.minValue⟩ :=
  parse_numerals.2.1 ⟨Int64.minValue⟩ "\u3000\t" "\n " (List.all_eq_true.1 (by decide))
    (List.all_eq_true.1 (by decide))

/-- The letter is to blame where it stands right after the highest key, though ten times this key is none;
after one more digit it is not. -/
example : parse "9223372036854775807x" = .error .invalidDigit ∧
    parse "-92233720368547758080x" = .error .tooSmall := by
  decide +kernel

end ChannelId
end ChannelCatalog
