import ChannelCatalog.Json.Parser
import Mathlib.Data.List.TakeWhile
import Mathlib.Tactic.SplitIfs

/-!
# Numerals and what comes after them

A numeral has no closing mark.  It is read up to where no further part of a numeral can follow, so a
text gives a numeral back if it does not go on like one (`EndsNumeral`).  Integers within the words
are spelled by numerals that stand for them.
-/

namespace ChannelCatalog
namespace Json

/-- A run of digits, of which there is at least one. -/
def IsDigits (text : List Char) : Prop :=
  text ≠ [] ∧ ∀ c ∈ text, c.isDigit = true

instance (text : List Char) : Decidable (IsDigits text) :=
  have : Decidable (∀ c ∈ text, c.isDigit = true) := List.decidableBAll _ text
  inferInstanceAs (Decidable (_ ∧ _))

namespace Numeral

/-- An exponent without its sign. -/
def dropSign : List Char → List Char
  | '+' :: digits => digits
  | '-' :: digits => digits
  | digits => digits

/-- The parts of a numeral are digits, of which the whole part does not begin with a needless zero. -/
def IsWellFormed (n : Numeral) : Prop :=
  IsDigits n.whole ∧ (n.whole.head? = some '0' → n.whole.length = 1) ∧
    (∀ c ∈ n.fraction, c.isDigit = true) ∧ (n.exponent ≠ [] → IsDigits (dropSign n.exponent))

instance (n : Numeral) : Decidable n.IsWellFormed :=
  have : Decidable (∀ c ∈ n.fraction, c.isDigit = true) := List.decidableBAll _ n.fraction
  inferInstanceAs (Decidable (_ ∧ _ ∧ _ ∧ _))

/-- The characters of a numeral, with the given letter before the exponent. -/
def spellingWith (letter : Char) (n : Numeral) : List Char :=
  (if n.negative then ['-'] else []) ++ n.whole ++
    (if n.fraction.isEmpty then [] else '.' :: n.fraction) ++
    (if n.exponent.isEmpty then [] else letter :: n.exponent)

end Numeral

/-- A text that does not go on with a part of the numeral before it. -/
def EndsNumeral (text : List Char) : Prop :=
  ∀ c ∈ text.head?, c.isDigit = false ∧ c ≠ '.' ∧ c ≠ 'e' ∧ c ≠ 'E'

/-! ## Reading the parts of a numeral -/

theorem readDigits_append {digits rest : List Char} (hdigits : IsDigits digits)
    (hrest : ∀ c ∈ rest.head?, c.isDigit = false) :
    readDigits (digits ++ rest) = some (digits, rest) := by
  have htake : rest.takeWhile Char.isDigit = [] := by
    cases rest with
    | nil => rfl
    | cons c more => exact List.takeWhile_cons_of_neg (by simp [hrest c rfl])
  have hdrop : rest.dropWhile Char.isDigit = rest := by
    cases rest with
    | nil => rfl
    | cons c more => exact List.dropWhile_cons_of_neg (by simp [hrest c rfl])
  obtain ⟨first, more, rfl⟩ := List.exists_cons_of_ne_nil hdigits.1
  rw [readDigits, List.takeWhile_append_of_pos hdigits.2, List.dropWhile_append_of_pos hdigits.2,
    htake, hdrop, List.append_nil]

theorem readWhole_append {digits rest : List Char} (hdigits : IsDigits digits)
    (hzero : digits.head? = some '0' → digits.length = 1)
    (hrest : ∀ c ∈ rest.head?, c.isDigit = false) :
    readWhole (digits ++ rest) = some (digits, rest) := by
  have hneedless : ¬ (digits.head? = some '0' ∧ digits.length ≠ 1) := fun h => h.2 (hzero h.1)
  simp [readWhole, readDigits_append hdigits hrest, hneedless]

theorem readFraction_append {fraction rest : List Char} (hdigits : ∀ c ∈ fraction, c.isDigit = true)
    (hrest : ∀ c ∈ rest.head?, c.isDigit = false ∧ c ≠ '.') :
    readFraction ((if fraction.isEmpty then [] else '.' :: fraction) ++ rest) =
      some (fraction, rest) := by
  cases fraction with
  | nil =>
      cases rest with
      | nil => rfl
      | cons c more =>
          rw [List.isEmpty_nil, if_pos rfl, List.nil_append, readFraction]
          rintro _ ⟨⟩
          exact (hrest _ rfl).2 rfl
  | cons c more =>
      exact readDigits_append ⟨List.cons_ne_nil c more, hdigits⟩ fun d hd => (hrest d hd).1

theorem readSignedDigits_append {exponent rest : List Char}
    (hdigits : IsDigits (Numeral.dropSign exponent))
    (hrest : ∀ c ∈ rest.head?, c.isDigit = false) :
    readSignedDigits (exponent ++ rest) = some (exponent, rest) := by
  cases exponent with
  | nil => exact absurd rfl hdigits.1
  | cons c more =>
      by_cases hplus : c = '+'
      · subst hplus
        have hmore : IsDigits more := hdigits
        simp [readSignedDigits, readDigits_append hmore hrest]
      · by_cases hminus : c = '-'
        · subst hminus
          have hmore : IsDigits more := hdigits
          simp [readSignedDigits, readDigits_append hmore hrest]
        · have hunsigned : Numeral.dropSign (c :: more) = c :: more := by
            rw [Numeral.dropSign]
            · exact fun _ h => hplus (List.cons.inj h).1
            · exact fun _ h => hminus (List.cons.inj h).1
          rw [hunsigned] at hdigits
          rw [readSignedDigits]
          · exact readDigits_append hdigits hrest
          · exact fun _ h => hplus (List.cons.inj h).1
          · exact fun _ h => hminus (List.cons.inj h).1

theorem readExponent_append {letter : Char} (hletter : letter = 'e' ∨ letter = 'E')
    {exponent rest : List Char} (hdigits : exponent ≠ [] → IsDigits (Numeral.dropSign exponent))
    (hrest : EndsNumeral rest) :
    readExponent ((if exponent.isEmpty then [] else letter :: exponent) ++ rest) =
      some (exponent, rest) := by
  cases exponent with
  | nil =>
      cases rest with
      | nil => rfl
      | cons c more =>
          obtain ⟨-, -, hsmall, hcapital⟩ := hrest c rfl
          rw [List.isEmpty_nil, if_pos rfl, List.nil_append, readExponent]
          · exact fun _ h => hsmall (List.cons.inj h).1
          · exact fun _ h => hcapital (List.cons.inj h).1
  | cons c more =>
      have hread := readSignedDigits_append (hdigits (List.cons_ne_nil c more))
        fun d hd => (hrest d hd).1
      rcases hletter with rfl | rfl
      · exact hread
      · exact hread

/-! ## Reading numerals -/

namespace Numeral

variable {n : Numeral} {letter : Char} {rest : List Char}

/-- The exponent, if there is one, begins with its letter. -/
theorem head?_exponent (hletter : letter = 'e' ∨ letter = 'E') (exponent : List Char)
    (hrest : EndsNumeral rest) :
    ∀ c ∈ ((if exponent.isEmpty then [] else letter :: exponent) ++ rest).head?,
      c.isDigit = false ∧ c ≠ '.' := by
  intro c hc
  cases exponent with
  | nil => exact ⟨(hrest c hc).1, (hrest c hc).2.1⟩
  | cons first more =>
      obtain rfl : letter = c := Option.some.inj hc
      rcases hletter with rfl | rfl <;> decide

theorem head?_fraction (fraction : List Char) (hrest : ∀ c ∈ rest.head?, c.isDigit = false) :
    ∀ c ∈ ((if fraction.isEmpty then [] else '.' :: fraction) ++ rest).head?,
      c.isDigit = false := by
  intro c hc
  cases fraction with
  | nil => exact hrest c hc
  | cons first more =>
      obtain rfl : '.' = c := Option.some.inj hc
      decide

/-- **A numeral is read to its end.** -/
theorem readNumeral_append (hn : n.IsWellFormed) (hletter : letter = 'e' ∨ letter = 'E')
    (hrest : EndsNumeral rest) :
    readNumeral (n.spellingWith letter ++ rest) = some (n, rest) := by
  obtain ⟨hwhole, hzero, hfraction, hexponent⟩ := hn
  have hunsigned : ∀ negative, readUnsigned negative
      (n.whole ++ ((if n.fraction.isEmpty then [] else '.' :: n.fraction) ++
        ((if n.exponent.isEmpty then [] else letter :: n.exponent) ++ rest))) =
      some (⟨negative, n.whole, n.fraction, n.exponent⟩, rest) := by
    intro negative
    have hafter := head?_exponent hletter n.exponent hrest
    rw [readUnsigned, readWhole_append hwhole hzero
      (head?_fraction n.fraction fun c hc => (hafter c hc).1)]
    simp only [Option.bind_eq_bind, Option.bind_some]
    rw [readFraction_append hfraction hafter]
    simp only [Option.bind_some]
    rw [readExponent_append hletter hexponent hrest]
    rfl
  obtain ⟨negative, whole, fraction, exponent⟩ := n
  simp only [spellingWith, List.append_assoc]
  cases negative with
  | true => exact hunsigned true
  | false =>
      obtain ⟨first, more, rfl⟩ := List.exists_cons_of_ne_nil hwhole.1
      -- A digit is no sign.
      have hsign : first ≠ '-' := by
        rintro rfl
        exact Bool.noConfusion (hwhole.2 '-' List.mem_cons_self)
      rw [if_neg Bool.false_ne_true, List.nil_append, List.cons_append, readNumeral]
      · exact hunsigned false
      · exact fun _ h => hsign (List.cons.inj h).1

/-- A numeral begins with a sign or with a digit. -/
theorem exists_spellingWith_eq_cons (hn : n.IsWellFormed) (letter : Char) :
    ∃ first more, n.spellingWith letter = first :: more ∧ (first = '-' ∨ first.isDigit = true) := by
  obtain ⟨negative, whole, fraction, exponent⟩ := n
  obtain ⟨first, more, rfl⟩ := List.exists_cons_of_ne_nil hn.1.1
  cases negative with
  | true => exact ⟨'-', _, rfl, Or.inl rfl⟩
  | false => exact ⟨first, _, rfl, Or.inr (hn.1.2 first List.mem_cons_self)⟩

/-! ## Numerals of integers -/

/-- The decimal digits of a positive number do not begin with a zero. -/
theorem head?_toDigits_ne {k : Nat} (hpos : 0 < k) : (Nat.toDigits 10 k).head? ≠ some '0' := by
  induction k using Nat.strong_induction_on with
  | _ k ih =>
      have hdigit : ∀ d < 10, 0 < d → Nat.digitChar d ≠ '0' := by decide
      rw [Nat.toDigits_eq_if (by decide)]
      split
      · rename_i hsmall
        simpa using hdigit k hsmall hpos
      · have hfirst := ih (k / 10) (by omega) (by omega)
        obtain ⟨first, more, hdigits⟩ := List.exists_cons_of_ne_nil
          (Nat.toDigits_ne_nil (n := k / 10) (b := 10))
        rw [hdigits] at hfirst ⊢
        exact hfirst

theorem isWellFormed_ofInt (n : Int) : (ofInt n).IsWellFormed := by
  refine ⟨⟨Nat.toDigits_ne_nil, fun c hc =>
    Nat.isDigit_of_mem_toDigits (by decide) (by decide) hc⟩, fun hzero => ?_, by simp [ofInt],
    by simp [ofInt]⟩
  rcases Nat.eq_zero_or_pos n.natAbs with hnone | hpos
  · simp [ofInt, hnone]
  · exact absurd hzero (head?_toDigits_ne hpos)

theorem digitsValue_toDigits (k : Nat) : digitsValue (Nat.toDigits 10 k) = k := by
  have hvalue : digitsValue (Nat.toDigits 10 k) = Nat.ofDigitChars 10 (Nat.toDigits 10 k) 0 := by
    simp only [digitsValue, Nat.ofDigitChars, digitValue, Nat.mul_comm]
  rw [hvalue, Nat.ofDigitChars_toDigits (by decide) (by decide)]

/-- **The numeral of an integer stands for it**, if it fits in a word with or without a sign. -/
theorem value?_ofInt {n : Int} (hlow : -0x8000000000000000 ≤ n) (hhigh : n < 0x10000000000000000) :
    (ofInt n).value? = some (.integer n) := by
  simp only [value?, ofInt, digitsValue_toDigits, List.isEmpty_nil, Bool.and_self, true_and,
    wordLimit, decide_eq_false_iff_not, decide_eq_true_eq]
  split_ifs with hpositive hnegative
  · have hsame : (n.natAbs : Int) = n := by omega
    rw [hsame]
  · have hsame : -(n.natAbs : Int) = n := by omega
    rw [hsame]
  · omega

end Numeral

end Json
end ChannelCatalog
