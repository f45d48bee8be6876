import ChannelCatalog.Json.Parser
import Mathlib.Tactic.SplitIfs

/-!
# Literals and the texts they stand for

A text that is escaped stands for itself.  A well-formed literal ends at the first quote that is not
escaped, so it is read up to the quote behind it whatever comes after.
-/

namespace ChannelCatalog
namespace Json

/-- The characters between two quotes make a literal, whether or not it stands for a text. -/
def IsLiteral (spelling : List Char) : Prop :=
  (units? spelling).isSome = true

instance (spelling : List Char) : Decidable (IsLiteral spelling) :=
  inferInstanceAs (Decidable (_ = true))

theorem isLiteral_of_unescape? {spelling text : List Char} (h : unescape? spelling = some text) :
    IsLiteral spelling := by
  unfold unescape? at h
  cases hunits : units? spelling with
  | none => simp [hunits] at h
  | some units => simp [IsLiteral, hunits]

/-! ## Escaped texts -/

theorem codeUnit?_hexDigits : ∀ n < 0x20,
    codeUnit? '0' '0' (hexDigit (n / 16)) (hexDigit (n % 16)) = some n := by
  decide

/-- A code unit that is no half of a surrogate pair stands for a character by itself. -/
theorem joinUnits?_code {code : Nat} (hcode : code < 0xD800) (rest : List Unit16) :
    joinUnits? (.code code :: rest) = (joinUnits? rest).map (Char.ofNat code :: ·) := by
  have hhigh : isHighSurrogate code = false := by simp [isHighSurrogate]; omega
  have hlow : isLowSurrogate code = false := by simp [isLowSurrogate]; omega
  cases rest with
  | nil => simp [joinUnits?, hhigh, hlow]
  | cons unit rest =>
      cases unit with
      | char c => cases h : joinUnits? rest <;> simp [joinUnits?, hhigh, hlow, h]
      | code low =>
          cases h : joinUnits? (.code low :: rest) <;> simp [joinUnits?, hhigh, hlow, h]

theorem joinUnits?_char (c : Char) (rest : List Unit16) :
    joinUnits? (.char c :: rest) = (joinUnits? rest).map (c :: ·) := by
  cases h : joinUnits? rest <;> simp [joinUnits?, h]

/-- A piece that stands for a character by itself adds this character to what comes after it. -/
theorem unescape?_of_units? {spelling rest : List Char} {unit : Unit16} {c : Char}
    (hunits : units? spelling = (units? rest).map (unit :: ·))
    (hjoin : ∀ more, joinUnits? (unit :: more) = (joinUnits? more).map (c :: ·)) :
    unescape? spelling = (unescape? rest).map (c :: ·) := by
  cases h : units? rest <;> simp [unescape?, hunits, h, hjoin]

theorem unescape?_cons_of_plain {c : Char} (hplain : ¬ (c = '\\' ∨ c = '"' ∨ c.toNat < 0x20))
    (rest : List Char) : unescape? (c :: rest) = (unescape? rest).map (c :: ·) := by
  refine unescape?_of_units? ?_ (joinUnits?_char c)
  rw [units?]
  · rw [if_neg hplain]
    cases units? rest <;> rfl
  · rintro _ _ _ _ _ rfl
    simp at hplain
  · rintro _ _ rfl
    simp at hplain

theorem unescape?_short {c letter : Char} (hletter : shortEscape? letter = some c)
    (rest : List Char) : unescape? ('\\' :: letter :: rest) = (unescape? rest).map (c :: ·) := by
  refine unescape?_of_units? ?_ (joinUnits?_char c)
  rw [units?]
  · rw [hletter]
    cases units? rest <;> rfl
  · rintro _ _ _ _ _ rfl
    simp [shortEscape?] at hletter

theorem unescape?_code {a b c d : Char} {code : Nat} (hcode : codeUnit? a b c d = some code)
    (hsmall : code < 0xD800) (rest : List Char) :
    unescape? ('\\' :: 'u' :: a :: b :: c :: d :: rest) =
      (unescape? rest).map (Char.ofNat code :: ·) := by
  refine unescape?_of_units? ?_ (joinUnits?_code hsmall)
  rw [units?]
  rw [hcode]
  cases units? rest <;> rfl

/-- What is written for a character is read as that character. -/
theorem unescape?_escapeChar_append (c : Char) (rest : List Char) :
    unescape? (escapeChar c ++ rest) = (unescape? rest).map (c :: ·) := by
  unfold escapeChar
  split_ifs with hquote hbackslash hbackspace htab hbreak hfeed hreturn hcontrol
  · subst hquote
    exact unescape?_short rfl rest
  · subst hbackslash
    exact unescape?_short rfl rest
  · subst hbackspace
    exact unescape?_short rfl rest
  · subst htab
    exact unescape?_short rfl rest
  · subst hbreak
    exact unescape?_short rfl rest
  · subst hfeed
    exact unescape?_short rfl rest
  · subst hreturn
    exact unescape?_short rfl rest
  · have h := unescape?_code (codeUnit?_hexDigits c.toNat hcontrol) (by omega) rest
    rwa [Char.ofNat_toNat] at h
  · exact unescape?_cons_of_plain (by simp [hbackslash, hquote, hcontrol]) rest

/-- **An escaped text stands for itself.** -/
theorem unescape?_escape (text : List Char) : unescape? (escape text) = some text := by
  induction text with
  | nil => rfl
  | cons c rest ih =>
      rw [escape, List.flatMap_cons, unescape?_escapeChar_append]
      exact congrArg (Option.map (c :: ·)) ih

theorem isLiteral_escape (text : List Char) : IsLiteral (escape text) :=
  isLiteral_of_unescape? (unescape?_escape text)

/-! ## The end of a literal -/

/-- A digit of a code unit neither ends a literal nor escapes what comes after it. -/
theorem ne_of_hexValue? {c : Char} {value : Nat} (h : hexValue? c = some value) :
    c ≠ '"' ∧ c ≠ '\\' := by
  constructor
  · rintro rfl
    simp [hexValue?] at h
  · rintro rfl
    simp [hexValue?] at h

theorem scanLiteral_cons {c : Char} (hquote : c ≠ '"') (hbackslash : c ≠ '\\') (rest : List Char) :
    scanLiteral (c :: rest) = (scanLiteral rest).map fun (body, after) => (c :: body, after) := by
  rw [scanLiteral]
  · cases scanLiteral rest <;> rfl
  · exact hquote
  · exact fun _ _ h => absurd h hbackslash

theorem scanLiteral_backslash (c : Char) (rest : List Char) :
    scanLiteral ('\\' :: c :: rest) =
      (scanLiteral rest).map fun (body, after) => ('\\' :: c :: body, after) := by
  rw [scanLiteral]
  cases scanLiteral rest <;> rfl

/-- The four digits of a code unit are passed over. -/
theorem scanLiteral_digits {a b c d : Char} {code : Nat} (hcode : codeUnit? a b c d = some code)
    (rest : List Char) :
    scanLiteral (a :: b :: c :: d :: rest) =
      (scanLiteral rest).map fun (body, after) => (a :: b :: c :: d :: body, after) := by
  simp only [codeUnit?, Option.bind_eq_bind, Option.bind_eq_some_iff] at hcode
  obtain ⟨_, ha, _, hb, _, hc, _, hd, -⟩ := hcode
  rw [scanLiteral_cons (ne_of_hexValue? ha).1 (ne_of_hexValue? ha).2,
    scanLiteral_cons (ne_of_hexValue? hb).1 (ne_of_hexValue? hb).2,
    scanLiteral_cons (ne_of_hexValue? hc).1 (ne_of_hexValue? hc).2,
    scanLiteral_cons (ne_of_hexValue? hd).1 (ne_of_hexValue? hd).2]
  cases scanLiteral rest <;> rfl

/-- A literal is read up to the quote that closes it. -/
theorem scanLiteral_append {spelling : List Char} (hliteral : IsLiteral spelling)
    (rest : List Char) : scanLiteral (spelling ++ '"' :: rest) = some (spelling, rest) := by
  obtain ⟨units, hunits⟩ := Option.isSome_iff_exists.1 hliteral
  clear hliteral
  -- The cases are those of the pieces of a literal.
  fun_induction units? spelling generalizing units with
  | case1 => rw [List.nil_append, scanLiteral]
  | case2 a b c d more ih =>
      simp only [Option.bind_eq_bind, Option.bind_eq_some_iff] at hunits
      obtain ⟨_, hcode, units, hunits, -⟩ := hunits
      simp only [List.cons_append]
      rw [scanLiteral_backslash, scanLiteral_digits hcode, ih units hunits]
      rfl
  | case3 letter more _ ih =>
      simp only [Option.bind_eq_bind, Option.bind_eq_some_iff] at hunits
      obtain ⟨_, -, units, hunits, -⟩ := hunits
      simp only [List.cons_append]
      rw [scanLiteral_backslash, ih units hunits]
      rfl
  | case4 => cases hunits
  | case5 c more _ _ hplain ih =>
      simp only [Option.bind_eq_bind, Option.bind_eq_some_iff] at hunits
      obtain ⟨units, hunits, -⟩ := hunits
      simp only [not_or] at hplain
      rw [List.cons_append, scanLiteral_cons hplain.2.1 hplain.1, ih units hunits]
      rfl

theorem readLiteral_append {spelling : List Char} (hliteral : IsLiteral spelling)
    (rest : List Char) : readLiteral (spelling ++ '"' :: rest) = some (spelling, rest) := by
  have hunits : (units? spelling).isSome = true := hliteral
  simp [readLiteral, scanLiteral_append hliteral, hunits]

end Json
end ChannelCatalog
