import ChannelCatalog.Proofs.Like.Replacing

/-!
# Matching folded texts with folded patterns

Taking both sides to small forms by the table keeps a match, and so does settling them first, as
long as the pattern says enough about the two characters that settling is about.  It must tell the
form of each of its capital sigmas, since a wildcard hides the letters on which the form depends; and
a character wildcard must not stand for a dotted capital I, which becomes two characters.
-/

namespace ChannelCatalog
namespace Like

open Text

/-! ## Small forms by the table -/

theorem sameChar_smallChar {c d : Char} (h : sameChar c d = true) :
    sameChar (smallChar c) (smallChar d) = true := by
  have hlower : c.toLower = d.toLower := of_decide_eq_true h
  have hsmall : smallChar c = smallChar d := by
    rw [← smallChar_toLower c, hlower, smallChar_toLower]
  exact decide_eq_true (congrArg Char.toLower hsmall)

theorem keepsSpecial_smallChar : KeepsSpecial smallChar where
  special c hc := by
    have hspecial : c = '\\' ∨ c = '%' ∨ c = '_' := by
      rw [IsLiteral] at hc
      tauto
    rcases hspecial with rfl | rfl | rfl <;> decide
  literal c hc := by
    have hbackslash : smallChar c = '\\' ↔ c = '\\' := smallChar_eq_iff (by decide +kernel)
    have hpercent : smallChar c = '%' ↔ c = '%' := smallChar_eq_iff (by decide +kernel)
    have hunderscore : smallChar c = '_' ↔ c = '_' := smallChar_eq_iff (by decide +kernel)
    rwa [IsLiteral, Ne, Ne, Ne, hbackslash, hpercent, hunderscore]

theorem keepsReading_smallChar : KeepsReading smallChar where
  null c := smallChar_eq_iff (by decide +kernel)
  readChar c := by
    have hfirst : smallChar c = '\uFFFE' ↔ c = '\uFFFE' := smallChar_eq_iff (by decide +kernel)
    have hsecond : smallChar c = '\uFFFF' ↔ c = '\uFFFF' := smallChar_eq_iff (by decide +kernel)
    simp only [readChar, hfirst, hsecond]
    split
    · exact ((smallChar_eq_iff (by decide +kernel)).2 rfl).symm
    · rfl

/-- A match of settled texts is one of folded texts. -/
theorem holdsFor_lowercase {pattern name : String}
    (h : holdsFor (settle pattern) (readText (settle name).toList) = true) :
    holdsFor (lowercase pattern) (readText (lowercase name).toList) = true := by
  rw [holdsFor, matchesElements_eq_true_iff, toList_settle, toList_settle] at h
  rw [holdsFor, matchesElements_eq_true_iff, toList_lowercase, toList_lowercase,
    lowerFrom_eq_map_settleFrom, lowerFrom_eq_map_settleFrom, readText_map keepsReading_smallChar,
    readText_map keepsReading_smallChar, elements_map keepsSpecial_smallChar]
  exact h.map fun _ _ => sameChar_smallChar

/-! ## Characters that match one another -/

theorem sameChar_iff {c d : Char} : sameChar c d = true ↔ c.toLower = d.toLower :=
  decide_eq_true_iff

/-- Characters that match one another count alike in the context of a sigma. -/
theorem foldAlike_of_sameChar {c d : Char} (h : sameChar c d = true) : FoldAlike c d := by
  have hc := foldAlike_toLower c
  have hd := foldAlike_toLower d
  rw [← sameChar_iff.1 h] at hd
  exact ⟨hc.small.symm.trans hd.small, hc.cased.symm.trans hd.cased,
    hc.ignorable.symm.trans hd.ignorable, hc.sigma.symm.trans hd.sigma⟩

/-- A character beyond ASCII is matched by itself alone. -/
theorem eq_of_sameChar {c d : Char} (hc : 0x80 ≤ c.toNat) (h : sameChar c d = true) : c = d := by
  have hletters : ∀ k < 26, (Char.ofNat (0x41 + k)).toNat < 0x80 ∧
      (Char.ofNat (0x41 + k)).toLower.toNat < 0x80 := by decide
  have hlower : c.toLower = c := by
    rcases toLower_eq_self_or c with hsame | ⟨k, hk, rfl⟩
    · exact hsame
    · exact absurd (hletters k hk).1 (Nat.not_lt.2 hc)
  have hcd : c = d.toLower := hlower.symm.trans (sameChar_iff.1 h)
  rcases toLower_eq_self_or d with hsame | ⟨k, hk, rfl⟩
  · exact hcd.trans hsame
  · rw [hcd] at hc
    exact absurd (hletters k hk).2 (Nat.not_lt.2 hc)

/-! ## Sigmas whose form a pattern tells -/

/-- What a pattern tells of the texts that match it: whether the first character that is not
case-ignorable is cased.  A wildcard hides it.  Before an escaped letter there is a backslash in the
pattern and none in the texts, so the pattern tells nothing of them. -/
def toldAhead : List Char → Option Bool
  | [] => some false
  | '\\' :: c :: _ => if isCaseIgnorable c || isCased c then none else some false
  | c :: rest =>
    if isCaseIgnorable c then toldAhead rest
    else if c = '%' ∨ c = '_' then none
    else some (isCased c)

/-- What is told of the characters before, after one more character. -/
def toldAfter (before : Option Bool) (c : Char) : Option Bool :=
  if isCaseIgnorable c then before else some (isCased c)

/-- Whether the form of a sigma follows from what is told of the characters before and ahead. -/
def isFormTold (before ahead : Option Bool) : Bool :=
  before = some false || ahead = some true || (before.isSome && ahead.isSome)

/-- Whether the rest of a pattern tells the form of each of its capital sigmas; `before` is what is
told of the characters before it. -/
def tellsSigmasFrom (before : Option Bool) : List Char → Bool
  | [] => true
  | '\\' :: c :: rest =>
    -- In the pattern a backslash comes before the character, and no cased letter.
    let before := before.filter (· = false)
    (c ≠ 'Σ' || isFormTold before (toldAhead rest)) && tellsSigmasFrom (toldAfter before c) rest
  | c :: rest =>
    (c ≠ 'Σ' || isFormTold before (toldAhead rest)) &&
      tellsSigmasFrom (if c = '%' ∨ c = '_' then none else toldAfter before c) rest

/-- No wildcard hides a letter on which the form of a capital sigma of the pattern depends. -/
def TellsSigmas (pattern : String) : Prop :=
  tellsSigmasFrom (some false) pattern.toList = true

instance (pattern : String) : Decidable (TellsSigmas pattern) :=
  inferInstanceAs (Decidable (_ = true))

theorem toldAhead_cons {c : Char} (hc : IsLiteral c) (rest : List Char) :
    toldAhead (c :: rest) = if isCaseIgnorable c then toldAhead rest else some (isCased c) := by
  obtain ⟨hbackslash, hpercent, hunderscore⟩ := hc
  rw [toldAhead]
  · rw [if_neg (not_or.2 ⟨hpercent, hunderscore⟩)]
  · exact fun _ _ hescape _ => hbackslash hescape

theorem tellsSigmasFrom_cons {c : Char} (hc : IsLiteral c) {before : Option Bool}
    {rest : List Char} :
    tellsSigmasFrom before (c :: rest) = true ↔
      (c = 'Σ' → isFormTold before (toldAhead rest) = true) ∧
        tellsSigmasFrom (toldAfter before c) rest = true := by
  obtain ⟨hbackslash, hpercent, hunderscore⟩ := hc
  rw [tellsSigmasFrom, if_neg (not_or.2 ⟨hpercent, hunderscore⟩), Bool.and_eq_true,
    Bool.or_eq_true, decide_eq_true_eq, Ne, ← imp_iff_not_or]
  exact fun _ _ hescape _ => hbackslash hescape

theorem tellsSigmasFrom_escaped {c : Char} {before : Option Bool} {rest : List Char} :
    tellsSigmasFrom before ('\\' :: c :: rest) = true ↔
      (c = 'Σ' → isFormTold (before.filter (· = false)) (toldAhead rest) = true) ∧
        tellsSigmasFrom (toldAfter (before.filter (· = false)) c) rest = true := by
  rw [tellsSigmasFrom, Bool.and_eq_true, Bool.or_eq_true, decide_eq_true_eq, Ne,
    ← imp_iff_not_or]

/-- What is told is so, both in the pattern and in a text that matches it. -/
def IsTold (told : Option Bool) (inPattern inText : Bool) : Prop :=
  ∀ cased ∈ told, inPattern = cased ∧ inText = cased

theorem isTold_none (inPattern inText : Bool) : IsTold none inPattern inText :=
  fun _ htold => nomatch htold

theorem isTold_some {cased inPattern inText : Bool} :
    IsTold (some cased) inPattern inText ↔ inPattern = cased ∧ inText = cased := by
  simp [IsTold]

/-- If the form of a sigma is told, it is the same in the pattern and in the text. -/
theorem final_eq_of_isFormTold {before ahead : Option Bool} {b b' a a' : Bool}
    (hform : isFormTold before ahead = true) (hbefore : IsTold before b b')
    (hahead : IsTold ahead a a') : (b && !a) = (b' && !a') := by
  cases before with
  | none =>
      -- What is ahead decides alone, so it is a cased letter.
      cases ahead with
      | none => cases hform
      | some cased =>
          have hcased : cased = true := by simpa [isFormTold] using hform
          obtain ⟨ha, ha'⟩ := isTold_some.1 hahead
          rw [ha, ha', hcased, Bool.not_true, Bool.and_false, Bool.and_false]
  | some cased =>
      obtain ⟨hb, hb'⟩ := isTold_some.1 hbefore
      cases ahead with
      | none =>
          -- What is before decides alone, so it is no cased letter.
          have hcased : cased = false := by simpa [isFormTold] using hform
          rw [hb, hb', hcased, Bool.false_and, Bool.false_and]
      | some letter =>
          obtain ⟨ha, ha'⟩ := isTold_some.1 hahead
          rw [hb, hb', ha, ha']

theorem IsTold.after {before : Option Bool} {inPattern inText : Bool}
    (h : IsTold before inPattern inText) {c d : Char} (halike : FoldAlike c d) :
    IsTold (toldAfter before c) (casedAfter inPattern c) (casedAfter inText d) := by
  rw [toldAfter, casedAfter, casedAfter, ← halike.ignorable, ← halike.cased]
  split
  · exact h
  · exact isTold_some.2 ⟨rfl, rfl⟩

/-- Only that no cased letter comes before is true of the pattern after a backslash as well. -/
theorem IsTold.afterBackslash {before : Option Bool} {inPattern inText : Bool}
    (h : IsTold before inPattern inText) : IsTold (before.filter (· = false)) false inText := by
  intro cased hcased
  obtain ⟨htold, hfalse⟩ := Option.mem_filter_iff.1 hcased
  rw [of_decide_eq_true hfalse] at htold ⊢
  exact ⟨rfl, (h false htold).2⟩

theorem isTold_toldAhead {pattern text : List Char} (h : Matches (elements pattern) text) :
    IsTold (toldAhead pattern) (casedAhead pattern) (casedAhead text) := by
  induction pattern using elements_induction generalizing text with
  | nil =>
      cases h
      exact isTold_some.2 ⟨rfl, rfl⟩
  | last => exact nomatch h
  | escaped c rest ih =>
      obtain ⟨d, more, rfl, hsame, -⟩ := matches_char_iff.1 h
      have halike := foldAlike_of_sameChar hsame
      rw [toldAhead]
      split
      · exact isTold_none _ _
      · rename_i hplain
        obtain ⟨hignorable, hcased⟩ := not_or.1 (mt Bool.or_eq_true_iff.2 hplain)
        refine isTold_some.2 ⟨rfl, ?_⟩
        rw [casedAhead, ← halike.ignorable, ← halike.cased, if_neg hignorable]
        exact Bool.eq_false_iff.2 hcased
  | percent rest ih => exact isTold_none _ _
  | underscore rest ih => exact isTold_none _ _
  | literal c rest hc ih =>
      rw [elements_cons hc, matches_char_iff] at h
      obtain ⟨d, more, rfl, hsame, hmore⟩ := h
      have halike := foldAlike_of_sameChar hsame
      rw [toldAhead_cons hc, casedAhead, casedAhead, ← halike.ignorable, ← halike.cased]
      split
      · exact ih hmore
      · exact isTold_some.2 ⟨rfl, rfl⟩

/-! ## Settling a pattern and a text -/

theorem elements_settleChar_append {c : Char} (hc : IsLiteral c) (final : Bool)
    (rest : List Char) :
    elements (settleChar final c ++ rest) =
      (settleChar final c).map Element.char ++ elements rest := by
  unfold settleChar
  split
  · cases final <;> rfl
  · split
    · rfl
    · exact elements_cons hc rest

/-- A backslash makes the first character of two literal, and the second one needs none. -/
theorem elements_backslash_settleChar_append (c : Char) (final : Bool) (rest : List Char) :
    elements ('\\' :: (settleChar final c ++ rest)) =
      (settleChar final c).map Element.char ++ elements rest := by
  unfold settleChar
  split
  · rfl
  · split <;> rfl

/-- What becomes of a character matches what becomes of one like it, if a sigma takes one form. -/
theorem Matches.settleChar_append {c d : Char} (hsame : sameChar c d = true) {final other : Bool}
    (hsigma : c = 'Σ' → final = other) {pattern : List Element} {text : List Char}
    (h : Matches pattern text) :
    Matches ((settleChar final c).map Element.char ++ pattern) (settleChar other d ++ text) := by
  have hsymm : sameChar d c = true := sameChar_iff.2 (sameChar_iff.1 hsame).symm
  by_cases hc : c = 'Σ' ∨ c = 'İ'
  · -- Both are the same character, and the same becomes of it.
    have hcd : c = d := by
      refine eq_of_sameChar ?_ hsame
      rcases hc with rfl | rfl <;> decide
    have hforms : settleChar other d = settleChar final c := by
      subst hcd
      unfold settleChar
      split
      · rename_i hc
        rw [hsigma hc]
      · rfl
    rw [hforms]
    -- How many characters there are does not matter, since each matches itself.
    generalize settleChar final c = forms
    induction forms with
    | nil => exact h
    | cons form more ih => exact .char (sameChar_iff.2 rfl) ih
  · have hd : ¬ (d = 'Σ' ∨ d = 'İ') := by
      intro hd
      have hdc : d = c := by
        refine eq_of_sameChar ?_ hsymm
        rcases hd with rfl | rfl <;> decide
      exact hc (hdc ▸ hd)
    obtain ⟨hcsigma, hcdotted⟩ := not_or.1 hc
    obtain ⟨hdsigma, hddotted⟩ := not_or.1 hd
    rw [settleChar_of_ne hcsigma hcdotted, settleChar_of_ne hdsigma hddotted]
    exact .char hsame h

/-- A character before a pattern and a text that may be settled keeps them so, if it matches and the
form of a sigma is told. -/
theorem Matches.settleFrom_cons {c d : Char} {pattern text : List Char}
    (hsame : sameChar c d = true) (h : Matches (elements pattern) text) {before : Option Bool}
    (hsigma : c = 'Σ' → isFormTold before (toldAhead pattern) = true)
    (hsettled : ∀ casedBefore other, IsTold (toldAfter before c) casedBefore other →
      Matches (elements (settleFrom casedBefore pattern)) (settleFrom other text))
    {casedBefore other : Bool} (hbefore : IsTold before casedBefore other) :
    Matches ((settleChar (casedBefore && !casedAhead pattern) c).map Element.char ++
        elements (settleFrom (casedAfter casedBefore c) pattern))
      (settleFrom other (d :: text)) :=
  Matches.settleChar_append hsame
    (fun hc => final_eq_of_isFormTold (hsigma hc) hbefore (isTold_toldAhead h))
    (hsettled _ _ (hbefore.after (foldAlike_of_sameChar hsame)))

/-- **Settling keeps a match** of a pattern that tells the forms of its sigmas, if no character
wildcard can stand for a dotted capital I. -/
theorem Matches.settle {pattern text : List Char} (h : Matches (elements pattern) text)
    {before : Option Bool} (hsigmas : tellsSigmasFrom before pattern = true)
    (hdotted : 'İ' ∈ text → .anyChar ∉ elements pattern) {casedBefore other : Bool}
    (hbefore : IsTold before casedBefore other) :
    Matches (elements (settleFrom casedBefore pattern)) (settleFrom other text) := by
  -- The contexts differ in general, since a wildcard stands for what the text has there.
  induction pattern using elements_induction generalizing text before casedBefore other with
  | nil =>
      cases h
      exact .nil
  | last => exact nomatch h
  | escaped c rest ih =>
      obtain ⟨hsigma, hsigmas⟩ := tellsSigmasFrom_escaped.1 hsigmas
      obtain ⟨d, more, rfl, hsame, hmore⟩ := matches_char_iff.1 h
      have hplain : 'İ' ∈ more → .anyChar ∉ elements rest := fun hmem hany =>
        hdotted (List.mem_cons_of_mem d hmem) (List.mem_cons_of_mem _ hany)
      have hhere := settleFrom_cons hsame hmore hsigma
        (fun _ _ htold => ih hmore hsigmas hplain htold) hbefore.afterBackslash
      rw [← elements_backslash_settleChar_append] at hhere
      exact hhere
  | percent rest ih =>
      obtain ⟨ending, ⟨skipped, rfl⟩, hending⟩ := matches_anySequence_iff.1 h
      have hplain : 'İ' ∈ ending → .anyChar ∉ elements rest := fun hmem hany =>
        hdotted (List.mem_append_right skipped hmem) (List.mem_cons_of_mem _ hany)
      obtain ⟨settled, casedThen, hsettled⟩ := exists_settleFrom_append other skipped ending
      rw [hsettled]
      exact .anySequence settled (ih hending hsigmas hplain (isTold_none _ _))
  | underscore rest ih =>
      obtain ⟨d, more, rfl, hmore⟩ := matches_anyChar_iff.1 h
      have hplain : 'İ' ∉ d :: more := fun hmem => hdotted hmem List.mem_cons_self
      obtain ⟨form, hform⟩ := exists_settleChar_eq_singleton
        (List.ne_of_not_mem_cons hplain).symm (other && !casedAhead more)
      have htext : settleFrom other (d :: more) = form :: settleFrom (casedAfter other d) more := by
        rw [settleFrom, hform]
        rfl
      rw [htext]
      exact .anyChar form (ih hmore hsigmas
        (fun hmem => absurd (List.mem_cons_of_mem d hmem) hplain) (isTold_none _ _))
  | literal c rest hc ih =>
      rw [elements_cons hc] at h hdotted
      obtain ⟨hsigma, hsigmas⟩ := (tellsSigmasFrom_cons hc).1 hsigmas
      obtain ⟨d, more, rfl, hsame, hmore⟩ := matches_char_iff.1 h
      have hplain : 'İ' ∈ more → .anyChar ∉ elements rest := fun hmem hany =>
        hdotted (List.mem_cons_of_mem d hmem) (List.mem_cons_of_mem _ hany)
      have hhere := settleFrom_cons hsame hmore hsigma
        (fun _ _ htold => ih hmore hsigmas hplain htold) hbefore
      rw [← elements_settleChar_append hc] at hhere
      exact hhere

/-- A sigma at the end of a pattern has the letters of the pattern around it, but not one that a
wildcard follows. -/
example : TellsSigmas "%ΟΣ" ∧ TellsSigmas "Σ%" ∧ ¬ TellsSigmas "ΟΣ%" := by decide

/-! ## Settling what is read -/

theorem isLiteral_readChar {c : Char} (h : IsLiteral c) : IsLiteral (readChar c) := by
  unfold readChar
  split
  · decide
  · exact h

/-- The characters that are not read as themselves, and what is read for them, do not count for a
sigma and stay as they are. -/
theorem readChar_neutral (c : Char) :
    isCaseIgnorable (readChar c) = isCaseIgnorable c ∧ isCased (readChar c) = isCased c ∧
      (readChar c = 'Σ' ↔ c = 'Σ') ∧ (readChar c = 'İ' ↔ c = 'İ') := by
  unfold readChar
  split
  · rename_i hlast
    rcases hlast with rfl | rfl
    · decide +kernel
    · decide +kernel
  · exact ⟨rfl, rfl, Iff.rfl, Iff.rfl⟩

theorem casedAhead_readText (text : List Char) :
    casedAhead (readText text) = casedAhead text := by
  induction text with
  | nil => rfl
  | cons c rest ih =>
      by_cases hnull : c = '\x00'
      · subst hnull
        rfl
      · obtain ⟨hignorable, hcased, -, -⟩ := readChar_neutral c
        rw [readText_cons hnull, casedAhead, casedAhead, hignorable, hcased, ih]

theorem toldAhead_readText (pattern : List Char) :
    toldAhead (readText pattern) = toldAhead pattern := by
  induction pattern using elements_induction with
  | nil => rfl
  | last => rfl
  | escaped c rest ih =>
      rw [readText_cons (by decide)]
      by_cases hnull : c = '\x00'
      · subst hnull
        rfl
      · obtain ⟨hignorable, hcased, -, -⟩ := readChar_neutral c
        rw [readText_cons hnull, toldAhead, ← hignorable, ← hcased]
        rfl
  | percent rest ih => rfl
  | underscore rest ih => rfl
  | literal c rest hc ih =>
      by_cases hnull : c = '\x00'
      · subst hnull
        rfl
      · obtain ⟨hignorable, hcased, -, -⟩ := readChar_neutral c
        rw [readText_cons hnull, toldAhead_cons hc, toldAhead_cons (isLiteral_readChar hc),
          hignorable, hcased, ih]

theorem toldAfter_readChar (before : Option Bool) (c : Char) :
    toldAfter before (readChar c) = toldAfter before c := by
  obtain ⟨hignorable, hcased, -, -⟩ := readChar_neutral c
  rw [toldAfter, toldAfter, hignorable, hcased]

/-- What is read of a pattern tells the forms that the pattern tells. -/
theorem tellsSigmasFrom_readText {before : Option Bool} {pattern : List Char}
    (h : tellsSigmasFrom before pattern = true) : tellsSigmasFrom before (readText pattern) = true := by
  induction pattern using elements_induction generalizing before with
  | nil => rfl
  | last => rfl
  | escaped c rest ih =>
      obtain ⟨hsigma, hrest⟩ := tellsSigmasFrom_escaped.1 h
      rw [readText_cons (by decide)]
      by_cases hnull : c = '\x00'
      · subst hnull
        rfl
      · obtain ⟨-, -, hsame, -⟩ := readChar_neutral c
        rw [readText_cons hnull]
        refine tellsSigmasFrom_escaped.2 ⟨fun hc => ?_, ?_⟩
        · rw [toldAhead_readText]
          exact hsigma (hsame.1 hc)
        · rw [toldAfter_readChar]
          exact ih hrest
  | percent rest ih =>
      rw [readText_cons (by decide)]
      exact ih h
  | underscore rest ih =>
      rw [readText_cons (by decide)]
      exact ih h
  | literal c rest hc ih =>
      obtain ⟨hsigma, hrest⟩ := (tellsSigmasFrom_cons hc).1 h
      by_cases hnull : c = '\x00'
      · subst hnull
        rfl
      · obtain ⟨-, -, hsame, -⟩ := readChar_neutral c
        rw [readText_cons hnull, tellsSigmasFrom_cons (isLiteral_readChar hc), hsame,
          toldAhead_readText, toldAfter_readChar]
        exact ⟨hsigma, ih hrest⟩

theorem settleChar_readChar (final : Bool) (c : Char) :
    settleChar final (readChar c) = (settleChar final c).map readChar := by
  obtain ⟨-, -, hsigma, hdotted⟩ := readChar_neutral c
  simp only [settleChar, hsigma, hdotted]
  split
  · cases final <;> rfl
  · split <;> rfl

theorem null_not_mem_settleChar {c : Char} (hc : c ≠ '\x00') (final : Bool) :
    '\x00' ∉ settleChar final c := by
  unfold settleChar
  split
  · cases final <;> decide
  · split
    · decide
    · simpa using hc.symm

/-- A store reads a settled text as what it reads of the text, settled. -/
theorem readText_settleFrom (casedBefore : Bool) (text : List Char) :
    readText (settleFrom casedBefore text) = settleFrom casedBefore (readText text) := by
  induction text generalizing casedBefore with
  | nil => rfl
  | cons c rest ih =>
      by_cases hnull : c = '\x00'
      · subst hnull
        rfl
      · obtain ⟨hignorable, hcased, -, -⟩ := readChar_neutral c
        have hafter : casedAfter casedBefore (readChar c) = casedAfter casedBefore c := by
          rw [casedAfter, casedAfter, hignorable, hcased]
        rw [readText_cons hnull, settleFrom, settleFrom, casedAhead_readText, settleChar_readChar,
          hafter, readText_append (null_not_mem_settleChar hnull _), ih]

/-- What is read of a pattern has no character wildcard that the pattern does not have. -/
theorem anyChar_mem_of_readText {pattern : List Char}
    (h : .anyChar ∈ elements (readText pattern)) : .anyChar ∈ elements pattern := by
  induction pattern using elements_induction with
  | nil => exact h
  | last => exact h
  | escaped c rest ih =>
      rw [readText_cons (by decide)] at h
      by_cases hnull : c = '\x00'
      · subst hnull
        cases h with
        | tail _ h => cases h
      · rw [readText_cons hnull] at h
        cases h with
        | tail _ h => exact List.mem_cons_of_mem _ (ih h)
  | percent rest ih =>
      rw [readText_cons (by decide)] at h
      cases h with
      | tail _ h => exact List.mem_cons_of_mem _ (ih h)
  | underscore rest ih => exact List.mem_cons_self
  | literal c rest hc ih =>
      by_cases hnull : c = '\x00'
      · subst hnull
        cases h
      · rw [readText_cons hnull, elements_cons (isLiteral_readChar hc)] at h
        rw [elements_cons hc]
        cases h with
        | tail _ h => exact List.mem_cons_of_mem _ (ih h)

theorem dotted_mem_of_readText {text : List Char} (h : 'İ' ∈ readText text) : 'İ' ∈ text := by
  obtain ⟨c, hc, hread⟩ := List.mem_map.1 h
  obtain ⟨-, -, -, hdotted⟩ := readChar_neutral c
  rw [← hdotted.1 hread]
  exact (List.takeWhile_sublist _).subset hc

/-- A match of a name and a pattern is one of the two settled, if the pattern tells the forms of its
sigmas, and it has no character wildcard or the name no dotted capital I. -/
theorem holdsFor_settle {pattern name : String}
    (h : holdsFor pattern (readText name.toList) = true) (hsigmas : TellsSigmas pattern)
    (hdotted : 'İ' ∈ name.toList → .anyChar ∉ elements pattern.toList) :
    holdsFor (settle pattern) (readText (settle name).toList) = true := by
  rw [holdsFor, matchesElements_eq_true_iff] at h
  rw [holdsFor, matchesElements_eq_true_iff, toList_settle, toList_settle, readText_settleFrom,
    readText_settleFrom]
  have hplain : 'İ' ∈ readText name.toList → .anyChar ∉ elements (readText pattern.toList) :=
    fun hmem hany => hdotted (dotted_mem_of_readText hmem) (anyChar_mem_of_readText hany)
  exact h.settle (tellsSigmasFrom_readText hsigmas) hplain (isTold_some.2 ⟨rfl, rfl⟩)

end Like
end ChannelCatalog
