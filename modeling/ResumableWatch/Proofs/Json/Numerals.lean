import Mathlib.Algebra.Group.Nat.Defs
import ResumableWatch.Json.Parser
import ResumableWatch.Json.Printer
import ResumableWatch.Proofs.Bytes.Plain
import ResumableWatch.Proofs.Version.Merging
/-!
# Numbers that are read back

Two readers meet the numbers that are written: the one for numbers in text, which knows the digits
of every script, and the one for JSON text.  A `Literal` is what both understand in the same way, a
row of digits with a fraction or an exponent (`decimal?_chars`, `readNumber_chars`), and the layout
of a finite number is one (`layout_literal`).  So a fractional number that is read back from its own
text is read back from JSON text too (`readScalar_double`), and a whole number is if it has no more
digits than are read (`readScalar_int`).
-/

namespace ResumableWatch

open Number

/-! ### Rows of digits -/

namespace Json

/-- Something that does not go on with a number: the end, or what follows a value in a container. -/
inductive Closed : List Char → Prop where
  | nil : Closed []
  | comma (rest : List Char) : Closed (',' :: rest)
  | bracket (rest : List Char) : Closed (']' :: rest)
  | brace (rest : List Char) : Closed ('\x7d' :: rest)

/-- Only plain digits. -/
def AllDigits (cs : List Char) : Prop := ∀ c ∈ cs, isDigit c = true

theorem AllDigits.append {cs ds : List Char} (hcs : AllDigits cs) (hds : AllDigits ds) :
    AllDigits (cs ++ ds) := by
  intro c hc
  rcases List.mem_append.mp hc with hc | hc
  · exact hcs c hc
  · exact hds c hc

/-- A part of a row of digits is one. -/
theorem AllDigits.of_subset {cs ds : List Char} (hcs : AllDigits cs) (h : ds ⊆ cs) :
    AllDigits ds := fun c hc => hcs c (h hc)

/-- The text does not go on with a plain digit. -/
def NoDigit (rest : List Char) : Prop := ∀ c more, rest = c :: more → isDigit c = false

theorem noDigit_nil : NoDigit [] := by
  intro c more h
  cases h

theorem noDigit_cons {c : Char} (rest : List Char) (h : isDigit c = false) :
    NoDigit (c :: rest) := by
  intro d more hd
  cases hd
  exact h

/-- What may follow a value begins with no digit. -/
theorem Closed.noDigit {rest : List Char} (h : Closed rest) : NoDigit rest := by
  cases h with
  | nil => exact noDigit_nil
  | comma rest => exact noDigit_cons rest rfl
  | bracket rest => exact noDigit_cons rest rfl
  | brace rest => exact noDigit_cons rest rfl

/-- The ten digits are those between zero and nine. -/
theorem isDigit_iff {c : Char} : isDigit c = true ↔ '0' ≤ c ∧ c ≤ '9' := by
  rw [isDigit, Bool.and_eq_true, decide_eq_true_iff, decide_eq_true_iff]

/-- A plain digit is a plain character. -/
theorem plain_of_isDigit {c : Char} (h : isDigit c = true) : Bytes.Plain c := by
  obtain ⟨hlow, hhigh⟩ := isDigit_iff.mp h
  have hlow : '0'.toNat ≤ c.toNat := hlow
  have hhigh : c.toNat ≤ '9'.toNat := hhigh
  exact ⟨Nat.lt_of_lt_of_le (by decide) hlow, Nat.lt_of_le_of_lt hhigh (by decide)⟩

theorem ne_of_isDigit {c d : Char} (h : isDigit c = true) (hd : isDigit d = false) : c ≠ d := by
  rintro rfl
  rw [h] at hd
  cases hd

/-- Digits are read as far as they go. -/
theorem takeWhile_digits {cs rest : List Char} (h : AllDigits cs) (hrest : NoDigit rest) :
    (cs ++ rest).takeWhile isDigit = cs ∧ (cs ++ rest).dropWhile isDigit = rest := by
  induction cs with
  | nil =>
    cases rest with
    | nil => exact ⟨rfl, rfl⟩
    | cons c more => simp [hrest c more rfl]
  | cons c cs ih =>
    have hc := h c List.mem_cons_self
    have hcs := ih fun d hd => h d (List.mem_cons_of_mem c hd)
    simp [hc, hcs]

theorem digits_append {cs rest : List Char} (h : AllDigits cs) (hrest : NoDigit rest) :
    digits (cs ++ rest) = Version.digits cs := by
  rw [digits, (takeWhile_digits h hrest).1]
  rfl

/-- What is left behind the digits is what followed them. -/
theorem afterDigits_append {cs rest : List Char} (h : AllDigits cs) (hrest : NoDigit rest) :
    afterDigits (cs ++ rest) = rest := (takeWhile_digits h hrest).2

end Json

namespace Number

open Json

/-- Something that ends a row of digits: the end, a point or an exponent. -/
inductive Continued : List Char → Prop where
  | nil : Continued []
  | point (rest : List Char) : Continued ('.' :: rest)
  | power (rest : List Char) : Continued ('e' :: rest)

/-- A plain digit is a digit for the reader of versions as well, and of the same value. -/
theorem digitValue?_of_isDigit {c : Char} (h : isDigit c = true) :
    Text.digitValue? c = some (c.toNat - '0'.toNat) := by
  rw [Text.digitValue?, if_pos (plain_of_isDigit h).2, if_pos (isDigit_iff.mp h)]

/-- Both readers take the same digits. -/
theorem digitRun_append {cs rest : List Char} (h : AllDigits cs) (hrest : Continued rest) :
    digitRun (cs ++ rest) = some (Version.digits cs, rest) := by
  have hmore : moreDigits (cs ++ rest) = some (Version.digits cs, rest) := by
    induction cs with
    | nil => cases hrest <;> rfl
    | cons c cs ih =>
      have hcs := ih fun d hd => h d (List.mem_cons_of_mem c hd)
      rw [List.cons_append, moreDigits, digitValue?_of_isDigit (h c List.mem_cons_self), hcs]
      rfl
  -- a run of digits does not begin with an underscore: it begins with a digit, or what
  -- follows begins with neither
  have hunderscore : (cs ++ rest).head? ≠ some '_' := by
    cases cs with
    | nil => cases hrest <;> simp
    | cons c cs =>
      have hc : c ≠ '_' := ne_of_isDigit (h c List.mem_cons_self) rfl
      simpa using hc
  rw [digitRun, if_neg hunderscore, hmore]

/-! ### Literals -/

/-- A number as it is laid out: whole digits, digits behind a point where there are any, and an
exponent with its sign where there is one. -/
structure Literal where
  whole : List Char
  fraction : List Char := []
  exponent : Option (Bool × List Char) := none

namespace Literal

/-- Digits behind a point, if there are any. -/
def pointed : List Char → List Char
  | [] => []
  | c :: cs => '.' :: c :: cs

/-- An exponent, if there is one. -/
def powered : Option (Bool × List Char) → List Char
  | none => []
  | some (negative, cs) => 'e' :: (if negative then '-' else '+') :: cs

/-- The characters of a literal. -/
def chars (l : Literal) : List Char := l.whole ++ (pointed l.fraction ++ powered l.exponent)

/-- The power of ten that an exponent stands for. -/
def power : Option (Bool × List Char) → Int
  | none => 0
  | some (negative, cs) =>
    if negative then -(ofDigits (Version.digits cs) : Int) else ofDigits (Version.digits cs)

/-- The number that a literal stands for. -/
def decimal (l : Literal) : Decimal where
  whole := Version.digits l.whole
  fraction := Version.digits l.fraction
  exponent := power l.exponent

/-- The whole digits are there and begin with a zero only if that is all, an exponent has digits,
and one of fraction and exponent is there. -/
structure Proper (l : Literal) : Prop where
  whole : AllDigits l.whole
  nonempty : l.whole ≠ []
  lead : l.whole.head? = some '0' → l.whole = ['0']
  fraction : AllDigits l.fraction
  exponent : ∀ negative cs, l.exponent = some (negative, cs) → AllDigits cs ∧ cs ≠ []
  fractional : l.fraction ≠ [] ∨ l.exponent ≠ none

variable {l : Literal}

/-- The exponent, if there is one, begins with a letter and so ends the digits before it. -/
theorem continued_powered (exponent : Option (Bool × List Char)) :
    Continued (powered exponent) := by
  cases exponent with
  | none => exact .nil
  | some signed => exact .power _

/-- So does the fraction, with its point. -/
theorem continued_pointed (fraction : List Char) (exponent : Option (Bool × List Char)) :
    Continued (pointed fraction ++ powered exponent) := by
  cases fraction with
  | nil => exact continued_powered exponent
  | cons c cs => exact .point _

theorem digits_ne_nil {cs : List Char} (h : cs ≠ []) : Version.digits cs ≠ [] := by
  simpa [Version.digits] using h

theorem splitSign_signed (negative : Bool) (cs : List Char) :
    splitSign ((if negative then '-' else '+') :: cs) = (negative, cs) := by
  cases negative <;> rfl

/-- The exponent of a literal is read off in full. -/
theorem exponentPart_powered (h : l.Proper) :
    exponentPart (powered l.exponent) = some (power l.exponent, []) := by
  cases hexponent : l.exponent with
  | none => rfl
  | some signed =>
    obtain ⟨negative, cs⟩ := signed
    obtain ⟨hcs, hne⟩ := h.exponent negative cs hexponent
    have hrun := digitRun_append hcs .nil
    rw [List.append_nil] at hrun
    rw [powered, exponentPart, if_pos (.inl rfl), splitSign_signed]
    dsimp only
    rw [hrun]
    cases cs with
    | nil => exact absurd rfl hne
    | cons c cs => rfl

/-- The reader of numbers in text understands a literal. -/
theorem decimal?_chars (h : l.Proper) : decimal? l.chars = some l.decimal := by
  have hwhole := digitRun_append h.whole (continued_pointed l.fraction l.exponent)
  have hsome := digits_ne_nil h.nonempty
  have hpower := exponentPart_powered h
  rw [decimal?, chars, hwhole]
  cases hfraction : l.fraction with
  | nil =>
    cases hexponent : l.exponent with
    -- a literal has a fraction or an exponent
    | none => exact absurd hexponent (h.fractional.resolve_left fun hne => hne hfraction)
    | some signed =>
      rw [hexponent, powered] at hpower
      simp [pointed, powered, hsome, hpower, decimal, hfraction, hexponent]
      rfl
  | cons c cs =>
    -- behind the point stands a run of digits, which the exponent ends
    have hrun := digitRun_append h.fraction (continued_powered l.exponent)
    rw [hfraction, List.cons_append] at hrun
    simp [pointed, hrun, hsome, hpower, decimal, hfraction]

/-! ### Literals in JSON text -/

variable {rest : List Char}

theorem noDigit_powered (exponent : Option (Bool × List Char)) (hrest : Closed rest) :
    NoDigit (powered exponent ++ rest) := by
  cases exponent with
  | none => exact hrest.noDigit
  | some signed => exact noDigit_cons _ rfl

theorem noDigit_pointed (fraction : List Char) (exponent : Option (Bool × List Char))
    (hrest : Closed rest) : NoDigit (pointed fraction ++ (powered exponent ++ rest)) := by
  cases fraction with
  | nil => exact noDigit_powered exponent hrest
  | cons c cs => exact noDigit_cons _ rfl

/-- The fraction of a literal is read off, if it has one. -/
theorem fraction?_pointed (h : l.Proper) (hrest : Closed rest) :
    fraction? (pointed l.fraction ++ (powered l.exponent ++ rest)) =
      if l.fraction = [] then none
      else some (Version.digits l.fraction, powered l.exponent ++ rest) := by
  have hnext := noDigit_powered l.exponent hrest
  have hdigits := digits_append h.fraction hnext
  have hafter := afterDigits_append h.fraction hnext
  cases hfraction : l.fraction with
  | nil =>
    -- what comes instead of a fraction does not begin with a point
    cases hexponent : l.exponent with
    | none => cases hrest <;> rfl
    | some signed => rfl
  | cons c cs =>
    have hsome : Version.digits (c :: cs) ≠ [] := digits_ne_nil (List.cons_ne_nil c cs)
    rw [hfraction] at hdigits hafter
    rw [pointed, List.cons_append, fraction?, hdigits, hafter]
    simp [hsome]

/-- The exponent of a literal is read off, if it has one. -/
theorem exponent?_powered (h : l.Proper) (hrest : Closed rest) :
    exponent? (powered l.exponent ++ rest) =
      if l.exponent = none then none else some (power l.exponent, rest) := by
  cases hexponent : l.exponent with
  | none => cases hrest <;> rfl
  | some signed =>
    obtain ⟨negative, cs⟩ := signed
    obtain ⟨hcs, hne⟩ := h.exponent negative cs hexponent
    have hdigits := digits_append hcs hrest.noDigit
    have hafter := afterDigits_append hcs hrest.noDigit
    rw [powered, List.cons_append, List.cons_append, exponent?, if_pos (.inl rfl), splitSign_signed]
    simp [hdigits, hafter, digits_ne_nil hne, power]

/-- The whole part is read off: it has no zero in front, unless it is zero. -/
theorem wholeDigits?_append {cs : List Char} (h : AllDigits cs) (hne : cs ≠ [])
    (hlead : cs.head? = some '0' → cs = ['0']) (hrest : NoDigit rest) :
    wholeDigits? (cs ++ rest) = some (Version.digits cs, rest) := by
  have hdigits := digits_append h hrest
  have hafter := afterDigits_append h hrest
  by_cases hzero : cs.head? = some '0'
  · rw [hlead hzero]
    rfl
  · have hother : ∀ more, cs ++ rest = '0' :: more → False := by
      intro more hmore
      have hhead : (cs ++ rest).head? = cs.head? := List.head?_append_of_ne_nil cs hne
      rw [hmore] at hhead
      exact hzero hhead.symm
    rw [wholeDigits?.eq_2 _ hother, hdigits, hafter]
    simp [digits_ne_nil hne]

/-- A sign, where there is one. -/
def sign (negative : Bool) : List Char := if negative then ['-'] else []

/-- A literal without its sign does not look like one with it. -/
theorem head_ne_minus {cs : List Char} (h : AllDigits cs) (hne : cs ≠ []) (rest more : List Char) :
    cs ++ rest ≠ '-' :: more := by
  cases cs with
  | nil => exact absurd rfl hne
  | cons c cs =>
    have hc : c ≠ '-' := ne_of_isDigit (h c List.mem_cons_self) rfl
    intro heq
    cases heq
    exact hc rfl

/-- What the reader of JSON text finds behind the whole digits of a literal: at least one of
fraction and exponent, the digits of the one, the power of the other, and what follows both. -/
theorem exists_parts (h : l.Proper) (hrest : Closed rest) :
    ∃ part power', fraction? (pointed l.fraction ++ (powered l.exponent ++ rest)) = part ∧
      exponent? (part.elim (pointed l.fraction ++ (powered l.exponent ++ rest)) Prod.snd) = power' ∧
      ¬ (part = none ∧ power' = none) ∧ part.elim [] Prod.fst = Version.digits l.fraction ∧
      power'.elim 0 Prod.fst = power l.exponent ∧
      power'.elim (part.elim (pointed l.fraction ++ (powered l.exponent ++ rest)) Prod.snd) Prod.snd
        = rest := by
  have hfraction := fraction?_pointed h hrest
  have hexponent := exponent?_powered h hrest
  by_cases hnone : l.fraction = []
  · -- without a fraction there is an exponent
    have hsome : l.exponent ≠ none := h.fractional.resolve_left fun hne => hne hnone
    refine ⟨none, some (power l.exponent, rest), ?_, ?_, by simp, ?_, rfl, rfl⟩
    · rw [hfraction, if_pos hnone]
    · rw [if_neg hsome] at hexponent
      rw [hnone]
      exact hexponent
    · rw [hnone]
      rfl
  · -- with a fraction there may be an exponent or none
    refine ⟨some (Version.digits l.fraction, powered l.exponent ++ rest),
      exponent? (powered l.exponent ++ rest), ?_, rfl, by simp, rfl, ?_, ?_⟩
    · rw [hfraction, if_neg hnone]
    · rw [hexponent]
      cases l.exponent <;> rfl
    · rw [hexponent]
      cases l.exponent <;> rfl

/-- The reader of JSON text understands a literal in the same way. -/
theorem readNumber_chars (h : l.Proper) (hrest : Closed rest) (negative : Bool) :
    readNumber (sign negative ++ (l.chars ++ rest)) =
      .ok (.double (l.decimal.toDouble negative), rest) := by
  have hwhole := wholeDigits?_append h.whole h.nonempty h.lead
    (noDigit_pointed l.fraction l.exponent hrest)
  -- a literal without its sign begins with a digit, so it takes the other branch
  have hdigit := head_ne_minus h.whole h.nonempty
    (pointed l.fraction ++ (powered l.exponent ++ rest))
  obtain ⟨part, power', hpart, hpower, hsome, hfraction, hexponent, hleft⟩ := exists_parts h hrest
  rw [chars, List.append_assoc, List.append_assoc]
  cases negative with
  | true =>
    rw [sign, if_pos rfl, List.singleton_append, readNumber]
    simp only [hwhole, hpart, hpower]
    split
    · exact absurd ⟨rfl, rfl⟩ hsome
    · rw [hfraction, hexponent, hleft, decimal]
  | false =>
    rw [sign, if_neg Bool.false_ne_true, List.nil_append, readNumber.eq_2 _ hdigit]
    simp only [hwhole, hpart, hpower]
    split
    · exact absurd ⟨rfl, rfl⟩ hsome
    · rw [hfraction, hexponent, hleft, decimal]

end Literal

/-! ### The layout of numbers -/

theorem digitChars_eq (n : Nat) : digitChars n = (toString n).toList := by
  rw [digitChars, Nat.toString_eq_repr, Nat.toList_repr]

theorem allDigits_digitChars (n : Nat) : AllDigits (digitChars n) := by
  have h := Version.isDecimal_toString n
  rw [Version.isDecimal, Bool.and_eq_true] at h
  rw [digitChars_eq]
  exact List.all_eq_true.mp h.2

theorem digitChars_ne_nil (n : Nat) : digitChars n ≠ [] := Nat.toDigits_ne_nil

/-- The digits of a number that is not zero do not begin with zero. -/
theorem head?_digitChars {n : Nat} (h : n ≠ 0) : (digitChars n).head? ≠ some '0' := by
  rw [digitChars_eq]
  exact Version.head?_toString_ne_zero h

/-- The digits of a number are read as that number. -/
theorem ofDigits_digitChars (n : Nat) : ofDigits (Version.digits (digitChars n)) = n := by
  rw [digitChars_eq]
  exact Version.value_toString n

theorem allDigits_zeros (n : Nat) : AllDigits (List.replicate n '0') := by
  intro c hc
  rw [List.eq_of_mem_replicate hc]
  rfl

section Layout

variable {cs : List Char} (hcs : AllDigits cs) (hne : cs ≠ []) (hlead : cs.head? ≠ some '0')

include hcs hne hlead

/-- Written with its point, a number is a literal: zeros fill up what is missing on either side. -/
theorem positional_literal (exponent : Int) :
    ∃ l : Literal, l.Proper ∧ positional cs exponent = l.chars := by
  rw [positional]
  by_cases hwhole : exponent ≥ 0
  · -- zeros up to the point, and one behind it
    rw [if_pos hwhole]
    refine ⟨⟨cs ++ List.replicate exponent.toNat '0', ['0'], none⟩, ?_, ?_⟩
    · refine ⟨hcs.append (allDigits_zeros _), by simp [hne], fun hzero => ?_, allDigits_zeros 1,
        by simp, by simp⟩
      -- the zeros are put behind, so the first digit is that of the number
      rw [List.head?_append_of_ne_nil cs hne] at hzero
      exact absurd hzero hlead
    · simp [Literal.chars, Literal.pointed, Literal.powered]
  rw [if_neg hwhole]
  dsimp only
  by_cases hshort : (-exponent).toNat < cs.length
  · -- the point stands between two digits
    rw [if_pos hshort]
    generalize hsize : cs.length - (-exponent).toNat = size
    -- the point is to the left of the last digit, and to the right of the first one
    have hfront : cs.take size ≠ [] := by
      intro hnil
      have := congrArg List.length hnil
      rw [List.length_take, List.length_nil] at this
      omega
    obtain ⟨d, ds, hback⟩ : ∃ d ds, cs.drop size = d :: ds := by
      apply List.exists_cons_of_ne_nil
      intro hnil
      have := congrArg List.length hnil
      rw [List.length_drop, List.length_nil] at this
      omega
    refine ⟨⟨cs.take size, cs.drop size, none⟩, ?_, ?_⟩
    · refine ⟨hcs.of_subset (List.take_subset _ _), hfront, fun hzero => ?_,
        hcs.of_subset (List.drop_subset _ _), by simp, by simp [hback]⟩
      -- a zero in front would be the first digit of the number
      have hhead : cs.head? = some '0' := by
        rw [← List.take_append_drop size cs, List.head?_append_of_ne_nil _ hfront, hzero]
      exact absurd hhead hlead
    · simp [Literal.chars, Literal.pointed, Literal.powered, hback]
  · -- zeros behind the point come first
    rw [if_neg hshort]
    obtain ⟨d, ds, hback⟩ : ∃ d ds,
        List.replicate ((-exponent).toNat - cs.length) '0' ++ cs = d :: ds :=
      List.exists_cons_of_ne_nil (List.append_ne_nil_of_right_ne_nil _ hne)
    refine ⟨⟨['0'], List.replicate ((-exponent).toNat - cs.length) '0' ++ cs, none⟩, ?_, ?_⟩
    · exact ⟨allDigits_zeros 1, List.cons_ne_nil _ _, fun _ => rfl, (allDigits_zeros _).append hcs,
        by simp, .inl (List.append_ne_nil_of_right_ne_nil _ hne)⟩
    · simp [Literal.chars, Literal.pointed, Literal.powered, hback]

/-- Written with an exponent, a number is a literal: one digit stands before the
point, if there is one. -/
theorem scientific_literal (exponent : Int) :
    ∃ l : Literal, l.Proper ∧ scientific cs exponent = l.chars := by
  rw [scientific]
  generalize hleading : exponent + (cs.length : Int) - 1 = leading
  obtain ⟨c, more, rfl⟩ := List.exists_cons_of_ne_nil hne
  -- the exponent is padded to two digits
  have hpower : AllDigits (List.replicate (2 - (digitChars leading.natAbs).length) '0'
      ++ digitChars leading.natAbs) := (allDigits_zeros _).append (allDigits_digitChars _)
  have hsome : List.replicate (2 - (digitChars leading.natAbs).length) '0'
      ++ digitChars leading.natAbs ≠ [] :=
    List.append_ne_nil_of_right_ne_nil _ (digitChars_ne_nil _)
  generalize List.replicate (2 - (digitChars leading.natAbs).length) '0'
    ++ digitChars leading.natAbs = padded at hpower hsome ⊢
  refine ⟨⟨[c], more, some (decide (leading < 0), padded)⟩, ?_, ?_⟩
  · refine ⟨hcs.of_subset (by simp), List.cons_ne_nil _ _, fun hzero => absurd hzero hlead,
      hcs.of_subset (List.subset_cons_self c more), ?_, .inr (by simp)⟩
    rintro negative ds ⟨⟩
    exact ⟨hpower, hsome⟩
  · -- without a second digit there is no point
    cases more <;> simp [Literal.chars, Literal.pointed, Literal.powered]

end Layout

/-- The layout of a number is a literal. -/
theorem layout_literal (digits : Nat) (exponent : Int) :
    ∃ l : Literal, l.Proper ∧ layout digits exponent = l.chars := by
  rw [layout]
  generalize stripZeros 800 (digits, exponent) = stripped
  obtain ⟨n, power⟩ := stripped
  dsimp only
  by_cases hzero : n = 0
  · -- zero is written with one zero on each side of its point
    rw [if_pos hzero]
    refine ⟨⟨['0'], ['0'], none⟩, ?_, rfl⟩
    exact ⟨allDigits_zeros 1, List.cons_ne_nil _ _, fun _ => rfl, allDigits_zeros 1, by simp,
      by simp⟩
  rw [if_neg hzero]
  have hcs := allDigits_digitChars n
  have hne := digitChars_ne_nil n
  have hlead := head?_digitChars hzero
  split_ifs
  · exact positional_literal hcs hne hlead power
  · exact scientific_literal hcs hne hlead power

/-! ### Fractional numbers -/

/-- A plain character that is no space, and with which no text and no container begins or ends. -/
def Bare (c : Char) : Prop :=
  Bytes.Plain c ∧ isSpace c = false ∧ c ∉ ['\x22', '[', ']', '\x7b', '\x7d']

instance : DecidablePred Bare := fun _ => inferInstanceAs (Decidable (_ ∧ _ ∧ _))

/-- What holds of the ten digits holds of every plain digit. -/
theorem of_isDigit {P : Char → Prop} (hall : ∀ n < 10, P (Char.ofNat (0x30 + n))) {c : Char}
    (h : isDigit c = true) : P c := by
  obtain ⟨hlow, hhigh⟩ := isDigit_iff.mp h
  have hlow : 0x30 ≤ c.toNat := hlow
  have hhigh : c.toNat ≤ 0x39 := hhigh
  have hc := hall (c.toNat - 0x30) (by omega)
  rwa [show 0x30 + (c.toNat - 0x30) = c.toNat by omega, Char.ofNat_toNat] at hc

namespace Literal

variable {l : Literal}

/-- The characters of a literal with its sign: digits, and four others. -/
theorem isDigit_or_mem (h : l.Proper) {negative : Bool} {c : Char}
    (hc : c ∈ sign negative ++ l.chars) : isDigit c = true ∨ c ∈ ['-', '+', '.', 'e'] := by
  rw [chars] at hc
  rcases List.mem_append.mp hc with hc | hc
  · -- the sign
    cases negative with
    | false => cases hc
    | true =>
      rw [List.mem_singleton.mp hc]
      exact .inr (by decide)
  rcases List.mem_append.mp hc with hc | hc
  · -- the whole part
    exact .inl (h.whole c hc)
  rcases List.mem_append.mp hc with hc | hc
  · -- the fraction
    cases hfraction : l.fraction with
    | nil =>
      rw [hfraction] at hc
      cases hc
    | cons d ds =>
      rw [hfraction] at hc
      rcases List.mem_cons.mp hc with rfl | hc
      · exact .inr (by decide)
      · exact .inl (h.fraction c (hfraction ▸ hc))
  · -- the exponent
    cases hexponent : l.exponent with
    | none =>
      rw [hexponent] at hc
      cases hc
    | some signed =>
      obtain ⟨minus, cs⟩ := signed
      rw [hexponent] at hc
      rcases List.mem_cons.mp hc with rfl | hc
      · exact .inr (by decide)
      rcases List.mem_cons.mp hc with rfl | hc
      · cases minus <;> exact .inr (by decide)
      · exact .inl ((h.exponent minus cs hexponent).1 c hc)

theorem not_blank (h : l.Proper) {negative : Bool} {c : Char} (hc : c ∈ sign negative ++ l.chars) :
    Text.isBlank c = false := by
  have hothers : ∀ d ∈ ['-', '+', '.', 'e'], Text.isBlank d = false :=
    List.all_iff_forall_prop.mp (by decide)
  rcases isDigit_or_mem h hc with hc | hc
  · exact of_isDigit (P := fun d => Text.isBlank d = false) (by decide) hc
  · exact hothers c hc

/-- None of the characters of a literal begins or ends anything. -/
theorem bare_of_mem (h : l.Proper) {negative : Bool} {c : Char}
    (hc : c ∈ sign negative ++ l.chars) : Bare c := by
  have hothers : ∀ d ∈ ['-', '+', '.', 'e'], Bare d := List.all_iff_forall_prop.mp (by decide)
  rcases isDigit_or_mem h hc with hc | hc
  · exact of_isDigit (by decide) hc
  · exact hothers c hc

/-- A literal begins with a digit. -/
theorem exists_chars (h : l.Proper) : ∃ c cs, l.chars = c :: cs ∧ isDigit c = true := by
  obtain ⟨c, cs, hwhole⟩ := List.exists_cons_of_ne_nil h.nonempty
  refine ⟨c, cs ++ (pointed l.fraction ++ powered l.exponent), ?_, h.whole c (by simp [hwhole])⟩
  rw [chars, hwhole, List.cons_append]

/-- The sign of a literal is read off. -/
theorem splitSign_sign (h : l.Proper) (negative : Bool) :
    splitSign (sign negative ++ l.chars) = (negative, l.chars) := by
  cases negative with
  | true => rfl
  | false =>
    obtain ⟨c, cs, hchars, hc⟩ := exists_chars h
    rw [sign, if_neg Bool.false_ne_true, List.nil_append, hchars, splitSign]
    · rintro rest ⟨⟩
      cases hc
    · rintro rest ⟨⟩
      cases hc

/-- A literal is no word. -/
theorem ne_word (h : l.Proper) {word : String} {c : Char} {cs : List Char}
    (hword : word.toList = c :: cs) (hc : isDigit c = false) :
    String.ofList (l.chars.map Char.toLower) ≠ word := by
  intro heq
  obtain ⟨d, ds, hchars, hd⟩ := exists_chars h
  have hlist := congrArg String.toList heq
  rw [String.toList_ofList, hword, hchars, List.map_cons, List.cons.injEq] at hlist
  have hlower : isDigit d.toLower = true :=
    of_isDigit (P := fun d => isDigit d.toLower = true) (by decide) hd
  rw [hlist.1, hc] at hlower
  cases hlower

/-- The reader of numbers in text reads a literal as the number that it stands for. -/
theorem double_chars (h : l.Proper) (negative : Bool) :
    double (String.ofList (sign negative ++ l.chars)) = .ok (l.decimal.toDouble negative) := by
  have hstrip : Text.strip Text.isBlank (sign negative ++ l.chars) = sign negative ++ l.chars :=
    Text.strip_of_none fun c hc => not_blank h hc
  rw [double, String.toList_ofList, hstrip, splitSign_sign h]
  dsimp only
  rw [if_neg, if_neg (ne_word h rfl rfl), decimal?_chars h]
  rintro (hinf | hinf)
  · exact ne_word h rfl rfl hinf
  · exact ne_word h rfl rfl hinf

end Literal

/-- The text of a finite number is a literal with a sign. -/
theorem text_literal (negative : Bool) {units : Nat} (hunits : Representable units) :
    ∃ l : Literal, l.Proper ∧
      (Double.finite negative units hunits).text =
        String.ofList (Literal.sign negative ++ l.chars) := by
  obtain ⟨l, hl, hlayout⟩ := layout_literal (shortest units).1 (shortest units).2
  refine ⟨l, hl, ?_⟩
  rw [Double.text, ← hlayout]
  cases negative <;> rfl

end Number

/-! ### Numbers in JSON text -/

namespace Json

/-- A number in JSON text is no word. -/
theorem readScalar_number (negative : Bool) {cs : List Char} (h : AllDigits cs) (hne : cs ≠ [])
    (rest : List Char) :
    readScalar (Literal.sign negative ++ (cs ++ rest)) =
      readNumber (Literal.sign negative ++ (cs ++ rest)) := by
  obtain ⟨c, cs, rfl⟩ := List.exists_cons_of_ne_nil hne
  have hne {d : Char} (hd : isDigit d = false) : ¬ d = c :=
    fun hdc => ne_of_isDigit (h c List.mem_cons_self) hd hdc.symm
  unfold readScalar
  split
  · -- every word begins with a letter or a sign and a letter
    rename_i found hfound
    cases negative <;>
      simp [words, afterWord?, Literal.sign, hne (d := 'n') rfl, hne (d := 't') rfl,
        hne (d := 'f') rfl, hne (d := 'N') rfl, hne (d := 'I') rfl, hne (d := '-') rfl] at hfound
  · rfl

/-- An integer is written as its sign and the digits of its absolute value. -/
theorem toList_toString (n : Int) :
    (toString n).toList = Literal.sign (decide (n < 0)) ++ digitChars n.natAbs := by
  cases n with
  | ofNat m => simp [toString, Int.repr, Literal.sign, digitChars]
  | negSucc m => simp [toString, Int.repr, Literal.sign, digitChars, Int.negSucc_lt_zero]

/-- Only zero has a zero for its first digit. -/
theorem digitChars_of_head {n : Nat} (h : (digitChars n).head? = some '0') :
    digitChars n = ['0'] := by
  by_cases hzero : n = 0
  · rw [hzero]
    rfl
  · exact absurd h (head?_digitChars hzero)

/-- What ends a value is neither a fraction nor an exponent. -/
theorem Closed.no_parts {rest : List Char} (h : Closed rest) :
    fraction? rest = none ∧ exponent? rest = none := by
  cases h <;> exact ⟨rfl, rfl⟩

/-- A whole number of no more digits than are read is read back. -/
theorem readScalar_int {n : Int} (hn : n.natAbs < 10 ^ digitLimit) {rest : List Char}
    (hrest : Closed rest) :
    readScalar ((toString n).toList ++ rest) = .ok (.int n, rest) := by
  have hcs := allDigits_digitChars n.natAbs
  have hne := digitChars_ne_nil n.natAbs
  have hwhole := Literal.wholeDigits?_append hcs hne digitChars_of_head hrest.noDigit
  have hdigit := Literal.head_ne_minus hcs hne rest
  -- the digits are no more than may be read
  have hshort : (Version.digits (digitChars n.natAbs)).length ≤ digitLimit := by
    rw [Version.digits, List.length_map]
    exact (Nat.length_toDigits_le_iff (by decide) (by decide)).mpr hn
  -- neither a fraction nor an exponent follows, so the number is an integer
  obtain ⟨hfraction, hexponent⟩ := hrest.no_parts
  rw [toList_toString, List.append_assoc, readScalar_number _ hcs hne]
  rcases Int.lt_or_le n 0 with hneg | hpos
  · have hminus : -(n.natAbs : Int) = n := by omega
    rw [Literal.sign, decide_eq_true hneg, if_pos rfl, List.singleton_append, readNumber]
    simp only [hwhole, hfraction, Option.elim_none, hexponent, hshort, if_true,
      ofDigits_digitChars, hminus]
  · have hplus : (n.natAbs : Int) = n := by omega
    rw [Literal.sign, decide_eq_false (Int.not_lt.mpr hpos), if_neg Bool.false_ne_true,
      List.nil_append, readNumber.eq_2 _ hdigit]
    simp only [hwhole, hfraction, Option.elim_none, hexponent, hshort, if_true,
      ofDigits_digitChars, Bool.false_eq_true, if_false, hplus]

/-- Nor does one of the characters of an integer. -/
theorem bare_of_mem_toString {n : Int} {c : Char} (h : c ∈ (toString n).toList) : Bare c := by
  rw [toList_toString, Literal.sign] at h
  rcases List.mem_append.mp h with h | h
  · split_ifs at h
    · rw [List.mem_singleton.mp h]
      decide
    · cases h
  · exact of_isDigit (by decide) (allDigits_digitChars _ c h)

theorem printDouble_finite (negative : Bool) {units : Nat} (hunits : Representable units) :
    printDouble (.finite negative units hunits) =
      (Double.finite negative units hunits).text.toList := rfl

/-- Nor does one of those of a number that is printed. -/
theorem bare_of_mem_printDouble {d : Double} {c : Char} (h : c ∈ printDouble d) : Bare c := by
  cases d with
  | nan => exact List.all_iff_forall_prop (l := printDouble .nan).mp (by decide) c h
  | infinite negative =>
    cases negative with
    | false => exact List.all_iff_forall_prop (l := printDouble (.infinite false)).mp (by decide) c h
    | true => exact List.all_iff_forall_prop (l := printDouble (.infinite true)).mp (by decide) c h
  | finite negative units hunits =>
    obtain ⟨l, hl, htext⟩ := text_literal negative hunits
    rw [printDouble_finite, htext, String.toList_ofList] at h
    exact Literal.bare_of_mem hl h

/-- A fractional number that is read back from its text is read back from JSON text. -/
theorem readScalar_double {d : Double} (hd : Number.double d.text = .ok d) {rest : List Char}
    (hrest : Closed rest) : readScalar (printDouble d ++ rest) = Except.ok (.double d, rest) := by
  cases d with
  | nan => rfl
  | infinite negative => cases negative <;> rfl
  | finite negative units hunits =>
    obtain ⟨l, hl, htext⟩ := text_literal negative hunits
    -- the reader of numbers in text says which number the literal stands for
    have hvalue : Double.finite negative units hunits = l.decimal.toDouble negative := by
      have hread := Literal.double_chars hl negative
      rw [← htext, hd] at hread
      exact Except.ok.inj hread
    rw [printDouble_finite, htext, String.toList_ofList, List.append_assoc, hvalue,
      ← Literal.readNumber_chars hl hrest negative, Literal.chars, List.append_assoc]
    exact readScalar_number negative hl.whole hl.nonempty _

end Json

end ResumableWatch
