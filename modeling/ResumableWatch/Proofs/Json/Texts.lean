import ResumableWatch.Json.Parser
import ResumableWatch.Json.Printer
import ResumableWatch.Proofs.Bytes.Plain
/-!
# Text between quotes

The escapes of a character are read as that character: a short escape by its letter, a numbered one
by its four hexadecimal digits, and a character beyond the first 65536 by a pair of surrogates.  All
of them are plain characters.  So text that is written between quotes is read as it was, and what
follows the closing quote is left (`readString_printText`).
-/

namespace ResumableWatch.Json

open Text

/-! ### Hexadecimal digits -/

/-- A hexadecimal digit is read as what it stands for. -/
theorem hexValue?_digitChar {d : Nat} (h : d < 16) : hexValue? (Nat.digitChar d) = some d := by
  have hall : ∀ d < 16, hexValue? (Nat.digitChar d) = some d := by decide
  exact hall d h

theorem plain_digitChar {d : Nat} (h : d < 16) : Bytes.Plain (Nat.digitChar d) := by
  have hall : ∀ d < 16, Bytes.Plain (Nat.digitChar d) := by decide
  exact hall d h

/-- A number of sixteen bits has four hexadecimal digits, with zeros in front. -/
theorem hex_four {n : Nat} (h : n < 0x10000) :
    hex 4 n = [Nat.digitChar (n / 0x1000), Nat.digitChar (n / 0x100 % 16),
      Nat.digitChar (n / 0x10 % 16), Nat.digitChar (n % 16)] := by
  have hstep {m : Nat} (hm : 16 ≤ m) :
      Nat.toDigits 16 m = Nat.toDigits 16 (m / 16) ++ [Nat.digitChar (m % 16)] :=
    Nat.toDigits_of_base_le (by decide) hm
  have hlast {m : Nat} (hm : m < 16) : Nat.toDigits 16 m = [Nat.digitChar m] :=
    Nat.toDigits_of_lt_base hm
  have hzero : Nat.digitChar 0 = '0' := rfl
  have h256 : n / 16 / 16 = n / 0x100 := Nat.div_div_eq_div_mul n 16 16
  have h4096 : n / 0x100 / 16 = n / 0x1000 := Nat.div_div_eq_div_mul n 0x100 16
  rw [hex]
  -- one to four digits come out, and zeros fill up the rest
  rcases Nat.lt_or_ge n 0x10 with h₁ | h₁
  · have e₁ : n / 0x10 = 0 := by omega
    have e₂ : n / 0x100 = 0 := by omega
    have e₃ : n / 0x1000 = 0 := by omega
    simp [hlast h₁, e₁, e₂, e₃, hzero, Nat.mod_eq_of_lt h₁, List.replicate]
  rcases Nat.lt_or_ge n 0x100 with h₂ | h₂
  · have e₂ : n / 0x100 = 0 := by omega
    have e₃ : n / 0x1000 = 0 := by omega
    have hq : n / 16 < 16 := by omega
    simp [hstep h₁, hlast hq, e₂, e₃, hzero, Nat.mod_eq_of_lt hq, List.replicate]
  rcases Nat.lt_or_ge n 0x1000 with h₃ | h₃
  · have e₃ : n / 0x1000 = 0 := by omega
    have hq : n / 0x100 < 16 := by omega
    have hge : 16 ≤ n / 16 := by omega
    simp [hstep h₁, hstep hge, h256, hlast hq, e₃, hzero, Nat.mod_eq_of_lt hq]
  · have hq : n / 0x1000 < 16 := by omega
    have hge : 16 ≤ n / 16 := by omega
    have hge' : 16 ≤ n / 0x100 := by omega
    simp [hstep h₁, hstep hge, h256, hstep hge', h4096, hlast hq]

theorem length_hex_four {n : Nat} (h : n < 0x10000) : (hex 4 n).length = 4 := by
  rw [hex_four h]
  rfl

/-- An escape is written in plain characters. -/
theorem plain_of_mem_unitEscape {n : Nat} (h : n < 0x10000) {c : Char} (hc : c ∈ unitEscape n) :
    Bytes.Plain c := by
  have h₃ : n / 0x1000 < 16 := by omega
  have h₂ : n / 0x100 % 16 < 16 := by omega
  have h₁ : n / 0x10 % 16 < 16 := by omega
  have h₀ : n % 16 < 16 := by omega
  rw [unitEscape, hex_four h] at hc
  simp only [List.mem_cons, List.not_mem_nil, or_false] at hc
  rcases hc with rfl | rfl | rfl | rfl | rfl | rfl
  · decide
  · decide
  · exact plain_digitChar h₃
  · exact plain_digitChar h₂
  · exact plain_digitChar h₁
  · exact plain_digitChar h₀

/-! ### Units -/

/-- Four hexadecimal digits are read when something follows them. -/
theorem unit?_hex {n : Nat} (h : n < 0x10000) (c : Char) (rest : List Char) :
    unit? (hex 4 n ++ c :: rest) = some (n, c :: rest) := by
  have h₃ : n / 0x1000 < 16 := by omega
  have h₂ : n / 0x100 % 16 < 16 := by omega
  have h₁ : n / 0x10 % 16 < 16 := by omega
  have h₀ : n % 16 < 16 := by omega
  have hn : ((n / 0x1000 * 16 + n / 0x100 % 16) * 16 + n / 0x10 % 16) * 16 + n % 16 = n := by omega
  rw [hex_four h]
  simp only [List.cons_append, List.nil_append, unit?, hexValue?_digitChar h₃,
    hexValue?_digitChar h₂, hexValue?_digitChar h₁, hexValue?_digitChar h₀]
  exact congrArg (fun m => some (m, c :: rest)) hn

/-- No character has a greater number. -/
theorem toNat_lt (c : Char) : c.toNat < 0x110000 := by
  have hvalid := c.valid
  rw [UInt32.isValidChar, Nat.isValidChar] at hvalid
  have hnat : c.toNat = c.val.toNat := rfl
  omega

/-- The number of a character is none of a surrogate. -/
theorem not_surrogate (c : Char) :
    isHighSurrogate c.toNat = false ∧ isLowSurrogate c.toNat = false := by
  have hvalid := c.valid
  rw [UInt32.isValidChar, Nat.isValidChar] at hvalid
  have hnat : c.toNat = c.val.toNat := rfl
  simp only [isHighSurrogate, isLowSurrogate, Bool.and_eq_false_iff, decide_eq_false_iff_not, hnat]
  omega

/-- A character below the surrogates, or above them, is read from its four digits. -/
theorem readUnit_hex {ch : Char} (h : ch.toNat < 0x10000) (mark : List Char) (c : Char)
    (rest : List Char) :
    readUnit mark (hex 4 ch.toNat ++ c :: rest) = .ok (ch, c :: rest) := by
  obtain ⟨hhigh, hlow⟩ := not_surrogate ch
  rw [readUnit, unit?_hex h]
  simp only [hhigh, Bool.false_eq_true, if_false, unitChar, hlow, Bool.or_self, Char.ofNat_toNat]

/-- A character beyond the first 65536 is a pair of surrogates, which are read together. -/
theorem readUnit_pair {ch : Char} (h : 0x10000 ≤ ch.toNat) (mark : List Char) (c : Char)
    (rest : List Char) :
    readUnit mark (hex 4 (0xd800 + (ch.toNat - 0x10000) / 0x400) ++
      (unitEscape (0xdc00 + (ch.toNat - 0x10000) % 0x400) ++ c :: rest)) = .ok (ch, c :: rest) := by
  have hlimit := toNat_lt ch
  generalize hhigh : 0xd800 + (ch.toNat - 0x10000) / 0x400 = high
  generalize hlow : 0xdc00 + (ch.toNat - 0x10000) % 0x400 = low
  -- ten bits go into each half, so both stay in their ranges
  have hisHigh : isHighSurrogate high = true := by
    rw [isHighSurrogate, Bool.and_eq_true, decide_eq_true_iff, decide_eq_true_iff]
    omega
  have hisLow : isLowSurrogate low = true := by
    rw [isLowSurrogate, Bool.and_eq_true, decide_eq_true_iff, decide_eq_true_iff]
    omega
  have hlong : ¬ (hex 4 low ++ c :: rest).length ≤ 4 := by
    rw [List.length_append, length_hex_four (by omega), List.length_cons]
    omega
  -- put together again, the halves give the number back
  have hnumber : 0x10000 + (high - 0xd800) * 0x400 + (low - 0xdc00) = ch.toNat := by omega
  rw [readUnit, unitEscape, List.cons_append, List.cons_append, unit?_hex (by omega)]
  simp only [hisHigh, if_true, hlong, if_false, unit?_hex (show low < 0x10000 by omega), hisLow,
    hnumber, Char.ofNat_toNat]

/-! ### Escapes -/

/-- What stands for a character between quotes: its letter behind a backslash, the character itself,
or its number as one unit or as a pair of them. -/
inductive Escaped : Char → List Char → Prop where
  | short {letter c : Char} (hletter : shortEscape? letter = some c) (h : Bytes.Plain letter) :
    Escaped c ['\\', letter]
  | plain {c : Char} (hquote : c ≠ '\x22') (hbackslash : c ≠ '\\') (hlow : 0x20 ≤ c.toNat)
      (hhigh : c.toNat < 0x7f) : Escaped c [c]
  | unit {c : Char} (h : c.toNat < 0x10000) : Escaped c (unitEscape c.toNat)
  | pair {c : Char} (h : 0x10000 ≤ c.toNat) :
    Escaped c (unitEscape (0xd800 + (c.toNat - 0x10000) / 0x400) ++
      unitEscape (0xdc00 + (c.toNat - 0x10000) % 0x400))

/-- Every character is escaped in one of these ways. -/
theorem escaped_escapeChar (c : Char) : Escaped c (escapeChar c) := by
  rw [escapeChar]
  split_ifs with hquote hbackslash hn hr ht hb hf hprintable hunit
  · subst hquote
    exact .short rfl (by decide)
  · subst hbackslash
    exact .short rfl (by decide)
  · subst hn
    exact .short rfl (by decide)
  · subst hr
    exact .short rfl (by decide)
  · subst ht
    exact .short rfl (by decide)
  · subst hb
    exact .short rfl (by decide)
  · subst hf
    exact .short rfl (by decide)
  · exact .plain hquote hbackslash hprintable.1 hprintable.2
  · exact .unit hunit
  · exact .pair (Nat.le_of_not_lt hunit)

theorem Escaped.ne_nil {c : Char} {cs : List Char} (h : Escaped c cs) : cs ≠ [] := by
  cases h with
  | pair h => exact List.append_ne_nil_of_left_ne_nil (List.cons_ne_nil _ _) _
  | _ => exact List.cons_ne_nil _ _

/-- Only plain characters are written. -/
theorem Escaped.plain_of_mem {c d : Char} {cs : List Char} (h : Escaped c cs) (hd : d ∈ cs) :
    Bytes.Plain d := by
  cases h with
  | short _ hletter =>
    rcases List.mem_cons.mp hd with rfl | hd
    · decide
    · rw [List.mem_singleton.mp hd]
      exact hletter
  | plain _ _ hlow hhigh =>
    rw [List.mem_singleton.mp hd]
    exact ⟨by omega, by omega⟩
  | unit h => exact plain_of_mem_unitEscape h hd
  | pair h =>
    have hlimit := toNat_lt c
    rcases List.mem_append.mp hd with hd | hd
    · exact plain_of_mem_unitEscape (by omega) hd
    · exact plain_of_mem_unitEscape (by omega) hd

/-- What becomes of one more character before a text that was read. -/
def withChar (c : Char) : Except Stop (List Char × List Char) → Except Stop (List Char × List Char)
  | .error stop => .error stop
  | .ok (cs, left) => .ok (c :: cs, left)

section ReadText

variable {opening : List Char} {fuel : Nat} {c : Char}

/-- A short escape stands for its character. -/
theorem readText_short {letter : Char} (hletter : shortEscape? letter = some c)
    (rest : List Char) :
    readText opening (fuel + 1) ('\\' :: letter :: rest) =
      withChar c (readText opening fuel rest) := by
  -- a numbered escape begins with a u
  have hu : letter ≠ 'u' := by
    rintro rfl
    cases hletter
  rw [readText.eq_def]
  simp [hletter]
  rfl

/-- A plain character stands for itself. -/
theorem readText_plain (rest : List Char) (hquote : c ≠ '\x22') (hbackslash : c ≠ '\\')
    (hprintable : 0x20 ≤ c.toNat) :
    readText opening (fuel + 1) (c :: rest) = withChar c (readText opening fuel rest) := by
  have hcontrol : ¬ c.toNat < 0x20 := Nat.not_lt.mpr hprintable
  rw [readText.eq_def]
  simp [hbackslash, hcontrol]
  rfl

/-- A numbered escape stands for what its digits come to. -/
theorem readText_numbered {digits left : List Char}
    (h : readUnit ('u' :: digits) digits = .ok (c, left)) :
    readText opening (fuel + 1) ('\\' :: 'u' :: digits) =
      withChar c (readText opening fuel left) := by
  rw [readText, h]
  rfl

/-- What stands for a character is read as that character, when something follows it. -/
theorem Escaped.read {escape : List Char} (h : Escaped c escape) (opening : List Char) (fuel : Nat)
    (d : Char) (rest : List Char) :
    readText opening (fuel + 1) (escape ++ d :: rest) =
      withChar c (readText opening fuel (d :: rest)) := by
  cases h with
  | short hletter _ => exact readText_short hletter (d :: rest)
  | plain hquote hbackslash hlow _ => exact readText_plain (d :: rest) hquote hbackslash hlow
  | unit h =>
    rw [unitEscape, List.cons_append, List.cons_append]
    exact readText_numbered (readUnit_hex h _ d rest)
  | pair h =>
    rw [List.append_assoc, unitEscape, List.cons_append, List.cons_append]
    exact readText_numbered (readUnit_pair h _ d rest)

/-- Escaped text is read up to the quote that closes it. -/
theorem readText_flatMap (opening cs rest : List Char) {fuel : Nat} (h : cs.length < fuel) :
    readText opening fuel (cs.flatMap escapeChar ++ '\x22' :: rest) = .ok (cs, rest) := by
  induction cs generalizing fuel with
  | nil =>
    obtain ⟨fuel, rfl⟩ := Nat.exists_eq_succ_of_ne_zero (Nat.ne_of_gt h)
    rfl
  | cons c cs ih =>
    obtain ⟨fuel, rfl⟩ := Nat.exists_eq_succ_of_ne_zero (Nat.ne_of_gt (Nat.zero_lt_of_lt h))
    -- behind the first character there are more of them, or the quote
    obtain ⟨d, others, hnext⟩ : ∃ d others,
        cs.flatMap escapeChar ++ '\x22' :: rest = d :: others :=
      List.exists_cons_of_ne_nil (List.append_ne_nil_of_right_ne_nil _ (List.cons_ne_nil _ _))
    have hcs := ih (Nat.lt_of_succ_lt_succ h)
    rw [List.flatMap_cons, List.append_assoc, hnext, (escaped_escapeChar c).read, ← hnext, hcs]
    rfl

end ReadText

/-! ### Text -/

/-- All that is printed for a text is plain. -/
theorem plain_of_mem_printText {s : String} {c : Char} (h : c ∈ printText s) : Bytes.Plain c := by
  rw [printText] at h
  simp only [List.cons_append, List.mem_cons, List.mem_append, List.mem_flatMap,
    List.not_mem_nil, or_false] at h
  rcases h with rfl | ⟨d, -, h⟩ | rfl
  · decide
  · exact (escaped_escapeChar d).plain_of_mem h
  · decide

/-- Escaping makes nothing shorter. -/
theorem length_le_length_flatMap (cs : List Char) :
    cs.length ≤ (cs.flatMap escapeChar).length := by
  induction cs with
  | nil => exact Nat.le_refl 0
  | cons c cs ih =>
    have hc := List.length_pos_iff.mpr (escaped_escapeChar c).ne_nil
    rw [List.flatMap_cons, List.length_append, List.length_cons]
    omega

/-- Text that is written between quotes is read as it was, and what follows it is left. -/
theorem readString_printText (s : String) (rest : List Char) :
    readString (printText s ++ rest) = .ok (s, rest) := by
  have hfuel : s.toList.length < (printText s ++ rest).length := by
    have h := length_le_length_flatMap s.toList
    rw [printText]
    simp only [List.length_append, List.length_cons, List.length_nil]
    omega
  have htail : (printText s ++ rest).drop 1 = s.toList.flatMap escapeChar ++ '\x22' :: rest := by
    simp [printText]
  rw [readString, htail, readText_flatMap _ _ _ hfuel]
  simp

end ResumableWatch.Json
