import Mathlib.Data.List.DropRight
import Mathlib.Order.Bounds.Basic
import ResumableWatch.Version
/-!
# Merging versions

What versions come to that are seen one after the other.  `Numeric` versions write a number of 32
bits, and `merge_of_readable` says what two versions are merged into; only a row of too many digits
is not `Readable`, and then there is nothing to merge (`merge_of_not_readable`).

Versions that are no numbers make no difference to what comes after them, so all is decided by the
numbers that were seen last, without interruption (`latestNumbers`).  `Settled` is the closed form:
with at most one of them the last version stays as it is, with more of them the greatest one is
written anew.  One more version keeps it (`Settled.merge`), and so a whole series does
(`foldlM_merge`).
-/

namespace ResumableWatch.Version

open Number

/-! ### Versions that are numbers -/

/-- The number that a row of digits writes. -/
def value (version : String) : Nat := ofDigits (digits version.toList)

/-- The version writes a number of 32 bits, perhaps with zeros in front. -/
def Numeric (version : String) : Prop :=
  isDecimal version.toList = true ∧ value version ≤ greatest

instance : DecidablePred Numeric := fun _ => inferInstanceAs (Decidable (_ ∧ _))

/-- The version is no row of digits, or one of no more digits than are read. -/
def Readable (version : String) : Prop :=
  isDecimal version.toList = false ∨ version.length ≤ digitLimit

instance : DecidablePred Readable := fun _ => inferInstanceAs (Decidable (_ ∨ _))

theorem length_digits (version : String) : (digits version.toList).length = version.length := by
  rw [digits, List.length_map, String.length_toList]

theorem number?_of_readable {version : String} (h : Readable version) :
    number? version = .ok (if Numeric version then some (value version) else none) := by
  rw [number?]
  -- A token is no number; a row of digits is one if it is not too great.
  rcases h with htoken | hshort
  · have hnot : ¬ Numeric version := fun hnumeric => by
      rw [Numeric, htoken] at hnumeric
      exact Bool.false_ne_true hnumeric.1
    rw [htoken, if_neg Bool.false_ne_true, if_neg hnot]
    rfl
  · by_cases hdecimal : isDecimal version.toList = true
    · have hwhole : wholeOfDigits (digits version.toList) = .ok (value version) := by
        rw [wholeOfDigits, length_digits, if_pos hshort]
        rfl
      rw [if_pos hdecimal, hwhole]
      by_cases hsmall : value version ≤ greatest
      · rw [if_pos ⟨hdecimal, hsmall⟩]
        exact congrArg Except.ok (if_pos hsmall)
      · rw [if_neg fun hnumeric => hsmall hnumeric.2]
        exact congrArg Except.ok (if_neg hsmall)
    · rw [if_neg hdecimal, if_neg fun hnumeric => hdecimal hnumeric.1]
      rfl

theorem number?_of_not_readable {version : String} (h : ¬ Readable version) :
    number? version = .error (.tooLong version.length) := by
  rw [Readable, not_or, Bool.not_eq_false] at h
  rw [number?, if_pos h.1, wholeOfDigits, length_digits, if_neg h.2]
  rfl

/-! ### Merging two versions -/

/-- Two numbers are merged into the greater one; all other versions give way to the later one. -/
theorem merge_of_readable {current incoming : String} (hcurrent : Readable current)
    (hincoming : Readable incoming) :
    merge current incoming =
      .ok (if Numeric current ∧ Numeric incoming then
        toString (max (value current) (value incoming)) else incoming) := by
  rw [merge, number?_of_readable hcurrent, number?_of_readable hincoming]
  by_cases hc : Numeric current
  · by_cases hi : Numeric incoming
    · simp only [hc, hi, and_self, if_true]
      rfl
    · simp only [hc, hi, and_false, if_true, if_false]
      rfl
  · simp only [hc, false_and, if_false]
    rfl

/-- Too many digits on either side are a failure, whatever the other side is. -/
theorem merge_of_not_readable {current incoming : String}
    (h : ¬ (Readable current ∧ Readable incoming)) :
    merge current incoming =
      .error (.tooLong (if Readable current then incoming.length else current.length)) := by
  rw [merge]
  by_cases hc : Readable current
  · rw [number?_of_readable hc, number?_of_not_readable fun hi => h ⟨hc, hi⟩, if_pos hc]
    rfl
  · rw [number?_of_not_readable hc, if_neg hc]
    rfl

/-! ### Numbers that are written anew -/

theorem isDecimal_toString (n : Nat) : isDecimal (toString n).toList = true := by
  have hdigit {c : Char} (hc : c ∈ Nat.toDigits 10 n) : ('0' ≤ c && c ≤ '9') = true := by
    have h := Nat.isDigit_of_mem_toDigits (by decide) (by decide) hc
    rw [Char.isDigit, Bool.and_eq_true, decide_eq_true_iff, decide_eq_true_iff] at h
    rw [Bool.and_eq_true, decide_eq_true_iff, decide_eq_true_iff]
    exact h
  rw [Nat.toString_eq_repr, Nat.toList_repr, isDecimal, Bool.and_eq_true]
  exact ⟨by simp [Nat.toDigits_ne_nil], List.all_eq_true.mpr fun c hc => hdigit hc⟩

theorem value_toString (n : Nat) : value (toString n) = n := by
  rw [Nat.toString_eq_repr, value, Nat.toList_repr, ofDigits, digits, List.foldl_map,
    ← Nat.ofDigitChars_eq_foldl, Nat.ofDigitChars_ten_toDigits]

theorem numeric_toString {n : Nat} (h : n ≤ greatest) : Numeric (toString n) :=
  ⟨isDecimal_toString n, by rwa [value_toString]⟩

/-- A number of 32 bits has ten digits at most. -/
theorem readable_toString {n : Nat} (h : n ≤ greatest) : Readable (toString n) := by
  have hten : greatest < 10 ^ 10 := by decide
  have hlength : (toString n).length ≤ 10 := by
    rw [Nat.toString_eq_repr]
    exact (Nat.length_repr_le_iff (by decide)).mpr (h.trans_lt hten)
  exact .inr (hlength.trans (by decide))

/-- Only zero is written with a zero in front. -/
theorem head?_toString_ne_zero {n : Nat} (h : n ≠ 0) : (toString n).toList.head? ≠ some '0' := by
  rw [Nat.toString_eq_repr, Nat.toList_repr]
  induction n using Nat.strong_induction_on with
  | _ n ih =>
    by_cases hsmall : n < 10
    · have hdigits : ∀ d < 10, d ≠ 0 → d.digitChar ≠ '0' := by decide
      rw [Nat.toDigits_of_lt_base hsmall]
      simpa using hdigits n hsmall h
    · have hlarge : 10 ≤ n := Nat.le_of_not_lt hsmall
      rw [Nat.toDigits_of_base_le (by decide) hlarge,
        List.head?_append_of_ne_nil _ Nat.toDigits_ne_nil]
      exact ih (n / 10) (by omega) (by omega)

/-! ### The closed form -/

/-- The numbers seen last, without another version between them. -/
def latestNumbers (seen : List String) : List String := seen.rtakeWhile (decide <| Numeric ·)

/-- The numbers that versions write. -/
def valuesOf (versions : List String) : Set Nat := {n | ∃ v ∈ versions, value v = n}

theorem latestNumbers_concat_of_numeric {v : String} (h : Numeric v) (seen : List String) :
    latestNumbers (seen ++ [v]) = latestNumbers seen ++ [v] :=
  List.rtakeWhile_concat_pos _ _ v (decide_eq_true h)

theorem latestNumbers_concat_of_not_numeric {v : String} (h : ¬ Numeric v) (seen : List String) :
    latestNumbers (seen ++ [v]) = [] :=
  List.rtakeWhile_concat_neg _ _ v (by simpa using h)

theorem numeric_of_mem_latestNumbers {v : String} {seen : List String}
    (h : v ∈ latestNumbers seen) : Numeric v := by
  simpa using List.mem_rtakeWhile_imp h

theorem latestNumbers_of_numeric {seen : List String} (h : ∀ v ∈ seen, Numeric v) :
    latestNumbers seen = seen :=
  List.rtakeWhile_eq_self_iff.mpr fun v hv => decide_eq_true (h v hv)

theorem isGreatest_concat {versions : List String} {m : Nat} (h : IsGreatest (valuesOf versions) m)
    (v : String) : IsGreatest (valuesOf (versions ++ [v])) (max m (value v)) := by
  obtain ⟨⟨u, hu, rfl⟩, hall⟩ := h
  constructor
  · rcases le_total (value u) (value v) with hle | hle
    · exact ⟨v, by simp, (max_eq_right hle).symm⟩
    · exact ⟨u, by simp [hu], (max_eq_left hle).symm⟩
  · rintro n ⟨x, hx, rfl⟩
    rcases List.mem_append.mp hx with hx | hx
    · exact (hall ⟨x, hx, rfl⟩).trans (le_max_left _ _)
    · rw [List.mem_singleton.mp hx]
      exact le_max_right _ _

/-- What versions seen one after the other come to: the last one as it is, unless the latest of them
are several numbers; then the greatest of these, written anew. -/
structure Settled (seen : List String) (result : String) : Prop where
  last : (latestNumbers seen).length ≤ 1 → seen.getLast? = some result
  greatest : 1 < (latestNumbers seen).length →
    ∃ m, IsGreatest (valuesOf (latestNumbers seen)) m ∧ result = toString m

namespace Settled

variable {seen : List String} {current : String}

theorem singleton (v : String) : Settled [v] v where
  last _ := rfl
  greatest h := by
    have hlength := (List.rtakeWhile_suffix (decide <| Numeric ·) [v]).length_le
    exact absurd h (Nat.not_lt.mpr hlength)

/-- What the versions have come to is the greatest of the latest numbers, or no number. -/
theorem numeric_or_nil (h : Settled seen current) :
    (Numeric current ∧ IsGreatest (valuesOf (latestNumbers seen)) (value current)) ∨
      (¬ Numeric current ∧ latestNumbers seen = []) := by
  rcases Nat.lt_or_ge 1 (latestNumbers seen).length with hseveral | hfew
  · obtain ⟨m, hm, rfl⟩ := h.greatest hseveral
    obtain ⟨u, hu, hvalue⟩ := hm.1
    have hnumeric : Numeric (toString m) :=
      numeric_toString (hvalue ▸ (numeric_of_mem_latestNumbers hu).2)
    exact .inl ⟨hnumeric, by rwa [value_toString]⟩
  · -- with at most one latest number, the last version seen is the current one
    obtain ⟨before, rfl⟩ := List.getLast?_eq_some_iff.mp (h.last hfew)
    by_cases hnumeric : Numeric current
    · rw [latestNumbers_concat_of_numeric hnumeric, List.length_append,
        List.length_singleton] at hfew
      have hnone : latestNumbers before = [] := List.length_eq_zero_iff.mp (by omega)
      rw [latestNumbers_concat_of_numeric hnumeric, hnone]
      refine .inl ⟨hnumeric, ⟨current, by simp, rfl⟩, ?_⟩
      rintro n ⟨u, hu, rfl⟩
      rw [List.nil_append, List.mem_singleton] at hu
      rw [hu]
    · exact .inr ⟨hnumeric, latestNumbers_concat_of_not_numeric hnumeric before⟩

theorem readable (h : Settled seen current) (hseen : ∀ v ∈ seen, Readable v) :
    Readable current := by
  rcases Nat.lt_or_ge 1 (latestNumbers seen).length with hseveral | hfew
  · obtain ⟨m, ⟨⟨u, hu, rfl⟩, -⟩, rfl⟩ := h.greatest hseveral
    exact readable_toString (numeric_of_mem_latestNumbers hu).2
  · exact hseen current (List.mem_of_getLast? (h.last hfew))

/-- One more version keeps the closed form. -/
theorem merge (h : Settled seen current) (hseen : ∀ v ∈ seen, Readable v) {v : String}
    (hv : Readable v) :
    ∃ result, Version.merge current v = .ok result ∧ Settled (seen ++ [v]) result := by
  rw [merge_of_readable (h.readable hseen) hv]
  refine ⟨_, rfl, ?_⟩
  by_cases hnumeric : Numeric v
  · rcases h.numeric_or_nil with ⟨hcurrent, hgreatest⟩ | ⟨hcurrent, hnone⟩
    · -- a number joins numbers, so there are several of them now
      rw [if_pos ⟨hcurrent, hnumeric⟩]
      obtain ⟨u, hu, -⟩ := hgreatest.1
      have hpos : 0 < (latestNumbers seen).length := List.length_pos_of_mem hu
      constructor
      · intro hfew
        rw [latestNumbers_concat_of_numeric hnumeric, List.length_append,
          List.length_singleton] at hfew
        omega
      · intro _
        rw [latestNumbers_concat_of_numeric hnumeric]
        exact ⟨_, isGreatest_concat hgreatest v, rfl⟩
    · rw [if_neg fun hboth => hcurrent hboth.1]
      constructor
      · intro _
        exact List.getLast?_concat
      · intro hseveral
        rw [latestNumbers_concat_of_numeric hnumeric, hnone] at hseveral
        exact absurd hseveral (by simp)
  · rw [if_neg fun hboth => hnumeric hboth.2]
    constructor
    · intro _
      exact List.getLast?_concat
    · intro hseveral
      rw [latestNumbers_concat_of_not_numeric hnumeric] at hseveral
      exact absurd hseveral (by simp)

end Settled

/-- Versions that are merged into a first one, one after the other, come to the closed form. -/
theorem foldlM_merge {first : String} {later : List String}
    (h : ∀ v ∈ first :: later, Readable v) :
    ∃ result, later.foldlM merge first = .ok result ∧ Settled (first :: later) result := by
  induction later using List.reverseRecOn with
  | nil => exact ⟨first, rfl, .singleton first⟩
  | append_singleton before v ih =>
    rw [← List.cons_append] at h ⊢
    have hbefore : ∀ u ∈ first :: before, Readable u := fun u hu => h u (List.mem_append_left _ hu)
    obtain ⟨current, hfold, hsettled⟩ := ih hbefore
    obtain ⟨result, hmerge, hresult⟩ := hsettled.merge hbefore (h v (by simp))
    refine ⟨result, ?_, hresult⟩
    rw [List.foldlM_append, hfold]
    show [v].foldlM Version.merge current = _
    rw [List.foldlM_cons, hmerge]
    rfl

/-- Several numbers come to the greatest one. -/
theorem foldlM_merge_of_numeric {first : String} {later : List String}
    (hreadable : ∀ v ∈ first :: later, Readable v) (hnumeric : ∀ v ∈ first :: later, Numeric v)
    (hlater : later ≠ []) :
    ∃ m, IsGreatest (valuesOf (first :: later)) m ∧
      later.foldlM merge first = .ok (toString m) := by
  obtain ⟨result, hfold, hsettled⟩ := foldlM_merge hreadable
  have hall := latestNumbers_of_numeric hnumeric
  have hseveral : 1 < (latestNumbers (first :: later)).length := by
    rw [hall]
    exact Nat.succ_lt_succ (List.length_pos_of_ne_nil hlater)
  obtain ⟨m, hm, rfl⟩ := hsettled.greatest hseveral
  rw [hall] at hm
  exact ⟨m, hm, hfold⟩

/-- **The closed form of merging.**  Versions are merged into a first one, one after the other, none
of them a row of too many digits.  This comes to the last version, as it is, if at most one number
was seen since the last version that is no number, and else to the greatest of these numbers,
written without zeros in front.

So where all versions are numbers, it comes to a number that is below none of them, whatever their
order and however often each of them was seen. -/
theorem merged_closed_form {first : String} {later : List String}
    (hreadable : ∀ v ∈ first :: later, Readable v) :
    (∃ result, later.foldlM merge first = .ok result ∧
      ((latestNumbers (first :: later)).length ≤ 1 → (first :: later).getLast? = some result) ∧
      (1 < (latestNumbers (first :: later)).length →
        ∃ m, IsGreatest (valuesOf (latestNumbers (first :: later))) m ∧ result = toString m ∧
          (m ≠ 0 → result.toList.head? ≠ some '0'))) ∧
    ((∀ v ∈ first :: later, Numeric v) → later ≠ [] →
      ∃ result, later.foldlM merge first = .ok result ∧ Numeric result ∧
        (∀ v ∈ first :: later, value v ≤ value result) ∧
        ∀ others : List String, (∀ v, v ∈ others ↔ v ∈ later) →
          others.foldlM merge first = .ok result) := by
  constructor
  · obtain ⟨result, hfold, hsettled⟩ := foldlM_merge hreadable
    refine ⟨result, hfold, hsettled.last, fun hseveral => ?_⟩
    obtain ⟨m, hm, rfl⟩ := hsettled.greatest hseveral
    exact ⟨m, hm, rfl, head?_toString_ne_zero⟩
  · intro hnumeric hlater
    obtain ⟨m, hm, hfold⟩ := foldlM_merge_of_numeric hreadable hnumeric hlater
    have hbound : m ≤ greatest := by
      obtain ⟨⟨u, hu, rfl⟩, -⟩ := hm
      exact (hnumeric u hu).2
    refine ⟨toString m, hfold, numeric_toString hbound, fun v hv => ?_, fun others hsame => ?_⟩
    · rw [value_toString]
      exact hm.2 ⟨v, hv, rfl⟩
    · -- The same versions, in another order or more than once, have the same values.
      have hmem (v : String) : v ∈ first :: others ↔ v ∈ first :: later := by
        rw [List.mem_cons, List.mem_cons, hsame]
      have hothers : others ≠ [] := by
        obtain ⟨v, hv⟩ := List.exists_mem_of_ne_nil later hlater
        exact List.ne_nil_of_mem ((hsame v).mpr hv)
      obtain ⟨n, hn, hfold'⟩ := foldlM_merge_of_numeric
        (fun v hv => hreadable v ((hmem v).mp hv)) (fun v hv => hnumeric v ((hmem v).mp hv)) hothers
      have hvalues : valuesOf (first :: others) = valuesOf (first :: later) := by
        simp only [valuesOf, hmem]
      rw [hvalues] at hn
      rw [hfold', hm.unique hn]

/-- Behind a token, numbers with and without zeros in front come to the greatest of them; the number
before the token does not count. -/
theorem token_between_numbers_merged :
    (∀ v ∈ ["4294967295", "abc", "007", "0012", "9"], Readable v) ∧
      ["abc", "007", "0012", "9"].foldlM merge "4294967295" = .ok "12" := by
  have hreadable : ∀ v ∈ ["4294967295", "abc", "007", "0012", "9"], Readable v := by decide
  have hlatest :
      latestNumbers ["4294967295", "abc", "007", "0012", "9"] = ["007", "0012", "9"] := by decide
  have htwelve : IsGreatest (valuesOf ["007", "0012", "9"]) 12 := by
    refine ⟨⟨"0012", by decide, by decide⟩, ?_⟩
    rintro n ⟨v, hv, rfl⟩
    have hall : ∀ v ∈ ["007", "0012", "9"], value v ≤ 12 := by decide
    exact hall v hv
  obtain ⟨result, hfold, -, hgreatest⟩ := (merged_closed_form hreadable).1
  obtain ⟨m, hm, hresult, -⟩ := hgreatest (by rw [hlatest]; decide)
  rw [hlatest] at hm
  refine ⟨hreadable, ?_⟩
  rw [hfold, hresult, hm.unique htwelve]
  decide

end ResumableWatch.Version
