import Mathlib.Data.Bool.AllAny
import Mathlib.Tactic.Common
import ResumableWatch.Frame
/-!
# Plain bytes

A plain character is one byte of UTF-8, and not the zero.  Text of plain characters has one byte for
each of them, no byte order mark and no zeros from which another encoding could be guessed, so
decoding gives back the characters (`decode_ofChars`).  Blanks around a line are no part of it
(`Frame.content_between_blanks`).
-/

namespace ResumableWatch

/-! ### Lists and stripping -/

namespace Text

variable {α : Type} {p : α → Bool}

theorem strip_of_none {l : List α} (h : ∀ a ∈ l, p a = false) : strip p l = l := by
  have hdrop {l : List α} (h : ∀ a ∈ l, p a = false) : l.dropWhile p = l := by
    cases l with
    | nil => rfl
    | cons a rest => exact List.dropWhile_cons_of_neg (by simp [h a List.mem_cons_self])
  rw [strip, hdrop h, hdrop fun a ha => h a (List.mem_reverse.mp ha), List.reverse_reverse]

/-- What neither begins nor ends with an element to be stripped is left alone by stripping, whatever
stands around it. -/
theorem strip_between {before inside after : List α} (hbefore : ∀ a ∈ before, p a = true)
    (hafter : ∀ a ∈ after, p a = true) {first last : α} (hfirst : inside.head? = some first)
    (hlast : inside.getLast? = some last) (hf : p first = false) (hl : p last = false) :
    strip p (before ++ inside ++ after) = inside := by
  obtain ⟨rest, rfl⟩ : ∃ rest, inside = first :: rest := by
    cases inside with
    | nil => cases hfirst
    | cons a rest => exact ⟨rest, by rw [Option.some.inj hfirst]⟩
  have hfront : (before ++ first :: rest ++ after).dropWhile p = first :: rest ++ after := by
    rw [List.append_assoc, List.dropWhile_append_of_pos hbefore, List.cons_append,
      List.dropWhile_cons_of_neg (by simp [hf])]
  -- From the back: the last element of the middle is the first one to stay.
  have hback : ((first :: rest ++ after).reverse).dropWhile p = (first :: rest).reverse := by
    rw [List.reverse_append, List.dropWhile_append_of_pos fun a ha => hafter a (List.mem_reverse.mp ha)]
    have hhead : (first :: rest).reverse.head? = some last := by
      rw [List.head?_reverse, hlast]
    cases hreverse : (first :: rest).reverse with
    | nil => rfl
    | cons a others =>
      rw [hreverse, List.head?_cons, Option.some.injEq] at hhead
      rw [List.dropWhile_cons_of_neg (by simp [hhead, hl])]
  rw [strip, hfront, hback, List.reverse_reverse]

end Text

/-! ### Plain characters -/

namespace Bytes

/-- A character that is one byte of UTF-8, and not the zero. -/
def Plain (c : Char) : Prop := 0 < c.toNat ∧ c.toNat < 0x80

instance : DecidablePred Plain := fun _ => inferInstanceAs (Decidable (_ ∧ _))

/-- A byte that is a plain character. -/
def PlainByte (b : UInt8) : Prop := 0 < b.toNat ∧ b.toNat < 0x80

/-- Plain characters as bytes. -/
def ofChars (cs : List Char) : List UInt8 := cs.map fun c => UInt8.ofNat c.toNat

theorem toNat_ofPlain {c : Char} (h : Plain c) : (UInt8.ofNat c.toNat).toNat = c.toNat := by
  rw [UInt8.toNat_ofNat']
  exact Nat.mod_eq_of_lt (Nat.lt_trans h.2 (by decide))

theorem plainByte_of_mem_ofChars {cs : List Char} (h : ∀ c ∈ cs, Plain c) :
    ∀ b ∈ ofChars cs, PlainByte b := by
  intro b hb
  obtain ⟨c, hc, rfl⟩ := List.mem_map.mp hb
  rw [PlainByte, toNat_ofPlain (h c hc)]
  exact h c hc

/-- The bytes of plain text. -/
theorem toUTF8_ofList {cs : List Char} (h : ∀ c ∈ cs, Plain c) :
    (String.ofList cs).toUTF8.data.toList = ofChars cs := by
  have hbytes : cs.flatMap String.utf8EncodeChar = ofChars cs := by
    induction cs with
    | nil => rfl
    | cons c rest ih =>
      have hc : c.val.toNat ≤ 127 := Nat.le_of_lt_succ (h c List.mem_cons_self).2
      rw [List.flatMap_cons, ih fun d hd => h d (List.mem_cons_of_mem c hd), String.utf8EncodeChar]
      simp only [hc, if_true]
      rfl
  simp only [String.toUTF8, String.toByteArray_ofList, List.utf8Encode,
    List.toList_data_toByteArray, hbytes]

/-! ### Decoding -/

/-- Plain bytes have no byte order mark, and no zeros to guess by. -/
theorem detect_of_plain {bytes : List UInt8} (h : ∀ b ∈ bytes, PlainByte b) :
    detect bytes = (.utf8, 0, bytes) := by
  have hzero {b : UInt8} (hb : b ∈ bytes) : (b == 0) = false := by
    have hpos := (h b hb).1
    apply beq_eq_false_iff_ne.mpr
    rintro rfl
    exact Nat.lt_irrefl 0 hpos
  have hhigh {b : UInt8} (hb : b ∈ bytes) : b.toNat < 0x80 := (h b hb).2
  unfold detect
  -- Each mark begins with a zero or with a high byte, and neither is plain.
  split
  · cases hzero List.mem_cons_self
  · exact absurd (hhigh List.mem_cons_self) (by decide)
  · exact absurd (hhigh List.mem_cons_self) (by decide)
  · exact absurd (hhigh List.mem_cons_self) (by decide)
  · exact absurd (hhigh List.mem_cons_self) (by decide)
  · have hencoding : encodingByZeros bytes = .utf8 := by
      unfold encodingByZeros
      split
      · simp [hzero]
      · simp [hzero]
      · rfl
    rw [hencoding]

theorem decodeUtf8_ofChars {cs : List Char} (h : ∀ c ∈ cs, Plain c) (position : Nat) :
    decodeUtf8 position .between (ofChars cs) = .ok cs := by
  induction cs generalizing position with
  | nil => rfl
  | cons c rest ih =>
    have hc := h c List.mem_cons_self
    have hbyte : UInt8.ofNat c.toNat < 0x80 := by
      rw [UInt8.lt_iff_toNat_lt, toNat_ofPlain hc]
      exact hc.2
    have hrest := ih (fun d hd => h d (List.mem_cons_of_mem c hd)) (position + 1)
    rw [ofChars, List.map_cons, decodeUtf8]
    simp only [hbyte, if_true, toNat_ofPlain hc, Char.ofNat_toNat]
    rw [ofChars] at hrest
    rw [hrest]
    rfl

/-- The bytes of plain text are read as that text. -/
theorem decode_ofChars {cs : List Char} (h : ∀ c ∈ cs, Plain c) : decode (ofChars cs) = .ok cs := by
  rw [decode, detect_of_plain (plainByte_of_mem_ofChars h)]
  exact decodeUtf8_ofChars h 0

end Bytes

/-- Blanks around a line are no part of its content. -/
theorem Frame.content_between_blanks {before inside after : List UInt8}
    (hbefore : ∀ b ∈ before, Bytes.isBlank b = true) (hafter : ∀ b ∈ after, Bytes.isBlank b = true)
    {first last : UInt8} (hfirst : inside.head? = some first) (hlast : inside.getLast? = some last)
    (hf : Bytes.isBlank first = false) (hl : Bytes.isBlank last = false) :
    content (before ++ inside ++ after) = inside :=
  Text.strip_between hbefore hafter hfirst hlast hf hl

end ResumableWatch
