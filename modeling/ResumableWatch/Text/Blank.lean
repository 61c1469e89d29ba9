/-!
# Blank characters

Numbers read from text may stand between blanks.
-/

namespace ResumableWatch.Text

/-- The characters that may surround a number. -/
def isBlank (c : Char) : Bool :=
  c == ' ' || ('\t' ≤ c && c ≤ '\r') || c == '\u0085' || c == '\u00a0' || c == '\u1680'
    || ('\u2000' ≤ c && c ≤ '\u200a') || c == '\u2028' || c == '\u2029' || c == '\u202f'
    || c == '\u205f' || c == '\u3000'

/-- The list without its leading and trailing elements that satisfy `p`. -/
def strip {α : Type} (p : α → Bool) (l : List α) : List α :=
  (((l.dropWhile p).reverse).dropWhile p).reverse

end ResumableWatch.Text
