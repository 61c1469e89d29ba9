/-!
# Similar words

A misspelled word is answered with the known words that it is close to.  How close two words are is
measured by the characters that they have in common, in blocks: the longest block that stands in
both, and then, in the same way, what the parts before it and the parts behind it have in common.
Words are close when at least three fifths of all their characters are in common blocks.
-/

namespace ResumableWatch.Text

/-- How many characters two words begin with in common. -/
def agreement : List Char → List Char → Nat
  | x :: xs, y :: ys => if x = y then agreement xs ys + 1 else 0
  | _, _ => 0

/-- A block that stands in two words: where it begins in each, and its length. -/
structure Block where
  first : Nat := 0
  second : Nat := 0
  length : Nat := 0
  deriving DecidableEq

/-- The longer block; of two of one length, the one that was found first. -/
def Block.longer (found next : Block) : Block := if found.length < next.length then next else found

/-- The longest block at the beginning of `word` that stands in `other`; of several, the first. -/
def blockAt (first : Nat) (word other : List Char) : Block :=
  (List.range other.length).foldl
    (fun found second =>
      found.longer { first, second, length := agreement word (other.drop second) }) {}

/-- The longest block that stands in both words: of several, the first of the first word, and of
these the first of the second one. -/
def longestBlock (word other : List Char) : Block :=
  (List.range word.length).foldl
    (fun found first => found.longer (blockAt first (word.drop first) other)) {}

/-- How many characters of two words are in common blocks.  `fuel` bounds the depth of the search;
the length of the first word is enough, since every block has characters of it. -/
def commonWithin : (fuel : Nat) → List Char → List Char → Nat
  | 0, _, _ => 0
  | fuel + 1, word, other =>
    let block := longestBlock word other
    if block.length = 0 then 0
    else
      commonWithin fuel (word.take block.first) (other.take block.second) + block.length
        + commonWithin fuel (word.drop (block.first + block.length))
            (other.drop (block.second + block.length))

/-- How many characters of two words are in common blocks. -/
def common (word other : List Char) : Nat := commonWithin word.length word other

/-- How close a known word is to another one: the characters of it in common blocks, and the
characters of both. -/
structure Closeness where
  word : String
  shared : Nat
  total : Nat

/-- How close a known word is to a word.  Where the lengths alone keep them apart, nothing is
compared. -/
def closeness (word known : String) : Closeness where
  word := known
  shared :=
    if 10 * min known.length word.length < 3 * (known.length + word.length) then 0
    else common known.toList word.toList
  total := known.length + word.length

/-- Whether at least three fifths of the characters are shared. -/
def Closeness.suffices (c : Closeness) : Bool := 3 * c.total ≤ 10 * c.shared

/-- Whether `a` comes before `b`: it shares more, or as much and is later in the order of words. -/
def Closeness.precedes (a b : Closeness) : Bool :=
  b.shared * a.total < a.shared * b.total
    || (b.shared * a.total == a.shared * b.total && b.word < a.word)

/-- How many similar words are named at most. -/
def similarLimit : Nat := 3

/-- The known words that are closest to a word, in the order of words. -/
def similar (word : String) (known : List String) : List String :=
  let close := (known.map (closeness word)).filter Closeness.suffices
  let closest := (close.mergeSort Closeness.precedes).take similarLimit
  (closest.map (·.word)).mergeSort (fun a b => !(b < a))

end ResumableWatch.Text
