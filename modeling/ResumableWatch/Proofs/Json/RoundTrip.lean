import ResumableWatch.Proofs.Json.Numerals
import ResumableWatch.Proofs.Json.Texts
/-!
# Reading what was written

JSON text that was written from a value is read as that value.  `Json.Portable` says what this asks
of a value: no more digits in its whole numbers than are read, finite fractional numbers that are
read back from their own text, and different names for the members of an object.  The nesting has to
be one that can be read.

The readers take fuel from one another, and `ReadsBack fuel` says that all three of them read back
what was written, whatever follows it, if the fuel is twice the number of characters.  One more unit
of fuel keeps it, a lemma for each reader, and so it holds for any fuel (`readsBack`).
-/

namespace ResumableWatch.Json

open Number

/-! ### Values that can be read back -/

/-- A value that can be written and read back. -/
inductive Portable : Json → Prop where
  | null : Portable .null
  | bool (b : Bool) : Portable (.bool b)
  | int {n : Int} (h : n.natAbs < 10 ^ digitLimit) : Portable (.int n)
  | nan : Portable (.double .nan)
  | infinite (negative : Bool) : Portable (.double (.infinite negative))
  | finite {negative : Bool} {units : Nat} {hunits : Representable units}
      (h : Number.double (Double.finite negative units hunits).text =
        .ok (.finite negative units hunits)) :
    Portable (.double (.finite negative units hunits))
  | text (s : String) : Portable (.text s)
  | array {elements : List Json} (h : ∀ v ∈ elements, Portable v) : Portable (.array elements)
  | object {members : List (String × Json)} (hnames : (members.map Prod.fst).Nodup)
      (h : ∀ member ∈ members, Portable member.2) : Portable (.object members)

/-- Any fractional number that is read back from its own text will do. -/
theorem Portable.double {d : Double} (h : Number.double d.text = .ok d) : Portable (.double d) := by
  cases d with
  | nan => exact .nan
  | infinite negative => exact .infinite negative
  | finite negative units hunits => exact .finite h

mutual

/-- How deep containers are nested in a value. -/
def nesting : Json → Nat
  | .array elements => nestingOfElements elements + 1
  | .object members => nestingOfMembers members + 1
  | _ => 0

/-- How deep containers are nested in elements. -/
def nestingOfElements : List Json → Nat
  | [] => 0
  | v :: rest => max (nesting v) (nestingOfElements rest)

/-- How deep containers are nested in members. -/
def nestingOfMembers : List (String × Json) → Nat
  | [] => 0
  | (_, v) :: rest => max (nesting v) (nestingOfMembers rest)

end

/-! ### Members -/

/-- A member with a new name is put behind the others. -/
theorem putMember_of_new {name : String} {members : List (String × Json)} (v : Json)
    (h : name ∉ members.map Prod.fst) : putMember name v members = members ++ [(name, v)] := by
  induction members with
  | nil => rfl
  | cons first rest ih =>
    obtain ⟨other, old⟩ := first
    rw [List.map_cons, List.mem_cons, not_or] at h
    rw [putMember, if_neg (Ne.symm h.1), ih h.2]
    rfl

/-- Members with different names stay as they are written. -/
theorem ofWritten_of_nodup {members : List (String × Json)} (h : (members.map Prod.fst).Nodup) :
    ofWritten members = members := by
  induction members using List.reverseRecOn with
  | nil => rfl
  | append_singleton earlier last ih =>
    obtain ⟨name, v⟩ := last
    rw [List.map_append, List.nodup_append] at h
    obtain ⟨hearlier, -, hnew⟩ := h
    have hname : name ∉ earlier.map Prod.fst := by
      intro hmem
      exact hnew name hmem name (by simp) rfl
    rw [ofWritten, List.foldl_append, ← ofWritten, ih hearlier]
    exact putMember_of_new v hname

/-! ### Characters -/

theorem toString_ne_nil (n : Int) : (toString n).toList ≠ [] := by
  rw [toList_toString]
  exact List.append_ne_nil_of_right_ne_nil _ (digitChars_ne_nil _)

theorem printDouble_ne_nil (d : Double) : printDouble d ≠ [] := by
  cases d with
  | nan => decide
  | infinite negative => cases negative <;> decide
  | finite negative units hunits =>
    obtain ⟨l, hl, htext⟩ := text_literal negative hunits
    obtain ⟨c, cs, hchars, -⟩ := Literal.exists_chars hl
    rw [printDouble_finite, htext, String.toList_ofList, hchars]
    exact List.append_ne_nil_of_right_ne_nil _ (List.cons_ne_nil c cs)

/-- A value begins with a character that is no space and closes nothing. -/
theorem exists_printChars (v : Json) :
    ∃ c cs, printChars v = c :: cs ∧ isSpace c = false ∧ c ≠ ']' := by
  -- a number begins with one of its own characters
  have hbare {cs : List Char} (hne : cs ≠ []) (hall : ∀ c ∈ cs, Bare c) :
      ∃ c rest, cs = c :: rest ∧ isSpace c = false ∧ c ≠ ']' := by
    obtain ⟨c, rest, rfl⟩ := List.exists_cons_of_ne_nil hne
    obtain ⟨-, hspace, hother⟩ := hall c List.mem_cons_self
    refine ⟨c, rest, rfl, hspace, ?_⟩
    rintro rfl
    exact hother (by decide)
  cases v with
  | null => exact ⟨'n', _, rfl, rfl, by decide⟩
  | bool b =>
    cases b with
    | true => exact ⟨'t', _, rfl, rfl, by decide⟩
    | false => exact ⟨'f', _, rfl, rfl, by decide⟩
  | int n => exact hbare (toString_ne_nil n) fun c hc => bare_of_mem_toString hc
  | double d => exact hbare (printDouble_ne_nil d) fun c hc => bare_of_mem_printDouble hc
  | text s => exact ⟨'\x22', _, rfl, rfl, by decide⟩
  | array elements => exact ⟨'[', _, rfl, rfl, by decide⟩
  | object members => exact ⟨'\x7b', _, rfl, rfl, by decide⟩

/-- Elements begin like the first one of them, so with neither a space nor the end of the array. -/
theorem exists_printElements {elements : List Json} (hne : elements ≠ []) :
    ∃ c cs, printElements elements = c :: cs ∧ isSpace c = false ∧ c ≠ ']' := by
  match elements, hne with
  | [v], _ => exact exists_printChars v
  | v :: w :: rest, _ =>
    obtain ⟨c, cs, hchars, h⟩ := exists_printChars v
    exact ⟨c, cs ++ ',' :: ' ' :: printElements (w :: rest), by rw [printElements, hchars]; rfl, h⟩

/-- Members begin with the quote of the first name. -/
theorem exists_printMembers {members : List (String × Json)} (hne : members ≠ []) :
    ∃ cs, printMembers members = '\x22' :: cs := by
  match members, hne with
  | [(name, v)], _ => exact ⟨_, rfl⟩
  | (name, v) :: m :: rest, _ => exact ⟨_, rfl⟩

mutual

/-- Only plain characters are written. -/
theorem plain_of_mem_printChars : ∀ (v : Json), ∀ c ∈ printChars v, Bytes.Plain c
  | .null => List.all_iff_forall_prop.mp (by decide)
  | .bool true => List.all_iff_forall_prop.mp (by decide)
  | .bool false => List.all_iff_forall_prop.mp (by decide)
  | .int n => fun c hc => (bare_of_mem_toString hc).1
  | .double d => fun c hc => (bare_of_mem_printDouble hc).1
  | .text s => fun c hc => plain_of_mem_printText hc
  | .array elements => by
    intro c hc
    rw [printChars, List.cons_append, List.mem_cons, List.mem_append, List.mem_singleton] at hc
    rcases hc with rfl | hc | rfl
    · decide
    · exact plain_of_mem_printElements elements c hc
    · decide
  | .object members => by
    intro c hc
    rw [printChars, List.cons_append, List.mem_cons, List.mem_append, List.mem_singleton] at hc
    rcases hc with rfl | hc | rfl
    · decide
    · exact plain_of_mem_printMembers members c hc
    · decide

/-- Nor are others written for elements, which commas and spaces keep apart. -/
theorem plain_of_mem_printElements :
    ∀ (elements : List Json), ∀ c ∈ printElements elements, Bytes.Plain c
  | [] => by
    intro c hc
    cases hc
  | [v] => plain_of_mem_printChars v
  | v :: w :: rest => by
    intro c hc
    rw [printElements, List.mem_append, List.mem_cons, List.mem_cons] at hc
    rcases hc with hc | rfl | rfl | hc
    · exact plain_of_mem_printChars v c hc
    · decide
    · decide
    · exact plain_of_mem_printElements (w :: rest) c hc

/-- Nor for members. -/
theorem plain_of_mem_printMembers :
    ∀ (members : List (String × Json)), ∀ c ∈ printMembers members, Bytes.Plain c
  | [] => by
    intro c hc
    cases hc
  | [(name, v)] => by
    intro c hc
    rw [printMembers, List.mem_append, List.mem_cons, List.mem_cons] at hc
    rcases hc with hc | rfl | rfl | hc
    · exact plain_of_mem_printText hc
    · decide
    · decide
    · exact plain_of_mem_printChars v c hc
  | (name, v) :: m :: rest => by
    intro c hc
    rw [printMembers, List.append_assoc, List.mem_append, List.cons_append, List.mem_cons,
      List.cons_append, List.mem_cons, List.mem_append, List.mem_cons, List.mem_cons] at hc
    rcases hc with hc | rfl | rfl | hc | rfl | rfl | hc
    · exact plain_of_mem_printText hc
    · decide
    · decide
    · exact plain_of_mem_printChars v c hc
    · decide
    · decide
    · exact plain_of_mem_printMembers (m :: rest) c hc

end

/-! ### Reading back -/

/-- With this fuel all that was written is read back: a value, and the elements and the members of a
container up to the character that closes it. -/
structure ReadsBack (fuel : Nat) : Prop where
  value {depth : Nat} {v : Json} {rest : List Char} (hv : v.Portable) (hdepth : v.nesting ≤ depth)
    (hfuel : 2 * (printChars v).length ≤ fuel) (hrest : Closed rest) :
    readValue fuel depth (printChars v ++ rest) = .ok (v, rest)
  elements {depth : Nat} {elements : List Json} (hne : elements ≠ [])
    (h : ∀ v ∈ elements, v.Portable) (hdepth : nestingOfElements elements ≤ depth)
    (hfuel : 2 * (printElements elements).length + 1 ≤ fuel) (rest : List Char) :
    readElements fuel depth (printElements elements ++ ']' :: rest) = .ok (elements, rest)
  members {depth : Nat} {members : List (String × Json)} (hne : members ≠ [])
    (h : ∀ member ∈ members, member.2.Portable) (hdepth : nestingOfMembers members ≤ depth)
    (hfuel : 2 * (printMembers members).length + 1 ≤ fuel) (rest : List Char) :
    readMembers fuel depth (printMembers members ++ '\x7d' :: rest) = .ok (members, rest)

theorem skip_of_not_space {c : Char} (cs : List Char) (h : isSpace c = false) :
    skip (c :: cs) = c :: cs := List.dropWhile_cons_of_neg (by simp [h])

/-- There is no space before a value to be passed over. -/
theorem skip_printChars (v : Json) (rest : List Char) :
    skip (printChars v ++ rest) = printChars v ++ rest := by
  obtain ⟨c, cs, hchars, hspace, -⟩ := exists_printChars v
  rw [hchars, List.cons_append, skip_of_not_space _ hspace]

theorem skip_space (cs : List Char) : skip (' ' :: cs) = skip cs := rfl

/-- What begins with none of the three characters is a word or a number. -/
theorem readValue_bare {fuel depth : Nat} {cs : List Char} (hne : cs ≠ []) (h : ∀ c ∈ cs, Bare c)
    (rest : List Char) : readValue (fuel + 1) depth (cs ++ rest) = readScalar (cs ++ rest) := by
  obtain ⟨c, cs, rfl⟩ := List.exists_cons_of_ne_nil hne
  obtain ⟨-, -, hother⟩ := h c List.mem_cons_self
  have hquote : c ≠ '\x22' := by
    rintro rfl
    exact hother (by decide)
  have hbracket : c ≠ '[' := by
    rintro rfl
    exact hother (by decide)
  have hbrace : c ≠ '\x7b' := by
    rintro rfl
    exact hother (by decide)
  rw [List.cons_append, readValue.eq_def]
  simp [hquote, hbracket, hbrace]

section Step

variable {fuel depth : Nat} {rest : List Char}

/-- A number that reads back as itself, in front of what ends it. -/
theorem readValue_double {d : Double} (hd : Number.double d.text = .ok d) (hrest : Closed rest) :
    readValue (fuel + 1) depth (printChars (.double d) ++ rest) = .ok (.double d, rest) := by
  rw [printChars, readValue_bare (printDouble_ne_nil d) fun c hc => bare_of_mem_printDouble hc]
  exact readScalar_double hd hrest

/-- An array is read back with one more step than its elements. -/
theorem ReadsBack.array (h : ReadsBack fuel) {elements : List Json}
    (hportable : ∀ v ∈ elements, v.Portable) (hdepth : nestingOfElements elements ≤ depth)
    (hfuel : 2 * (printElements elements).length + 1 ≤ fuel) :
    readValue (fuel + 1) (depth + 1) ('[' :: (printElements elements ++ ']' :: rest)) =
      .ok (.array elements, rest) := by
  by_cases hne : elements = []
  · subst hne
    rfl
  · obtain ⟨c, cs, hchars, hspace, hbracket⟩ := exists_printElements hne
    -- the first character is none that would be taken for the end
    have hread := h.elements hne hportable hdepth hfuel rest
    rw [hchars, List.cons_append] at hread ⊢
    rw [readValue]
    simp only [skip_of_not_space _ hspace]
    split
    · rename_i left heq
      cases heq
      exact absurd rfl hbracket
    · rw [hread]

/-- So is an object; its names differ, so no member replaces another. -/
theorem ReadsBack.object (h : ReadsBack fuel) {members : List (String × Json)}
    (hnames : (members.map Prod.fst).Nodup) (hportable : ∀ member ∈ members, member.2.Portable)
    (hdepth : nestingOfMembers members ≤ depth)
    (hfuel : 2 * (printMembers members).length + 1 ≤ fuel) :
    readValue (fuel + 1) (depth + 1) ('\x7b' :: (printMembers members ++ '\x7d' :: rest)) =
      .ok (.object members, rest) := by
  by_cases hne : members = []
  · subst hne
    rfl
  · obtain ⟨cs, hchars⟩ := exists_printMembers hne
    have hread := h.members hne hportable hdepth hfuel rest
    rw [hchars, List.cons_append] at hread ⊢
    rw [readValue]
    simp only [skip_of_not_space _ (show isSpace '\x22' = false from rfl)]
    split
    · rename_i left heq
      cases heq
    · simp only [hread, ofWritten_of_nodup hnames]

/-- One step more: a value of any kind. -/
theorem ReadsBack.value_succ (h : ReadsBack fuel) {v : Json} (hv : v.Portable)
    (hdepth : v.nesting ≤ depth) (hfuel : 2 * (printChars v).length ≤ fuel + 1)
    (hrest : Closed rest) : readValue (fuel + 1) depth (printChars v ++ rest) = .ok (v, rest) := by
  cases hv with
  | null => rfl
  | bool b => cases b <;> rfl
  | @int n hn =>
    -- an integer is not taken for anything else, and what follows ends it
    rw [printChars, readValue_bare (toString_ne_nil n) fun c hc => bare_of_mem_toString hc]
    exact readScalar_int hn hrest
  | nan => exact readValue_double rfl hrest
  | infinite negative => cases negative <;> exact readValue_double rfl hrest
  | finite h => exact readValue_double h hrest
  | text s =>
    have hread := readString_printText s rest
    rw [printChars, printText, List.cons_append, List.cons_append] at *
    rw [readValue, hread]
  | @array elements helements =>
    -- the container is one level of nesting itself, so the depth is not zero
    obtain ⟨depth, rfl⟩ : ∃ less, depth = less + 1 :=
      Nat.exists_eq_succ_of_ne_zero (Nat.ne_of_gt (Nat.lt_of_lt_of_le (Nat.succ_pos _) hdepth))
    rw [printChars, List.length_append, List.length_cons, List.length_singleton] at hfuel
    rw [printChars, List.cons_append, List.cons_append, List.append_assoc]
    exact h.array helements (Nat.le_of_succ_le_succ hdepth) (by omega)
  | @object members hnames hmembers =>
    obtain ⟨depth, rfl⟩ : ∃ less, depth = less + 1 :=
      Nat.exists_eq_succ_of_ne_zero (Nat.ne_of_gt (Nat.lt_of_lt_of_le (Nat.succ_pos _) hdepth))
    rw [printChars, List.length_append, List.length_cons, List.length_singleton] at hfuel
    rw [printChars, List.cons_append, List.cons_append, List.append_assoc]
    exact h.object hnames hmembers (Nat.le_of_succ_le_succ hdepth) (by omega)

/-- One step more: elements, of which the first one is a value and the others are fewer. -/
theorem ReadsBack.elements_succ (h : ReadsBack fuel) {elements : List Json} (hne : elements ≠ [])
    (hportable : ∀ v ∈ elements, v.Portable) (hdepth : nestingOfElements elements ≤ depth)
    (hfuel : 2 * (printElements elements).length + 1 ≤ fuel + 1) (rest : List Char) :
    readElements (fuel + 1) depth (printElements elements ++ ']' :: rest) =
      .ok (elements, rest) := by
  match elements, hne with
  | [v], _ =>
    have hv := h.value (hportable v List.mem_cons_self) (Nat.le_trans (Nat.le_max_left _ _) hdepth)
      (by rw [printElements] at hfuel; omega) (Closed.bracket rest)
    rw [printElements, readElements, hv]
    rfl
  | v :: w :: others, _ =>
    obtain ⟨c, cs, hchars, hspace, -⟩ := exists_printElements (List.cons_ne_nil w others)
    rw [printElements, List.length_append, List.length_cons, List.length_cons] at hfuel
    have hv := h.value (hportable v List.mem_cons_self) (Nat.le_trans (Nat.le_max_left _ _) hdepth)
      (by omega) (Closed.comma (' ' :: (printElements (w :: others) ++ ']' :: rest)))
    have hothers := h.elements (List.cons_ne_nil w others)
      (fun u hu => hportable u (List.mem_cons_of_mem v hu))
      (Nat.le_trans (Nat.le_max_right _ _) hdepth) (by omega) rest
    -- the space behind the comma is passed over, and what follows begins with none
    have hskip : skip (' ' :: (printElements (w :: others) ++ ']' :: rest)) =
        printElements (w :: others) ++ ']' :: rest := by
      rw [skip_space, hchars, List.cons_append, skip_of_not_space _ hspace]
    rw [printElements, List.append_assoc, List.cons_append, List.cons_append, readElements, hv]
    simp only [skip_of_not_space _ (show isSpace ',' = false from rfl), hskip, hothers]

/-- The last of the members is read up to the closing brace. -/
theorem readMembers_last {name : String} {v : Json} {left : List Char}
    (hv : readValue fuel depth (printChars v ++ '\x7d' :: left) = .ok (v, '\x7d' :: left)) :
    readMembers (fuel + 1) depth
        (printText name ++ ':' :: ' ' :: (printChars v ++ '\x7d' :: left)) =
      .ok ([(name, v)], left) := by
  have hname := readString_printText name (':' :: ' ' :: (printChars v ++ '\x7d' :: left))
  rw [printText, List.cons_append, List.cons_append] at hname ⊢
  rw [readMembers, hname]
  simp only [skip_of_not_space _ (show isSpace ':' = false from rfl),
    skip_of_not_space _ (show isSpace '\x7d' = false from rfl), skip_space, skip_printChars, hv]

/-- A member with others behind it is read, and then the others are. -/
theorem readMembers_more {name : String} {v : Json} {more left : List Char}
    {written : List (String × Json)}
    (hv : readValue fuel depth (printChars v ++ ',' :: more) = .ok (v, ',' :: more))
    (hmore : readMembers fuel depth (skip more) = .ok (written, left)) :
    readMembers (fuel + 1) depth (printText name ++ ':' :: ' ' :: (printChars v ++ ',' :: more)) =
      .ok ((name, v) :: written, left) := by
  have hname := readString_printText name (':' :: ' ' :: (printChars v ++ ',' :: more))
  rw [printText, List.cons_append, List.cons_append] at hname ⊢
  rw [readMembers, hname]
  simp only [skip_of_not_space _ (show isSpace ':' = false from rfl),
    skip_of_not_space _ (show isSpace ',' = false from rfl), skip_space, skip_printChars, hv,
    hmore]

/-- One step more: members, in the same way. -/
theorem ReadsBack.members_succ (h : ReadsBack fuel) {members : List (String × Json)}
    (hne : members ≠ []) (hportable : ∀ member ∈ members, member.2.Portable)
    (hdepth : nestingOfMembers members ≤ depth)
    (hfuel : 2 * (printMembers members).length + 1 ≤ fuel + 1) (rest : List Char) :
    readMembers (fuel + 1) depth (printMembers members ++ '\x7d' :: rest) =
      .ok (members, rest) := by
  match members, hne with
  | [(name, v)], _ =>
    rw [printMembers, List.length_append, List.length_cons, List.length_cons] at hfuel
    have hportable : v.Portable := hportable (name, v) List.mem_cons_self
    have hv := h.value hportable (Nat.le_trans (Nat.le_max_left _ _) hdepth) (by omega)
      (Closed.brace rest)
    rw [printMembers, List.append_assoc, List.cons_append, List.cons_append]
    exact readMembers_last hv
  | (name, v) :: m :: others, _ =>
    obtain ⟨cs, hchars⟩ := exists_printMembers (List.cons_ne_nil m others)
    rw [printMembers, List.append_assoc, List.cons_append, List.cons_append] at hfuel ⊢
    simp only [List.length_append, List.length_cons] at hfuel
    have hfirst : v.Portable := hportable (name, v) List.mem_cons_self
    have hv := h.value hfirst (Nat.le_trans (Nat.le_max_left _ _) hdepth) (by omega)
      (Closed.comma (' ' :: (printMembers (m :: others) ++ '\x7d' :: rest)))
    have hothers := h.members (List.cons_ne_nil m others)
      (fun member hmember => hportable member (List.mem_cons_of_mem _ hmember))
      (Nat.le_trans (Nat.le_max_right _ _) hdepth) (by omega) rest
    -- the next name begins with a quote, so only the one space is passed over
    have hskip : skip (' ' :: (printMembers (m :: others) ++ '\x7d' :: rest)) =
        printMembers (m :: others) ++ '\x7d' :: rest := by
      rw [skip_space, hchars, List.cons_append,
        skip_of_not_space _ (show isSpace '\x22' = false from rfl)]
    rw [List.append_assoc, List.cons_append, List.cons_append]
    exact readMembers_more hv (by rw [hskip, hothers])

end Step

/-- Fuel for twice the characters is enough, however much more there is. -/
theorem readsBack (fuel : Nat) : ReadsBack fuel := by
  induction fuel with
  | zero =>
    -- every text has a character, so none is short enough for no fuel at all
    refine ⟨fun {_ v _} _ _ hfuel _ => ?_, fun _ _ _ hfuel _ => ?_, fun _ _ _ hfuel _ => ?_⟩
    · obtain ⟨c, cs, hchars, -⟩ := exists_printChars v
      rw [hchars, List.length_cons] at hfuel
      omega
    · omega
    · omega
  | succ fuel ih => exact ⟨ih.value_succ, ih.elements_succ, ih.members_succ⟩

/-- The text that is written from a value is JSON text of that value. -/
theorem parse_print {v : Json} (hv : v.Portable) (hdepth : v.nesting ≤ depthLimit) :
    parseChars (printChars v) = .ok v := by
  have hskip := skip_printChars v []
  have hread := (readsBack (fuelFor (printChars v))).value hv hdepth
    (by rw [fuelFor]; omega) Closed.nil
  rw [List.append_nil] at hskip hread
  rw [parseChars, hskip, hread]
  rfl

end ResumableWatch.Json
