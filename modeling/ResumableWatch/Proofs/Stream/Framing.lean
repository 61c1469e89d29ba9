import Mathlib.Data.List.Forall2
import ResumableWatch.Proofs.Bytes.Plain
import ResumableWatch.Proofs.Stream.Body
/-!
# The framing of a body

What an iteration over a body comes to, whatever its reads come to.  `Passes` follows the reads that
give lines, and `Ends` says with which read there are no more of them: one without any bytes, or one
that fails, of its own or because its wait is struck.  `Framed` puts them together: the items are
those of the lines that are not blank (`Decodes`), each line has one item of its own, a failure of
the network adds one more item, and any other failure goes to the consumer.  A line that has no item
ends the iteration too.

`body_framed` is the result.  A read of a line is treated first (`readLine_passes`), then a read of
an item (`nextItem_framed`), and then the iteration by induction on the number of its reads.  It
also says what a line that is no JSON comes to (`Frame.item_of_json_error`).  The exception is a line
nested too deep, as one of many unclosed brackets is (`unclosed_no_item`).
-/

namespace ResumableWatch

open ResumableWatch.Fiber

/-! ### The reads of a body -/

/-- The elements at which a read of a body waits. -/
inductive Element.Pauses : Element → Prop where
  | delay (seconds : Double) : Pauses (.delay seconds)
  | block : Pauses .block

/-- Reads of a body that give these lines, and what the server will send after them. -/
inductive Passes : List Element → List (List UInt8) → List Element → Prop where
  | here {elements : List Element} : Passes elements [] elements
  | pause {e : Element} {rest left : List Element} {lines : List (List UInt8)} (he : e.Pauses)
      (h : Passes rest lines left) : Passes (e :: rest) lines left
  | ready {handedOver : Option (String × String)} {made : Except Failure Item}
      {rest left : List Element} {lines : List (List UInt8)} (h : Passes rest lines left) :
    Passes (.item handedOver made :: rest) lines left
  | line {bytes : List UInt8} {rest left : List Element} {lines : List (List UInt8)}
      (hbytes : bytes ≠ []) (h : Passes rest lines left) :
    Passes (.line bytes :: rest) (bytes :: lines) left

/-- How the lines of a body end. -/
inductive BodyEnd where
  /-- A read gives no bytes. -/
  | empty
  | failed (failure : Failure)

/-- The next read ends the lines in this way.  Some failures may strike it while it waits. -/
inductive Ends (Strikes : Failure → Prop) : List Element → BodyEnd → List Element → Prop where
  | nothing : Ends Strikes [] .empty []
  | empty (rest : List Element) : Ends Strikes (.line [] :: rest) .empty rest
  | raise (failure : Failure) (rest : List Element) :
    Ends Strikes (.raise failure :: rest) (.failed failure) rest
  | struck {e : Element} {failure : Failure} (rest : List Element) (he : e.Pauses)
      (h : Strikes failure) : Ends Strikes (e :: rest) (.failed failure) rest

theorem Passes.trans {elements middle left : List Element} {first second : List (List UInt8)}
    (h : Passes elements first middle) (h' : Passes middle second left) :
    Passes elements (first ++ second) left := by
  induction h with
  | here => exact h'
  | pause he _ ih => exact .pause he (ih h')
  | ready _ ih => exact .ready (ih h')
  | line hbytes _ ih => exact .line hbytes (ih h')

theorem Passes.length_le {elements left : List Element} {lines : List (List UInt8)}
    (h : Passes elements lines left) : left.length + lines.length ≤ elements.length := by
  induction h with
  | here => simp
  | pause _ _ ih => exact Nat.le_succ_of_le ih
  | ready _ ih => exact Nat.le_succ_of_le ih
  | line _ _ ih => exact Nat.succ_le_succ ih

/-! ### The items of lines -/

/-- The lines that are not blank, without the blanks around them. -/
def contentsOf (lines : List (List UInt8)) : List (List UInt8) :=
  (lines.map Frame.content).filter fun content => !content.isEmpty

theorem contentsOf_append (first second : List (List UInt8)) :
    contentsOf (first ++ second) = contentsOf first ++ contentsOf second := by
  simp [contentsOf]

theorem contentsOf_of_blank {lines : List (List UInt8)}
    (h : ∀ bytes ∈ lines, Frame.content bytes = []) : contentsOf lines = [] := by
  simpa [contentsOf] using h

theorem contentsOf_singleton {bytes : List UInt8} (h : Frame.content bytes ≠ []) :
    contentsOf [bytes] = [Frame.content bytes] := by
  simp [contentsOf, h]

/-- Each line that is not blank has an item, and these are the items, in the same order. -/
def Decodes (decoder : Option Decoder) (lines : List (List UInt8)) (items : List Item) : Prop :=
  List.Forall₂ (fun line item => Frame.item decoder line = .ok item) (contentsOf lines) items

theorem Decodes.append {decoder : Option Decoder} {first second : List (List UInt8)}
    {items more : List Item} (h : Decodes decoder first items) (h' : Decodes decoder second more) :
    Decodes decoder (first ++ second) (items ++ more) := by
  rw [Decodes, contentsOf_append]
  exact List.rel_append h h'

theorem Decodes.of_blank (decoder : Option Decoder) {lines : List (List UInt8)}
    (h : ∀ bytes ∈ lines, Frame.content bytes = []) : Decodes decoder lines [] := by
  rw [Decodes, contentsOf_of_blank h]
  exact .nil

/-! ### Whole iterations -/

/-- The items that an iteration gives, how it ends, and what the server would still send, by the
reads of the body.  `closing` is what closing the response comes to. -/
inductive Framed (Strikes : Failure → Prop) (decoder : Option Decoder)
    (closing : Except Failure Unit) (elements : List Element) :
    List Item → Except Failure Unit → List Element → Prop where
  | ended {lines : List (List UInt8)} {middle left : List Element} {items : List Item}
      (hlines : Passes elements lines middle) (hend : Ends Strikes middle .empty left)
      (hitems : Decodes decoder lines items) :
    Framed Strikes decoder closing elements items closing left
  | interrupted {lines : List (List UInt8)} {middle left : List Element} {items : List Item}
      {failure : Failure} (hlines : Passes elements lines middle)
      (hend : Ends Strikes middle (.failed failure) left) (hitems : Decodes decoder lines items)
      (h : failure.interruptsStream = true) :
    Framed Strikes decoder closing elements
      (items ++ [.failure (Connection.interruption failure)]) closing left
  | failed {lines : List (List UInt8)} {middle left : List Element} {items : List Item}
      {failure : Failure} (hlines : Passes elements lines middle)
      (hend : Ends Strikes middle (.failed failure) left) (hitems : Decodes decoder lines items)
      (h : failure.interruptsStream = false) :
    Framed Strikes decoder closing elements items (.error failure) left
  | fatal {lines : List (List UInt8)} {last : List UInt8} {left : List Element}
      {items : List Item} {failure : Failure} (hlines : Passes elements (lines ++ [last]) left)
      (hitems : Decodes decoder lines items) (hcontent : Frame.content last ≠ [])
      (h : Frame.item decoder (Frame.content last) = .error failure) :
    Framed Strikes decoder closing elements items (.error failure) left

/-- Reads that gave an item go before the others. -/
theorem Framed.cons {Strikes : Failure → Prop} {decoder : Option Decoder}
    {closing ending : Except Failure Unit} {elements middle left : List Element}
    {lines : List (List UInt8)} {item : Item} {items : List Item}
    (hlines : Passes elements lines middle) (hitem : Decodes decoder lines [item])
    (h : Framed Strikes decoder closing middle items ending left) :
    Framed Strikes decoder closing elements (item :: items) ending left := by
  cases h with
  | ended hmore hend hitems => exact .ended (hlines.trans hmore) hend (hitem.append hitems)
  | interrupted hmore hend hitems hf =>
    exact .interrupted (hlines.trans hmore) hend (hitem.append hitems) hf
  | failed hmore hend hitems hf => exact .failed (hlines.trans hmore) hend (hitem.append hitems) hf
  | @fatal more last _ _ _ hmore hitems hcontent hf =>
    have hall := hlines.trans hmore
    rw [← List.append_assoc] at hall
    exact .fatal hall (hitem.append hitems) hcontent hf

namespace Act

/-- All items of a connection, at most `bound` of them, and how the iteration ends. -/
def iterate (k : ConnectionId) : (bound : Nat) → Act (List Item × Except Failure Unit)
  | 0 => pure ([], .ok ())
  | bound + 1 => do
    match ← (nextItem k).attempt with
    | .error failure => return ([], .error failure)
    | .ok none => return ([], .ok ())
    | .ok (some item) =>
      let (items, ending) ← iterate k bound
      return (item :: items, ending)

/-- From here on a read of the connection gives no item and takes nothing, however often it is
repeated. -/
def ReadsNothing (k : ConnectionId) (w : World) : Prop :=
  ∀ u, u.connection k = w.connection k → ∃ changes r v,
    Goes (nextItem k) u changes (Fiber.ofExcept r) v ∧ (∀ item, r ≠ .ok (some item)) ∧
      (v.connection k).pending = (u.connection k).pending

/-- Nobody else touches the connection while it is read, and only some failures strike a wait. -/
def readingFrames (Strikes : Failure → Prop) (k : ConnectionId) : Terms World where
  rely w t := t.connection k = w.connection k
  answers answer := ∀ failure, answer = .error failure → Strikes failure

section Reading

variable {Strikes : Failure → Prop} {k : ConnectionId} {endpoint : Endpoint}
  {closeFailure : Option Failure}

/-- What a read of a line comes to: blank lines that it passes over and the next one behind them, or
how the lines end behind them. -/
def LinePassed (Strikes : Failure → Prop) (k : ConnectionId) (endpoint : Endpoint)
    (closeFailure : Option Failure) (elements : List Element)
    (r : Except Failure (Option (List UInt8))) (w : World) : Prop :=
  ∃ blanks middle left, (∀ bytes ∈ blanks, Frame.content bytes = []) ∧
    Passes elements blanks middle ∧ OpenBody k endpoint closeFailure left w ∧
    match r with
    | .ok (some content) => content ≠ [] ∧ ∃ last, content = Frame.content last ∧
        Passes middle [last] left
    | .ok none => Ends Strikes middle .empty left
    | .error failure => Ends Strikes middle (.failed failure) left

theorem LinePassed.of_passes {elements rest : List Element} {lines : List (List UInt8)}
    (hlines : Passes elements lines rest) (hblank : ∀ bytes ∈ lines, Frame.content bytes = [])
    {r : Except Failure (Option (List UInt8))} {w : World}
    (h : LinePassed Strikes k endpoint closeFailure rest r w) :
    LinePassed Strikes k endpoint closeFailure elements r w := by
  obtain ⟨blanks, middle, left, hblanks, hpasses, hrest⟩ := h
  refine ⟨lines ++ blanks, middle, left, fun bytes hbytes => ?_, hlines.trans hpasses, hrest⟩
  rcases List.mem_append.mp hbytes with hbytes | hbytes
  · exact hblank bytes hbytes
  · exact hblanks bytes hbytes

/-- What ends the lines at once ends a read of a line. -/
theorem LinePassed.of_ends {elements left : List Element} {failure : Failure} {w : World}
    (hleft : OpenBody k endpoint closeFailure left w)
    (h : Ends Strikes elements (.failed failure) left) :
    LinePassed Strikes k endpoint closeFailure elements (.error failure) w :=
  ⟨[], elements, left, List.forall_mem_nil _, .here, hleft, h⟩

theorem readLine_passes {elements : List Element} {s₀ w : World}
    (h : OpenBody k endpoint closeFailure elements w) :
    (readLine k elements).Meets (readingFrames Strikes k)
      (fun _ => LinePassed Strikes k endpoint closeFailure elements) s₀ w := by
  induction elements generalizing s₀ w with
  | nil => exact ⟨[], [], [], List.forall_mem_nil _, .here, h, .nothing⟩
  | cons e rest ih =>
    have hkept := h.keep rest
    -- a wait is gone from the body whether it is struck or not
    have hwait {what : Wait} (he : e.Pauses) {t : World}
        (ht : OpenBody k endpoint closeFailure rest t) :
        (Fiber.await what >>= fun _ => readLine k rest).Meets (readingFrames Strikes k)
          (fun _ => LinePassed Strikes k endpoint closeFailure (e :: rest)) s₀ t := by
      rw [meets_bind, meets_await]
      refine ⟨trivial, fun answer u hanswer hrely _ => ?_⟩
      have hu : OpenBody k endpoint closeFailure rest u := Eq.trans hrely ht
      cases answer with
      | ok _ =>
        exact (ih hu).mono fun _ r _ hr => hr.of_passes (.pause he .here) (List.forall_mem_nil _)
      | error failure => exact .of_ends hu (.struck rest he (hanswer failure rfl))
    cases e with
    | delay seconds => exact ⟨trivial, hwait (.delay seconds) hkept⟩
    | block => exact ⟨trivial, hwait .block hkept⟩
    | raise failure => exact ⟨trivial, .of_ends hkept (.raise failure rest)⟩
    | item handedOver made =>
      refine ⟨trivial, (ih hkept).mono fun _ r _ hr => ?_⟩
      exact hr.of_passes (.ready .here) (List.forall_mem_nil _)
    | line bytes =>
      refine ⟨trivial, ?_⟩
      dsimp only
      split
      · rename_i hend
        have hnil : bytes = [] := List.isEmpty_iff.mp hend
        subst hnil
        exact ⟨[], _, rest, List.forall_mem_nil _, .here, hkept, .empty rest⟩
      · rename_i hmore
        have hbytes : bytes ≠ [] := fun hnil => hmore (List.isEmpty_iff.mpr hnil)
        split
        · rename_i hblank
          refine (ih hkept).mono fun _ r _ hr => ?_
          refine hr.of_passes (.line hbytes .here) fun other hother => ?_
          rw [List.mem_singleton.mp hother]
          exact List.isEmpty_iff.mp hblank
        · rename_i hcontent
          refine ⟨[], _, rest, List.forall_mem_nil _, .here, hkept, ?_, bytes, rfl, ?_⟩
          · exact fun hnil => hcontent (List.isEmpty_iff.mpr hnil)
          · exact .line hbytes .here

/-! ### A read of an item -/

/-- A look at the world changes nothing. -/
theorem goes_look {α : Type} {f : World → Act α} {m : Act α} {changes : List (World × World)}
    {w v : World} (h : Goes (f w) w changes m v) : Goes (Fiber.state >>= f) w changes m v :=
  .read h

section Ended

variable {left : List Element} {closed : Bool} {w : World}

/-- A read of an item behind the end of the frames takes nothing, and only closes the response. -/
theorem FramesEnded.nextItem (h : FramesEnded k endpoint closeFailure left closed w) :
    ∃ changes v, Goes (nextItem k) w changes (Fiber.ofExcept
        ((if closed then .ok () else closingOf closeFailure).map fun _ => none)) v ∧
      FramesEnded k endpoint closeFailure left true v := by
  obtain ⟨changes, v, hclose, hv⟩ := h.closeResponse
  have hall := hclose.bind fun _ => (pure none : Act (Option Item))
  rw [ofExcept_bind_pure] at hall
  -- the connection is looked at twice, for its transport and for the end of its frames
  have hover : Goes (nextFrame k endpoint.decoder) w [] (pure none) w := by
    unfold nextFrame
    refine goes_look ?_
    rw [h, if_pos rfl]
    exact .here
  refine ⟨changes, v, ?_, hv⟩
  unfold Act.nextItem
  refine goes_look ?_
  rw [h]
  dsimp only
  exact (hover.bind _).trans hall

theorem FramesEnded.readsNothing (h : FramesEnded k endpoint closeFailure left closed w) :
    ReadsNothing k w := by
  intro u hu
  have hended : FramesEnded k endpoint closeFailure left closed u := hu.trans h
  obtain ⟨changes, v, hgo, hv⟩ := hended.nextItem
  refine ⟨changes, _, v, hgo, fun item hitem => ?_, by rw [hv, hended]⟩
  generalize (if closed then .ok () else closingOf closeFailure : Except Failure Unit) = ending
    at hitem
  cases ending <;> cases hitem

end Ended

/-- What a read of an item comes to: the item of the next line that is not blank, the item of a
failure of the network, or the end of the iteration. -/
inductive ItemFramed (Strikes : Failure → Prop) (k : ConnectionId) (endpoint : Endpoint)
    (closeFailure : Option Failure) (elements : List Element) :
    Except Failure (Option Item) → World → Prop where
  | item {lines : List (List UInt8)} {left : List Element} {item : Item} {w : World}
      (hlines : Passes elements lines left) (hne : lines ≠ [])
      (hitem : Decodes endpoint.decoder lines [item])
      (hw : OpenBody k endpoint closeFailure left w) :
    ItemFramed Strikes k endpoint closeFailure elements (.ok (some item)) w
  | interrupted {lines : List (List UInt8)} {middle left : List Element} {failure : Failure}
      {w : World} (hlines : Passes elements lines middle)
      (hend : Ends Strikes middle (.failed failure) left)
      (hblank : Decodes endpoint.decoder lines []) (h : failure.interruptsStream = true)
      (hw : FramesEnded k endpoint closeFailure left false w) :
    ItemFramed Strikes k endpoint closeFailure elements
      (.ok (some (.failure (Connection.interruption failure)))) w
  | finished {ending : Except Failure Unit} {left : List Element} {closed : Bool} {w : World}
      (h : Framed Strikes endpoint.decoder (closingOf closeFailure) elements [] ending left)
      (hw : FramesEnded k endpoint closeFailure left closed w) :
    ItemFramed Strikes k endpoint closeFailure elements (ending.map fun _ => none) w

/-- A line that is not blank has an item, or its failure ends the frames. -/
theorem decodeLine_framed {elements left : List Element} {lines : List (List UInt8)}
    {last : List UInt8} (hall : Passes elements (lines ++ [last]) left)
    (hblanks : Decodes endpoint.decoder lines []) (hcontent : Frame.content last ≠ [])
    {s₀ t : World} (ht : OpenBody k endpoint closeFailure left t) :
    (decodeLine k endpoint.decoder (Frame.content last) >>= fun i => pure (some i)).Meets
      (readingFrames Strikes k) (fun _ => ItemFramed Strikes k endpoint closeFailure elements)
      s₀ t := by
  rw [meets_decodeLine]
  refine recordHandedOver_keeps (fun _ _ => trivial) fun u _ hsame => ?_
  have hu : OpenBody k endpoint closeFailure left u := (hsame k).trans ht
  rw [byOutcome_ok]
  split
  · rename_i i hitem
    have hone : Decodes endpoint.decoder [last] [i] := by
      rw [Decodes, contentsOf_singleton hcontent]
      exact .cons hitem .nil
    exact .item hall (by simp) (hblanks.append hone) hu
  · rename_i failure hitem
    exact ⟨trivial, .finished (.fatal hall hblanks hcontent hitem) hu.endFrames⟩

theorem nextItem_framed {elements : List Element} {s₀ w : World}
    (h : OpenBody k endpoint closeFailure elements w) :
    (nextItem k).Meets (readingFrames Strikes k)
      (fun _ => ItemFramed Strikes k endpoint closeFailure elements) s₀ w := by
  refine h.nextItem_meets (readLine_passes h) (fun t₀ content t hr => ?line)
    (fun t₀ t hr => ?ended) fun t₀ failure t hr => ?failed
  -- In each case blank lines have been passed over before.
  all_goals
    obtain ⟨blanks, middle, left, hblank, hlines, ht, hr⟩ := hr
    have hblanks := Decodes.of_blank endpoint.decoder hblank
  case line =>
    obtain ⟨hcontent, last, rfl, hlast⟩ := hr
    exact decodeLine_framed (hlines.trans hlast) hblanks hcontent ht
  case ended =>
    refine ⟨trivial, ?_⟩
    obtain ⟨changes, v, hclose, hv⟩ := ht.endFrames.closeResponse
    refine (hclose.bind _).meets_iff.mpr ⟨fun _ _ => trivial, ?_⟩
    rw [if_neg Bool.false_ne_true, ofExcept_bind_pure, meets_ofExcept]
    exact .finished (.ended hlines hr hblanks) hv
  case failed =>
    refine ⟨trivial, ?_⟩
    split
    · rename_i hinterrupts
      exact .interrupted hlines hr hblanks hinterrupts ht.endFrames
    · rename_i hpasses
      have hpasses : failure.interruptsStream = false := by simpa using hpasses
      exact .finished (.failed hlines hr hblanks hpasses) ht.endFrames

/-! ### The iteration -/

/-- An iteration that begins behind the end of the frames gives nothing. -/
theorem iterate_meets_of_ended {left : List Element} {s₀ w : World}
    (h : FramesEnded k endpoint closeFailure left false w) (bound : Nat) :
    (iterate k (bound + 1)).Meets (readingFrames Strikes k)
      (fun _ r t => r = .ok ([], closingOf closeFailure) ∧
        FramesEnded k endpoint closeFailure left true t) s₀ w := by
  obtain ⟨changes, v, hgo, hv⟩ := h.nextItem
  rw [iterate, meets_bind, meets_attempt]
  refine hgo.meets_iff.mpr ⟨fun _ _ => trivial, ?_⟩
  rw [if_neg Bool.false_ne_true, meets_ofExcept]
  cases closeFailure with
  | none => exact ⟨rfl, hv⟩
  | some failure => exact ⟨rfl, hv⟩

theorem iterate_framed {bound : Nat} {elements : List Element} (hbound : elements.length < bound)
    {s₀ w : World} (h : OpenBody k endpoint closeFailure elements w) :
    (iterate k bound).Meets (readingFrames Strikes k)
      (fun _ r t => ∃ items ending left closed, r = .ok (items, ending) ∧
        Framed Strikes endpoint.decoder (closingOf closeFailure) elements items ending left ∧
        FramesEnded k endpoint closeFailure left closed t) s₀ w := by
  -- the body gets shorter with each item, so the bound is never reached
  induction bound generalizing elements s₀ w with
  | zero => exact absurd hbound (Nat.not_lt_zero _)
  | succ bound ih =>
    rw [iterate, meets_bind, meets_attempt]
    refine (nextItem_framed h).mono fun t₀ r t hr => ?_
    rw [byOutcome_ok]
    cases hr with
    | @item lines left item _ hlines hne hitem ht =>
      dsimp only
      rw [meets_bind]
      have hfewer := hlines.length_le
      have hsome := List.length_pos_iff.mpr hne
      refine (ih (by omega) ht).mono fun _ told u htold => ?_
      obtain ⟨items, ending, left, closed, rfl, hframed, hu⟩ := htold
      exact ⟨item :: items, ending, left, closed, rfl, hframed.cons hlines hitem, hu⟩
    | @interrupted lines middle left failure _ hlines hend hblank hf ht =>
      dsimp only
      rw [meets_bind]
      -- the failing read has taken an element, so there is one more read for the end
      have hfewer := hlines.length_le
      have htaken : 0 < middle.length := by cases hend <;> simp
      obtain ⟨bound, rfl⟩ := Nat.exists_eq_succ_of_ne_zero (show bound ≠ 0 by omega)
      refine (iterate_meets_of_ended ht bound).mono fun _ told u htold => ?_
      obtain ⟨rfl, hu⟩ := htold
      exact ⟨_, _, left, true, rfl, .interrupted hlines hend hblank hf, hu⟩
    | @finished ending left closed _ hframed ht =>
      cases ending with
      | ok _ => exact ⟨[], .ok (), left, closed, rfl, hframed, ht⟩
      | error failure => exact ⟨[], .error failure, left, closed, rfl, hframed, ht⟩

end Reading

end Act

/-! ### Text nested too deep -/

namespace Json

/-- What stops the reading of an element stops the reading of the array around it. -/
theorem readValue_bracket_stop {fuel depth : Nat} {s : List Char} {stop : Stop}
    (h : readValue fuel depth ('[' :: s) = .error stop) :
    readValue (fuel + 2) (depth + 1) ('[' :: '[' :: s) = .error stop := by
  have hinside : readElements (fuel + 1) depth ('[' :: s) = .error stop := by
    rw [readElements, h]
  have hskip : skip ('[' :: s) = '[' :: s := rfl
  rw [readValue, hskip]
  split
  · rename_i left hclosed
    simp at hclosed
  · rw [hinside]

/-- More opening brackets than there may be containers are too deep to read, whatever is inside. -/
theorem readValue_brackets {fuel depth : Nat} (hfuel : 2 * depth < fuel) (inside : List Char) :
    readValue fuel depth (List.replicate (depth + 1) '[' ++ inside) =
      .error (.tooDeep .array) := by
  induction depth generalizing fuel with
  | zero =>
    obtain ⟨fuel, rfl⟩ := Nat.exists_eq_succ_of_ne_zero (show fuel ≠ 0 by omega)
    rfl
  | succ depth ih =>
    -- a bracket costs two calls, one for the value and one for its elements
    obtain ⟨fuel, rfl⟩ : ∃ more, fuel = more + 2 := ⟨fuel - 2, by omega⟩
    exact readValue_bracket_stop (ih (by omega))

theorem parseChars_brackets (inside : List Char) :
    parseChars (List.replicate (depthLimit + 1) '[' ++ inside) = .error (.tooDeep .array) := by
  have hfuel : 2 * depthLimit < fuelFor (List.replicate (depthLimit + 1) '[' ++ inside) := by
    simp only [fuelFor, List.length_append, List.length_replicate]
    omega
  have hskip : skip (List.replicate (depthLimit + 1) '[' ++ inside) =
      List.replicate (depthLimit + 1) '[' ++ inside := rfl
  rw [parseChars, hskip, readValue_brackets hfuel]
  rfl

/-- Brackets that are never closed are no JSON, however deep it may be nested. -/
theorem readValue_unclosed (fuel depth n : Nat) :
    ∃ stop, readValue fuel depth (List.replicate n '[') = .error stop := by
  induction fuel using Nat.strongRecOn generalizing depth n with
  | _ fuel ih =>
    match fuel, depth, n with
    | 0, _, _ => exact ⟨_, rfl⟩
    | _ + 1, _, 0 => exact ⟨_, rfl⟩
    | _ + 1, 0, _ + 1 => exact ⟨_, rfl⟩
    | 1, _ + 1, 1 => exact ⟨_, rfl⟩
    | 1, _ + 1, _ + 2 => exact ⟨_, rfl⟩
    | 2, _ + 1, 1 => exact ⟨_, rfl⟩
    | _ + 3, _ + 1, 1 => exact ⟨_, rfl⟩
    | fuel + 2, depth + 1, n + 2 =>
      obtain ⟨stop, hstop⟩ := ih fuel (by omega) depth (n + 1)
      exact ⟨stop, readValue_bracket_stop hstop⟩

end Json

/-! ### Lines that are no JSON -/

theorem Bytes.decode_brackets (n : Nat) :
    decode (List.replicate n 0x5b) = .ok (List.replicate n '[') := by
  have hbytes : List.replicate n (0x5b : UInt8) = ofChars (List.replicate n '[') := by
    rw [ofChars, List.map_replicate]
    rfl
  rw [hbytes]
  refine decode_ofChars fun c hc => ?_
  rw [List.eq_of_mem_replicate hc]
  decide

theorem Frame.content_brackets (n : Nat) :
    content (List.replicate (n + 1) 0x5b ++ [0x0a]) = List.replicate (n + 1) 0x5b := by
  have hend : ∀ b ∈ [(0x0a : UInt8)], Bytes.isBlank b = true := by
    intro b hb
    rw [List.mem_singleton.mp hb]
    rfl
  have hlast : (List.replicate (n + 1) (0x5b : UInt8)).getLast? = some 0x5b := by
    rw [List.getLast?_replicate, if_neg (Nat.succ_ne_zero n)]
  exact content_between_blanks (List.forall_mem_nil _) hend rfl hlast rfl rfl

namespace Frame

/-- A line that holds no JSON is refused as undecodable with that line beside it, unless it is
nested too deep. -/
theorem item_of_json_error (decoder : Option Decoder) {line : List UInt8} {failure : Failure}
    (h : json line = .error failure) :
    (∃ text, item decoder line = .ok (.failure (.undecodable text (.bytes line)))) ∨
      ∃ chars container, Bytes.decode line = .ok chars ∧
        Json.parseChars chars = .error (.tooDeep container) := by
  have hundecodable (cause : String) (h : json line = .error (unreadable cause line)) :
      ∃ text, item decoder line = .ok (.failure (.undecodable text (.bytes line))) := by
    refine ⟨"undecodable watch frame: " ++ cause, ?_⟩
    rw [item, h]
    rfl
  cases htext : Bytes.decode line with
  | error fault =>
    refine .inl (hundecodable fault.message ?_)
    rw [json, htext]
  | ok chars =>
    cases hparse : Json.parseChars chars with
    | ok frame =>
      simp only [json, htext, hparse] at h
      cases h
    | error cause =>
      rcases ofCause_cases cause line with ⟨container, rfl⟩ | hbad
      · exact .inr ⟨chars, container, rfl, hparse⟩
      · refine .inl (hundecodable cause.message ?_)
        simp only [json, htext, hparse, hbad]

end Frame

/-- **The framing of a body.**  Nobody else touches the connection over which the body comes.  An
iteration, once there is room for all of its items, gives the items of the lines that are not blank,
in order, each by its own line, up to what ends the lines: a read without bytes, a failure of the
network, which is one more item, another failure of a read, which goes to the consumer unchanged, or
a line without an item.  What comes behind stays where it is, and no later read takes it.  A line
that is no JSON is a failure to decode it, which shows the line without the blanks around it, but
for a line that is nested too deep. -/
theorem body_framed {Strikes : Failure → Prop} {k : ConnectionId} {endpoint : Endpoint}
    {closeFailure : Option Failure} {elements : List Element} {bound : Nat} {w : World}
    (hbody : Act.OpenBody k endpoint closeFailure elements w) (hbound : elements.length < bound) :
    (Act.iterate k bound).Meets (Act.readingFrames Strikes k)
      (fun _ r t => ∃ items ending left, r = .ok (items, ending) ∧
        Framed Strikes endpoint.decoder (Act.closingOf closeFailure) elements items ending left ∧
        (t.connection k).pending = left ∧ Act.ReadsNothing k t) w w ∧
    ∀ line failure, Frame.json line = .error failure →
      (∃ text, Frame.item endpoint.decoder line =
        .ok (.failure (.undecodable text (.bytes line)))) ∨
      ∃ chars container, Bytes.decode line = .ok chars ∧
        Json.parseChars chars = .error (.tooDeep container) := by
  refine ⟨(Act.iterate_framed hbound hbody).mono fun _ r t hr => ?_, fun line failure h => ?_⟩
  · obtain ⟨items, ending, left, closed, hitems, hframed, ht⟩ := hr
    exact ⟨items, ending, left, hitems, hframed, by rw [ht], ht.readsNothing⟩
  · exact Frame.item_of_json_error endpoint.decoder h

/-! ### A broken line and an unclosed one -/

section Broken

variable {bytes : List UInt8} {failure : Failure}

/-- The reads of one line and a failure. -/
theorem Passes.of_broken {lines : List (List UInt8)} {middle : List Element}
    (h : Passes [.line bytes, .raise failure] lines middle) :
    (lines = [] ∧ middle = [.line bytes, .raise failure]) ∨
      (lines = [bytes] ∧ middle = [.raise failure]) := by
  cases h with
  | here => exact .inl ⟨rfl, rfl⟩
  | pause he h => cases he
  | line hbytes h =>
    cases h with
    | here => exact .inr ⟨rfl, rfl⟩
    | pause he h => cases he

/-- When nothing strikes them, they end with the failure. -/
theorem Ends.of_broken {lines : List (List UInt8)} {middle left : List Element} {ending : BodyEnd}
    (hbytes : bytes ≠ []) (hlines : Passes [.line bytes, .raise failure] lines middle)
    (hend : Ends (fun _ => False) middle ending left) :
    lines = [bytes] ∧ ending = .failed failure ∧ left = [] := by
  rcases hlines.of_broken with ⟨rfl, rfl⟩ | ⟨rfl, rfl⟩
  · cases hend with
    | empty rest => exact absurd rfl hbytes
    | struck rest he h => exact h.elim
  · cases hend with
    | raise failure rest => exact ⟨rfl, rfl, rfl⟩
    | struck rest he h => exact h.elim

/-- What an iteration gives of them if the line has an item and the failure is one of the
network. -/
theorem Framed.of_broken {decoder : Option Decoder} {closing ending : Except Failure Unit}
    {left : List Element} {item : Item} {items : List Item} (hcontent : Frame.content bytes ≠ [])
    (hitem : Frame.item decoder (Frame.content bytes) = .ok item)
    (hfailure : failure.interruptsStream = true)
    (h : Framed (fun _ => False) decoder closing [.line bytes, .raise failure] items ending left) :
    items = [item, .failure (Connection.interruption failure)] ∧ ending = closing := by
  have hbytes : bytes ≠ [] := by
    rintro rfl
    exact hcontent rfl
  have hall {items : List Item} (h : Decodes decoder [bytes] items) : items = [item] := by
    rw [Decodes, contentsOf_singleton hcontent] at h
    cases h with
    | cons hfirst hrest =>
      cases hrest
      rw [hitem] at hfirst
      cases hfirst
      rfl
  cases h with
  | ended hlines hend hitems =>
    obtain ⟨-, hending, -⟩ := hend.of_broken hbytes hlines
    cases hending
  | interrupted hlines hend hitems hf =>
    obtain ⟨rfl, hending, -⟩ := hend.of_broken hbytes hlines
    cases hending
    rw [hall hitems]
    exact ⟨rfl, rfl⟩
  | failed hlines hend hitems hf =>
    obtain ⟨-, hending, -⟩ := hend.of_broken hbytes hlines
    cases hending
    rw [hfailure] at hf
    cases hf
  | @fatal before last _ _ _ hlines hitems hlast hf =>
    -- the only line that is read has an item
    rcases hlines.of_broken with ⟨hlines, -⟩ | ⟨hlines, -⟩
    · simp at hlines
    · have hmem : last ∈ [bytes] := hlines ▸ List.mem_append_right before List.mem_cons_self
      rw [List.mem_singleton.mp hmem, hitem] at hf
      cases hf

end Broken

/-- A line without a closing brace, and then a network that is too slow. -/
def brokenBody : List Element := [.line (brokenLine ++ [0x0a]), .raise (.timeout "slow")]

/-- Of the broken body a consumer gets the failure to decode the line and the one of the network. -/
theorem brokenBody_framed :
    (Act.iterate 0 3).Meets (Act.readingFrames (fun _ => False) 0)
      (fun _ r t => ∃ text, r = .ok
        ([.failure (.undecodable text (.bytes brokenLine)),
          .failure (Connection.interruption (.timeout "slow"))], .ok ()) ∧
        Act.ReadsNothing 0 t)
      (World.ofBody brokenBody) (World.ofBody brokenBody) := by
  have hbody : Act.OpenBody 0 { name := "kubernetes" } none brokenBody (World.ofBody brokenBody) :=
    rfl
  have hroom : brokenBody.length < 3 := by decide
  refine (body_framed hbody hroom).1.mono fun _ r t hr => ?_
  obtain ⟨items, ending, left, rfl, hframed, -, hnothing⟩ := hr
  obtain ⟨text, hitem⟩ : ∃ text, Frame.item none (Frame.content (brokenLine ++ [0x0a])) =
      .ok (.failure (.undecodable text (.bytes brokenLine))) := ⟨_, rfl⟩
  obtain ⟨rfl, rfl⟩ := hframed.of_broken (by decide) hitem rfl
  exact ⟨text, rfl, hnothing⟩

/-- A line of 3000 opening brackets is no JSON, however deep it may be nested.  But it is nested too
deep to find that out, so its failure is no item, and none that shows the line. -/
theorem unclosed_no_item :
    let line := List.replicate 3000 0x5b
    let chars := List.replicate 3000 '['
    Frame.content (line ++ [0x0a]) = line ∧ Bytes.decode line = .ok chars ∧
      (∀ fuel depth, ∃ stop, Json.readValue fuel depth chars = .error stop) ∧
      Frame.item none line = .error (.tooDeep (Json.ParseError.tooDeep .array).message) := by
  intro line chars
  have hdecode : Bytes.decode line = .ok chars := Bytes.decode_brackets 3000
  have hdeep : Json.parseChars chars = .error (.tooDeep .array) := by
    have hsplit : List.replicate (Json.depthLimit + 1) '[' ++ List.replicate 2000 '[' = chars :=
      List.replicate_append_replicate
    rw [← hsplit]
    exact Json.parseChars_brackets _
  refine ⟨Frame.content_brackets 2999, hdecode, fun fuel depth => ?_, ?_⟩
  · exact Json.readValue_unclosed fuel depth 3000
  · exact Frame.Fatal.item_eq (.deep hdecode hdeep) none

end ResumableWatch
