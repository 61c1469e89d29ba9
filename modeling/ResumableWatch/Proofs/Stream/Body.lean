import ResumableWatch.Proofs.Event.Frames
import ResumableWatch.Proofs.Stream.Items
import ResumableWatch.Session.Steps
/-!
# Whole bodies

What a consumer gets of a whole body when every read succeeds.  `Frame.contents` lists the lines of
the body that carry a frame, and each of them is either an item (`Frame.Yields`) or fatal
(`Frame.Fatal`): its failure strikes the reader and ends the stream.  Only two kinds of content are
fatal, a nesting too deep to read and an infinite status code; no byte, encoding, syntax, shape or
refusal of the decoder is.

`drain_body` says that a consumer gets the items of all lines up to the first fatal one.
-/

namespace ResumableWatch

open ResumableWatch.Fiber

/-! ### The lines that carry a frame -/

/-- The lines of a body that carry a frame, without the blanks around them.  A line of no bytes is
the end of the body. -/
def Frame.contents : List Element → List (List UInt8)
  | [] => []
  | .line bytes :: rest =>
    if bytes.isEmpty then []
    else if (Frame.content bytes).isEmpty then contents rest
    else Frame.content bytes :: contents rest
  | _ :: rest => contents rest

namespace Frame

/-- The lines whose failure is no item, and that failure: the nesting is too deep to read, or the
code of an error status is infinite. -/
inductive Fatal (line : List UInt8) : Failure → Prop where
  | deep {chars : List Char} {container : Json.Container} (htext : Bytes.decode line = .ok chars)
      (hdeep : Json.parseChars chars = .error (.tooDeep container)) :
    Fatal line (.tooDeep (Json.ParseError.tooDeep container).message)
  | infinite {frame status : List (String × Json)} {negative : Bool}
      (hframe : json line = .ok (.object frame))
      (htype : Json.member? "type" frame = some (.text "ERROR"))
      (hobject : Json.member? "object" frame = some (.object status))
      (hcode : Json.member? "code" status = some (.double (.infinite negative))) :
    Fatal line .overflow

/-- A line stands for that item, which is an event or the failure to decode the line. -/
inductive Yields (decoder : Option Decoder) (line : List UInt8) : Item → Prop where
  | event {e : Event} (h : item decoder line = .ok (.event e)) : Yields decoder line (.event e)
  | undecodable {text : String} {raw : Evidence}
      (h : item decoder line = .ok (.failure (.undecodable text raw))) :
    Yields decoder line (.failure (.undecodable text raw))

end Frame

/-! ### One line -/

namespace Frame

/-- Text that is no JSON is refused as undecodable, unless it is nested too deep. -/
theorem ofCause_cases (cause : Json.ParseError) (line : List UInt8) :
    (∃ container, cause = .tooDeep container) ∨
      ofCause cause line = unreadable cause.message line := by
  cases cause with
  | tooDeep container => exact .inl ⟨container, rfl⟩
  | malformed what place => exact .inr rfl
  | numeral cause => exact .inr rfl

/-- A line that holds no JSON is refused as undecodable, unless it is fatal. -/
theorem json_error {line : List UInt8} {failure : Failure} (h : json line = .error failure) :
    (∃ text raw, failure = .undecodable text raw) ∨ Fatal line failure := by
  unfold json at h
  split at h
  · cases h
    exact .inl ⟨_, _, rfl⟩
  · rename_i chars htext
    split at h
    · cases h
    · rename_i cause hparse
      cases h
      rcases ofCause_cases cause line with ⟨container, rfl⟩ | hbad
      · exact .inr (.deep htext hparse)
      · exact .inl ⟨_, _, hbad⟩

/-- **A line is an item or fatal**, by its content alone. -/
theorem yields_or_fatal {decoder : Option Decoder} (hdecoder : ∀ d ∈ decoder, d.Ordinary)
    (line : List UInt8) :
    (∃ i, item decoder line = .ok i ∧ Yields decoder line i) ∨
      ∃ failure, item decoder line = .error failure ∧ Fatal line failure := by
  have hundecodable {text : String} {raw : Evidence}
      (h : item decoder line = .ok (.failure (.undecodable text raw))) :
      ∃ i, item decoder line = .ok i ∧ Yields decoder line i := ⟨_, h, .undecodable h⟩
  -- A line fails as JSON, or else as an event, or it is one.
  cases hjson : json line with
  | error failure =>
    rcases json_error hjson with ⟨text, raw, rfl⟩ | hfatal
    · exact .inl (hundecodable (by rw [item, hjson]; rfl))
    · refine .inr ⟨failure, ?_, hfatal⟩
      rw [item, hjson]
      cases hfatal <;> rfl
  | ok frame =>
    cases hevent : Event.ofFrame? decoder frame with
    | ok e =>
      have h : item decoder line = .ok (.event e) := by simp only [item, hjson, hevent]
      exact .inl ⟨_, h, .event h⟩
    | error failure =>
      have h : item decoder line = delivered failure := by simp only [item, hjson, hevent]
      rcases Event.ofFrame?_error hdecoder hevent with
        ⟨text, raw, rfl⟩ | ⟨rfl, status, negative, ⟨members, rfl, htype, hobject⟩, hcode⟩
      · exact .inl (hundecodable h)
      · exact .inr ⟨_, h, .infinite hjson htype hobject hcode⟩

/-- No decoder makes an item of a fatal line. -/
theorem Fatal.item_eq {line : List UInt8} {failure : Failure} (h : Fatal line failure)
    (decoder : Option Decoder) : item decoder line = .error failure := by
  cases h with
  | deep htext hdeep =>
    simp only [item, json, htext, hdeep, ofCause, delivered]
  | infinite hframe htype hobject hcode =>
    have hinfinite : Event.InfiniteCode _ := ⟨_, _, ⟨_, rfl, htype, hobject⟩, hcode⟩
    simp only [item, hframe, hinfinite.ofFrame?_eq decoder, delivered]

end Frame

/-! ### Closing the response -/

namespace Act

/-- What closing a response comes to. -/
def closingOf : Option Failure → Except Failure Unit
  | some failure => .error failure
  | none => .ok ()

theorem closeResponse_of_closed {k : ConnectionId} {w : World}
    (h : (w.connection k).closed = true) : Goes (closeResponse k) w [] (pure ()) w := by
  refine .read ?_
  show Goes (if (w.connection k).closed = true then pure () else _) w [] (pure ()) w
  rw [if_pos h]
  exact .here

/-- An open response is marked as closed, which is entered, and then closing it may fail. -/
theorem closeResponse_of_open {k : ConnectionId} {w : World}
    (hopen : (w.connection k).closed = false) :
    Goes (closeResponse k) w [(w, w.markClosed k)]
      (Fiber.ofExcept (closingOf (w.connection k).closeFailure)) (w.markClosed k) := by
  -- The mark comes first; only then may closing fail, so that a failed close counts as one.
  have hmark : Goes (markClosed k) w [(w, w.markClosed k)] (pure ()) (w.markClosed k) := by
    refine .read ?_
    show Goes (if (!(w.connection k).closed) = true then _ else _) w _ _ _
    rw [if_pos (by rw [hopen]; rfl)]
    exact .read (.write .here)
  have hfail : Goes (failClosing k) (w.markClosed k) []
      (Fiber.ofExcept (closingOf (w.connection k).closeFailure)) (w.markClosed k) := by
    have hkept : ((w.markClosed k).connection k).closeFailure =
        (w.connection k).closeFailure := by
      refine World.part_changeConnection Connection.closeFailure w k k ?_
      exact fun _ => rfl
    refine .read ?_
    show Goes (match ((w.markClosed k).connection k).closeFailure with
      | some failure => Fiber.fail failure
      | none => pure ()) _ _ _ _
    rw [hkept]
    cases (w.connection k).closeFailure <;> exact .here
  refine .read ?_
  show Goes (if (w.connection k).closed = true then _ else _) w _ _ _
  rw [if_neg (by rw [hopen]; exact Bool.false_ne_true)]
  exact (hmark.bind _).trans hfail

end Act

/-! ### Reading a body -/

/-- The waits that the server puts between the lines of a body. -/
inductive PausedBy (elements : List Element) : Wait → Prop where
  | delay {seconds : Double} (h : .delay seconds ∈ elements) : PausedBy elements (.sleep seconds)
  | block (h : .block ∈ elements) : PausedBy elements .forever

/-- A body is read without a cancellation, nobody else touches its connection meanwhile, and the
reader waits only where the server makes it wait. -/
def readingAlone (k : ConnectionId) (elements : List Element) : Terms World where
  rely w t := t.connection k = w.connection k
  answers answer := answer = .ok ()
  pause _ what _ := PausedBy elements what

/-- The items of the lines of a body, up to the first failure that is no item.  `last` is the
failure at the end of the body. -/
def drained (decoder : Option Decoder) (last : Option Failure) :
    List (List UInt8) → List Item × Option Failure
  | [] => ([], last)
  | line :: rest =>
    match Frame.item decoder line with
    | .error failure => ([], some failure)
    | .ok i => (i :: (drained decoder last rest).1, (drained decoder last rest).2)

/-- What a consumer is told of items and of the failure behind them.  A failure that is not ordinary
strikes the consumer instead. -/
def concluded : List Item × Option Failure → Except Failure (List Item × Option Failure)
  | (items, some failure) =>
    if failure.isOrdinary then .ok (items, some failure) else .error failure
  | (items, none) => .ok (items, none)

theorem concluded_cons (i : Item) (items : List Item) (last : Option Failure) :
    concluded (i :: items, last) =
      (concluded (items, last)).map fun told => (i :: told.1, told.2) := by
  cases last with
  | none => rfl
  | some failure =>
    unfold concluded
    dsimp only
    split <;> rfl

namespace Act

section Drain

variable {k : ConnectionId} {endpoint : Endpoint} {pending : List Element}
  {closeFailure : Option Failure}

/-- A connection over HTTP of which nothing has ended, with those elements still to come. -/
def OpenBody (k : ConnectionId) (endpoint : Endpoint) (closeFailure : Option Failure)
    (elements : List Element) (w : World) : Prop :=
  w.connection k = { transport := .http endpoint, pending := elements, closeFailure }

theorem OpenBody.readable {elements : List Element} {w : World}
    (h : OpenBody k endpoint closeFailure elements w) : (w.connection k).Readable := by
  rw [h]
  exact Connection.readable_of_http rfl

/-- Taking elements off a body leaves the others. -/
theorem OpenBody.keep {elements : List Element} {w : World}
    (h : OpenBody k endpoint closeFailure elements w) (rest : List Element) :
    OpenBody k endpoint closeFailure rest
      (w.changeConnection k fun connection => { connection with pending := rest }) := by
  unfold OpenBody
  rw [World.connection_changeConnection h.readable, h]

/-- The frames of a connection over HTTP have ended; its response may have been closed. -/
def FramesEnded (k : ConnectionId) (endpoint : Endpoint) (closeFailure : Option Failure)
    (left : List Element) (closed : Bool) (w : World) : Prop :=
  w.connection k =
    { transport := .http endpoint, pending := left, closeFailure, ended := true, closed }

theorem OpenBody.endFrames {left : List Element} {w : World}
    (h : OpenBody k endpoint closeFailure left w) :
    FramesEnded k endpoint closeFailure left false
      (w.changeConnection k fun connection => { connection with ended := true }) := by
  rw [FramesEnded, World.connection_changeConnection h.readable, h]

theorem FramesEnded.items {left : List Element} {closed : Bool} {w : World}
    (h : FramesEnded k endpoint closeFailure left closed w) : (w.connection k).items = [] := by
  rw [h]
  exact Connection.items_of_ended rfl rfl

/-- An end from which a result is made is that end, with the result in it. -/
theorem ofExcept_bind_pure {α β : Type} (f : α → β) (r : Except Failure α) :
    (Fiber.ofExcept r >>= fun a => pure (f a) : Act β) = Fiber.ofExcept (r.map f) := by
  cases r <;> rfl

/-- Closing the response changes no more than that, and has no effect when it is repeated. -/
theorem FramesEnded.closeResponse {left : List Element} {closed : Bool} {w : World}
    (h : FramesEnded k endpoint closeFailure left closed w) :
    ∃ changes v, Goes (closeResponse k) w changes
        (Fiber.ofExcept (if closed then .ok () else closingOf closeFailure)) v ∧
      FramesEnded k endpoint closeFailure left true v := by
  have hclosed : (w.connection k).closed = closed := by rw [h]
  cases closed with
  | true => exact ⟨_, w, closeResponse_of_closed hclosed, h⟩
  | false =>
    have hthere : (w.connection k).Readable := by
      rw [h]
      exact Connection.readable_of_http rfl
    have hgo := closeResponse_of_open hclosed
    rw [h] at hgo
    refine ⟨_, _, hgo, ?_⟩
    show (w.changeConnection k _).connection k = _
    rw [World.connection_changeConnection hthere, h]

/-- A read of an item begins with a read of a line, and goes on with what that came to: the line is
decoded, the end closes the response, and a failure ends the frames. -/
theorem OpenBody.nextItem_meets {elements : List Element} {s₀ w : World}
    (h : OpenBody k endpoint closeFailure elements w) {terms : Terms World}
    {Read : World → Except Failure (Option (List UInt8)) → World → Prop}
    {post : World → Except Failure (Option Item) → World → Prop}
    (hread : (readLine k elements).Meets terms Read s₀ w)
    (hline : ∀ t₀ line t, Read t₀ (.ok (some line)) t →
      (decodeLine k endpoint.decoder line >>= fun i => pure (some i)).Meets terms post t₀ t)
    (hend : ∀ t₀ t, Read t₀ (.ok none) t →
      let u := t.changeConnection k fun connection => { connection with ended := true }
      terms.change t u ∧ (closeResponse k >>= fun _ => pure none).Meets terms post t₀ u)
    (hfail : ∀ t₀ failure t, Read t₀ (.error failure) t →
      let u := t.changeConnection k fun connection => { connection with ended := true }
      terms.change t u ∧
        if failure.interruptsStream then
          post t₀ (.ok (some (.failure (Connection.interruption failure)))) u
        else post t₀ (.error failure) u) :
    (nextItem k).Meets terms post s₀ w := by
  have hhttp : (w.connection k).transport = .http endpoint := by rw [h]
  have hopen : (w.connection k).ended = false := by rw [h]
  rw [meets_nextItem_of_http hhttp, meets_nextFrame hopen, h]
  refine hread.mono fun t₀ r t hr => ?_
  rcases r with failure | _ | line
  · obtain ⟨hchange, hpost⟩ := hfail t₀ failure t hr
    refine ⟨hchange, ?_⟩
    split
    · rename_i hinterrupts
      rw [if_pos hinterrupts] at hpost
      exact hpost
    · rename_i hpasses
      rw [if_neg hpasses] at hpost
      exact hpost
  · exact hend t₀ t hr
  · have hdecoded := hline t₀ line t hr
    dsimp only
    rw [meets_bind] at hdecoded ⊢
    exact hdecoded

/-- What a read of a line comes to when no read fails: the first content, and fewer elements. -/
def LineTaken (k : ConnectionId) (endpoint : Endpoint) (closeFailure : Option Failure)
    (elements : List Element) (r : Except Failure (Option (List UInt8))) (w : World) : Prop :=
  match r with
  | .ok (some line) =>
    ∃ rest, rest <:+ elements ∧ rest.length < elements.length ∧
      OpenBody k endpoint closeFailure rest w ∧
      Frame.contents elements = line :: Frame.contents rest
  | .ok none =>
    Frame.contents elements = [] ∧ ∃ rest, OpenBody k endpoint closeFailure rest w
  | .error _ => False

/-- An element that carries no frame makes no difference to what is read behind it. -/
theorem LineTaken.of_rest {e : Element} {rest : List Element}
    (h : Frame.contents (e :: rest) = Frame.contents rest)
    {r : Except Failure (Option (List UInt8))} {w : World}
    (hr : LineTaken k endpoint closeFailure rest r w) :
    LineTaken k endpoint closeFailure (e :: rest) r w := by
  rcases r with failure | _ | line
  · exact hr
  · exact ⟨h.trans hr.1, hr.2⟩
  · obtain ⟨left, hsuffix, hfewer, hbody, hcontents⟩ := hr
    exact ⟨left, hsuffix.trans (List.suffix_cons e rest), Nat.lt_succ_of_lt hfewer, hbody,
      h.trans hcontents⟩

theorem readLine_taken {elements : List Element} (hsuffix : elements <:+ pending)
    (hreads : ∀ failure, .raise failure ∉ pending) {s₀ w : World}
    (h : OpenBody k endpoint closeFailure elements w) :
    (readLine k elements).Meets (readingAlone k pending)
      (fun _ => LineTaken k endpoint closeFailure elements) s₀ w := by
  induction elements generalizing s₀ w with
  | nil => exact ⟨rfl, [], h⟩
  | cons e rest ih =>
    have hbehind : rest <:+ pending := (List.suffix_cons e rest).trans hsuffix
    have hmem : e ∈ pending := hsuffix.subset List.mem_cons_self
    have hkept := h.keep rest
    -- a wait finds the connection as it was left, and is answered by no failure
    have hwait {what : Wait} (hpaused : PausedBy pending what)
        (hskip : Frame.contents (e :: rest) = Frame.contents rest) {t : World}
        (ht : OpenBody k endpoint closeFailure rest t) :
        (Fiber.await what >>= fun _ => readLine k rest).Meets (readingAlone k pending)
          (fun _ => LineTaken k endpoint closeFailure (e :: rest)) s₀ t := by
      rw [meets_bind, meets_await]
      refine ⟨hpaused, fun answer u hanswer hrely _ => ?_⟩
      cases hanswer
      exact (ih hbehind (Eq.trans hrely ht)).mono fun _ r _ hr => hr.of_rest hskip
    cases e with
    | delay seconds => exact ⟨trivial, hwait (.delay hmem) rfl hkept⟩
    | block => exact ⟨trivial, hwait (.block hmem) rfl hkept⟩
    | raise failure => exact (hreads failure hmem).elim
    | item handedOver made =>
      exact ⟨trivial, (ih hbehind hkept).mono fun _ r _ hr => hr.of_rest rfl⟩
    | line bytes =>
      refine ⟨trivial, ?_⟩
      dsimp only
      split
      · rename_i hend
        exact ⟨if_pos hend, rest, hkept⟩
      · rename_i hmore
        split
        · rename_i hblank
          have hskip : Frame.contents (.line bytes :: rest) = Frame.contents rest := by
            rw [Frame.contents, if_neg hmore, if_pos hblank]
          exact (ih hbehind hkept).mono fun _ r _ hr => hr.of_rest hskip
        · rename_i hcontent
          refine ⟨rest, List.suffix_cons _ rest, Nat.lt_succ_self _, hkept, ?_⟩
          rw [Frame.contents, if_neg hmore, if_neg hcontent]

/-- What a read of an item comes to when no read fails: the item of the first content, or the
failure that is none; at the end the response is closed, and that may fail. -/
def ItemTaken (k : ConnectionId) (endpoint : Endpoint) (closeFailure : Option Failure)
    (elements : List Element) (r : Except Failure (Option Item)) (w : World) : Prop :=
  (∃ line rest, rest <:+ elements ∧ rest.length < elements.length ∧
    Frame.contents elements = line :: Frame.contents rest ∧
    match Frame.item endpoint.decoder line with
    | .ok i => r = .ok (some i) ∧ OpenBody k endpoint closeFailure rest w
    | .error failure => r = .error failure ∧ (w.connection k).items = []) ∨
  Frame.contents elements = [] ∧ (w.connection k).items = [] ∧
    r = match closeFailure with
      | some failure => .error failure
      | none => .ok none

/-- A line that carries a frame has an item, or its failure ends the frames. -/
theorem decodeLine_taken {elements rest : List Element} {line : List UInt8}
    (hbehind : rest <:+ elements) (hfewer : rest.length < elements.length)
    (hcontents : Frame.contents elements = line :: Frame.contents rest) {s₀ t : World}
    (ht : OpenBody k endpoint closeFailure rest t) :
    (decodeLine k endpoint.decoder line >>= fun i => pure (some i)).Meets (readingAlone k pending)
      (fun _ => ItemTaken k endpoint closeFailure elements) s₀ t := by
  rw [meets_decodeLine]
  refine recordHandedOver_keeps (fun _ _ => trivial) fun u _ hsame => ?_
  have hu : OpenBody k endpoint closeFailure rest u := (hsame k).trans ht
  rw [byOutcome_ok]
  split
  · rename_i i hitem
    refine .inl ⟨line, rest, hbehind, hfewer, hcontents, ?_⟩
    rw [hitem]
    exact ⟨rfl, hu⟩
  · rename_i failure hitem
    refine ⟨trivial, .inl ⟨line, rest, hbehind, hfewer, hcontents, ?_⟩⟩
    rw [hitem]
    exact ⟨rfl, hu.endFrames.items⟩

/-- When the frames have run out the response is closed, which may fail. -/
theorem closeResponse_taken {elements rest : List Element} (hnone : Frame.contents elements = [])
    {s₀ t : World} (ht : FramesEnded k endpoint closeFailure rest false t) :
    (closeResponse k >>= fun _ => pure none).Meets (readingAlone k pending)
      (fun _ => ItemTaken k endpoint closeFailure elements) s₀ t := by
  obtain ⟨changes, u, hclose, hu⟩ := ht.closeResponse
  refine (hclose.bind _).meets_iff.mpr ⟨fun _ _ => trivial, ?_⟩
  rw [if_neg Bool.false_ne_true, ofExcept_bind_pure, meets_ofExcept]
  refine .inr ⟨hnone, hu.items, ?_⟩
  cases closeFailure <;> rfl

theorem nextItem_taken {elements : List Element} (hsuffix : elements <:+ pending)
    (hreads : ∀ failure, .raise failure ∉ pending) {s₀ w : World}
    (h : OpenBody k endpoint closeFailure elements w) :
    (nextItem k).Meets (readingAlone k pending)
      (fun _ => ItemTaken k endpoint closeFailure elements) s₀ w := by
  refine h.nextItem_meets (readLine_taken hsuffix hreads h) (fun t₀ line t hr => ?line)
    (fun t₀ t hr => ?ended) fun _ _ _ hr => hr.elim
  case line =>
    obtain ⟨rest, hbehind, hfewer, ht, hcontents⟩ := hr
    exact decodeLine_taken hbehind hfewer hcontents ht
  case ended =>
    obtain ⟨hnone, rest, ht⟩ := hr
    exact ⟨trivial, closeResponse_taken hnone ht.endFrames⟩

/-- What becomes of a read that fails is what the consumer is told of no items and the failure. -/
theorem failedRead_meets {failure : Failure} {terms : Terms World}
    {post : World → Except Failure (List Item × Option Failure) → World → Prop} {s₀ w : World}
    (h : post s₀ (concluded ([], some failure)) w) :
    (if failure.isOrdinary then pure ([], some failure) else Fiber.fail failure :
      Act (List Item × Option Failure)).Meets terms post s₀ w := by
  unfold concluded at h
  dsimp only at h
  split at h
  · rename_i hordinary
    rw [if_pos hordinary]
    exact h
  · rename_i hsevere
    rw [if_neg hsevere]
    exact h

/-- A consumer gets the items of all contents up to the first failure that is none, and leaves
nothing. -/
theorem drain_meets {elements : List Element} (hsuffix : elements <:+ pending)
    (hreads : ∀ failure, .raise failure ∉ pending) {bound : Nat} (hbound : elements.length < bound)
    {s₀ w : World} (h : OpenBody k endpoint closeFailure elements w) :
    ((Source.ofConnection k).drain bound).Meets (readingAlone k pending)
      (fun _ r t => (t.connection k).items = [] ∧
        r = concluded (drained endpoint.decoder closeFailure (Frame.contents elements))) s₀ w := by
  -- each item has taken a line off the body, so that the bound lasts
  induction bound generalizing elements s₀ w with
  | zero => exact absurd hbound (Nat.not_lt_zero _)
  | succ bound ih =>
    rw [Source.drain, meets_bind, meets_attempt]
    refine (nextItem_taken hsuffix hreads h).mono fun t₀ r t hr => ?_
    rw [byOutcome_ok]
    rcases hr with ⟨line, rest, hbehind, hfewer, hcontents, htaken⟩ | ⟨hnone, hnothing, hend⟩
    · rw [hcontents, drained]
      cases hitem : Frame.item endpoint.decoder line with
      | error failure =>
        rw [hitem] at htaken
        obtain ⟨rfl, hnothing⟩ := htaken
        exact failedRead_meets ⟨hnothing, rfl⟩
      | ok i =>
        rw [hitem] at htaken
        obtain ⟨rfl, ht⟩ := htaken
        dsimp only
        rw [meets_bind]
        refine (ih (hbehind.trans hsuffix) (by omega) ht).mono fun _ told u htold => ?_
        obtain ⟨hnothing, rfl⟩ := htold
        rw [concluded_cons]
        cases concluded (drained endpoint.decoder closeFailure (Frame.contents rest)) <;>
          exact ⟨hnothing, rfl⟩
    · rw [hnone, drained]
      cases closeFailure with
      | none => cases hend; exact ⟨hnothing, rfl⟩
      | some failure => cases hend; exact failedRead_meets ⟨hnothing, rfl⟩

/-- What the drain call comes to. -/
theorem call_drain_meets (hreads : ∀ failure, .raise failure ∉ pending) {s₀ w : World}
    (h : OpenBody k endpoint closeFailure pending w) :
    ((Source.ofConnection k).call .drain).Meets (readingAlone k pending)
      (fun _ r t => (t.connection k).items = [] ∧
        r = (concluded (drained endpoint.decoder closeFailure (Frame.contents pending))).map
          (fun told => .items told.1 told.2)) s₀ w := by
  have hbound : (w.connection k).pending.length + 1 = pending.length + 1 := by rw [h]
  show ((Source.ofConnection k).drain ((w.connection k).pending.length + 1) >>= fun told =>
    pure (Outcome.items told.1 told.2)).Meets _ _ s₀ w
  rw [hbound, meets_bind]
  refine (drain_meets (List.suffix_refl pending) hreads (Nat.lt_succ_self _) h).mono
    fun _ r t hr => ?_
  obtain ⟨hnothing, rfl⟩ := hr
  cases concluded (drained endpoint.decoder closeFailure (Frame.contents pending)) <;>
    exact ⟨hnothing, rfl⟩

end Drain

end Act

/-! ### What a consumer gets -/

/-- All lines are items when none of them is fatal. -/
theorem drained_of_none_fatal {decoder : Option Decoder} (hdecoder : ∀ d ∈ decoder, d.Ordinary)
    (last : Option Failure) {lines : List (List UInt8)}
    (h : ∀ line ∈ lines, ∀ failure, ¬ Frame.Fatal line failure) :
    ∃ items, drained decoder last lines = (items, last) ∧
      List.Forall₂ (Frame.Yields decoder) lines items := by
  induction lines with
  | nil => exact ⟨[], rfl, .nil⟩
  | cons line rest ih =>
    obtain ⟨items, hitems, hyields⟩ := ih fun l hl => h l (List.mem_cons_of_mem _ hl)
    rcases Frame.yields_or_fatal hdecoder line with ⟨i, hi, hyield⟩ | ⟨failure, -, hfatal⟩
    · refine ⟨i :: items, ?_, .cons hyield hyields⟩
      rw [drained, hi, hitems]
    · exact (h line List.mem_cons_self failure hfatal).elim

/-- The first fatal line is the end of what is delivered. -/
theorem drained_of_fatal {decoder : Option Decoder} (hdecoder : ∀ d ∈ decoder, d.Ordinary)
    (last : Option Failure) {before : List (List UInt8)} (after : List (List UInt8))
    {bad : List UInt8}
    {failure : Failure} (h : ∀ line ∈ before, ∀ failure, ¬ Frame.Fatal line failure)
    (hbad : Frame.Fatal bad failure) :
    ∃ items, drained decoder last (before ++ bad :: after) = (items, some failure) ∧
      List.Forall₂ (Frame.Yields decoder) before items := by
  induction before with
  | nil => exact ⟨[], by rw [List.nil_append, drained, hbad.item_eq], .nil⟩
  | cons line rest ih =>
    obtain ⟨items, hitems, hyields⟩ := ih fun l hl => h l (List.mem_cons_of_mem _ hl)
    rcases Frame.yields_or_fatal hdecoder line with ⟨i, hi, hyield⟩ | ⟨failure, -, hfatal⟩
    · refine ⟨i :: items, ?_, .cons hyield hyields⟩
      rw [List.cons_append, drained, hi, hitems]
    · exact (h line List.mem_cons_self failure hfatal).elim

theorem Frame.Fatal.isOrdinary {line : List UInt8} {failure : Failure}
    (h : Fatal line failure) : failure.isOrdinary = true := by
  cases h <;> rfl

/-- **Whole bodies.**  A consumer iterates a body in which every read succeeds, with a decoder that
fails ordinarily if it fails.  If no line is fatal, every line that is not blank is one item, an
event or the failure to decode the line, in order up to the end of the body, and nothing fails but
perhaps the closing at its end.  Else it gets the items of the lines before the first fatal one,
and then the failure of that line.  In both cases nothing is left for a later read, so the lines
behind a fatal one are lost.  The consumer waits only where the server makes it wait. -/
theorem drain_body {k : ConnectionId} {endpoint : Endpoint} {pending : List Element}
    {closeFailure : Option Failure} {w : World}
    (hbody : Act.OpenBody k endpoint closeFailure pending w)
    (hreads : ∀ failure, .raise failure ∉ pending)
    (hdecoder : ∀ d ∈ endpoint.decoder, d.Ordinary) :
    ((Source.ofConnection k).call .drain).Meets (readingAlone k pending)
      (fun _ r t =>
        (t.connection k).items = [] ∧
        ((∀ line ∈ Frame.contents pending, ∀ failure, ¬ Frame.Fatal line failure) →
          ∃ items,
            r = (concluded (items, closeFailure)).map (fun told => .items told.1 told.2) ∧
            List.Forall₂ (Frame.Yields endpoint.decoder) (Frame.contents pending) items) ∧
        ∀ before bad after failure, Frame.contents pending = before ++ bad :: after →
          (∀ line ∈ before, ∀ failure, ¬ Frame.Fatal line failure) → Frame.Fatal bad failure →
          ∃ items, r = .ok (.items items (some failure)) ∧
            List.Forall₂ (Frame.Yields endpoint.decoder) before items) w w := by
  refine (Act.call_drain_meets hreads hbody).mono fun _ r t hr => ?_
  refine ⟨hr.1, fun hnone => ?_, fun before bad after failure hall hnone hbad => ?_⟩
  · obtain ⟨items, hitems, hyields⟩ := drained_of_none_fatal hdecoder closeFailure hnone
    exact ⟨items, by rw [hr.2, hitems], hyields⟩
  · obtain ⟨items, hitems, hyields⟩ :=
      drained_of_fatal hdecoder closeFailure after hnone hbad
    refine ⟨items, ?_, hyields⟩
    rw [hr.2, hall, hitems, concluded, if_pos hbad.isOrdinary]
    rfl

/-! ### A body with a fatal line -/

/-- A line that is no JSON. -/
def brokenLine : List UInt8 := "\x7b".toUTF8.data.toList

/-- A frame about an added object of version 2. -/
def addedLine : List UInt8 :=
  ("\x7b\"type\":\"ADDED\",\"object\":"
    ++ "\x7b\"metadata\":\x7b\"resourceVersion\":\"2\"\x7d\x7d\x7d").toUTF8.data.toList

/-- An error frame whose code is infinite. -/
def infiniteCodeLine : List UInt8 :=
  "\x7b\"type\":\"ERROR\",\"object\":\x7b\"code\":Infinity\x7d\x7d".toUTF8.data.toList

/-- The lines of a body as they are read, and the end of the body. -/
def bodyOf (lines : List (List UInt8)) : List Element :=
  lines.map (fun line => .line (line ++ [0x0a])) ++ [.line []]

/-- A world with one connection, over which a body is about to come. -/
def World.ofBody (pending : List Element) : World where
  connections := [{ transport := .http { name := "kubernetes" }, pending }]

theorem infiniteCodeLine_fatal : Frame.Fatal infiniteCodeLine .overflow := by
  have hframe : Frame.json infiniteCodeLine = .ok (.object [("type", .text "ERROR"),
      ("object", .object [("code", .double (.infinite false))])]) := rfl
  exact .infinite hframe rfl rfl rfl

/-- Good and bad lines around a fatal one, and a blank line. -/
def mixedBody : List Element :=
  bodyOf [brokenLine, [], addedLine, infiniteCodeLine, addedLine]

/-- Of the mixed body a consumer gets a broken line and an event, and then a failure. -/
theorem mixedBody_drained :
    ((Source.ofConnection 0).call .drain).Meets (readingAlone 0 mixedBody)
      (fun _ r _ => ∃ items, r = .ok (.items items (some .overflow)) ∧
        List.Forall₂ (Frame.Yields none) [brokenLine, addedLine] items)
      (World.ofBody mixedBody) (World.ofBody mixedBody) := by
  have hbody : Act.OpenBody 0 { name := "kubernetes" } none mixedBody (World.ofBody mixedBody) :=
    rfl
  have hreads : ∀ failure, .raise failure ∉ mixedBody := by
    intro failure h
    simp [mixedBody, bodyOf] at h
  have hitems : ∀ line ∈ [brokenLine, addedLine], ∃ i, Frame.item none line = .ok i := by
    intro line hline
    simp only [List.mem_cons, List.not_mem_nil, or_false] at hline
    rcases hline with rfl | rfl
    · exact ⟨_, rfl⟩
    · exact ⟨_, rfl⟩
  refine (drain_body hbody hreads (by simp)).mono fun _ r t hr => ?_
  refine hr.2.2 [brokenLine, addedLine] infiniteCodeLine [addedLine] .overflow rfl ?_
    infiniteCodeLine_fatal
  intro line hline failure hfatal
  obtain ⟨i, hi⟩ := hitems line hline
  rw [hfatal.item_eq] at hi
  cases hi

/-- Both lines of this body carry a frame, and the second one would be an event.  But the infinite
code in the first one strikes the consumer, which gets no item at all. -/
theorem infiniteCode_ends_body :
    let body := bodyOf [infiniteCodeLine, addedLine]
    Frame.contents body = [infiniteCodeLine, addedLine] ∧
      (∃ e, Frame.Yields none addedLine (.event e)) ∧
      (((Source.ofConnection 0).call .drain).advance (World.ofBody body)).2 =
        .done (.items [] (some .overflow)) :=
  ⟨rfl, ⟨_, .event rfl⟩, rfl⟩

end ResumableWatch
