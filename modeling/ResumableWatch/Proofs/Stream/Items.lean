import ResumableWatch.Proofs.Stream.Steady
import ResumableWatch.Proofs.Stream.Stepwise
/-!
# The items of a connection

`Connection.items` lists what a connection still has for its reader, from the elements that the
server will still send: the ready items up to the first failure, or the items of the lines of a body
up to its end.  A wait is no item, and neither is a blank line.

`nextItem_fetches` says that a read takes the first of these items and leaves the others, however
often it waits, as long as nobody else touches the connection meanwhile.  While it waits, it has not
taken anything, and it fails only if a wait is struck or there is no item.
-/

namespace ResumableWatch

open ResumableWatch.Fiber

/-! ### What a connection still has -/

/-- The ready items up to the first failure. -/
def readyItems : List Element → List Item
  | [] => []
  | .delay _ :: rest => readyItems rest
  | .block :: rest => readyItems rest
  | .raise _ :: _ => []
  | .line _ :: rest => readyItems rest
  | .item _ (.ok item) :: rest => item :: readyItems rest
  | .item _ (.error _) :: _ => []

/-- The items of the lines of a body.  A failure of the network is the last one of them, and any
other failure ends them. -/
def bodyItems (decoder : Option Decoder) : List Element → List Item
  | [] => []
  | .delay _ :: rest => bodyItems decoder rest
  | .block :: rest => bodyItems decoder rest
  | .raise failure :: _ =>
    if failure.interruptsStream then [.failure (Connection.interruption failure)] else []
  | .item .. :: rest => bodyItems decoder rest
  | .line bytes :: rest =>
    if bytes.isEmpty then []
    else if (Frame.content bytes).isEmpty then bodyItems decoder rest
    else
      match Frame.item decoder (Frame.content bytes) with
      | .ok item => item :: bodyItems decoder rest
      | .error _ => []

/-- The items that a connection still has for its reader. -/
def Connection.items (connection : Connection) : List Item :=
  match connection.transport with
  | .feed => if connection.closed then [] else readyItems connection.pending
  | .http endpoint =>
    if connection.ended then [] else bodyItems endpoint.decoder connection.pending

theorem Connection.items_of_feed {connection : Connection} (hfeed : connection.transport = .feed)
    (hopen : connection.closed = false) : connection.items = readyItems connection.pending := by
  rw [items, hfeed, hopen]
  rfl

theorem Connection.items_of_http {connection : Connection} {endpoint : Endpoint}
    (hhttp : connection.transport = .http endpoint) (hopen : connection.ended = false) :
    connection.items = bodyItems endpoint.decoder connection.pending := by
  rw [items, hhttp, hopen]
  rfl

theorem Connection.items_of_ended {connection : Connection} {endpoint : Endpoint}
    (hhttp : connection.transport = .http endpoint) (hended : connection.ended = true) :
    connection.items = [] := by
  rw [items, hhttp, hended]
  rfl

/-- A connection that can be read: the one that stands for no connection cannot. -/
def Connection.Readable (connection : Connection) : Prop :=
  connection.transport = .feed → connection.closed = false

theorem Connection.readable_of_http {connection : Connection} {endpoint : Endpoint}
    (hhttp : connection.transport = .http endpoint) : connection.Readable := by
  intro hfeed
  rw [hhttp] at hfeed
  cases hfeed

theorem World.connection_changeConnection {w : World} {k : ConnectionId}
    (h : (w.connection k).Readable) (f : Connection → Connection) :
    (w.changeConnection k f).connection k = f (w.connection k) := by
  have hk : k < w.connections.length := by
    by_contra hk
    rw [connection, List.getElem?_eq_none (Nat.le_of_not_lt hk)] at h
    cases h rfl
  simp [connection, changeConnection, List.getElem?_modify_eq, List.getElem?_eq_getElem hk]

/-- What is left of a connection after elements have been taken off. -/
theorem World.connection_keep {w : World} {k : ConnectionId} {connection : Connection}
    (hreadable : connection.Readable) {elements : List Element}
    (h : w.connection k = { connection with pending := elements }) (rest : List Element) :
    (w.changeConnection k fun connection => { connection with pending := rest }).connection k
      = { connection with pending := rest } := by
  rw [connection_changeConnection (h ▸ hreadable), h]

/-- A connection whose frames have ended has nothing left. -/
theorem World.items_endFrames {k : ConnectionId} {connection : Connection} {endpoint : Endpoint}
    (hhttp : connection.transport = .http endpoint) {t : World} {rest : List Element}
    (ht : t.connection k = { connection with pending := rest }) :
    ((t.changeConnection k fun connection =>
      { connection with ended := true }).connection k).items = [] := by
  have hthere : (t.connection k).Readable := by
    rw [ht]
    exact Connection.readable_of_http hhttp
  rw [connection_changeConnection hthere, ht]
  exact Connection.items_of_ended hhttp rfl

/-- Reading from a connection and closing it leave the streams alone. -/
theorem streamsKept : TolerantOfConnections fun w t => t.streams = w.streams where
  log w level component event fields lines := World.log_streams w level component event fields lines
  closed _ _ _ := rfl
  connection _ _ _ _ := rfl
  keep _ _ _ := rfl
  handedOver _ _ _ := rfl

/-! ### Reading -/

/-- While a read waits, nobody else touches its connection, what is known stays so, and no item has
been taken.  Only some failures may strike a wait. -/
def whileStruckBy (Strikes : Failure → Prop) (k : ConnectionId) (Known : World → Prop) :
    Terms World where
  rely w t := t.connection k = w.connection k ∧ Known t
  answers answer := ∀ failure, answer = .error failure → Strikes failure
  pause w _ t := Known t ∧ (t.connection k).items = (w.connection k).items

/-- A read takes the first item and leaves the others; at the end there are none.  It fails only if
it is struck, or if there is no item that it could take. -/
def Fetches (Strikes : Failure → Prop) (k : ConnectionId) (Known : World → Prop) (w : World)
    (r : Except Failure (Option Item)) (t : World) : Prop :=
  Known t ∧
    match r with
    | .ok (some item) => (w.connection k).items = item :: (t.connection k).items
    | .ok none => (w.connection k).items = []
    | .error failure => Strikes failure ∨ (w.connection k).items = []

/-- While a read waits, no failure of the network strikes it. -/
abbrev whileReading (k : ConnectionId) (Known : World → Prop) : Terms World :=
  whileStruckBy (fun failure => failure.interruptsStream = false) k Known

/-- What a read takes, whatever it fails with. -/
abbrev Reads (k : ConnectionId) (Known : World → Prop) (w : World)
    (r : Except Failure (Option Item)) (t : World) : Prop :=
  Fetches (fun _ => True) k Known w r t

theorem Fetches.reads {Strikes : Failure → Prop} {k : ConnectionId} {Known : World → Prop}
    {w t : World} {r : Except Failure (Option Item)} (h : Fetches Strikes k Known w r t) :
    Reads k Known w r t := by
  rcases r with failure | _ | item
  · exact ⟨h.1, .inl trivial⟩
  · exact h
  · exact h

namespace Act

section Reading

variable {Strikes : Failure → Prop} {k : ConnectionId} {Known : World → Prop}

/-- A wait in a read: what has been kept of the connection is there afterwards. -/
theorem await_meets {what : Wait} {α : Type} {m : Act α}
    {post : World → Except Failure α → World → Prop} {w t : World} (ht : Known t)
    (hitems : (w.connection k).items = (t.connection k).items)
    (hgoes : ∀ u, u.connection k = t.connection k → Known u →
      m.Meets (whileStruckBy Strikes k Known) post u u)
    (hstruck : ∀ u failure, u.connection k = t.connection k → Known u →
      Strikes failure → post u (.error failure) u) :
    (Fiber.await what >>= fun _ => m).Meets (whileStruckBy Strikes k Known) post w t := by
  rw [meets_bind, meets_await]
  refine ⟨⟨ht, hitems.symm⟩, fun answer u hanswer hrely _ => ?_⟩
  cases answer with
  | ok _ => exact hgoes u hrely.1 hrely.2
  | error failure => exact hstruck u failure hrely.1 hrely.2 (hanswer failure rfl)

/-- What was handed to the API client is entered into the journal, and that is all. -/
theorem recordHandedOver_keeps {terms : Terms World} (hchange : ∀ u v, terms.change u v)
    {handedOver : Option (String × String)} {post : World → Except Failure Unit → World → Prop}
    {w t : World}
    (hpost : ∀ u, u.streams = t.streams → (∀ k, u.connection k = t.connection k) →
      post w (.ok ()) u) :
    (recordHandedOver handedOver).Meets terms post w t := by
  cases handedOver with
  | none => exact hpost t rfl fun _ => rfl
  | some handed => exact ⟨hchange _ _, hpost _ rfl fun _ => rfl⟩

variable (hknown : ∀ w t : World, t.streams = w.streams → Known w → Known t)

include hknown

theorem recordHandedOver_meets {handedOver : Option (String × String)}
    {post : World → Except Failure Unit → World → Prop} {w t : World} (ht : Known t)
    (hpost : ∀ u, u.connection k = t.connection k → Known u → post w (.ok ()) u) :
    (recordHandedOver handedOver).Meets (whileStruckBy Strikes k Known) post w t :=
  recordHandedOver_keeps (fun _ _ => trivial) fun u hstreams hsame =>
    hpost u (hsame k) (hknown t u hstreams ht)

theorem readItem_fetches {connection : Connection} (hfeed : connection.transport = .feed)
    (hopen : connection.closed = false) {elements : List Element} {w t : World}
    (ht : t.connection k = { connection with pending := elements }) (htk : Known t)
    (hitems : (w.connection k).items = readyItems elements) :
    (readItem k elements).Meets (whileStruckBy Strikes k Known) (Fetches Strikes k Known) w t := by
  induction elements generalizing w t with
  | nil => exact ⟨htk, hitems⟩
  | cons e rest ih =>
    -- each element is taken off the connection first
    let u := t.changeConnection k fun connection => { connection with pending := rest }
    have hu : u.connection k = { connection with pending := rest } :=
      World.connection_keep (fun _ => hopen) ht rest
    have huk : Known u := hknown t u rfl htk
    have hleft : (u.connection k).items = readyItems rest := by
      rw [hu]
      exact Connection.items_of_feed hfeed hopen
    have hwait {what : Wait} (hsame : (w.connection k).items = readyItems rest) :
        (Fiber.await what >>= fun _ => readItem k rest).Meets (whileStruckBy Strikes k Known)
          (Fetches Strikes k Known) w u := by
      refine await_meets huk (hsame.trans hleft.symm) (fun v hv hvk => ?_)
        fun v failure _ hvk hstrikes => ⟨hvk, .inl hstrikes⟩
      refine ih (hv.trans hu) hvk ?_
      rw [hv, hleft]
    cases e with
    | delay seconds => exact ⟨trivial, hwait hitems⟩
    | block => exact ⟨trivial, hwait hitems⟩
    | raise failure => exact ⟨trivial, huk, .inr hitems⟩
    | line bytes => exact ⟨trivial, ih hu huk hitems⟩
    | item handedOver made =>
      refine ⟨trivial, ?_⟩
      show (recordHandedOver handedOver >>= fun _ => Fiber.ofExcept made >>= fun a =>
        pure (some a)).Meets (whileStruckBy Strikes k Known) (Fetches Strikes k Known) w u
      rw [meets_bind]
      refine recordHandedOver_meets hknown huk fun v hv hvk => ?_
      cases made with
      | error failure => exact ⟨hvk, .inr hitems⟩
      | ok item =>
        refine ⟨hvk, ?_⟩
        show (w.connection k).items = item :: (v.connection k).items
        rw [hv, hleft]
        exact hitems

/-- What a read of a line has come to. -/
def LineRead (Strikes : Failure → Prop) (k : ConnectionId) (Known : World → Prop)
    (connection : Connection) (decoder : Option Decoder) (w : World)
    (r : Except Failure (Option (List UInt8))) (t : World) : Prop :=
  Known t ∧ ∃ rest, t.connection k = { connection with pending := rest } ∧
    match r with
    | .ok (some line) =>
      (w.connection k).items =
        match Frame.item decoder line with
        | .ok item => item :: bodyItems decoder rest
        | .error _ => []
    | .ok none => (w.connection k).items = []
    | .error failure =>
      (failure.interruptsStream = true →
        (w.connection k).items = [.failure (Connection.interruption failure)]) ∧
      (failure.interruptsStream = false → Strikes failure ∨ (w.connection k).items = [])

theorem readLine_fetches
    (hstrikes : ∀ failure, Strikes failure → failure.interruptsStream = false)
    {connection : Connection} {endpoint : Endpoint}
    (hhttp : connection.transport = .http endpoint) (hopen : connection.ended = false)
    {elements : List Element} {w t : World}
    (ht : t.connection k = { connection with pending := elements }) (htk : Known t)
    (hitems : (w.connection k).items = bodyItems endpoint.decoder elements) :
    (readLine k elements).Meets (whileStruckBy Strikes k Known)
      (LineRead Strikes k Known connection endpoint.decoder) w t := by
  -- `w` stays where the stretch began: the items are those that were to come from there
  induction elements generalizing w t with
  | nil => exact ⟨htk, [], ht, hitems⟩
  | cons e rest ih =>
    let u := t.changeConnection k fun connection => { connection with pending := rest }
    have hu : u.connection k = { connection with pending := rest } :=
      World.connection_keep (Connection.readable_of_http hhttp) ht rest
    have huk : Known u := hknown t u rfl htk
    have hleft : (u.connection k).items = bodyItems endpoint.decoder rest := by
      rw [hu]
      exact Connection.items_of_http hhttp hopen
    have hwait {what : Wait} (hsame : (w.connection k).items = bodyItems endpoint.decoder rest) :
        (Fiber.await what >>= fun _ => readLine k rest).Meets (whileStruckBy Strikes k Known)
          (LineRead Strikes k Known connection endpoint.decoder) w u := by
      refine await_meets huk (hsame.trans hleft.symm) (fun v hv hvk => ?_)
        fun v failure hv hvk hstruck =>
          ⟨hvk, rest, hv.trans hu, fun h => ?_, fun _ => .inl hstruck⟩
      · refine ih (hv.trans hu) hvk ?_
        rw [hv, hleft]
      · rw [hstrikes failure hstruck] at h
        cases h
    cases e with
    | delay seconds => exact ⟨trivial, hwait hitems⟩
    | block => exact ⟨trivial, hwait hitems⟩
    | raise failure =>
      -- a failure of the network stands for the last item
      refine ⟨trivial, huk, rest, hu, fun h => ?_, fun h => .inr ?_⟩
      · rw [hitems, bodyItems, if_pos h]
      · rw [hitems, bodyItems, h, if_neg Bool.false_ne_true]
    | item handedOver made => exact ⟨trivial, ih hu huk hitems⟩
    | line bytes =>
      refine ⟨trivial, ?_⟩
      rw [bodyItems] at hitems
      dsimp only
      split
      · rename_i hend
        rw [if_pos hend] at hitems
        exact ⟨huk, rest, hu, hitems⟩
      · rename_i hmore
        rw [if_neg hmore] at hitems
        split
        · rename_i hblank
          rw [if_pos hblank] at hitems
          exact ih hu huk hitems
        · rename_i hcontent
          rw [if_neg hcontent] at hitems
          exact ⟨huk, rest, hu, hitems⟩

theorem decodeLine_fetches {connection : Connection} {endpoint : Endpoint}
    (hhttp : connection.transport = .http endpoint) (hopen : connection.ended = false)
    {line : List UInt8} {w t : World}
    (h : LineRead Strikes k Known connection endpoint.decoder w (.ok (some line)) t) :
    (decodeLine k endpoint.decoder line >>= fun item => pure (some item)).Meets
      (whileStruckBy Strikes k Known) (Fetches Strikes k Known) w t := by
  obtain ⟨htk, rest, ht, hitems⟩ := h
  dsimp only at hitems
  have hleft : (t.connection k).items = bodyItems endpoint.decoder rest := by
    rw [ht]
    exact Connection.items_of_http hhttp hopen
  rw [meets_decodeLine]
  refine recordHandedOver_meets hknown htk fun u hu huk => ?_
  rw [byOutcome_ok]
  split
  · rename_i item hitem
    -- the line has been taken off already, and what was behind it is left
    rw [hitem] at hitems
    refine ⟨huk, ?_⟩
    show (w.connection k).items = item :: (u.connection k).items
    rw [hu, hleft]
    exact hitems
  · -- a line that is no item ends the items
    rename_i failure hfailure
    rw [hfailure] at hitems
    exact ⟨trivial, hknown u _ rfl huk, .inr hitems⟩

theorem nextFrame_fetches
    (hstrikes : ∀ failure, Strikes failure → failure.interruptsStream = false)
    {endpoint : Endpoint} {w t : World}
    (hhttp : (t.connection k).transport = .http endpoint) (ht : Known t)
    (hitems : (w.connection k).items = (t.connection k).items) :
    (nextFrame k endpoint.decoder).Meets (whileStruckBy Strikes k Known)
      (Fetches Strikes k Known) w t := by
  cases hended : (t.connection k).ended with
  | true =>
    rw [meets_nextFrame_of_ended hended]
    exact ⟨ht, hitems.trans (Connection.items_of_ended hhttp hended)⟩
  | false =>
    rw [meets_nextFrame hended]
    refine (readLine_fetches hknown hstrikes hhttp hended rfl ht
      (hitems.trans (Connection.items_of_http hhttp hended))).mono fun w₀ r u hr => ?_
    rcases r with failure | _ | line
    · obtain ⟨huk, rest, hu, hread⟩ := hr
      have hleft := World.items_endFrames hhttp hu
      refine ⟨trivial, ?_⟩
      split
      · -- a failure of the network is delivered, and nothing comes after it
        rename_i hinterrupts
        refine ⟨hknown u _ rfl huk, ?_⟩
        show (w₀.connection k).items = _ :: _
        rw [hread.1 hinterrupts, hleft]
      · rename_i hother
        rw [Bool.not_eq_true] at hother
        exact ⟨hknown u _ rfl huk, hread.2 hother⟩
    · obtain ⟨huk, rest, hu, hread⟩ := hr
      exact ⟨trivial, hknown u _ rfl huk, hread⟩
    · exact decodeLine_fetches hknown hhttp hended hr

/-- A read takes the first item that its connection has, and leaves the others. -/
theorem nextItem_fetches
    (hstrikes : ∀ failure, Strikes failure → failure.interruptsStream = false)
    {w t : World} (ht : Known t)
    (hitems : (w.connection k).items = (t.connection k).items) :
    (nextItem k).Meets (whileStruckBy Strikes k Known) (Fetches Strikes k Known) w t := by
  cases htransport : (t.connection k).transport with
  | feed =>
    rw [meets_nextItem_of_feed htransport]
    split
    · rename_i hclosed
      refine ⟨ht, ?_⟩
      dsimp only
      rw [hitems, Connection.items, htransport, hclosed]
      rfl
    · rename_i hopen
      rw [Bool.not_eq_true] at hopen
      exact readItem_fetches hknown htransport hopen rfl ht
        (hitems.trans (Connection.items_of_feed htransport hopen))
  | http endpoint =>
    rw [meets_nextItem_of_http htransport]
    refine (nextFrame_fetches hknown hstrikes htransport ht hitems).mono fun w₀ r u hr => ?_
    rcases r with failure | _ | item
    · exact hr
    · -- at the end of the frames the response is closed, which may fail
      rw [meets_bind]
      refine (closeResponse_steady streamsKept.toTolerantOfClosing k).meets_at_once Known
        (fun x y hx hxy => ⟨trivial, hknown x y hxy hx⟩) (fun result x hx => ?_) hr.1
      cases result with
      | error failure => exact ⟨hx, .inr hr.2⟩
      | ok _ => exact ⟨hx, hr.2⟩
    · exact hr

/-- What a read takes, whatever it fails with. -/
theorem nextItem_meets {w t : World} (ht : Known t)
    (hitems : (w.connection k).items = (t.connection k).items) :
    (nextItem k).Meets (whileReading k Known) (Reads k Known) w t :=
  (nextItem_fetches hknown (fun _ h => h) ht hitems).mono fun _ _ _ h => h.reads

end Reading

end Act

end ResumableWatch
