import Televisor.Api.Follower
import Televisor.Controller.State

namespace Televisor.Api

open Controller

/-! What a client that follows the states is told, whatever the order in which states are published,
frames are sent and the client's own frames are read. -/

namespace Move

/-- A move that comes of what the client does. -/
def ofClient : Move → Bool
  | .arrive _ | .read | .vanish => true
  | _ => false

/-- The client ends the connection. -/
def closes : Move → Bool
  | .arrive .close | .vanish => true
  | _ => false

/-- A move that the feed makes by itself. -/
def ofFeed : Move → Bool
  | .send | .delivered | .lost | .notice | .leave => true
  | _ => false

end Move

namespace Frame

/-- The state that a frame carries, if it carries one. -/
def text? : Frame → Option String
  | .text payload => some payload
  | _ => none

/-- A frame that only answers one of the client. -/
def isReply : Frame → Bool
  | .pong _ => true
  | _ => false

theorem text?_of_isReply {frame : Frame} (reply : frame.isReply = true) : frame.text? = none := by
  cases frame with
  | pong => rfl
  | _ => cases reply

end Frame

/-- A frame of the client is answered at most; that it does not close the feed leaves it as it is. -/
theorem Feed.wake_frame (feed : Feed) {frame : ClientFrame} (stays : frame ≠ .close) :
    ∃ replies, feed.wake (.client frame) = ({ feed with pending := false }, replies) ∧
      ∀ reply ∈ replies, reply.isReply = true := by
  cases frame with
  | close => exact absurd rfl stays
  | ping payload => exact ⟨[.pong payload], rfl, by simp [Frame.isReply]⟩
  | _ => exact ⟨[], rfl, by simp⟩

theorem Feed.send_replies (feed : Feed) (version : Nat) (state : String) :
    (feed.send version state).2.filter (!·.isReply) = (feed.send version state).2 := by
  unfold Feed.send
  split <;> rfl

namespace Follower

variable {follower after : Follower} {start : Posted} {move : Move}

/-- The states the client was sent, as they were written, the newest first. -/
def texts (follower : Follower) : List String :=
  follower.frames.filterMap Frame.text?

/-- The follower as it would be if the client had sent nothing. -/
def unasked (follower : Follower) : Follower :=
  { follower with inbox := [], frames := follower.frames.filter (!·.isReply) }

/-- What a move does. -/
inductive Moved (before : Follower) : Move → Follower → Prop
  | published (state) (served : before.abandoned = false) :
      Moved before (.publish state) (before.publish state)
  | abandoned : Moved before .abandon { before with abandoned := true }
  | arrived (frame) : Moved before (.arrive frame) { before with inbox := before.inbox ++ [frame] }
  | sent (turning : before.place = .turning) : Moved before .send before.send
  | delivered (sending : before.place = .sending) :
      Moved before .delivered { before with place := .waiting }
  | lost (sending : before.place = .sending) : Moved before .lost before.hangUp
  | noticed (waiting : before.place = .waiting) (news : before.hasNews = true) :
      Moved before .notice before.notice
  | read {frame rest} (waiting : before.place = .waiting) (first : before.inbox = frame :: rest) :
      Moved before .read (before.read frame rest)
  | vanished (waiting : before.place = .waiting) (empty : before.inbox = []) :
      Moved before .vanish before.hangUp
  | left (waiting : before.place = .waiting) (gone : before.abandoned = true)
      (told : before.hasNews = false) : Moved before .leave before.leave

theorem move_eq_some : follower.move move = some after ↔ Moved follower move after := by
  constructor
  · intro moved
    cases move with
    | read =>
        cases first : follower.inbox with
        | nil => simp [Follower.move, first] at moved
        | cons frame rest =>
            simp only [Follower.move, first, Option.ite_none_right_eq_some, Option.some.injEq] at moved
            obtain ⟨waiting, rfl⟩ := moved
            exact .read waiting first
    | _ =>
        simp only [Follower.move, Option.ite_none_left_eq_some, Option.ite_none_right_eq_some,
          Option.some.injEq, Bool.and_eq_true, decide_eq_true_eq, Bool.not_eq_true',
          Bool.not_eq_true, List.isEmpty_iff] at moved
        grind [Moved]
  · rintro (_ | _) <;> simp [Follower.move, *]

/-- What is posted, what was sent of it, and what the feed keeps of both. -/
structure Kept (follower : Follower) : Prop where
  descending : follower.posted.Pairwise fun later earlier => earlier.version < later.version
  order : follower.told.Sublist follower.posted
  texts : follower.texts = follower.told.map (·.state.json)
  closed : follower.feed.closed = true ↔ follower.place = .ended
  begun : follower.told = [] → follower.place = .turning
  turning : follower.place = .turning →
    follower.feed.pending = true ∧ follower.told.Sublist follower.past
  /-- The feed has seen what was sent last, and nothing is pending. -/
  marked : follower.place = .sending ∨ follower.place = .waiting →
    follower.feed.pending = false ∧
      ∃ last rest, follower.told = last :: rest ∧ follower.feed.seen = last.version

theorem Kept.opened (start : Posted) : Kept (opened start) where
  descending := List.pairwise_singleton _ _
  order := List.nil_sublist _
  texts := rfl
  closed := by simp [Follower.opened, Feed.opened]
  begun _ := rfl
  turning _ := ⟨rfl, List.nil_sublist _⟩
  marked place := by simp [Follower.opened] at place

theorem Kept.open (kept : Kept follower) (place : follower.place ≠ .ended) :
    follower.feed.closed = false := by
  rw [← Bool.not_eq_true, kept.closed]
  exact place

theorem Kept.publish (kept : Kept follower) (state : Media.MediaState) :
    Kept (follower.publish state) := by
  unfold Follower.publish
  split
  · exact kept
  · have newest : ∀ earlier ∈ follower.posted, earlier.version < follower.current.version + 1 := by
      intro earlier member
      cases member with
      | head => exact Nat.lt_succ_self _
      | tail _ member =>
          exact Nat.lt_succ_of_lt (List.rel_of_pairwise_cons kept.descending member)
    exact {
      descending := .cons newest kept.descending
      order := kept.order.cons _
      texts := kept.texts
      closed := kept.closed
      begun := kept.begun
      turning := fun turning => ⟨(kept.turning turning).1, kept.order⟩
      marked := kept.marked }

theorem send_eq (kept : Kept follower) (turning : follower.place = .turning) :
    follower.send = { follower with
      feed := ⟨follower.current.version, false, false⟩
      place := .sending
      told := follower.current :: follower.told
      frames := .text follower.current.state.json :: follower.frames } := by
  have isOpen := kept.open (by simp [turning])
  simp [send, take, Feed.send, (kept.turning turning).1, isOpen]

theorem Kept.send (kept : Kept follower) (turning : follower.place = .turning) :
    Kept follower.send := by
  rw [send_eq kept turning]
  exact {
    descending := kept.descending
    order := (kept.turning turning).2.cons_cons _
    texts := congrArg (follower.current.state.json :: ·) kept.texts
    closed := by simp
    begun := by simp
    turning := by simp
    marked := fun _ => ⟨rfl, _, _, rfl, rfl⟩ }

/-- Whatever was posted after what was sent last has not been sent. -/
theorem Kept.unsent (kept : Kept follower) (waiting : follower.place = .waiting)
    (news : follower.hasNews = true) : follower.told.Sublist follower.past := by
  obtain ⟨-, last, rest, told, seen⟩ := kept.marked (.inr waiting)
  have newer : follower.feed.seen ≠ follower.current.version := by
    simpa [hasNews, Feed.hasNews, kept.open (by simp [waiting])] using news
  have order := kept.order
  rw [told] at order ⊢
  cases order with
  | cons _ earlier => exact earlier
  | cons_cons => exact absurd seen newer

theorem Kept.notice (kept : Kept follower) (waiting : follower.place = .waiting)
    (news : follower.hasNews = true) : Kept follower.notice where
  descending := kept.descending
  order := kept.order
  texts := kept.texts
  closed := by simp [Follower.notice, take, Feed.wake, kept.open (by simp [waiting])]
  begun _ := rfl
  turning _ := ⟨rfl, kept.unsent waiting news⟩
  marked place := by simp [Follower.notice, take] at place

theorem texts_append {frames more : List Frame} (mute : ∀ frame ∈ more, frame.text? = none) :
    (more ++ frames).filterMap Frame.text? = frames.filterMap Frame.text? := by
  rw [List.filterMap_append, List.filterMap_eq_nil_iff.mpr mute, List.nil_append]

/-- A feed that ends tells nothing more. -/
theorem Kept.ended {feed : Feed} (kept : Kept follower) (more : List Frame)
    (begun : follower.place ≠ .turning) (mute : ∀ frame ∈ more, frame.text? = none)
    (closed : feed.closed = true) (inbox : List ClientFrame) :
    Kept { follower with
      feed := feed, place := .ended, inbox := inbox, frames := more ++ follower.frames } where
  descending := kept.descending
  order := kept.order
  texts := (texts_append mute).trans kept.texts
  closed := by simp [closed]
  begun none := absurd (kept.begun none) begun
  turning turning := by simp at turning
  marked marked := by simp at marked

theorem Kept.hangUp (kept : Kept follower) (begun : follower.place ≠ .turning) :
    Kept follower.hangUp :=
  kept.ended [] begun (by simp) rfl follower.inbox

theorem Kept.leave (kept : Kept follower) (waiting : follower.place = .waiting) :
    Kept follower.leave :=
  kept.ended [.finished] (by simp [waiting]) (by simp [Frame.text?]) rfl follower.inbox

/-- After a frame of the client that does not close it, the feed waits as before. -/
theorem read_eq (kept : Kept follower) (waiting : follower.place = .waiting) {frame : ClientFrame}
    (stays : frame ≠ .close) (rest : List ClientFrame) :
    ∃ replies, follower.read frame rest =
        { follower with inbox := rest, frames := replies ++ follower.frames } ∧
      ∀ reply ∈ replies, reply.isReply = true := by
  obtain ⟨replies, woken, isReply⟩ := follower.feed.wake_frame stays
  have idle : { follower.feed with pending := false } = follower.feed := by
    rw [← (kept.marked (.inr waiting)).1]
  refine ⟨replies.reverse, ?_, fun reply member => isReply reply (List.mem_reverse.mp member)⟩
  rw [idle] at woken
  simp [read, take, woken, kept.open (by simp [waiting]), waiting]

theorem Kept.read (kept : Kept follower) (waiting : follower.place = .waiting)
    (frame : ClientFrame) (rest : List ClientFrame) : Kept (follower.read frame rest) := by
  by_cases closes : frame = .close
  · subst closes
    exact kept.ended [.finished] (by simp [waiting]) (by simp [Frame.text?]) rfl rest
  · obtain ⟨replies, same, isReply⟩ := read_eq kept waiting closes rest
    rw [same]
    exact {
      descending := kept.descending
      order := kept.order
      texts := (texts_append fun reply member =>
        Frame.text?_of_isReply (isReply reply member)).trans kept.texts
      closed := kept.closed
      begun := kept.begun
      turning := kept.turning
      marked := kept.marked }

theorem Kept.moved (kept : Kept follower) (moved : Moved follower move after) : Kept after := by
  cases moved with
  | published state => exact kept.publish state
  | abandoned | arrived => exact ⟨kept.descending, kept.order, kept.texts, kept.closed, kept.begun,
      kept.turning, kept.marked⟩
  | sent turning => exact kept.send turning
  | delivered sending =>
      exact {
        descending := kept.descending
        order := kept.order
        texts := kept.texts
        closed := by simp [kept.open (by simp [sending])]
        begun := fun none => absurd (kept.begun none) (by simp [sending])
        turning := by simp
        marked := fun _ => kept.marked (.inl sending) }
  | lost sending => exact kept.hangUp (by simp [sending])
  | noticed waiting news => exact kept.notice waiting news
  | read waiting => exact kept.read waiting _ _
  | vanished waiting => exact kept.hangUp (by simp [waiting])
  | left waiting => exact kept.leave waiting

theorem moves_cons (follower : Follower) (move : Move) (rest : List Move) :
    follower.moves (move :: rest) = (follower.move move).bind (·.moves rest) := rfl

theorem Kept.moves (kept : Kept follower) {list : List Move}
    (reached : follower.moves list = some after) : Kept after := by
  induction list generalizing follower with
  | nil =>
      cases reached
      exact kept
  | cons move rest ih =>
      rw [moves_cons, Option.bind_eq_some_iff] at reached
      obtain ⟨next, moved, reached⟩ := reached
      exact ih (kept.moved (move_eq_some.mp moved)) reached

/-- What the client does, short of ending the connection, changes nothing for the feed. -/
theorem unasked_of_client (kept : Kept follower) (moved : Moved follower move after)
    (client : move.ofClient = true) (stays : move.closes = false)
    (staying : .close ∉ follower.inbox) :
    after.unasked = follower.unasked ∧ .close ∉ after.inbox := by
  cases moved with
  | arrived frame =>
      refine ⟨rfl, ?_⟩
      cases frame with
      | close => cases stays
      | _ => simpa using staying
  | @read frame rest waiting first =>
      rw [first, List.mem_cons, not_or] at staying
      obtain ⟨replies, same, isReply⟩ := read_eq kept waiting (Ne.symm staying.1) rest
      rw [same]
      refine ⟨?_, staying.2⟩
      have none : replies.filter (!·.isReply) = [] := by
        simpa [List.filter_eq_nil_iff] using isReply
      simp [unasked, none]
  | vanished => cases stays
  | _ => cases client

theorem send_unasked (follower : Follower) : follower.send.unasked = follower.unasked.send := by
  have sent := follower.feed.send_replies follower.current.version follower.current.state.json
  simp only [send, take, unasked, List.filter_append, List.filter_reverse, sent]

theorem publish_unasked (follower : Follower) (state : Media.MediaState) :
    (follower.publish state).unasked = follower.unasked.publish state := by
  by_cases same : follower.current.state = state
  · simp [publish, unasked, same]
  · simp [publish, unasked, same, posted]

/-- Whatever else can be done can be done just so if the client had sent nothing. -/
theorem move_unasked (follower : Follower) (other : move.ofClient = false) :
    (follower.move move).map unasked = follower.unasked.move move := by
  cases move with
  | arrive | read | vanish => cases other
  | publish state =>
      simp only [Follower.move, apply_ite (Option.map unasked), Option.map_none, Option.map_some,
        publish_unasked]
      rfl
  | send =>
      simp only [Follower.move, apply_ite (Option.map unasked), Option.map_none, Option.map_some,
        send_unasked]
      rfl
  | _ =>
      simp only [Follower.move, apply_ite (Option.map unasked), Option.map_none, Option.map_some]
      rfl

theorem unasked_of_other (moved : Moved follower move after) (other : move.ofClient = false) :
    after.inbox = follower.inbox := by
  cases moved with
  | arrived | read | vanished => cases other
  | published state =>
      unfold Follower.publish
      split <;> rfl
  | _ => rfl

/-- Without the moves of a client that stays, everything else goes on as it does with them. -/
theorem moves_unasked {list : List Move} (kept : Kept follower)
    (staying : .close ∉ follower.inbox) (stays : ∀ move ∈ list, move.closes = false)
    (reached : follower.moves list = some after) :
    follower.unasked.moves (list.filter (!·.ofClient)) = some after.unasked ∧
      .close ∉ after.inbox := by
  induction list generalizing follower with
  | nil =>
      cases reached
      exact ⟨rfl, staying⟩
  | cons move rest ih =>
      rw [moves_cons, Option.bind_eq_some_iff] at reached
      obtain ⟨next, moved, reached⟩ := reached
      have staysRest : ∀ move ∈ rest, move.closes = false :=
        fun move member => stays move (List.mem_cons_of_mem _ member)
      have done := move_eq_some.mp moved
      by_cases client : move.ofClient = true
      · obtain ⟨same, stayingNext⟩ :=
          unasked_of_client kept done client (stays move List.mem_cons_self) staying
        have rest := ih (kept.moved done) stayingNext staysRest reached
        rw [same] at rest
        simpa [client] using rest
      · rw [Bool.not_eq_true] at client
        have inbox := unasked_of_other done client
        have rest := ih (kept.moved done) (inbox ▸ staying) staysRest reached
        have first := follower.move_unasked client
        rw [moved, Option.map_some] at first
        rw [List.filter_cons_of_pos (by simp [client]), moves_cons, ← first]
        exact rest

/-- What a feed that waits has still to tell. -/
theorem Kept.waiting (kept : Kept follower) (waiting : follower.place = .waiting) :
    follower.told.head? = some follower.current ∧ follower.hasNews = false ∨
      follower.told.head? ≠ some follower.current ∧ follower.hasNews = true := by
  obtain ⟨-, last, rest, told, seen⟩ := kept.marked (.inr waiting)
  have order := kept.order
  have isOpen := kept.open (by simp [waiting])
  rw [told] at order ⊢
  by_cases same : last = follower.current
  · exact .inl ⟨by rw [same]; rfl, by simp [hasNews, Feed.hasNews, seen, same]⟩
  · have member : last ∈ follower.past := by
      cases order with
      | cons _ earlier => exact earlier.subset List.mem_cons_self
      | cons_cons => exact absurd rfl same
    have older := List.rel_of_pairwise_cons kept.descending member
    exact .inr ⟨by simpa using same, by simp [hasNews, Feed.hasNews, isOpen, seen, Nat.ne_of_lt older]⟩

/-- A move tells the client something exactly if it is to send, and then the newest state. -/
theorem Moved.tells (moved : Moved follower move after) :
    after.told = (if move = .send then [follower.current] else []) ++ follower.told := by
  cases moved with
  | sent turning => rfl
  | published state =>
      unfold Follower.publish
      split <;> rfl
  | _ => rfl

/-- What is to be told is noticed next, and then the newest state is sent, whatever has been
published by then. -/
theorem news_told (waiting : follower.place = .waiting)
    (news : follower.hasNews = true) :
    (∀ move next, move.ofFeed = true → follower.move move = some next → move = .notice) ∧
    ∃ told, follower.moves [.notice, .send] = some told ∧
      told.told = follower.current :: follower.told := by
  refine ⟨fun move next own moved => ?_, follower.notice.send, ?_, rfl⟩
  · cases move_eq_some.mp moved with
    | noticed => rfl
    | sent place | delivered place | lost place => simp [waiting] at place
    | left _ _ told => simp [told] at news
    | _ => cases own
  · have noticed := move_eq_some.mpr (.noticed waiting news)
    have sent : follower.notice.move .send = some follower.notice.send := move_eq_some.mpr (.sent rfl)
    rw [moves_cons, noticed, Option.bind_some, moves_cons, sent]
    rfl

/-- A client that follows the states is told the newest one whenever it is told anything: the first as
soon as it is let through, and then those that were posted since, in their order and none of them
twice.  Its own frames make no difference.  A feed that waits has told the newest state, or else it
notices that there is one, as soon as it does anything, and sends it. -/
theorem newest_told (start : Posted) (list : List Move) (follower : Follower)
    (reached : (opened start).moves list = some follower) :
    (∀ move after, follower.move move = some after →
      after.told = (if move = .send then [follower.current] else []) ++ follower.told ∧
      after.texts = after.told.map (·.state.json)) ∧
    (follower.told = [] → follower.move .send = some follower.send) ∧
    follower.told.Sublist follower.posted ∧
    follower.told.Pairwise (fun later earlier => earlier.version < later.version) ∧
    ((∀ move ∈ list, move.closes = false) →
      (opened start).moves (list.filter (!·.ofClient)) = some follower.unasked ∧
      ∀ move after, move.ofClient = true → move.closes = false → follower.move move = some after →
        after.unasked = follower.unasked) ∧
    (∀ move, move.ofClient = false →
      (follower.move move).map unasked = follower.unasked.move move) ∧
    (follower.place = .waiting →
      follower.told.head? = some follower.current ∧ follower.move .notice = none ∨
      follower.told.head? ≠ some follower.current ∧
        (∀ move next, move.ofFeed = true → follower.move move = some next → move = .notice) ∧
        ∃ told, follower.moves [.notice, .send] = some told ∧
          told.told = follower.current :: follower.told) := by
  have kept : Kept follower := (Kept.opened start).moves reached
  refine ⟨fun move after moved => ?_, fun none => ?_, kept.order,
    kept.descending.sublist kept.order, fun stays => ?_, fun move => follower.move_unasked,
    fun waiting => ?_⟩
  · have moved := move_eq_some.mp moved
    exact ⟨moved.tells, (kept.moved moved).texts⟩
  · exact move_eq_some.mpr (.sent (kept.begun none))
  · obtain ⟨unasked, staying⟩ := moves_unasked (.opened start) (by simp [opened]) stays reached
    exact ⟨unasked, fun move after client stays moved =>
      (unasked_of_client kept (move_eq_some.mp moved) client stays staying).1⟩
  · obtain ⟨told, old⟩ | ⟨untold, news⟩ := kept.waiting waiting
    · exact .inl ⟨told, by simp [Follower.move, old]⟩
    · exact .inr ⟨untold, news_told waiting news⟩

/-- A state is published while the first one is on its way, and the client says something. -/
def hurried : List Move :=
  [.send, .publish (.initial "Den"), .arrive .text, .delivered, .read]

theorem hurried_told : ∃ follower, (opened ⟨4, .initial "TV"⟩).moves hurried = some follower ∧
    follower.told.head? ≠ some follower.current ∧
    ∃ told, follower.moves [.notice, .send] = some told ∧
      told.told = [⟨5, .initial "Den"⟩, ⟨4, .initial "TV"⟩] := by
  have reached : (opened ⟨4, .initial "TV"⟩).moves hurried = some
      { feed := ⟨4, false, false⟩, place := .waiting, current := ⟨5, .initial "Den"⟩,
        past := [⟨4, .initial "TV"⟩], abandoned := false, inbox := [], told := [⟨4, .initial "TV"⟩],
        frames := [.text (Media.MediaState.initial "TV").json] } := by
    rfl
  obtain ⟨-, -, -, -, -, -, waits⟩ := newest_told _ _ _ reached
  obtain ⟨told, -⟩ | ⟨untold, -, told⟩ := waits rfl
  · exact absurd told (by decide)
  · exact ⟨_, reached, untold, told⟩

theorem sent_delivered (kept : Kept follower) (turning : follower.place = .turning) :
    follower.moves [.send, .delivered] = some { follower with
      feed := ⟨follower.current.version, false, false⟩
      place := .waiting
      told := follower.current :: follower.told
      frames := .text follower.current.state.json :: follower.frames } := by
  have sent : follower.move .send = some follower.send := move_eq_some.mpr (.sent turning)
  rw [moves_cons, sent, send_eq kept turning]
  rfl

/-- Settling is what comes of a feed that is left alone until it waits for something new. -/
theorem Kept.settles (kept : Kept follower)
    (place : follower.place = .turning ∨ follower.place = .waiting) :
    ∃ list settled, (∀ move ∈ list, move.ofFeed = true) ∧ follower.moves list = some settled ∧
      settled.place = .waiting ∧ settled.hasNews = false ∧
      settled.feed = (follower.feed.settle follower.current.version
        follower.current.state.json).1 ∧
      settled.frames = (follower.feed.settle follower.current.version
        follower.current.state.json).2.reverse ++ follower.frames := by
  have isOpen := kept.open (by rcases place with place | place <;> simp [place])
  obtain turning | waiting := place
  · refine ⟨[.send, .delivered], _, by decide, sent_delivered kept turning, rfl, ?_, ?_, ?_⟩ <;>
      simp [Feed.settle, Feed.send, hasNews, Feed.hasNews, (kept.turning turning).1, isOpen]
  · have idle := (kept.marked (.inr waiting)).1
    cases news : follower.hasNews with
    | false =>
        have old : follower.feed.hasNews follower.current.version = false := news
        exact ⟨[], follower, by simp, rfl, waiting, news, by simp [Feed.settle, Feed.send, idle, old],
          by simp [Feed.settle, Feed.send, idle, old]⟩
    | true =>
        have noticed := move_eq_some.mpr (.noticed waiting news)
        have newer : follower.feed.seen ≠ follower.current.version := by
          simpa [hasNews, Feed.hasNews, isOpen] using news
        have told := sent_delivered (kept.notice waiting news) rfl
        have reached := follower.moves_cons .notice [.send, .delivered]
        rw [noticed, Option.bind_some, told] at reached
        refine ⟨[.notice, .send, .delivered], _, by decide, reached, rfl, ?_, ?_, ?_⟩ <;>
          simp [Feed.settle, Feed.send, idle, newer, Follower.notice, take, Feed.wake, isOpen,
            hasNews, Feed.hasNews]

end Follower

end Televisor.Api

namespace Televisor.Controller

open Api

/-- The state that the controller has published last. -/
def posted (controller : Controller) : Posted :=
  ⟨controller.version, controller.published⟩

/-- What is published comes to the clients that follow the controller. -/
theorem publish_posted (controller : Controller) (gate : Discovery.Gate) (now : Nat)
    {follower : Follower} (follows : follower.current = controller.posted) :
    (follower.publish (controller.mediaState gate now)).current =
      (controller.publish gate now).posted := by
  by_cases same : controller.published = controller.mediaState gate now <;>
    simp [publish, Follower.publish, follows, posted, same]

end Televisor.Controller
