import Mathlib.Data.List.DropRight
import Pursuit.Proofs.Mirror

/-! # The last writer wins

Which messages came in determines a follower's game, without any account of handlers: since the last
greeting, each id shows what was written under it last.

* **`Message.isPiece`, `Message.isObstacle`, `Message.isGreeting`** — the messages that count, by their
  content types and bytes.
* **`sinceGreeting`** — the messages after the last greeting.
* **`standing`** — what messages leave under each id, in order of first appearance. Under a reserved
  id it is the first message that stays.
* **`Station.follower_last_writer_wins`** — a follower's game after any messages. -/

namespace Pursuit

/-! ## The messages that count -/

namespace Message

/-- Whether a message tells of a piece: it is fourteen bytes long, of which the last three are truth
values. -/
def isPiece (m : Message) : Bool :=
  m.type = .gameUnit ∧ m.payload.length = 14 ∧ (m.payload.drop 11).all fun b => b = 0 ∨ b = 1

/-- Whether a message tells of an obstacle: it is twelve bytes long. -/
def isObstacle (m : Message) : Bool := m.type = .gameObstacle ∧ m.payload.length = 12

/-- Whether a message greets: it is two bytes long. -/
def isGreeting (m : Message) : Bool := m.type = .newPlayerId ∧ m.payload.length = 2

variable {m : Message}

/-- The messages that tell of a piece are those that hold the state of one. -/
theorem isPiece_iff : m.isPiece = true ↔ ∃ state : PieceState, m.contents? = some state := by
  simp only [isPiece, decide_eq_true_eq, List.all_eq_true, contents?_eq_some_iff, exists_and_left,
    exists_toBytes_piece_iff]
  rfl

/-- The messages that tell of an obstacle are those that hold the state of one. -/
theorem isObstacle_iff :
    m.isObstacle = true ↔ ∃ state : ObstacleState, m.contents? = some state := by
  simp only [isObstacle, decide_eq_true_eq, contents?_eq_some_iff, exists_and_left,
    exists_toBytes_obstacle_iff]
  rfl

/-- The messages that greet are those that hold a greeting. -/
theorem isGreeting_iff : m.isGreeting = true ↔ ∃ greeting : Greeting, m.contents? = some greeting := by
  simp only [isGreeting, decide_eq_true_eq, contents?_eq_some_iff, exists_and_left,
    exists_toBytes_greeting_iff]
  rfl

/-- A message of another content type tells of no piece. -/
theorem isPiece_eq_false (h : m.type ≠ .gameUnit) : m.isPiece = false := by simp [isPiece, h]

/-- A message of another content type tells of no obstacle. -/
theorem isObstacle_eq_false (h : m.type ≠ .gameObstacle) : m.isObstacle = false := by
  simp [isObstacle, h]

/-- A message of another content type does not greet. -/
theorem isGreeting_eq_false (h : m.type ≠ .newPlayerId) : m.isGreeting = false := by
  simp [isGreeting, h]

/-- Nothing is told by the messages that do not count. -/
theorem news_eq_nothing_of_not (hp : m.isPiece = false) (ho : m.isObstacle = false)
    (hg : m.isGreeting = false) : m.news = .nothing := by
  have hnone {α : Type} [Payload α] (h : ¬∃ a : α, m.contents? = some a) :
      (m.contents? : Option α) = none :=
    Option.eq_none_iff_forall_ne_some.2 fun a ha => h ⟨a, ha⟩
  refine news_eq_nothing_iff.2 ⟨hnone ?_, hnone ?_, hnone ?_⟩
  · rw [← isPiece_iff, hp]
    decide
  · rw [← isObstacle_iff, ho]
    decide
  · rw [← isGreeting_iff, hg]
    decide

end Message

/-! ## What is left standing -/

/-- The messages after the last greeting, or all of them if there was none. -/
def sinceGreeting (ms : List Message) : List Message := ms.rtakeWhile (!·.isGreeting)

/-- The payload that messages leave under an id: the last one, but under a reserved id the first. -/
def standingAt (ms : List Message) (id : MessageId) : Option (List UInt8) :=
  let under := ms.filter (·.id = id)
  (if id.isAssigned then under.getLast? else under.head?).map (·.payload)

/-- The ids of messages, in order of first appearance, with the payloads that stand. -/
def standing (ms : List Message) : List (MessageId × Option (List UInt8)) :=
  (ms.map (·.id)).eraseDups.map fun id => (id, standingAt ms id)

/-- Something is left standing under exactly the ids that a message came under. -/
theorem mem_map_standing {ms : List Message} {id : MessageId} :
    id ∈ (standing ms).map (·.1) ↔ id ∈ ms.map (·.id) := by
  rw [standing, List.map_map]
  exact (List.mem_map.trans (by simp)).trans List.mem_eraseDups

/-- A message says nothing about other ids. -/
theorem standingAt_concat_of_ne {ms : List Message} {m : Message} {id : MessageId}
    (h : m.id ≠ id) : standingAt (ms ++ [m]) id = standingAt ms id := by
  simp [standingAt, List.filter_append, h]

/-- Under an id of an entity a new message takes the place of what stood there. -/
theorem standingAt_concat_self_of_assigned {ms : List Message} {m : Message}
    (h : m.id.isAssigned = true) : standingAt (ms ++ [m]) m.id = some m.payload := by
  simp [standingAt, List.filter_append, h]

/-- Under an id that is new a message is left standing. -/
theorem standingAt_concat_self_of_notMem {ms : List Message} {m : Message}
    (h : m.id ∉ ms.map (·.id)) : standingAt (ms ++ [m]) m.id = some m.payload := by
  have hnone : ms.filter (·.id = m.id) = [] := by
    refine List.filter_eq_nil_iff.2 fun m' hm' hid => h ?_
    exact List.mem_map.2 ⟨m', hm', of_decide_eq_true hid⟩
  simp [standingAt, List.filter_append, hnone]

/-- Under a reserved id what stands there stays. -/
theorem standingAt_concat_self_of_reserved {ms : List Message} {m : Message}
    (hmem : m.id ∈ ms.map (·.id)) (h : m.id.isAssigned = false) :
    standingAt (ms ++ [m]) m.id = standingAt ms m.id := by
  obtain ⟨m', hm', hid⟩ := List.mem_map.1 hmem
  have hne : ms.filter (·.id = m.id) ≠ [] :=
    List.ne_nil_of_mem (List.mem_filter.2 ⟨hm', decide_eq_true hid⟩)
  simp only [standingAt, h, List.filter_append]
  rw [if_neg Bool.false_ne_true, if_neg Bool.false_ne_true, List.head?_append_of_ne_nil _ hne]

/-- **One more message is noted** in what is left standing. -/
theorem standing_concat (ms : List Message) (m : Message) :
    standing (ms ++ [m]) = note m.id (some m.payload) (standing ms) := by
  rw [note]
  by_cases hmem : m.id ∈ ms.map (·.id)
  · -- A known id keeps its place.
    have hids : ((ms ++ [m]).map (·.id)).eraseDups = (ms.map (·.id)).eraseDups := by
      have hgone : [m.id].removeAll (ms.map (·.id)) = [] := by
        simpa [List.removeAll] using hmem
      rw [List.map_append, List.eraseDups_append, List.map_singleton, hgone, List.eraseDups_nil,
        List.append_nil]
    rw [if_pos (mem_map_standing.2 hmem), standing, hids]
    by_cases hassigned : m.id.isAssigned = true
    · rw [if_pos hassigned, standing, List.map_map]
      refine List.map_congr_left fun id _ => ?_
      by_cases hid : id = m.id
      · rw [hid, standingAt_concat_self_of_assigned hassigned]
        simp
      · rw [standingAt_concat_of_ne (Ne.symm hid)]
        simp [hid]
    · rw [if_neg hassigned, standing]
      refine List.map_congr_left fun id _ => ?_
      by_cases hid : id = m.id
      · rw [hid, standingAt_concat_self_of_reserved hmem (Bool.eq_false_iff.2 hassigned)]
      · rw [standingAt_concat_of_ne (Ne.symm hid)]
  · -- A new one goes to the end.
    have hids : ((ms ++ [m]).map (·.id)).eraseDups = (ms.map (·.id)).eraseDups ++ [m.id] := by
      have hstays : [m.id].removeAll (ms.map (·.id)) = [m.id] := by
        simpa [List.removeAll] using hmem
      rw [List.map_append, List.eraseDups_append, List.map_singleton, hstays]
      rfl
    rw [if_neg (mem_map_standing.not.2 hmem), standing, hids, List.map_append, List.map_singleton,
      standingAt_concat_self_of_notMem hmem, standing]
    congr 1
    refine List.map_congr_left fun id hid => ?_
    rw [List.mem_eraseDups] at hid
    have hne : m.id ≠ id := fun heq => hmem (heq ▸ hid)
    rw [standingAt_concat_of_ne hne]

/-! ## Views after many messages -/

/-- Records are noted the same way in whatever form they are kept. -/
theorem map_note {α β : Type} (f : α → β) (id : MessageId) (a : α) (xs : List (MessageId × α)) :
    (note id a xs).map (fun x => (x.1, f x.2)) = note id (f a) (xs.map fun x => (x.1, f x.2)) := by
  have hids : (xs.map fun x => (x.1, f x.2)).map (·.1) = xs.map (·.1) := by
    rw [List.map_map]
    rfl
  unfold note
  rw [hids]
  by_cases hmem : id ∈ xs.map (·.1)
  · rw [if_pos hmem, if_pos hmem]
    by_cases hassigned : id.isAssigned = true
    · rw [if_pos hassigned, if_pos hassigned, List.map_map, List.map_map]
      refine List.map_congr_left fun x _ => ?_
      simp only [Function.comp_apply]
      split <;> rfl
    · rw [if_neg hassigned, if_neg hassigned]
  · rw [if_neg hmem, if_neg hmem, List.map_append, List.map_singleton]

/-- Records by their ids, as the payloads that they travel as. -/
def payloads {α : Type} [Payload α] (xs : List (MessageId × α)) :
    List (MessageId × Option (List UInt8)) :=
  xs.map fun x => (x.1, some (Payload.toBytes x.2))

/-- Right after a greeting nothing has come in. -/
theorem sinceGreeting_concat_greeting (ms : List Message) {m : Message}
    (h : m.isGreeting = true) : sinceGreeting (ms ++ [m]) = [] :=
  List.rtakeWhile_concat_neg _ _ _ (by simp [h])

/-- A message that does not greet comes in after what there is since the last greeting. -/
theorem sinceGreeting_concat (ms : List Message) {m : Message} (h : m.isGreeting = false) :
    sinceGreeting (ms ++ [m]) = sinceGreeting ms ++ [m] :=
  List.rtakeWhile_concat_pos _ _ _ (by simp [h])

/-- What a follower's view shows once messages have come in. -/
structure View.Shows (v : View) (ms : List Message) : Prop where
  /-- The pieces are what is left standing of them since the last greeting. -/
  pieces : payloads v.pieces = standing ((sinceGreeting ms).filter (·.isPiece))
  /-- The obstacles likewise. -/
  obstacles : payloads v.obstacles = standing ((sinceGreeting ms).filter (·.isObstacle))
  /-- The player is that of the last greeting, or nobody. -/
  ownPlayer : Payload.toBytes (⟨v.ownPlayer⟩ : Greeting) =
    (((ms.filter (·.isGreeting)).getLast?).map (·.payload)).getD
      (Payload.toBytes (⟨.none⟩ : Greeting))

/-- A view that has heard of nothing shows no message. -/
theorem View.shows_nil : ({} : View).Shows [] := ⟨rfl, rfl, rfl⟩

/-- A message that is no greeting leaves the player as it is. -/
theorem View.Shows.ownPlayer_concat {v : View} {ms : List Message} (h : v.Shows ms) {m : Message}
    (hm : m.isGreeting = false) :
    Payload.toBytes (⟨v.ownPlayer⟩ : Greeting) =
      ((((ms ++ [m]).filter (·.isGreeting)).getLast?).map (·.payload)).getD
        (Payload.toBytes (⟨.none⟩ : Greeting)) := by
  rw [h.ownPlayer, List.filter_append, List.filter_singleton, hm, cond_false, List.append_nil]

/-- A message that is neither a greeting nor about a piece leaves the pieces as they are. -/
theorem View.Shows.pieces_concat {v : View} {ms : List Message} (h : v.Shows ms) {m : Message}
    (hgreeting : m.isGreeting = false) (hm : m.isPiece = false) :
    payloads v.pieces = standing ((sinceGreeting (ms ++ [m])).filter (·.isPiece)) := by
  rw [sinceGreeting_concat ms hgreeting, List.filter_append, List.filter_singleton, hm, cond_false,
    List.append_nil]
  exact h.pieces

/-- So it is with the obstacles. -/
theorem View.Shows.obstacles_concat {v : View} {ms : List Message} (h : v.Shows ms) {m : Message}
    (hgreeting : m.isGreeting = false) (hm : m.isObstacle = false) :
    payloads v.obstacles = standing ((sinceGreeting (ms ++ [m])).filter (·.isObstacle)) := by
  rw [sinceGreeting_concat ms hgreeting, List.filter_append, List.filter_singleton, hm, cond_false,
    List.append_nil]
  exact h.obstacles

/-- **What a view shows is kept up by every message.** -/
theorem View.Shows.receive {v : View} {ms : List Message} (h : v.Shows ms) (m : Message) :
    (v.receive m).Shows (ms ++ [m]) := by
  cases hnews : m.news with
  | piece state =>
    have hm := Message.news_eq_piece_iff.1 hnews
    have hpiece : m.isPiece = true := Message.isPiece_iff.2 ⟨state, hm⟩
    have hobstacle : m.isObstacle = false :=
      Message.isObstacle_eq_false (by rw [Message.type_of_contents hm]; decide)
    have hgreeting : m.isGreeting = false :=
      Message.isGreeting_eq_false (by rw [Message.type_of_contents hm]; decide)
    rw [View.receive, hnews]
    refine ⟨?_, h.obstacles_concat hgreeting hobstacle, h.ownPlayer_concat hgreeting⟩
    rw [sinceGreeting_concat ms hgreeting, List.filter_append, List.filter_singleton, hpiece,
      cond_true, standing_concat, ← h.pieces, (Message.contents?_eq_some_iff.1 hm).2]
    exact map_note (fun state => some (Payload.toBytes state)) m.id state v.pieces
  | obstacle state =>
    have hm := Message.news_eq_obstacle_iff.1 hnews
    have hpiece : m.isPiece = false :=
      Message.isPiece_eq_false (by rw [Message.type_of_contents hm]; decide)
    have hobstacle : m.isObstacle = true := Message.isObstacle_iff.2 ⟨state, hm⟩
    have hgreeting : m.isGreeting = false :=
      Message.isGreeting_eq_false (by rw [Message.type_of_contents hm]; decide)
    rw [View.receive, hnews]
    refine ⟨h.pieces_concat hgreeting hpiece, ?_, h.ownPlayer_concat hgreeting⟩
    rw [sinceGreeting_concat ms hgreeting, List.filter_append, List.filter_singleton, hobstacle,
      cond_true, standing_concat, ← h.obstacles, (Message.contents?_eq_some_iff.1 hm).2]
    exact map_note (fun state => some (Payload.toBytes state)) m.id state v.obstacles
  | greeting greeting =>
    have hm := Message.news_eq_greeting_iff.1 hnews
    have hgreeting : m.isGreeting = true := Message.isGreeting_iff.2 ⟨greeting, hm⟩
    rw [View.receive, hnews]
    -- Nothing is left of what came before.
    refine ⟨?_, ?_, ?_⟩
    · rw [sinceGreeting_concat_greeting ms hgreeting]
      rfl
    · rw [sinceGreeting_concat_greeting ms hgreeting]
      rfl
    · rw [List.filter_append, List.filter_singleton, hgreeting, cond_true, List.getLast?_concat,
        Option.map_some, Option.getD_some, (Message.contents?_eq_some_iff.1 hm).2]
  | nothing =>
    obtain ⟨hp, ho, hg⟩ := Message.news_eq_nothing_iff.1 hnews
    have hpiece : m.isPiece = false := by
      rw [Bool.eq_false_iff, ne_eq, Message.isPiece_iff, hp]
      simp
    have hobstacle : m.isObstacle = false := by
      rw [Bool.eq_false_iff, ne_eq, Message.isObstacle_iff, ho]
      simp
    have hgreeting : m.isGreeting = false := by
      rw [Bool.eq_false_iff, ne_eq, Message.isGreeting_iff, hg]
      simp
    rw [View.receive, hnews]
    exact ⟨h.pieces_concat hgreeting hpiece, h.obstacles_concat hgreeting hobstacle,
      h.ownPlayer_concat hgreeting⟩

/-- A view shows all that has come in, once it has come in message by message. -/
theorem View.shows_foldl_receive (ms : List Message) : (ms.foldl View.receive {}).Shows ms := by
  induction ms using List.reverseRecOn with
  | nil => exact View.shows_nil
  | append_singleton ms m ih =>
    rw [List.foldl_append, List.foldl_cons, List.foldl_nil]
    exact ih.receive m

/-! ## A follower -/

/-- **A follower's game holds what was written last since the last greeting.** Whatever messages come
in, from wherever: the pieces are those of the well-formed messages about pieces after the last
greeting, one for each id in order of first appearance, with the last such message's payload as their
data, or the first one's under a reserved id. The same holds of the obstacles. The player is that of
the last greeting, or nobody. No level is ever loaded, and any other message changes nothing at
all. -/
theorem Station.follower_last_writer_wins {link : Link} (hlink : link.isAttached = true)
    (rules : Rules) (messages : List (Message × Context)) :
    ∃ g : Game,
      let s := messages.foldl (fun s x => (s.receive x.1 x.2).2) (Station.follower link rules)
      let ms := messages.map (·.1)
      s.game = some g ∧
        g.pieces.map (fun p => (Entity.id p, some (Payload.toBytes p.state))) =
          standing ((sinceGreeting ms).filter (·.isPiece)) ∧
        g.obstacles.map (fun o => (Entity.id o, some (Payload.toBytes o.state))) =
          standing ((sinceGreeting ms).filter (·.isObstacle)) ∧
        Payload.toBytes (⟨g.ownPlayer⟩ : Greeting) =
          (((ms.filter (·.isGreeting)).getLast?).map (·.payload)).getD
            (Payload.toBytes (⟨.none⟩ : Greeting)) ∧
        g.phase = .empty ∧
        ∀ (m : Message) (ctx : Context), m.isPiece = false → m.isObstacle = false →
          m.isGreeting = false → (s.receive m ctx).2 = s := by
  obtain ⟨g, hg, hview⟩ := (Station.Mirrors.of_follower hlink rules).exists_foldl_receive messages
  -- The game is a mirror of what was said, and the mirror shows the last of it.
  have hshows : g.view.Shows (messages.map (·.1)) := by
    rw [hview]
    exact View.shows_foldl_receive _
  refine ⟨g, hg.wired.game, ?_, ?_, hshows.ownPlayer, hg.phase, ?_⟩
  · rw [← hshows.pieces, payloads, Game.view, List.map_map]
    rfl
  · rw [← hshows.obstacles, payloads, Game.view, List.map_map]
    rfl
  · intro m ctx hp ho hgr
    exact hg.receive_of_nothing (Message.news_eq_nothing_of_not hp ho hgr) ctx

/-- A piece told of before the greeting is gone; of two states under one id the later stands, and of
two under the id of events the earlier. -/
theorem Station.follower_last_writer_wins_greeted :
    let piece (id : MessageId) (b : UInt8) : Message × Context :=
      (⟨⟨id, .gameUnit, 14⟩, List.replicate 14 b⟩, .fromServer)
    let greeting : Message × Context := (⟨⟨.event, .newPlayerId, 2⟩, [4, 0]⟩, .fromServer)
    let messages := [piece ⟨7⟩ 0, greeting, piece ⟨3⟩ 0, piece .event 1, piece ⟨3⟩ 1, piece .event 0]
    Link.client.isAttached = true ∧ ∃ g : Game,
      (messages.foldl (fun s x => (s.receive x.1 x.2).2) (Station.follower .client {})).game =
          some g ∧
        g.pieces.map (fun p => (Entity.id p, some (Payload.toBytes p.state))) =
          [(⟨3⟩, some (List.replicate 14 1)), (.event, some (List.replicate 14 1))] ∧
        g.obstacles = [] ∧ Payload.toBytes (⟨g.ownPlayer⟩ : Greeting) = [4, 0] := by
  intro piece greeting messages
  have hlink : Link.client.isAttached = true := rfl
  obtain ⟨g, hgame, hpieces, hobstacles, hown, _, _⟩ :=
    follower_last_writer_wins hlink {} messages
  exact ⟨hlink, g, hgame, hpieces.trans (by decide +kernel), List.map_eq_nil_iff.1 hobstacles, hown⟩

end Pursuit
