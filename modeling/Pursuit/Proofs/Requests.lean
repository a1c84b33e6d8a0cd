import Pursuit.Proofs.Loading
import Pursuit.Proofs.Telling

/-! # What a message makes of a deciding game

A deciding game's endpoint has handlers for two kinds of requests and a handler for each entity. The
former listen under the id of events and the latter under ids of entities, so no message goes to
both.

* **`Game.asRequested`** — a game after what a player asked for.
* **`Station.Decides`** — the invariant of a deciding game's station.
* **`Station.Decides.receive_eq`** — what any message makes of the station.
* **`Station.Decides.receive`, `Station.Decides.load`, `Station.Decides.step`** — what keeps the
  invariant. -/

namespace Pursuit

/-! ## Steps keep the bookkeeping -/

namespace Arena

/-- A piece keeps its bookkeeping when it moves. -/
theorem replication_moved (dt : Single) (p : Piece) : (moved dt p).replication = p.replication :=
  Piece.replication_advance p dt

/-- A piece keeps its bookkeeping when it arrives. -/
theorem replication_settled (p : Piece) : (settled p).replication = p.replication := by
  unfold settled
  split <;> rfl

/-- A piece keeps its bookkeeping when an obstacle reflects it. -/
theorem replication_reflectOn (p : Piece) (o : Obstacle) :
    (p.reflectOn o).replication = p.replication := by
  unfold Piece.reflectOn
  split <;> rfl

/-- A piece keeps its bookkeeping when it is separated from an obstacle. -/
theorem replication_separate (p : Piece) (o : Obstacle) :
    (p.separate o).replication = p.replication := by
  unfold Piece.separate
  simp only
  split
  · exact replication_reflectOn p o
  · exact replication_reflectOn p o

/-- A piece keeps its bookkeeping when it leaves obstacles. -/
theorem replication_cleared (obstacles : List Obstacle) (p : Piece) :
    (cleared obstacles p).replication = p.replication := by
  induction obstacles generalizing p with
  | nil => rfl
  | cons o obstacles ih =>
    rw [cleared, List.foldl_cons]
    refine (ih (leave p o)).trans ?_
    unfold leave
    split
    · exact replication_separate p o
    · rfl

/-- A piece keeps its bookkeeping when it is caught. -/
theorem replication_caughtIfPrey (p : Piece) : (caughtIfPrey p).replication = p.replication := by
  unfold caughtIfPrey
  split <;> rfl

/-- Catching leaves the bookkeeping alone. -/
theorem map_replication_catchAll (pieces : List Piece) :
    (catchAll pieces).map (·.replication) = pieces.map (·.replication) :=
  map_catchAll replication_caughtIfPrey pieces

/-- A step of the field leaves the bookkeeping alone. -/
theorem map_replication_advanceAll (dt : Single) (obstacles : List Obstacle)
    (pieces : List Piece) :
    (advanceAll dt obstacles pieces).map (·.replication) = pieces.map (·.replication) := by
  rw [advanceAll, map_replication_catchAll, List.map_map, List.map_map, List.map_map]
  refine List.map_congr_left fun p _ => ?_
  simp only [Function.comp_apply]
  rw [replication_cleared, replication_settled, replication_moved]

end Arena

namespace Game

/-- Starting a round leaves the bookkeeping alone. -/
theorem sameBooks_start (g : Game) : g.SameBooks g.start := by
  unfold start
  split <;> exact ⟨rfl, rfl, rfl⟩

/-- The start of a round changes nothing about who the game's player is. -/
theorem ownPlayer_start (g : Game) : g.start.ownPlayer = g.ownPlayer := by
  unfold start
  split <;> rfl

/-- So does a step of the clock. -/
theorem sameBooks_step? {g g' : Game} {dt : Duration} (h : g.step? dt = some g') :
    g.SameBooks g' ∧ g'.ownPlayer = g.ownPlayer := by
  unfold step? at h
  split at h
  · obtain ⟨elapsed, _, rfl⟩ := Option.map_eq_some_iff.1 h
    split
    · exact ⟨⟨rfl, rfl, rfl⟩, rfl⟩
    · exact ⟨⟨rfl, Arena.map_replication_advanceAll _ _ _, rfl⟩, rfl⟩
  · cases h
    exact ⟨⟨rfl, rfl, rfl⟩, rfl⟩

/-! ## Requests -/

/-- A game with a player's piece with an index changed, if the player has one. -/
def modifyOwn (g : Game) (player : PlayerId) (index : UInt8) (f : Piece → Piece) : Game :=
  match (g.placesOf player)[index.toNat]? with
  | some place => g.modifyPiece place f
  | none => g

/-- A game after what a player asked for. A message asks for something if it travels as an event and
is a well-formed request, and it is granted to actual players only: to steer sets the acceleration
of the player's piece with the index, to mark sets its mark. -/
def asRequested (g : Game) (player : PlayerId) (m : Message) : Game :=
  if player.isPlayer ∧ m.id = .event then
    match (m.contents? : Option SteerOrder), (m.contents? : Option HighlightOrder) with
    | some o, _ =>
      g.modifyOwn player o.unitIndex fun p => { p with acceleration := o.acceleration }
    | none, some o =>
      g.modifyOwn player o.unitIndex fun p =>
        { p with state := { p.state with highlighted := o.highlighted } }
    | none, none => g
  else g

/-- A change of one piece that leaves its bookkeeping alone. -/
theorem sameBooks_modifyPiece (g : Game) (place : Nat) {f : Piece → Piece}
    (hf : ∀ p, (f p).replication = p.replication) : g.SameBooks (g.modifyPiece place f) := by
  refine ⟨rfl, ?_, rfl⟩
  refine List.ext_getElem? fun i => ?_
  rw [pieceBooks, pieceBooks, List.getElem?_map, List.getElem?_map, modifyPiece,
    List.getElem?_modify]
  cases g.pieces[i]? with
  | none => rfl
  | some p =>
    by_cases hi : place = i
    · simp [hi, hf]
    · simp [hi]

/-- A change to a player's piece that keeps its bookkeeping keeps that of the game. -/
theorem sameBooks_modifyOwn (g : Game) (player : PlayerId) (index : UInt8) {f : Piece → Piece}
    (hf : ∀ p, (f p).replication = p.replication) : g.SameBooks (g.modifyOwn player index f) := by
  unfold modifyOwn
  split
  · exact sameBooks_modifyPiece g _ hf
  · exact .refl g

/-- A change to a player's piece changes nothing about who the game's player is. -/
theorem ownPlayer_modifyOwn (g : Game) (player : PlayerId) (index : UInt8) (f : Piece → Piece) :
    (g.modifyOwn player index f).ownPlayer = g.ownPlayer := by
  unfold modifyOwn
  split <;> rfl

/-- What a player asks for changes neither the bookkeeping nor who the game's player is. -/
theorem sameBooks_asRequested (g : Game) (player : PlayerId) (m : Message) :
    g.SameBooks (g.asRequested player m) ∧ (g.asRequested player m).ownPlayer = g.ownPlayer := by
  unfold asRequested
  split
  · split
    · exact ⟨sameBooks_modifyOwn _ _ _ fun _ => rfl, ownPlayer_modifyOwn _ _ _ _⟩
    · exact ⟨sameBooks_modifyOwn _ _ _ fun _ => rfl, ownPlayer_modifyOwn _ _ _ _⟩
    · exact ⟨⟨rfl, rfl, rfl⟩, rfl⟩
  · exact ⟨⟨rfl, rfl, rfl⟩, rfl⟩

/-- A deciding game plays as nobody, so all players' pieces are within reach. -/
theorem requested_eq {g : Game} (hown : g.ownPlayer = .none) (player : PlayerId) (index : UInt8)
    (f : Piece → Piece) :
    (((g.requested player index).map fun i => g.modifyPiece i f).toOption.getD g) =
      if player.isPlayer then g.modifyOwn player index f else g := by
  have hreach : g.pieceByIndex? player index = (g.placesOf player)[index.toNat]? := by
    rw [pieceByIndex?, if_neg (fun h => h.1 hown)]
  unfold requested modifyOwn
  rw [hreach]
  by_cases hplayer : player.isPlayer = true
  · rw [if_pos hplayer, if_pos hplayer]
    cases (g.placesOf player)[index.toNat]? <;> rfl
  · rw [if_neg hplayer, if_neg hplayer]
    rfl

end Game

namespace Station

/-! ## The invariant -/

/-- The handlers for requests, under two numbers. -/
def requestHandlers (a b : UInt64) : List (Handler Action) :=
  [⟨a, .moveRequest, .event, .steer⟩, ⟨b, .highlightRequest, .event, .highlight⟩]

/-- A station whose game decides: its handlers and entities agree, the entities have ids of their
own, and the game is the server's and plays as nobody. -/
structure Decides (reserved : List (Handler Action)) (g : Game) (s : Station) : Prop where
  /-- Handlers and entities agree. -/
  wired : s.Wired reserved g
  /-- The entities have ids of their own. -/
  identified : g.Identified
  /-- The game is on a server's endpoint. -/
  link : g.link = .server
  /-- The game plays as nobody. -/
  ownPlayer : g.ownPlayer = .none

namespace Decides

variable {reserved : List (Handler Action)} {g g' : Game} {s : Station} {m : Message}

/-- The invariant sees the bookkeeping and the player only. -/
theorem congr (h : s.Decides reserved g) (hg : g.SameBooks g') (hown : g'.ownPlayer = g.ownPlayer) :
    ({ s with game := some g' } : Station).Decides reserved g' where
  wired := h.wired.congr hg
  identified := hg.identified h.identified
  link := hg.link.trans h.link
  ownPlayer := hown.trans h.ownPlayer

/-! ### Dispatch -/

/-- A message under the id of an entity goes to the entities' handlers only. -/
theorem matching_of_assigned {a b : UInt64} (h : s.Decides (requestHandlers a b) g)
    (hm : m.id.isAssigned = true) :
    (s.hub.registry.matching m).map (·.action) = s.entityActions m := by
  rw [Registry.matching, entityActions]
  congr 1
  -- The handlers for requests listen under the id of events, which this message does not carry.
  refine List.filter_congr fun handler hmem => ?_
  cases hassigned : handler.id.isAssigned with
  | true => rw [Bool.true_and]
  | false =>
    rw [Bool.false_and]
    have hrequest : handler ∈ requestHandlers a b := by
      rw [← h.wired.reserved, List.mem_filter]
      exact ⟨hmem, by rw [hassigned]; rfl⟩
    have hid : handler.id = .event := by
      rcases List.mem_cons.1 hrequest with rfl | hrequest
      · rfl
      · rw [List.mem_singleton.1 hrequest]
    have hne : MessageId.event ≠ m.id := fun heq => by
      rw [← heq] at hm
      exact absurd hm (by decide)
    have hall : MessageId.event ≠ .all := by decide
    simp [Handler.accepts, hid, hne, hall]

/-- A message under a reserved id goes to handlers of requests only. -/
theorem matching_of_reserved {a b : UInt64} (h : s.Decides (requestHandlers a b) g)
    (hm : m.id.isAssigned = false) :
    s.hub.registry.matching m = (requestHandlers a b).filter (·.accepts m) := by
  rw [← h.wired.reserved, List.filter_filter, Registry.matching]
  refine List.filter_congr fun handler _ => ?_
  cases hassigned : handler.id.isAssigned with
  | false => rw [Bool.not_false, Bool.and_true]
  | true =>
    rw [Bool.not_true, Bool.and_false]
    have hne : handler.id ≠ m.id := fun heq => by
      rw [heq, hm] at hassigned
      cases hassigned
    have hall : handler.id ≠ .all := fun heq => by
      rw [heq] at hassigned
      exact absurd hassigned (by decide)
    simp [Handler.accepts, hne, hall]

/-- To obey a message is to apply the request that it holds, or to do nothing. -/
theorem obey_eq {α : Type} [Payload α] [LawfulPayload α] [Inhabited α]
    (hgame : s.game = some g) (apply : Game → PlayerId → α → Except RequestError Game)
    (m : Message) (ctx : Context) :
    obey apply m ctx s =
      { s with
        game := some (m.contents?.elim g fun a => (apply g ctx.sender a).toOption.getD g) } := by
  have hsame : s = { s with game := some g } := by rw [← hgame]
  unfold obey
  rw [hgame, Request.ofMessage?_eq]
  cases (m.contents? : Option α) with
  | none => exact hsame
  | some payload => rfl

/-- A request goes to the handler for its content type if it travels as an event, and no other
message under a reserved id goes anywhere. -/
theorem filter_requestHandlers (a b : UInt64) (m : Message) :
    (requestHandlers a b).filter (·.accepts m) =
      (requestHandlers a b).filter fun handler => handler.type = m.type ∧ m.id = .event := by
  refine List.filter_congr fun handler hmem => ?_
  have hfilter : handler.id = .event ∧ handler.type ≠ .allTypes := by
    rcases List.mem_cons.1 hmem with rfl | hmem
    · exact ⟨rfl, (by decide : ContentType.moveRequest ≠ .allTypes)⟩
    · rw [List.mem_singleton.1 hmem]
      exact ⟨rfl, (by decide : ContentType.highlightRequest ≠ .allTypes)⟩
  have hall : MessageId.event ≠ .all := by decide
  simp [Handler.accepts, hfilter.1, hfilter.2, hall, eq_comm (a := MessageId.event)]

/-- The handler for steering makes the game what the sender asks for. -/
theorem perform_steer (h : s.Decides reserved g) (hevent : m.id = .event)
    (hm : m.type = .moveRequest) (ctx : Context) :
    perform .steer m ctx s = { s with game := some (g.asRequested ctx.sender m) } := by
  have hother : (m.contents? : Option HighlightOrder) = none :=
    Message.contents?_of_type_ne (by rw [hm]; decide)
  rw [show perform .steer m ctx s = obey Game.steer m ctx s from rfl, obey_eq h.wired.game,
    Game.asRequested, hother]
  cases (m.contents? : Option SteerOrder) with
  | none => simp
  | some o =>
    rw [Option.elim_some, Game.steer, Game.requested_eq h.ownPlayer]
    simp [hevent]

/-- The handler for marks makes the game what the sender asks for. -/
theorem perform_highlight (h : s.Decides reserved g) (hevent : m.id = .event)
    (hm : m.type = .highlightRequest) (ctx : Context) :
    perform .highlight m ctx s = { s with game := some (g.asRequested ctx.sender m) } := by
  have hother : (m.contents? : Option SteerOrder) = none :=
    Message.contents?_of_type_ne (by rw [hm]; decide)
  rw [show perform .highlight m ctx s = obey Game.highlight m ctx s from rfl,
    obey_eq h.wired.game, Game.asRequested, hother]
  cases (m.contents? : Option HighlightOrder) with
  | none => simp
  | some o =>
    rw [Option.elim_some, Game.highlight, Game.requested_eq h.ownPlayer]
    simp [hevent]

/-- A message that is no request asks for nothing. -/
theorem asRequested_of_other (g : Game) (player : PlayerId)
    (hm : m.id ≠ .event ∨ m.type ≠ .moveRequest ∧ m.type ≠ .highlightRequest) :
    g.asRequested player m = g := by
  unfold Game.asRequested
  rcases hm with hid | ⟨hsteer, hhighlight⟩
  · rw [if_neg fun h => hid h.2]
  · have hs : (m.contents? : Option SteerOrder) = none := Message.contents?_of_type_ne hsteer
    have hh : (m.contents? : Option HighlightOrder) = none := Message.contents?_of_type_ne hhighlight
    rw [hs, hh]
    exact ite_self _

/-- **Under a reserved id a message does what it asks for.** -/
theorem receive_of_reserved {a b : UInt64} (h : s.Decides (requestHandlers a b) g)
    (hm : m.id.isAssigned = false) (ctx : Context) :
    (s.receive m ctx).2 = { s with game := some (g.asRequested ctx.sender m) } := by
  have hsame : s = { s with game := some g } := by rw [← h.wired.game]
  rw [receive_snd, h.matching_of_reserved hm, filter_requestHandlers]
  -- The content type decides which of the two handlers matches, if any.
  by_cases hevent : m.id = .event
  · by_cases hsteer : m.type = .moveRequest
    · have hfilter : ((requestHandlers a b).filter fun handler =>
          handler.type = m.type ∧ m.id = .event).map (·.action) = [.steer] := by
        rw [hevent, hsteer]
        rfl
      rw [hfilter]
      exact h.perform_steer hevent hsteer ctx
    · by_cases hhighlight : m.type = .highlightRequest
      · have hfilter : ((requestHandlers a b).filter fun handler =>
            handler.type = m.type ∧ m.id = .event).map (·.action) = [.highlight] := by
          rw [hevent, hhighlight]
          rfl
        rw [hfilter]
        exact h.perform_highlight hevent hhighlight ctx
      · have hfilter : ((requestHandlers a b).filter fun handler =>
            handler.type = m.type ∧ m.id = .event) = [] := by
          simp [requestHandlers, Ne.symm hsteer, Ne.symm hhighlight]
        rw [hfilter, asRequested_of_other g ctx.sender (.inr ⟨hsteer, hhighlight⟩)]
        exact hsame
  · have hfilter : ((requestHandlers a b).filter fun handler =>
        handler.type = m.type ∧ m.id = .event) = [] := by
      simp [hevent]
    rw [hfilter, asRequested_of_other g ctx.sender (.inl hevent)]
    exact hsame

/-- **What any message makes of a deciding game's station**: what it asks for, and after that what it
tells the entities under its id. At most one of the two is anything. -/
theorem receive_eq {a b : UInt64} (h : s.Decides (requestHandlers a b) g) (m : Message)
    (ctx : Context) :
    (s.receive m ctx).2 = { s with game := some ((g.asRequested ctx.sender m).told m) } := by
  -- An id belongs to an entity or it is reserved, and each case has its own handlers.
  cases hm : m.id.isAssigned with
  | true =>
    have hid : m.id ≠ .event := fun heq => by
      rw [heq] at hm
      exact absurd hm (by decide)
    rw [receive_snd, h.matching_of_assigned hm, h.wired.foldl_entityActions,
      asRequested_of_other g ctx.sender (.inl hid)]
  | false =>
    have htold : (g.asRequested ctx.sender m).told m = g.asRequested ctx.sender m :=
      Game.told_eq_self_iff.2 ⟨fun p _ hp => absurd hp.2 (by rw [hm]; decide),
        fun o _ ho => absurd ho.2 (by rw [hm]; decide)⟩
    rw [h.receive_of_reserved hm, htold]

/-! ### What keeps the invariant -/

/-- A message leaves a station that decides, on a game that has heard the request and the news. -/
theorem receive {a b : UInt64} (h : s.Decides (requestHandlers a b) g) (m : Message)
    (ctx : Context) :
    (s.receive m ctx).2.Decides (requestHandlers a b) ((g.asRequested ctx.sender m).told m) := by
  obtain ⟨hbooks, hown⟩ := g.sameBooks_asRequested ctx.sender m
  have hasked := h.congr hbooks hown
  rw [h.receive_eq]
  exact hasked.congr (hasked.wired.sameBooks_told m) rfl

/-- No message touches the bookkeeping. -/
theorem sameBooks_receive (h : s.Decides reserved g) (player : PlayerId) (m : Message) :
    g.SameBooks ((g.asRequested player m).told m) := by
  obtain ⟨hbooks, hown⟩ := g.sameBooks_asRequested player m
  exact hbooks.trans ((h.congr hbooks hown).wired.sameBooks_told m)

/-- A level that is loaded leaves a station that decides. -/
theorem load (h : s.Decides reserved g) (number : UInt32) :
    ∃ g', (s.load number).Decides reserved g' := by
  obtain ⟨g', hwired, hidentified, hlink, hown, _⟩ := h.wired.load number
  exact ⟨g', hwired, hidentified, hlink.trans h.link, hown.trans h.ownPlayer⟩

/-- A change to the game that keeps the bookkeeping leaves a station that decides. -/
theorem mapGame (h : s.Decides reserved g) {f : Game → Game}
    (hf : g.SameBooks (f g) ∧ (f g).ownPlayer = g.ownPlayer) :
    (s.mapGame f).Decides reserved (f g) := by
  rw [Station.mapGame, h.wired.game]
  exact h.congr hf.1 hf.2

/-- A new game has no entities and decides. -/
theorem of_authority (rules : Rules) :
    (Station.authority .server rules).Decides [] { rules, link := .server } where
  wired := {
    game := rfl
    holds := rfl
    kept := rfl
    attached := rfl
    pieces := fun _ hr => absurd hr List.not_mem_nil
    obstacles := fun _ hr => absurd hr List.not_mem_nil
    pieceKeys := List.nodup_nil
    obstacleKeys := List.nodup_nil
    reserved := rfl
    routes := List.Perm.nil }
  identified := Game.identified_of_no_entity rfl rfl
  link := rfl
  ownPlayer := rfl

/-- A handler for a reserved id is added to the others for such ids. -/
theorem addHandler (h : s.Decides reserved g) (type : ContentType) {id : MessageId}
    (hid : id.isAssigned = false) (action : Action) :
    (s.addHandler type id action).2.Decides
      (reserved ++ [⟨(s.addHandler type id action).1, type, id, action⟩]) g where
  wired := {
    game := h.wired.game
    holds := h.wired.holds
    kept := h.wired.kept
    attached := h.wired.attached
    pieces := h.wired.pieces
    obstacles := h.wired.obstacles
    pieceKeys := h.wired.pieceKeys
    obstacleKeys := h.wired.obstacleKeys
    reserved := by
      rw [Station.addHandler, Registry.handlers_add, List.filter_append, h.wired.reserved,
        List.filter_singleton, hid]
      rfl
    routes := by
      -- The id is reserved, so the handler is not among those of the entities.
      rw [Station.addHandler, Registry.handlers_add, List.filter_append, List.filter_singleton, hid,
        cond_false, List.append_nil]
      exact h.wired.routes }
  identified := h.identified
  link := h.link
  ownPlayer := h.ownPlayer

end Decides

end Station

end Pursuit
