import Pursuit.Proofs.Ownership

/-! # Players' wishes do not interfere

A player asks for something for the unit with an index among its own. Whose unit is whose is changed by
no wish, so which unit a wish is for, and whether it is granted, is settled before anybody asks. Each
unit hears its owner only. So however the wishes of several players are interleaved, everybody gets the
same answers and the game comes out the same.

* **`Wish`** — what a player may ask for. **`Game.ask`, `Game.askAll`** — the answers to wishes and the
  game afterwards.
* **`Game.getElem?_placesOf`** — which pieces are a player's, in order.
* **`Game.ask_spec`** — what a single wish does.
* **`Game.fst_askAll`, `Game.getElem?_askAll`** — the answers and the pieces after many wishes, wish by
  wish and piece by piece.
* **`Game.askAll_noninterference`** — what follows for the players. -/

namespace Pursuit

/-- What a player may ask for. -/
inductive Wish where
  /-- To steer a unit. -/
  | steer (o : SteerOrder)
  /-- To mark a unit, or to take the mark away. -/
  | highlight (o : HighlightOrder)
deriving DecidableEq

namespace Wish

/-- The place of the unit among the sender's. -/
def index : Wish → UInt8
  | steer o => o.unitIndex
  | highlight o => o.unitIndex

/-- The unit once the wish is granted. -/
def granted : Wish → Piece → Piece
  | steer o, p => { p with acceleration := o.acceleration }
  | highlight o, p => { p with state := { p.state with highlighted := o.highlighted } }

/-- The request to a game, from its sender. -/
def request (g : Game) (sender : PlayerId) : Wish → Except RequestError Game
  | steer o => g.steer sender o
  | highlight o => g.highlight sender o

/-- A unit keeps its owner when a wish is granted. -/
theorem owner_granted (w : Wish) (p : Piece) : (w.granted p).state.owner = p.state.owner := by
  cases w <;> rfl

/-- A wish is granted to the unit that is asked for, if it is the sender's. -/
theorem request_eq (g : Game) (sender : PlayerId) (w : Wish) :
    w.request g sender = (g.requested sender w.index).map fun i => g.modifyPiece i w.granted := by
  cases w <;> rfl

end Wish

namespace Game

/-! ## Asking -/

/-- The answer to a wish, and the game afterwards. -/
def ask (g : Game) (x : PlayerId × Wish) : Except RequestError Unit × Game :=
  match x.2.request g x.1 with
  | .ok g' => (.ok (), g')
  | .error e => (.error e, g)

/-- The answers to wishes in the order in which they come, each with its sender, and the game
afterwards. -/
def askAll (g : Game) : List (PlayerId × Wish) → List (PlayerId × Except RequestError Unit) × Game
  | [] => ([], g)
  | x :: xs =>
    let (answer, g) := g.ask x
    let (answers, g) := g.askAll xs
    ((x.1, answer) :: answers, g)

/-! ## Whose unit is whose -/

variable {g g' : Game} {player : PlayerId}

/-- Counting the places of a player's units counts the units. -/
theorem countP_range_owner (g : Game) (player : PlayerId) {i : Nat} (hi : i ≤ g.pieces.length) :
    (List.range i).countP (fun j => (g.pieces[j]?.map (·.state.owner)) = some player) =
      (g.pieces.take i).countP (·.state.owner = player) := by
  induction i with
  | zero => rfl
  | succ i ih =>
    have hlt : i < g.pieces.length := hi
    rw [List.range_succ, List.countP_append, ih (Nat.le_of_lt hlt), List.take_add_one,
      List.countP_append, List.getElem?_eq_getElem hlt]
    simp [List.countP_singleton, List.getElem?_eq_getElem hlt]

/-- A player's units are found in the order of the pieces. -/
theorem getElem?_placesOf {k i : Nat} :
    (g.placesOf player)[k]? = some i ↔
      ∃ p, g.pieces[i]? = some p ∧ p.state.owner = player ∧
        (g.pieces.take i).countP (·.state.owner = player) = k := by
  rw [placesOf, List.getElem?_filter_range]
  constructor
  · rintro ⟨hi, howner, hk⟩
    rw [countP_range_owner g player (Nat.le_of_lt hi)] at hk
    rw [List.getElem?_eq_getElem hi] at howner
    simp only [Option.map_some, Option.some_inj, decide_eq_true_eq] at howner
    exact ⟨_, List.getElem?_eq_getElem hi, howner, hk⟩
  · rintro ⟨p, hp, howner, hk⟩
    obtain ⟨hi, _⟩ := List.getElem?_eq_some_iff.1 hp
    refine ⟨hi, ?_, ?_⟩
    · simp [hp, howner]
    · rw [countP_range_owner g player (Nat.le_of_lt hi), hk]

/-- A player has as many places as units. -/
theorem length_placesOf (g : Game) (player : PlayerId) :
    (g.placesOf player).length = g.pieces.countP (·.state.owner = player) := by
  rw [placesOf, ← List.countP_eq_length_filter, countP_range_owner g player (Nat.le_refl _),
    List.take_length]

/-- Two games that play as the same player, with the same owners in the same order. -/
structure SameOwners (g g' : Game) : Prop where
  /-- The owners. -/
  owners : g'.owners = g.owners
  /-- Who the game is played as. -/
  ownPlayer : g'.ownPlayer = g.ownPlayer

/-- A game has its own owners. -/
theorem SameOwners.refl (g : Game) : g.SameOwners g := ⟨rfl, rfl⟩

/-- Owners that stay the same twice stay the same. -/
theorem SameOwners.trans {g'' : Game} (h : g.SameOwners g') (h' : g'.SameOwners g'') :
    g.SameOwners g'' :=
  ⟨h'.owners.trans h.owners, h'.ownPlayer.trans h.ownPlayer⟩

/-- Which unit a request is for hangs on the owners only. -/
theorem SameOwners.requested_eq (h : g.SameOwners g') (player : PlayerId) (index : UInt8) :
    g'.requested player index = g.requested player index := by
  unfold requested pieceByIndex?
  rw [h.ownPlayer, placesOf_congr h.owners]

/-- The unit that a request is granted for is the sender's own. -/
theorem owner_of_requested {index : UInt8} {i : Nat} (h : g.requested player index = .ok i) :
    ∃ p, g.pieces[i]? = some p ∧ p.state.owner = player := by
  unfold requested pieceByIndex? at h
  split at h
  · split at h
    · rename_i i' hplace
      cases h
      split at hplace
      · cases hplace
      · obtain ⟨p, hp, howner, _⟩ := getElem?_placesOf.1 hplace
        exact ⟨p, hp, howner⟩
    · cases h
  · cases h

/-- To change the piece at a place is to put the changed one there. -/
theorem modifyPiece_eq_set {i : Nat} {p : Piece} (hp : g.pieces[i]? = some p)
    (f : Piece → Piece) : g.modifyPiece i f = { g with pieces := g.pieces.set i (f p) } := by
  rw [modifyPiece, List.modify_eq_set_getElem?, hp]
  rfl

/-! ## A single wish -/

/-- Whether a wish is granted, and to which unit, is told by the request that it makes. -/
theorem ask_eq (g : Game) (x : PlayerId × Wish) :
    g.ask x = match g.requested x.1 x.2.index with
      | .ok i => (.ok (), g.modifyPiece i x.2.granted)
      | .error e => (.error e, g) := by
  rw [ask, Wish.request_eq]
  cases g.requested x.1 x.2.index <;> rfl

/-- **What a single wish does.** A sender that is no player is refused first, then an index that the
sender has no unit with, and then nothing changes. Any other wish is granted: the unit with the index
among the sender's own becomes as it was asked for, and nothing else changes. -/
theorem ask_spec (hown : g.ownPlayer = .none) (player : PlayerId) (w : Wish) :
    (¬ PlayerId.firstClient.code ≤ player.code →
      g.ask (player, w) = (.error (.notAPlayer player), g)) ∧
    (PlayerId.firstClient.code ≤ player.code →
      g.pieces.countP (·.state.owner = player) ≤ w.index.toNat →
      g.ask (player, w) = (.error (.unknownUnit player w.index), g)) ∧
    (PlayerId.firstClient.code ≤ player.code →
      w.index.toNat < g.pieces.countP (·.state.owner = player) →
      ∃ i p, g.pieces[i]? = some p ∧ p.state.owner = player ∧
        (g.pieces.take i).countP (·.state.owner = player) = w.index.toNat ∧
        g.ask (player, w) = (.ok (), { g with pieces := g.pieces.set i (w.granted p) })) := by
  -- Nobody owns the game, so that an index counts among the pieces of the sender.
  have hreach : g.pieceByIndex? player w.index = (g.placesOf player)[w.index.toNat]? :=
    pieceByIndex?_of_reach (.inl hown) w.index
  have isPlayer_of (h : PlayerId.firstClient.code ≤ player.code) : player.isPlayer = true :=
    decide_eq_true h
  refine ⟨fun hplayer => ?_, fun hplayer hindex => ?_, fun hplayer hindex => ?_⟩
  · have hrequested : g.requested player w.index = .error (.notAPlayer player) := by
      rw [requested, if_neg]
      simpa [PlayerId.isPlayer] using hplayer
    rw [ask_eq, hrequested]
  · have hrequested : g.requested player w.index = .error (.unknownUnit player w.index) := by
      rw [← length_placesOf] at hindex
      rw [requested, if_pos (isPlayer_of hplayer), hreach, List.getElem?_eq_none hindex]
    rw [ask_eq, hrequested]
  · rw [← length_placesOf] at hindex
    obtain ⟨p, hp, howner, hk⟩ := getElem?_placesOf.1 (List.getElem?_eq_getElem hindex)
    refine ⟨_, p, hp, howner, hk, ?_⟩
    have hrequested : g.requested player w.index = .ok (g.placesOf player)[w.index.toNat] := by
      rw [requested, if_pos (isPlayer_of hplayer), hreach, List.getElem?_eq_getElem hindex]
    rw [ask_eq, hrequested]
    exact congrArg _ (modifyPiece_eq_set hp w.granted)

/-- No wish changes whose unit is whose. -/
theorem sameOwners_ask (g : Game) (x : PlayerId × Wish) : g.SameOwners (g.ask x).2 := by
  rw [ask_eq]
  cases g.requested x.1 x.2.index with
  | error => exact .refl g
  | ok i => exact ⟨owners_modifyPiece g i x.2.owner_granted, rfl⟩

/-! ## Many wishes -/

/-- The answer that a wish gets. -/
def answerTo (g : Game) (x : PlayerId × Wish) : Except RequestError Unit :=
  (g.requested x.1 x.2.index).map fun _ => ()

/-- The unit at a place after a wish, which may be for another unit or for none. -/
def heeded (g : Game) (i : Nat) (p : Piece) (x : PlayerId × Wish) : Piece :=
  if (g.requested x.1 x.2.index).toOption = some i then x.2.granted p else p

/-- The answer to a wish is told by the game before it. -/
theorem fst_ask (g : Game) (x : PlayerId × Wish) : (g.ask x).1 = g.answerTo x := by
  rw [ask_eq, answerTo]
  cases g.requested x.1 x.2.index <;> rfl

/-- After a wish each unit is as it heeds that wish. -/
theorem getElem?_ask (g : Game) (x : PlayerId × Wish) (i : Nat) :
    (g.ask x).2.pieces[i]? = g.pieces[i]?.map (g.heeded i · x) := by
  unfold heeded
  rw [ask_eq]
  cases g.requested x.1 x.2.index with
  | error => simp [Except.toOption]
  | ok j =>
    simp only [modifyPiece, List.getElem?_modify, Except.toOption, Option.some_inj]
    rfl

/-- Answers are a matter of owners only. -/
theorem SameOwners.answerTo_eq (h : g.SameOwners g') : g'.answerTo = g.answerTo := by
  funext x
  rw [answerTo, answerTo, h.requested_eq]

/-- Which wishes a unit heeds is a matter of owners only. -/
theorem SameOwners.heeded_eq (h : g.SameOwners g') : g'.heeded = g.heeded := by
  funext i p x
  rw [heeded, heeded, h.requested_eq]

/-- No number of wishes changes whose unit is whose. -/
theorem sameOwners_askAll (g : Game) (xs : List (PlayerId × Wish)) :
    g.SameOwners (g.askAll xs).2 := by
  induction xs generalizing g with
  | nil => exact .refl g
  | cons x xs ih => exact (sameOwners_ask g x).trans (ih _)

/-- **Every wish gets the answer that it would get first of all.** -/
theorem fst_askAll (g : Game) (xs : List (PlayerId × Wish)) :
    (g.askAll xs).1 = xs.map fun x => (x.1, g.answerTo x) := by
  induction xs generalizing g with
  | nil => rfl
  | cons x xs ih =>
    -- The first wish changes no owner, so the others are answered as if it had not been made.
    show (x.1, (g.ask x).1) :: ((g.ask x).2.askAll xs).1 = _
    rw [ih, fst_ask, (sameOwners_ask g x).answerTo_eq, List.map_cons]

/-- **Every unit hears the wishes for it**, in the order in which they come. -/
theorem getElem?_askAll (g : Game) (xs : List (PlayerId × Wish)) (i : Nat) :
    (g.askAll xs).2.pieces[i]? = g.pieces[i]?.map fun p => xs.foldl (g.heeded i) p := by
  induction xs generalizing g with
  | nil => exact Option.map_id'.symm
  | cons x xs ih =>
    show ((g.ask x).2.askAll xs).2.pieces[i]? = _
    rw [ih, getElem?_ask, Option.map_map, (sameOwners_ask g x).heeded_eq]
    rfl

/-- Wishes change pieces, and nothing else of a game. -/
theorem askAll_eq (g : Game) (xs : List (PlayerId × Wish)) :
    (g.askAll xs).2 = { g with pieces := (g.askAll xs).2.pieces } := by
  induction xs generalizing g with
  | nil => rfl
  | cons x xs ih =>
    show ((g.ask x).2.askAll xs).2 = { g with pieces := ((g.ask x).2.askAll xs).2.pieces }
    have hask : ∃ pieces, (g.ask x).2 = { g with pieces } := by
      rw [ask_eq]
      cases g.requested x.1 x.2.index with
      | error => exact ⟨g.pieces, rfl⟩
      | ok i => exact ⟨_, rfl⟩
    obtain ⟨pieces, hask⟩ := hask
    rw [hask]
    exact ih { g with pieces }

/-! ## What a player's own wishes make -/

/-- The wishes of one player, in their order. -/
def wishesOf (player : PlayerId) (xs : List (PlayerId × Wish)) : List (PlayerId × Wish) :=
  xs.filter (·.1 = player)

/-- A unit does not hear others than its owner. -/
theorem heeded_of_ne {i : Nat} {p : Piece} {x : PlayerId × Wish} (hp : g.pieces[i]? = some p)
    (hne : p.state.owner ≠ x.1) (q : Piece) : g.heeded i q x = q := by
  rw [heeded, if_neg]
  intro h
  cases hrequested : g.requested x.1 x.2.index with
  | error => simp [hrequested, Except.toOption] at h
  | ok j =>
    simp only [hrequested, Except.toOption, Option.some_inj] at h
    obtain ⟨p', hp', howner⟩ := owner_of_requested hrequested
    rw [h, hp, Option.some_inj] at hp'
    exact hne (hp' ▸ howner)

/-- So what a unit hears is what its owner wishes. -/
theorem foldl_heeded_wishesOf {i : Nat} {p : Piece} (hp : g.pieces[i]? = some p)
    (xs : List (PlayerId × Wish)) (q : Piece) :
    (wishesOf p.state.owner xs).foldl (g.heeded i) q = xs.foldl (g.heeded i) q := by
  induction xs generalizing q with
  | nil => rfl
  | cons x xs ih =>
    rw [List.foldl_cons, wishesOf, List.filter_cons]
    -- A wish of somebody else is left out on the one side and not heard on the other.
    by_cases howner : x.1 = p.state.owner
    · rw [if_pos (decide_eq_true howner), List.foldl_cons]
      exact ih _
    · rw [if_neg (by simpa using howner), heeded_of_ne hp (Ne.symm howner)]
      exact ih q

/-- A unit is the same after its owner's wishes as after everybody's. -/
theorem getElem?_askAll_wishesOf {i : Nat} {p : Piece} (hp : g.pieces[i]? = some p)
    (xs : List (PlayerId × Wish)) :
    (g.askAll (wishesOf p.state.owner xs)).2.pieces[i]? = (g.askAll xs).2.pieces[i]? := by
  rw [getElem?_askAll, getElem?_askAll, hp, Option.map_some, Option.map_some,
    foldl_heeded_wishesOf hp]

/-- A player gets the answers that its own wishes would get alone. -/
theorem fst_askAll_wishesOf (g : Game) (xs : List (PlayerId × Wish)) (player : PlayerId) :
    (g.askAll (wishesOf player xs)).1 = (g.askAll xs).1.filter (·.1 = player) := by
  rw [fst_askAll, fst_askAll, List.filter_map]
  rfl

/-- **Players' wishes do not interfere** in a game that decides. After any wishes of anybody, a further
wish is granted exactly if its sender is a player with more units than the index. It then changes the
unit with that index among the sender's own, and nothing else; otherwise it is refused for the first
reason that applies, and changes nothing. What a player is answered, and what becomes of its units,
hangs on its own wishes only. So all ways to interleave the players' wishes give the same answers to
everybody and the same game. -/
theorem askAll_noninterference {g : Game} (hown : g.ownPlayer = .none)
    (xs : List (PlayerId × Wish)) :
    (let g₁ := (g.askAll xs).2
      ∀ (player : PlayerId) (w : Wish),
        (¬ PlayerId.firstClient.code ≤ player.code →
          g₁.ask (player, w) = (.error (.notAPlayer player), g₁)) ∧
        (PlayerId.firstClient.code ≤ player.code →
          g₁.pieces.countP (·.state.owner = player) ≤ w.index.toNat →
          g₁.ask (player, w) = (.error (.unknownUnit player w.index), g₁)) ∧
        (PlayerId.firstClient.code ≤ player.code →
          w.index.toNat < g₁.pieces.countP (·.state.owner = player) →
          ∃ i p, g₁.pieces[i]? = some p ∧ p.state.owner = player ∧
            (g₁.pieces.take i).countP (·.state.owner = player) = w.index.toNat ∧
            g₁.ask (player, w) = (.ok (), { g₁ with pieces := g₁.pieces.set i (w.granted p) }))) ∧
    (g.askAll xs).2.pieces.map (·.state.owner) = g.pieces.map (·.state.owner) ∧
    (∀ player, (g.askAll xs).1.filter (·.1 = player) = (g.askAll (wishesOf player xs)).1) ∧
    (∀ (i : Nat) p, g.pieces[i]? = some p →
      (g.askAll xs).2.pieces[i]? = (g.askAll (wishesOf p.state.owner xs)).2.pieces[i]?) ∧
    ∀ ys, (∀ player, wishesOf player ys = wishesOf player xs) →
      (g.askAll ys).2 = (g.askAll xs).2 ∧
        ∀ player, (g.askAll ys).1.filter (·.1 = player) = (g.askAll xs).1.filter (·.1 = player) := by
  have howners := sameOwners_askAll g xs
  refine ⟨ask_spec (howners.ownPlayer.trans hown), howners.owners,
    fun player => (fst_askAll_wishesOf g xs player).symm,
    fun i p hp => (getElem?_askAll_wishesOf hp xs).symm, fun ys hstreams => ⟨?_, fun player => ?_⟩⟩
  · -- Every unit hears its owner's wishes, and these come in the same order.
    have hpieces : (g.askAll ys).2.pieces = (g.askAll xs).2.pieces := by
      refine List.ext_getElem? fun i => ?_
      cases hp : g.pieces[i]? with
      | none => rw [getElem?_askAll, getElem?_askAll, hp, Option.map_none, Option.map_none]
      | some p =>
        rw [← getElem?_askAll_wishesOf hp ys, hstreams, getElem?_askAll_wishesOf hp]
    rw [askAll_eq g ys, askAll_eq g xs, hpieces]
  · rw [← fst_askAll_wishesOf, hstreams, fst_askAll_wishesOf]

/-- Two players' wishes and one of somebody who is no player, in two orders. -/
theorem askAll_noninterference_swapped :
    let unit (owner : PlayerId) : Piece :=
      { Piece.new 0 .detached with state := { (default : PieceState) with owner, living := true } }
    let g : Game := { rules := {}, link := .server, phase := .loaded
                      pieces := [unit ⟨4⟩, unit ⟨5⟩, unit ⟨4⟩] }
    let mark := fun (i : UInt8) (b : Bool) => Wish.highlight ⟨i, b⟩
    let xs := [(⟨4⟩, mark 1 true), (⟨5⟩, mark 0 true), (⟨4⟩, mark 1 false), (⟨3⟩, mark 0 true)]
    let ys := [(⟨3⟩, mark 0 true), (⟨4⟩, mark 1 true), (⟨4⟩, mark 1 false), (⟨5⟩, mark 0 true)]
    g.ownPlayer = .none ∧ (∀ player, wishesOf player ys = wishesOf player xs) ∧
      (g.askAll ys).2 = (g.askAll xs).2 := by
  intro unit g mark xs ys
  have hstreams (player : PlayerId) : wishesOf player ys = wishesOf player xs := by
    by_cases h₃ : (⟨3⟩ : PlayerId) = player
    · subst h₃
      decide
    · by_cases h₄ : (⟨4⟩ : PlayerId) = player
      · subst h₄
        decide
      · simp [wishesOf, xs, ys, List.filter_cons, h₃, h₄]
  obtain ⟨_, _, _, _, hinterleave⟩ := askAll_noninterference (g := g) rfl xs
  exact ⟨rfl, hstreams, (hinterleave ys hstreams).1⟩

end Game

end Pursuit
