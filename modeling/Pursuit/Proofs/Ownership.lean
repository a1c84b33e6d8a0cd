import Pursuit.Proofs.Progress

/-! # Whose pieces are whose

Neither a step nor a request gives a piece to another player; only a message that states a piece can.
Which of its pieces a player means by an index hangs on the owners alone.

* **`Game.owners`** — whose the pieces are, with **`Game.owners_step?`**, **`Game.owners_asRequested`**
  and **`Game.owners_told`** for what can happen to them.
* **`Game.GoesOn`** — a game some time later, on the same level.
* **`Game.names_congr`** — games with the same ids and owners call a player's pieces by the same
  indices. -/

namespace Pursuit

namespace Game

variable {g g' g'' mirror : Game} {player : PlayerId} {m : Message}

/-! ## What keeps the owners -/

/-- The owners of the pieces, in the order of the pieces. -/
def owners (g : Game) : List PlayerId := g.pieces.map (·.state.owner)

/-- The start of a round gives no piece away. -/
theorem owners_start (g : Game) : g.start.owners = g.owners := by
  unfold start
  split <;> rfl

/-- A step gives no piece away. -/
theorem owners_step? {dt : Duration} (h : g.step? dt = some g') : g'.owners = g.owners :=
  (Aged.step h).pieces.map_eq fun _ _ hp => hp.owner

/-- A change of one piece that leaves it with its owner leaves all of them with theirs. -/
theorem owners_modifyPiece (g : Game) (place : Nat) {f : Piece → Piece}
    (hf : ∀ p, (f p).state.owner = p.state.owner) : (g.modifyPiece place f).owners = g.owners := by
  rw [owners, modifyPiece, List.map_modify_of_comm (h := id) hf, List.modify_id]
  rfl

/-- So does such a change of a player's piece with an index. -/
theorem owners_modifyOwn (g : Game) (player : PlayerId) (index : UInt8) {f : Piece → Piece}
    (hf : ∀ p, (f p).state.owner = p.state.owner) :
    (g.modifyOwn player index f).owners = g.owners := by
  unfold modifyOwn
  split
  · exact owners_modifyPiece g _ hf
  · rfl

/-- A request gives no piece away, whoever asks for whatever. -/
theorem owners_asRequested (g : Game) (player : PlayerId) (m : Message) :
    (g.asRequested player m).owners = g.owners := by
  unfold asRequested
  split
  · split
    · exact owners_modifyOwn _ _ _ fun _ => rfl
    · exact owners_modifyOwn _ _ _ fun _ => rfl
    · rfl
  · rfl

/-- A message that states no piece gives none away. -/
theorem owners_told (hg : g.Registered) (hm : m.type ≠ .gameUnit) : (g.told m).owners = g.owners := by
  have hnone : (m.contents? : Option PieceState) = none := Message.contents?_of_type_ne hm
  have hsame : (g.told m).pieces = g.pieces := List.map_eq_self_iff.2 fun p hp => by
    rw [Piece.taking_eq (hg.pieces p hp), hnone]
    exact ite_self p
  rw [owners, owners, hsame]

/-! ## A game some time later -/

/-- A game `g'` that `g` has become on the same level: it has the same entities. They have the same
owners too, provided that nobody stated a piece meanwhile, which is for `kept` to say. -/
structure GoesOn (kept : Prop) (g g' : Game) : Prop where
  /-- The entities are the same. -/
  books : g.SameBooks g'
  /-- Their owners are the same. -/
  owners : kept → g'.owners = g.owners

namespace GoesOn

variable {kept kept' : Prop}

/-- A game goes on as it is. -/
theorem refl (kept : Prop) (g : Game) : g.GoesOn kept g := ⟨.refl g, fun _ => rfl⟩

/-- A game that goes on twice goes on. -/
theorem trans (h : g.GoesOn kept g') (h' : g'.GoesOn kept g'') : g.GoesOn kept g'' :=
  ⟨h.books.trans h'.books, fun hkept => (h'.owners hkept).trans (h.owners hkept)⟩

/-- More may have been stated than is known. -/
theorem mono (h : g.GoesOn kept g') (hkept : kept' → kept) : g.GoesOn kept' g' :=
  ⟨h.books, fun hk => h.owners (hkept hk)⟩

/-- The start of a round lets a game go on. -/
theorem start (kept : Prop) (g : Game) : g.GoesOn kept g.start :=
  ⟨g.sameBooks_start, fun _ => g.owners_start⟩

/-- A step lets a game go on. -/
theorem step? (kept : Prop) {dt : Duration} (h : g.step? dt = some g') : g.GoesOn kept g' :=
  ⟨(sameBooks_step? h).1, fun _ => owners_step? h⟩

end GoesOn

/-! ## The names of pieces -/

/-- A player's places hang on the owners only. -/
theorem placesOf_congr (h : g'.owners = g.owners) (player : PlayerId) :
    g'.placesOf player = g.placesOf player := by
  have hlength : g'.pieces.length = g.pieces.length := by simpa [owners] using congrArg List.length h
  rw [placesOf, placesOf, hlength]
  refine List.filter_congr fun i _ => ?_
  rw [← List.getElem?_map, ← List.getElem?_map]
  exact congrArg (fun owners : List PlayerId => decide (owners[i]? = some player)) h

/-- The id of the piece at a place. -/
def idAt? (g : Game) (place : Nat) : Option MessageId := g.pieces[place]?.map Entity.id

/-- Pieces within reach are found by their owners. -/
theorem pieceByIndex?_of_reach (hreach : g.ownPlayer = .none ∨ g.ownPlayer = player)
    (index : UInt8) : g.pieceByIndex? player index = (g.placesOf player)[index.toNat]? := by
  rw [pieceByIndex?, if_neg]
  rintro ⟨hnone, hother⟩
  exact hreach.elim hnone hother

/-- **Games whose pieces have the same ids and owners call a player's pieces by the same indices.** -/
theorem names_congr (hids : mirror.pieces.map Entity.id = g.pieces.map Entity.id)
    (howners : mirror.owners = g.owners)
    (hreach : mirror.ownPlayer = .none ∨ mirror.ownPlayer = player)
    (hreach' : g.ownPlayer = .none ∨ g.ownPlayer = player) (index : UInt8) :
    (mirror.pieceByIndex? player index).bind mirror.idAt? =
      (g.pieceByIndex? player index).bind g.idAt? := by
  have hid : mirror.idAt? = g.idAt? := by
    funext place
    rw [idAt?, idAt?, ← List.getElem?_map, hids, List.getElem?_map]
  rw [pieceByIndex?_of_reach hreach, pieceByIndex?_of_reach hreach', placesOf_congr howners, hid]

end Game

end Pursuit
