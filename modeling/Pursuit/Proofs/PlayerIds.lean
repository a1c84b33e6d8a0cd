import Mathlib.Data.List.Nodup
import Pursuit.Match.Roster

/-! # How long player ids last

A server gives each accepted session the next number of a counter of 16 bits, and nothing tells it
when the counter comes around.

* **`Roster.admitted`** — the players that a run of reports brought in, with their sessions.
* **`Roster.admitted_eq`** — the run's accepted sessions in order, each with the counter's next number.
* **`Roster.ids_sound_iff`** — the ids of a run are ids of players and never given twice exactly as
  long as there are enough of them. -/

namespace Pursuit

/-- How many ids of players there are. -/
def PlayerId.count : Nat := UInt16.size - PlayerId.firstClient.code.toNat

/-- The session that began, if a report tells of one. -/
def ServerEvent.accepted? : ServerEvent → Option SessionId
  | .accepted session => some session
  | _ => none

/-- The player that came, if an event tells of one. -/
def PlayerEvent.joined? : PlayerEvent → Option Profile
  | .joined profile => some profile
  | .left _ => none

namespace Roster

/-- The players that came during a run of reports, the first to come first, whether or not they have
left. -/
def admitted (r : Roster) (events : List ServerEvent) : List Profile :=
  (r.run events).2.filterMap PlayerEvent.joined?

/-- The counter's number after so many others. -/
def upcoming (r : Roster) (k : Nat) : PlayerId := ⟨r.nextPlayer + .ofNat k⟩

/-- When a player has joined, the others' numbers are one nearer. -/
theorem upcoming_join (r : Roster) (session : SessionId) (k : Nat) :
    (r.join session).2.upcoming k = r.upcoming (k + 1) := by
  change PlayerId.mk (r.nextPlayer + 1 + .ofNat k) = PlayerId.mk (r.nextPlayer + .ofNat (k + 1))
  rw [UInt16.ofNat_add, UInt16.add_assoc, UInt16.add_comm 1]
  rfl

/-- Whatever else is reported, **the accepted sessions get the numbers of the counter one after the
other**. -/
theorem admitted_eq (r : Roster) (events : List ServerEvent) :
    r.admitted events =
      (events.filterMap ServerEvent.accepted?).zipIdx.map fun x => ⟨r.upcoming x.2, x.1⟩ := by
  -- The counter moves with every accepted session, so the roster varies.
  induction events generalizing r with
  | nil => rfl
  | cons e events ih =>
    cases e with
    | accepted session =>
      have hrun : r.admitted (.accepted session :: events) =
          ⟨r.upcoming 0, session⟩ :: (r.join session).2.admitted events := by
        have hfirst : (r.join session).1 = ⟨r.upcoming 0, session⟩ := by
          simp [join, upcoming]
        rw [← hfirst]
        rfl
      have haccepted : (ServerEvent.accepted session :: events).filterMap ServerEvent.accepted? =
          session :: events.filterMap ServerEvent.accepted? := rfl
      rw [hrun, ih, haccepted, List.zipIdx_cons, List.map_cons, List.zipIdx_succ,
        List.map_map]
      congr 1
      refine List.map_congr_left fun x _ => ?_
      rw [upcoming_join]
      rfl
    | received session m => exact ih r
    | closed session =>
      have hrun : r.admitted (.closed session :: events) = (r.leave session).2.admitted events := by
        simp only [admitted, run, handle]
        cases (r.leave session).1 <;> rfl
      rw [hrun, ih]
      rfl

/-- Players are given the upcoming numbers, in the order in which they join. -/
theorem players_admitted (r : Roster) (events : List ServerEvent) :
    (r.admitted events).map (·.player) =
      (List.range (events.filterMap ServerEvent.accepted?).length).map r.upcoming := by
  rw [admitted_eq, List.map_map, List.range_eq_range', ← List.zipIdx_map_snd, List.map_map]
  rfl

/-- Until they run out, numbers are counted on from the first client's. -/
theorem toNat_upcoming {k : Nat} (hk : k < PlayerId.count) :
    (upcoming {} k).code.toNat = PlayerId.firstClient.code.toNat + k := by
  have hcount : PlayerId.count = 65532 := rfl
  change (4 + UInt16.ofNat k : UInt16).toNat = 4 + k
  rw [UInt16.toNat_add, UInt16.toNat_ofNat']
  change (4 + k % 2 ^ 16) % 2 ^ 16 = 4 + k
  omega

/-- **The ids of a run are sound exactly as long as they last.** On a fresh server, all players that
come during a run of reports are given ids of players, and no two of them the same, exactly if there
are as many ids as accepted sessions. Sessions that are closed give no id back. -/
theorem ids_sound_iff (events : List ServerEvent) :
    ((∀ p ∈ admitted {} events, p.player.isPlayer = true) ∧
        ((admitted {} events).map (·.player)).Nodup) ↔
      (events.filterMap ServerEvent.accepted?).length ≤ PlayerId.count := by
  have hall : (∀ p ∈ admitted {} events, p.player.isPlayer = true) ↔
      ∀ k < (events.filterMap ServerEvent.accepted?).length, (upcoming {} k).isPlayer = true := by
    rw [← List.forall_mem_map (f := fun p : Profile => p.player) (P := fun id => id.isPlayer = true),
      players_admitted, List.forall_mem_map]
    simp only [List.mem_range]
  rw [hall, players_admitted]
  constructor
  · rintro ⟨hplayers, _⟩
    -- One more session than there are ids is given the id of nobody.
    by_contra hlen
    exact absurd (hplayers PlayerId.count (by omega)) (by decide)
  · intro hlen
    refine ⟨fun k hk => ?_, ?_⟩
    · have htoNat := toNat_upcoming (Nat.lt_of_lt_of_le hk hlen)
      refine decide_eq_true (UInt16.le_iff_toNat_le.2 ?_)
      omega
    · refine (List.nodup_map_iff_inj_on List.nodup_range).2 fun j hj k hk hjk => ?_
      have hj' := toNat_upcoming (Nat.lt_of_lt_of_le (List.mem_range.1 hj) hlen)
      have hk' := toNat_upcoming (Nat.lt_of_lt_of_le (List.mem_range.1 hk) hlen)
      rw [hjk] at hj'
      omega

/-- A run in which sessions come and none ever leaves. -/
def arrivals (n : Nat) : List ServerEvent :=
  (List.range n).map fun k => .accepted ⟨.ofNat (k + 1)⟩

/-- **The ids run out**: when 65537 sessions have come, the 65533rd has been given the id of nobody,
the 65535th that of all clients, and the 65537th that of the first. -/
theorem ids_run_out :
    ¬((∀ p ∈ admitted {} (arrivals 65537), p.player.isPlayer = true) ∧
        ((admitted {} (arrivals 65537)).map (·.player)).Nodup) ∧
      ((admitted {} (arrivals 65537)).map (·.player))[65532]? = some .none ∧
      ((admitted {} (arrivals 65537)).map (·.player))[65534]? = some .allClients ∧
      ((admitted {} (arrivals 65537)).map (·.player))[65536]? =
        ((admitted {} (arrivals 65537)).map (·.player))[0]? := by
  have haccepted : ((arrivals 65537).filterMap ServerEvent.accepted?).length = 65537 := by
    have hsessions : (arrivals 65537).filterMap ServerEvent.accepted? =
        (List.range 65537).map fun k => ⟨.ofNat (k + 1)⟩ := by
      rw [arrivals, List.filterMap_map]
      exact congrFun List.filterMap_eq_map _
    rw [hsessions, List.length_map, List.length_range]
  -- The ids are read off the counter, without a run of 65537 reports.
  have hget {k : Nat} (hk : k < 65537) :
      ((admitted {} (arrivals 65537)).map (·.player))[k]? = some (upcoming {} k) := by
    rw [players_admitted, haccepted, List.getElem?_map, List.getElem?_range hk]
    rfl
  have hwrap : upcoming {} 65532 = .none ∧ upcoming {} 65534 = .allClients ∧
      upcoming {} 65536 = upcoming {} 0 := by decide
  have hnone := hget (k := 65532) (by decide)
  rw [hget (k := 65534) (by decide), hget (k := 65536) (by decide), hget (k := 0) (by decide), hnone,
    hwrap.1, hwrap.2.1, hwrap.2.2]
  rw [hwrap.1] at hnone
  refine ⟨?_, rfl, rfl, rfl⟩
  rintro ⟨hplayers, _⟩
  obtain ⟨p, hp, hplayer⟩ := List.mem_map.1 (List.mem_of_getElem? hnone)
  have hisPlayer := hplayers p hp
  rw [hplayer] at hisPlayer
  exact absurd hisPlayer (by decide)

end Roster

end Pursuit
