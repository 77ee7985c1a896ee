import Flotilla.Proofs.Battle.HitPoints
import Flotilla.Proofs.Store.Formation

/-! # Positions from the roster to the summary

A position goes a long way from a roster to a row of a summary: the roster is cut at the last usable
position and split into main fleet and escort, the ship of each row is looked for by position, and
the rows are split again. On the friendly side all of that keeps positions: the rows stand at 0, 1
and so on without a gap, and each shows the ship that the roster has at its position. -/
namespace Flotilla.Battle

open Flotilla.Store

/-- The number of positions for which a battle gives hit points of a side. -/
def hpReach (b : Battle) (side : Side) : Nat :=
  max (b.day.elim 0 fun s => (s.side side).nowHps.length)
    (b.night.elim 0 fun s => (s.side side).nowHps.length)

/-- A side reaches as far as its roster or its hit points do. -/
theorem sideReach_eq (b : Battle) (side : Side) (roster : Nat) :
    sideReach (b.segments.map (·.2)) side roster = max roster (b.hpReach side) := by
  rw [segments_eq, sideReach, hpReach]
  cases b.day <;> cases b.night <;> simp [Nat.max_assoc]

section Split

variable (b : Battle) (side : Side) (roster : Nat) (identity : Nat → Identity)

/-- The rows of the main fleet are those at the first six positions, and those of the escort the
others. -/
theorem split_summarizeSide :
    let positions := List.range (sideReach (b.segments.map (·.2)) side roster)
    (summarizeSide b side roster identity).main.map (·.position) = positions.filter (· < fleetSize) ∧
      (summarizeSide b side roster identity).escort.map (·.position)
        = positions.filter (fleetSize ≤ ·) := by
  intro positions
  simp only [summarizeSide, List.filter_map, List.map_map]
  exact ⟨List.map_id _, List.map_id _⟩

/-- Each row shows who stands at its position. -/
theorem shipId_of_mem_rows {row : CombatantRow}
    (h : row ∈ (summarizeSide b side roster identity).rows) :
    row.shipId = (identity row.position).shipId := by
  rw [rows_summarizeSide] at h
  obtain ⟨p, -, rfl⟩ := List.mem_map.mp h
  rfl

end Split

theorem shipId_friendlyIdentity (s : Store) (f : Formation) (p : Nat) :
    (friendlyIdentity s f p).shipId = f.shipAt p := by
  unfold friendlyIdentity
  cases f.shipAt p <;> rfl

/-- A side that stands as a roster does, of which so many positions are usable: it reaches so many
positions, and the fleet by position has the same ships. -/
structure Aligned (side : SideSummary) (fleet : Formation) (roster : List Int64)
    (limit reach : Nat) : Prop where
  positions : side.rows.map (·.position) = List.range reach
  main : side.main.map (·.position) = (List.range reach).filter (· < 6)
  escort : side.escort.map (·.position) = (List.range reach).filter (6 ≤ ·)
  ships : ∀ row ∈ side.rows, row.shipId = stationed roster limit row.position
  shipAt : ∀ p, fleet.shipAt p = stationed roster limit p
  alone : limit = 6 → fleet.escort = []

/-- The friendly side of a summary stands as the roster of its fleet does, twelve positions of which
are usable when the battle combines it and six otherwise, as far as the roster or the hit points
reach. -/
theorem friendly_aligned (s : Store) (b : Battle) :
    let roster := rosterOf s.fleets b.fleetId
    let limit := if b.fleetId = 1 ∧ b.combined.isCombined then 12 else 6
    Aligned (summarize s b).friendly (formation s.fleets b.fleetId b.combined) roster limit
      (max (min roster.length limit) (b.hpReach .friendly)) := by
  intro roster limit
  let fleet := formation s.fleets b.fleetId b.combined
  have usable_ : usable b.combined b.fleetId = limit := usable_eq b.combined b.fleetId
  have reach : sideReach (b.segments.map (·.2)) .friendly fleet.size
      = max (min roster.length limit) (b.hpReach .friendly) := by
    rw [sideReach_eq, size_formation, usable_]
  have shipAt (p : Nat) : fleet.shipAt p = stationed roster limit p := by
    rw [shipAt_formation, usable_]
  obtain ⟨main, escort⟩ := split_summarizeSide b .friendly fleet.size (friendlyIdentity s fleet)
  rw [reach] at main escort
  constructor
  case positions =>
    rw [← reach]
    exact positions_summarizeSide b .friendly fleet.size _
  case main => exact main
  case escort => exact escort
  case ships =>
    intro row hrow
    rw [shipId_of_mem_rows _ _ _ _ hrow, shipId_friendlyIdentity]
    exact shipAt row.position
  case shipAt => exact shipAt
  case alone =>
    intro six
    refine escort_of_alone _ _ _ fun combined => ?_
    have twelve : limit = 12 := if_pos combined
    omega

end Flotilla.Battle
