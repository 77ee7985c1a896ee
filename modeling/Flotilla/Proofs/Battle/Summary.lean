import Flotilla.Proofs.Battle.Losses

/-! # The rows of a summary

A side has one row for each of its positions, in order, split into main fleet and
escort. What a row says about damage and hit points depends on the segments alone,
not on who stands at its position. -/
namespace Flotilla.Battle

open Flotilla.Store (fleetSize)

/-- The summary of one side. -/
def Summary.side (s : Summary) (side : Side) : SideSummary := side.pick s.friendly s.enemy

/-- Both sides are summarized alike, from a roster and who stands where. -/
theorem summarize_side (s : Store) (b : Battle) (side : Side) :
    ∃ roster identity, (summarize s b).side side = summarizeSide b side roster identity := by
  cases side with
  | friendly => exact ⟨_, _, rfl⟩
  | enemy => exact ⟨_, _, rfl⟩

theorem filter_lt_append_filter_le_range (k n : Nat) :
    (List.range n).filter (· < k) ++ (List.range n).filter (k ≤ ·) = List.range n := by
  induction n with
  | zero => rfl
  | succ n ih =>
    rw [List.range_succ, List.filter_append, List.filter_append]
    by_cases hn : n < k
    · have none_ : (List.range n).filter (k ≤ ·) = [] :=
        List.filter_eq_nil_iff.mpr fun p hp => by
          have := List.mem_range.mp hp
          simp only [decide_eq_true_eq]; omega
      rw [none_, List.append_nil] at ih
      rw [none_, ih]
      simp [hn]
    · have hk : k ≤ n := by omega
      rw [List.filter_cons_of_neg (by simpa using hn), List.filter_cons_of_pos (by simpa using hk),
        List.filter_nil, List.filter_nil, List.append_nil, ← List.append_assoc, ih]

/-- The rows of a side, one for each position up to its reach. -/
theorem rows_summarizeSide (b : Battle) (side : Side) (roster : Nat) (identity : Nat → Identity) :
    (summarizeSide b side roster identity).rows
      = (List.range (sideReach (b.segments.map (·.2)) side roster)).map
          (combatantRow (b.segments.map (·.2)) side
            (reconcileLedgers (b.day.bind (·.ledger? side)) (b.night.bind (·.ledger? side)))
            identity) := by
  simp only [summarizeSide, SideSummary.rows, List.filter_map, ← List.map_append]
  exact congrArg _ (filter_lt_append_filter_le_range fleetSize _)

theorem positions_summarizeSide (b : Battle) (side : Side) (roster : Nat)
    (identity : Nat → Identity) :
    (summarizeSide b side roster identity).rows.map (·.position)
      = List.range (sideReach (b.segments.map (·.2)) side roster) := by
  rw [rows_summarizeSide, List.map_map]
  exact List.map_id _

theorem nowHps_le_sideReach {segments : List Segment} {s : Segment} (hs : s ∈ segments)
    (side : Side) (roster : Nat) : (s.side side).nowHps.length ≤ sideReach segments side roster :=
  (le_foldl_max _ _).2 _ (List.mem_map_of_mem hs)

/-! ## Other segments -/

/-- With other segments the same roster and the same ships are summarized. -/
theorem summarize_side_with (s : Store) (b : Battle) (day night : Option Segment) (side : Side) :
    ∃ roster identity, (summarize s b).side side = summarizeSide b side roster identity ∧
      (summarize s { b with day, night }).side side
        = summarizeSide { b with day, night } side roster identity := by
  cases side with
  | friendly => exact ⟨_, _, rfl, rfl⟩
  | enemy => exact ⟨_, _, rfl, rfl⟩

section

variable {ss ts : List Segment} {side : Side}

theorem sideReach_congr (same : ts.map (·.side side) = ss.map (·.side side)) (roster : Nat) :
    sideReach ts side roster = sideReach ss side roster := by
  have lengths (us : List Segment) : us.map (fun s => (s.side side).nowHps.length)
      = (us.map (·.side side)).map (·.nowHps.length) := by
    rw [List.map_map]; rfl
  rw [sideReach, sideReach, lengths, lengths, same]

/-- Where segments differ in their phases only, rows differ in hit points and damage only. -/
theorem combatantRow_congr (same : ts.map (·.side side) = ss.map (·.side side))
    (hp hp' : Reconciled) (identity : Nat → Identity) (p : Nat) :
    combatantRow ts side hp' identity p
      = { combatantRow ss side hp identity p with
          nowHp := hp'.get p, damage := damageAcross ts side p } := by
  have first (f : SideHp → Option Int64) :
      ts.findSome? (fun s => f (s.side side)) = ss.findSome? (fun s => f (s.side side)) := by
    have := congrArg (List.findSome? f) same
    rwa [List.findSome?_map, List.findSome?_map] at this
  have anywhere (f : SideHp → Bool) :
      ts.any (fun s => f (s.side side)) = ss.any (fun s => f (s.side side)) := by
    have := congrArg (List.any · f) same
    rwa [List.any_map, List.any_map] at this
  simp only [combatantRow, first (·.nowHps[p]?), first (·.maxHps[p]?),
    anywhere (·.escaped.contains p)]

end

/-! ## Single rows -/

/-- Every row of a summary is that of a position, with the hit points of the side. -/
theorem mem_rows_summarize (s : Store) {b : Battle} {side : Side} {row : CombatantRow}
    (hrow : row ∈ ((summarize s b).side side).rows) :
    ∃ identity p,
      row = combatantRow (b.segments.map (·.2)) side
        (reconcileLedgers (b.day.bind (·.ledger? side)) (b.night.bind (·.ledger? side)))
        identity p := by
  obtain ⟨roster, identity, hside⟩ := summarize_side s b side
  rw [hside, rows_summarizeSide] at hrow
  obtain ⟨p, _, rfl⟩ := List.mem_map.mp hrow
  exact ⟨identity, p, rfl⟩

/-- A row of a summary shows the exact loss at its position over all phases, held at the
greatest integer. -/
theorem Decoded.toInt_damage_row {b : Battle} (h : b.Decoded) (s : Store) {side : Side}
    {row : CombatantRow} (hrow : row ∈ ((summarize s b).side side).rows) :
    row.damage.toInt = capped (lossOver side row.position b.phases) := by
  obtain ⟨identity, p, rfl⟩ := mem_rows_summarize s hrow
  exact h.toInt_damageAcross side p

/-- The first friendly row after the skirmish. -/
def skirmishRow : CombatantRow where
  position := 0
  shipId := none
  name := Store.unknownName
  level := none
  startHp := some 40
  nowHp := some 0
  maxHp := none
  damage := 42
  escaped := false

theorem skirmishRow_mem : skirmishRow ∈ ((summarize {} skirmish).side .friendly).rows := by
  decide +kernel

end Flotilla.Battle
