import Mathlib.Data.List.Nodup
import Flotilla.Battle.Targets
import Flotilla.Proofs.Store.Lookup

/-! # The order of targets and their rows

Groups keep the order in which positions were first attacked apart from the rows by position.
Recording a hit and merging one both put a row under a position, and a position that has no row
yet goes to the end of the order. So after any steps the order names just the positions that
have a row, each once, and every row stands under its own position with the hit that its damage
and its flag make. -/
namespace Flotilla.Battle

/-! ## Rows by position -/

namespace RowTable

theorem mem_keys {t : RowTable} {p : Nat} : p ∈ t.keys ↔ (t.get? p).isSome := by
  rw [get?, Store.valueAt?, Option.isSome_map, List.find?_isSome]
  simp [keys]

theorem nodup_keys (t : RowTable) : t.keys.Nodup :=
  List.pairwise_map.mpr (t.ascending.imp Nat.ne_of_lt)

theorem get?_of_mem {t : RowTable} {e : Nat × TargetRow} (h : e ∈ t.entries) :
    t.get? e.1 = some e.2 := by
  rw [get?, Store.valueAt?, Store.find?_of_mem t.nodup_keys h, Option.map_some]

/-- The keys lead to the rows, one each. -/
theorem filterMap_get?_keys (t : RowTable) : t.keys.filterMap t.get? = t.entries.map (·.2) := by
  rw [keys, List.filterMap_map, ← List.filterMap_eq_map]
  exact List.filterMap_congr fun e he => get?_of_mem he

end RowTable

/-! ## What one row says -/

namespace TargetRow

/-- A row that stands for a position and shows the hit that its damage and its flag make. -/
structure Stands (row : TargetRow) (target : Nat) : Prop where
  target : row.target = target
  hit : row.hit = classify (some row.damage) row.critical

theorem stands_first (t : Nat) (r : Received) : (first t r).Stands t := ⟨rfl, rfl⟩

theorem Stands.attackedBy {row : TargetRow} {t : Nat} (h : row.Stands t) (a : Option Nat) :
    (row.attackedBy a).Stands t := ⟨h.target, h.hit⟩

theorem Stands.merge {row : TargetRow} {t : Nat} (h : row.Stands t) (r : Received) :
    (row.merge r).Stands t := ⟨h.target, rfl⟩

@[simp] theorem attackedBy_none (row : TargetRow) : row.attackedBy none = row := by
  simp [attackedBy]

end TargetRow

/-! ## Putting a row under a position -/

namespace TargetGroups

/-- Groups with a row put under a position, which goes to the end of the order if it is new. -/
def put (g : TargetGroups) (target : Nat) (row : TargetRow) : TargetGroups :=
  { order := if (g.get? target).isSome then g.order else g.order ++ [target]
    byTarget := g.byTarget.insert target row }

@[simp] theorem get?_put (g : TargetGroups) (t : Nat) (row : TargetRow) (p : Nat) :
    (g.put t row).get? p = if t = p then some row else g.get? p :=
  g.byTarget.get?_insert t row p

theorem order_put_of_some {g : TargetGroups} {t : Nat} {old : TargetRow}
    (h : g.get? t = some old) (row : TargetRow) : (g.put t row).order = g.order := by
  simp [put, h]

theorem order_put_of_none {g : TargetGroups} {t : Nat} (h : g.get? t = none) (row : TargetRow) :
    (g.put t row).order = g.order ++ [t] := by
  simp [put, h]

theorem record_eq_put (g : TargetGroups) (t : Nat) (a : Option Nat) (r : Received) :
    g.record t a r = g.put t (((g.get? t).getD (.first t r)).attackedBy a) := rfl

theorem merge_eq_put (g : TargetGroups) (t : Nat) (r : Received) :
    g.merge t r = g.put t (((g.get? t).map (·.merge r)).getD (.first t r)) := by
  unfold merge
  cases h : g.get? t with
  | none =>
    simp [record_eq_put, h]
  | some row => simp [put, h]

@[simp] theorem get?_record (g : TargetGroups) (t : Nat) (a : Option Nat) (r : Received) (p : Nat) :
    (g.record t a r).get? p
      = if t = p then some (((g.get? t).getD (.first t r)).attackedBy a) else g.get? p := by
  rw [record_eq_put, get?_put]

@[simp] theorem get?_merge (g : TargetGroups) (t : Nat) (r : Received) (p : Nat) :
    (g.merge t r).get? p
      = if t = p then some (((g.get? t).map (·.merge r)).getD (.first t r)) else g.get? p := by
  rw [merge_eq_put, get?_put]

/-! ## The order and the rows in step -/

/-- The order names the positions that have a row, each once, and the rows stand for them. -/
structure InStep (g : TargetGroups) : Prop where
  nodup : g.order.Nodup
  held : ∀ t, t ∈ g.order ↔ (g.get? t).isSome
  stands : ∀ t row, g.get? t = some row → row.Stands t

theorem InStep.empty : InStep {} where
  nodup := .nil
  held _ := by simp
  stands _ _ h := by simp at h

theorem InStep.put {g : TargetGroups} (h : g.InStep) {t : Nat} {row : TargetRow}
    (stands : row.Stands t) : (g.put t row).InStep where
  nodup := by
    -- only a position that is not in the order yet is put at its end
    cases known : g.get? t with
    | some old =>
      rw [order_put_of_some known]
      exact h.nodup
    | none =>
      have fresh : t ∉ g.order := by simp [h.held, known]
      rw [order_put_of_none known]
      refine List.nodup_append.mpr ⟨h.nodup, List.nodup_singleton t, ?_⟩
      rintro p hp q hq rfl
      exact fresh (List.mem_singleton.mp hq ▸ hp)
  held p := by
    cases known : g.get? t with
    | some old =>
      rw [order_put_of_some known, h.held]
      by_cases hp : t = p
      · subst hp; simp [known]
      · simp [hp]
    | none =>
      rw [order_put_of_none known, List.mem_append, List.mem_singleton, h.held]
      by_cases hp : t = p
      · subst hp; simp
      · simp [hp, Ne.symm hp]
  stands p row' hrow := by
    simp only [get?_put] at hrow
    split at hrow
    · rename_i same
      obtain rfl := Option.some.inj hrow
      exact same ▸ stands
    · exact h.stands p row' hrow

theorem InStep.record {g : TargetGroups} (h : g.InStep) (t : Nat) (a : Option Nat)
    (r : Received) : (g.record t a r).InStep := by
  rw [record_eq_put]
  refine h.put (TargetRow.Stands.attackedBy ?_ a)
  cases known : g.get? t with
  | none => exact TargetRow.stands_first t r
  | some row => exact h.stands t row known

theorem InStep.merge {g : TargetGroups} (h : g.InStep) (t : Nat) (r : Received) :
    (g.merge t r).InStep := by
  rw [merge_eq_put]
  refine h.put ?_
  cases known : g.get? t with
  | none => exact TargetRow.stands_first t r
  | some row => exact (h.stands t row known).merge r

/-! ## Rows in order -/

theorem mem_rows {g : TargetGroups} {row : TargetRow} :
    row ∈ g.rows ↔ ∃ t ∈ g.order, g.get? t = some row :=
  List.mem_filterMap

theorem InStep.mem_rows_of_get? {g : TargetGroups} (h : g.InStep) {t : Nat} {row : TargetRow}
    (hrow : g.get? t = some row) : row ∈ g.rows :=
  mem_rows.mpr ⟨t, (h.held t).mpr (by rw [hrow]; rfl), hrow⟩

theorem InStep.targets_rows {g : TargetGroups} (h : g.InStep) :
    g.rows.map (·.target) = g.order := by
  have own : ∀ t ∈ g.order, (g.get? t).map TargetRow.target = some t := by
    intro t ht
    obtain ⟨row, hrow⟩ := Option.isSome_iff_exists.mp ((h.held t).mp ht)
    rw [hrow, Option.map_some, (h.stands t row hrow).target]
  rw [rows, List.map_filterMap, List.filterMap_congr own, List.filterMap_some]

theorem InStep.find?_rows {g : TargetGroups} (h : g.InStep) (p : Nat) :
    g.rows.find? (·.target == p) = g.get? p := by
  cases hp : g.get? p with
  | none =>
    refine List.find?_eq_none.mpr fun row hrow same => ?_
    obtain ⟨t, -, ht⟩ := mem_rows.mp hrow
    obtain rfl : t = p := (h.stands t row ht).target.symm.trans (beq_iff_eq.mp same)
    rw [hp] at ht
    cases ht
  | some row =>
    have distinct : (g.rows.map TargetRow.target).Nodup := h.targets_rows ▸ h.nodup
    have found := Store.find?_of_mem distinct (h.mem_rows_of_get? hp)
    rwa [(h.stands p row hp).target] at found

theorem InStep.perm_keys {g : TargetGroups} (h : g.InStep) : g.order.Perm g.byTarget.keys :=
  (List.perm_ext_iff_of_nodup h.nodup g.byTarget.nodup_keys).mpr fun t => by
    rw [h.held, RowTable.mem_keys]; rfl

theorem InStep.perm_rows {g : TargetGroups} (h : g.InStep) :
    g.rows.Perm (g.byTarget.entries.map (·.2)) := by
  rw [← RowTable.filterMap_get?_keys]
  exact h.perm_keys.filterMap g.byTarget.get?

/-! ## Any steps -/

/-- A step in the making of groups. -/
inductive Step where
  | record (target : Nat) (attacker : Option Nat) (received : Received)
  | merge (target : Nat) (received : Received)

/-- What a step reports of its position. -/
def Step.received : Step → Received
  | .record _ _ r => r
  | .merge _ r => r

/-- Groups after one more step. -/
def take (g : TargetGroups) : Step → TargetGroups
  | .record t a r => g.record t a r
  | .merge t r => g.merge t r

/-- The groups that steps make. -/
def run (steps : List Step) : TargetGroups := steps.foldl take {}

theorem InStep.take {g : TargetGroups} (h : g.InStep) (s : Step) : (g.take s).InStep := by
  cases s with
  | record t a r => exact h.record t a r
  | merge t r => exact h.merge t r

theorem InStep.foldl_take {g : TargetGroups} (h : g.InStep) (steps : List Step) :
    (steps.foldl TargetGroups.take g).InStep := by
  induction steps generalizing g with
  | nil => exact h
  | cons s steps ih => exact ih (h.take s)

theorem inStep_run (steps : List Step) : (run steps).InStep := InStep.empty.foldl_take steps

/-- After any steps the order names the positions under which there is a row, each once; the
rows in order are the rows by position, and there are as many as positions; each stands for its
position, with the hit that its damage and its flag make. A hit that is recorded for a known
position only adds to the attackers of its row. One that is merged leaves the order, the
attackers and all other rows as they are. -/
theorem order_holds_keys (steps : List Step) :
    let g := run steps
    g.order.Nodup ∧ g.order.Perm g.byTarget.keys ∧
      g.rows.map (·.target) = g.order ∧ g.rows.Perm (g.byTarget.entries.map (·.2)) ∧
      g.size = g.rows.length ∧
      (∀ t row, g.get? t = some row →
        row.target = t ∧ row.hit = classify (some row.damage) row.critical) ∧
      ∀ t row, g.get? t = some row →
        (∀ a r, (g.record t a r).order = g.order ∧
          ∀ p, (g.record t a r).get? p
            = if t = p then some { row with attackers := row.attackers ++ a.toList }
              else g.get? p) ∧
        ∀ r, (g.merge t r).order = g.order ∧
          (∃ merged, (g.merge t r).get? t = some merged ∧ merged.attackers = row.attackers) ∧
          ∀ p ≠ t, (g.merge t r).get? p = g.get? p := by
  intro g
  have h : g.InStep := inStep_run steps
  refine ⟨h.nodup, h.perm_keys, h.targets_rows, h.perm_rows, ?_, fun t row hrow => ?_,
    fun t row hrow => ⟨fun a r => ⟨?_, fun p => ?_⟩, fun r => ⟨?_, ?_, fun p hp => ?_⟩⟩⟩
  · rw [size, ← h.targets_rows, List.length_map]
  · exact ⟨(h.stands t row hrow).target, (h.stands t row hrow).hit⟩
  · rw [record_eq_put, order_put_of_some hrow]
  · simp [hrow, TargetRow.attackedBy]
  · rw [merge_eq_put, order_put_of_some hrow]
  · exact ⟨row.merge r, by simp [hrow], rfl⟩
  · simp [Ne.symm hp]

/-- A known position is hit again, once by a launcher and once by none. -/
theorem order_holds_keys_known :
    let g := run [.record 3 (some 0) { damage := 7 }, .merge 1 { damage := 2 }, .record 3 (some 2) {}]
    g.get? 3 = some ⟨3, 7, none, .normal, false, [0, 2]⟩ ∧
      (g.record 3 (some 4) { damage := 9 }).get? 3 = some ⟨3, 7, none, .normal, false, [0, 2, 4]⟩ ∧
      (g.merge 3 { damage := 5 }).order = [3, 1] ∧
      (g.merge 3 { damage := 5 }).get? 1 = g.get? 1 := by
  intro g
  have known : g.get? 3 = some ⟨3, 7, none, .normal, false, [0, 2]⟩ := by decide
  obtain ⟨-, -, -, -, -, -, steps⟩ :=
    order_holds_keys [.record 3 (some 0) { damage := 7 }, .merge 1 { damage := 2 }, .record 3 (some 2) {}]
  obtain ⟨recorded, merged⟩ := steps 3 _ known
  refine ⟨known, ?_, ?_, ?_⟩
  · rw [(recorded (some 4) { damage := 9 }).2 3, if_pos rfl]
    rfl
  · rw [(merged { damage := 5 }).1]
    decide
  · exact (merged { damage := 5 }).2.2 1 (by decide)

end TargetGroups

end Flotilla.Battle
