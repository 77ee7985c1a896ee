import Flotilla.Battle.AttackTable
import Flotilla.Proofs.Battle.Losses
import Flotilla.Proofs.Battle.TargetOrder

/-! # Attacks by target

Groups that record a history of hits tell it by position: the positions come in the order in
which the history first has them, and the row of each gives what the position received, once,
and every attacker that the history has for it. So grouping the attacks of launchers turns them
round exactly, and the damage that groups give for a position is what the position received when
it is named, and nothing otherwise; a barrage adds to that. -/
namespace Flotilla.Battle
namespace TargetGroups

/-! ## The damage of a position -/

/-- The damage that groups give for a position; none when it is not among them. -/
def damageAt (g : TargetGroups) (target : Nat) : Int64 :=
  ((g.get? target).map (·.damage)).getD 0

theorem total_filter_of_nodup {rows : List TargetRow} (h : (rows.map (·.target)).Nodup) (p : Nat) :
    total ((rows.filter (·.target == p)).map TargetRow.damage)
      = (((rows.find? (·.target == p)).map TargetRow.damage).getD 0).toInt := by
  induction rows with
  | nil => rfl
  | cons r rows ih =>
    obtain ⟨hr, hrows⟩ := List.nodup_cons.mp h
    rw [List.filter_cons, List.find?_cons]
    by_cases hp : r.target = p
    · have alone : rows.filter (·.target == p) = [] :=
        List.filter_eq_nil_iff.mpr fun r' hr' => by
          rw [beq_iff_eq]
          exact fun h' => hr (List.mem_map.mpr ⟨r', hr', h'.trans hp.symm⟩)
      rw [if_pos (beq_iff_eq.mpr hp), alone, beq_iff_eq.mpr hp]
      exact Int.add_zero _
    · rw [if_neg (by rwa [beq_iff_eq]), ih hrows, beq_eq_false_iff_ne.mpr hp]

theorem InStep.total_damage_filter {g : TargetGroups} (h : g.InStep) (p : Nat) :
    total ((g.rows.filter (·.target == p)).map (·.damage)) = (g.damageAt p).toInt := by
  have distinct : (g.rows.map TargetRow.target).Nodup := h.targets_rows ▸ h.nodup
  rw [total_filter_of_nodup distinct, h.find?_rows]
  rfl

/-! ## Recording a history of hits -/

/-- The attackers that a history of hits has for a position. Each hit is a position and the
launcher, if there is one. -/
def attackersIn (history : List (Nat × Option Nat)) (target : Nat) : List Nat :=
  (history.filter (·.1 == target)).filterMap (·.2)

/-- The row of a position after a history of hits. -/
def tally (received : Nat → Received) (history : List (Nat × Option Nat)) (target : Nat) :
    TargetRow :=
  { TargetRow.first target (received target) with attackers := attackersIn history target }

@[simp] theorem tally_concat (received : Nat → Received) (history : List (Nat × Option Nat))
    (t : Nat) (a : Option Nat) (p : Nat) :
    tally received (history ++ [(t, a)]) p
      = if t = p then (tally received history p).attackedBy a else tally received history p := by
  have attackers : attackersIn (history ++ [(t, a)]) p
      = attackersIn history p ++ if t = p then a.toList else [] := by
    rw [attackersIn, List.filter_append, List.filterMap_append]
    by_cases h : t = p
    · cases a <;> simp [attackersIn, h]
    · simp [attackersIn, h]
  rw [tally, attackers]
  split
  · rfl
  · rw [List.append_nil]
    rfl

theorem tally_of_not_mem {received : Nat → Received} {history : List (Nat × Option Nat)} {p : Nat}
    (h : p ∉ history.map (·.1)) : tally received history p = .first p (received p) := by
  have none_ : history.filter (·.1 == p) = [] :=
    List.filter_eq_nil_iff.mpr fun e he => by
      rw [beq_iff_eq]
      exact fun same => h (List.mem_map.mpr ⟨e, he, same⟩)
  rw [tally, attackersIn, none_]
  rfl

/-- Groups that tell a history of hits by position. -/
structure Tells (g : TargetGroups) (received : Nat → Received)
    (history : List (Nat × Option Nat)) : Prop extends g.InStep where
  order_eq : g.order = (history.map (·.1)).eraseDups
  row : ∀ t ∈ g.order, g.get? t = some (tally received history t)

theorem Tells.empty (received : Nat → Received) : Tells {} received [] :=
  ⟨.empty, rfl, nofun⟩

variable {g : TargetGroups} {received : Nat → Received} {history : List (Nat × Option Nat)}

theorem Tells.mem_history (h : g.Tells received history) {t : Nat} :
    t ∈ history.map (·.1) ↔ t ∈ g.order := by
  rw [h.order_eq, List.mem_eraseDups]

theorem Tells.getD_get? (h : g.Tells received history) (t : Nat) :
    (g.get? t).getD (.first t (received t)) = tally received history t := by
  cases known : g.get? t with
  | some row =>
    have mem : t ∈ g.order := (h.held t).mpr (by rw [known]; rfl)
    rw [h.row t mem] at known
    exact (Option.some.inj known).symm
  | none =>
    have fresh : t ∉ g.order := by simp [h.held, known]
    exact (tally_of_not_mem fun mem => fresh (h.mem_history.mp mem)).symm

theorem Tells.order_record (h : g.Tells received history) (t : Nat) (a : Option Nat)
    (r : Received) :
    (g.record t a r).order = ((history ++ [(t, a)]).map (·.1)).eraseDups := by
  rw [List.map_append, List.eraseDups_append, ← h.order_eq, record_eq_put]
  cases known : g.get? t with
  | some row =>
    have mem : t ∈ history.map (·.1) := h.mem_history.mpr ((h.held t).mpr (by rw [known]; rfl))
    rw [order_put_of_some known, List.map_singleton, List.cons_removeAll,
      if_neg (by simpa using mem)]
    exact (List.append_nil _).symm
  | none =>
    have fresh : t ∉ history.map (·.1) := by rw [h.mem_history, h.held, known]; simp
    rw [order_put_of_none known, List.map_singleton, List.cons_removeAll,
      if_pos (by simpa using fresh)]
    rfl

theorem Tells.record (h : g.Tells received history) (t : Nat) (a : Option Nat) :
    (g.record t a (received t)).Tells received (history ++ [(t, a)]) where
  toInStep := h.toInStep.record t a _
  order_eq := h.order_record t a _
  row p hp := by
    rw [(h.toInStep.record t a _).held] at hp
    by_cases same : t = p
    · simp [same, h.getD_get?]
    · simp only [get?_record, same, if_false] at hp
      simp [same, h.row p ((h.held p).mpr hp)]

/-- Groups with a history of hits recorded one by one. -/
def recordAll (g : TargetGroups) (received : Nat → Received) (history : List (Nat × Option Nat)) :
    TargetGroups :=
  history.foldl (fun g e => g.record e.1 e.2 (received e.1)) g

theorem Tells.recordAll (h : g.Tells received history) (later : List (Nat × Option Nat)) :
    (g.recordAll received later).Tells received (history ++ later) := by
  -- each hit moves from what is still to come to the end of the history that is told
  induction later generalizing g history with
  | nil => rwa [List.append_nil]
  | cons e later ih =>
    rw [List.append_cons]
    exact ih (h.record e.1 e.2)

theorem Tells.get?_eq (h : g.Tells received history) (p : Nat) :
    g.get? p = if p ∈ history.map (·.1) then some (tally received history p) else none := by
  by_cases known : p ∈ history.map (·.1)
  · rw [if_pos known, h.row p (h.mem_history.mp known)]
  · have absent : ¬ (g.get? p).isSome := fun some_ => known (h.mem_history.mpr ((h.held p).mpr some_))
    rw [if_neg known, Option.not_isSome_iff_eq_none.mp absent]

theorem Tells.damageAt (h : g.Tells received history) (p : Nat) :
    g.damageAt p = if p ∈ history.map (·.1) then (received p).damage else 0 := by
  rw [TargetGroups.damageAt, h.get?_eq]
  split <;> rfl

end TargetGroups

/-! ## Launchers -/

open TargetGroups

theorem filterMap_position? (ts : List Int64) :
    ts.filterMap position? = (ts.filter (0 ≤ ·)).map (·.toInt.toNat) := by
  rw [← List.filterMap_eq_map, List.filterMap_filter]
  refine List.filterMap_congr fun t _ => ?_
  simp [position?]

/-- The positions that a launcher names. -/
def Launcher.named (l : Launcher) : List Nat := l.targets.filterMap position?

theorem Launcher.mem_named {l : Launcher} {p : Nat} :
    p ∈ l.named ↔ ∃ t ∈ l.targets, t.toInt = p := by
  rw [named, List.mem_filterMap]
  refine exists_congr fun t => and_congr_right fun _ => ?_
  unfold position?
  simp only [Int64.le_iff_toInt_le, Int64.toInt_zero]
  split
  · rw [Option.some.injEq]; omega
  · simp only [reduceCtorEq, false_iff]; omega

/-- The attacks that launchers report: the position and the launcher of each, in order. -/
def attacksOf (ls : List Launcher) : List (Nat × Nat) :=
  ls.flatMap fun l => l.named.map fun t => (t, l.index)

/-- The attacks of launchers as a history of hits. -/
def hitsOf (ls : List Launcher) : List (Nat × Option Nat) :=
  (attacksOf ls).map fun a => (a.1, some a.2)

theorem targets_hitsOf (ls : List Launcher) :
    (hitsOf ls).map (·.1) = (attacksOf ls).map (·.1) := by
  simp [hitsOf, Function.comp_def]

theorem targets_attacksOf (ls : List Launcher) :
    (attacksOf ls).map (·.1) = ls.flatMap Launcher.named := by
  simp [attacksOf, List.map_flatMap, Function.comp_def]

theorem attackersIn_hitsOf (ls : List Launcher) (t : Nat) :
    attackersIn (hitsOf ls) t = ((attacksOf ls).filter (·.1 == t)).map (·.2) := by
  rw [attackersIn, hitsOf, List.filter_map, List.filterMap_map, ← List.filterMap_eq_map]
  rfl

theorem groupAttacks_eq (ls : List Launcher) (received : List Received) :
    groupAttacks ls received = recordAll {} (received.getD · {}) (hitsOf ls) := by
  rw [groupAttacks, recordAll, hitsOf, attacksOf, List.foldl_map, List.foldl_flatMap]
  refine congrArg (fun f => ls.foldl f _) (funext fun g => funext fun l => ?_)
  rw [recordLauncher, List.foldl_map]
  rfl

theorem tells_groupAttacks (ls : List Launcher) (received : List Received) :
    (groupAttacks ls received).Tells (received.getD · {}) (hitsOf ls) := by
  rw [groupAttacks_eq]
  exact (Tells.empty _).recordAll (hitsOf ls)

/-- Grouping turns the attacks of launchers round exactly. The positions come in the order in
which they are first named, launchers in their order and the targets of each in theirs; targets
below zero are left out. The row of a position that is named has all of its attackers in that
order, one for each time it is named, and what the position received, which is nothing beyond
the end of the list. No other position has a row. -/
theorem groupAttacks_inverts (ls : List Launcher) (received : List Received) :
    let attacks := ls.flatMap fun l =>
      (l.targets.filter (0 ≤ ·)).map fun t => (t.toInt.toNat, l.index)
    let g := groupAttacks ls received
    g.order = (attacks.map (·.1)).eraseDups ∧
      ∀ t, let r := received[t]?.getD ⟨0, none, false⟩
        g.get? t = if t ∈ attacks.map (·.1) then
          some
            { target := t
              damage := r.damage
              critical := r.critical
              hit := classify (some r.damage) r.critical
              shielded := r.shielded
              attackers := (attacks.filter (·.1 == t)).map (·.2) }
          else none := by
  intro attacks g
  have reported : attacks = attacksOf ls := by
    simp only [attacks, attacksOf, Launcher.named, filterMap_position?, List.map_map,
      Function.comp_def]
  have tells := tells_groupAttacks ls received
  rw [reported]
  refine ⟨?_, fun t => ?_⟩
  · rw [← targets_hitsOf]
    exact tells.order_eq
  · rw [tells.get?_eq, targets_hitsOf]
    split
    · rw [tally, attackersIn_hitsOf, List.getD_eq_getElem?_getD]
      rfl
    · rfl

/-- The second launcher names a position that the first one named, and one of them twice. -/
example :
    (groupAttacks [⟨0, [4, -1]⟩, ⟨3, [0, 4, 0]⟩] [{ damage := 7 }]).rows.map
        (fun r => (r.target, r.damage, r.attackers))
      = [(4, 0, [0, 3]), (0, 7, [3, 3])] := by
  decide

end Flotilla.Battle
