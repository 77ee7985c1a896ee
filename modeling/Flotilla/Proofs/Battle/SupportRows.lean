import Flotilla.Proofs.Battle.Accounts
import Flotilla.Proofs.Battle.Strikes

/-! # The rows of support phases

A barrage puts a row behind those of the air strike for each position that it hits and that the
strike does not show, and never touches attackers. So the rows of a barrage alone are the
positions with damage or a flag, as far as its damage values reach: a flag behind the last of
them is lost. And a row of a support phase has the launching ships of its air strike as
attackers where the strike shows the position, and none elsewhere. -/
namespace Flotilla.Battle

open TargetGroups Flotilla.Record

/-! ## The positions of a barrage -/

namespace TargetGroups

theorem order_mergeCounted (g : TargetGroups) (r : Received) (k : Nat) :
    (g.mergeCounted (r, k)).order
      = g.order ++ if r.counts && (g.get? k).isNone then [k] else [] := by
  unfold mergeCounted
  cases r.counts with
  | false => simp
  | true =>
    rw [if_pos rfl, merge_eq_put]
    cases known : g.get? k with
    | some row => simp [order_put_of_some known]
    | none => simp [order_put_of_none known]

/-- The targets of a barrage that count and have no row yet, from a position on. -/
def fresh (g : TargetGroups) (rs : List Received) (k : Nat) : List Nat :=
  ((rs.zipIdx k).filter fun x => x.1.counts && (g.get? x.2).isNone).map (·.2)

theorem order_foldl_mergeCounted (rs : List Received) (k : Nat) (g : TargetGroups) :
    ((rs.zipIdx k).foldl mergeCounted g).order = g.order ++ g.fresh rs k := by
  induction rs generalizing k g with
  | nil => simp [fresh]
  | cons r rs ih =>
    -- what is merged first stands in front of all later targets
    have later : (g.mergeCounted (r, k)).fresh rs (k + 1) = g.fresh rs (k + 1) := by
      refine congrArg (List.map _) (List.filter_congr fun x hx => ?_)
      have behind : k ≠ x.2 := Nat.ne_of_lt (List.le_snd_of_mem_zipIdx hx)
      simp [behind]
    rw [List.zipIdx_cons, List.foldl_cons, ih, later, order_mergeCounted, List.append_assoc]
    simp only [fresh, List.zipIdx_cons, List.filter_cons]
    split <;> simp

theorem order_addBarrage (g : TargetGroups) (b : Barrage) :
    (addBarrage g b).order = g.order ++ g.fresh b.targets 0 := by
  rw [addBarrage_eq, order_foldl_mergeCounted]

theorem ascending_fresh (g : TargetGroups) (rs : List Received) (k : Nat) :
    (g.fresh rs k).Pairwise (· < ·) := by
  have places : ((rs.zipIdx k).map (·.2)).Pairwise (· < ·) := by
    rw [List.zipIdx_map_snd]
    exact List.pairwise_lt_range' 1
  exact places.sublist (List.filter_sublist.map _)

end TargetGroups

/-! ## Barrages as the feed gives them -/

theorem damageAt_beyond {damage : List Float} {p : Nat} (h : damage.length ≤ p) :
    damageAt damage p = {} := by
  rw [damageAt, List.getD_eq_getElem?_getD, List.getElem?_eq_none h]
  decide +kernel

namespace BarrageLists

variable {l : BarrageLists} {p : Nat}

/-- Whether a barrage hits a position, by its damage or by its flag. -/
def hits (l : BarrageLists) (position : Nat) : Bool :=
  0 < (damageAt l.damage position).amount || 0 < l.critical.getD position 0

theorem counts_receivedAt : (receivedAt l.damage l.critical p).counts = l.hits p := by
  have flag : l.critical[p]?.any (0 < ·) = decide (0 < l.critical.getD p 0) := by
    rw [List.getD_eq_getElem?_getD]
    cases l.critical[p]? <;> rfl
  exact congrArg (_ || ·) flag

theorem getElem?_decode :
    l.decode.targets[p]?
      = if p < l.damage.length then some (receivedAt l.damage l.critical p) else none := by
  rw [decode, List.getElem?_map]
  split
  · rename_i reached
    rw [List.getElem?_range reached, Option.map_some]
  · rename_i beyond
    rw [List.getElem?_eq_none (by rw [List.length_range]; omega), Option.map_none]

theorem hits_beyond (h : l.damage.length ≤ p) : l.hits p = decide (0 < l.critical.getD p 0) := by
  rw [hits, damageAt_beyond h]
  rfl

/-- The groups of a support phase that has a barrage only. -/
theorem groupSupport_barrage (b : Barrage) :
    groupSupport { barrage := some b } = addBarrage {} b := rfl

theorem get?_groupSupport :
    (groupSupport { barrage := some l.decode }).get? p
      = if p < l.damage.length ∧ l.hits p then
          some (.first p (receivedAt l.damage l.critical p)) else none := by
  by_cases reached : p < l.damage.length
  · simp [groupSupport_barrage, getElem?_decode, withBarrage, counts_receivedAt, reached]
  · simp [groupSupport_barrage, getElem?_decode, reached]

theorem inStep_groupSupport (b : Barrage) : (groupSupport { barrage := some b }).InStep :=
  InStep.empty.addBarrage b

theorem mem_order_groupSupport :
    p ∈ (groupSupport { barrage := some l.decode }).order
      ↔ p < l.damage.length ∧ l.hits p := by
  rw [(inStep_groupSupport _).held, get?_groupSupport]
  split <;> simp_all

/-- The rows miss nothing that the barrage hits just when no flag stands behind the last damage
value. -/
theorem rows_complete_iff :
    (∀ p, p ∈ (groupSupport { barrage := some l.decode }).order ↔ l.hits p)
      ↔ ∀ p, l.damage.length ≤ p → ¬ 0 < l.critical.getD p 0 := by
  simp only [mem_order_groupSupport]
  constructor
  · intro complete p beyond flag
    have hit : l.hits p := by rw [hits_beyond beyond]; simpa using flag
    exact absurd ((complete p).mpr hit).1 (Nat.not_lt.mpr beyond)
  · intro within p
    refine ⟨fun h => h.2, fun hit => ⟨?_, hit⟩⟩
    by_contra beyond
    rw [hits_beyond (Nat.not_lt.mp beyond)] at hit
    exact within p (Nat.not_lt.mp beyond) (by simpa using hit)

end BarrageLists

/-- A barrage without an air strike has a row for each position that it hits, as far as its
damage values reach. The rows come in ascending order of positions, and each has what the barrage
did at its position and no attackers. Positions that only a flag marks, behind the last damage
value, have none, and no others are lost. -/
theorem barrage_rows (l : BarrageLists) :
    let g := groupSupport { barrage := some l.decode }
    g.order.Pairwise (· < ·) ∧ g.rows.map (·.target) = g.order ∧
      (∀ p, p ∈ g.order ↔ p < l.damage.length ∧
        (0 < (damageAt l.damage p).amount ∨ 0 < l.critical.getD p 0)) ∧
      (∀ row ∈ g.rows,
        row.damage = (damageAt l.damage row.target).amount ∧
          row.critical = l.critical[row.target]? ∧
          row.hit = classify (some row.damage) row.critical ∧
          row.shielded = (damageAt l.damage row.target).shielded ∧ row.attackers = []) ∧
      ((∀ p, p ∈ g.order ↔ 0 < (damageAt l.damage p).amount ∨ 0 < l.critical.getD p 0)
        ↔ ∀ p, l.damage.length ≤ p → l.critical.getD p 0 ≤ 0) := by
  intro g
  have inStep : g.InStep := BarrageLists.inStep_groupSupport _
  have hits : ∀ p, l.hits p ↔ 0 < (damageAt l.damage p).amount ∨ 0 < l.critical.getD p 0 := by
    simp [BarrageLists.hits]
  refine ⟨?_, inStep.targets_rows, fun p => ?_, fun row hrow => ?_, ?_⟩
  · show (groupSupport _).order.Pairwise _
    rw [BarrageLists.groupSupport_barrage, order_addBarrage]
    exact ascending_fresh {} _ 0
  · rw [← hits]
    exact BarrageLists.mem_order_groupSupport
  · obtain ⟨t, -, ht⟩ := mem_rows.mp hrow
    obtain rfl := (inStep.stands t row ht).target
    rw [BarrageLists.get?_groupSupport] at ht
    split at ht
    · obtain same := Option.some.inj ht
      rw [← same]
      exact ⟨rfl, rfl, rfl, rfl, rfl⟩
    · cases ht
  · simp only [← hits, ← Int64.not_lt]
    exact BarrageLists.rows_complete_iff

/-- A barrage of the feed with a flag more than it has damage values. -/
def sparseText : String := "\x7b\"damage\":[0,7],\"critical\":[0,2,1]\x7d"

/-- Its lists. -/
def sparseLists : BarrageLists := { damage := [0.0, 7.0], critical := [0, 2, 1] }

theorem barrage_rows_sparse :
    let g := groupSupport { barrage := some sparseLists.decode }
    (1 ∈ g.order ∧ 0 ∉ g.order ∧ 2 ∉ g.order) ∧
      ∃ row ∈ g.rows, row.target = 1 ∧ row.damage = 7 ∧ row.critical = some 2 := by
  obtain ⟨-, targets, shown, rows, -⟩ := barrage_rows sparseLists
  intro g
  have here : 1 ∈ g.order := (shown 1).mpr (by decide +kernel)
  refine ⟨⟨here, ?_, ?_⟩, ?_⟩
  · exact fun h => absurd ((shown 0).mp h) (by decide +kernel)
  · exact fun h => absurd ((shown 2).mp h) (by decide +kernel)
  · rw [← targets] at here
    obtain ⟨row, hrow, target⟩ := List.mem_map.mp here
    obtain ⟨damage, flag, -⟩ := rows row hrow
    rw [target] at damage flag
    exact ⟨row, hrow, target, damage.trans (by decide +kernel), flag⟩

/-- A feed with two support phases: the barrage alone, and an air strike with a launching ship
together with a barrage. -/
def expeditionText : String :=
  "\x7b\"id\":\"1\",\"day\":\x7b\"phases\":[\x7b\"kind\":\"support\",\"barrage\":" ++ sparseText ++
    "\x7d,\x7b\"kind\":\"support\",\"air\":\x7b\"plane_from\":[3],\"total_damages\":[5]," ++
    "\"bak_flag\":[1]\x7d,\"barrage\":\x7b\"damage\":[0,7]\x7d\x7d]\x7d\x7d"

/-- The second support phase of the feed. -/
def escorted : SupportPhase where
  air := some ⟨none, [3], [], [⟨0, none, 5, true, false, false, .normal⟩]⟩
  barrage := some ⟨[{}, { damage := 7 }]⟩

/-- The battle that the feed gives. -/
def expedition : Battle where
  id := "1"
  day := some
    { phases := [
        .support { barrage := some ⟨[{ critical := some 0 }, { damage := 7, critical := some 2 }]⟩ },
        .support escorted] }

theorem ofText_expedition : ofText expeditionText = .ok expedition := by decide +kernel

/-- The last position of the barrage has a flag and no row. -/
theorem flag_without_row_of_expeditionText :
    ∃ l b, readText? BarrageLists.layout.read sparseText = .ok l ∧ 0 < l.critical.getD 2 0 ∧
      ofText expeditionText = .ok b ∧
      b.phases[0]? = some (.support { barrage := some l.decode }) ∧
      2 ∉ (groupSupport { barrage := some l.decode }).order := by
  have read : (readText? BarrageLists.layout.read sparseText).toOption.map
      (fun l => (l.critical, l.decode))
        = some ([0, 2, 1], ⟨[{ critical := some 0 }, { damage := 7, critical := some 2 }]⟩) := by
    decide +kernel
  cases hl : readText? BarrageLists.layout.read sparseText with
  | error e => rw [hl] at read; cases read
  | ok l =>
    rw [hl] at read
    obtain ⟨flags, targets⟩ := Prod.mk.inj (Option.some.inj read)
    refine ⟨l, expedition, rfl, ?_, ofText_expedition, ?_, ?_⟩
    · rw [flags]
      decide
    · rw [targets]
      rfl
    · rw [targets]
      decide

/-! ## The attackers of air strikes -/

namespace TargetGroups

/-- The attackers that groups give for a position; none when it is not among them. -/
def attackersAt (g : TargetGroups) (target : Nat) : List Nat :=
  ((g.get? target).map (·.attackers)).getD []

theorem Tells.attackersAt {g : TargetGroups} {received : Nat → Received}
    {history : List (Nat × Option Nat)} (h : g.Tells received history) (t : Nat) :
    g.attackersAt t = attackersIn history t := by
  have row := congrArg TargetRow.attackers (h.getD_get? t)
  rw [TargetGroups.attackersAt]
  cases known : g.get? t with
  | none => rwa [known] at row
  | some r => rwa [known] at row

theorem InStep.attackers_eq {g : TargetGroups} (h : g.InStep) {row : TargetRow}
    (hrow : row ∈ g.rows) : row.attackers = g.attackersAt row.target := by
  obtain ⟨t, -, ht⟩ := mem_rows.mp hrow
  rw [(h.stands t row ht).target, attackersAt, ht]
  rfl

end TargetGroups

theorem attackers_withBarrage (row : Option TargetRow) (t : Nat) (r : Received) :
    ((withBarrage row t r).map (·.attackers)).getD [] = (row.map (·.attackers)).getD [] := by
  unfold withBarrage
  split
  · cases row <;> rfl
  · rfl

theorem attackersAt_addBarrage (g : TargetGroups) (b : Barrage) (t : Nat) :
    (addBarrage g b).attackersAt t = g.attackersAt t := by
  rw [attackersAt, get?_addBarrage]
  cases b.targets[t]? with
  | none => rfl
  | some r => exact attackers_withBarrage _ t r

theorem AirStrike.Decoded.attackersAt_groupStrike {s : AirStrike} (h : s.Decoded) (t : Nat) :
    (groupStrike s).attackersAt t = if t ∈ s.nameable then s.planeFrom else [] := by
  rw [h.tells_groupStrike.attackersAt, h.attackersIn_history]

/-! ## The attackers of support phases -/

namespace SupportPhase

/-- The launching ships that the air strike of a support phase has for a position. -/
def shipsAgainst (p : SupportPhase) (target : Nat) : List Nat :=
  match p.air with
  | none => []
  | some s => if target ∈ s.struck ∧ target < 2 ^ 63 then s.planeFrom else []

/-- No ship is named: the air strike, if there is one, gives no launching ship, or strikes no
position that a ship can name. -/
def NamesNoShip (p : SupportPhase) : Prop :=
  ∀ s ∈ p.air, s.planeFrom = [] ∨ ∀ t ∈ s.struck, 2 ^ 63 ≤ t

variable {p : SupportPhase}

theorem attackersAt_groupSupport (h : (Phase.support p).Decoded) (t : Nat) :
    (groupSupport p).attackersAt t = p.shipsAgainst t := by
  have air : ((p.air.map groupStrike).getD {}).attackersAt t = p.shipsAgainst t := by
    unfold shipsAgainst
    cases hs : p.air with
    | none => rfl
    | some s =>
      simp only [← AirStrike.mem_nameable]
      exact (h.1 s hs).attackersAt_groupStrike t
  unfold groupSupport
  cases p.barrage with
  | none => exact air
  | some b => exact (attackersAt_addBarrage _ b t).trans air

theorem namesNoShip_iff : p.NamesNoShip ↔ ∀ t, p.shipsAgainst t = [] := by
  unfold NamesNoShip shipsAgainst
  cases p.air with
  | none => simp
  | some s =>
    simp only [Option.mem_some_iff, forall_eq', ite_eq_right_iff, and_imp]
    constructor
    · rintro (none_ | beyond) t ht below
      · exact none_
      · exact absurd (beyond t ht) (Nat.not_le.mpr below)
    · intro h
      by_cases hfrom : s.planeFrom = []
      · exact .inl hfrom
      · exact .inr fun t ht => Nat.not_lt.mp fun below => hfrom (h t ht below)

theorem rows_name_no_ship_iff (h : (Phase.support p).Decoded) (inStep : (groupSupport p).InStep) :
    (∀ row ∈ (groupSupport p).rows, row.attackers = []) ↔ p.NamesNoShip := by
  rw [namesNoShip_iff]
  constructor
  · intro none_ t
    rw [← attackersAt_groupSupport h, attackersAt]
    cases known : (groupSupport p).get? t with
    | none => rfl
    | some row => exact none_ row (inStep.mem_rows_of_get? known)
  · intro none_ row hrow
    rw [inStep.attackers_eq hrow, attackersAt_groupSupport h, none_]

end SupportPhase

theorem exportRows_support {t : AttackTable} {g : TargetGroups}
    (h : t.body = .grouped g {} [] []) : t.exportRows = groupRows t .friendly g := by
  rw [AttackTable.exportRows, h]
  exact List.append_nil _

/-- The rows of a support phase name the launching ships of its air strike as attackers, all of
them at each position that the strike shows, and no ship elsewhere; the exported lines have the
same attackers. So no ship is named at all just when the strike gives no launching ship or
strikes nothing. A launching ship names positions as 64-bit integers. -/
theorem support_attackers (s : Store) {text : String} {b : Battle} (h : ofText text = .ok b)
    {i : Nat} {p : SupportPhase} (hp : b.phases[i]? = some (.support p)) :
    ∃ t g, (attackTables s b)[i]? = some t ∧ t.body = .grouped g {} [] [] ∧
      (∀ row ∈ g.rows, row.attackers = p.shipsAgainst row.target) ∧
      (t.exportRows.map fun r => (r.target, r.attackers))
        = (g.rows.map fun row => (row.target, row.attackers)) ∧
      ((∀ row ∈ g.rows, row.attackers = []) ↔ p.NamesNoShip) := by
  have decoded := (decoded_of_ofText h).phases _ (List.mem_of_getElem? hp)
  have inStep : (groupSupport p).InStep :=
    (decoded.inStep s (Store.formation s.fleets b.fleetId b.combined) b.areaId).1
  obtain ⟨t, ht, body⟩ := table_of_phase s hp
  refine ⟨t, groupSupport p, ht, body, fun row hrow => ?_, ?_,
    SupportPhase.rows_name_no_ship_iff decoded inStep⟩
  · rw [inStep.attackers_eq hrow, SupportPhase.attackersAt_groupSupport decoded]
  · rw [exportRows_support body, groupRows, List.map_map]
    rfl

theorem support_attackers_expedition :
    ofText expeditionText = .ok expedition ∧
      expedition.phases[1]? = some (.support escorted) ∧
      ∃ t g, (attackTables {} expedition)[1]? = some t ∧ t.body = .grouped g {} [] [] ∧
        ∀ row ∈ g.rows, row.attackers = if row.target = 0 then [3] else [] := by
  have phase : expedition.phases[1]? = some (.support escorted) := rfl
  obtain ⟨t, g, ht, body, attackers, -⟩ := support_attackers {} ofText_expedition phase
  refine ⟨ofText_expedition, phase, t, g, ht, body, fun row hrow => ?_⟩
  rw [attackers row hrow]
  by_cases first : row.target = 0
  · rw [first]
    rfl
  · simp [SupportPhase.shipsAgainst, escorted, AirStrike.struck, AirStrike.shownTargets,
      StrikeEntry.shown, first]

/-- The first row of the second support phase names a ship, and so does its exported line. -/
theorem ship_named_of_expeditionText :
    ∃ b t, ofText expeditionText = .ok b ∧ t ∈ attackTables {} b ∧ t.label = "support" ∧
      ∃ r ∈ t.exportRows, r.target = 0 ∧ r.attackers = [3] := by
  refine ⟨expedition, _, ofText_expedition, List.mem_cons_of_mem _ List.mem_cons_self, rfl, ?_⟩
  decide +kernel

end Flotilla.Battle
