import Mathlib.Data.List.Nodup
import Mathlib.Data.List.Pairwise
import Flotilla.Proofs.Store.Join
import Flotilla.Store.Audit

/-! # What a clean report says

The audit walks over rosters, ships and equipment by itself; joins look the same records up
again. A report without errors and warnings means that every reference leads to a record and
that no ship stands at two positions, so every join of a ship in a fleet is complete. -/
namespace Flotilla.Store

/-! ## Reports -/

/-- There is nothing worse than information among findings. -/
def Harmless (findings : List Finding) : Prop := ∀ f ∈ findings, f.severity = .info

/-- The report of a store has no error and no warning. -/
def Clean (s : Store) : Prop := countOf .error s.audit = 0 ∧ countOf .warning s.audit = 0

instance (s : Store) : Decidable s.Clean := inferInstanceAs (Decidable (_ ∧ _))

theorem clean_iff_harmless {s : Store} : s.Clean ↔ Harmless s.audit := by
  simp only [Clean, countOf, List.countP_eq_zero, beq_iff_eq, ← forall₂_and, Harmless]
  refine forall₂_congr fun f _ => ?_
  cases f.severity <;> simp

@[simp] theorem harmless_append {xs ys : List Finding} :
    Harmless (xs ++ ys) ↔ Harmless xs ∧ Harmless ys := List.forall_mem_append

@[simp] theorem harmless_flatMap {α : Type} {f : α → List Finding} {xs : List α} :
    Harmless (xs.flatMap f) ↔ ∀ x ∈ xs, Harmless (f x) := List.forall_mem_flatMap

theorem harmless_map {α : Type} {f : α → Finding} {xs : List α}
    (bad : ∀ x, (f x).severity = .error ∨ (f x).severity = .warning) :
    Harmless (xs.map f) ↔ xs = [] := by
  rw [Harmless, List.forall_mem_map, List.eq_nil_iff_forall_not_mem]
  refine forall₂_congr fun x _ => ?_
  rcases bad x with bad | bad <;> simp [bad]

section

variable {c : Prop} [Decidable c] {f : Finding}
  (bad : f.severity = .error ∨ f.severity = .warning)

include bad

theorem harmless_when : Harmless (if c then [f] else []) ↔ ¬c := by
  by_cases h : c <;> rcases bad with bad | bad <;> simp [Harmless, h, bad]

theorem harmless_unless : Harmless (if c then [] else [f]) ↔ c := by
  rw [← ite_not, harmless_when bad, not_not]

end

/-! ## Rosters -/

/-- The ships of a roster. -/
def crew (ids : List Int64) : List Int64 := ids.filter (0 < ·)

@[simp] theorem crew_cons_of_pos {id : Int64} (h : 0 < id) (ids : List Int64) :
    crew (id :: ids) = id :: crew ids := List.filter_cons_of_pos (by simpa using h)

@[simp] theorem crew_cons_of_not {id : Int64} (h : ¬0 < id) (ids : List Int64) :
    crew (id :: ids) = crew ids := List.filter_cons_of_neg (by simpa using h)

@[simp] theorem auditRoster_of_pos (ships : Table Ship) (fleetId : Int64) {id : Int64} (h : 0 < id)
    (position : Nat) (rest : List (Int64 × Nat)) (met : List Int64) :
    auditRoster ships fleetId ((id, position) :: rest) met =
      let after := auditRoster ships fleetId rest (if met.contains id then met else id :: met)
      ((if ships.contains id then [] else [.shipAbsent fleetId position id])
        ++ (if met.contains id then [.shipRepeated fleetId position id] else [])
        ++ after.1, after.2) := by
  rw [auditRoster, if_pos h]

@[simp] theorem auditRoster_of_not (ships : Table Ship) (fleetId : Int64) {id : Int64} (h : ¬0 < id)
    (position : Nat) (rest : List (Int64 × Nat)) (met : List Int64) :
    auditRoster ships fleetId ((id, position) :: rest) met
      = auditRoster ships fleetId rest met := by
  rw [auditRoster, if_neg h]

/-- The ships met behind a roster are those met in front of it and its own. -/
theorem mem_met_auditRoster (ships : Table Ship) (fleetId : Int64) (roster : List (Int64 × Nat))
    (met : List Int64) (k : Int64) :
    k ∈ (auditRoster ships fleetId roster met).2 ↔ k ∈ met ∨ k ∈ crew (roster.map (·.1)) := by
  induction roster generalizing met with
  | nil => simp [auditRoster, crew]
  | cons entry rest ih =>
    obtain ⟨id, position⟩ := entry
    by_cases occupied : 0 < id
    · by_cases again : id ∈ met
      · -- the ship is not added, but it stands among those met before
        simp only [List.map_cons, occupied, auditRoster_of_pos, crew_cons_of_pos, ih,
          List.contains_iff_mem.mpr again, if_true, List.mem_cons]
        constructor
        · exact Or.imp_right .inr
        · rintro (before | rfl | later)
          · exact .inl before
          · exact .inl again
          · exact .inr later
      · simp [occupied, again, ih, or_assoc, or_left_comm]
    · simp [occupied, ih]

/-- A roster is in order when its ships are known, each stands in it once, and none was met
before. -/
theorem harmless_auditRoster (ships : Table Ship) (fleetId : Int64) (roster : List (Int64 × Nat))
    (met : List Int64) :
    Harmless (auditRoster ships fleetId roster met).1 ↔
      (∀ id ∈ crew (roster.map (·.1)), ships.contains id = true ∧ id ∉ met) ∧
        (crew (roster.map (·.1))).Nodup := by
  induction roster generalizing met with
  | nil => simp [auditRoster, crew, Harmless]
  | cons entry rest ih =>
    obtain ⟨id, position⟩ := entry
    by_cases occupied : 0 < id
    · rw [List.map_cons, auditRoster_of_pos ships fleetId occupied, crew_cons_of_pos occupied,
        harmless_append, harmless_append, harmless_unless (.inl rfl), harmless_when (.inr rfl), ih,
        List.forall_mem_cons, List.nodup_cons]
      by_cases again : id ∈ met
      · -- a ship met before is reported, and it is among those that must not have been met
        simp [again]
      · have fresh : met.contains id = false := by simpa using again
        simp only [fresh, Bool.false_eq_true, if_false, List.mem_cons, not_or]
        constructor
        · rintro ⟨⟨known, -⟩, others, once⟩
          exact ⟨⟨⟨known, again⟩, fun k hk => ⟨(others k hk).1, (others k hk).2.2⟩⟩,
            fun here => (others id here).2.1 rfl, once⟩
        · rintro ⟨⟨⟨known, -⟩, others⟩, notLater, once⟩
          exact ⟨⟨known, not_false⟩, fun k hk => ⟨(others k hk).1,
            fun same => notLater (same ▸ hk), (others k hk).2⟩, once⟩
    · simp [occupied, ih]

/-- The ships of all rosters. -/
def crews (fleets : List Fleet) : List Int64 := fleets.flatMap fun f => crew f.shipIds

theorem harmless_auditFleets (ships : Table Ship) (mode : CombinedMode) (fleets : List Fleet)
    (met : List Int64) :
    Harmless (auditFleets ships mode fleets met) ↔
      (∀ f ∈ fleets, f.shipIds.length ≤ usable mode f.id) ∧
        (∀ id ∈ crews fleets, ships.contains id = true ∧ id ∉ met) ∧ (crews fleets).Nodup := by
  induction fleets generalizing met with
  | nil => simp [auditFleets, crews, Harmless]
  | cons fleet rest ih =>
    have ids : fleet.shipIds.zipIdx.map (·.1) = fleet.shipIds := List.zipIdx_map_fst 0 fleet.shipIds
    have roster := harmless_auditRoster ships fleet.id fleet.shipIds.zipIdx met
    have met_ := mem_met_auditRoster ships fleet.id fleet.shipIds.zipIdx met
    rw [ids] at roster met_
    have parts : Harmless (auditFleets ships mode (fleet :: rest) met) ↔
        (fleet.shipIds.length ≤ usable mode fleet.id ∧
          Harmless (auditRoster ships fleet.id fleet.shipIds.zipIdx met).1) ∧
        Harmless (auditFleets ships mode rest
          (auditRoster ships fleet.id fleet.shipIds.zipIdx met).2) := by
      rw [auditFleets, harmless_append, harmless_append, harmless_when (.inr rfl), Nat.not_lt]
    rw [parts, roster, ih, List.forall_mem_cons]
    show _ ↔ _ ∧ (∀ id ∈ crew fleet.shipIds ++ crews rest, _) ∧
      (crew fleet.shipIds ++ crews rest).Nodup
    simp only [List.forall_mem_append, List.nodup_append', met_, not_or, List.Disjoint]
    constructor
    · rintro ⟨⟨fits, own, once⟩, fit, others, onceOthers⟩
      exact ⟨⟨fits, fit⟩, ⟨own, fun k hk => ⟨(others k hk).1, (others k hk).2.1⟩⟩, once,
        onceOthers, fun k here later => (others k later).2.2 here⟩
    · rintro ⟨⟨fits, fit⟩, ⟨own, others⟩, once, onceOthers, apart⟩
      exact ⟨⟨fits, own, once⟩, fit, fun k hk => ⟨(others k hk).1, (others k hk).2,
        fun here => apart here hk⟩, onceOthers⟩

/-! ## Ships, equipment and air bases -/

theorem harmless_auditShip (s : Store) (ship : Ship) :
    Harmless (s.auditShip ship) ↔
      s.shipTemplates.contains ship.templateId = true ∧
        ∀ id ∈ ship.equipped, s.equipment.contains id = true := by
  rw [auditShip, harmless_append, harmless_unless (.inr rfl)]
  rw [harmless_map fun _ => .inl rfl, List.filter_eq_nil_iff]
  simp only [Bool.not_eq_true', Bool.not_eq_false]

theorem harmless_auditEquipment (s : Store) (item : Equipment) :
    Harmless (s.auditEquipment item) ↔ s.equipmentTemplates.contains item.templateId = true :=
  harmless_unless (.inr rfl)

/-- A squadron of unknown equipment is worth no more than information. -/
theorem harmless_auditAirBase (s : Store) (base : AirBase) : Harmless (s.auditAirBase base) := by
  intro f found
  obtain ⟨q, -, rfl⟩ := List.mem_map.mp found
  rfl

/-! ## The whole store -/

/-- Every reference from a roster, a ship or an item leads to a record, rosters fit the mode, and
no ship stands at two positions. -/
structure Consistent (s : Store) : Prop where
  fits : ∀ f ∈ s.fleets.rows, f.shipIds.length ≤ usable s.combined f.id
  ships : ∀ id ∈ crews s.fleets.rows, s.ships.contains id = true
  once : (crews s.fleets.rows).Nodup
  shipTemplates : ∀ ship ∈ s.ships.rows, s.shipTemplates.contains ship.templateId = true
  equipment : ∀ ship ∈ s.ships.rows, ∀ id ∈ ship.equipped, s.equipment.contains id = true
  equipmentTemplates : ∀ item ∈ s.equipment.rows,
    s.equipmentTemplates.contains item.templateId = true

/-- The report is clean exactly when the store is consistent. -/
theorem clean_iff_consistent {s : Store} : s.Clean ↔ s.Consistent := by
  rw [clean_iff_harmless, audit, harmless_append, harmless_append, harmless_append,
    harmless_auditFleets, harmless_flatMap, harmless_flatMap, harmless_flatMap]
  simp only [harmless_auditShip, harmless_auditEquipment, harmless_auditAirBase]
  constructor
  · rintro ⟨⟨⟨⟨fits, ships, once⟩, own⟩, equipmentTemplates⟩, -⟩
    exact ⟨fits, fun id hid => (ships id hid).1, once, fun ship hship => (own ship hship).1,
      fun ship hship => (own ship hship).2, equipmentTemplates⟩
  · intro h
    exact ⟨⟨⟨⟨h.fits, fun id hid => ⟨h.ships id hid, List.not_mem_nil⟩, h.once⟩,
      fun ship hship => ⟨h.shipTemplates ship hship, h.equipment ship hship⟩⟩,
      h.equipmentTemplates⟩, fun _ _ => trivial⟩

/-! ## Positions -/

/-- The id at a position of the roster of a fleet. -/
def rosterAt (s : Store) (fleetId : Int64) (position : Nat) : Option Int64 :=
  (s.fleets.get? fleetId).bind (·.shipIds[position]?)

theorem mem_crew_of_getElem? {ids : List Int64} {position : Nat} {id : Int64}
    (h : ids[position]? = some id) (occupied : 0 < id) : id ∈ crew ids :=
  List.mem_filter.mpr ⟨List.mem_of_getElem? h, by simpa using occupied⟩

/-- Within a roster without repetitions a ship stands at one position. -/
theorem position_unique {ids : List Int64} (once : (crew ids).Nodup) {p q : Nat} {id : Int64}
    (occupied : 0 < id) (hp : ids[p]? = some id) (hq : ids[q]? = some id) : p = q := by
  obtain ⟨pShort, atP⟩ := List.getElem?_eq_some_iff.mp hp
  obtain ⟨qShort, atQ⟩ := List.getElem?_eq_some_iff.mp hq
  have apart := List.pairwise_iff_getElem.mp (List.pairwise_filter.mp once)
  have ship : decide (0 < id) = true := decide_eq_true occupied
  rcases Nat.lt_trichotomy p q with before | same | after
  · exact absurd (atP.trans atQ.symm)
      (apart p q pShort qShort before (atP ▸ ship) (atQ ▸ ship))
  · exact same
  · exact absurd (atQ.trans atP.symm)
      (apart q p qShort pShort after (atQ ▸ ship) (atP ▸ ship))

theorem fleet_unique {fleets : List Fleet} (once : (crews fleets).Nodup) {f g : Fleet}
    (hf : f ∈ fleets) (hg : g ∈ fleets) {id : Int64} (inF : id ∈ crew f.shipIds)
    (inG : id ∈ crew g.shipIds) : f = g := by
  by_contra other
  obtain ⟨-, apart⟩ := List.nodup_flatMap.mp once
  have : Std.Symm (Function.onFun List.Disjoint fun f : Fleet => crew f.shipIds) :=
    ⟨fun _ _ => List.disjoint_symm⟩
  exact apart.forall hf hg other inF inG

/-- In a consistent store a ship stands at one position of one fleet. -/
theorem Consistent.rosterAt_unique {s : Store} (h : s.Consistent) {f g : Int64} {p q : Nat}
    {id : Int64} (occupied : 0 < id) (hf : s.rosterAt f p = some id)
    (hg : s.rosterAt g q = some id) : f = g ∧ p = q := by
  obtain ⟨first, foundFirst, atFirst⟩ := Option.bind_eq_some_iff.mp hf
  obtain ⟨second, foundSecond, atSecond⟩ := Option.bind_eq_some_iff.mp hg
  have memFirst := List.mem_of_find?_eq_some foundFirst
  have same : first = second :=
    fleet_unique h.once memFirst (List.mem_of_find?_eq_some foundSecond)
      (mem_crew_of_getElem? atFirst occupied) (mem_crew_of_getElem? atSecond occupied)
  subst same
  have once := (List.nodup_flatMap.mp h.once).1 first memFirst
  exact ⟨(Table.key_of_get? foundFirst).symm.trans (Table.key_of_get? foundSecond),
    position_unique once occupied atFirst atSecond⟩

/-- A ship in a formation stands in a roster. -/
theorem mem_crews_of_berth {s : Store} {fleetId : Int64} {mode : CombinedMode} {b : Berth}
    (hb : b ∈ (formation s.fleets fleetId mode).berths) {id : Int64} (ship : b.shipId = some id) :
    id ∈ crews s.fleets.rows := by
  unfold formation at hb
  cases found : s.fleets.get? fleetId with
  | none => simp [found, Formation.berths] at hb
  | some roster =>
    have place : b ∈ berthsOf (roster.shipIds.take (usable mode fleetId)) := by
      simpa [found, Formation.berths, List.take_append_drop] using hb
    obtain ⟨⟨k, position⟩, entry, rfl⟩ := List.mem_map.mp place
    have inRoster : k ∈ roster.shipIds :=
      List.mem_of_mem_take (List.fst_mem_of_mem_zipIdx entry)
    obtain ⟨occupied, rfl⟩ : 0 < k ∧ k = id := by simpa [occupant] using ship
    exact List.mem_flatMap.mpr ⟨roster, List.mem_of_find?_eq_some found,
      List.mem_filter.mpr ⟨inRoster, by simpa using occupied⟩⟩

/-! ## Joins -/

/-- A join in which nothing is missing. -/
structure ShipJoin.Complete (j : ShipJoin) : Prop where
  ship : j.ship.isFound = true
  template : j.template.isFound = true
  slots : ∀ ship, j.ship = .found ship → j.slots.map (·.equipmentId) = ship.equipped
  items : ∀ r ∈ j.slots, ∃ item, valueAt? j.items r.equipmentId = some (.found item)
  itemTemplates : ∀ e ∈ j.itemTemplates, e.2.isFound = true
  itemTemplate : ∀ r ∈ j.slots, (j.itemTemplate r.equipmentId).isSome = true

theorem Consistent.equipment_of_slot {s : Store} (h : s.Consistent) {ship : Ship}
    (known : ship ∈ s.ships.rows) {r : SlotRef} (hr : r ∈ slotRefs ship) :
    ∃ item, s.equipment.get? r.equipmentId = some item := by
  have equipped : r.equipmentId ∈ ship.equipped := map_slotRefs ship ▸ List.mem_map_of_mem hr
  exact Option.isSome_iff_exists.mp (h.equipment ship known _ equipped)

theorem Consistent.joinShip_complete {s : Store} (h : s.Consistent) {id : Int64}
    (hid : id ∈ crews s.fleets.rows) : (s.joinShip id).Complete := by
  obtain ⟨ship, found⟩ := Option.isSome_iff_exists.mp (h.ships id hid)
  have known : ship ∈ s.ships.rows := List.mem_of_find?_eq_some found
  have itemKnown {e : Int64} {item : Equipment} (he : s.equipment.get? e = some item) :
      (s.equipmentTemplates.get? item.templateId).isSome :=
    h.equipmentTemplates item (List.mem_of_find?_eq_some he)
  have join : s.joinShip id =
      { shipId := id
        ship := .found ship
        template := .ofOption ship.templateId (s.shipTemplates.get? ship.templateId)
        slots := slotRefs ship
        items := s.itemsOf (slotRefs ship)
        itemTemplates := s.itemTemplatesOf (slotRefs ship) } := by
    rw [joinShip, found]
  constructor
  case ship => rw [join]; rfl
  case template =>
    rw [join, Lookup.isFound_ofOption]
    exact h.shipTemplates ship known
  case slots =>
    rw [join]
    rintro _ ⟨⟩
    exact map_slotRefs ship
  case items =>
    rw [join]
    intro r hr
    obtain ⟨item, he⟩ := h.equipment_of_slot known hr
    refine ⟨item, ?_⟩
    rw [valueAt?_itemsOf, if_pos (List.mem_map_of_mem hr), he]
    rfl
  case itemTemplates =>
    rw [join]
    intro e he
    obtain ⟨item, member, rfl⟩ := mem_itemTemplatesOf he
    obtain ⟨r, -, held⟩ := mem_knownItems.mp member
    rw [Lookup.isFound_ofOption]
    exact itemKnown held
  case itemTemplate =>
    intro r hr
    rw [join] at hr
    have equipped : r.equipmentId ∈ ship.equipped := map_slotRefs ship ▸ List.mem_map_of_mem hr
    obtain ⟨item, he⟩ := h.equipment_of_slot known hr
    rw [itemTemplate_joinShip found equipped, he]
    exact itemKnown he

/-- A store with a clean report is complete for its fleets: in every mode the ships of every
formation join with nothing missing, and none of them stands at two positions. -/
theorem joins_complete_of_clean {s : Store} (h : s.Clean) :
    (∀ fleetId mode, ∀ b ∈ (formation s.fleets fleetId mode).berths, ∀ id, b.shipId = some id →
      (s.joinShip id).Complete) ∧
    ∀ id f g p q, 0 < id → s.rosterAt f p = some id → s.rosterAt g q = some id →
      f = g ∧ p = q := by
  have consistent := clean_iff_consistent.mp h
  exact ⟨fun _ _ _ hb _ ship => consistent.joinShip_complete (mem_crews_of_berth hb ship),
    fun _ _ _ _ _ occupied hf hg => consistent.rosterAt_unique occupied hf hg⟩

/-- Two fleets, the first combined with an escort of one ship, that share an item. -/
def sortie : Store where
  ships := .ofList [
    { id := 1, templateId := 100, slots := [5, 0], expansionSlot := 6 },
    { id := 2, templateId := 100, slots := [5] },
    { id := 3, templateId := 101 }]
  shipTemplates := .ofList [{ id := 100, name := "Fubuki" }, { id := 101, name := "Nagato" }]
  equipment := .ofList [{ id := 5, templateId := 2 }, { id := 6, templateId := 2 }]
  equipmentTemplates := .ofList [{ id := 2, name := "12.7cm Twin Gun Mount" }]
  fleets := .ofList [
    { id := 1, shipIds := [1, -1, -1, -1, -1, -1, 2] },
    { id := 2, shipIds := [3, 0] }]
  combined := .carrierTask

theorem joins_complete_sortie :
    sortie.Clean ∧ (sortie.joinShip 2).Complete ∧
      (∀ f p, sortie.rosterAt f p = some 2 → f = 1 ∧ p = 6) := by
  have clean : sortie.Clean := by decide +kernel
  obtain ⟨joins, unique⟩ := joins_complete_of_clean clean
  have escort : (⟨6, some 2⟩ : Berth) ∈ (formation sortie.fleets 1 .carrierTask).berths := by
    decide +kernel
  exact ⟨clean, joins 1 .carrierTask _ escort 2 rfl,
    fun f p here => unique 2 f 1 p 6 (by decide) here (by decide +kernel)⟩

end Flotilla.Store
