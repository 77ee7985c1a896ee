import Flotilla.Proofs.Store.Join

/-! # How a ship is fitted out

The slots of a ship's join are its occupied slots, in order. The maps behind them are filled slot
by slot, and slots may share an item as items may share a template. Still each map holds every id
that the level in front of it leads to once, with what the store has under it, and the way through
both maps is the way through the tables. -/
namespace Flotilla.Store

open Flotilla.Record

/-! ## Occupied slots -/

/-- The ship has an item in a slot. An id that is not positive stands for an empty slot. -/
def Ship.HasIn (ship : Ship) (id : Int64) : Slot → Prop
  | .fixed index => ship.slots[index]? = some id ∧ 0 < id
  | .expansion => ship.expansionSlot = id ∧ 0 < id

/-- One slot comes in front of another: fixed slots by their indices, the expansion slot last. -/
def Slot.Before : Slot → Slot → Prop
  | .fixed i, .fixed j => i < j
  | .fixed _, .expansion => True
  | .expansion, _ => False

theorem mem_slotRefs {ship : Ship} {r : SlotRef} :
    r ∈ slotRefs ship ↔ ship.HasIn r.equipmentId r.slot := by
  obtain ⟨slot, id⟩ := r
  simp only [slotRefs, List.mem_filter, List.mem_append, List.mem_map, Prod.exists,
    List.mem_zipIdx_iff_getElem?, List.mem_singleton, decide_eq_true_eq, SlotRef.mk.injEq]
  cases slot with
  | fixed index => simp [Ship.HasIn]
  | expansion => simp [Ship.HasIn, eq_comm]

/-- The slots of a join are in order. -/
theorem before_slotRefs (ship : Ship) :
    (slotRefs ship).Pairwise fun r r' => r.slot.Before r'.slot := by
  have indices : ship.slots.zipIdx.Pairwise fun p q => p.2 < q.2 := by
    have ascending : (ship.slots.zipIdx.map (·.2)).Pairwise (· < ·) := by
      rw [List.zipIdx_map_snd]
      exact List.pairwise_lt_range' 1
    exact List.pairwise_map.mp ascending
  refine List.Pairwise.filter _ (List.pairwise_append.mpr ⟨?_, List.pairwise_singleton _ _, ?_⟩)
  · exact List.pairwise_map.mpr indices
  · intro fixed hfixed last hlast
    obtain ⟨p, -, rfl⟩ := List.mem_map.mp hfixed
    obtain rfl := List.mem_singleton.mp hlast
    trivial

/-! ## Maps of lookups -/

section Mirrors

variable {α : Type}

theorem ascending_foldl_putEntry {β γ : Type} (key : γ → Int64) (value : γ → β) (xs : List γ)
    {entries : List (Int64 × β)} (h : Ascending (·.1) entries) :
    Ascending (·.1) (xs.foldl (fun es x => putEntry es (key x) (value x)) entries) := by
  induction xs generalizing entries with
  | nil => exact h
  | cons x xs ih => exact ih (h.place (key x, value x))

/-- In an ascending list of pairs a value is found under each key that it stands with. -/
theorem mem_iff_valueAt? {β : Type} {entries : List (Int64 × β)} (h : Ascending (·.1) entries)
    {id : Int64} {b : β} : (id, b) ∈ entries ↔ valueAt? entries id = some b := by
  have distinct : (entries.map (·.1)).Nodup := List.pairwise_map.mpr (h.imp Int64.ne_of_lt)
  rw [valueAt?, Option.map_eq_some_iff]
  constructor
  · exact fun member => ⟨_, find?_of_mem distinct member, rfl⟩
  · rintro ⟨e, found, rfl⟩
    have key : e.1 = id := by simpa using List.find?_some found
    exact key ▸ List.mem_of_find?_eq_some found

/-- The records that were found among lookups. -/
def foundIn (entries : List (Int64 × Lookup α)) : List α := entries.filterMap (·.2.found?)

theorem mem_foundIn {entries : List (Int64 × Lookup α)} {a : α} :
    a ∈ foundIn entries ↔ ∃ id, (id, .found a) ∈ entries := by
  rw [foundIn, List.mem_filterMap]
  constructor
  · rintro ⟨⟨id, lookup⟩, member, found⟩
    cases lookup with
    | missing _ => cases found
    | found b =>
      obtain rfl := Option.some.inj found
      exact ⟨id, member⟩
  · rintro ⟨id, member⟩
    exact ⟨_, member, rfl⟩

variable [Keyed α]

/-- A map from ids to lookups that holds some ids and no others, each of them once: found with the
record that a table has under it, and otherwise missing with the id itself. -/
structure Mirrors (t : Table α) (ids : List Int64) (entries : List (Int64 × Lookup α)) : Prop where
  once : Ascending (·.1) entries
  keys : ∀ id, id ∈ entries.map (·.1) ↔ id ∈ ids
  found : ∀ id a, (id, .found a) ∈ entries ↔ id ∈ ids ∧ t.get? id = some a
  missing : ∀ id reference, (id, .missing reference) ∈ entries ↔
    id ∈ ids ∧ t.get? id = none ∧ reference = some id

theorem mirrors_of_valueAt? {t : Table α} {ids : List Int64} {entries : List (Int64 × Lookup α)}
    (ascending : Ascending (·.1) entries)
    (h : ∀ id, valueAt? entries id
      = if id ∈ ids then some (.ofOption id (t.get? id)) else none) :
    Mirrors t ids entries := by
  have member {id : Int64} {l : Lookup α} :
      (id, l) ∈ entries ↔ id ∈ ids ∧ Lookup.ofOption id (t.get? id) = l := by
    rw [mem_iff_valueAt? ascending, h, Option.ite_none_right_eq_some, Option.some_inj]
  constructor
  case once => exact ascending
  case keys =>
    intro id
    rw [List.mem_map]
    constructor
    · rintro ⟨e, held, rfl⟩
      exact (member.mp held).1
    · intro named
      exact ⟨_, member.mpr ⟨named, rfl⟩, rfl⟩
  case found =>
    intro id a
    rw [member]
    cases t.get? id <;> simp [Lookup.ofOption]
  case missing =>
    intro id reference
    rw [member]
    cases t.get? id <;> simp [Lookup.ofOption, eq_comm]

end Mirrors

/-! ## Items and their templates -/

theorem mirrors_itemsOf (s : Store) (slots : List SlotRef) :
    Mirrors s.equipment (slots.map (·.equipmentId)) (s.itemsOf slots) :=
  mirrors_of_valueAt? (ascending_foldl_putEntry _ _ slots .nil) (valueAt?_itemsOf s slots)

/-- The items found under the slots are those that the store knows. -/
theorem mem_foundIn_itemsOf {s : Store} {slots : List SlotRef} {item : Equipment} :
    item ∈ foundIn (s.itemsOf slots) ↔ item ∈ s.knownItems slots := by
  rw [mem_foundIn, mem_knownItems]
  constructor
  · rintro ⟨id, held⟩
    obtain ⟨equipped, known⟩ := ((mirrors_itemsOf s slots).found id item).mp held
    obtain ⟨r, hr, rfl⟩ := List.mem_map.mp equipped
    exact ⟨r, hr, known⟩
  · rintro ⟨r, hr, known⟩
    exact ⟨_, ((mirrors_itemsOf s slots).found _ _).mpr ⟨List.mem_map_of_mem hr, known⟩⟩

theorem mirrors_itemTemplatesOf (s : Store) (slots : List SlotRef) :
    Mirrors s.equipmentTemplates ((foundIn (s.itemsOf slots)).map (·.templateId))
      (s.itemTemplatesOf slots) := by
  refine mirrors_of_valueAt? ?_ fun id => ?_
  · rw [itemTemplatesOf_eq]
    exact ascending_foldl_putEntry _ _ _ .nil
  · rw [valueAt?_itemTemplatesOf]
    simp only [List.mem_map, mem_foundIn_itemsOf]

/-! ## Ships -/

/-- The join of a known ship, level by level: its template, its occupied slots in order, an entry
for each item in a slot, one for the template of each item found, and under each slot the template
that the tables lead to. -/
structure ShipJoin.Fits (j : ShipJoin) (s : Store) (vessel : Ship) : Prop where
  ship : j.ship = .found vessel
  template : j.template = .ofOption vessel.templateId (s.shipTemplates.get? vessel.templateId)
  slots : ∀ r, r ∈ j.slots ↔ vessel.HasIn r.equipmentId r.slot
  inOrder : j.slots.Pairwise fun r r' => r.slot.Before r'.slot
  items : Mirrors s.equipment (j.slots.map (·.equipmentId)) j.items
  itemTemplates :
    Mirrors s.equipmentTemplates ((foundIn j.items).map (·.templateId)) j.itemTemplates
  itemTemplate : ∀ r ∈ j.slots, j.itemTemplate r.equipmentId
    = (s.equipment.get? r.equipmentId).bind fun item => s.equipmentTemplates.get? item.templateId

@[simp] theorem shipId_joinShip (s : Store) (id : Int64) : (s.joinShip id).shipId = id := by
  unfold joinShip
  cases s.ships.get? id <;> rfl

theorem joinShip_of_get? {s : Store} {id : Int64} {ship : Ship} (h : s.ships.get? id = some ship) :
    s.joinShip id =
      { shipId := id
        ship := .found ship
        template := .ofOption ship.templateId (s.shipTemplates.get? ship.templateId)
        slots := slotRefs ship
        items := s.itemsOf (slotRefs ship)
        itemTemplates := s.itemTemplatesOf (slotRefs ship) } := by
  rw [joinShip, h]

theorem fits_joinShip {s : Store} {id : Int64} {ship : Ship} (h : s.ships.get? id = some ship) :
    (s.joinShip id).Fits s ship := by
  have templates : ∀ r ∈ slotRefs ship, (s.joinShip id).itemTemplate r.equipmentId
      = (s.equipment.get? r.equipmentId).bind fun item =>
          s.equipmentTemplates.get? item.templateId :=
    fun r hr => itemTemplate_joinShip h (map_slotRefs ship ▸ List.mem_map_of_mem hr)
  rw [joinShip_of_get? h] at templates ⊢
  exact {
    ship := rfl
    template := rfl
    slots := fun _ => mem_slotRefs
    inOrder := before_slotRefs ship
    items := mirrors_itemsOf s _
    itemTemplates := mirrors_itemTemplatesOf s _
    itemTemplate := templates }

/-- The join of a ship is complete and exact at every level, whatever the store lacks. Of an unknown
ship there is nothing but its id. -/
theorem joinShip_exact (s : Store) (id : Int64) :
    (s.joinShip id).shipId = id ∧
      match s.ships.get? id with
      | none =>
        (s.joinShip id).ship = .missing (some id) ∧ (s.joinShip id).template = .missing none ∧
          (s.joinShip id).slots = [] ∧ (s.joinShip id).items = [] ∧
          (s.joinShip id).itemTemplates = []
      | some ship => (s.joinShip id).Fits s ship := by
  refine ⟨shipId_joinShip s id, ?_⟩
  cases known : s.ships.get? id with
  | none =>
    rw [joinShip, known]
    exact ⟨rfl, rfl, rfl, rfl, rfl⟩
  | some ship => exact fits_joinShip known

/-! ## Several ships -/

theorem ascending_joinShips (s : Store) (ids : List Int64) : Ascending (·.1) (s.joinShips ids) :=
  ascending_foldl_putEntry (fun id => id) s.joinShip ids .nil

/-- Each id that is given, and no other, leads to the join of its ship. -/
theorem mem_joinShips {s : Store} {ids : List Int64} {id : Int64} {j : ShipJoin} :
    (id, j) ∈ s.joinShips ids ↔ id ∈ ids ∧ s.joinShip id = j := by
  rw [mem_iff_valueAt? (ascending_joinShips s ids), joinShips,
    valueAt?_foldl_putEntry (fun id => id) s.joinShip, List.map_id']
  exact Option.ite_none_right_eq_some.trans (and_congr_right' Option.some_inj)

end Flotilla.Store
