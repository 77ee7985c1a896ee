import Flotilla.Proofs.Store.Lookup
import Flotilla.Store.Join

/-! # What joins hold

The maps of a ship's join are filled slot by slot, one by the ids of the items and one by those
of their templates. Whatever the slots share, each map holds under an id what the store has
under it, for the ids that the slots lead to and for no others. -/
namespace Flotilla.Store

open Flotilla.Record

/-! ## Maps filled one key at a time -/

section Maps

variable {α β : Type}

/-- Entries whose values are told by their keys: the order in which they are put in, and how
often, makes no difference. -/
@[simp] theorem valueAt?_foldl_putEntry (key : α → Int64) (value : Int64 → β) (xs : List α)
    (entries : List (Int64 × β)) (id : Int64) :
    valueAt? (xs.foldl (fun es x => putEntry es (key x) (value (key x))) entries) id
      = if id ∈ xs.map key then some (value id) else valueAt? entries id := by
  induction xs generalizing entries with
  | nil => rfl
  | cons x xs ih =>
    simp only [List.foldl_cons, ih, valueAt?_putEntry, List.map_cons, List.mem_cons]
    -- whatever is put in first under an id, the last one has the value of the id too
    by_cases later : id ∈ xs.map key
    · simp only [later, or_true, if_true]
    · by_cases here : key x = id
      · simp only [later, here, or_false, if_true, if_false]
      · simp only [later, here, Ne.symm here, or_false, if_false]

theorem mem_foldl_putEntry (key : α → Int64) (value : Int64 → β) {xs : List α}
    {entries : List (Int64 × β)} {e : Int64 × β}
    (h : e ∈ xs.foldl (fun es x => putEntry es (key x) (value (key x))) entries) :
    (∃ x ∈ xs, e = (key x, value (key x))) ∨ e ∈ entries := by
  induction xs generalizing entries with
  | nil => exact .inr h
  | cons x xs ih =>
    rcases ih h with ⟨y, hy, same⟩ | before
    · exact .inl ⟨y, List.mem_cons_of_mem x hy, same⟩
    · exact (mem_place before).imp (fun same => ⟨x, List.mem_cons_self, same⟩) id

end Maps

/-! ## Lookups -/

@[simp] theorem Lookup.found?_ofOption {α : Type} (id : Int64) (o : Option α) :
    (Lookup.ofOption id o).found? = o := by
  cases o <;> rfl

@[simp] theorem Lookup.isFound_ofOption {α : Type} (id : Int64) (o : Option α) :
    (Lookup.ofOption id o).isFound = o.isSome := by
  cases o <;> rfl

/-! ## Items of equipment -/

@[simp] theorem equipmentId_joinEquipment (s : Store) (id : Int64) :
    (s.joinEquipment id).equipmentId = id := by
  unfold joinEquipment
  cases s.equipment.get? id <;> rfl

@[simp] theorem item_joinEquipment (s : Store) (id : Int64) :
    (s.joinEquipment id).item = .ofOption id (s.equipment.get? id) := by
  unfold joinEquipment
  cases s.equipment.get? id <;> rfl

theorem template_joinEquipment {s : Store} {id : Int64} {item : Equipment}
    (h : s.equipment.get? id = some item) :
    (s.joinEquipment id).template
      = .ofOption item.templateId (s.equipmentTemplates.get? item.templateId) := by
  rw [joinEquipment, h]

/-! ## Ships -/

/-- The slots of a join name the equipped items in their order. -/
@[simp] theorem map_slotRefs (ship : Ship) :
    (slotRefs ship).map (·.equipmentId) = ship.equipped := by
  have fixed : (ship.slots.zipIdx.map fun p => SlotRef.mk (.fixed p.2) p.1).map
      (·.equipmentId) = ship.slots := by
    rw [List.map_map]
    exact List.zipIdx_map_fst 0 ship.slots
  rw [Ship.equipped, ← fixed]
  show _ = (_ ++ [SlotRef.mk .expansion ship.expansionSlot].map (·.equipmentId)).filter _
  rw [← List.map_append, List.filter_map]
  rfl

@[simp] theorem ship_joinShip (s : Store) (id : Int64) :
    (s.joinShip id).ship = .ofOption id (s.ships.get? id) := by
  unfold joinShip
  cases s.ships.get? id <;> rfl

@[simp] theorem found?_template_joinShip (s : Store) (id : Int64) :
    (s.joinShip id).template.found?
      = (s.ships.get? id).bind fun ship => s.shipTemplates.get? ship.templateId := by
  unfold joinShip
  cases s.ships.get? id with
  | none => rfl
  | some ship => exact Lookup.found?_ofOption _ _

theorem displayName_joinShip (s : Store) (id : Int64) :
    (s.joinShip id).displayName
      = (((s.ships.get? id).bind fun ship => s.shipTemplates.get? ship.templateId).map
          (·.name)).getD unknownName := by
  simp [ShipJoin.displayName]

/-- The map of items holds what the store has under each equipped id. -/
@[simp] theorem valueAt?_itemsOf (s : Store) (slots : List SlotRef) (id : Int64) :
    valueAt? (s.itemsOf slots) id
      = if id ∈ slots.map (·.equipmentId) then some (.ofOption id (s.equipment.get? id))
        else none := by
  rw [← item_joinEquipment]
  exact valueAt?_foldl_putEntry (·.equipmentId) (fun id => (s.joinEquipment id).item) slots [] id

/-- The known items among those that slots refer to. -/
def knownItems (s : Store) (slots : List SlotRef) : List Equipment :=
  slots.filterMap fun r => s.equipment.get? r.equipmentId

theorem itemTemplatesOf_eq (s : Store) (slots : List SlotRef) :
    s.itemTemplatesOf slots
      = (s.knownItems slots).foldl (fun es item => putEntry es item.templateId
          (.ofOption item.templateId (s.equipmentTemplates.get? item.templateId))) [] := by
  rw [knownItems, List.foldl_filterMap]
  refine congrArg (fun step => slots.foldl step []) (funext fun es => funext fun r => ?_)
  dsimp only
  cases h : s.equipment.get? r.equipmentId with
  | none => simp [h, Lookup.ofOption]
  | some item => simp [template_joinEquipment h, h, Lookup.ofOption]

/-- The map of item templates holds what the store has under the template of each known item. -/
@[simp] theorem valueAt?_itemTemplatesOf (s : Store) (slots : List SlotRef) (id : Int64) :
    valueAt? (s.itemTemplatesOf slots) id
      = if id ∈ (s.knownItems slots).map (·.templateId)
          then some (.ofOption id (s.equipmentTemplates.get? id)) else none := by
  rw [itemTemplatesOf_eq]
  exact valueAt?_foldl_putEntry Equipment.templateId
    (fun id => Lookup.ofOption id (s.equipmentTemplates.get? id)) _ [] id

theorem mem_itemTemplatesOf {s : Store} {slots : List SlotRef}
    {e : Int64 × Lookup EquipmentTemplate} (h : e ∈ s.itemTemplatesOf slots) :
    ∃ item ∈ s.knownItems slots,
      e = (item.templateId, .ofOption item.templateId (s.equipmentTemplates.get? item.templateId)) := by
  rw [itemTemplatesOf_eq] at h
  exact (mem_foldl_putEntry Equipment.templateId
    (fun id => Lookup.ofOption id (s.equipmentTemplates.get? id)) h).resolve_right List.not_mem_nil

theorem mem_knownItems {s : Store} {slots : List SlotRef} {item : Equipment} :
    item ∈ s.knownItems slots ↔
      ∃ r ∈ slots, s.equipment.get? r.equipmentId = some item := by
  rw [knownItems, List.mem_filterMap]

/-- The template of an equipped item comes through both maps as it would from the tables. -/
theorem itemTemplate_joinShip {s : Store} {id : Int64} {ship : Ship}
    (h : s.ships.get? id = some ship) {e : Int64} (equipped : e ∈ ship.equipped) :
    (s.joinShip id).itemTemplate e
      = (s.equipment.get? e).bind fun item => s.equipmentTemplates.get? item.templateId := by
  have slots : e ∈ (slotRefs ship).map (·.equipmentId) := by rwa [map_slotRefs]
  obtain ⟨r, hr, slot⟩ := List.mem_map.mp slots
  rw [joinShip, h]
  show (do
    let item ← (← valueAt? (s.itemsOf (slotRefs ship)) e).found?
    (← valueAt? (s.itemTemplatesOf (slotRefs ship)) item.templateId).found?) = _
  simp only [valueAt?_itemsOf, slots, if_true]
  cases hitem : s.equipment.get? e with
  | none => rfl
  | some item =>
    have known : item ∈ s.knownItems (slotRefs ship) := mem_knownItems.mpr ⟨r, hr, slot ▸ hitem⟩
    show (do (← valueAt? (s.itemTemplatesOf (slotRefs ship)) item.templateId).found?) = _
    simp [List.mem_map_of_mem known]

end Flotilla.Store
