import Flotilla.Store.Join

/-! # Planes that flew

An attack names the templates of its squadrons, not the planes themselves. The pool
of an attack holds the planes that could have flown in it, and every squadron takes
the first plane of its template that no squadron before it has taken. -/
namespace Flotilla.Battle

open Flotilla.Store

/-- A plane that could have flown. -/
structure PlaneSlot where
  equipmentId : Int64
  templateId : Int64
deriving DecidableEq, Repr

/-- Takes the first plane of a template out of a pool. -/
def takePlane (templateId : Int64) : List PlaneSlot → Option (PlaneSlot × List PlaneSlot)
  | [] => none
  | p :: ps =>
    if p.templateId = templateId then some (p, ps)
    else (takePlane templateId ps).map fun (found, rest) => (found, p :: rest)

/-- The planes of squadrons in order. A template of zero or below is no squadron, and a
squadron for which no plane is left is passed over. -/
def resolvePlanes : List Int64 → List PlaneSlot → List Int64
  | [], _ => []
  | templateId :: rest, pool =>
    if 0 < templateId then
      match takePlane templateId pool with
      | some (plane, pool) => plane.equipmentId :: resolvePlanes rest pool
      | none => resolvePlanes rest pool
    else resolvePlanes rest pool

/-- The plane of an item of equipment, if the item is known. -/
def planeSlot? (s : Store) (equipmentId : Int64) : Option PlaneSlot :=
  (s.equipment.get? equipmentId).map fun item => ⟨equipmentId, item.templateId⟩

/-- The squadrons of the air bases of an area, by base and slot. -/
def landBasePool (s : Store) (areaId : Int64) : List PlaneSlot :=
  (((s.airBasesIn areaId).flatMap (·.squadrons)).filter fun q => 0 < q.equipmentId).filterMap
    fun q => planeSlot? s q.equipmentId

/-- The distinct positions of a list in ascending order. -/
def distinctPositions (positions : List Nat) : List Nat :=
  positions.foldr (place fun p => p) []

/-- Whether a plane's template is unknown or an aircraft. -/
def mayFly (s : Store) (plane : PlaneSlot) : Bool :=
  (s.equipmentTemplates.get? plane.templateId).all (·.isPlane)

/-- The planes on the ship at a position, the expansion slot last. -/
def planesAt (s : Store) (f : Formation) (position : Nat) : List PlaneSlot :=
  match (f.shipAt position).bind s.ships.get? with
  | none => []
  | some ship => (ship.equipped.filterMap (planeSlot? s)).filter (mayFly s)

/-- The planes on the ships that launched, by position. -/
def carrierPool (s : Store) (f : Formation) (planeFrom : List Nat) : List PlaneSlot :=
  (distinctPositions planeFrom).flatMap (planesAt s f)

end Flotilla.Battle
