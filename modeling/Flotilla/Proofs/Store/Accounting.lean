import Flotilla.Proofs.Store.Keys
import Flotilla.Proofs.Store.Update

/-! # Accounts of batches

A batch is made of items: single records, single ids to take out, patches and settings of the
mode. Delivered one by one they leave the same store and get the same tally, which counts each
of them once. Whether an item is ignored is told by the store that those in front of it leave;
an ignored item leaves that store as it is, so the items that are heeded do alone what the
batch does. -/
namespace Flotilla

open Flotilla.Store

/-! ## Tallies -/

namespace Tally

@[simp] theorem zero_add (a : Tally) : {} + a = a := congrArg₂ mk (Nat.zero_add _) (Nat.zero_add _)

theorem add_assoc (a b c : Tally) : a + b + c = a + (b + c) :=
  congrArg₂ mk (Nat.add_assoc _ _ _) (Nat.add_assoc _ _ _)

@[simp] theorem all_add (m n : Nat) : all m + all n = all (m + n) := rfl

end Tally

/-! ## Items -/

/-- The items of an update, each as an update of its own. -/
def Update.items : Update → List Update
  | .ships records => records.map fun r => .ships [r]
  | .shipTemplates records => records.map fun r => .shipTemplates [r]
  | .equipment records => records.map fun r => .equipment [r]
  | .equipmentRemoved ids => ids.map fun id => .equipmentRemoved [id]
  | .equipmentTemplates records => records.map fun r => .equipmentTemplates [r]
  | .fleets records => records.map fun r => .fleets [r]
  | .airBases records => records.map fun b => .airBases [b]
  | u => [u]

/-- An update that is accepted or ignored as a whole, by any store. -/
def Update.Single (u : Update) : Prop := ∀ s : Store, ∃ accepted, (s.apply u).2 = .one accepted

theorem Update.single_of_mem_items {u v : Update} (h : v ∈ u.items) : v.Single := by
  intro s
  cases u with
  | shipPatch id fields =>
    obtain rfl := List.mem_singleton.mp h
    exact patch_single Ship.codec s.ships id fields
  | fleetPatch id fields =>
    obtain rfl := List.mem_singleton.mp h
    exact patch_single Fleet.codec s.fleets id fields
  | equipmentRemoved ids =>
    obtain ⟨id, _, rfl⟩ := List.mem_map.mp h
    exact ⟨s.equipment.contains id, rfl⟩
  | combinedFlag value =>
    obtain rfl := List.mem_singleton.mp h
    exact ⟨true, rfl⟩
  | _ =>
    obtain ⟨r, _, rfl⟩ := List.mem_map.mp h
    exact ⟨true, rfl⟩

theorem single_of_mem_flatMap {us : List Update} (u : Update)
    (h : u ∈ us.flatMap Update.items) : u.Single := by
  obtain ⟨v, _, hu⟩ := List.mem_flatMap.mp h
  exact Update.single_of_mem_items hu

namespace Store

/-! ## Items one by one -/

@[simp] theorem applyAll_cons (s : Store) (u : Update) (us : List Update) :
    s.applyAll (u :: us) = (((s.apply u).1.applyAll us).1,
      (s.apply u).2 + ((s.apply u).1.applyAll us).2) := rfl

@[simp] theorem applyAll_singleton (s : Store) (u : Update) : s.applyAll [u] = s.apply u := rfl

theorem applyAll_append (s : Store) (us vs : List Update) :
    s.applyAll (us ++ vs) = (((s.applyAll us).1.applyAll vs).1,
      (s.applyAll us).2 + ((s.applyAll us).1.applyAll vs).2) := by
  induction us generalizing s with
  | nil => exact Prod.ext rfl (Tally.zero_add _).symm
  | cons u us ih => simp [ih, Tally.add_assoc]

/-- Updates of lists that do what those of the single elements do one after the other. -/
structure Serial {β : Type} (update : List β → Update) : Prop where
  nil : ∀ {s : Store}, s.Arranged → s.apply (update []) = (s, {})
  cons : ∀ (s : Store) b bs, s.apply (update (b :: bs)) = s.applyAll [update [b], update bs]

theorem Serial.applyAll_map {β : Type} {update : List β → Update} (h : Serial update) {s : Store}
    (hs : s.Arranged) (bs : List β) :
    s.applyAll (bs.map fun b => update [b]) = s.apply (update bs) := by
  induction bs generalizing s with
  | nil => exact (h.nil hs).symm
  | cons b bs ih =>
    rw [List.map_cons, applyAll_cons, ih (hs.apply _)]
    exact (h.cons s b bs).symm

/-- Updates of which every item is accepted are serial when their effects are. -/
theorem serial_of_all {β : Type} {update : List β → Update}
    (all : ∀ s bs, (apply s (update bs)).2 = .all bs.length)
    (nil : ∀ s : Store, s.Arranged → (s.apply (update [])).1 = s)
    (cons : ∀ s b bs, (apply s (update (b :: bs))).1
      = ((apply s (update [b])).1.apply (update bs)).1) : Serial update where
  nil {s} hs := Prod.ext (nil s hs) (all s [])
  cons s b bs := by
    refine Prod.ext (cons s b bs) ?_
    rw [applyAll_cons, applyAll_singleton, all, all, all]
    simp [Nat.add_comm]

theorem serial_equipmentRemoved : Serial .equipmentRemoved where
  nil _ := rfl
  cons _ _ _ := rfl

/-- Bases that come one by one are arranged after each of them, which leaves what arranging them
at the end leaves. -/
theorem serial_airBases : Serial .airBases := by
  refine serial_of_all (fun _ _ => rfl) (fun s hs => ?_) (fun s b bs => ?_)
  · exact hs.apply_of_none_accepted (u := .airBases []) rfl
  · refine eq_of_content (fun c => ?_) (.inr ⟨arrange_arrange _, arrange_arrange _⟩)
    simp only [content_apply]
    cases c with
    | airBase area base =>
      simp only [Update.effect, Effect.run_adding, lastBase?_cons b bs, lastBase?_cons b []]
      cases lastBase? bs area base with
      | none => rfl
      | some last => split <;> rfl
    | _ => rfl

theorem Arranged.applyAll_items {s : Store} (hs : s.Arranged) (u : Update) :
    s.applyAll u.items = s.apply u := by
  cases u with
  | shipPatch id fields => rfl
  | fleetPatch id fields => rfl
  | combinedFlag value => rfl
  | equipmentRemoved ids => exact serial_equipmentRemoved.applyAll_map hs ids
  | airBases records => exact serial_airBases.applyAll_map hs records
  | _ =>
    refine Serial.applyAll_map ?_ hs _
    exact serial_of_all (fun _ _ => rfl) (fun _ _ => rfl) fun _ _ _ => rfl

/-- A batch does what its items do one by one. -/
theorem Arranged.applyAll_flatMap_items {s : Store} (hs : s.Arranged) (us : List Update) :
    s.applyAll (us.flatMap Update.items) = s.applyAll us := by
  induction us generalizing s with
  | nil => rfl
  | cons u us ih =>
    simp [applyAll_append, hs.applyAll_items, ih (hs.apply u)]

/-! ## Items that are heeded -/

/-- The updates of a batch of which nothing is ignored when their turn comes. -/
def unignored (s : Store) : List Update → List Update
  | [] => []
  | u :: us => (if (s.apply u).2.ignored = 0 then [u] else []) ++ (s.apply u).1.unignored us

/-- The ids that are those of a record when their turn to be taken out comes. -/
def found (t : Table Equipment) : List Int64 → List Int64
  | [] => []
  | id :: ids => (if t.contains id then [id] else []) ++ found (t.erase id) ids

/-- What is left of an update without the items of it that a store ignores. -/
def heededOf (s : Store) : Update → List Update
  | .equipmentRemoved ids => [.equipmentRemoved (found s.equipment ids)]
  | u => if (s.apply u).2.ignored = 0 then [u] else []

/-- What is left of a batch without the items of it that are ignored when their turn comes. -/
def heeded (s : Store) : List Update → List Update
  | [] => []
  | u :: us => s.heededOf u ++ (s.apply u).1.heeded us

@[simp] theorem unignored_append (s : Store) (us vs : List Update) :
    s.unignored (us ++ vs) = s.unignored us ++ (s.applyAll us).1.unignored vs := by
  induction us generalizing s with
  | nil => rfl
  | cons u us ih =>
    rw [List.cons_append, unignored, unignored, ih, List.append_assoc]
    rfl

theorem unignored_map {β : Type} {update : List β → Update}
    (heard : ∀ (s : Store) b, (s.apply (update [b])).2.ignored = 0) (s : Store) (bs : List β) :
    s.unignored (bs.map fun b => update [b]) = bs.map fun b => update [b] := by
  induction bs generalizing s with
  | nil => rfl
  | cons b bs ih => simp [unignored, heard, ih]

theorem unignored_removals (s : Store) (ids : List Int64) :
    s.unignored (ids.map fun id => .equipmentRemoved [id])
      = (found s.equipment ids).map fun id => .equipmentRemoved [id] := by
  induction ids generalizing s with
  | nil => rfl
  | cons id ids ih =>
    have tally : (s.apply (.equipmentRemoved [id])).2 = .one (s.equipment.contains id) := rfl
    rw [List.map_cons, unignored, ih, found, List.map_append, tally]
    cases s.equipment.contains id <;> rfl

/-- What is heeded of an update are those of its items that are not ignored one by one. -/
theorem items_heededOf (s : Store) (u : Update) :
    (s.heededOf u).flatMap Update.items = s.unignored u.items := by
  cases u with
  | equipmentRemoved ids =>
    show Update.items (.equipmentRemoved (found s.equipment ids)) ++ [] = _
    rw [List.append_nil]
    exact (unignored_removals s ids).symm
  | shipPatch id fields =>
    simp only [heededOf, unignored, Update.items, List.append_nil]
    split <;> rfl
  | fleetPatch id fields =>
    simp only [heededOf, unignored, Update.items, List.append_nil]
    split <;> rfl
  | combinedFlag value => rfl
  | _ =>
    rw [Update.items, unignored_map (fun _ _ => rfl)]
    exact List.append_nil _

theorem Arranged.items_heeded {s : Store} (hs : s.Arranged) (us : List Update) :
    (s.heeded us).flatMap Update.items = s.unignored (us.flatMap Update.items) := by
  induction us generalizing s with
  | nil => rfl
  | cons u us ih =>
    simp [heeded, items_heededOf, hs.applyAll_items, ih (hs.apply u)]

/-! ## Accounts -/

/-- Each of some single items is counted once. -/
theorem tally_total {us : List Update} (single : ∀ u ∈ us, u.Single) (s : Store) :
    (s.applyAll us).2.accepted + (s.applyAll us).2.ignored = us.length := by
  induction us generalizing s with
  | nil => rfl
  | cons u us ih =>
    obtain ⟨first, rest⟩ := List.forall_mem_cons.mp single
    obtain ⟨accepted, tally⟩ := first s
    have one : (Tally.one accepted).accepted + (Tally.one accepted).ignored = 1 := by
      cases accepted <;> rfl
    have others := ih rest (s.apply u).1
    rw [applyAll_cons, Tally.add_accepted, Tally.add_ignored, tally, List.length_cons]
    omega

/-- The items that are not ignored leave the store that all of them leave, and are all
accepted. -/
theorem Arranged.applyAll_unignored {s : Store} (hs : s.Arranged) {us : List Update}
    (single : ∀ u ∈ us, u.Single) :
    s.applyAll (s.unignored us) = ((s.applyAll us).1, .all (s.applyAll us).2.accepted) := by
  induction us generalizing s with
  | nil => rfl
  | cons u us ih =>
    obtain ⟨first, rest⟩ := List.forall_mem_cons.mp single
    obtain ⟨accepted, tally⟩ := first s
    have others := ih (hs.apply u) rest
    rw [unignored, applyAll_cons, Tally.add_accepted, tally]
    cases accepted with
    | true =>
      have heard : (Tally.one true).ignored = 0 := rfl
      rw [if_pos heard, List.singleton_append, applyAll_cons, others, tally]
      rfl
    | false =>
      -- the item is ignored, so the others find the store that it found
      have same : (s.apply u).1 = s := hs.apply_of_none_accepted (congrArg (·.accepted) tally)
      rw [same] at others ⊢
      rw [if_neg (by decide), List.nil_append, others]
      simp [Tally.one]

/-- The account of a batch that a store gets: its items are counted, and those that are ignored
change nothing. -/
structure Account (s : Store) (us : List Update) : Prop where
  /-- The items do one by one what the batch does. -/
  items : s.applyAll (us.flatMap Update.items) = s.applyAll us
  /-- Each of them is counted once. -/
  total : (s.applyAll us).2.accepted + (s.applyAll us).2.ignored
    = (us.flatMap Update.items).length
  /-- An item is accepted, or it is ignored and leaves the store as it finds it. -/
  each : ∀ front u back, us.flatMap Update.items = front ++ u :: back →
    ((s.applyAll front).1.apply u).2 = .one true ∨
      (s.applyAll front).1.apply u = ((s.applyAll front).1, .one false)
  /-- What is heeded of the batch has the items that are not ignored. -/
  items_heeded : (s.heeded us).flatMap Update.items = s.unignored (us.flatMap Update.items)
  /-- It leaves the same store, and as many items are accepted, with none ignored. -/
  heeded : s.applyAll (s.heeded us) = ((s.applyAll us).1, .all (s.applyAll us).2.accepted)
  /-- A batch of which nothing is accepted changes nothing. -/
  unchanged : (s.applyAll us).2.accepted = 0 → (s.applyAll us).1 = s

theorem Arranged.account {s : Store} (hs : s.Arranged) (us : List Update) : Account s us where
  items := hs.applyAll_flatMap_items us
  total := by
    rw [← hs.applyAll_flatMap_items us]
    exact tally_total single_of_mem_flatMap s
  each front u back split_ := by
    have member : u ∈ us.flatMap Update.items := by simp [split_]
    obtain ⟨accepted, tally⟩ := single_of_mem_flatMap u member (s.applyAll front).1
    cases accepted with
    | true => exact .inl tally
    | false =>
      have arranged := hs.applyAll front
      exact .inr (Prod.ext (arranged.apply_of_none_accepted (congrArg (·.accepted) tally)) tally)
  items_heeded := hs.items_heeded us
  heeded := by
    rw [← hs.applyAll_flatMap_items (s.heeded us), hs.items_heeded,
      hs.applyAll_unignored single_of_mem_flatMap, hs.applyAll_flatMap_items]
  unchanged := hs.applyAll_of_none_accepted

/-- Every batch that a store gets has its account, whatever batches it got before. -/
theorem batch_accounts {start : Store} (h : start.Fresh) (before us : List Update) :
    Account (start.applyAll before).1 us :=
  (h.arranged.applyAll before).account us

/-- A batch that takes a record out twice, patches a ship before and after it comes, and has a
patch that is refused. -/
theorem batch_accounts_mixed :
    let s := (applyAll {} [.equipment [{ id := 5 }]]).1
    let us : List Update := [.equipmentRemoved [5, 5, 6], .shipPatch 8 [("level", .int 2)],
      .ships [{ id := 8 }], .shipPatch 8 [("level", .int 3)], .shipPatch 8 [("level", .null)],
      .combinedFlag .carrierTask]
    Fresh {} ∧ Account s us ∧ (s.applyAll us).2 = ⟨4, 4⟩ ∧ (s.heeded us).length = 4 := by
  intro s us
  have fresh : Fresh {} := .inl rfl
  have tally : (s.applyAll us).2 = ⟨4, 4⟩ := by decide +kernel
  have kept : (s.heeded us).length = 4 := by decide +kernel
  exact ⟨fresh, batch_accounts fresh _ us, tally, kept⟩

end Store

end Flotilla
