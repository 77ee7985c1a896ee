import Mathlib.Control.Monad.Basic
import Flotilla.Proofs.Files
import Flotilla.Proofs.Record.Codec
import Flotilla.Proofs.Store.Order
import Flotilla.Store.Basic

/-! # Snapshots are read back

The codec of every record of the store is lawful, and so is that of snapshots. Since a
store that was read, and any store that updates lead to from there, has its air bases
in order, its snapshot is read back as just that store. -/
namespace Flotilla.Store

open Flotilla.Record

/-! ## Records -/

theorem Stat.codec_lawful : Stat.codec.Lawful where
  plain s := ⟨int64_lawful.plain s.effective, int64_lawful.plain s.base, trivial⟩
  read s := by
    have effective := int64_lawful.read s.effective
    have base := int64_lawful.read s.base
    change readInt64 (int64.write s.effective).tree = _ at effective
    change readInt64 (int64.write s.base).tree = _ at base
    change Stat.read (.list [(int64.write s.effective).tree, (int64.write s.base).tree] .closed) = _
    simp only [Stat.read, readPlaces, Field.needs, effective, base, Except.map]
    rfl

theorem option_int64_lawful : int64.option.Lawful :=
  int64_lawful.option nofun

theorem Ship.codec_lawful : Ship.codec.Lawful :=
  codecOf_lawful (by decide) fun _ =>
    .needs int64_lawful <| .needs int64_lawful <| .default int64_lawful <|
    .needs int64_lawful <| .needs int64_lawful <|
    .default Stat.codec_lawful <| .default Stat.codec_lawful <|
    .default Stat.codec_lawful <| .default Stat.codec_lawful <|
    .default Stat.codec_lawful <| .default Stat.codec_lawful <|
    .default Stat.codec_lawful <| .default Stat.codec_lawful <|
    .default int64_lawful.list <| .default int64_lawful <|
    .default int64_lawful.list <| .default int64_lawful <| .done _

theorem ShipTemplate.codec_lawful : ShipTemplate.codec.Lawful :=
  codecOf_lawful (by decide) fun _ =>
    .needs int64_lawful <| .needs text_lawful <| .default text_lawful <|
    .default int64_lawful <| .default int64_lawful <| .default count_lawful <|
    .default int64_lawful.list <| .done _

theorem Equipment.codec_lawful : Equipment.codec.Lawful :=
  codecOf_lawful (by decide) fun _ =>
    .needs int64_lawful <| .needs int64_lawful <| .default int64_lawful <|
    .default option_int64_lawful <| .default option_int64_lawful <|
    .default bool_lawful <| .done _

theorem EquipmentTemplate.codec_lawful : EquipmentTemplate.codec.Lawful :=
  codecOf_lawful (by decide) fun _ =>
    .needs int64_lawful <| .needs text_lawful <| .default int64_lawful.list <|
    .default int64_lawful <| .default int64_lawful <| .default int64_lawful <|
    .default int64_lawful <| .default int64_lawful <| .default int64_lawful <| .done _

theorem Fleet.codec_lawful : Fleet.codec.Lawful :=
  codecOf_lawful (by decide) fun _ =>
    .needs int64_lawful <| .default text_lawful <| .default int64_lawful.list <| .done _

theorem CombinedMode.codec_lawful : CombinedMode.codec.Lawful :=
  int64_lawful.via CombinedMode.ofCode_code

theorem Squadron.codec_lawful : Squadron.codec.Lawful :=
  codecOf_lawful (by decide) fun _ =>
    .needs int64_lawful <| .needs int64_lawful <| .default int64_lawful <| .done _

theorem AirBase.codec_lawful : AirBase.codec.Lawful :=
  codecOf_lawful (by decide) fun _ =>
    .needs int64_lawful <| .needs int64_lawful <| .default text_lawful <|
    .default Squadron.codec_lawful.list <| .done _

/-! ## Snapshots -/

theorem table_lawful {α : Type} [Keyed α] {c : Codec α} (h : c.Lawful) : (table c).Lawful :=
  h.list.via Table.ofList_rows

theorem snapshot_lawful : snapshot.Lawful :=
  codecOf_lawful (by decide) fun _ =>
    .default (table_lawful Ship.codec_lawful) <|
    .default (table_lawful ShipTemplate.codec_lawful) <|
    .default (table_lawful Equipment.codec_lawful) <|
    .default (table_lawful EquipmentTemplate.codec_lawful) <|
    .default (table_lawful Fleet.codec_lawful) <|
    .default CombinedMode.codec_lawful <| .default AirBase.codec_lawful.list <| .done _

/-- The snapshot of a store with its air bases in order is read back as the store. -/
theorem Arranged.ofText_toText {s : Store} (h : s.Arranged) : ofText s.toText = .ok s := by
  rw [ofText, toText, snapshot_lawful.readText?_pretty]
  show Except.ok { s with airBases := arrange s.airBases } = _
  rw [h]

/-- A store that was saved is loaded from the file. -/
theorem Arranged.load_saved {s : Store} (h : s.Arranged) {files files' : Files} {path : String}
    (saved : s.saveTo files path = (files', .ok ())) : load files' path = .ok s := by
  rw [load, Files.read_save saved]
  simp only [h.ofText_toText]

theorem arranged_of_ofText {text : String} {s : Store} (h : ofText text = .ok s) : s.Arranged := by
  unfold ofText at h
  cases hread : readText? snapshot.read text with
  | error e => rw [hread] at h; cases h
  | ok s' =>
    rw [hread] at h
    cases h
    exact arrange_arrange s'.airBases

/-- Whatever updates are applied to an accepted snapshot, the snapshot of the result is read
back as the result. -/
theorem ofText_toText_applyAll {text : String} {s : Store} (h : ofText text = .ok s)
    (us : List Update) : ofText (s.applyAll us).1.toText = .ok (s.applyAll us).1 :=
  ((arranged_of_ofText h).applyAll us).ofText_toText

/-- A snapshot whose air bases are out of order. -/
def basesText : String := "[[],[],[],[],[],3,[[2,1],[1,1]]]"

/-- The store of that snapshot. -/
def bases : Store where
  combined := .transport
  airBases := [{ areaId := 1, baseId := 1 }, { areaId := 2, baseId := 1 }]

theorem ofText_bases : ofText basesText = .ok bases := by decide +kernel

/-- Squadrons out of order and integers at the ends of their ranges. -/
theorem ofText_toText_bases :
    let us : List Update :=
      [.airBases [{ areaId := 1, baseId := 1, squadrons := [⟨2, 7, 18⟩, ⟨1, Int64.minValue, 0⟩] }],
       .shipTemplates [{ id := Int64.maxValue, slotCount := UInt64.ofNat (UInt64.size - 1) }]]
    ofText (bases.applyAll us).1.toText = .ok (bases.applyAll us).1 :=
  ofText_toText_applyAll ofText_bases _

end Flotilla.Store
