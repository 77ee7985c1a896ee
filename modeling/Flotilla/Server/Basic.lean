import Flotilla.Battle.AttackTable
import Flotilla.Battle.Feed
import Flotilla.Battle.Summary
import Flotilla.Server.Reply
import Flotilla.Settings.Basic
import Flotilla.Store.Join
import Flotilla.Store.Basic
import Flotilla.Store.Update

/-! # The server

The server holds a store and an archive of battles, and answers requests. Only two
kinds of request change it: a new battle goes into the archive, and a sync updates
the store and, when any item of it was accepted, the snapshot file. -/
namespace Flotilla

open Flotilla.Record Flotilla.Store Flotilla.Battle Flotilla.Server

structure Server where
  store : Store := {}
  archive : Archive := .ofCapacity defaultCapacity
  syncToken : Option String := none
  snapshotPath : Option String := none
  files : Files := {}

namespace Server

/-- A server at its start: the store of the snapshot file, and the battles of the battle
directory as received now. -/
def start (settings : Settings) (files : Files) (now : Instant) : Server :=
  let battles := (settings.battleDirectory.map (Battle.loadAll files)).getD []
  { store := Store.loadOrEmpty files settings.snapshotPath
    archive := battles.foldl (fun a b => (a.insert b now).1) (.ofCapacity settings.archiveCapacity)
    syncToken := settings.syncToken
    snapshotPath := some settings.snapshotPath
    files }

/-- The name under which the service reports its health. -/
def serviceName : String := "fleetview-api"

def serviceVersion : String := "0.1.0"

/-- The health of the service and how much it holds. -/
def healthReply (s : Server) : Reply :=
  .ofMap [
    ("status", .string "ok"),
    ("service", .string serviceName),
    ("version", .string serviceVersion),
    ("ships", .nat s.store.ships.size),
    ("equipment", .nat s.store.equipment.size),
    ("fleets", .nat s.store.fleets.size),
    ("battles", .nat s.archive.size)]

def fleetReply (s : Server) (id : Int64) : Reply :=
  let f := formation s.store.fleets id s.store.combined
  .ofMap [
    ("fleet", f.toJson),
    ("main_ids", int64.list.write f.mainIds),
    ("escort_ids", int64.list.write f.escortIds)]

/-- The joins of ships, by id. -/
def shipsReply (s : Server) (ids : List Int64) : Reply :=
  .of (entriesJson ShipJoin.toJson (s.store.joinShips ids))

def equipmentReply (s : Server) (ids : List Int64) : Reply :=
  .of (Json.ofList EquipmentJoin.toJson (s.store.joinEquipmentList ids))

/-- The list of archived battles, newest first. -/
def battlesReply (s : Server) : Reply :=
  .ofMap [("battles", Json.ofList Archived.toJson s.archive.entries)]

def tablesReply (s : Server) (b : Battle) : Reply :=
  .ofMap [
    ("battle_id", .string b.id),
    ("phases", Json.ofList AttackTable.toJson (attackTables s.store b))]

/-- The reply to a request that asks about an archived battle. -/
def aboutBattle (s : Server) (id : String) (reply : Battle → Reply) : Reply :=
  match s.archive.get? id with
  | some b => reply b
  | none => (Refusal.noBattle id).reply

/-- The reply to a request with a part that may be bad. -/
def whenGood (part : Except BadRequest α) (reply : α → Reply) : Reply :=
  match part with
  | .ok a => reply a
  | .error e => (Refusal.badRequest e).reply

def receive (s : Server) (now : Instant) (body : String) : Server × Reply :=
  match Battle.ofText body with
  | .error e => (s, (Refusal.badBattle e).reply)
  | .ok b =>
    let (archive, displaced) := s.archive.insert b now
    ({ s with archive },
      .ofMap [
        ("status", .string "ok"),
        ("id", .string b.id),
        ("displaced", Json.ofOption (fun d : Battle => .string d.id) displaced)])

/-- Whether a request carries the token that the server asks for; blanks around it make no
difference. -/
def admits (s : Server) (token : Option String) : Bool :=
  match s.syncToken with
  | none => true
  | some wanted => Text.trim (token.getD "").toList == wanted.toList

def readValues : Reader (List Json) :=
  readList fun n =>
    match n.hold (Json.greatestDepth - 1) with
    | .error f => .error (.malformed f)
    | .ok v => .ok v.settled

def updatesAmong (values : List Json) : List Update :=
  values.filterMap fun v => (Update.read v.node).toOption

/-- The files after an attempt to write the snapshot of a store, if there is a path for it. -/
def savedFiles (store : Store) (files : Files) : Option String → Files
  | none => files
  | some path => (store.saveTo files path).1

/-- Applies the updates in a list; elements that are no updates are rejected one by one. -/
def sync (s : Server) (token : Option String) (body : String) : Server × Reply :=
  if !s.admits token then (s, Refusal.badToken.reply)
  else
    match readText? readValues body with
    | .error e => (s, (Refusal.notAList e).reply)
    | .ok values =>
      let updates := updatesAmong values
      let (store, tally) := s.store.applyAll updates
      let files := if 0 < tally.accepted then savedFiles store s.files s.snapshotPath else s.files
      ({ s with store, files },
        .ofMap [
          ("status", .string "ok"),
          ("accepted", .nat tally.accepted),
          ("ignored", .nat tally.ignored),
          ("rejected", .nat (values.length - updates.length))])

/-- The reply to a request that changes nothing. -/
def lookUp (s : Server) (query : List Char) : Route → Reply
  | .health => s.healthReply
  | .fleet text => whenGood (fleetIdOf text) s.fleetReply
  | .ships => whenGood (idsOf query) s.shipsReply
  | .equipment => whenGood (idsOf query) s.equipmentReply
  | .battles => s.battlesReply
  | .summary battleId => s.aboutBattle battleId fun b => .of (summarize s.store b).toJson
  | .tables battleId => s.aboutBattle battleId s.tablesReply
  | .newBattle | .sync => Refusal.noRoute.reply

def respond (s : Server) (now : Instant) (r : Request) : Server × Reply :=
  match r.route? with
  | none => (s, Refusal.noRoute.reply)
  | some .newBattle => s.receive now r.body
  | some .sync => s.sync r.token r.body
  | some route => (s, s.lookUp r.query route)

end Server

end Flotilla
