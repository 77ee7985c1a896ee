import Flotilla.Proofs.Server.Gate
import Flotilla.Proofs.Store.Fitting
import Flotilla.Proofs.Text.Decimal
import Flotilla.Proofs.Text.Pieces

/-! # Queries that list ids

A client writes ids in decimal with commas between them, and puts the list behind the parameters
it has otherwise. The server reads back the ids that were written, in their order; blanks around
an id and items with nothing in them make no difference. It refuses a list just when an item in it
is no 64-bit integer. -/
namespace Flotilla

/-! ## Blanks -/

namespace Text

theorem isBlank_of_isDigit {c : Char} (h : c.isDigit = true) : isBlank c = false := by
  obtain ⟨low, high⟩ : 48 ≤ c.toNat ∧ c.toNat ≤ 57 := Char.isDigit_iff_toNat.mp h
  simp only [isBlank, Bool.or_eq_false_iff, Bool.and_eq_false_iff, decide_eq_false_iff_not,
    beq_eq_false_iff_ne]
  omega

/-- What stands in front of a character that is not blank is not trimmed at the end. -/
theorem trimEnd_append_cons {c : Char} (h : isBlank c = false) (p cs : List Char) :
    trimEnd (p ++ c :: cs) = p ++ c :: trimEnd cs := by
  show (p ++ c :: cs).rdropWhile isBlank = p ++ c :: cs.rdropWhile isBlank
  rw [List.append_cons p c cs, List.append_cons p c (cs.rdropWhile isBlank), rdropWhile_append]
  split
  · rename_i blank
    rw [blank, List.append_nil, List.rdropWhile_concat_neg isBlank p c (by simp [h])]
  · rfl

section

variable {bs : List Char} (blank : ∀ c ∈ bs, isBlank c = true)

include blank

theorem trim_append_blank (cs : List Char) : trim (cs ++ bs) = trim cs := by
  have back : bs.rdropWhile isBlank = [] := List.rdropWhile_eq_nil_iff.mpr blank
  show ((cs ++ bs).dropWhile isBlank).rdropWhile isBlank
    = (cs.dropWhile isBlank).rdropWhile isBlank
  rw [List.dropWhile_append]
  split
  · rename_i none_
    rw [List.isEmpty_iff.mp none_, List.dropWhile_eq_nil_iff.mpr blank]
  · rw [rdropWhile_append, if_pos back]

theorem trim_blank_append (cs : List Char) : trim (bs ++ cs) = trim cs :=
  congrArg trimEnd (List.dropWhile_append_of_pos blank)

end

theorem trim_trimEnd (cs : List Char) : trim (trimEnd cs) = trim cs := by
  have blank : ∀ c ∈ cs.rtakeWhile isBlank, isBlank c = true := fun c => List.mem_rtakeWhile_imp
  have whole : trimEnd cs ++ cs.rtakeWhile isBlank = cs := List.rdropWhile_append_rtakeWhile ..
  rw [← trim_append_blank blank, whole]

theorem trim_of_not_blank {cs : List Char} (h : ∀ c ∈ cs, isBlank c = false) : trim cs = cs := by
  have dark {edge : Option Char} (member : ∀ c, edge = some c → c ∈ cs) :
      edge.any isBlank = false := by
    cases edge with
    | none => rfl
    | some c => exact h c (member c rfl)
  exact trim_eq_self.mpr
    ⟨dark fun _ => List.mem_of_head?, dark fun _ => List.mem_of_getLast?⟩

/-- Trimming a joined text at its end makes no difference to its pieces once these are trimmed. -/
theorem map_trim_splitOn {separator : Char} (dark : isBlank separator = false)
    {pieces : List (List Char)} (free : ∀ p ∈ pieces, separator ∉ p) (nonempty : pieces ≠ []) :
    ((trimEnd ([separator].intercalate pieces)).splitOn separator).map trim = pieces.map trim := by
  induction pieces with
  | nil => exact absurd rfl nonempty
  | cons p rest ih =>
    obtain ⟨freeFirst, freeRest⟩ := List.forall_mem_cons.mp free
    cases rest with
    | nil =>
      have free : separator ∉ trimEnd p := fun h => freeFirst ((List.rdropWhile_prefix ..).subset h)
      rw [List.intercalate_singleton, List.splitOn_eq_singleton free]
      exact congrArg ([·]) (trim_trimEnd p)
    | cons q rest =>
      rw [List.intercalate_cons_cons, List.append_assoc, List.singleton_append,
        trimEnd_append_cons dark, List.splitOn_append_cons_self_of_not_mem freeFirst,
        List.map_cons, ih freeRest (List.cons_ne_nil q rest)]
      rfl

end Text

namespace Server

/-! ## Ids that are read -/

theorem readIds_ofInt64 (ids : List Int64) :
    readIds (ids.map fun id => (Text.ofInt64 id).toList) = .ok ids := by
  induction ids with
  | nil => rfl
  | cons id ids ih =>
    rw [List.map_cons, readIds, Text.int64?_ofInt64, ih]
    rfl

/-- One item that is no id spoils the list. -/
theorem readIds_eq_error {items : List (List Char)} :
    (∃ cause, readIds items = .error cause) ↔ ∃ item ∈ items, Text.int64? item = none := by
  induction items with
  | nil => simp [readIds]
  | cons item rest ih =>
    rw [readIds, List.exists_mem_cons_iff, ← ih]
    cases Text.int64? item with
    | none => simp
    | some id => cases readIds rest <;> simp [Except.map]

/-- The list of ids in a query is the one behind the first parameter that names it. -/
theorem idsText_eq {others : List (List Char)} {list : List Char}
    (apart : ∀ p ∈ others, '&' ∉ p) (unlisted : ∀ p ∈ others, ¬idsKey <+: Text.trim p)
    (whole : '&' ∉ list) :
    idsText (['&'].intercalate (others ++ [idsKey ++ list])) = Text.trimEnd list := by
  have pieces : (['&'].intercalate (others ++ [idsKey ++ list])).splitOn '&'
      = others ++ [idsKey ++ list] := by
    refine List.splitOn_intercalate '&' ?_ (by simp)
    rw [List.forall_mem_append, List.forall_mem_singleton]
    exact ⟨apart, by simpa [idsKey] using whole⟩
  have trimmed : Text.trim (idsKey ++ list) = idsKey ++ Text.trimEnd list := by
    show Text.trimEnd ("ids".toList ++ '=' :: list) = _
    rw [Text.trimEnd_append_cons (by decide)]
    rfl
  have passed : (others.findSome? fun p => idsKey.isPrefixOf? (Text.trim p)) = none :=
    List.findSome?_eq_none_iff.mpr fun p hp => Text.isPrefixOf?_eq_none (unlisted p hp)
  have found := List.isPrefixOf?_eq_some_iff_append_eq.mpr (Eq.refl (idsKey ++ Text.trimEnd list))
  rw [idsText, pieces, List.findSome?_append, passed, Option.none_or, List.findSome?_singleton,
    trimmed, found, Option.getD_some]

/-- What is read from a query is what stands in the items of its list. -/
theorem idsOf_eq {others items : List (List Char)}
    (apart : ∀ p ∈ others, '&' ∉ p) (unlisted : ∀ p ∈ others, ¬idsKey <+: Text.trim p)
    (whole : ∀ item ∈ items, '&' ∉ item) (single : ∀ item ∈ items, ',' ∉ item) :
    idsOf (['&'].intercalate (others ++ [idsKey ++ [','].intercalate items]))
      = readIds ((items.map Text.trim).filter (!·.isEmpty)) := by
  have joined : '&' ∉ [','].intercalate items := by
    intro h
    rcases Text.mem_intercalate h with comma | ⟨item, hitem, h⟩
    · exact absurd comma (by decide)
    · exact whole item hitem h
  rw [idsOf, idsText_eq apart unlisted joined]
  by_cases none_ : items = []
  · -- the empty text is one empty item, which is passed over
    subst none_
    rfl
  · rw [Text.map_trim_splitOn (by decide) single none_]

/-! ## Views of records by id -/

/-- A view of the records with some ids. -/
inductive IdsView where
  | ships
  | equipment

namespace IdsView

/-- The last segment of the path of a view. -/
def segment : IdsView → String
  | .ships => "ships"
  | .equipment => "equipment"

/-- What a request for a view asks for. -/
def route : IdsView → Route
  | .ships => .ships
  | .equipment => .equipment

/-- The target of a view. The list of ids is the last parameter. -/
def target (v : IdsView) (others items : List String) : String :=
  "/api/" ++ v.segment ++ "?" ++ "&".intercalate (others ++ ["ids=" ++ ",".intercalate items])

/-- The reply with a view. -/
def reply (s : Server) (ids : List Int64) : IdsView → Reply
  | .ships => s.shipsReply ids
  | .equipment => s.equipmentReply ids

/-- A value that begins with an id. -/
def Begins (v : Json) (key : String) (id : Int64) : Prop :=
  ∃ members, v = .object ((key, .int id.toInt) :: members)

/-- A reply lists what some ids name: for items of equipment an entry for each id, in order; for
ships one member for each of the ids, under the id and in ascending order. -/
def Lists (ids : List Int64) (r : Reply) : IdsView → Prop
  | .equipment => ∃ entries, r = .of (.list entries) ∧
      List.Forall₂ (fun entry id => Begins entry "equipment_id" id) entries ids
  | .ships => ∃ (members : Json.Members) (keys : List Int64), r = .of (.object members) ∧
      keys.Pairwise (· < ·) ∧ (∀ id, id ∈ keys ↔ id ∈ ids) ∧
      List.Forall₂ (fun member key => member.1 = Text.ofInt64 key ∧ Begins member.2 "ship_id" key)
        members keys

theorem lists_reply (v : IdsView) (s : Server) (ids : List Int64) :
    v.Lists ids (v.reply s ids) := by
  cases v with
  | equipment =>
    refine ⟨_, rfl, ?_⟩
    rw [Store.joinEquipmentList, List.map_map, List.forall₂_map_left_iff, List.forall₂_same]
    intro id _
    have named := Store.equipmentId_joinEquipment s.store id
    exact ⟨_, congrArg (fun id : Int64 => Json.object ((_, .int id.toInt) :: _)) named⟩
  | ships =>
    refine ⟨_, (s.store.joinShips ids).map (·.1), rfl, ?_, ?_, ?_⟩
    · exact List.pairwise_map.mpr (Store.ascending_joinShips s.store ids)
    · intro id
      rw [List.mem_map]
      constructor
      · rintro ⟨e, held, rfl⟩
        exact (Store.mem_joinShips.mp held).1
      · intro named
        exact ⟨_, Store.mem_joinShips.mpr ⟨named, rfl⟩, rfl⟩
    · rw [List.forall₂_map_left_iff, List.forall₂_map_right_iff, List.forall₂_same]
      rintro ⟨id, j⟩ held
      obtain ⟨-, rfl⟩ := Store.mem_joinShips.mp held
      have named := Store.shipId_joinShip s.store id
      exact ⟨rfl, _, congrArg (fun id : Int64 => Json.object ((_, .int id.toInt) :: _)) named⟩

end IdsView

namespace Request

/-- The request asks for a view of the records with the ids in some items, behind other
parameters. -/
def AsksFor (r : Request) (v : IdsView) (others items : List String) : Prop :=
  r.method = "GET" ∧ r.target = v.target others items

instance (r : Request) (v : IdsView) (others items : List String) :
    Decidable (r.AsksFor v others items) :=
  inferInstanceAs (Decidable (_ ∧ _))

section

variable {r : Request} {v : IdsView} {others items : List String}
  (h : r.AsksFor v others items)

include h

theorem AsksFor.splitFirst_target :
    Text.splitFirst '?' r.target.toList
      = ("/api/".toList ++ v.segment.toList,
        ['&'].intercalate (others.map String.toList ++
          [idsKey ++ [','].intercalate (items.map String.toList)])) := by
  have marked : r.target.toList = ("/api/".toList ++ v.segment.toList) ++
      '?' :: ['&'].intercalate (others.map String.toList ++
        [idsKey ++ [','].intercalate (items.map String.toList)]) := by
    rw [h.2]
    simp [IdsView.target, idsKey]
  rw [marked, Text.splitFirst_append_cons (by cases v <;> decide)]

theorem AsksFor.path : r.path = "/api/".toList ++ v.segment.toList := by
  rw [Request.path, h.splitFirst_target]

theorem AsksFor.query :
    r.query = ['&'].intercalate (others.map String.toList ++
      [idsKey ++ [','].intercalate (items.map String.toList)]) := by
  rw [Request.query, h.splitFirst_target]

theorem AsksFor.route? : r.route? = some v.route := by
  have segments : r.segments = ["api", v.segment] := by
    rw [Request.segments, h.path]
    cases v <;> decide
  rw [Request.route?, h.1, segments]
  cases v <;> rfl

end

end Request

/-! ## Lists as a client writes them -/

/-- An item of a list as a client may write it: an id or nothing, with blanks around it. -/
structure Item where
  id? : Option Int64
  front : String := ""
  back : String := ""
  blank : Text.blank front = true ∧ Text.blank back = true := by decide

namespace Item

/-- The id of an item in decimal. -/
def digits (i : Item) : List Char := (i.id?.map fun id => (Text.ofInt64 id).toList).getD []

/-- The text of an item. -/
def text (i : Item) : String := i.front ++ String.ofList i.digits ++ i.back

theorem mem_digits {i : Item} {c : Char} (h : c ∈ i.digits) : c = '-' ∨ c.isDigit = true := by
  obtain ⟨id?, _, _, _⟩ := i
  cases id? with
  | none => cases h
  | some id => exact Text.isDigit_of_mem_ofInt64 h

theorem not_mem_text (i : Item) {c : Char} (dark : Text.isBlank c = false)
    (other : c ≠ '-' ∧ c.isDigit = false) : c ∉ i.text.toList := by
  rw [text, String.toList_append, String.toList_append, String.toList_ofList, List.mem_append,
    List.mem_append]
  rintro ((front | digits) | back)
  · rw [List.all_eq_true.mp i.blank.1 c front] at dark
    cases dark
  · rcases mem_digits digits with same | digit
    · exact other.1 same
    · rw [digit] at other
      cases other.2
  · rw [List.all_eq_true.mp i.blank.2 c back] at dark
    cases dark

theorem trim_text (i : Item) : Text.trim i.text.toList = i.digits := by
  have dark : ∀ c ∈ i.digits, Text.isBlank c = false := by
    intro c hc
    rcases mem_digits hc with rfl | digit
    · rfl
    · exact Text.isBlank_of_isDigit digit
  rw [text, String.toList_append, String.toList_append, String.toList_ofList,
    Text.trim_append_blank (List.all_eq_true.mp i.blank.2),
    Text.trim_blank_append (List.all_eq_true.mp i.blank.1), Text.trim_of_not_blank dark]

/-- The items that are not passed over are the ids in decimal. -/
theorem filter_trim_text (items : List Item) :
    ((items.map (·.text)).map fun text => Text.trim text.toList).filter (!·.isEmpty)
      = (items.filterMap (·.id?)).map fun id => (Text.ofInt64 id).toList := by
  induction items with
  | nil => rfl
  | cons i items ih =>
    rw [List.map_cons, List.map_cons, trim_text, List.filter_cons, ih, List.filterMap_cons, digits]
    cases i.id? with
    | none => rfl
    | some id =>
      have filled : (Text.ofInt64 id).toList ≠ [] := by
        intro none_
        have read := Text.int64?_ofInt64 id
        rw [none_] at read
        cases read
      simp [filled]

end Item

/-! ## Replies -/

theorem respond_ids {s : Server} {r : Request} {v : IdsView} {others items : List String}
    (h : r.AsksFor v others items) (now : Instant) :
    (s.respond now r).2 = whenGood (idsOf r.query) fun ids => v.reply s ids := by
  rw [respond, h.route?]
  cases v <;> rfl

theorem code_whenGood (v : IdsView) (s : Server) {part : Except BadRequest (List Int64)} :
    (whenGood part fun ids => v.reply s ids).status.code = 400 ↔ ∃ cause, part = .error cause := by
  cases part with
  | error cause => simp [whenGood, Refusal.reply, Refusal.status, Status.code]
  | ok ids =>
    cases v <;>
      simp [whenGood, IdsView.reply, shipsReply, equipmentReply, Reply.of, Status.code]

/-- The reply to a list of ids behind other parameters. Whatever blanks and empty items a client
puts among the ids, the reply is a success and lists what they name. Of any other list the reply is
a refusal just when an item in it is neither blank nor the decimal form of a 64-bit integer. -/
theorem ids_query (s : Server) (now : Instant) (v : IdsView) {others : List String}
    (unlisted : ∀ p ∈ others, '&' ∉ p.toList ∧ ¬idsKey <+: Text.trim p.toList) :
    (∀ (r : Request) (items : List Item), r.AsksFor v others (items.map (·.text)) →
      (s.respond now r).2.status.code = 200 ∧
        v.Lists (items.filterMap (·.id?)) (s.respond now r).2) ∧
    ∀ (r : Request) (items : List String), r.AsksFor v others items →
      (∀ item ∈ items, ',' ∉ item.toList ∧ '&' ∉ item.toList) →
      ((s.respond now r).2.status.code = 400 ↔
        ∃ item ∈ items, Text.trim item.toList ≠ [] ∧
          ∀ id : Int64, ¬Text.Decimal (Text.trim item.toList) id.toInt) := by
  have apart : ∀ p ∈ others.map String.toList, '&' ∉ p :=
    List.forall_mem_map.mpr fun p hp => (unlisted p hp).1
  have unnamed : ∀ p ∈ others.map String.toList, ¬idsKey <+: Text.trim p :=
    List.forall_mem_map.mpr fun p hp => (unlisted p hp).2
  constructor
  · intro r items asks
    have whole : ∀ p ∈ (items.map (·.text)).map String.toList, '&' ∉ p := by
      simpa using fun i _ => i.not_mem_text (c := '&') (by decide) (by decide)
    have single : ∀ p ∈ (items.map (·.text)).map String.toList, ',' ∉ p := by
      simpa using fun i _ => i.not_mem_text (c := ',') (by decide) (by decide)
    have read : idsOf r.query = .ok (items.filterMap (·.id?)) := by
      rw [asks.query, idsOf_eq apart unnamed whole single, List.map_map]
      exact (congrArg readIds (Item.filter_trim_text items)).trans (readIds_ofInt64 _)
    rw [respond_ids asks, read]
    exact ⟨by cases v <;> rfl, v.lists_reply s _⟩
  · intro r items asks free
    have whole : ∀ p ∈ items.map String.toList, '&' ∉ p :=
      List.forall_mem_map.mpr fun p hp => (free p hp).2
    have single : ∀ p ∈ items.map String.toList, ',' ∉ p :=
      List.forall_mem_map.mpr fun p hp => (free p hp).1
    rw [respond_ids asks, code_whenGood, asks.query, idsOf_eq apart unnamed whole single,
      readIds_eq_error]
    simp [Text.int64?_eq_none, and_assoc]

theorem ids_query_crowded :
    let s := start {} {} ⟨0, 0⟩
    let get (target : String) : Request := { method := "GET", target }
    let crowded := get "/api/equipment?x=1&ids= 7,,-9223372036854775808 ,7"
    let spoiled := get "/api/equipment?x=1&ids=9223372036854775807, 9223372036854775808"
    (s.respond ⟨1, 0⟩ crowded).2.status.code = 200 ∧
      IdsView.equipment.Lists [7, Int64.minValue, 7] (s.respond ⟨1, 0⟩ crowded).2 ∧
      (s.respond ⟨1, 0⟩ spoiled).2.status.code = 400 := by
  intro s get crowded spoiled
  obtain ⟨listed, refused⟩ := @ids_query s ⟨1, 0⟩ .equipment ["x=1"] (by decide)
  obtain ⟨code, lists⟩ := listed crowded
    [{ id? := some 7, front := " " }, { id? := none },
      { id? := some Int64.minValue, back := " " }, { id? := some 7 }] (by decide)
  refine ⟨code, lists, ?_⟩
  refine (refused spoiled ["9223372036854775807", " 9223372036854775808"] (by decide)
    (by decide)).mpr ⟨" 9223372036854775808", by decide, by decide, ?_⟩
  exact Text.int64?_eq_none.mp (by decide)

end Server

end Flotilla
