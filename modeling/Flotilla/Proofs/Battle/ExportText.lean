import Flotilla.Proofs.Battle.Accounts
import Flotilla.Proofs.Text.Pieces

/-! # Exported lines are read back

The exported text has a header and a line for each row, with commas between fields and semicolons
between attackers. Names and decimal numbers hold neither of these, no line end and no quote. So
the text is what a writer that quotes where it must writes too, and cutting it at the separators
gives back what the tables report. -/
namespace Flotilla.Battle

/-! ## A writer that quotes -/

/-- The characters for which a field is put in quotes. -/
def quotable : List Char := [',', '\x22', '\r', '\n']

/-- No character of a text has to be put in quotes. -/
def Unquoted (f : String) : Prop := ∀ c ∈ f.toList, c ∉ quotable

instance (f : String) : Decidable (Unquoted f) := List.decidableBAll _ f.toList

/-- A field as it is written: in quotes, with each quote in it doubled, where it has to be. -/
def quotedField (f : String) : String :=
  if Unquoted f then f
  else
    let doubled := f.toList.flatMap fun c => if c = '\x22' then [c, c] else [c]
    "\x22" ++ String.ofList doubled ++ "\x22"

/-- A text under way, and whether a record has been written to it. -/
structure Writer where
  text : String := ""
  begun : Bool := false

namespace Writer

/-- Writes one record. -/
def record (w : Writer) (fields : List String) : Writer :=
  ⟨w.text ++ csvLine (fields.map quotedField), true⟩

/-- Writes a row; the header comes first. -/
def row (w : Writer) (r : ExportRow) : Writer :=
  (if w.begun then w else w.record ExportRow.header).record r.fields

end Writer

/-- Writes tables: the number of rows, and the text. Where there is no row to bring the header
with it, the header is written by itself. -/
def writeTables (tables : List AttackTable) : Nat × String :=
  let rows := exportRows tables
  let start : Writer := if rows.isEmpty then ({} : Writer).record ExportRow.header else {}
  (rows.length, (rows.foldl Writer.row start).text)

theorem Writer.record_of_unquoted (w : Writer) {fields : List String}
    (h : ∀ f ∈ fields, Unquoted f) : w.record fields = ⟨w.text ++ csvLine fields, true⟩ := by
  have same : fields.map quotedField = fields :=
    (List.map_congr_left fun f hf => if_pos (h f hf)).trans (List.map_id fields)
  rw [record, same]

/-! ## Fields without quotes -/

theorem unquoted_of_decimal {f : String} (h : ∀ c ∈ f.toList, c ∈ ['-', ';'] ∨ c.isDigit) :
    Unquoted f := by
  intro c hc special
  have noDecimal : ∀ c ∈ quotable, ¬ (c ∈ ['-', ';'] ∨ c.isDigit) := by simp [quotable]
  exact noDecimal c special (h c hc)

theorem toList_attackersField (r : ExportRow) :
    r.attackersField.toList
      = [';'].intercalate (r.attackers.map fun n => (Text.ofNat n).toList) := by
  rw [ExportRow.attackersField, String.toList_intercalate, List.map_map]
  rfl

theorem unquoted_attackersField (r : ExportRow) : Unquoted r.attackersField := by
  refine unquoted_of_decimal fun c hc => ?_
  rw [toList_attackersField] at hc
  rcases Text.mem_intercalate hc with between | ⟨l, hl, hc⟩
  · exact .inl (List.mem_cons_of_mem _ between)
  · obtain ⟨n, -, rfl⟩ := List.mem_map.mp hl
    exact .inr (Text.isDigit_of_mem_ofNat hc)

/-- A row whose label needs no quotes has no field that needs some. -/
theorem unquoted_fields {r : ExportRow} (label : Unquoted r.label) :
    ∀ f ∈ r.fields, Unquoted f := by
  have segment : Unquoted r.segment.name := by cases r.segment <;> decide
  have side : Unquoted r.side.name := by cases r.side <;> decide
  have target : Unquoted (Text.ofNat r.target) :=
    unquoted_of_decimal fun c hc => .inr (Text.isDigit_of_mem_ofNat hc)
  have damage : Unquoted (Text.ofInt64 r.damage) :=
    unquoted_of_decimal fun c hc =>
      (Text.isDigit_of_mem_ofInt64 hc).imp_left fun sign => by simp [sign]
  have hit : Unquoted r.hit.name := by cases r.hit <;> decide
  have shielded : Unquoted (ExportRow.flagName r.shielded) := by cases r.shielded <;> decide
  simp only [ExportRow.fields, List.forall_mem_cons]
  exact ⟨segment, label, side, target, unquoted_attackersField r, damage, hit, shielded, nofun⟩

theorem unquoted_header : ∀ f ∈ ExportRow.header, Unquoted f := by decide

theorem unquoted_label (p : Phase) : Unquoted p.label := by
  cases p with
  | air p => cases h : p.stage <;> simp only [Phase.label, h] <;> decide
  | torpedo p => cases h : p.stage <;> simp only [Phase.label, h] <;> decide
  | shelling p => cases h : p.stage <;> simp only [Phase.label, h] <;> decide
  | support p =>
    show Unquoted "support"
    decide

/-! ## The text without quotes -/

theorem text_foldl_row {rows : List ExportRow} (h : ∀ r ∈ rows, Unquoted r.label) (text : String) :
    (rows.foldl Writer.row ⟨text, true⟩).text
      = text ++ String.join (rows.map fun r => csvLine r.fields) := by
  induction rows generalizing text with
  | nil => simp
  | cons r rows ih =>
    obtain ⟨first, rest⟩ := List.forall_mem_cons.mp h
    have step : Writer.row ⟨text, true⟩ r = ⟨text ++ csvLine r.fields, true⟩ :=
      Writer.record_of_unquoted _ (unquoted_fields first)
    rw [List.foldl_cons, step, ih rest, List.map_cons, String.join_cons, String.append_assoc]

/-- The header comes first on either way to it. -/
theorem foldl_row_start (rows : List ExportRow) :
    rows.foldl Writer.row (if rows.isEmpty then ({} : Writer).record ExportRow.header else {})
      = rows.foldl Writer.row (({} : Writer).record ExportRow.header) := by
  cases rows <;> rfl

theorem writeTables_eq {tables : List AttackTable}
    (h : ∀ r ∈ exportRows tables, Unquoted r.label) :
    writeTables tables = ((exportRows tables).length, csvText (exportRows tables)) := by
  rw [writeTables, foldl_row_start, Writer.record_of_unquoted _ unquoted_header, text_foldl_row h,
    csvText, List.map_cons, String.join_cons, List.map_map]
  rfl

/-! ## Lines and fields -/

/-- The characters of a line. -/
def lineOf (fields : List String) : List Char := [','].intercalate (fields.map String.toList)

theorem toList_csvLine (fields : List String) :
    (csvLine fields).toList = lineOf fields ++ ['\n'] := by
  rw [csvLine, String.toList_append, String.toList_intercalate]
  rfl

theorem toList_csvText (rows : List ExportRow) :
    (csvText rows).toList
      = (lineOf ExportRow.header :: rows.map fun r => lineOf r.fields).flatMap (· ++ ['\n']) := by
  simp [csvText, String.toList_join, List.flatMap_map, toList_csvLine]

theorem splitOn_lineOf {fields : List String} (filled : fields ≠ [])
    (h : ∀ f ∈ fields, Unquoted f) : (lineOf fields).splitOn ',' = fields.map String.toList := by
  refine List.splitOn_intercalate ',' (List.forall_mem_map.mpr fun f hf comma => ?_) (by simpa)
  exact h f hf ',' comma (by decide)

theorem not_newline_mem_lineOf {fields : List String} (h : ∀ f ∈ fields, Unquoted f) :
    '\n' ∉ lineOf fields := by
  intro newline
  rcases Text.mem_intercalate newline with comma | ⟨l, hl, newline⟩
  · simp at comma
  · obtain ⟨f, hf, rfl⟩ := List.mem_map.mp hl
    exact h f hf '\n' newline (by decide)

/-- Lines that are each ended are separated by their ends, with nothing behind the last one. -/
theorem splitOn_lines {lines : List (List Char)} (h : ∀ l ∈ lines, '\n' ∉ l) :
    (lines.flatMap (· ++ ['\n'])).splitOn '\n' = lines ++ [[]] := by
  have ended : lines.flatMap (· ++ ['\n']) = ['\n'].intercalate (lines ++ [[]]) := by
    clear h
    induction lines with
    | nil => rfl
    | cons l lines ih =>
      rw [List.cons_append, List.intercalate_cons_of_ne_nil (by simp), List.flatMap_cons, ih]
  have all : ∀ l ∈ lines ++ [[]], '\n' ∉ l := by simpa [or_imp, forall_and] using h
  rw [ended, List.splitOn_intercalate '\n' all (by simp)]

/-! ## Reading a line -/

/-- What has a name among some. -/
def named? {α : Type} (all : List α) (name : α → String) (field : List Char) : Option α :=
  all.find? fun a => (name a).toList == field

/-- The attackers that a field lists; an empty one lists none. -/
def readAttackers (field : List Char) : Option (List Nat) :=
  if field = [] then some [] else (field.splitOn ';').mapM Text.digits?

/-- The row of a line. -/
def readRow (line : List Char) : Option ExportRow :=
  match line.splitOn ',' with
  | [segment, label, side, target, attackers, damage, hit, shielded] => do
    let segment ← named? [.day, .night] SegmentKind.name segment
    let side ← named? [.friendly, .enemy] Side.name side
    let target ← Text.digits? target
    let attackers ← readAttackers attackers
    let damage ← Text.int64? damage
    let hit ← named? [.miss, .normal, .critical] Hit.name hit
    let shielded ← named? [false, true] ExportRow.flagName shielded
    return ⟨segment, String.ofList label, side, target, attackers, damage, hit, shielded⟩
  | _ => none

theorem mapM_digits? (ns : List Nat) :
    (ns.map fun n => (Text.ofNat n).toList).mapM Text.digits? = some ns := by
  induction ns with
  | nil => rfl
  | cons n ns ih =>
    rw [List.map_cons, List.mapM_cons, Text.digits?_ofNat, ih]
    rfl

theorem readAttackers_attackersField (r : ExportRow) :
    readAttackers r.attackersField.toList = some r.attackers := by
  rw [readAttackers, toList_attackersField]
  cases hattackers : r.attackers with
  | nil => rfl
  | cons n ns =>
    have pieces : ([';'].intercalate ((n :: ns).map fun n => (Text.ofNat n).toList)).splitOn ';'
        = (n :: ns).map fun n => (Text.ofNat n).toList := by
      have apart : ∀ m ∈ n :: ns, ';' ∉ (Text.ofNat m).toList := by
        intro m _ semicolon
        exact absurd (Text.isDigit_of_mem_ofNat semicolon) (by decide)
      exact List.splitOn_intercalate ';' (List.forall_mem_map.mpr apart) (by simp)
    have filled : [';'].intercalate ((n :: ns).map fun n => (Text.ofNat n).toList) ≠ [] := by
      intro empty
      rw [empty, List.splitOn_nil, List.map_cons] at pieces
      have digits := Text.digits?_ofNat n
      rw [← (List.cons.inj pieces).1] at digits
      cases digits
    rw [if_neg filled, pieces, mapM_digits?]

theorem readRow_lineOf {r : ExportRow} (label : Unquoted r.label) :
    readRow (lineOf r.fields) = some r := by
  have segment : named? [.day, .night] SegmentKind.name r.segment.name.toList = some r.segment := by
    cases r.segment <;> decide
  have side : named? [.friendly, .enemy] Side.name r.side.name.toList = some r.side := by
    cases r.side <;> decide
  have hit : named? [.miss, .normal, .critical] Hit.name r.hit.name.toList = some r.hit := by
    cases r.hit <;> decide
  have shielded : named? [false, true] ExportRow.flagName (ExportRow.flagName r.shielded).toList
      = some r.shielded := by
    cases r.shielded <;> decide
  rw [readRow, splitOn_lineOf (by simp [ExportRow.fields]) (unquoted_fields label)]
  simp [ExportRow.fields, segment, side, hit, shielded, Text.digits?_ofNat, Text.int64?_ofInt64,
    readAttackers_attackersField]

/-! ## What the tables report -/

/-- What a table reports, in order: for the attacks of the friendly and then of the enemy side,
at each position in the order in which they were first attacked, what the row of the position
says, or else each hit of each attack. -/
def AttackTable.reported (t : AttackTable) : List ExportRow :=
  match t.body with
  | .grouped byFriendly byEnemy _ _ =>
    [(Side.friendly, byFriendly), (Side.enemy, byEnemy)].flatMap fun (side, g) =>
      g.order.map fun position =>
        let row := (g.get? position).getD (.first position {})
        ⟨t.segment, t.label, side, position, row.attackers, row.damage, row.hit, row.shielded⟩
  | .shelling attacks =>
    attacks.flatMap fun a => a.hits.map fun h =>
      ⟨t.segment, t.label, a.side, h.target, [a.attacker], h.damage, h.hit, h.shielded⟩

/-- The order leads to a row for each position, so no row is left out. -/
theorem TargetGroups.InStep.rows_eq {g : TargetGroups} (h : g.InStep) :
    g.rows = g.order.map fun position => (g.get? position).getD (.first position {}) := by
  rw [TargetGroups.rows, ← List.filterMap_eq_map]
  refine List.filterMap_congr fun position hposition => ?_
  obtain ⟨row, hrow⟩ := Option.isSome_iff_exists.mp ((h.held position).mp hposition)
  simp [hrow]

theorem groupRows_eq (t : AttackTable) (side : Side) {g : TargetGroups} (h : g.InStep) :
    groupRows t side g = g.order.map fun position =>
      let row := (g.get? position).getD (.first position {})
      ⟨t.segment, t.label, side, position, row.attackers, row.damage, row.hit, row.shielded⟩ := by
  rw [groupRows, h.rows_eq, List.map_map]
  refine List.map_congr_left fun position hposition => ?_
  obtain ⟨row, hrow⟩ := Option.isSome_iff_exists.mp ((h.held position).mp hposition)
  simp [hrow, (h.stands position row hrow).target]

theorem exportRows_eq_reported {tables : List AttackTable} (h : ∀ t ∈ tables, t.body.InStep) :
    exportRows tables = tables.flatMap AttackTable.reported := by
  refine List.flatMap_congr fun t ht => ?_
  have inStep := h t ht
  rw [AttackTable.exportRows, AttackTable.reported]
  cases hbody : t.body with
  | grouped byFriendly byEnemy planes contacts =>
    rw [hbody] at inStep
    simp [groupRows_eq t .friendly inStep.1, groupRows_eq t .enemy inStep.2]
  | shelling attacks => rfl

theorem label_of_mem_exportRows {tables : List AttackTable} {r : ExportRow}
    (h : r ∈ exportRows tables) : ∃ t ∈ tables, r.label = t.label := by
  obtain ⟨t, ht, hr⟩ := List.mem_flatMap.mp h
  refine ⟨t, ht, ?_⟩
  rw [AttackTable.exportRows] at hr
  split at hr
  · rcases List.mem_append.mp hr with hr | hr <;> obtain ⟨row, -, rfl⟩ := List.mem_map.mp hr <;> rfl
  · obtain ⟨a, -, hr⟩ := List.mem_flatMap.mp hr
    obtain ⟨hit, -, rfl⟩ := List.mem_map.mp hr
    rfl

/-- A table is that of a phase. -/
theorem phase_of_table {s : Store} {b : Battle} {t : AttackTable} (h : t ∈ attackTables s b) :
    ∃ p ∈ b.phases, t.label = p.label ∧
      t.body = tableBody s (Store.formation s.fleets b.fleetId b.combined) b.areaId p := by
  obtain ⟨⟨kind, segment⟩, hsegment, ht⟩ := List.mem_flatMap.mp h
  obtain ⟨p, hp, rfl⟩ := List.mem_map.mp ht
  exact ⟨p, List.mem_flatMap.mpr ⟨segment, List.mem_map.mpr ⟨_, hsegment, rfl⟩, hp⟩, rfl, rfl⟩

/-- The exported text of an accepted battle is what a writer that quotes where it must writes of
the tables. It is the header and one ended line for each row, as many as the writer counts, and
the lines read back, in order, as what the tables report; and the order of a table's groups names
each position that has a row, once. -/
theorem exported_lines_read_back (s : Store) {text : String} {b : Battle}
    (h : ofText text = .ok b) :
    let tables := attackTables s b
    ∃ lines : List (List Char),
      writeTables tables = (lines.length, csvText (exportRows tables)) ∧
      (csvText (exportRows tables)).toList.splitOn '\n'
        = "segment,phase,side,target,attackers,damage,hit,protected".toList :: (lines ++ [[]]) ∧
      lines.length = (exportRows tables).length ∧
      lines.map readRow = (tables.flatMap AttackTable.reported).map some ∧
      ∀ t ∈ tables, t.body.InStep := by
  intro tables
  have inStep : ∀ t ∈ tables, t.body.InStep := by
    intro t ht
    obtain ⟨p, hp, -, body⟩ := phase_of_table ht
    rw [body]
    exact ((decoded_of_ofText h).phases p hp).inStep s _ b.areaId
  have labels : ∀ r ∈ exportRows tables, Unquoted r.label := by
    intro r hr
    obtain ⟨t, ht, label⟩ := label_of_mem_exportRows hr
    obtain ⟨p, -, same, -⟩ := phase_of_table ht
    rw [label, same]
    exact unquoted_label p
  have noEnd : ∀ l ∈ lineOf ExportRow.header :: (exportRows tables).map fun r => lineOf r.fields,
      '\n' ∉ l := by
    refine List.forall_mem_cons.mpr ⟨not_newline_mem_lineOf unquoted_header, ?_⟩
    exact List.forall_mem_map.mpr fun r hr => not_newline_mem_lineOf (unquoted_fields (labels r hr))
  have header : lineOf ExportRow.header
      = "segment,phase,side,target,attackers,damage,hit,protected".toList := by decide +kernel
  have count : ((exportRows tables).map fun r => lineOf r.fields).length
      = (exportRows tables).length := List.length_map _
  refine ⟨(exportRows tables).map fun r => lineOf r.fields, ?_, ?_, count, ?_, inStep⟩
  · rw [writeTables_eq labels, count]
  · rw [toList_csvText, splitOn_lines noEnd, header, List.cons_append]
  · rw [List.map_map, ← exportRows_eq_reported inStep]
    exact List.map_congr_left fun r hr => readRow_lineOf (labels r hr)

/-- A feed with a salvo of two ships at one position, a barrage, and an attack that misses. -/
def volleyText : String :=
  "[\"volley\",0,0,0,1,0,[],[[],[],[[\"torpedo\",\"closing\",[[3,3],[0,0,0,51],[0,0,0,2]]]," ++
    "[\"support\",null,[[0,7]]],[\"shelling\",\"first\",[[\"enemy\",4,0,[0],[0]]]]]]]"

/-- The battle that the feed gives. -/
def volley : Battle where
  id := "volley"
  day := some
    { phases := [
        .torpedo {
          stage := .closing
          friendly := some
            ⟨[⟨0, [3]⟩, ⟨1, [3]⟩], List.replicate 3 ⟨0, some 0, false⟩ ++ [⟨51, some 2, false⟩]⟩ },
        .support { barrage := some ⟨[{}, { damage := 7 }]⟩ },
        .shelling {
          stage := .first
          attacks := [⟨.enemy, 4, 0, [⟨0, 0, none, false, .miss⟩]⟩] }] }

theorem ofText_volley : ofText volleyText = .ok volley := by decide +kernel

theorem exported_lines_read_back_volley :
    ofText volleyText = .ok volley ∧
      ∃ lines : List (List Char),
        writeTables (attackTables {} volley) = (3, csvText (exportRows (attackTables {} volley))) ∧
        lines.map readRow = [
          some ⟨.day, "closing_torpedo", .friendly, 3, [0, 1], 51, .critical, false⟩,
          some ⟨.day, "support", .friendly, 1, [], 7, .normal, false⟩,
          some ⟨.day, "shelling_1", .enemy, 0, [4], 0, .miss, false⟩] := by
  obtain ⟨lines, written, -, -, read_, -⟩ := exported_lines_read_back {} ofText_volley
  have reported : (attackTables {} volley).flatMap AttackTable.reported = [
      ⟨.day, "closing_torpedo", .friendly, 3, [0, 1], 51, .critical, false⟩,
      ⟨.day, "support", .friendly, 1, [], 7, .normal, false⟩,
      ⟨.day, "shelling_1", .enemy, 0, [4], 0, .miss, false⟩] := by decide +kernel
  have three : lines.length = 3 := by
    have same := congrArg List.length read_
    rwa [List.length_map, List.length_map, reported] at same
  refine ⟨ofText_volley, lines, ?_, ?_⟩
  · rw [written, three]
  · rw [read_, reported]
    rfl

end Flotilla.Battle
