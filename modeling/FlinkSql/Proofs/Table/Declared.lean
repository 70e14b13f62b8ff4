import FlinkSql.Proofs.Name
import FlinkSql.Proofs.Table.Body
import Mathlib.Data.List.Nodup

/-!
# The columns that a table declares

A table declares its columns and the column with the time of processing, each under its normalized name; the watermark and the primary
key cite columns by such names. Every name that is cited is declared, but nothing keeps two columns from being declared under one name.
A name is declared as many times as there are columns that normalize to it, so each cited name is that of one column if, and only if,
no other column normalizes to it.
-/

namespace FlinkSql

/-! ## The parts of a body -/

/-- What stands between the parentheses, part by part. -/
structure BodyParts where
  /-- Each column with what is said of it. -/
  columns : List (String × String)
  /-- The column of the watermark, and how late it is. -/
  watermark : Option (String × String)
  /-- The columns of the primary key. -/
  primaryKey : List String

namespace BodyParts

/-- The watermark of a column. -/
def watermarkText (w : String × String) : String := "WATERMARK FOR " ++ w.1 ++ " AS " ++ w.1 ++ w.2

/-- The primary key; there is none without columns. -/
def keyTexts (names : List String) : List String :=
  if names = [] then [] else ["PRIMARY KEY (" ++ ", ".intercalate names ++ ") NOT ENFORCED"]

/-- The parts as a text. -/
def text (b : BodyParts) : String :=
  ", ".intercalate
    (b.columns.map (fun c => c.1 ++ " " ++ c.2) ++ b.watermark.toList.map watermarkText ++ keyTexts b.primaryKey)

/-- The names that are declared. -/
def declared (b : BodyParts) : List String := b.columns.map (·.1)

/-- The names that the watermark and the primary key cite. -/
def cited (b : BodyParts) : List String := b.watermark.toList.map (·.1) ++ b.primaryKey

end BodyParts

namespace Entity

/-- The names of the columns, that with the time of processing last. -/
def columnNames (e : Entity) : List String := e.columns.map (·.name) ++ e.proctimeColumn.toList

/-- The columns that the primary key has in a role: only a table that is written has one. -/
def keyNames (e : Entity) : TableRole → List String
  | .source => []
  | .sink => e.primaryKey

/-- The names in the parts of a table. -/
structure HasParts (e : Entity) (role : TableRole) (b : BodyParts) : Prop where
  declared : b.declared = e.columnNames.map Name.quotedColumn
  watermark : b.watermark.toList.map (·.1) = (e.columns.filter (·.eventTime.isSome)).map fun c => Name.quotedColumn c.name
  primaryKey : b.primaryKey = (e.keyNames role).map Name.quotedColumn

variable {e : Entity} {role : TableRole} {text : String} {b : BodyParts}

/-! ## Each part -/

/-- A column is its name, and what is said of it. -/
theorem exists_columns {columns : List Column} {texts : List String} (h : List.Forall₂ Column.WrittenAs columns texts) :
    ∃ parts : List (String × String), texts = parts.map (fun c => c.1 ++ " " ++ c.2) ∧
      parts.map (·.1) = columns.map fun c => Name.quotedColumn c.name := by
  induction h with
  | nil => exact ⟨[], rfl, rfl⟩
  | @cons c text columns texts hc _ ih =>
    obtain ⟨type, -, rfl⟩ := hc
    obtain ⟨parts, rfl, hnames⟩ := ih
    refine ⟨(Name.quotedColumn c.name, type ++ if c.eventTime = some .kafkaTimestamp then " METADATA FROM 'timestamp' VIRTUAL"
      else if c.nullable then "" else " NOT NULL") :: parts, ?_, ?_⟩
    · simp only [List.map_cons, String.append_assoc]
    · simp only [List.map_cons, hnames]

/-- The watermark cites the column with the time of an event. -/
theorem exists_watermark {watermark : List String} (h : e.watermark = .ok watermark) :
    ∃ part : Option (String × String), watermark = part.toList.map BodyParts.watermarkText ∧
      part.toList.map (·.1) = (e.columns.filter (·.eventTime.isSome)).map fun c => Name.quotedColumn c.name := by
  obtain ⟨delay, -, h⟩ := bind_eq_ok.mp h
  obtain ⟨column, hcolumn, h⟩ := bind_eq_ok.mp h
  rw [eventTimes_eq hcolumn]
  cases column with
  | some c =>
    obtain ⟨lag, hlag⟩ : ∃ lag, watermarkSql c delay = BodyParts.watermarkText (Name.quotedColumn c.name, lag) := ⟨_, rfl⟩
    refine ⟨some (Name.quotedColumn c.name, lag), ?_, rfl⟩
    rw [← Except.ok.inj h, hlag]
    rfl
  | none =>
    cases delay with
    | some interval => cases h
    | none =>
      cases h
      exact ⟨none, rfl, rfl⟩

theorem keyTexts_of_primaryKeySql {keys : List String} (h : e.primaryKeySql role = .ok keys) :
    keys = BodyParts.keyTexts ((e.keyNames role).map Name.quotedColumn) := by
  cases role with
  | source =>
    cases h
    rfl
  | sink =>
    rw [(primaryKeySql_eq_ok_iff.mp h).2, BodyParts.keyTexts, keyNames]
    simp only [List.map_eq_nil_iff]

theorem exists_parts (h : e.bodySql role = .ok text) : ∃ b, e.HasParts role b ∧ text = b.text := by
  obtain ⟨-, columns, hcolumns, watermark, hwatermark, keys, hkeys, rfl⟩ := bodySql_eq_ok_iff.mp h
  obtain ⟨columnParts, rfl, hnames⟩ := exists_columns (Column.writtenAs_of_mapM hcolumns)
  obtain ⟨watermarkPart, rfl, hcited⟩ := exists_watermark hwatermark
  rw [keyTexts_of_primaryKeySql hkeys]
  refine ⟨⟨columnParts ++ e.proctimeColumn.toList.map fun name => (Name.quotedColumn name, "AS PROCTIME()"), watermarkPart,
    (e.keyNames role).map Name.quotedColumn⟩, ⟨?_, hcited, rfl⟩, ?_⟩
  · rw [BodyParts.declared, List.map_append, hnames, columnNames, List.map_append, List.map_map, List.map_map]
    rfl
  · have hproctime : e.proctimeColumn.toList.map (fun name => Name.quotedColumn name ++ " " ++ "AS PROCTIME()") = e.proctimeSql := by
      simp only [proctimeSql, String.append_assoc]
      rfl
    rw [BodyParts.text, List.map_append, List.map_map, ← hproctime]
    rfl

/-! ## Names that are the same -/

/-- Declared names differ if the normalized names do. -/
theorem HasParts.nodup_iff (h : e.HasParts role b) : b.declared.Nodup ↔ (e.columnNames.map Name.column).Nodup := by
  simp only [h.declared, List.Nodup, List.pairwise_map, ne_eq, Name.quotedColumn_eq_iff]

/-- A name is declared as many times as columns normalize to it. -/
theorem HasParts.count_eq (h : e.HasParts role b) (name : String) :
    b.declared.count (Name.quotedColumn name) = e.columnNames.countP fun other => Name.column other = Name.column name := by
  rw [h.declared, List.count_eq_countP, List.countP_map]
  refine List.countP_congr fun other _ => ?_
  simp [Name.quotedColumn_eq_iff]

/-- The names that are cited are declared. -/
theorem HasParts.declared_of_cited (h : e.HasParts role b) (hbody : e.bodySql role = .ok text) {name : String} (hname : name ∈ b.cited) :
    name ∈ b.declared := by
  have hcolumn : ∀ c ∈ e.columns, Name.quotedColumn c.name ∈ b.declared := by
    intro c hc
    rw [h.declared, columnNames, List.map_append]
    exact List.mem_append_left _ (List.mem_map_of_mem (List.mem_map_of_mem hc))
  rcases List.mem_append.mp hname with hwatermark | hkey
  · rw [h.watermark, List.mem_map] at hwatermark
    obtain ⟨c, hc, rfl⟩ := hwatermark
    exact hcolumn c (List.mem_of_mem_filter hc)
  · rw [h.primaryKey, List.mem_map] at hkey
    obtain ⟨key, hkey, rfl⟩ := hkey
    cases role with
    | source => cases hkey
    | sink =>
      obtain ⟨c, hc, hsame⟩ := (sink_eq_ok_iff.mp hbody).1 key hkey
      exact Name.quotedColumn_eq_iff.mpr hsame ▸ hcolumn c hc

/-- The names that a table declares are those of its columns and of the column with the time of processing, normalized; what the
watermark and the primary key cite is declared. A name is declared as many times as columns normalize to it. So the declared names differ
exactly if the normalized names do, and then each name that is cited is that of one column. -/
theorem declared_nodup_iff (h : e.bodySql role = .ok text) :
    ∃ b, e.HasParts role b ∧ text = b.text ∧
      (∀ name ∈ b.cited, name ∈ b.declared) ∧
      (∀ name, b.declared.count (Name.quotedColumn name) = e.columnNames.countP fun other => Name.column other = Name.column name) ∧
      (b.declared.Nodup ↔ (e.columnNames.map Name.column).Nodup) ∧
      (b.declared.Nodup → ∀ name ∈ b.cited, b.declared.count name = 1) := by
  obtain ⟨b, hparts, htext⟩ := exists_parts h
  have hdeclared : ∀ name ∈ b.cited, name ∈ b.declared := fun name => hparts.declared_of_cited h
  refine ⟨b, hparts, htext, hdeclared, hparts.count_eq, hparts.nodup_iff, fun hnodup name hname => ?_⟩
  exact List.count_eq_one_of_mem hnodup (hdeclared name hname)

/-- The payments are declared under different names: the watermark and the key are about one column each. -/
theorem payments_declared_once :
    paymentsEntity.bodySql .sink = .ok (paymentsSql ++ ", PRIMARY KEY (`paymentid`) NOT ENFORCED") ∧
      ∃ b, paymentsEntity.HasParts .sink b ∧ paymentsSql ++ ", PRIMARY KEY (`paymentid`) NOT ENFORCED" = b.text ∧
        b.declared.Nodup ∧ ∀ name ∈ b.cited, b.declared.count name = 1 := by
  have hbody : paymentsEntity.bodySql .sink = .ok (paymentsSql ++ ", PRIMARY KEY (`paymentid`) NOT ENFORCED") :=
    eq_ok_of_toOption (by decide +kernel)
  obtain ⟨b, hparts, htext, -, -, hnodup, hcited⟩ := declared_nodup_iff hbody
  have hdeclared : b.declared.Nodup := hnodup.mpr (by decide +kernel)
  exact ⟨hbody, b, hparts, htext, hdeclared, hcited hdeclared⟩

/-- Two columns whose names differ in a capital letter, and a key. -/
def totalsEntity : Entity where
  objectName := "orders"
  topicName := "orders"
  columns := [{ name := "Total", type := .int }, { name := "total", type := .bigInt }]
  primaryKey := ["total"]

/-- Their parts. -/
def totalsParts : BodyParts where
  columns := [("`total`", "INT NOT NULL"), ("`total`", "BIGINT NOT NULL")]
  watermark := none
  primaryKey := ["`total`"]

/-- Both columns are declared under one name, and the key cites that name. -/
theorem totals_declared_twice :
    totalsEntity.bodySql .sink = .ok totalsParts.text ∧ totalsEntity.HasParts .sink totalsParts ∧
      ¬totalsParts.declared.Nodup ∧ "`total`" ∈ totalsParts.cited ∧ totalsParts.declared.count "`total`" = 2 := by
  have hbody : totalsEntity.bodySql .sink = .ok totalsParts.text := eq_ok_of_toOption (by decide +kernel)
  have hparts : totalsEntity.HasParts .sink totalsParts := ⟨by decide +kernel, by decide +kernel, by decide +kernel⟩
  exact ⟨hbody, hparts, by decide, by decide, by decide⟩

end Entity

end FlinkSql
