import FlinkSql.Proofs.Time.Interval
import FlinkSql.Table.Entity

/-!
# What stands between the parentheses of CREATE TABLE

`Entity.IsDefinable` says which tables can be read, and `Entity.HasKeyColumns` what a table needs besides to be written. The text
of a table that is read is its columns in order, the column with the time of processing and the watermark (`Entity.ReadsAs`); a
table that is written has the same text, and its primary key behind it.
-/

namespace FlinkSql

/-! ## What is asked of a table -/

/-- The bounds of a decimal: a precision of 1 to 38, and no larger scale. -/
structure Column.HasBounds (c : Column) : Prop where
  precision_pos : 1 ≤ (c.decimal.getD (38, 18)).1.toNat
  precision_le : (c.decimal.getD (38, 18)).1.toNat ≤ 38
  scale_le : (c.decimal.getD (38, 18)).2.toNat ≤ (c.decimal.getD (38, 18)).1.toNat

namespace Entity

/-- The tables that can be read. -/
structure IsDefinable (e : Entity) : Prop where
  columns : e.columns ≠ []
  decimals : ∀ c ∈ e.columns, c.type = .decimal → c.HasBounds
  delay : ∀ d ∈ e.watermarkDelay, d.IsWhole
  one_event_time : e.columns.countP (·.eventTime.isSome) ≤ 1
  event_time_type : ∀ c ∈ e.columns, c.eventTime.isSome → c.type = .timestamp
  event_time_given : e.watermarkDelay.isSome → ∃ c ∈ e.columns, c.eventTime.isSome

/-- The names of the primary key are those of columns, as far as they can be told apart. -/
def HasKeyColumns (e : Entity) : Prop :=
  ∀ key ∈ e.primaryKey, ∃ c ∈ e.columns, Name.column c.name = Name.column key

end Entity

/-! ## What is written -/

/-- The text of a column: its name, its type, and where it comes from or whether it may be null. -/
def Column.WrittenAs (c : Column) (text : String) : Prop :=
  ∃ type, c.typeSql = .ok type ∧ text = Name.quotedColumn c.name ++ " " ++ type ++
    if c.eventTime = some .kafkaTimestamp then " METADATA FROM 'timestamp' VIRTUAL"
    else if c.nullable then "" else " NOT NULL"

namespace Entity

/-- How late the watermark is. -/
inductive HasLag (e : Entity) : String → Prop
  | none (h : e.watermarkDelay = none) : HasLag e ""
  | delay {d : Span} {i : Interval} (h : e.watermarkDelay = some d) (hi : Interval.ofSpan d = .ok i) : HasLag e (" - " ++ i.sql)

/-- The watermark of a table: on its event-time column, if it has one. -/
inductive HasWatermark (e : Entity) : List String → Prop
  | none (h : ∀ c ∈ e.columns, c.eventTime = none) : HasWatermark e []
  | column {c : Column} {lag : String} (hc : c ∈ e.columns) (htime : c.eventTime.isSome) (hlag : e.HasLag lag) :
    HasWatermark e ["WATERMARK FOR " ++ Name.quotedColumn c.name ++ " AS " ++ Name.quotedColumn c.name ++ lag]

/-- The text of a table that is read. -/
def ReadsAs (e : Entity) (text : String) : Prop :=
  ∃ columns watermark, List.Forall₂ Column.WrittenAs e.columns columns ∧ e.HasWatermark watermark ∧
    text = ", ".intercalate
      (columns ++ e.proctimeColumn.toList.map (fun name => Name.quotedColumn name ++ " AS PROCTIME()") ++ watermark)

/-- What follows that text in a table that is written. -/
def keyText (e : Entity) : String :=
  if e.primaryKey = [] then ""
  else ", PRIMARY KEY (" ++ ", ".intercalate (e.primaryKey.map Name.quotedColumn) ++ ") NOT ENFORCED"

end Entity

/-! ## Columns -/

namespace Column

/-- The type of a decimal is written exactly if its precision and scale are in their bounds. -/
theorem succeeds_decimalSql_iff {c : Column} : Succeeds c.decimalSql ↔ c.HasBounds := by
  have hbounds : c.HasBounds ↔ ¬((c.decimal.getD defaultDecimal).1 = 0 ∨ 38 < (c.decimal.getD defaultDecimal).1 ∨
      (c.decimal.getD defaultDecimal).1 < (c.decimal.getD defaultDecimal).2) := by
    rw [not_or, not_or, UInt8.lt_iff_toNat_lt, UInt8.lt_iff_toNat_lt, ← UInt8.toNat_inj]
    have hdefault : defaultDecimal = (38, 18) := rfl
    have hzero : (0 : UInt8).toNat = 0 := rfl
    have hmost : (38 : UInt8).toNat = 38 := rfl
    rw [hdefault, hzero, hmost]
    constructor
    · rintro ⟨hpos, hle, hscale⟩
      omega
    · rintro ⟨hpos, hle, hscale⟩
      exact ⟨by omega, by omega, by omega⟩
  rw [hbounds]
  show Succeeds (if _ then _ else _) ↔ _
  split_ifs with h
  · exact iff_of_false (not_succeeds_error _) (not_not_intro h)
  · exact iff_of_true (succeeds_ok _) h

/-- Only decimals have a type that may be refused. -/
theorem succeeds_typeSql_iff {c : Column} : Succeeds c.typeSql ↔ (c.type = .decimal → c.HasBounds) := by
  cases htype : c.type with
  | decimal =>
    rw [typeSql, htype, ← succeeds_decimalSql_iff]
    exact ⟨fun h _ => h, fun h => h rfl⟩
  | _ =>
    rw [typeSql, htype]
    exact iff_of_true (succeeds_ok _) nofun

/-- A column is written exactly if it is no decimal, or one in its bounds. -/
theorem succeeds_sql_iff {c : Column} : Succeeds c.sql ↔ (c.type = .decimal → c.HasBounds) := by
  rw [← succeeds_typeSql_iff]
  exact succeeds_bind fun _ _ => succeeds_ok _

/-- What is written of a column is its name and its type. -/
theorem writtenAs_of_sql {c : Column} {text : String} (h : c.sql = .ok text) : c.WrittenAs text := by
  obtain ⟨type, htype, h⟩ := bind_eq_ok.mp h
  have hkafka : c.isKafkaTimestamp = true ↔ c.eventTime = some .kafkaTimestamp := beq_iff_eq
  refine ⟨type, htype, ?_⟩
  rw [← Except.ok.inj h]
  by_cases hvirtual : c.isKafkaTimestamp = true
  · rw [if_pos hvirtual, if_pos (hkafka.mp hvirtual)]
  · rw [if_neg hvirtual, if_neg (mt hkafka.mpr hvirtual)]
    split_ifs
    · rw [String.append_empty]
    · rfl

/-- Columns are written one by one, in order. -/
theorem writtenAs_of_mapM {columns : List Column} {texts : List String} (h : columns.mapM Column.sql = .ok texts) :
    List.Forall₂ WrittenAs columns texts :=
  (forall₂_of_mapM_eq_ok h).imp fun _ _ => writtenAs_of_sql

end Column

namespace Entity

variable {e : Entity}

/-! ## The watermark -/

/-- The columns with an event time are those columns. -/
theorem mem_eventTimes_iff {c : Column} :
    c ∈ e.columns.filter (·.eventTime.isSome) ↔ c ∈ e.columns ∧ c.eventTime.isSome := List.mem_filter

/-- There is an answer if at most one column gives the time of an event, and that one is a timestamp. -/
theorem succeeds_eventTimeColumn_iff :
    Succeeds e.eventTimeColumn ↔
      e.columns.countP (·.eventTime.isSome) ≤ 1 ∧ ∀ c ∈ e.columns, c.eventTime.isSome → c.type = .timestamp := by
  have htypes : (∀ c ∈ e.columns, c.eventTime.isSome → c.type = .timestamp) ↔
      ∀ c ∈ e.columns.filter (·.eventTime.isSome), c.type = .timestamp := by
    simp only [mem_eventTimes_iff, and_imp]
  rw [htypes, List.countP_eq_length_filter, eventTimeColumn]
  cases e.columns.filter (·.eventTime.isSome) with
  | nil => exact iff_of_true (succeeds_ok _) ⟨Nat.zero_le _, nofun⟩
  | cons first others =>
    cases others with
    | cons second others =>
      refine iff_of_false (not_succeeds_error _) fun h => ?_
      have hlength := h.1
      simp at hlength
    | nil =>
      rw [List.forall_mem_singleton]
      show Succeeds (if first.type = .timestamp then _ else _) ↔ _
      split_ifs with htype
      · exact iff_of_true (succeeds_ok _) ⟨Nat.le_refl _, htype⟩
      · exact iff_of_false (not_succeeds_error _) fun h => htype h.2

/-- The event-time column is the only one there is. -/
theorem eventTimes_eq {column : Option Column} (h : e.eventTimeColumn = .ok column) :
    e.columns.filter (·.eventTime.isSome) = column.toList := by
  rw [eventTimeColumn] at h
  split at h
  · rename_i hnone
    cases h
    exact hnone
  · cases h
  · rename_i only honly
    split_ifs at h
    cases h
    exact honly

/-- The delay is there exactly if it is whole, or none is given. -/
theorem succeeds_delay_iff : Succeeds e.delay ↔ ∀ d ∈ e.watermarkDelay, d.IsWhole := by
  rw [delay]
  cases e.watermarkDelay with
  | none => exact iff_of_true (succeeds_ok _) nofun
  | some d =>
    have hsome : (∀ d' ∈ some d, d'.IsWhole) ↔ d.IsWhole := by simp
    rw [hsome, ← Interval.succeeds_ofSpan_iff]
    exact succeeds_bind fun _ _ => succeeds_ok _

/-- What the delay of a table is an interval of. -/
theorem delay_eq_ok {delay : Option Interval} (h : e.delay = .ok delay) :
    (e.watermarkDelay = none ∧ delay = none) ∨ ∃ d i, e.watermarkDelay = some d ∧ Interval.ofSpan d = .ok i ∧ delay = some i := by
  rw [Entity.delay] at h
  split at h
  · rename_i hnone
    cases h
    exact Or.inl ⟨hnone, rfl⟩
  · rename_i d hd
    obtain ⟨i, hi, h⟩ := bind_eq_ok.mp h
    cases h
    exact Or.inr ⟨d, i, hd, hi, rfl⟩

/-- With one column of event time there is one watermark. -/
theorem hasWatermark_column {c : Column} {delay : Option Interval} (hc : e.columns.filter (·.eventTime.isSome) = [c])
    (hdelay : e.delay = .ok delay) : e.HasWatermark [watermarkSql c delay] := by
  obtain ⟨hmem, htime⟩ := mem_eventTimes_iff.mp (hc ▸ List.mem_singleton_self c)
  obtain ⟨hnone, rfl⟩ | ⟨d, i, hd, hi, rfl⟩ := delay_eq_ok hdelay
  · exact .column hmem htime (.none hnone)
  · exact .column hmem htime (.delay hd hi)

/-- What is written of the watermark. -/
theorem hasWatermark_of_watermark {watermark : List String} (h : e.watermark = .ok watermark) : e.HasWatermark watermark := by
  obtain ⟨delay, hdelay, h⟩ := bind_eq_ok.mp h
  obtain ⟨column, hcolumn, h⟩ := bind_eq_ok.mp h
  have htimes := eventTimes_eq hcolumn
  cases column with
  | some c =>
    cases h
    exact hasWatermark_column htimes hdelay
  | none =>
    cases delay with
    | some interval => cases h
    | none =>
      cases h
      refine .none fun c hc => ?_
      have hfilter := List.filter_eq_nil_iff.mp htimes c hc
      exact Option.not_isSome_iff_eq_none.mp hfilter

/-- Where the delay and the event-time column are known, a delay needs such a column. -/
theorem succeeds_watermark_of_ok {delay : Option Interval} {column : Option Column} (hdelay : e.delay = .ok delay)
    (hcolumn : e.eventTimeColumn = .ok column) :
    Succeeds e.watermark ↔ (e.watermarkDelay.isSome → ∃ c ∈ e.columns, c.eventTime.isSome) := by
  have htimes := eventTimes_eq hcolumn
  rw [watermark, succeeds_bind_of_ok hdelay, succeeds_bind_of_ok hcolumn]
  cases column with
  | some c =>
    have hc : c ∈ e.columns.filter (·.eventTime.isSome) := htimes.symm ▸ List.mem_singleton_self c
    obtain ⟨hmem, htime⟩ := mem_eventTimes_iff.mp hc
    exact iff_of_true (succeeds_ok _) fun _ => ⟨c, hmem, htime⟩
  | none =>
    have hnone : ¬∃ c ∈ e.columns, c.eventTime.isSome := by
      rintro ⟨c, hc, htime⟩
      exact List.filter_eq_nil_iff.mp htimes c hc htime
    obtain ⟨habsent, rfl⟩ | ⟨d, i, hd, -, rfl⟩ := delay_eq_ok hdelay
    · refine iff_of_true (succeeds_ok _) fun hsome => ?_
      rw [habsent] at hsome
      cases hsome
    · exact iff_of_false (not_succeeds_error _) fun h => hnone (h (by rw [hd]; rfl))

/-- Whether there is an answer: the delay and the event-time column have one, and there is no delay without such a column. -/
theorem succeeds_watermark_iff :
    Succeeds e.watermark ↔ Succeeds e.delay ∧ Succeeds e.eventTimeColumn ∧
      (e.watermarkDelay.isSome → ∃ c ∈ e.columns, c.eventTime.isSome) := by
  constructor
  · rintro ⟨watermark, h⟩
    have hbind := h
    obtain ⟨delay, hdelay, hbind⟩ := bind_eq_ok.mp hbind
    obtain ⟨column, hcolumn, -⟩ := bind_eq_ok.mp hbind
    exact ⟨⟨delay, hdelay⟩, ⟨column, hcolumn⟩, (succeeds_watermark_of_ok hdelay hcolumn).mp ⟨watermark, h⟩⟩
  · rintro ⟨⟨delay, hdelay⟩, ⟨column, hcolumn⟩, hgiven⟩
    exact (succeeds_watermark_of_ok hdelay hcolumn).mpr hgiven

/-! ## The primary key -/

/-- A key is written exactly if it names a column, and as that name. -/
theorem keySql_eq_ok_iff {key text : String} :
    e.keySql key = .ok text ↔ (∃ c ∈ e.columns, Name.column c.name = Name.column key) ∧ text = Name.quotedColumn key := by
  have hany : (e.columns.any fun c => Name.column c.name == Name.column key) = true ↔
      ∃ c ∈ e.columns, Name.column c.name = Name.column key := by
    simp only [List.any_eq_true, beq_iff_eq]
  rw [keySql, ← hany]
  split_ifs with h
  · simp [h, eq_comm]
  · simp [h]

/-- The keys of a table that is written, in order, if all of them are columns. -/
theorem primaryKeySql_eq_ok_iff {keys : List String} :
    e.primaryKeySql .sink = .ok keys ↔
      e.HasKeyColumns ∧ keys = if e.primaryKey = [] then []
        else ["PRIMARY KEY (" ++ ", ".intercalate (e.primaryKey.map Name.quotedColumn) ++ ") NOT ENFORCED"] := by
  rw [primaryKeySql]
  by_cases hempty : e.primaryKey = []
  · have hkeys : e.HasKeyColumns := by
      intro key hkey
      rw [hempty] at hkey
      cases hkey
    rw [if_pos (List.isEmpty_iff.mpr hempty), if_pos hempty]
    simp [hkeys, eq_comm]
  · rw [if_neg (mt List.isEmpty_iff.mp hempty), if_neg hempty, bind_eq_ok]
    have hmap : ∀ texts, e.primaryKey.mapM e.keySql = .ok texts → texts = e.primaryKey.map Name.quotedColumn := by
      intro texts htexts
      have hread : texts.map id = _ := map_eq_of_mapM_eq_ok (fun key text h => (keySql_eq_ok_iff.mp h).2) htexts
      rwa [List.map_id] at hread
    have hsucceeds : Succeeds (e.primaryKey.mapM e.keySql) ↔ e.HasKeyColumns := by
      rw [succeeds_mapM_iff]
      refine forall₂_congr fun key _ => ⟨fun ⟨_, h⟩ => (keySql_eq_ok_iff.mp h).1, fun h => ⟨_, keySql_eq_ok_iff.mpr ⟨h, rfl⟩⟩⟩
    constructor
    · rintro ⟨texts, htexts, h⟩
      rw [hmap texts htexts] at h
      exact ⟨hsucceeds.mp ⟨texts, htexts⟩, (Except.ok.inj h).symm⟩
    · rintro ⟨hkeys, rfl⟩
      obtain ⟨texts, htexts⟩ := hsucceeds.mpr hkeys
      exact ⟨texts, htexts, by rw [hmap texts htexts]; rfl⟩

/-! ## The whole text -/

/-- The steps of a body, one after the other. -/
theorem bodySql_eq_ok_iff {role : TableRole} {text : String} :
    e.bodySql role = .ok text ↔ e.columns ≠ [] ∧ ∃ columns, e.columns.mapM Column.sql = .ok columns ∧
      ∃ watermark, e.watermark = .ok watermark ∧ ∃ keys, e.primaryKeySql role = .ok keys ∧
        text = ", ".intercalate (columns ++ e.proctimeSql ++ watermark ++ keys) := by
  rw [bodySql]
  by_cases hempty : e.columns = []
  · rw [if_pos (List.isEmpty_iff.mpr hempty)]
    exact iff_of_false nofun fun h => h.1 hempty
  · rw [if_neg (mt List.isEmpty_iff.mp hempty)]
    simp only [bind_eq_ok, hempty, not_false_eq_true, true_and, ne_eq]
    refine exists_congr fun columns => and_congr_right fun _ => exists_congr fun watermark => and_congr_right fun _ =>
      exists_congr fun keys => and_congr_right fun _ => ?_
    exact ⟨fun h => (Except.ok.inj h).symm, fun h => congrArg Except.ok h.symm⟩

/-- What is read is written as a table that is read. -/
theorem readsAs_of_bodySql {text : String} (h : e.bodySql .source = .ok text) : e.ReadsAs text := by
  obtain ⟨-, columns, hcolumns, watermark, hwatermark, keys, hkeys, rfl⟩ := bodySql_eq_ok_iff.mp h
  cases hkeys
  refine ⟨columns, watermark, Column.writtenAs_of_mapM hcolumns, hasWatermark_of_watermark hwatermark, ?_⟩
  rw [List.append_nil]
  rfl

/-- The tables that can be read are the definable ones. -/
theorem succeeds_source_iff : Succeeds (e.bodySql .source) ↔ e.IsDefinable := by
  have hsteps : Succeeds (e.bodySql .source) ↔ e.columns ≠ [] ∧ Succeeds (e.columns.mapM Column.sql) ∧ Succeeds e.watermark := by
    constructor
    · rintro ⟨text, h⟩
      obtain ⟨hcolumns, columns, hsql, watermark, hwatermark, -⟩ := bodySql_eq_ok_iff.mp h
      exact ⟨hcolumns, ⟨columns, hsql⟩, ⟨watermark, hwatermark⟩⟩
    · rintro ⟨hcolumns, ⟨columns, hsql⟩, ⟨watermark, hwatermark⟩⟩
      exact ⟨_, bodySql_eq_ok_iff.mpr ⟨hcolumns, columns, hsql, watermark, hwatermark, [], rfl, rfl⟩⟩
  have hdecimals : Succeeds (e.columns.mapM Column.sql) ↔ ∀ c ∈ e.columns, c.type = .decimal → c.HasBounds := by
    rw [succeeds_mapM_iff]
    exact forall₂_congr fun c _ => Column.succeeds_sql_iff
  rw [hsteps, hdecimals, succeeds_watermark_iff, succeeds_delay_iff, succeeds_eventTimeColumn_iff]
  constructor
  · rintro ⟨hcolumns, hdecimals, hdelay, ⟨hone, htypes⟩, hgiven⟩
    exact ⟨hcolumns, hdecimals, hdelay, hone, htypes, hgiven⟩
  · intro h
    exact ⟨h.columns, h.decimals, h.delay, ⟨h.one_event_time, h.event_time_type⟩, h.event_time_given⟩

/-- The primary key stands behind the other parts of the body. -/
theorem intercalate_key {parts keys : List String} (hparts : parts ≠ []) (hkeys : e.primaryKeySql .sink = .ok keys) :
    ", ".intercalate (parts ++ keys) = ", ".intercalate parts ++ e.keyText := by
  rw [(primaryKeySql_eq_ok_iff.mp hkeys).2, keyText]
  split_ifs
  · rw [List.append_nil, String.append_empty]
  · rw [String.intercalate_append_of_ne_nil hparts (List.cons_ne_nil _ _), String.intercalate_singleton]
    simp only [String.append_assoc]
    rfl

/-- A table that is written has the text of one that is read, and its primary key behind it. -/
theorem sink_eq_ok_iff {text : String} :
    e.bodySql .sink = .ok text ↔ e.HasKeyColumns ∧ ∃ source, e.bodySql .source = .ok source ∧ text = source ++ e.keyText := by
  have hparts : ∀ {columns watermark : List String}, e.columns ≠ [] → e.columns.mapM Column.sql = .ok columns →
      columns ++ e.proctimeSql ++ watermark ≠ [] := by
    intro columns watermark hne hcolumns
    have hcolumns : columns ≠ [] := by
      rintro rfl
      exact hne (List.eq_nil_of_length_eq_zero (length_of_mapM_eq_ok hcolumns).symm)
    exact List.append_ne_nil_of_left_ne_nil (List.append_ne_nil_of_left_ne_nil hcolumns _) _
  constructor
  · intro h
    obtain ⟨hne, columns, hcolumns, watermark, hwatermark, keys, hkeys, rfl⟩ := bodySql_eq_ok_iff.mp h
    refine ⟨(primaryKeySql_eq_ok_iff.mp hkeys).1, ", ".intercalate (columns ++ e.proctimeSql ++ watermark), ?_, ?_⟩
    · exact bodySql_eq_ok_iff.mpr ⟨hne, columns, hcolumns, watermark, hwatermark, [], rfl, by rw [List.append_nil]⟩
    · exact intercalate_key (hparts hne hcolumns) hkeys
  · rintro ⟨hdeclared, source, hsource, rfl⟩
    obtain ⟨hne, columns, hcolumns, watermark, hwatermark, keys, hkeys, rfl⟩ := bodySql_eq_ok_iff.mp hsource
    cases hkeys
    have hsink := primaryKeySql_eq_ok_iff.mpr ⟨hdeclared, rfl⟩
    refine bodySql_eq_ok_iff.mpr ⟨hne, columns, hcolumns, watermark, hwatermark, _, hsink, ?_⟩
    rw [List.append_nil, intercalate_key (hparts hne hcolumns) hsink]

/-- A table can be read exactly if it is definable, and written exactly if moreover its primary key consists of columns. What is read
is its columns, the column with the time of processing and the watermark, whatever the primary key; what is written is the same
text and then the primary key, if there is one. -/
theorem body_of_columns (e : Entity) :
    ((∃ text, e.bodySql .source = .ok text) ↔ e.IsDefinable) ∧
    ((∃ text, e.bodySql .sink = .ok text) ↔ e.IsDefinable ∧ e.HasKeyColumns) ∧
    (∀ text, e.bodySql .source = .ok text → e.ReadsAs text) ∧
    (∀ keys, { e with primaryKey := keys }.bodySql .source = e.bodySql .source) ∧
    (∀ text, e.bodySql .sink = .ok text ↔
      e.HasKeyColumns ∧ ∃ source, e.bodySql .source = .ok source ∧ text = source ++ e.keyText) := by
  refine ⟨succeeds_source_iff, ?_, fun text => readsAs_of_bodySql, fun keys => rfl, fun text => sink_eq_ok_iff⟩
  simp only [sink_eq_ok_iff]
  constructor
  · rintro ⟨text, hdeclared, source, hsource, -⟩
    exact ⟨succeeds_source_iff.mp ⟨source, hsource⟩, hdeclared⟩
  · rintro ⟨hdefinable, hdeclared⟩
    obtain ⟨source, hsource⟩ := succeeds_source_iff.mpr hdefinable
    exact ⟨_, hdeclared, source, hsource, rfl⟩

/-- Payments with the time that Kafka keeps, at most five seconds late. -/
def paymentsEntity : Entity where
  objectName := "payments"
  topicName := "payments"
  columns := [{ name := "PaymentId", type := .bigInt }, { name := "Amount", type := .decimal, nullable := true, decimal := some (18, 2) },
    { name := "PaidAt", type := .timestamp, eventTime := some .kafkaTimestamp }]
  primaryKey := ["paymentid"]
  watermarkDelay := Span.ofParts? 5 0
  proctimeColumn := some "Seen At"

/-- What is read of the payments. -/
def paymentsSql : String :=
  "`paymentid` BIGINT NOT NULL, `amount` DECIMAL(18, 2), `paidat` TIMESTAMP_LTZ(3) METADATA FROM 'timestamp' VIRTUAL, " ++
    "`seen_at` AS PROCTIME(), WATERMARK FOR `paidat` AS `paidat` - INTERVAL '5' SECOND"

/-- Payments are read, and written with their key. With a key that is no column they are not written. -/
theorem payments_written :
    paymentsEntity.bodySql .source = .ok paymentsSql ∧ paymentsEntity.ReadsAs paymentsSql ∧
      paymentsEntity.bodySql .sink = .ok (paymentsSql ++ ", PRIMARY KEY (`paymentid`) NOT ENFORCED") ∧
      ¬∃ text, { paymentsEntity with primaryKey := ["Id"] }.bodySql .sink = .ok text := by
  have hsource : paymentsEntity.bodySql .source = .ok paymentsSql := eq_ok_of_toOption (by decide +kernel)
  have hkeys : paymentsEntity.HasKeyColumns :=
    List.forall_mem_singleton.mpr ⟨_, List.mem_cons_self, by decide +kernel⟩
  have hother : ∀ c ∈ paymentsEntity.columns, Name.column c.name ≠ Name.column "Id" := by decide +kernel
  obtain ⟨-, -, hreads, -, hsink⟩ := body_of_columns paymentsEntity
  refine ⟨hsource, hreads _ hsource, (hsink _).mpr ⟨hkeys, _, hsource, by decide +kernel⟩, fun h => ?_⟩
  obtain ⟨c, hc, hname⟩ := ((body_of_columns _).2.1.mp h).2 "Id" List.mem_cons_self
  exact hother c hc hname

end Entity

end FlinkSql
