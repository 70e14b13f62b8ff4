import FlinkSql.Proofs.Number.Numeral
import FlinkSql.Proofs.Statement.Creation
import FlinkSql.Proofs.Text.Reading
import Mathlib.Data.Nat.Digits.Defs

/-!
# Where a source may start

The forms of the properties that say where a source starts to read: a moment (`IsMoment`), and an offset for each partition
(`IsOffsets`). A mode is accepted if it needs no other property, or if the one that it needs has its form (`Accepts`). Every table that
is read is accepted in this sense, whatever layers its properties come from.
-/

namespace FlinkSql.Startup

open Text Literal

/-! ## Moments -/

/-- The number that digits stand for, the most significant in front. -/
def valueOf (ds : List Char) : Nat := Nat.ofDigits 10 (ds.reverse.map fun c => c.toNat - '0'.toNat)

/-- Reading digits one by one, the most significant first, gives the number that they stand for. -/
theorem ofDigits_eq_valueOf (ds : List Char) : Number.ofDigits ds = valueOf ds := by
  induction ds using List.reverseRecOn with
  | nil => rfl
  | append_singleton ds c ih =>
    rw [valueOf, List.reverse_append, List.reverse_singleton, List.singleton_append, List.map_cons, Nat.ofDigits_cons, ← valueOf, ← ih,
      Number.ofDigits, List.foldl_append]
    exact Nat.add_comm _ _

/-- ASCII digits, one at least, that stand for a number of 64 bits. -/
structure IsWord (ds : List Char) : Prop where
  nonempty : ds ≠ []
  digits : ∀ c ∈ ds, c.isDigit = true
  value_le : valueOf ds ≤ 2 ^ 64 - 1

/-- The check for an unsigned word finds the words. -/
theorem isWord_iff {ds : List Char} :
    (!ds.isEmpty && ds.all Char.isDigit && decide (Number.ofDigits ds < UInt64.size)) = true ↔ IsWord ds := by
  have hsize : Number.ofDigits ds < UInt64.size ↔ valueOf ds ≤ 2 ^ 64 - 1 := by
    rw [ofDigits_eq_valueOf, UInt64.size]
    omega
  simp only [Bool.and_eq_true, Bool.not_eq_true', List.isEmpty_eq_false_iff, List.all_eq_true, decide_eq_true_eq, hsize]
  constructor
  · rintro ⟨⟨hne, hdigits⟩, hvalue⟩
    exact ⟨hne, hdigits, hvalue⟩
  · rintro ⟨hne, hdigits, hvalue⟩
    exact ⟨⟨hne, hdigits⟩, hvalue⟩

/-- A moment in milliseconds. A plus sign may stand in front. -/
inductive IsMoment (text : String) : Prop
  | plain (h : IsWord text.toList)
  | signed {ds : List Char} (h : IsWord ds) (htext : text.toList = '+' :: ds)

/-- The check for milliseconds finds the moments. -/
theorem isMillis_iff {text : String} : isMillis text = true ↔ IsMoment text := by
  have hsign : ¬Char.isDigit '+' = true := by decide
  unfold isMillis
  cases htext : text.toList with
  | nil =>
    simp only [isWord_iff]
    constructor
    · intro h
      exact absurd rfl h.nonempty
    · rintro (h | ⟨h, hsigned⟩)
      · exact absurd htext h.nonempty
      · cases htext.symm.trans hsigned
  | cons c rest =>
    by_cases hc : c = '+'
    · subst hc
      simp only [if_pos, isWord_iff]
      constructor
      · intro h
        exact .signed h htext
      · rintro (h | ⟨h, hsigned⟩)
        · exact absurd (h.digits _ (htext ▸ List.mem_cons_self)) hsign
        · cases htext.symm.trans hsigned
          exact h
    · simp only [if_neg hc, isWord_iff]
      constructor
      · intro h
        exact .plain (htext ▸ h)
      · rintro (h | ⟨h, hsigned⟩)
        · exact htext ▸ h
        · cases htext.symm.trans hsigned
          exact absurd rfl hc

/-! ## Offsets -/

/-- The offset of a partition, both with decimal digits of any script. -/
def IsOffset (s : List Char) : Prop :=
  ∃ partition offset, IsDigits partition ∧ IsDigits offset ∧ s = "partition:".toList ++ (partition ++ (",offset:".toList ++ offset))

/-- Offsets with semicolons between them, one at least. -/
def IsOffsets (text : String) : Prop :=
  ∃ items : List (List Char), items ≠ [] ∧ (∀ item ∈ items, IsOffset item) ∧ text.toList = [';'].intercalate items

/-- Both scanners drop a fixed word alike. -/
theorem after?_eq (word : String) (s : List Char) : after? word s = Text.after? word s := by
  refine Option.ext fun rest => ?_
  rw [Text.after?_eq_some_iff, after?, ← String.length_toList]
  constructor
  · intro h
    split at h
    · rename_i hword
      obtain ⟨behind, rfl⟩ := List.isPrefixOf_iff_prefix.mp hword
      rw [List.drop_left] at h
      rw [Option.some.inj h]
    · cases h
  · rintro rfl
    rw [if_pos (List.isPrefixOf_iff_prefix.mpr (List.prefix_append _ _)), List.drop_left]

/-- The check for digits finds the texts of one digit and more, of any script. -/
theorem isDigits_iff {s : List Char} : (!s.isEmpty && s.all isDecimalDigit) = true ↔ IsDigits s := by
  rw [Bool.and_eq_true, Bool.not_eq_true', List.isEmpty_eq_false_iff, List.all_eq_true]
  exact ⟨fun ⟨hne, hdigits⟩ => ⟨hne, hdigits⟩, fun h => ⟨h.nonempty, h.digits⟩⟩

/-- The check of one entry finds the offsets. -/
theorem isOffset_iff {s : List Char} : isOffset s = true ↔ IsOffset s := by
  simp only [isOffset, after?_eq]
  constructor
  · intro h
    cases hlead : Text.after? "partition:" s with
    | none => simp [hlead] at h
    | some more =>
      rw [hlead, Bool.and_eq_true] at h
      obtain ⟨hpartition, hoffset⟩ := h
      cases hword : Text.after? ",offset:" (more.dropWhile isDecimalDigit) with
      | none => simp [hword] at hoffset
      | some offset =>
        simp only [hword] at hoffset
        refine ⟨more.takeWhile isDecimalDigit, offset, ⟨by simpa using hpartition, fun c hc => List.mem_takeWhile_imp hc⟩,
          isDigits_iff.mp hoffset, ?_⟩
        rw [Text.after?_eq_some_iff.mp hlead, ← Text.after?_eq_some_iff.mp hword, List.takeWhile_append_dropWhile]
  · rintro ⟨partition, offset, hpartition, hoffset, rfl⟩
    have hcomma : ∀ c ∈ (",offset:".toList ++ offset).head?, isDecimalDigit c = false := by
      intro c hc
      cases hc
      decide
    rw [Text.after?_append]
    simp only [takeWhile_append_of_head hpartition.digits hcomma, dropWhile_append_of_head hpartition.digits hcomma, Text.after?_append,
      isDigits_iff.mpr hoffset, List.isEmpty_eq_false_iff.mpr hpartition.nonempty]
    rfl

/-- No separator stands inside an offset. -/
theorem IsOffset.not_mem {s : List Char} (h : IsOffset s) : ';' ∉ s := by
  obtain ⟨partition, offset, hpartition, hoffset, rfl⟩ := h
  have hdigits : ∀ {ds : List Char}, IsDigits ds → ';' ∉ ds := by
    intro ds hds hmem
    exact absurd (hds.digits _ hmem) (by decide)
  simp only [List.mem_append, not_or]
  exact ⟨by decide, hdigits hpartition, by decide, hdigits hoffset⟩

/-- Cutting at a separator is the splitting of lists. -/
theorem parts_eq_splitOn (separator : Char) (s : List Char) : parts separator s = s.splitOn separator := by
  induction s with
  | nil => rfl
  | cons c s ih =>
    rw [parts, ih, List.splitOn_cons_eq_if_modifyHead]
    by_cases hc : c = separator
    · rw [if_pos hc, if_pos (beq_iff_eq.mpr hc)]
    · rw [if_neg hc, if_neg (beq_iff_eq.not.mpr hc)]
      cases hparts : s.splitOn separator with
      | nil => exact absurd hparts (List.splitOn_ne_nil separator s)
      | cons first others => rfl

/-- The check of a list of offsets finds the lists of offsets. -/
theorem isOffsets_iff {text : String} : isOffsets text = true ↔ IsOffsets text := by
  rw [isOffsets, parts_eq_splitOn, List.all_eq_true]
  simp only [isOffset_iff]
  constructor
  · intro h
    exact ⟨_, List.splitOn_ne_nil ';' text.toList, h, (List.intercalate_splitOn ';').symm⟩
  · rintro ⟨items, hne, hitems, htext⟩
    rw [htext, List.splitOn_intercalate ';' (fun item hitem => (hitems item hitem).not_mem) hne]
    exact hitems

/-! ## Modes -/

/-- The name of a mode. -/
def Mode.name : Mode → String
  | .earliestOffset => "earliest-offset"
  | .latestOffset => "latest-offset"
  | .groupOffsets => "group-offsets"
  | .timestamp => "timestamp"
  | .specificOffsets => "specific-offsets"

/-- A mode is found by its name, as it is spelled. -/
theorem Mode.ofName?_eq_some_iff {name : String} {mode : Mode} : Mode.ofName? name = some mode ↔ name = mode.name := by
  constructor
  · intro h
    unfold ofName? at h
    split at h <;> cases h <;> rfl
  · rintro rfl
    cases mode <;> rfl

/-- A source may start in a mode: the mode needs no other property, or the one that it needs has its form. -/
def Allows (value? : String → Option String) (mode : String) : Prop :=
  mode ∈ ["earliest-offset", "latest-offset", "group-offsets"] ∨
    (mode = "timestamp" ∧ ∃ text, value? timestampKey = some text ∧ IsMoment text) ∨
    (mode = "specific-offsets" ∧ ∃ text, value? offsetsKey = some text ∧ IsOffsets text)

/-- A source may start where its properties say, if they say anything of it. -/
def Accepts (value? : String → Option String) : Prop := ∀ mode, value? modeKey = some mode → Allows value? mode

/-- The mode that starts at a time wants a moment. -/
theorem allows_timestamp_iff {value? : String → Option String} :
    Allows value? "timestamp" ↔ ∃ text, value? timestampKey = some text ∧ IsMoment text := by
  simp [Allows]

/-- The mode that starts at offsets wants a list of them. -/
theorem allows_specificOffsets_iff {value? : String → Option String} :
    Allows value? "specific-offsets" ↔ ∃ text, value? offsetsKey = some text ∧ IsOffsets text := by
  simp [Allows]

/-- A mode that is allowed has one of the names. -/
theorem Allows.exists_mode {value? : String → Option String} {name : String} (h : Allows value? name) :
    ∃ mode : Mode, name = mode.name := by
  rcases h with hplain | ⟨rfl, -⟩ | ⟨rfl, -⟩
  · simp only [List.mem_cons, List.not_mem_nil, or_false] at hplain
    rcases hplain with rfl | rfl | rfl
    · exact ⟨.earliestOffset, rfl⟩
    · exact ⟨.latestOffset, rfl⟩
    · exact ⟨.groupOffsets, rfl⟩
  · exact ⟨.timestamp, rfl⟩
  · exact ⟨.specificOffsets, rfl⟩

/-- What is checked of the property that a mode needs. -/
def checkCompanion (form : String → Bool) (value : Option String) (missing : Misconfigured) (malformed : String → Misconfigured) :
    Except Failure Unit :=
  match value with
  | none => .error (.configuration missing)
  | some text => if form text then .ok () else .error (.configuration (malformed text))

/-- The option that a mode wants is there and well formed and passes, or it is not and the table is refused. -/
theorem companion_settles {form : String → Bool} {IsForm : String → Prop} (hform : ∀ {text}, form text = true ↔ IsForm text)
    (value : Option String) (missing : Misconfigured) (malformed : String → Misconfigured) :
    ((∃ text, value = some text ∧ IsForm text) ∧ checkCompanion form value missing malformed = .ok ()) ∨
      (¬(∃ text, value = some text ∧ IsForm text) ∧
        ∃ cause, checkCompanion form value missing malformed = .error (.configuration cause)) := by
  cases value with
  | none => exact Or.inr ⟨nofun, _, rfl⟩
  | some text =>
    by_cases htext : form text = true
    · exact Or.inl ⟨⟨text, rfl, hform.mp htext⟩, if_pos htext⟩
    · refine Or.inr ⟨?_, _, if_neg htext⟩
      rintro ⟨_, ⟨⟩, h⟩
      exact htext (hform.mpr h)

/-- The check is passed in a mode that is allowed, and refused as a matter of configuration in any other. -/
theorem check_of_mode {w : WithClause} {name : String} (hname : w.get? modeKey = some name) :
    (Allows w.get? name ∧ check w = .ok ()) ∨ (¬Allows w.get? name ∧ ∃ cause, check w = .error (.configuration cause)) := by
  simp only [check, hname]
  cases hmode : Mode.ofName? name with
  | none =>
    refine Or.inr ⟨fun hallows => ?_, _, rfl⟩
    obtain ⟨mode, rfl⟩ := hallows.exists_mode
    cases hmode.symm.trans (Mode.ofName?_eq_some_iff.mpr rfl)
  | some mode =>
    obtain rfl := Mode.ofName?_eq_some_iff.mp hmode
    cases mode with
    | earliestOffset | latestOffset | groupOffsets => exact Or.inl ⟨Or.inl (by decide), rfl⟩
    | timestamp =>
      rw [Mode.name, allows_timestamp_iff]
      exact companion_settles isMillis_iff (w.get? timestampKey) .startupTimestampMissing .startupTimestampMalformed
    | specificOffsets =>
      rw [Mode.name, allows_specificOffsets_iff]
      exact companion_settles isOffsets_iff (w.get? offsetsKey) .startupOffsetsMissing .startupOffsetsMalformed

/-- The check is passed by the properties that are accepted, and refused as a matter of configuration for all others. -/
theorem check_settles (w : WithClause) :
    (Accepts w.get? ∧ check w = .ok ()) ∨ (¬Accepts w.get? ∧ ∃ cause, check w = .error (.configuration cause)) := by
  cases hname : w.get? modeKey with
  | none =>
    refine Or.inl ⟨fun mode hmode => ?_, ?_⟩
    · cases hname.symm.trans hmode
    · rw [check, hname]
  | some name =>
    have hmode : Accepts w.get? ↔ Allows w.get? name := by simp [Accepts, hname]
    rw [hmode]
    exact check_of_mode hname

/-! ## Tables that are read -/

/-- The check of where a source starts accepts exactly the properties with a mode that needs no other property or that has the one it
needs, in its form; all others are refused as a matter of configuration. So a statement for a table that is read has properties of which
this holds, each with the value that the last of the layers gives it. -/
theorem sources_start_as_accepted :
    (∀ w : WithClause, check w = .ok () ↔ Accepts w.get?) ∧
    (∀ w : WithClause, ¬Accepts w.get? → ∃ cause, check w = .error (.configuration cause)) ∧
    ∀ (e : Entity) (o : ConnectorOptions) (additional : Option Layer) (statement : String),
      e.createSql o .source additional = .ok statement →
        ∃ properties, e.CreatesWith .source properties statement ∧
          Layers.Lists (e.fixedProperties o) (e.layers o .source additional) properties ∧ Accepts fun key => properties.lookup key := by
  have hcheck : ∀ w : WithClause, check w = .ok () ↔ Accepts w.get? := by
    intro w
    rcases check_settles w with ⟨haccepts, hok⟩ | ⟨hrefused, cause, herror⟩
    · exact iff_of_true hok haccepts
    · exact iff_of_false (by rw [herror]; exact nofun) hrefused
  refine ⟨hcheck, fun w hrefused => ?_, fun e o additional statement h => ?_⟩
  · rcases check_settles w with ⟨haccepts, -⟩ | ⟨-, hcause⟩
    · exact absurd haccepts hrefused
    · exact hcause
  · obtain ⟨-, clause, hclause, hstart, hcreates⟩ := Entity.createSql_eq_ok_iff.mp h
    rcases Layers.applyAll_settles (e.nodup_fixedProperties o) (e.layers o .source additional) with
      ⟨-, cause, hrefused⟩ | ⟨-, settled, hsettled, hlists⟩
    · cases hrefused.symm.trans hclause
    · cases hsettled.symm.trans hclause
      refine ⟨clause.pairs, hcreates, hlists.lists, ?_⟩
      simp only [WithClause.lookup_pairs]
      exact (hcheck clause).mp hstart

/-- Offsets to start from, for the orders. -/
def offsetsOptions : ConnectorOptions where
  properties := .ofList [("scan.startup.specific-offsets", "partition:0,offset:7")]
  topics := .ofList [("orders", { source := .ofList [("scan.startup.mode", "specific-offsets")], mayOverride := true })]

/-- Other offsets on top of them. -/
def laterOffsets : Layer :=
  ⟨"additional", .ofList [("scan.startup.specific-offsets", "partition:0,offset:42;partition:1,offset:300")], true⟩

/-- The properties of the orders as they are read. -/
def offsetsProperties : List (String × String) :=
  [("connector", "kafka"), ("topic", "orders"), ("format", "avro-confluent"), ("properties.bootstrap.servers", "localhost:9092"),
    ("scan.startup.specific-offsets", "partition:0,offset:42;partition:1,offset:300"), ("scan.startup.mode", "specific-offsets")]

/-- The statement with them. -/
def ordersSourceSql : String := Entity.ordersEntity.statementSql "`amount` STRING NOT NULL" offsetsProperties

/-- The table of orders is written with its offsets, and the statement is as expected. -/
theorem ordersEntity_read : Entity.ordersEntity.createSql offsetsOptions .source (some laterOffsets) = .ok ordersSourceSql := by
  have hlayers : ((Entity.ordersEntity.withClause offsetsOptions .source (some laterOffsets)).toOption.map
      fun clause => (clause.pairs, (check clause).toOption)) = some (offsetsProperties, some ()) := by
    decide +kernel
  obtain ⟨clause, hclause, hread⟩ := Option.map_eq_some_iff.mp hlayers
  obtain ⟨hpairs, hstart⟩ := Prod.mk.inj hread
  have hbody : Entity.ordersEntity.bodySql .source = .ok "`amount` STRING NOT NULL" := eq_ok_of_toOption (by decide)
  refine Entity.createSql_eq_ok_iff.mpr ⟨by decide, clause, eq_ok_of_toOption hclause, eq_ok_of_toOption hstart, _, hbody, ?_⟩
  rw [hpairs, ordersSourceSql]

/-- A moment before the first one is refused. The orders are read from the offsets of the topmost layer, in the mode of a lower one. -/
theorem orders_start_at_offsets :
    (¬Accepts (WithClause.fixed [(modeKey, "timestamp"), (timestampKey, "-1")]).get? ∧
      ∃ cause, check (.fixed [(modeKey, "timestamp"), (timestampKey, "-1")]) = .error (.configuration cause)) ∧
    Entity.ordersEntity.createSql offsetsOptions .source (some laterOffsets) = .ok ordersSourceSql ∧
    ∃ properties, Entity.ordersEntity.CreatesWith .source properties ordersSourceSql ∧
      Layers.Lists (Entity.ordersEntity.fixedProperties offsetsOptions)
        (Entity.ordersEntity.layers offsetsOptions .source (some laterOffsets)) properties ∧
      Accepts fun key => properties.lookup key := by
  obtain ⟨hcheck, hrefused, hread⟩ := sources_start_as_accepted
  have hmoment : ¬Accepts (WithClause.fixed [(modeKey, "timestamp"), (timestampKey, "-1")]).get? := by
    rw [← hcheck]
    decide
  exact ⟨⟨hmoment, hrefused _ hmoment⟩, ordersEntity_read, hread _ _ _ _ ordersEntity_read⟩

end FlinkSql.Startup
