import FlinkSql.Function.Standard
import FlinkSql.Proofs.Outcome
import FlinkSql.Statement.Insert
import Mathlib.Data.List.Basic

/-!
# The remark above a statement

A sink that replaces rows by key has a remark above its INSERT that names the topic. The topic stands in it as it is, so the
remark is one line exactly when the topic has no line break; with a line break, what follows in the topic is no remark any more.
-/

namespace FlinkSql.Plan

/-- Whether the character ends a line, and a remark with it. -/
def isLineBreak (c : Char) : Bool := c == '\n' || c == '\r'

/-- Whether a text goes over several lines. -/
def hasLineBreak (s : String) : Bool := s.toList.any isLineBreak

theorem hasLineBreak_append (s t : String) : hasLineBreak (s ++ t) = (hasLineBreak s || hasLineBreak t) := by
  rw [hasLineBreak, String.toList_append, List.any_append]
  rfl

/-- One line that is a remark. -/
structure IsRemark (line : String) : Prop where
  hyphens : "-- ".toList <+: line.toList
  oneLine : hasLineBreak line = false

/-- What stands before the topic in a remark. -/
def remarkLead : String := "-- upsert sink: topic '"

/-- What stands behind the topic in a remark. -/
def remarkEnd : String := "' is keyed by the sink table's primary key"

/-- The remark without its end of line. -/
def remarkLine (topic : String) : String := remarkLead ++ topic ++ remarkEnd

theorem upsertRemark_eq (topic : String) : upsertRemark topic = remarkLine topic ++ "\n" := by
  have hend : "' is keyed by the sink table's primary key\n" = remarkEnd ++ "\n" := by decide +kernel
  calc upsertRemark topic
      _ = remarkLead ++ topic ++ (remarkEnd ++ "\n") := congrArg (remarkLead ++ topic ++ ·) hend
      _ = remarkLine topic ++ "\n" := String.append_assoc.symm

/-- The remark is one line when the topic has no line break. -/
theorem isRemark_remarkLine_iff {topic : String} : IsRemark (remarkLine topic) ↔ hasLineBreak topic = false := by
  have hlead : hasLineBreak remarkLead = false := by decide +kernel
  have hend : hasLineBreak remarkEnd = false := by decide +kernel
  have hhyphens : "-- ".toList <+: remarkLead.toList := by decide +kernel
  have hbreak : hasLineBreak (remarkLine topic) = hasLineBreak topic := by
    rw [remarkLine, hasLineBreak_append, hasLineBreak_append, hlead, hend, Bool.false_or, Bool.or_false]
  constructor
  · intro h
    rw [← hbreak]
    exact h.oneLine
  · intro h
    refine ⟨?_, hbreak.trans h⟩
    rw [remarkLine, String.toList_append, String.toList_append, List.append_assoc]
    exact hhyphens.trans (List.prefix_append _ _)

/-- What stands before the statement is a remark of one line when the topic has no line break. -/
theorem exists_remark_iff {topic statement : String} :
    (∃ line, IsRemark line ∧ upsertRemark topic ++ statement = line ++ "\n" ++ statement) ↔
      hasLineBreak topic = false := by
  rw [← isRemark_remarkLine_iff, upsertRemark_eq]
  constructor
  · rintro ⟨line, hline, htext⟩
    have hsame : remarkLine topic = line := by
      have hlist := congrArg String.toList htext
      simp only [String.toList_append, List.append_cancel_right_eq] at hlist
      exact String.toList_inj.mp hlist
    rw [hsame]
    exact hline
  · intro h
    exact ⟨remarkLine topic, h, rfl⟩

/-- With a sink that replaces rows, INSERT is the remark and then the statement for a sink that adds rows, whatever its topic. -/
theorem insertSql_upsert {functions : Registry} {p : Plan} {target : InsertTarget} {text : String}
    (hmode : p.sinkMode = .upsert) (h : p.insertSql functions target = .ok text) :
    ∃ statement, text = upsertRemark target.topic ++ statement ∧
      ∀ topic, { p with sinkMode := .appendOnly }.insertSql functions { target with topic := topic } = .ok statement := by
  unfold insertSql at h ⊢
  split at h
  · cases h
  · rename_i hfinal
    obtain ⟨select, hselect, htext⟩ := bind_eq_ok.mp h
    rw [hmode] at htext
    refine ⟨"INSERT INTO " ++ Name.quotedObject target.object ++ " " ++ select ++ ";", (Except.ok.inj htext).symm, ?_⟩
    intro topic
    rw [if_neg hfinal]
    exact bind_eq_ok.mpr ⟨select, hselect, rfl⟩

/-- INSERT for a sink that replaces rows is one line of remark, and then exactly the statement for a sink that adds rows, in
which the topic has no part: this holds when the topic has no line break, and only then. -/
theorem upsert_is_one_remark_iff (functions : Registry) (p : Plan) (target : InsertTarget) (text : String)
    (hmode : p.sinkMode = .upsert) (h : p.insertSql functions target = .ok text) :
    ∃ statement, text = upsertRemark target.topic ++ statement ∧
      (∀ topic, { p with sinkMode := .appendOnly }.insertSql functions { target with topic := topic } = .ok statement) ∧
      ((∃ line, IsRemark line ∧ text = line ++ "\n" ++ statement) ↔ hasLineBreak target.topic = false) := by
  obtain ⟨statement, rfl, hstatement⟩ := insertSql_upsert hmode h
  exact ⟨statement, rfl, hstatement, exists_remark_iff⟩

/-- The latest orders, by key. -/
def latestOrders : Plan where
  sourceTypes := ["Order"]
  sourceTopics := []
  joins := []
  wheres := []
  projection := none
  selection := .wildcard none
  grouping := none
  having := none
  window := none
  hasGroupBy := false
  hasAggregate := false
  hasHaving := false
  sinkMode := .upsert

/-- An ordinary topic. -/
theorem latestOrders_remark :
    ∃ line, IsRemark line ∧ latestOrders.insertSql .standard ⟨.table, .changes, "latest", "latest-orders"⟩ =
      .ok (line ++ "\n" ++ "INSERT INTO `latest` SELECT * FROM `order` AS t0;") := by
  have htext : latestOrders.insertSql .standard ⟨.table, .changes, "latest", "latest-orders"⟩ =
      .ok (upsertRemark "latest-orders" ++ "INSERT INTO `latest` SELECT * FROM `order` AS t0;") :=
    eq_ok_of_toOption (by decide +kernel)
  have hselect : { latestOrders with sinkMode := .appendOnly }.insertSql .standard ⟨.table, .changes, "latest", ""⟩ =
      .ok "INSERT INTO `latest` SELECT * FROM `order` AS t0;" := eq_ok_of_toOption (by decide +kernel)
  obtain ⟨statement, hremark, hstatement, hiff⟩ := upsert_is_one_remark_iff .standard latestOrders _ _ rfl htext
  cases Except.ok.inj (hselect.symm.trans (hstatement ""))
  obtain ⟨line, hline, heq⟩ := hiff.mpr (by decide)
  exact ⟨line, hline, htext.trans (congrArg Except.ok heq)⟩

/-- A topic with a line break: what follows it stands outside the remark. -/
theorem latestOrders_broken_remark :
    ∃ text statement, latestOrders.insertSql .standard ⟨.table, .changes, "latest", "a\nDROP TABLE x; --"⟩ = .ok text ∧
      { latestOrders with sinkMode := .appendOnly }.insertSql .standard ⟨.table, .changes, "latest", "a\nDROP TABLE x; --"⟩ =
        .ok statement ∧
      ¬∃ line, IsRemark line ∧ text = line ++ "\n" ++ statement := by
  refine ⟨upsertRemark "a\nDROP TABLE x; --" ++ "INSERT INTO `latest` SELECT * FROM `order` AS t0;",
    "INSERT INTO `latest` SELECT * FROM `order` AS t0;", eq_ok_of_toOption (by decide +kernel),
    eq_ok_of_toOption (by decide +kernel), ?_⟩
  rw [exists_remark_iff]
  decide

end FlinkSql.Plan
