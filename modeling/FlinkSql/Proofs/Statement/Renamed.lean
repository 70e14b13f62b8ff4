import FlinkSql.Proofs.Expr.Renamed
import FlinkSql.Proofs.Statement.Having

/-!
# The names of parameters do not matter to a plan

A plan in which every parameter has another name is written as the same statement. No check looks at a name, a condition on groups
is inlined node by node whatever its parameters are called, and each clause is made of expressions, which are written alike. Names
may be given twice: that makes two parameters one, but an alias belongs to the row type.
-/

namespace FlinkSql

/-! ## Renaming the parts of a plan -/

/-- The item with other names for its parameters. Its label is no name of a parameter. -/
def Item.renamed (r : String → String) (item : Item) : Item := ⟨item.label, item.expr.renamed r⟩

/-- The selection with other names for its parameters. -/
def Selection.renamed (r : String → String) : Selection → Selection
  | .wildcard param => .wildcard (param.map (Param.renamed r))
  | .items values => .items (values.map (Item.renamed r))

/-- The condition with other names for its parameters. -/
def Predicate.renamed (r : String → String) (c : Predicate) : Predicate := ⟨c.body.renamed r, c.params.map (Param.renamed r)⟩

/-- The plan with other names for all of its parameters. -/
def Plan.renamed (r : String → String) (p : Plan) : Plan :=
  { p with
    joins := p.joins.map (Predicate.renamed r)
    wheres := p.wheres.map (Predicate.renamed r)
    projection := p.projection.map (Expr.renamed r)
    selection := p.selection.renamed r
    grouping := p.grouping.map (Selection.renamed r)
    having := p.having.map (Expr.renamed r) }

variable {r : String → String} {functions : Registry}

/-- The items of a renamed projection are the renamed items. -/
theorem Selection.itemList_renamed (s : Selection) : (s.renamed r).itemList = s.itemList.map (Item.renamed r) := by
  cases s <;> rfl

/-- A renamed projection takes all columns if the projection does. -/
theorem Selection.isWildcard_renamed (s : Selection) : (s.renamed r).isWildcard = s.isWildcard := by
  cases s <;> rfl

/-! ## Checks -/

namespace Plan

/-- Labels are not renamed, so they collide as before. -/
theorem collision?_renamed (seen : List String) (items : List Item) :
    collision? seen (items.map (Item.renamed r)) = collision? seen items := by
  induction items generalizing seen with
  | nil => rfl
  | cons item rest ih =>
    rw [List.map_cons, collision?, collision?, ih]
    rfl

/-- A plan breaks the same rule under all names. -/
theorem fault?_renamed (p : Plan) : (p.renamed r).fault? = p.fault? := by
  have hjoins : (p.renamed r).joins.length = p.joins.length := List.length_map _
  have hisJoin : (p.renamed r).isJoin = p.isJoin := by
    rw [isJoin, isJoin, hjoins]
    rfl
  have hhaving : (p.renamed r).having.isSome = p.having.isSome := Option.isSome_map
  have hgrouping : (p.renamed r).grouping.any Selection.isWildcard = p.grouping.any Selection.isWildcard := by
    rw [renamed, Option.any_map]
    exact congrArg (p.grouping.any ·) (funext Selection.isWildcard_renamed)
  have hlabels : (p.renamed r).labelFault? = p.labelFault? := by
    rw [labelFault?, labelFault?, renamed, Selection.itemList_renamed, collision?_renamed]
  unfold fault?
  simp only [hjoins, hisJoin, hhaving, hgrouping, hlabels]
  rfl

/-- A renamed plan keeps and breaks the same rules. -/
theorem check_renamed (p : Plan) : (p.renamed r).check = p.check := by
  rw [check, check, fault?_renamed]

end Plan

/-! ## Conditions on groups -/

namespace Having

variable {items : List Item}

/-- An item is found by its label, renamed or not. -/
theorem itemNamed?_renamed (name : String) :
    itemNamed? (items.map (Item.renamed r)) name = (itemNamed? items name).map (Item.renamed r) := by
  rw [itemNamed?, itemNamed?, List.find?_map]
  rfl

/-- A renamed projection is a scalar if the projection is. -/
theorem scalar?_renamed : scalar? (items.map (Item.renamed r)) = (scalar? items).map (Expr.renamed r) := by
  match items with
  | [] => rfl
  | [item] => exact (apply_ite (Option.map (Expr.renamed r)) (item.label = Selection.scalarLabel) (some item.expr) none).symm
  | _ :: _ :: _ => rfl

/-- What stands for a node goes along with the renaming. -/
theorem inlined?_renamed (n : Expr) :
    inlined? (items.map (Item.renamed r)) (n.renamed r) = (inlined? items n).map (Expr.renamed r) := by
  cases n with
  | column p name =>
    rw [Expr.renamed, inlined?, inlined?, itemNamed?_renamed]
    have hout : (p.renamed r).isOutput = p.isOutput := rfl
    rw [hout]
    split
    · rw [Option.map_map, Option.map_map]
      rfl
    · rfl
  | row p =>
    rw [Expr.renamed, inlined?, inlined?, scalar?_renamed]
    have hout : (p.renamed r).isOutput = p.isOutput := rfl
    rw [hout]
    split <;> rfl
  | call f receiver args => rw [Expr.renamed_call]; rfl
  | record members => rw [Expr.renamed_record]; rfl
  | _ => rw [Expr.renamed]; rfl

/-- A renamed reference is one to the projected row if the reference is: the row type decides. -/
theorem ofOutput_renamed (n : Expr) : ofOutput (n.renamed r) = ofOutput n := by
  have hparam : (n.renamed r).param? = n.param?.map (Param.renamed r) := by
    cases n with
    | call f receiver args => rw [Expr.renamed_call]; rfl
    | record members => rw [Expr.renamed_record]; rfl
    | _ => rw [Expr.renamed]; rfl
  rw [ofOutput, ofOutput, hparam, Option.any_map]
  rfl

/-- Whether the projected row is among the parameters does not depend on names. -/
theorem find?_params_renamed (e : Expr) :
    ((e.renamed r).params.find? Param.isOutput).isNone = (e.params.find? Param.isOutput).isNone := by
  have hnodes : (∀ n ∈ (e.renamed r).nodes, ofOutput n = false) ↔ ∀ n ∈ e.nodes, ofOutput n = false := by
    rw [Expr.nodes_renamed, List.forall_mem_map]
    simp only [ofOutput_renamed]
  rw [Bool.eq_iff_iff, Option.isNone_iff_eq_none, Option.isNone_iff_eq_none, find?_params_eq_none_iff, find?_params_eq_none_iff,
    hnodes]

/-- A condition on groups is written alike under all names. -/
theorem sql_renamed (h : functions.NameBlind) (p : Plan) (condition : Expr) :
    upToKind (sql functions (p.renamed r) (condition.renamed r)) = upToKind (sql functions p condition) := by
  have hitems : (p.renamed r).selection.itemList = p.selection.itemList.map (Item.renamed r) :=
    Selection.itemList_renamed p.selection
  by_cases hempty : p.selection.itemList = []
  · have hempty' : (p.renamed r).selection.itemList = [] := by
      rw [hitems, hempty]
      rfl
    rw [sql, sql, hempty, hempty']
    exact Expr.sql_renamed h r _ condition
  · have hempty' : (p.renamed r).selection.itemList ≠ [] := by
      rw [hitems]
      exact mt List.map_eq_nil_iff.mp hempty
    rw [sql_of_items hempty, sql_of_items hempty', hitems, Expr.rewrite_renamed inlined?_renamed]
    have hnone := find?_params_renamed (r := r) (condition.rewrite (inlined? p.selection.itemList))
    cases hout : (condition.rewrite (inlined? p.selection.itemList)).params.find? Param.isOutput with
    | none =>
      rw [hout, Option.isNone_none, Option.isNone_iff_eq_none] at hnone
      rw [hnone]
      exact Expr.sql_renamed h r p.aliases _
    | some q =>
      rw [hout, Option.isNone_some, Option.isNone_eq_false_iff, Option.isSome_iff_exists] at hnone
      obtain ⟨q', hq'⟩ := hnone
      rw [hq']
      rfl

end Having

/-! ## Clauses -/

namespace Plan

/-- The items are written alike, or fail with the same kind. -/
theorem itemsSql_renamed (h : functions.NameBlind) (p : Plan) :
    upToKind ((p.renamed r).itemsSql functions) = upToKind (p.itemsSql functions) := by
  have hselection : (p.renamed r).selection = p.selection.renamed r := rfl
  rw [itemsSql, itemsSql, hselection]
  match p.selection with
  | .wildcard none => rfl
  | .wildcard (some param) => exact upToKind_bind (p.aliases.resolve_renamed r param) fun _ => rfl
  | .items items =>
    refine upToKind_bind (upToKind_mapM fun item _ => ?_) fun _ => rfl
    exact upToKind_bind (Expr.sql_renamed h r p.aliases item.expr) fun _ => rfl

/-- The joins are written alike, or fail with the same kind. -/
theorem joinsSql_renamed (h : functions.NameBlind) (aliases : Aliases) (index : Nat) (tables : List String)
    (joins : List Predicate) :
    upToKind (joinsSql functions aliases index (tables.zip (joins.map (Predicate.renamed r)))) =
      upToKind (joinsSql functions aliases index (tables.zip joins)) := by
  induction tables generalizing index joins with
  | nil => rfl
  | cons table tables ih =>
    cases joins with
    | nil => rfl
    | cons predicate joins =>
      rw [List.map_cons, List.zip_cons_cons, List.zip_cons_cons, joinsSql, joinsSql]
      exact upToKind_bind (Expr.sql_renamed h r aliases predicate.body) fun _ => upToKind_bind (ih _ _) fun _ => rfl

/-- The conditions on rows are written alike, or fail with the same kind. -/
theorem wheresSql_renamed (h : functions.NameBlind) (p : Plan) :
    upToKind ((p.renamed r).wheresSql functions) = upToKind (p.wheresSql functions) :=
  upToKind_bind (upToKind_mapM fun predicate _ => Expr.sql_renamed h r p.aliases predicate.body) fun _ => rfl

/-- The grouping keys are written alike, with the bounds of the window, or fail with the same kind. -/
theorem groupBySql_renamed (h : functions.NameBlind) (p : Plan) :
    upToKind ((p.renamed r).groupBySql functions) = upToKind (p.groupBySql functions) := by
  have hkeys : upToKind ((p.renamed r).groupKeys functions) = upToKind (p.groupKeys functions) := by
    have hgrouping : (p.renamed r).grouping = p.grouping.map (Selection.renamed r) := rfl
    rw [groupKeys, groupKeys, hgrouping]
    cases p.grouping with
    | none => rfl
    | some keys =>
      show upToKind ((keys.renamed r).itemList.mapM _ >>= _) = _
      rw [Selection.itemList_renamed]
      exact upToKind_bind (upToKind_mapM fun item _ => Expr.sql_renamed h r p.aliases item.expr) fun _ => rfl
  exact upToKind_bind hkeys fun _ => rfl

/-! ## Statements -/

/-- The statement up to its grouping keys is written alike, or fails with the same kind. -/
theorem groupedSql_renamed (h : functions.NameBlind) (p : Plan) :
    upToKind ((p.renamed r).groupedSql functions) = upToKind (p.groupedSql functions) := by
  have htables : (p.renamed r).tableNames = p.tableNames := rfl
  rw [groupedSql, groupedSql, check_renamed, htables]
  refine upToKind_bind rfl fun _ => ?_
  split
  · rfl
  · exact upToKind_bind (itemsSql_renamed h p) fun _ => upToKind_bind rfl fun _ =>
      upToKind_bind (joinsSql_renamed h p.aliases 1 _ p.joins) fun _ => upToKind_bind (wheresSql_renamed h p) fun _ =>
        upToKind_bind (groupBySql_renamed h p) fun _ => rfl

/-- A SELECT is written alike under other names, or fails with the same kind. -/
theorem selectSql_renamed (h : functions.NameBlind) (p : Plan) :
    upToKind ((p.renamed r).selectSql functions) = upToKind (p.selectSql functions) := by
  have hhaving : (p.renamed r).having = p.having.map (Expr.renamed r) := rfl
  rw [selectSql, selectSql, hhaving]
  refine upToKind_bind (groupedSql_renamed h p) fun grouped => ?_
  cases p.having with
  | none => rfl
  | some condition => exact upToKind_bind (Having.sql_renamed h p condition) fun _ => rfl

/-- An INSERT is written alike under other names, or fails with the same kind. -/
theorem insertSql_renamed (h : functions.NameBlind) (p : Plan) (target : InsertTarget) :
    upToKind ((p.renamed r).insertSql functions target) = upToKind (p.insertSql functions target) := by
  have hwindow : (p.renamed r).window = p.window := rfl
  rw [insertSql, insertSql, hwindow]
  split
  · rfl
  · exact upToKind_bind (selectSql_renamed h p) fun _ => rfl

/-- The names of parameters do not matter. Under other names, a plan is written as the same statement if it is written, and fails
with the same kind of failure if it is not; and so is the statement that inserts its results. -/
theorem names_do_not_matter (r : String → String) (p : Plan) (target : InsertTarget) :
    upToKind ((p.renamed r).selectSql .standard) = upToKind (p.selectSql .standard) ∧
      upToKind ((p.renamed r).insertSql .standard target) = upToKind (p.insertSql .standard target) :=
  ⟨selectSql_renamed Registry.nameBlind_standard p, insertSql_renamed Registry.nameBlind_standard p target⟩

end Plan

end FlinkSql
