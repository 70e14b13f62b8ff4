import FlinkSql.Query.Draft
import FlinkSql.Proofs.Expr.Writable
import FlinkSql.Proofs.Statement.Writing
import Mathlib.Data.List.FinRange

/-!
# Labels that collide

Members of a record may have the same name once it is normalized. This is told twice, by two walks that keep names they have seen: a
warning for each such member when the record is analyzed, and a failure when the plan is written. `Selection.repeatedAt` says without a walk
which members are meant. All of them are warned of, and the first of them is the one that the plan is refused for. A rule of a registry is
free to report a collision too, but those of the standard registry do not.
-/

namespace FlinkSql

/-! ## Members that repeat a name -/

namespace Selection

/-- The normalized name of the member has been seen, or a member before it has the same. -/
def Repeats (seen : List String) (members : List (String × Expr)) (i : Fin members.length) : Prop :=
  Name.column members[i].1 ∈ seen ∨ ∃ j < i, Name.column members[j].1 = Name.column members[i].1

instance (seen : List String) (members : List (String × Expr)) (i : Fin members.length) : Decidable (Repeats seen members i) :=
  inferInstanceAs (Decidable (_ ∨ _))

/-- The positions of the members whose normalized names a member before them has. -/
def repeatedAt (members : List (String × Expr)) : List (Fin members.length) :=
  (List.finRange members.length).filter fun i => ∃ j < i, Name.column members[j].1 = Name.column members[i].1

/-- Behind a member its name counts as seen. -/
theorem repeats_succ_iff {seen : List String} {m : String × Expr} {rest : List (String × Expr)} (i : Fin rest.length) :
    Repeats seen (m :: rest) i.succ ↔ Repeats (Name.column m.1 :: seen) rest i := by
  have hbefore : (∃ j < i.succ, Name.column (m :: rest)[j].1 = Name.column rest[i].1) ↔
      Name.column m.1 = Name.column rest[i].1 ∨ ∃ j < i, Name.column rest[j].1 = Name.column rest[i].1 := by
    rw [Fin.exists_fin_succ]
    refine or_congr (and_iff_right i.succ_pos) (exists_congr fun j => ?_)
    exact and_congr_left' Fin.succ_lt_succ_iff
  show Name.column rest[i].1 ∈ seen ∨ (∃ j < i.succ, Name.column (m :: rest)[j].1 = Name.column rest[i].1) ↔ _
  rw [hbefore, Repeats, List.mem_cons, or_left_comm, or_assoc, eq_comm]

/-- A name that has been seen need not be seen again. -/
theorem repeats_cons_iff {seen : List String} {name : String} (h : name ∈ seen) {members : List (String × Expr)}
    (i : Fin members.length) : Repeats (name :: seen) members i ↔ Repeats seen members i := by
  have hmem : ∀ other, other ∈ name :: seen ↔ other ∈ seen := fun other =>
    List.mem_cons.trans (or_iff_right_of_imp fun heq => heq ▸ h)
  rw [Repeats, Repeats, hmem]

/-- The positions of the members that repeat a name. -/
def repeating (seen : List String) (members : List (String × Expr)) : List (Fin members.length) :=
  (List.finRange members.length).filter fun i => Repeats seen members i

/-- The first member is repeated if its name was seen, and the others are looked at with that name seen. -/
theorem repeating_cons (seen : List String) (m : String × Expr) (rest : List (String × Expr)) :
    (repeating seen (m :: rest) : List (Fin (rest.length + 1))) =
      if Name.column m.1 ∈ seen then 0 :: (repeating (Name.column m.1 :: seen) rest).map Fin.succ
      else (repeating (Name.column m.1 :: seen) rest).map Fin.succ := by
  have hfirst : Repeats seen (m :: rest) (0 : Fin (rest.length + 1)) ↔ Name.column m.1 ∈ seen :=
    or_iff_left fun ⟨j, hj, _⟩ => absurd hj (Fin.not_lt_zero j)
  have hrest : ((List.finRange rest.length).filter fun i => Repeats seen (m :: rest) i.succ) =
      repeating (Name.column m.1 :: seen) rest :=
    List.filter_congr fun i _ => decide_eq_decide.mpr (repeats_succ_iff i)
  rw [← hrest]
  show (List.finRange (rest.length + 1)).filter _ = _
  rw [List.finRange_succ, List.filter_cons, List.filter_map]
  simp only [decide_eq_true_eq]
  exact if_congr hfirst rfl rfl

/-- The walk finds the members that repeat a name, in order. -/
theorem repeatedMembers_eq (seen : List String) (members : List (String × Expr)) :
    repeatedMembers seen members = (repeating seen members).map fun i => members[i].1 := by
  induction members generalizing seen with
  | nil => rfl
  | cons m rest ih =>
    obtain ⟨name, e⟩ := m
    have htail : ((repeating (Name.column name :: seen) rest).map Fin.succ).map
        (fun i : Fin (rest.length + 1) => ((name, e) :: rest)[i].1) = repeatedMembers (Name.column name :: seen) rest := by
      rw [ih, List.map_map]
      rfl
    show _ = (repeating seen ((name, e) :: rest) : List (Fin (rest.length + 1))).map _
    rw [repeatedMembers, repeating_cons]
    split
    · rename_i hseen
      have hagain : repeating (Name.column name :: seen) rest = repeating seen rest :=
        List.filter_congr fun i _ => decide_eq_decide.mpr (repeats_cons_iff hseen i)
      have hsame : repeatedMembers (Name.column name :: seen) rest = repeatedMembers seen rest := by rw [ih, ih, hagain]
      exact congrArg (name :: ·) (hsame.symm.trans htail.symm)
    · exact htail.symm

/-- A record is warned of as the walk finds it. -/
theorem warnings_of_walk (clause : ClauseName) {members : List (String × Expr)} (h : members ≠ []) :
    warnings clause (.record members) = (repeatedMembers [] members).map (.memberCollision clause) := by
  cases members with
  | nil => exact absurd rfl h
  | cons m rest => rfl

/-- One warning for each member that repeats the name of one before it, in order. -/
theorem warnings_record (clause : ClauseName) {members : List (String × Expr)} (h : members ≠ []) :
    warnings clause (.record members) = (repeatedAt members).map fun i => .memberCollision clause members[i].1 := by
  have hnothing : ∀ i : Fin members.length, Repeats [] members i ↔ ∃ j < i, Name.column members[j].1 = Name.column members[i].1 :=
    fun i => or_iff_right List.not_mem_nil
  have hpositions : repeating [] members = repeatedAt members :=
    List.filter_congr fun i _ => decide_eq_decide.mpr (hnothing i)
  rw [warnings_of_walk clause h, repeatedMembers_eq, hpositions, List.map_map]
  rfl

/-- The first warning is about the member that the walk finds first. -/
theorem head?_warnings_iff {members : List (String × Expr)} (h : members ≠ []) (label : String) :
    (warnings .select (.record members)).head? = some (.memberCollision .select label) ↔
      (repeatedMembers [] members).head? = some label := by
  rw [warnings_of_walk .select h, List.head?_map, Option.map_eq_some_iff]
  constructor
  · rintro ⟨_, hlabel, ⟨⟩⟩
    exact hlabel
  · exact fun hlabel => ⟨label, hlabel, rfl⟩

/-- Both clauses warn of the same. -/
theorem length_warnings_eq (e : Expr) : (warnings .groupBy e).length = (warnings .select e).length := by
  unfold warnings
  split
  · rfl
  · rw [List.length_map, List.length_map]
  · rfl

end Selection

/-! ## What the check reports -/

namespace Plan

/-- The plan keeps to every rule but the one on labels: if it selected whole rows, it would be legal. -/
def KeepsOtherRules (p : Plan) : Prop := { p with selection := .wildcard none }.Legal

/-- A plan is legal if its labels do not collide and it keeps the other rules. -/
theorem legal_iff_keepsOtherRules {p : Plan} : p.Legal ↔ p.KeepsOtherRules ∧ (labels p.selection.itemList).Nodup := by
  constructor
  · intro h
    exact ⟨⟨h.source, h.topics, h.joins, h.window, h.slide, h.having, h.grouping, List.nodup_nil⟩, h.labels⟩
  · rintro ⟨h, hlabels⟩
    exact ⟨h.source, h.topics, h.joins, h.window, h.slide, h.having, h.grouping, hlabels⟩

/-- Where all other rules are kept, only labels are at fault. -/
theorem fault?_of_keepsOtherRules {p : Plan} (h : p.KeepsOtherRules) : p.fault? = p.labelFault? := by
  have hnone := fault?_eq_none_iff.mpr h
  unfold fault? at hnone
  simp only [check_eq_none_iff] at hnone
  obtain ⟨hsource, htopics, hwindow, hjoins, hslide, hhaving, hgrouping, -⟩ := hnone
  unfold fault?
  simp only
  exact (if_neg hsource).trans ((if_neg htopics).trans ((if_neg hwindow).trans ((if_neg hjoins).trans ((if_neg hslide).trans
    ((if_neg hhaving).trans (if_neg hgrouping))))))

/-- The check of labels stops at the first member that the other walk finds. -/
theorem collision?_eq (seen : List String) (members : List (String × Expr)) :
    collision? seen (members.map fun m => ⟨m.1, m.2⟩) =
      (Selection.repeatedMembers seen members).head?.map fun label => (label, Name.column label) := by
  induction members generalizing seen with
  | nil => rfl
  | cons m rest ih =>
    obtain ⟨name, e⟩ := m
    rw [List.map_cons, collision?, Selection.repeatedMembers]
    split
    · rfl
    · exact ih _

/-- The fault in the labels of a record is about the member that the other walk finds first. -/
theorem labelFault?_of_record {p : Plan} {members : List (String × Expr)} (hmembers : members ≠ [])
    (hselection : p.selection = .ofExpr (.record members)) :
    p.labelFault? = (Selection.repeatedMembers [] members).head?.map fun label =>
      .constraint (.aliasCollision label (Name.column label)) := by
  have hitems : p.selection.itemList = members.map fun m => ⟨m.1, m.2⟩ := by
    rw [hselection]
    cases members with
    | nil => exact absurd rfl hmembers
    | cons m rest => rfl
  rw [labelFault?, hitems, collision?_eq, Option.map_map]
  rfl

end Plan

/-! ## Who else may report a collision -/

/-- A failure that tells of a collision of labels. -/
def Failure.IsCollision (f : Failure) : Prop := ∃ label name, f = .constraint (.aliasCollision label name)

namespace Registry

/-- Some call is refused with this failure. -/
def Refuses (functions : Registry) (f : Failure) : Prop := ∃ a, functions.write a = .error f

/-- A failure that tells of a collision is one with which the registry refuses a call. -/
def AnswersFor (functions : Registry) (f : Failure) : Prop := f.IsCollision → functions.Refuses f

/-- No collision is reported, unless the registry answers for it. -/
abbrev Accounts {α : Type} (functions : Registry) (x : Except Failure α) : Prop := Outcome functions.AnswersFor (fun _ => True) x

variable {functions : Registry}

/-- A failure of another kind tells of no collision. -/
theorem answersFor_of_kind {f : Failure} (h : f.kind ≠ .dialectConstraint) : functions.AnswersFor f := by
  rintro ⟨label, name, rfl⟩
  exact absurd rfl h

/-- An unsupported expression is one of the failures that are answered for. -/
theorem answersFor_unsupported (cause : Unsupported) : functions.AnswersFor (.expression cause) :=
  answersFor_of_kind (show FailureKind.unsupported ≠ FailureKind.dialectConstraint by decide)

/-- What is written or unsupported is accounted for. -/
theorem accounts_of_written {P : String → Prop} {x : Except Failure String} (h : Written P x) : functions.Accounts x := by
  refine h.mono (fun f hf => answersFor_of_kind ?_) fun _ _ => trivial
  rw [show f.kind = .unsupported from hf]
  decide

/-- The standard registry refuses calls as unsupported. -/
theorem kind_of_standard_refuses {f : Failure} (h : standard.Refuses f) : f.kind = .unsupported := by
  obtain ⟨a, ha⟩ := h
  exact (kept_any.write fun _ _ => trivial).failure ha

end Registry

/-- Writing an expression reports no collision of labels, unless a rule of the registry does. -/
theorem Expr.accounts_sql (functions : Registry) (aliases : Aliases) (e : Expr) : functions.Accounts (e.sql functions aliases) := by
  induction e using induction_children with
  | step e ih =>
    cases e using sqlCases with
    | literal v =>
      rw [Expr.sql]
      exact Registry.accounts_of_written (formsKept_any.literal v)
    | column p name =>
      rw [Expr.sql]
      exact (Registry.accounts_of_written (aliases.written_resolve p)).bind fun _ _ => trivial
    | call f receiver args =>
      rw [sql_call]
      refine (Outcome.mapM ih).bind fun rendered _ => ?_
      exact Outcome.intro (fun _ _ => trivial) fun failure hfailure _ => ⟨_, hfailure⟩
    | form e form hform => exact outcome_of_form trivial (fun _ _ => trivial) (fun _ _ => trivial) hform ih
    | unwritten e failure hkind hnone =>
      rw [hnone]
      refine Registry.answersFor_of_kind ?_
      rw [hkind]
      decide

namespace Plan

section

variable (functions : Registry) (p : Plan)

/-- A span is an interval, or the failure is answered for. -/
theorem accounts_ofSpan (d : Span) : functions.Accounts (Interval.ofSpan d) := by
  refine Outcome.intro (fun _ _ => trivial) fun f hf => Registry.answersFor_of_kind ?_
  rw [failure_of_ofSpan hf]
  decide

/-- What becomes of the items is accounted for. -/
theorem accounts_itemsSql : functions.Accounts (p.itemsSql functions) := by
  unfold itemsSql
  split
  · trivial
  · exact (Registry.accounts_of_written (p.aliases.written_resolve _)).bind fun _ _ => trivial
  · have hitem : ∀ item : Item, functions.Accounts (itemSql functions p.aliases item) := fun item =>
      (item.expr.accounts_sql functions p.aliases).bind fun _ _ => trivial
    exact (Outcome.mapM fun item _ => hitem item).bind fun _ _ => trivial

/-- What becomes of the first table is accounted for, with its window. -/
theorem accounts_fromSql (table : String) (window : Option Window) : functions.Accounts (fromSql table window) := by
  cases window with
  | none => trivial
  | some w =>
    have hfunction : functions.Accounts (windowFunction table w) := by
      refine (accounts_ofSpan functions w.size).bind fun size _ => ?_
      split
      · trivial
      · exact (accounts_ofSpan functions _).bind fun _ _ => trivial
      · rintro ⟨label, name, ⟨⟩⟩
      · trivial
    exact hfunction.bind fun _ _ => trivial

/-- What becomes of the joins is accounted for. -/
theorem accounts_joinsSql (aliases : Aliases) (index : Nat) (joins : List (String × Predicate)) :
    functions.Accounts (joinsSql functions aliases index joins) := by
  induction joins generalizing index with
  | nil => trivial
  | cons join rest ih =>
    exact (join.2.body.accounts_sql functions aliases).bind fun _ _ => (ih (index + 1)).bind fun _ _ => trivial

theorem accounts_wheresSql : functions.Accounts (p.wheresSql functions) :=
  (Outcome.mapM fun predicate _ => predicate.body.accounts_sql functions p.aliases).bind fun _ _ => trivial

theorem accounts_groupBySql : functions.Accounts (p.groupBySql functions) := by
  have hkeys : functions.Accounts (p.groupKeys functions) := by
    unfold groupKeys
    split
    · exact (Outcome.mapM fun item _ => item.expr.accounts_sql functions p.aliases).bind fun _ _ => trivial
    · trivial
  exact hkeys.bind fun _ _ => trivial

/-- What becomes of the condition on groups is accounted for. -/
theorem accounts_having (condition : Expr) : functions.Accounts (Having.sql functions p condition) := by
  unfold Having.sql
  simp only
  split
  · exact condition.accounts_sql functions _
  · split
    · exact Registry.answersFor_unsupported _
    · exact Expr.accounts_sql functions p.aliases _

variable {p}

/-- A plan that passes the check is not refused for colliding labels, unless a rule of the registry says so. -/
theorem accounts_selectSql (h : p.fault? = none) : functions.Accounts (p.selectSql functions) := by
  have hcheck : functions.Accounts p.check := by
    rw [check, h]
    trivial
  have hgrouped : functions.Accounts (p.groupedSql functions) := by
    refine hcheck.bind fun _ _ => ?_
    split
    · rintro ⟨label, name, ⟨⟩⟩
    · exact (accounts_itemsSql functions p).bind fun _ _ => (accounts_fromSql functions _ p.window).bind fun _ _ =>
        (accounts_joinsSql functions p.aliases 1 _).bind fun _ _ => (accounts_wheresSql functions p).bind fun _ _ =>
        (accounts_groupBySql functions p).bind fun _ _ => trivial
  refine hgrouped.bind fun _ _ => ?_
  split
  · trivial
  · exact (accounts_having functions p _).bind fun _ _ => trivial

end

/-! ## Warnings and failures -/

/-- Warnings and failures agree on the members of a record. Each member that repeats the normalized name of one before it is warned of, in
order, and nothing else is. A plan that projects the record and keeps to all other rules is legal if there is no warning, and else it is
refused for the member that the first warning is about, whatever functions are known. Grouping by the same expression gives the same items
and as many warnings. -/
theorem refused_as_warned {members : List (String × Expr)} (hmembers : members ≠ []) :
    (∀ clause, Selection.warnings clause (.record members) =
      (Selection.repeatedAt members).map fun i => .memberCollision clause members[i].1) ∧
    (∀ p : Plan, p.KeepsOtherRules → p.selection = .ofExpr (.record members) →
      (p.Legal ↔ Selection.warnings .select (.record members) = []) ∧
      (∀ functions label, (Selection.warnings .select (.record members)).head? = some (.memberCollision .select label) →
        p.selectSql functions = .error (.constraint (.aliasCollision label (Name.column label)))) ∧
      ∀ functions label name, ¬functions.Refuses (.constraint (.aliasCollision label name)) →
        (p.selectSql functions = .error (.constraint (.aliasCollision label name)) ↔
          (Selection.warnings .select (.record members)).head? = some (.memberCollision .select label) ∧
            name = Name.column label)) ∧
    (∀ label name, ¬Registry.standard.Refuses (.constraint (.aliasCollision label name))) ∧
    ∀ (d : Draft) (e : Expr), (d.take (.setGroupBy e)).plan.grouping = some (d.take (.setSelect e)).plan.selection ∧
      (Selection.warnings .groupBy e).length = (Selection.warnings .select e).length := by
  refine ⟨fun clause => Selection.warnings_record clause hmembers, fun p hrules hselection => ?_, fun label name hrefuses => ?_,
    fun d e => ⟨rfl, Selection.length_warnings_eq e⟩⟩
  · have hlabels := labelFault?_of_record hmembers hselection
    have hfirst : ∀ functions label, (Selection.warnings .select (.record members)).head? = some (.memberCollision .select label) →
        p.selectSql functions = .error (.constraint (.aliasCollision label (Name.column label))) := by
      intro functions label hhead
      rw [Selection.head?_warnings_iff hmembers] at hhead
      refine selectSql_of_fault ?_ functions
      rw [fault?_of_keepsOtherRules hrules, hlabels, hhead, Option.map_some]
    refine ⟨?_, hfirst, fun functions label name hrefuses => ⟨fun herror => ?_, ?_⟩⟩
    · rw [legal_iff_keepsOtherRules, and_iff_right hrules, ← labelFault?_eq_none_iff, hlabels, Option.map_eq_none_iff,
        List.head?_eq_none_iff, Selection.warnings_of_walk .select hmembers, List.map_eq_nil_iff]
    · cases hhead : (Selection.repeatedMembers [] members).head? with
      | none =>
        -- the plan passes the check, so only a rule of the registry could report a collision
        have hfault : p.fault? = none := by rw [fault?_of_keepsOtherRules hrules, hlabels, hhead, Option.map_none]
        exact absurd ((accounts_selectSql functions hfault).failure herror ⟨label, name, rfl⟩) hrefuses
      | some first =>
        have hwarned := (Selection.head?_warnings_iff hmembers first).mpr hhead
        cases (hfirst functions first hwarned).symm.trans herror
        exact ⟨hwarned, rfl⟩
    · rintro ⟨hhead, rfl⟩
      exact hfirst functions label hhead
  · exact absurd (Registry.kind_of_standard_refuses hrefuses) nofun

/-- Columns of orders under other names, some of which are the same once they are normalized. -/
def orderLabels : List (String × Expr) :=
  ["Order-Id", "Amount", "ORDER ID", "order_id", "amount"].map fun label => (label, .column ⟨"o", some "Order"⟩ label)

/-- Orders under these names. -/
def relabelledOrders : Plan := (Draft.empty.take (.addSource "Order")).take (.setSelect (.record orderLabels)) |>.plan

/-- Three of the names are warned of, and the plan is refused for the first of them. -/
theorem relabelledOrders_refused :
    orderLabels ≠ [] ∧ relabelledOrders.KeepsOtherRules ∧
    Selection.warnings .select (.record orderLabels) =
      [.memberCollision .select "ORDER ID", .memberCollision .select "order_id", .memberCollision .select "amount"] ∧
    relabelledOrders.selectSql .standard = .error (.constraint (.aliasCollision "ORDER ID" "order_id")) := by
  have hmembers : orderLabels ≠ [] := nofun
  have hrules : relabelledOrders.KeepsOtherRules := fault?_eq_none_iff.mp rfl
  have hwarnings : Selection.warnings .select (.record orderLabels) =
      [.memberCollision .select "ORDER ID", .memberCollision .select "order_id", .memberCollision .select "amount"] := by
    decide +kernel
  obtain ⟨-, hplan, hstandard, -⟩ := refused_as_warned hmembers
  obtain ⟨-, -, hrefused⟩ := hplan relabelledOrders hrules rfl
  have hname : "order_id" = Name.column "ORDER ID" := by decide +kernel
  exact ⟨hmembers, hrules, hwarnings, (hrefused .standard _ _ (hstandard _ _)).mpr ⟨by rw [hwarnings]; rfl, hname⟩⟩

end Plan

end FlinkSql
