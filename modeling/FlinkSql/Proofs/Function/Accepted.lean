import FlinkSql.Proofs.Function.Comment

/-!
# Which calls are written

The standard registry writes a call if it has a rule for the shape that does not refuse it, and if the literals that the rule looks at are
fit: an offset that can be counted up, a unit of time that there is (`Call.IsAccepted`). No other rule asks for anything, because a call of
the right shape has an argument for each placeholder. Whatever else is wrong with a call, the failure is that it is unsupported.
-/

namespace FlinkSql

/-! ## Literals that a rule looks at -/

/-- The method whose first argument counts from zero. -/
def Offset.substring : FunctionName := ⟨.string, "substring"⟩

/-- The functions whose first argument names a unit of time. -/
def TimeUnit.functions : List FunctionName := [⟨.flink, "timestamp_diff"⟩, ⟨.flink, "timestamp_add"⟩]

/-- A string literal that names a unit of time, in any letter case. -/
def TimeUnit.IsNamedBy (e : Expr) : Prop :=
  ∃ name, e = .literal (.string name) ∧ ∃ unit ∈ TimeUnit.all, Text.equalsIgnoringCase unit name = true

/-- What the standard registry asks of a call: there is a rule for its shape that does not refuse it, the offset of a substring is not the
integer that has no successor, and a unit of time is named by a literal. -/
structure Call.IsAccepted (c : Call) : Prop where
  rule : ∃ rule, Registry.standard.rule? c.shape = some rule ∧ ∀ hint, rule ≠ .rejected hint
  offset : c.function = Offset.substring → c.args[0]? ≠ some (.literal (.integer Int64.maxValue))
  unit : c.function ∈ TimeUnit.functions → ∃ e, c.args[0]? = some e ∧ TimeUnit.IsNamedBy e

/-! ## Arguments -/

namespace Arguments

variable {a : Arguments}

/-- There is SQL at the positions of the arguments, and nowhere else. -/
theorem succeeds_sql_iff {index : Nat} : Succeeds (a.sql index) ↔ index < a.rendered.length := by
  unfold sql
  split
  · rename_i text htext
    exact iff_of_true (succeeds_ok text) (List.getElem?_eq_some_iff.mp htext).1
  · rename_i hnone
    exact iff_of_false (not_succeeds_error _) (Nat.not_lt.mpr (List.getElem?_eq_none_iff.mp hnone))

/-- Behind the receiver of a method come its arguments. -/
theorem raw_succ_of_isMethod (hshaped : a.call.IsShaped) (hmethod : a.call.function.isMethod = true) (index : Nat) :
    a.raw (index + 1) = a.call.args[index]? := by
  rw [Call.IsShaped, hmethod] at hshaped
  obtain ⟨receiver, hreceiver⟩ := Option.isSome_iff_exists.mp hshaped
  rw [Expr.raw_eq, Expr.parts, hreceiver]
  rfl

/-- Where there is no receiver, the arguments come first. -/
theorem raw_of_not_isMethod (hshaped : a.call.IsShaped) (hmethod : a.call.function.isMethod = false) (index : Nat) :
    a.raw index = a.call.args[index]? := by
  rw [Call.IsShaped, hmethod] at hshaped
  have hreceiver : a.call.receiver = none := Option.isNone_iff_eq_none.mp (Option.isSome_eq_false_iff.mp hshaped)
  rw [Expr.raw_eq, Expr.parts, hreceiver]
  rfl

end Arguments

/-! ## Templates -/

namespace Template

variable {template : String} {a : Arguments}

/-- A piece that can be filled from so many arguments. -/
def Piece.Fits (count : Nat) : Piece → Prop
  | .char _ => True
  | .slot digits => Number.ofDigits digits < count ∧ Number.ofDigits digits < UInt64.size
  | .broken => False

instance (count : Nat) (piece : Piece) : Decidable (piece.Fits count) :=
  match piece with
  | .char _ => inferInstanceAs (Decidable True)
  | .slot digits => inferInstanceAs (Decidable (Number.ofDigits digits < count ∧ Number.ofDigits digits < UInt64.size))
  | .broken => inferInstanceAs (Decidable False)

theorem succeeds_argument_iff (template : String) {digits : List Char} :
    Succeeds (argument template a digits) ↔ (Piece.slot digits).Fits a.rendered.length := by
  unfold argument
  split
  · rename_i hhuge
    exact iff_of_false (not_succeeds_error _) fun h => Nat.not_lt.mpr hhuge h.2
  · rename_i hsmall
    rw [Arguments.succeeds_sql_iff]
    exact (and_iff_left (Nat.not_le.mp hsmall)).symm

/-- Pieces are filled if each of them can be. -/
theorem succeeds_fillPieces_iff (template : String) {pieces : List Piece} :
    Succeeds (fillPieces template a pieces) ↔ ∀ piece ∈ pieces, piece.Fits a.rendered.length := by
  induction pieces with
  | nil => exact iff_of_true (succeeds_ok []) (List.forall_mem_nil _)
  | cons piece rest ih =>
    rw [List.forall_mem_cons, ← ih]
    cases piece with
    | char c =>
      have hrest : Succeeds (fillPieces template a (.char c :: rest)) ↔ Succeeds (fillPieces template a rest) :=
        succeeds_bind fun tail _ => succeeds_ok (c :: tail)
      rw [hrest]
      exact (and_iff_right trivial).symm
    | slot digits =>
      rw [← succeeds_argument_iff template]
      constructor
      · rintro ⟨text, h⟩
        obtain ⟨part, hpart, h⟩ := bind_eq_ok.mp h
        obtain ⟨tail, htail, -⟩ := bind_eq_ok.mp h
        exact ⟨⟨part, hpart⟩, tail, htail⟩
      · rintro ⟨⟨part, hpart⟩, hrest⟩
        refine (succeeds_bind_of_ok hpart).mpr ?_
        exact (succeeds_bind fun tail _ => succeeds_ok (part.toList ++ tail)).mpr hrest
    | broken => exact iff_of_false (not_succeeds_error _) fun h => h.1

theorem succeeds_fill_iff : Succeeds (fill template a) ↔ ∀ piece ∈ pieces template, piece.Fits a.rendered.length := by
  rw [← succeeds_fillPieces_iff template]
  exact succeeds_bind fun text _ => succeeds_ok (String.ofList text)

/-- A call whose template is not filled is unsupported. -/
theorem written_fill (template : String) (a : Arguments) : Written (fun _ => True) (fill template a) := by
  have hpieces : ∀ pieces, Outcome Failure.IsUnsupported (fun _ => True) (fillPieces template a pieces) := by
    intro pieces
    induction pieces with
    | nil => trivial
    | cons piece rest ih =>
      cases piece with
      | char c => exact ih.bind fun _ _ => trivial
      | slot digits =>
        have hslot := Registry.written_placeholder (P := fun _ => True) (a := a) (fun _ _ => trivial) template digits
        exact hslot.bind fun _ _ => ih.bind fun _ _ => trivial
      | broken => exact rfl
  exact (hpieces (pieces template)).bind fun _ _ => trivial

/-- Each template of the standard registry can be filled from the parts of a call. -/
theorem fits_templates : ∀ entry ∈ Registry.standard.rules, ∀ template ∈ entry.2.template?, ∀ piece ∈ pieces template,
    piece.Fits entry.1.arity := by
  decide +kernel

end Template

/-! ## Rules of their own -/

section

variable {a : Arguments}

/-- A test with LIKE asks for its two arguments, and nothing else. -/
theorem Like.succeeds_write (before after : Bool) (hlength : a.rendered.length = 2) : Succeeds (Like.write before after a) := by
  obtain ⟨receiver, hreceiver⟩ := Arguments.succeeds_sql_iff.mpr (show 0 < a.rendered.length by omega)
  obtain ⟨pattern, hpattern⟩ := Arguments.succeeds_sql_iff.mpr (show 1 < a.rendered.length by omega)
  rw [Like.write, succeeds_bind_of_ok hreceiver]
  cases a.stringLiteral? 1 with
  | some literal => exact succeeds_ok _
  | none => exact (succeeds_bind_of_ok hpattern).mpr (succeeds_ok _)

/-- An offset can be counted up unless it is the literal that has no successor. -/
theorem Offset.succeeds_oneBased_iff {index : Nat} (hindex : index < a.rendered.length) :
    Succeeds (Offset.oneBased a index) ↔ a.raw index ≠ some (.literal (.integer Int64.maxValue)) := by
  unfold Offset.oneBased
  split
  · rename_i n hraw
    rw [hraw]
    split
    · rename_i hn
      refine iff_of_true (succeeds_ok _) fun heq => ?_
      cases heq
      exact Int.lt_irrefl _ hn
    · rename_i hn
      have hmax : n = Int64.maxValue := Int64.toInt_inj.mp (Int.le_antisymm n.toInt_le (Int.not_lt.mp hn))
      exact iff_of_false (not_succeeds_error _) fun h => h (by rw [hmax])
  · rename_i hother
    obtain ⟨text, htext⟩ := Arguments.succeeds_sql_iff.mpr hindex
    exact iff_of_true ((succeeds_bind_of_ok htext).mpr (succeeds_ok _)) (hother _)

theorem Offset.succeeds_writeFrom_iff (hlength : a.rendered.length = 2) :
    Succeeds (Offset.writeFrom a) ↔ a.raw 1 ≠ some (.literal (.integer Int64.maxValue)) := by
  obtain ⟨text, htext⟩ := Arguments.succeeds_sql_iff.mpr (show 0 < a.rendered.length by omega)
  rw [← succeeds_oneBased_iff (show 1 < a.rendered.length by omega), writeFrom, succeeds_bind_of_ok htext]
  exact succeeds_bind fun start _ => succeeds_ok _

theorem Offset.succeeds_writeFromFor_iff (hlength : a.rendered.length = 3) :
    Succeeds (Offset.writeFromFor a) ↔ a.raw 1 ≠ some (.literal (.integer Int64.maxValue)) := by
  obtain ⟨text, htext⟩ := Arguments.succeeds_sql_iff.mpr (show 0 < a.rendered.length by omega)
  obtain ⟨count, hcount⟩ := Arguments.succeeds_sql_iff.mpr (show 2 < a.rendered.length by omega)
  rw [← succeeds_oneBased_iff (show 1 < a.rendered.length by omega), writeFromFor, succeeds_bind_of_ok htext]
  exact succeeds_bind fun start _ => (succeeds_bind_of_ok hcount).mpr (succeeds_ok _)

/-- A unit of time is written where a literal names it. -/
theorem TimeUnit.succeeds_ofArgument_iff {index : Nat} :
    Succeeds (ofArgument a index) ↔ ∃ e, a.raw index = some e ∧ IsNamedBy e := by
  unfold ofArgument
  split
  · rename_i hnone
    refine iff_of_false (not_succeeds_error _) ?_
    rintro ⟨_, hraw, name, rfl, -⟩
    rw [Arguments.stringLiteral?, hraw] at hnone
    cases hnone
  · rename_i name hname
    have hraw : a.raw index = some (.literal (.string name)) := by
      unfold Arguments.stringLiteral? at hname
      split at hname
      · cases hname
        assumption
      · cases hname
    rw [hraw]
    split
    · rename_i unit hfound
      refine iff_of_true (succeeds_ok unit) ⟨_, rfl, name, rfl, unit, List.mem_of_find?_eq_some hfound, ?_⟩
      exact List.find?_some (p := (Text.equalsIgnoringCase · name)) hfound
    · rename_i hnone
      refine iff_of_false (not_succeeds_error _) ?_
      rintro ⟨_, heq, _, rfl, unit, hunit, hsame⟩
      cases heq
      exact List.find?_eq_none.mp hnone unit hunit hsame

theorem TimeUnit.succeeds_writeCall_iff {sqlName : String} (hlength : a.rendered.length = 3) :
    Succeeds (writeCall sqlName a) ↔ ∃ e, a.raw 0 = some e ∧ IsNamedBy e := by
  obtain ⟨first, hfirst⟩ := Arguments.succeeds_sql_iff.mpr (show 1 < a.rendered.length by omega)
  obtain ⟨second, hsecond⟩ := Arguments.succeeds_sql_iff.mpr (show 2 < a.rendered.length by omega)
  rw [← succeeds_ofArgument_iff, writeCall]
  exact succeeds_bind fun unit _ => (succeeds_bind_of_ok hfirst).mpr ((succeeds_bind_of_ok hsecond).mpr (succeeds_ok _))

end

/-! ## Calls -/

namespace Registry

variable {a : Arguments}

/-- The functions of which a literal has to be fit have rules of their own. -/
theorem writer_of_function : ∀ entry ∈ standard.rules,
    (entry.1.function = Offset.substring ∨ entry.1.function ∈ TimeUnit.functions) → entry.2.writer?.isSome = true := by
  decide +kernel

/-- A call of another function is accepted if there is a rule for it that does not refuse it. -/
theorem isAccepted_of_rule {c : Call} {rule : Rule} (hrule : standard.rule? c.shape = some rule)
    (hnot : ∀ hint, rule ≠ .rejected hint) (hoffset : c.function ≠ Offset.substring) (hunit : c.function ∉ TimeUnit.functions) :
    c.IsAccepted :=
  ⟨⟨rule, hrule, hnot⟩, fun h => absurd h hoffset, fun h => absurd h hunit⟩

/-- A rule that looks at no literal accepts each call of its shape. -/
theorem isAccepted_of_no_writer {c : Call} {rule : Rule} (hrule : standard.rule? c.shape = some rule)
    (hnot : ∀ hint, rule ≠ .rejected hint) (hwriter : rule.writer? = none) : c.IsAccepted := by
  have hfunction := writer_of_function _ (mem_of_rule? hrule)
  rw [hwriter] at hfunction
  exact isAccepted_of_rule hrule hnot (fun h => nomatch hfunction (Or.inl h)) fun h => nomatch hfunction (Or.inr h)

/-- A test with LIKE is accepted, and written. -/
theorem succeeds_like_iff {before after : Bool} {rule : Rule} (hshape : a.call.shape ∈ likeShapes)
    (hrule : standard.rule? a.call.shape = some rule) (hnot : ∀ hint, rule ≠ .rejected hint) (hlength : a.rendered.length = 2) :
    Succeeds (Like.write before after a) ↔ a.call.IsAccepted := by
  have hother : ∀ shape ∈ likeShapes, shape.function ≠ Offset.substring ∧ shape.function ∉ TimeUnit.functions := by decide
  obtain ⟨hoffset, hunit⟩ := hother _ hshape
  exact iff_of_true (Like.succeeds_write before after hlength) (isAccepted_of_rule hrule hnot hoffset hunit)

/-- A substring is accepted unless its offset has no successor. -/
theorem isAccepted_substring_iff {rule : Rule} (hfunction : a.call.function = Offset.substring) (hshaped : a.call.IsShaped)
    (hrule : standard.rule? a.call.shape = some rule) (hnot : ∀ hint, rule ≠ .rejected hint) :
    a.raw 1 ≠ some (.literal (.integer Int64.maxValue)) ↔ a.call.IsAccepted := by
  rw [Arguments.raw_succ_of_isMethod hshaped (hfunction ▸ rfl)]
  refine ⟨fun h => ⟨⟨rule, hrule, hnot⟩, fun _ => h, fun hunit => ?_⟩, fun h => h.offset hfunction⟩
  rw [hfunction] at hunit
  exact absurd hunit (by decide)

/-- A function of a unit of time is accepted if a literal names the unit. -/
theorem isAccepted_unit_iff {rule : Rule} (hfunction : a.call.function ∈ TimeUnit.functions) (hshaped : a.call.IsShaped)
    (hrule : standard.rule? a.call.shape = some rule) (hnot : ∀ hint, rule ≠ .rejected hint) :
    (∃ e, a.raw 0 = some e ∧ TimeUnit.IsNamedBy e) ↔ a.call.IsAccepted := by
  have hmethod : ∀ f ∈ TimeUnit.functions, f.isMethod = false ∧ f ≠ Offset.substring := by decide
  obtain ⟨hmethod, hoffset⟩ := hmethod _ hfunction
  rw [Arguments.raw_of_not_isMethod hshaped hmethod]
  exact ⟨fun h => ⟨⟨rule, hrule, hnot⟩, fun heq => absurd heq hoffset, fun _ => h⟩, fun h => h.unit hfunction⟩

/-- A call of the right shape, with SQL for each of its parts, is written exactly if it is accepted. -/
theorem succeeds_write_iff (hshaped : a.call.IsShaped) (hlength : a.rendered.length = a.call.shape.arity) :
    Succeeds (standard.write a) ↔ a.call.IsAccepted := by
  unfold Registry.write
  split
  · rename_i hrule
    refine iff_of_false (not_succeeds_error _) fun h => ?_
    obtain ⟨rule, hsome, -⟩ := h.rule
    cases hrule.symm.trans hsome
  · rename_i word hrule
    exact iff_of_true (succeeds_ok _) (isAccepted_of_no_writer hrule nofun rfl)
  · rename_i template hrule
    refine iff_of_true ?_ (isAccepted_of_no_writer hrule nofun rfl)
    rw [Template.succeeds_fill_iff, hlength]
    exact Template.fits_templates _ (mem_of_rule? hrule) template rfl
  · rename_i writer hrule
    cases isStandard_of_rule? hrule with
    | like hshape => exact succeeds_like_iff hshape hrule nofun (hlength.trans (arity_like _ hshape))
    | rest hshape =>
      rw [Offset.succeeds_writeFrom_iff (hlength.trans (hshape ▸ rfl))]
      exact isAccepted_substring_iff (congrArg FunctionShape.function hshape) hshaped hrule nofun
    | part hshape =>
      rw [Offset.succeeds_writeFromFor_iff (hlength.trans (hshape ▸ rfl))]
      exact isAccepted_substring_iff (congrArg FunctionShape.function hshape) hshaped hrule nofun
    | unit _ hshape =>
      have hfunction : ∀ shape ∈ unitShapes, shape.function ∈ TimeUnit.functions := by decide
      rw [TimeUnit.succeeds_writeCall_iff (hlength.trans (arity_unit _ hshape))]
      exact isAccepted_unit_iff (hfunction _ hshape) hshaped hrule nofun
  · rename_i hint hrule
    refine iff_of_false (not_succeeds_error _) fun h => ?_
    obtain ⟨rule, hsome, hnot⟩ := h.rule
    cases hrule.symm.trans hsome
    exact hnot hint rfl

/-- Whatever texts stand for the arguments, a call that is not written is unsupported. -/
theorem kept_any : Kept fun _ => True where
  rename _ _ _ _ := trivial
  template template _ a _ := Template.written_fill template a
  likeLiteral _ _ _ _ _ := trivial
  likeComputed _ _ _ _ := trivial
  offset _ := trivial
  computedOffset _ _ := trivial
  rest _ _ _ _ := trivial
  part _ _ _ _ _ _ := trivial
  unit _ _ _ _ _ _ _ _ := trivial

end Registry

end FlinkSql
