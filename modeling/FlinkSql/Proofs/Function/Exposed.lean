import FlinkSql.Proofs.Expr.Neutral
import FlinkSql.Proofs.Function.Template
import FlinkSql.Proofs.Text.Exposed

/-!
# Exposed arguments

A call of the right shape that is written with the standard registry exposes the SQL of each argument, unless that is a literal
which the rule writes in another form: a pattern, an offset or a unit of time. No decimal is among those.
-/

namespace FlinkSql

open Text

/-! ## Templates -/

namespace Template

variable {a : Arguments}

/-- Filled pieces without quotes of their own end outside quoted regions, if the arguments do. -/
theorem closed_filled (ha : ∀ t ∈ a.rendered, Closed t) {ps : List Piece} (hps : ∀ c, .char c ∈ ps → isQuote c = false) :
    regionAfter none (ps.flatMap (Piece.filled a.rendered)) = none := by
  induction ps with
  | nil => rfl
  | cons piece ps ih =>
    have hpiece : regionAfter none (piece.filled a.rendered) = none := by
      cases piece with
      | char c => exact if_neg (Bool.eq_false_iff.mp (hps c List.mem_cons_self))
      | slot digits =>
        rw [Piece.filled]
        cases hslot : a.rendered[Number.ofDigits digits]? with
        | none => rfl
        | some t => exact ha t (List.mem_of_getElem? hslot)
      | broken => rfl
    rw [List.flatMap_cons, regionAfter_append, hpiece]
    exact ih fun c hc => hps c (List.mem_cons_of_mem _ hc)

/-- A filled template exposes the arguments at its positions. -/
theorem exposes_fill {template text : String} (h : template ∈ Registry.templates) (ha : ∀ t ∈ a.rendered, Closed t)
    (htext : fill template a = .ok text) {i : Nat} (hi : i ∈ positions (pieces template)) {t : String}
    (ht : a.rendered[i]? = some t) : Exposes t text := by
  have htemplates : ∀ template ∈ Registry.templates, template.toList.all (!isQuote ·) = true := by decide +kernel
  obtain ⟨ps, hspells, -, rfl⟩ := fill_eq_ok_iff.mp htext
  rw [pieces, hspells.cut_eq] at hi
  obtain ⟨piece, hpiece, hnumber⟩ := List.mem_filterMap.mp hi
  obtain ⟨before, after, rfl⟩ := List.append_of_mem hpiece
  have hfilled : piece.filled a.rendered = t.toList := by
    cases piece with
    | slot digits =>
      cases hnumber
      rw [Piece.filled, ht]
      rfl
    | _ => cases hnumber
  have hquote : ∀ c, .char c ∈ before → isQuote c = false := by
    intro c hc
    have hmem := hspells.mem_of_char (List.mem_append_left _ hc)
    simpa using List.all_eq_true.mp (htemplates template h) c hmem
  refine ⟨before.flatMap (Piece.filled a.rendered), after.flatMap (Piece.filled a.rendered), ?_, closed_filled ha hquote⟩
  rw [String.toList_ofList, List.flatMap_append, List.flatMap_cons, hfilled, List.append_assoc]

end Template

/-- A literal that is no decimal. -/
def Literal.IsNoDecimal (v : Literal) : Prop := ∀ d, v ≠ .decimal d

namespace Arguments

/-- The text exposes the argument at a position, or a literal stands there that may be written in another form. -/
def ExposedAt (a : Arguments) (index : Nat) (text : String) : Prop :=
  ∀ t, a.rendered[index]? = some t → Exposes t text ∨ ∃ v, a.raw index = some (.literal v) ∧ v.IsNoDecimal

variable {a : Arguments} {index : Nat} {text : String}

/-- An argument whose SQL the text exposes. -/
theorem exposedAt_of_sql {t : String} (h : a.sql index = .ok t) (htext : Exposes t text) : a.ExposedAt index text := by
  intro t' ht'
  cases ht'.symm.trans (rendered_of_sql h)
  exact Or.inl htext

/-- A string literal need not be exposed. -/
theorem exposedAt_of_stringLiteral {s : String} (h : a.stringLiteral? index = some s) : a.ExposedAt index text := by
  unfold stringLiteral? at h
  split at h
  · rename_i hraw
    exact fun _ _ => Or.inr ⟨_, hraw, nofun⟩
  · cases h

/-- Behind the last argument there is nothing to expose. -/
theorem exposedAt_of_length_le (h : a.rendered.length ≤ index) : a.ExposedAt index text := by
  intro t ht
  rw [List.getElem?_eq_none h] at ht
  cases ht

/-- What exposes the text exposes its arguments. -/
theorem ExposedAt.mono {text' : String} (h : a.ExposedAt index text) (htext : ∀ t, Exposes t text → Exposes t text') :
    a.ExposedAt index text' :=
  fun t ht => (h t ht).imp_left (htext t)

end Arguments

namespace Registry

open Arguments

variable {a : Arguments} {text : String}

/-- A word is closed. -/
theorem closed_of_isWord {word : String} (h : isWord word = true) : Closed word := (neutral_of_isWord h).closed

/-- A test for a pattern exposes its receiver, and the pattern unless that is a literal. -/
theorem exposedAt_like (hlength : a.rendered.length = 2) (ha : ∀ t ∈ a.rendered, Neutral t) (before after : Bool)
    (h : Like.write before after a = .ok text) (i : Nat) : a.ExposedAt i text := by
  have hopen : Closed "(" := rfl
  have hlike : Closed " LIKE CONCAT(" := rfl
  have hcomma : Closed ", " := rfl
  have hwild : ∀ wanted : Bool, ∀ part ∈ (if wanted then ["'%'"] else []), Closed part := by
    intro wanted part hpart
    cases wanted with
    | false => cases hpart
    | true =>
      cases List.mem_singleton.mp hpart
      rfl
  obtain ⟨receiver, hreceiver, h⟩ := bind_eq_ok.mp h
  have hclosed : Closed receiver := (ha receiver (List.mem_of_getElem? (rendered_of_sql hreceiver))).closed
  split at h
  · rename_i pattern hpattern
    cases h
    match i with
    | 0 => exact exposedAt_of_sql hreceiver ((((((((hopen.exposes receiver).then _).then _).then _).then _).then _).then _).then _)
    | 1 => exact exposedAt_of_stringLiteral hpattern
    | n + 2 => exact exposedAt_of_length_le (by omega)
  · obtain ⟨pattern, hpattern, h⟩ := bind_eq_ok.mp h
    cases h
    match i with
    | 0 => exact exposedAt_of_sql hreceiver ((((hopen.exposes receiver).then _).then _).then _)
    | 1 =>
      have hpart : Closed pattern := (ha pattern (List.mem_of_getElem? (rendered_of_sql hpattern))).closed
      have hparts : ∀ part ∈ (if before then ["'%'"] else []) ++ [pattern] ++ (if after then ["'%'"] else []), Closed part :=
        List.forall_mem_append.mpr
          ⟨List.forall_mem_append.mpr ⟨hwild before, List.forall_mem_singleton.mpr hpart⟩, hwild after⟩
      have hlist := exposes_intercalate hcomma hparts (List.mem_append_left _ (List.mem_append_right _ List.mem_cons_self))
      exact exposedAt_of_sql hpattern ((hlist.behind ((hopen.append hclosed).append hlike)).then _)
    | n + 2 => exact exposedAt_of_length_le (by omega)

/-- A computed offset exposes the argument that it counts up. -/
theorem exposedAt_oneBased {index : Nat} (h : Offset.oneBased a index = .ok text) : a.ExposedAt index text := by
  unfold Offset.oneBased at h
  split at h
  · rename_i n hraw
    exact fun _ _ => Or.inr ⟨_, hraw, nofun⟩
  · obtain ⟨t, ht, h⟩ := bind_eq_ok.mp h
    cases h
    have hopen : Closed "(" := rfl
    exact exposedAt_of_sql ht ((hopen.exposes t).then _)

/-- The rest of a text exposes the text, and the offset if it is computed. -/
theorem exposedAt_from (hlength : a.rendered.length = 2) (ha : ∀ t ∈ a.rendered, Neutral t) (h : Offset.writeFrom a = .ok text)
    (i : Nat) : a.ExposedAt i text := by
  have hopen : Closed "SUBSTRING(" := rfl
  have hfrom : Closed " FROM " := rfl
  obtain ⟨t, ht, h⟩ := bind_eq_ok.mp h
  obtain ⟨start, hstart, h⟩ := bind_eq_ok.mp h
  cases h
  have hclosed : Closed t := (ha t (List.mem_of_getElem? (rendered_of_sql ht))).closed
  match i with
  | 0 => exact exposedAt_of_sql ht ((((hopen.exposes t).then _).then _).then _)
  | 1 => exact (exposedAt_oneBased hstart).mono fun u hu => (hu.behind ((hopen.append hclosed).append hfrom)).then _
  | n + 2 => exact exposedAt_of_length_le (by omega)

/-- A part of a text exposes the text and the length, and the offset if it is computed. -/
theorem exposedAt_fromFor (hlength : a.rendered.length = 3) (ha : ∀ t ∈ a.rendered, Neutral t)
    (h : Offset.writeFromFor a = .ok text) (i : Nat) : a.ExposedAt i text := by
  have hopen : Closed "SUBSTRING(" := rfl
  have hfrom : Closed " FROM " := rfl
  have hfor : Closed " FOR " := rfl
  obtain ⟨t, ht, h⟩ := bind_eq_ok.mp h
  obtain ⟨start, hstart, h⟩ := bind_eq_ok.mp h
  obtain ⟨length, hlast, h⟩ := bind_eq_ok.mp h
  cases h
  have hclosed : Closed t := (ha t (List.mem_of_getElem? (rendered_of_sql ht))).closed
  have hoffset : Closed start := ((kept_neutral.written_oneBased ha 1).value hstart).closed
  match i with
  | 0 => exact exposedAt_of_sql ht ((((((hopen.exposes t).then _).then _).then _).then _).then _)
  | 1 =>
    refine (exposedAt_oneBased hstart).mono fun u hu => ?_
    exact (((hu.behind ((hopen.append hclosed).append hfrom)).then _).then _).then _
  | 2 =>
    have hfront := (((hopen.append hclosed).append hfrom).append hoffset).append hfor
    exact exposedAt_of_sql hlast ((hfront.exposes length).then _)
  | n + 3 => exact exposedAt_of_length_le (by omega)

/-- A call with a unit of time exposes what stands behind the unit. -/
theorem exposedAt_unit {name : String} (hname : isWord name = true) (hlength : a.rendered.length = 3)
    (ha : ∀ t ∈ a.rendered, Neutral t) (h : TimeUnit.writeCall name a = .ok text) (i : Nat) : a.ExposedAt i text := by
  have hword : ∀ unit ∈ TimeUnit.all, isWord unit = true := by decide
  have hopen : Closed "(" := rfl
  have hcomma : Closed ", " := rfl
  obtain ⟨unit, hunit, h⟩ := bind_eq_ok.mp h
  obtain ⟨first, hfirst, h⟩ := bind_eq_ok.mp h
  obtain ⟨second, hsecond, h⟩ := bind_eq_ok.mp h
  cases h
  have hclosed : Closed first := (ha first (List.mem_of_getElem? (rendered_of_sql hfirst))).closed
  obtain ⟨hmem, literal, hliteral⟩ := (outcome_ofArgument a 0).value hunit
  have hfront := (((closed_of_isWord hname).append hopen).append (closed_of_isWord (hword unit hmem))).append hcomma
  match i with
  | 0 => exact exposedAt_of_stringLiteral hliteral
  | 1 => exact exposedAt_of_sql hfirst ((((hfront.exposes first).then _).then _).then _)
  | 2 => exact exposedAt_of_sql hsecond ((((hfront.append hclosed).append hcomma).exposes second).then _)
  | n + 3 => exact exposedAt_of_length_le (by omega)

/-- A call of the right shape exposes its arguments, but for literals. -/
theorem exposedAt_write (hlength : a.rendered.length = a.call.shape.arity) (ha : ∀ t ∈ a.rendered, Neutral t)
    (h : standard.write a = .ok text) (i : Nat) : a.ExposedAt i text := by
  have hclosed : ∀ t ∈ a.rendered, Closed t := fun t ht => (ha t ht).closed
  unfold Registry.write at h
  split at h
  · cases h
  · rename_i word hrule
    cases isStandard_of_rule? hrule with | word hword
    cases h
    have hopen : Closed "(" := rfl
    have hcomma : Closed ", " := rfl
    intro t ht
    exact Or.inl (((exposes_intercalate hcomma hclosed (List.mem_of_getElem? ht)).behind ((closed_of_isWord hword).append hopen)).then _)
  · rename_i template hrule
    cases isStandard_of_rule? hrule with | template hmem
    intro t ht
    obtain ⟨hbound, -⟩ := List.getElem?_eq_some_iff.mp ht
    have hposition := positions_templates _ (mem_of_rule? hrule) template rfl i (hlength ▸ hbound)
    exact Or.inl (Template.exposes_fill hmem hclosed h hposition ht)
  · rename_i writer hrule
    cases isStandard_of_rule? hrule with
    | like hshape => exact exposedAt_like (hlength.trans (arity_like _ hshape)) ha _ _ h i
    | rest hshape => exact exposedAt_from (hlength.trans (hshape ▸ rfl)) ha h i
    | part hshape => exact exposedAt_fromFor (hlength.trans (hshape ▸ rfl)) ha h i
    | unit hname hshape => exact exposedAt_unit (isWord_unit _ hname) (hlength.trans (arity_unit _ hshape)) ha h i
  · cases h

end Registry

end FlinkSql
