import FlinkSql.Proofs.Function.Standard
import FlinkSql.Proofs.Text.Reference

/-!
# What the SQL of an expression refers to

The forms of expressions and the rules of the standard registry refer to no column of their own: a word, a literal or a pattern is
never read as a reference. So what the SQL of an expression refers to are the columns of the expression.
-/

namespace FlinkSql

open Text

variable {R : Reference → Prop}

/-! ## Templates -/

namespace Template

/-- Whether pieces refer to nothing and have their placeholders where nothing is in front of them, given whether something is in
front of the first one. -/
def partPieces (ready : Bool) : List Piece → Bool
  | [] => true
  | .char c :: rest => isSilent c && partPieces (!isLead c) rest
  | .slot _ :: rest => ready && partPieces false rest
  | .broken :: _ => false

/-- Filled pieces refer to what the arguments refer to. -/
theorem fillPieces_cites {template : String} {a : Arguments} (ha : ∀ t ∈ a.rendered, Citing R t) {ready : Bool}
    {lead : List Char} (hready : ready = true → lead = []) {pieces : List Piece} (h : partPieces ready pieces = true) :
    Outcome Failure.IsUnsupported (fun text => ∃ lead', Cites R (.outside lead) text (.outside lead'))
      (fillPieces template a pieces) := by
  induction pieces generalizing ready lead with
  | nil => exact ⟨lead, .nil _⟩
  | cons piece rest ih =>
    cases piece with
    | char c =>
      rw [partPieces, Bool.and_eq_true] at h
      obtain ⟨hc, hrest⟩ := h
      have hnext := next_of_silent hc lead
      have hlead : (!isLead c) = true → (if isLead c then c :: lead else []) = [] := by
        intro h
        rw [Bool.not_eq_true'] at h
        rw [h, if_neg Bool.false_ne_true]
      rw [← apply_ite Place.outside] at hnext
      refine (ih hlead hrest).bind fun tail htail => ?_
      obtain ⟨lead', htail⟩ := htail
      exact ⟨lead', .cons rfl hnext htail⟩
    | slot digits =>
      rw [partPieces, Bool.and_eq_true] at h
      obtain ⟨hslot, hrest⟩ := h
      cases hready hslot
      refine (Registry.written_placeholder ha template digits).bind fun text htext => ?_
      obtain ⟨lead₁, htext⟩ := htext
      have hunready : false = true → lead₁ = [] := fun h => absurd h Bool.false_ne_true
      refine (ih hunready hrest).bind fun tail htail => ?_
      obtain ⟨lead₂, htail⟩ := htail
      exact ⟨lead₂, htext.append htail⟩
    | broken => cases h

/-- In the templates of the standard registry, placeholders stand where nothing is in front of them. -/
theorem partPieces_templates : ∀ template ∈ Registry.templates, partPieces true (pieces template) = true := by
  decide +kernel

theorem fill_citing {template : String} (h : template ∈ Registry.templates) {a : Arguments}
    (ha : ∀ t ∈ a.rendered, Citing R t) : Written (Citing R) (fill template a) := by
  refine (fillPieces_cites ha (fun _ => rfl) (partPieces_templates template h)).bind fun text htext => ?_
  show Citing R (String.ofList text)
  rw [Citing, String.toList_ofList]
  exact htext

end Template

/-! ## Patterns -/

/-- A literal pattern stays in the string literal in which it stands. -/
theorem Like.stays_escaped (pattern : List Char) : Stays (escaped pattern) := by
  refine stays_flatMap (fun c => ?_) pattern
  unfold escapedChar
  split_ifs with hwild hquote
  · rcases hwild with rfl | rfl | rfl <;> exact stays_of_not_mem (by decide)
  · exact stays_quotes
  · exact stays_of_not_mem (List.mem_singleton.not.mpr (Ne.symm hquote))

theorem Like.stays_wildcard (wanted : Bool) : Stays (wildcard wanted).toList := by
  cases wanted with
  | true => exact stays_of_not_mem (by decide)
  | false => exact stays_of_not_mem (by decide)

/-! ## Calls -/

theorem silent_of_isWord {word : String} (h : Registry.isWord word = true) : Silent word :=
  silent_of_unmarked fun c hc => not_mark_of_class (by decide) (List.all_eq_true.mp h c hc)

/-- A call: a word with texts between parentheses. -/
theorem citing_call {word : String} {texts : List String} (hword : Silent word) (h : ∀ t ∈ texts, Citing R t) :
    Citing R (word ++ "(" ++ ", ".intercalate texts ++ ")") :=
  (hword.citing.parted (by decide) (Citing.intercalate (by decide) h)).close (by decide)

/-- A test against a literal pattern. -/
theorem citing_likeLiteral {receiver : String} (h : Citing R receiver) (pattern : List Char) (before after : Bool) :
    Citing R ("(" ++ receiver ++ " LIKE '" ++ Like.wildcard before ++ String.ofList (Like.escaped pattern) ++
      Like.wildcard after ++ "' ESCAPE '" ++ String.singleton Like.escape ++ "')") := by
  have hreceiver : Citing R ("(" ++ receiver) := h.behind (by decide)
  have hlike : ∀ lead, Cites R (.outside lead) " LIKE '".toList .literal := fun _ =>
    ⟨rfl, fun _ h => absurd h List.not_mem_nil⟩
  have hescape : Cites R .literal ("' ESCAPE '" ++ String.singleton Like.escape ++ "')").toList (.outside []) :=
    ⟨rfl, fun _ h => absurd h List.not_mem_nil⟩
  have hpattern : Stays (Like.wildcard before ++ String.ofList (Like.escaped pattern) ++ Like.wildcard after).toList := by
    rw [String.toList_append, String.toList_append, String.toList_ofList]
    exact ((Like.stays_wildcard before).append (Like.stays_escaped pattern)).append (Like.stays_wildcard after)
  obtain ⟨lead, hreceiver⟩ := hreceiver
  have htext := hreceiver.append (hpattern.between (hlike lead) hescape)
  rw [← String.toList_append] at htext
  refine ⟨[], ?_⟩
  simpa only [String.append_assoc] using htext

/-- A test against a computed pattern. -/
theorem citing_likeComputed {receiver : String} (h : Citing R receiver) {parts : List String}
    (hparts : ∀ part ∈ parts, Citing R part ∨ part = "'%'") :
    Citing R ("(" ++ receiver ++ " LIKE CONCAT(" ++ ", ".intercalate parts ++ "))") := by
  have hciting : ∀ part ∈ parts, Citing R part := by
    intro part hpart
    rcases hparts part hpart with h | rfl
    · exact h
    · exact (ready_quotedString "%").citing
  exact ((h.behind (by decide)).parted (by decide) (Citing.intercalate (by decide) hciting)).close (by decide)

/-- The rules of the standard registry refer to what the arguments refer to. -/
theorem Registry.kept_citing : Registry.Kept (Citing R) where
  rename word texts hword htexts := citing_call (silent_of_isWord hword) htexts
  template template h a ha := Template.fill_citing h ha
  likeLiteral receiver pattern before after h := citing_likeLiteral h pattern before after
  likeComputed receiver parts h hparts := citing_likeComputed h hparts
  offset n := (silent_of_unmarked (unmarked_numeral (Number.numeral_int n))).citing
  computedOffset text h := (h.behind (by decide)).close (by decide)
  rest text start h hstart := ((h.behind (by decide)).parted (by decide) hstart).close (by decide)
  part text start length h hstart hlength :=
    (((h.behind (by decide)).parted (by decide) hstart).parted (by decide) hlength).close (by decide)
  unit name hname unit hunit first second hfirst hsecond := by
    have hword : ∀ word ∈ ["TIMESTAMPDIFF", "TIMESTAMPADD"] ++ TimeUnit.all, Silent word := by decide
    have hname := hword name (List.mem_append_left _ hname)
    have hunit := hword unit (List.mem_append_right _ hunit)
    have hlead : Citing R (name ++ "(" ++ unit) := hname.citing.parted (by decide) hunit.citing
    exact ((hlead.parted (by decide) hfirst).parted (by decide) hsecond).close (by decide)

/-! ## Expressions -/

namespace Literal

/-- A literal refers to nothing. -/
theorem citing_sql (v : Literal) : Written (Citing R) v.sql := by
  have hfixed : ∀ word ∈ ["NULL", "TRUE", "FALSE"], Silent word := by decide
  have hnumber : ∀ text : String, Number.Numeral text.toList → Citing R text := fun _ h =>
    (silent_of_unmarked (unmarked_numeral h)).citing
  cases v with
  | null => exact (hfixed "NULL" (by decide)).citing
  | boolean value =>
    cases value with
    | true => exact (hfixed "TRUE" (by decide)).citing
    | false => exact (hfixed "FALSE" (by decide)).citing
  | integer n => exact hnumber _ (Number.numeral_int n.toInt)
  | float x =>
    rw [sql]
    split
    · rename_i hfinite
      exact hnumber _ (Number.numeral_numberText hfinite)
    · exact rfl
  | decimal d =>
    rw [sql]
    split
    · rename_i hdecimal
      exact hnumber _ (numeral_of_isDecimal hdecimal)
    · exact rfl
  | string s => exact (ready_quotedString s).citing
  | timestamp t =>
    have hopen : Cites R (.outside []) "TIMESTAMP '".toList .literal := ⟨rfl, fun _ h => absurd h List.not_mem_nil⟩
    have hclose : Cites R .literal "'".toList (.outside []) := ⟨rfl, fun _ h => absurd h List.not_mem_nil⟩
    have hstays := stays_of_not_mem fun hmem => unmarked_timestamp t singleQuote hmem (by decide)
    exact ⟨[], hstays.between hopen hclose⟩

end Literal

namespace Expr

/-- A member of a text refers to what the text refers to. -/
theorem citing_memberSql {name : String} {form : MemberForm} (h : memberForm? name = some form) {text : String}
    (htext : Citing R text) : Citing R (memberSql form text) := by
  cases form with
  | length => exact (htext.behind (by decide)).close (by decide)
  | part part =>
    have hpart : Silent part := by
      unfold memberForm? at h
      split at h <;> cases h <;> decide
    have hextract : Citing R ("EXTRACT(" ++ part) := hpart.citing.behind (by decide)
    exact (hextract.parted (by decide) htext).close (by decide)

/-- The forms of expressions refer to what their parts refer to. -/
theorem formsKept_citing : FormsKept .standard (Citing R) where
  literal v := v.citing_sql
  member name form text hform htext := citing_memberSql hform htext
  not text htext := (htext.behind (by decide)).close (by decide)
  negate text htext := (htext.behind (by decide)).close (by decide)
  test op test text htest htext := by
    have htest : Silent test := by
      unfold nullTest? at htest
      split at htest <;> cases htest <;> decide
    exact ((htext.behind (by decide)).parted (by decide) htest.citing).close (by decide)
  binary op l r hl hr := by
    have hop : Silent op.sql := by cases op <;> decide
    have hleft : Citing R ("(" ++ l ++ " " ++ op.sql) := (hl.behind (by decide)).parted (by decide) hop.citing
    exact (hleft.parted (by decide) hr).close (by decide)
  conditional test yes no htest hyes hno :=
    (((htest.behind (by decide)).parted (by decide) hyes).parted (by decide) hno).close (by decide)
  coalesce l r hl hr := ((hl.behind (by decide)).parted (by decide) hr).close (by decide)
  call _ ha := Registry.kept_citing.write ha

end Expr

end FlinkSql
