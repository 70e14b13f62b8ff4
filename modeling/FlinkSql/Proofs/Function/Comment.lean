import FlinkSql.Proofs.Function.Standard
import FlinkSql.Proofs.Text.Comment

/-!
# Comments in calls

A call that is written with the standard registry is composed of the SQL of its arguments. A call of the right shape shows all of
them but literals: a pattern, an offset or a unit that is a literal is written in another form. Of all calls only an element of an
array begins with the SQL of an argument.
-/

namespace FlinkSql

open Text

/-! ## Shapes -/

/-- Whether the function is a method, called on a receiver. -/
def FunctionName.isMethod (f : FunctionName) : Bool := f.origin == .string && f.name != "concat"

/-- The number of parts of a call, the receiver counted. -/
def FunctionShape.arity (s : FunctionShape) : Nat := s.argc + s.function.isMethod.toNat

/-- A call of a method has a receiver, and no other call has one. -/
def Call.IsShaped (c : Call) : Prop := c.receiver.isSome = c.function.isMethod

/-- The arity of a call of the right shape is the number of its parts. -/
theorem Call.IsShaped.arity_eq {c : Call} (h : c.IsShaped) : c.shape.arity = (Expr.parts c.receiver c.args).length := by
  rw [FunctionShape.arity, Call.shape, ← h, Expr.parts, List.length_append, Nat.add_comm]
  cases c.receiver <;> rfl

/-! ## Templates -/

/-- The SQL of an argument is what stands at its position. -/
theorem Arguments.rendered_of_sql {a : Arguments} {index : Nat} {t : String} (h : a.sql index = .ok t) : a.rendered[index]? = some t := by
  unfold Arguments.sql at h
  split at h
  · cases h
    assumption
  · cases h

namespace Template

/-- The number of a placeholder. -/
def Piece.number? : Piece → Option Nat
  | .slot digits => some (Number.ofDigits digits)
  | _ => none

/-- The positions that a template shows. -/
def positions (pieces : List Piece) : List Nat := pieces.filterMap Piece.number?

/-- Reads pieces with calm texts in the placeholders, which have to stand where nothing is in front of them. -/
def seePieces (sight : Sight) : List Piece → Option Sight
  | [] => some sight
  | .char c :: rest => (sight.next c).bind fun sight => seePieces sight rest
  | .slot _ :: rest => if sight = .plain then seePieces .plain rest else none
  | .broken :: _ => none

/-- What stands for a placeholder is the argument with its number. -/
theorem rendered_of_argument {template part : String} {a : Arguments} {digits : List Char}
    (h : argument template a digits = .ok part) : a.rendered[Number.ofDigits digits]? = some part := by
  unfold argument at h
  split at h
  · cases h
  · exact Arguments.rendered_of_sql h

/-- Where what is shown is settled, reading the text tells whether it is calm: it ends in plain sight if all of it is, and in a
comment if some of it is not. -/
def TellsCalm (sight : Sight) (shown : List String) (text : List Char) : Prop :=
  (∀ t ∈ shown, Settled t) →
    (sight.read text = some .plain ∧ ∀ t ∈ shown, Calm t) ∨ (sight.read text = none ∧ ∃ t ∈ shown, ¬Calm t)

/-- Reading a part and a text behind it tells of both. -/
theorem TellsCalm.cons {shown : List String} {tail : List Char} (h : TellsCalm .plain shown tail) (part : String) :
    TellsCalm .plain (part :: shown) (part.toList ++ tail) := by
  intro hsettled
  obtain ⟨hpart, hshown⟩ := List.forall_mem_cons.mp hsettled
  rw [Sight.read_append]
  rcases hpart with hcalm | hnone
  · rw [show _ = _ from hcalm, Option.bind_some]
    rcases h hshown with ⟨htail, hall⟩ | ⟨htail, t, ht, hnot⟩
    · exact Or.inl ⟨htail, List.forall_mem_cons.mpr ⟨hcalm, hall⟩⟩
    · exact Or.inr ⟨htail, t, List.mem_cons_of_mem _ ht, hnot⟩
  · rw [hnone]
    refine Or.inr ⟨rfl, part, List.mem_cons_self, fun hcalm => ?_⟩
    rw [Calm, hnone] at hcalm
    cases hcalm

/-- Filled pieces show the arguments at their positions, and reading them tells whether those are calm. -/
theorem fillPieces_composed {template : String} {a : Arguments} {pieces : List Piece} {sight : Sight} {text : List Char}
    (hsee : seePieces sight pieces = some .plain) (h : fillPieces template a pieces = .ok text) :
    ∃ shown : List String, (∀ t ∈ shown, t ∈ a.rendered) ∧
      (∀ i ∈ positions pieces, ∃ t ∈ shown, a.rendered[i]? = some t) ∧ TellsCalm sight shown text := by
  induction pieces generalizing sight text with
  | nil =>
    cases h
    cases hsee
    exact ⟨[], List.forall_mem_nil _, List.forall_mem_nil _, fun _ => Or.inl ⟨rfl, List.forall_mem_nil _⟩⟩
  | cons piece rest ih =>
    cases piece with
    | char c =>
      obtain ⟨sight', hnext, hsee⟩ := Option.bind_eq_some_iff.mp hsee
      obtain ⟨tail, htail, h⟩ := bind_eq_ok.mp h
      cases h
      obtain ⟨shown, hrendered, hpositions, hread⟩ := ih hsee htail
      refine ⟨shown, hrendered, hpositions, fun hsettled => ?_⟩
      rw [Sight.read_cons, hnext]
      exact hread hsettled
    | slot digits =>
      rw [seePieces] at hsee
      split at hsee
      · rename_i hplain
        subst hplain
        obtain ⟨part, hpart, h⟩ := bind_eq_ok.mp h
        obtain ⟨tail, htail, h⟩ := bind_eq_ok.mp h
        cases h
        have hargument := rendered_of_argument hpart
        obtain ⟨shown, hrendered, hpositions, hread⟩ := ih hsee htail
        refine ⟨part :: shown, List.forall_mem_cons.mpr ⟨List.mem_of_getElem? hargument, hrendered⟩, ?_, hread.cons part⟩
        refine List.forall_mem_cons.mpr ⟨⟨part, List.mem_cons_self, hargument⟩, fun i hi => ?_⟩
        obtain ⟨t, ht, hi⟩ := hpositions i hi
        exact ⟨t, List.mem_cons_of_mem _ ht, hi⟩
      · cases hsee
    | broken => cases hsee

/-- In the templates of the standard registry, placeholders stand where nothing is in front of them, and no comment begins. -/
theorem seePieces_templates : ∀ template ∈ Registry.templates, seePieces .plain (pieces template) = some .plain := by
  decide +kernel

/-- A filled template is composed of the arguments at its positions. -/
theorem fill_composed {template : String} (hmem : template ∈ Registry.templates) {a : Arguments} {text : String}
    (h : fill template a = .ok text) :
    ∃ shown, Composed shown text ∧ (∀ t ∈ shown, t ∈ a.rendered) ∧
      ∀ i ∈ positions (pieces template), ∃ t ∈ shown, a.rendered[i]? = some t := by
  obtain ⟨chars, hchars, h⟩ := bind_eq_ok.mp h
  cases h
  obtain ⟨shown, hrendered, hpositions, hread⟩ := fillPieces_composed (seePieces_templates template hmem) hchars
  refine ⟨shown, ⟨fun hsettled => ?_, fun hsettled => ?_⟩, hrendered, hpositions⟩
  · rw [Settled, Calm, String.toList_ofList]
    exact (hread hsettled).imp (fun h => h.1) fun h => h.1
  · rw [Calm, String.toList_ofList]
    rcases hread hsettled with ⟨htext, hall⟩ | ⟨htext, t, ht, hnot⟩
    · exact ⟨fun _ => hall, fun _ => htext⟩
    · rw [htext]
      refine ⟨fun h => ?_, fun hall => absurd (hall t ht) hnot⟩
      cases h

/-- The template that begins with a placeholder. -/
def elementTemplate : String := "{0}[{1}]"

/-- An element of an array is its array, and the index in brackets. -/
theorem pieces_elementTemplate : pieces elementTemplate = [.slot ['0'], .char '[', .slot ['1'], .char ']'] := by
  decide

/-- Any other template of the standard registry begins with a character of its own, which is no minus sign. -/
theorem head_templates : ∀ template ∈ Registry.templates, template ≠ elementTemplate →
    ∃ c rest, pieces template = .char c :: rest ∧ c ≠ '-' := by
  have hhead : ∀ template ∈ Registry.templates, template ≠ elementTemplate →
      (pieces template).head?.any (fun piece => piece matches .char _ && piece != .char '-') = true := by
    decide +kernel
  intro template hmem hother
  have h := hhead template hmem hother
  cases hpieces : pieces template with
  | nil => simp [hpieces] at h
  | cons piece rest =>
    cases piece with
    | char c =>
      refine ⟨c, rest, rfl, ?_⟩
      rintro rfl
      simp [hpieces] at h
    | slot digits => simp [hpieces] at h
    | broken => simp [hpieces] at h

end Template

/-! ## Arguments -/

namespace Arguments

variable {a : Arguments}

/-- The parts are the SQL of the argument at a position, or none of it if that is a literal. -/
structure ShowsAt (a : Arguments) (index : Nat) (parts : List String) : Prop where
  rendered : ∀ t ∈ parts, a.rendered[index]? = some t
  literal : parts = [] → ∃ v, a.raw index = some (.literal v)

/-- The text of a call is composed of SQL of its arguments. Where there are as many as the shape says, only literals are left
out. -/
structure Shows (a : Arguments) (shown : List String) (text : String) : Prop where
  composed : Composed shown text
  rendered : ∀ t ∈ shown, t ∈ a.rendered
  complete : a.rendered.length = a.call.shape.arity →
    ∀ i t, a.rendered[i]? = some t → t ∈ shown ∨ ∃ v, a.raw i = some (.literal v)

/-- What is written with the SQL of an argument shows that. -/
theorem showsAt_of_sql {index : Nat} {t : String} (h : a.sql index = .ok t) : a.ShowsAt index [t] :=
  ⟨List.forall_mem_singleton.mpr (rendered_of_sql h), nofun⟩

/-- A string literal need not be shown. -/
theorem showsAt_of_stringLiteral {index : Nat} {s : String} (h : a.stringLiteral? index = some s) : a.ShowsAt index [] := by
  refine ⟨List.forall_mem_nil _, fun _ => ?_⟩
  unfold stringLiteral? at h
  split at h
  · rename_i hraw
    exact ⟨_, hraw⟩
  · cases h

/-- A text of all arguments. -/
theorem shows_of_showsAt (parts : List (List String)) {text : String} (harity : a.call.shape.arity = parts.length)
    (h : ∀ i p, parts[i]? = some p → a.ShowsAt i p) (hcomposed : Composed parts.flatten text) : a.Shows parts.flatten text := by
  refine ⟨hcomposed, fun t ht => ?_, fun hlength i t hi => ?_⟩
  · obtain ⟨p, hp, ht⟩ := List.mem_flatten.mp ht
    obtain ⟨i, hi⟩ := List.mem_iff_getElem?.mp hp
    exact List.mem_of_getElem? ((h i p hi).rendered t ht)
  · obtain ⟨hbound, -⟩ := List.getElem?_eq_some_iff.mp hi
    obtain ⟨p, hp⟩ : ∃ p, parts[i]? = some p := ⟨_, List.getElem?_eq_getElem (show i < parts.length by omega)⟩
    cases p with
    | nil => exact Or.inr ((h i _ hp).literal rfl)
    | cons u p =>
      have hu : a.rendered[i]? = some u := (h i _ hp).rendered u List.mem_cons_self
      cases hi.symm.trans hu
      exact Or.inl (List.mem_flatten.mpr ⟨t :: p, List.mem_of_getElem? hp, List.mem_cons_self⟩)

/-- A text of two arguments. -/
theorem shows_pair {p q : List String} {text : String} (harity : a.call.shape.arity = 2) (hp : a.ShowsAt 0 p)
    (hq : a.ShowsAt 1 q) (hcomposed : Composed (p ++ q) text) : ∃ shown, a.Shows shown text := by
  refine ⟨_, shows_of_showsAt [p, q] harity (fun i r hr => ?_) (by simpa using hcomposed)⟩
  match i, hr with
  | 0, rfl => exact hp
  | 1, rfl => exact hq

/-- A text of three arguments. -/
theorem shows_triple {p q r : List String} {text : String} (harity : a.call.shape.arity = 3) (hp : a.ShowsAt 0 p)
    (hq : a.ShowsAt 1 q) (hr : a.ShowsAt 2 r) (hcomposed : Composed (p ++ q ++ r) text) : ∃ shown, a.Shows shown text := by
  refine ⟨_, shows_of_showsAt [p, q, r] harity (fun i s hs => ?_) (by simpa using hcomposed)⟩
  match i, hs with
  | 0, rfl => exact hp
  | 1, rfl => exact hq
  | 2, rfl => exact hr

end Arguments

/-! ## Rules of their own -/

/-- A literal pattern stays between its quotes. -/
theorem Like.staysInside_escaped (pattern : List Char) : StaysInside (escaped pattern) := by
  induction pattern with
  | nil => rfl
  | cons c pattern ih =>
    have hcons : escaped (c :: pattern) = escapedChar c ++ escaped pattern := rfl
    have hchar : StaysInside (escapedChar c) := by
      unfold escapedChar
      split_ifs with hwild hquote
      · rcases hwild with rfl | rfl | rfl <;> rfl
      · rfl
      · exact read_inside (List.mem_singleton.not.mpr (Ne.symm hquote))
    rw [hcons]
    exact hchar.append ih

/-- A wildcard stays inside the quotes. -/
theorem Like.staysInside_wildcard (wanted : Bool) : StaysInside (wildcard wanted).toList := by
  cases wanted <;> rfl

/-- A test against a literal pattern. -/
theorem Like.composed_literal (receiver : String) (pattern : List Char) (before after : Bool) :
    Composed [receiver] ("(" ++ receiver ++ " LIKE '" ++ wildcard before ++ String.ofList (escaped pattern) ++ wildcard after ++
      "' ESCAPE '" ++ String.singleton escape ++ "')") := by
  have hstays : StaysInside (wildcard before ++ String.ofList (escaped pattern) ++ wildcard after).toList := by
    rw [String.toList_append, String.toList_append, String.toList_ofList]
    exact ((staysInside_wildcard before).append (staysInside_escaped pattern)).append (staysInside_wildcard after)
  have hpattern : Calm (" LIKE '" ++ (wildcard before ++ String.ofList (escaped pattern) ++ wildcard after) ++
      ("' ESCAPE '" ++ String.singleton escape ++ "')")) := hstays.calm rfl rfl
  have hopen : Calm "(" := rfl
  have htext := (hopen.composed.append (composed_part receiver)).then hpattern
  simpa only [String.append_assoc, List.nil_append] using htext

/-- A test against a computed pattern. -/
theorem Like.composed_computed (receiver pattern : String) (before after : Bool) :
    Composed [receiver, pattern] ("(" ++ receiver ++ " LIKE CONCAT(" ++ ", ".intercalate
      ((if before then ["'%'"] else []) ++ [pattern] ++ (if after then ["'%'"] else [])) ++ "))") := by
  have hopen : Calm "(" := rfl
  have hcomma : Calm ", " := rfl
  have hlike : Calm " LIKE CONCAT(" := rfl
  have hclose : Calm "))" := rfl
  have hwild : Composed [] "'%'" := Calm.composed rfl
  have hparts : List.Forall₂ Composed ((if before then [[]] else []) ++ [[pattern]] ++ (if after then [[]] else []))
      ((if before then ["'%'"] else []) ++ [pattern] ++ (if after then ["'%'"] else [])) := by
    cases before <;> cases after <;> simp [hwild, composed_part]
  have hflatten : ((if before then [[]] else []) ++ [[pattern]] ++ (if after then [[]] else [])).flatten = [pattern] := by
    cases before <;> cases after <;> rfl
  have hcomputed := composed_intercalate hcomma hparts
  rw [hflatten] at hcomputed
  exact (((hopen.composed.append (composed_part receiver)).then hlike).append hcomputed).then hclose

namespace Registry

variable {a : Arguments} {text : String}

/-- A test for a pattern shows its receiver, and the pattern unless that is a literal. -/
theorem shows_like (harity : a.call.shape.arity = 2) (before after : Bool) (h : Like.write before after a = .ok text) :
    ∃ shown, a.Shows shown text := by
  obtain ⟨receiver, hreceiver, h⟩ := bind_eq_ok.mp h
  have hfirst := Arguments.showsAt_of_sql hreceiver
  split at h
  · rename_i pattern hpattern
    cases h
    exact Arguments.shows_pair harity hfirst (Arguments.showsAt_of_stringLiteral hpattern)
      (Like.composed_literal receiver pattern.toList before after)
  · obtain ⟨pattern, hpattern, h⟩ := bind_eq_ok.mp h
    cases h
    exact Arguments.shows_pair harity hfirst (Arguments.showsAt_of_sql hpattern)
      (Like.composed_computed receiver pattern before after)

/-- An offset is counted up where it is a literal, and written with its own SQL elsewhere. -/
theorem showsAt_oneBased {index : Nat} (h : Offset.oneBased a index = .ok text) :
    ∃ parts, a.ShowsAt index parts ∧ Composed parts text := by
  unfold Offset.oneBased at h
  split at h
  · rename_i n hraw
    split at h
    · cases h
      exact ⟨[], ⟨List.forall_mem_nil _, fun _ => ⟨_, hraw⟩⟩, (calm_of_numeral (Number.numeral_int _)).composed⟩
    · cases h
  · obtain ⟨t, ht, h⟩ := bind_eq_ok.mp h
    cases h
    have hopen : Calm "(" := rfl
    have hclose : Calm " + 1)" := rfl
    exact ⟨[t], Arguments.showsAt_of_sql ht, (hopen.composed.append (composed_part t)).then hclose⟩

/-- The rest of a text shows the text, and the offset unless that is a literal. -/
theorem shows_from (harity : a.call.shape.arity = 2) (h : Offset.writeFrom a = .ok text) : ∃ shown, a.Shows shown text := by
  obtain ⟨t, ht, h⟩ := bind_eq_ok.mp h
  obtain ⟨start, hstart, h⟩ := bind_eq_ok.mp h
  obtain ⟨parts, hparts, hstart⟩ := showsAt_oneBased hstart
  cases h
  have hopen : Calm "SUBSTRING(" := rfl
  have hfrom : Calm " FROM " := rfl
  have hclose : Calm ")" := rfl
  exact Arguments.shows_pair harity (Arguments.showsAt_of_sql ht) hparts
    ((((hopen.composed.append (composed_part t)).then hfrom).append hstart).then hclose)

/-- A part of a text shows the length as well. -/
theorem shows_fromFor (harity : a.call.shape.arity = 3) (h : Offset.writeFromFor a = .ok text) :
    ∃ shown, a.Shows shown text := by
  obtain ⟨t, ht, h⟩ := bind_eq_ok.mp h
  obtain ⟨start, hstart, h⟩ := bind_eq_ok.mp h
  obtain ⟨parts, hparts, hstart⟩ := showsAt_oneBased hstart
  obtain ⟨length, hlength, h⟩ := bind_eq_ok.mp h
  cases h
  have hopen : Calm "SUBSTRING(" := rfl
  have hfrom : Calm " FROM " := rfl
  have hfor : Calm " FOR " := rfl
  have hclose : Calm ")" := rfl
  have hsubstring := (((hopen.composed.append (composed_part t)).then hfrom).append hstart).then hfor
  exact Arguments.shows_triple harity (Arguments.showsAt_of_sql ht) hparts (Arguments.showsAt_of_sql hlength)
    ((hsubstring.append (composed_part length)).then hclose)

/-- The name of a function is calm. -/
theorem calm_of_isWord {word : String} (h : isWord word = true) : Calm word :=
  calm_of_class (by decide) (List.all_eq_true.mp h)

/-- A call with a unit of time shows what stands behind the unit. -/
theorem shows_unit {name : String} (hname : isWord name = true) (harity : a.call.shape.arity = 3)
    (h : TimeUnit.writeCall name a = .ok text) : ∃ shown, a.Shows shown text := by
  obtain ⟨unit, hunit, h⟩ := bind_eq_ok.mp h
  obtain ⟨first, hfirst, h⟩ := bind_eq_ok.mp h
  obtain ⟨second, hsecond, h⟩ := bind_eq_ok.mp h
  cases h
  obtain ⟨hmem, literal, hliteral⟩ := (outcome_ofArgument a 0).value hunit
  have hword : ∀ unit ∈ TimeUnit.all, isWord unit = true := by decide
  have hopen : Calm "(" := rfl
  have hcomma : Calm ", " := rfl
  have hclose : Calm ")" := rfl
  have hlead : Composed [] (name ++ "(" ++ unit ++ ", ") :=
    (((calm_of_isWord hname).composed.then hopen).then (calm_of_isWord (hword unit hmem))).then hcomma
  exact Arguments.shows_triple harity (Arguments.showsAt_of_stringLiteral hliteral) (Arguments.showsAt_of_sql hfirst)
    (Arguments.showsAt_of_sql hsecond)
    ((((hlead.append (composed_part first)).then hcomma).append (composed_part second)).then hclose)

/-! ## Calls -/

/-- A test for a pattern has two parts. -/
theorem arity_like : ∀ shape ∈ likeShapes, shape.arity = 2 := by
  decide

/-- A call with a unit of time has three parts. -/
theorem arity_unit : ∀ shape ∈ unitShapes, shape.arity = 3 := by
  decide

/-- A template of the standard registry has a placeholder for each part of a call. -/
theorem positions_templates : ∀ entry ∈ standard.rules, ∀ template ∈ entry.2.template?, ∀ i < entry.1.arity,
    i ∈ Template.positions (Template.pieces template) := by
  decide +kernel

/-- A call that is written is composed of SQL of its arguments. -/
theorem shows_write (h : standard.write a = .ok text) : ∃ shown, a.Shows shown text := by
  unfold Registry.write at h
  split at h
  · cases h
  · rename_i word hrule
    cases isStandard_of_rule? hrule with | word hword
    cases h
    have hopen : Calm "(" := rfl
    have hcomma : Calm ", " := rfl
    have hclose : Calm ")" := rfl
    have hparts : List.Forall₂ Composed (a.rendered.map ([·])) a.rendered :=
      List.forall₂_map_left_iff.mpr (List.forall₂_same.mpr fun t _ => composed_part t)
    have hlist := composed_intercalate hcomma hparts
    rw [show (a.rendered.map ([·])).flatten = a.rendered from List.flatMap_singleton' _] at hlist
    refine ⟨a.rendered, (((calm_of_isWord hword).composed.then hopen).append hlist).then hclose, fun _ ht => ht, ?_⟩
    exact fun _ _ _ ht => Or.inl (List.mem_of_getElem? ht)
  · rename_i template hrule
    cases isStandard_of_rule? hrule with | template hmem
    obtain ⟨shown, hcomposed, hrendered, hpositions⟩ := Template.fill_composed hmem h
    refine ⟨shown, hcomposed, hrendered, fun hlength i t ht => Or.inl ?_⟩
    obtain ⟨hbound, -⟩ := List.getElem?_eq_some_iff.mp ht
    obtain ⟨t', ht', hi⟩ := hpositions i (positions_templates _ (mem_of_rule? hrule) template rfl i (hlength ▸ hbound))
    cases ht.symm.trans hi
    exact ht'
  · rename_i writer hrule
    cases isStandard_of_rule? hrule with
    | like hshape => exact shows_like (arity_like _ hshape) _ _ h
    | rest hshape => exact shows_from (hshape ▸ rfl) h
    | part hshape => exact shows_fromFor (hshape ▸ rfl) h
    | unit hname hshape => exact shows_unit (isWord_unit _ hname) (arity_unit _ hshape) h
  · cases h

/-! ## How a call begins -/

/-- The function whose calls begin with the SQL of an argument. -/
def elementAt : FunctionName := ⟨.flink, "element_at"⟩

/-- Elements of arrays, and nothing else, are written by the template that begins with a placeholder. -/
theorem elementAt_iff : ∀ entry ∈ standard.rules,
    entry.1.function = elementAt ↔ entry.2.template? = some Template.elementTemplate := by
  decide +kernel

/-- A call does not begin with a minus sign. -/
theorem unsigned_of_isWord {word : String} (h : isWord word = true) : Unsigned (word ++ "(") := by
  rw [Unsigned, String.toList_append]
  cases hword : word.toList with
  | nil => exact ⟨'(', rfl, by decide⟩
  | cons c chars =>
    have hc : isWordChar c = true := List.all_eq_true.mp h c (by rw [hword]; exact List.mem_cons_self)
    refine ⟨c, rfl, ?_⟩
    rintro rfl
    exact absurd hc (by decide)

/-- What stands in parentheses behind a word does not begin with a minus sign. -/
theorem IsBracketed.unsigned (h : IsBracketed text) : Unsigned text := by
  obtain ⟨word, inside, hword, rfl⟩ := h
  exact ((unsigned_of_isWord hword).append _).append _

/-- A call of another function begins with a character of its own. -/
theorem unsigned_write (hfunction : a.call.function ≠ elementAt) (h : standard.write a = .ok text) : Unsigned text := by
  rcases write_cases h with hbracketed | ⟨template, hmem, hrule, h⟩
  · exact hbracketed.unsigned
  · have hother : template ≠ Template.elementTemplate := by
      rintro rfl
      exact hfunction ((elementAt_iff _ (mem_of_rule? hrule)).mpr rfl)
    obtain ⟨c, rest, hpieces, hc⟩ := Template.head_templates template hmem hother
    obtain ⟨chars, hchars, h⟩ := bind_eq_ok.mp h
    cases h
    rw [hpieces] at hchars
    obtain ⟨tail, -, hchars⟩ := bind_eq_ok.mp hchars
    cases hchars
    exact ⟨c, by rw [String.toList_ofList]; rfl, hc⟩

/-- An element of an array begins as the array does. -/
theorem beginsWithMinus_elementAt (hfunction : a.call.function = elementAt) (h : standard.write a = .ok text) :
    BeginsWithMinus text ↔ ∃ t, a.rendered[0]? = some t ∧ BeginsWithMinus t := by
  unfold Registry.write at h
  split at h
  · cases h
  · rename_i word hrule
    cases (elementAt_iff _ (mem_of_rule? hrule)).mp hfunction
  · rename_i template hrule
    cases (elementAt_iff _ (mem_of_rule? hrule)).mp hfunction
    obtain ⟨chars, hchars, h⟩ := bind_eq_ok.mp h
    cases h
    rw [Template.pieces_elementTemplate] at hchars
    obtain ⟨array, harray, hchars⟩ := bind_eq_ok.mp hchars
    obtain ⟨behind, hbehind, hchars⟩ := bind_eq_ok.mp hchars
    obtain ⟨rest, -, hbehind⟩ := bind_eq_ok.mp hbehind
    cases hchars
    cases hbehind
    have hrendered : a.rendered[0]? = some array := Arguments.rendered_of_sql harray
    simp only [hrendered, BeginsWithMinus, String.toList_ofList, List.head?_append, List.head?_cons, Option.some.injEq,
      exists_eq_left']
    cases array.toList.head? <;> simp
  · rename_i writer hrule
    cases (elementAt_iff _ (mem_of_rule? hrule)).mp hfunction
  · cases h

end Registry

end FlinkSql
