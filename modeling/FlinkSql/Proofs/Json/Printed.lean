import FlinkSql.Json.Reader
import FlinkSql.Proofs.Json.Reread
import FlinkSql.Proofs.Json.Token

/-!
# Printed values are read

The text of a value is cut into the tokens of its parts (`cutsOff_indentedAt`), and from these the reader builds the value up again
(`builds_tokens`). Together: what is read from the printed text of a value is `Json.reread`.
-/

namespace FlinkSql.Json

/-! ## The tokens of a value -/

mutual

/-- The tokens that the text of a value is cut into. -/
def tokens : Json → List Token
  | .str s => [.text (some s)]
  | .arr items => .beginArray :: [.comma].intercalate (itemTokens items) ++ [.endArray]
  | .obj members => .beginObject :: [.comma].intercalate (memberTokens members) ++ [.endObject]
  | v => [.scalar v.reread]

/-- The tokens of each item of an array. -/
def itemTokens : List Json → List (List Token)
  | [] => []
  | v :: rest => tokens v :: itemTokens rest

/-- The tokens of each member of an object. -/
def memberTokens : List (String × Json) → List (List Token)
  | [] => []
  | (name, v) :: rest => (.text (some name) :: .colon :: tokens v) :: memberTokens rest

end

/-- The double, if it is finite, is read back from its text. -/
def ReadsBack (x : Float) : Prop := Number.isFinite x = true → Numeral.read? (numberLayout.write x).toList = some (.float x)

/-- The whole numbers of a value fit a word, and its finite doubles are read back from their texts. -/
inductive IsPrintable : Json → Prop
  | null : IsPrintable .null
  | bool (b : Bool) : IsPrintable (.bool b)
  | int {n : Int} (hlow : Int64.minValue.toInt ≤ n) (hhigh : n < UInt64.size) : IsPrintable (.int n)
  | float {x : Float} (h : ReadsBack x) : IsPrintable (.float x)
  | str (s : String) : IsPrintable (.str s)
  | arr {items : List Json} (h : ∀ v ∈ items, IsPrintable v) : IsPrintable (.arr items)
  | obj {members : List (String × Json)} (h : ∀ m ∈ members, IsPrintable m.2) : IsPrintable (.obj members)
  | unreadable : IsPrintable .unreadable

/-! ## Cutting the text of a value -/

open Token

/-- The items of an array are cut one by one if each by itself is. -/
theorem cutsOff_items {level : Nat} {items : List Json} (h : ∀ v ∈ items, CutsOff (v.indentedAt level).toList v.tokens) :
    List.Forall₂ (fun text tokens => CutsOff text.toList tokens) (indentedItems level items) (itemTokens items) := by
  induction items with
  | nil => exact .nil
  | cons v items ih =>
    obtain ⟨hv, hitems⟩ := List.forall_mem_cons.mp h
    exact .cons hv (ih hitems)

/-- The members of an object are cut one by one if their values are. -/
theorem cutsOff_members {level : Nat} {members : List (String × Json)}
    (h : ∀ m ∈ members, CutsOff (m.2.indentedAt level).toList m.2.tokens) :
    List.Forall₂ (fun text tokens => CutsOff text.toList tokens) (indentedMembers level members) (memberTokens members) := by
  induction members with
  | nil => exact .nil
  | cons m members ih =>
    obtain ⟨hvalue, hmembers⟩ := List.forall_mem_cons.mp h
    refine .cons ?_ (ih hmembers)
    have hcolon : Cuts ": ".toList [.colon] := (cuts_char (c := ':') rfl).append (cuts_char (c := ' ') rfl)
    rw [String.toList_append, String.toList_append]
    exact ((cuts_quoted m.1).append hcolon).append_off hvalue

/-- The printed text of a value is cut into its tokens. -/
theorem cutsOff_indentedAt {v : Json} (h : v.IsPrintable) (level : Nat) : CutsOff (v.indentedAt level).toList v.tokens := by
  have hnull : CutsOff "null".toList [.scalar .null] := cutsOff_word (c := 'n') (s := ['u', 'l', 'l']) rfl rfl rfl
  have htrue : CutsOff "true".toList [.scalar (.bool true)] := cutsOff_word (c := 't') (s := ['r', 'u', 'e']) rfl rfl rfl
  have hfalse : CutsOff "false".toList [.scalar (.bool false)] := cutsOff_word (c := 'f') (s := ['a', 'l', 's', 'e']) rfl rfl rfl
  induction h generalizing level with
  | null => exact hnull
  | bool b =>
    cases b with
    | true => exact htrue
    | false => exact hfalse
  | int hlow hhigh => exact cutsOff_number (Numeral.read?_int hlow hhigh)
  | @float x h =>
    have htokens : (Json.float x).tokens = [.scalar (if Number.isFinite x then .float x else .null)] := rfl
    have htext : (Json.float x).indentedAt level = numberLayout.write x := rfl
    rw [htokens, htext]
    split_ifs with hfinite
    · exact cutsOff_number (h hfinite)
    · rw [write_of_not_finite hfinite]
      exact hnull
  | str s => exact (cuts_quoted s).off
  | arr _ ih =>
    have hopen : Cuts "[".toList [.beginArray] := cuts_char (c := '[') rfl
    have hclose : Cuts "]".toList [.endArray] := cuts_char (c := ']') rfl
    exact (cuts_block level hopen hclose (cutsOff_items fun v hv => ih v hv (level + 1))).off
  | obj _ ih =>
    have hopen : Cuts "\x7b".toList [.beginObject] := cuts_char (c := '\x7b') rfl
    have hclose : Cuts "\x7d".toList [.endObject] := cuts_char (c := '\x7d') rfl
    exact (cuts_block level hopen hclose (cutsOff_members fun m hm => ih m hm (level + 1))).off
  | unreadable => exact hnull

/-! ## Building a value -/

namespace Waiting

/-- The tokens stand for a value wherever one is waited for. -/
def Builds (tokens : List Token) (v : Json) : Prop := ∀ outer, tokens.foldlM step (.value outer) = some (deliver v outer)

/-- Parts of a container with commas between them, where `wait` waits for a part and `after` has taken one in. -/
theorem foldlM_intercalate {α : Type} (wait after : List α → Waiting) (hcomma : ∀ done, step (after done) .comma = some (wait done))
    {parts : List (List Token)} {values : List α}
    (h : List.Forall₂ (fun tokens a => ∀ done, tokens.foldlM step (wait done) = some (after (a :: done))) parts values)
    (hparts : parts ≠ []) (done : List α) :
    ([Token.comma].intercalate parts).foldlM step (wait done) = some (after (values.reverse ++ done)) := by
  induction h generalizing done with
  | nil => exact absurd rfl hparts
  | @cons tokens a parts values hhead hrest ih =>
    rw [List.reverse_cons, List.append_assoc, List.singleton_append]
    cases hrest with
    | nil =>
      rw [List.intercalate_singleton]
      exact hhead done
    | cons =>
      rw [List.intercalate_cons_cons, List.append_assoc, List.foldlM_append, hhead, Option.bind_eq_bind, Option.bind_some,
        List.singleton_append, List.foldlM_cons, hcomma, Option.bind_eq_bind, Option.bind_some]
      exact ih (List.cons_ne_nil _ _) (a :: done)

/-- The first part of a container is read as any other, where a container that ends at once is read in another way. -/
theorem foldlM_first {first wait final : Waiting} (hfirst : ∀ t next, step wait t = some next → step first t = some next)
    {tokens : List Token} (h : tokens.foldlM step wait = some final) (hne : wait ≠ final) : tokens.foldlM step first = some final := by
  cases tokens with
  | nil => exact absurd (Option.some.inj h) hne
  | cons t tokens =>
    rw [List.foldlM_cons] at h ⊢
    obtain ⟨next, hnext, h⟩ := Option.bind_eq_some_iff.mp h
    rw [hfirst t next hnext]
    exact h

/-- The tokens of an array build the array if those of the items build the items. -/
theorem builds_arr {items : List Json} (h : ∀ v ∈ items, Builds v.tokens v.reread) : Builds (arr items).tokens (arr items).reread := by
  intro outer
  have hparts : List.Forall₂ (fun tokens v => ∀ done, tokens.foldlM step (.value (.array done :: outer)) =
      some (.afterItem (v :: done) outer)) (itemTokens items) (rereadItems items) := by
    induction items with
    | nil => exact .nil
    | cons v items ih =>
      obtain ⟨hv, hitems⟩ := List.forall_mem_cons.mp h
      exact .cons (fun done => hv (.array done :: outer)) (ih hitems)
  have htokens : (arr items).tokens = .beginArray :: ([.comma].intercalate (itemTokens items) ++ [.endArray]) := rfl
  have hbegin : step (.value outer) .beginArray = some (.firstItem outer) := rfl
  rw [htokens, List.foldlM_cons, hbegin, Option.bind_eq_bind, Option.bind_some]
  cases items with
  | nil => rfl
  | cons v items =>
    have hitems := foldlM_intercalate (fun done => .value (.array done :: outer)) (fun done => .afterItem done outer) (fun _ => rfl)
      hparts (List.cons_ne_nil _ _) []
    have hfirst : ∀ t next, step (.value (.array [] :: outer)) t = some next → step (.firstItem outer) t = some next := by
      intro t next ht
      cases t with
      | endArray => cases ht
      | _ => exact ht
    rw [List.foldlM_append, foldlM_first hfirst hitems (by rintro ⟨⟩), List.append_nil, Option.bind_eq_bind, Option.bind_some]
    show some (deliver (.arr (rereadItems (v :: items)).reverse.reverse) outer) = _
    rw [List.reverse_reverse]
    rfl

/-- The tokens of an object build the object if those of the values build the values. -/
theorem builds_obj {members : List (String × Json)} (h : ∀ m ∈ members, Builds m.2.tokens m.2.reread) :
    Builds (obj members).tokens (obj members).reread := by
  intro outer
  have hparts : List.Forall₂ (fun tokens m => ∀ done, tokens.foldlM step (.nextName done true outer) =
      some (.afterMember (m :: done) true outer)) (memberTokens members) (rereadMembers members) := by
    induction members with
    | nil => exact .nil
    | cons m members ih =>
      obtain ⟨hvalue, hmembers⟩ := List.forall_mem_cons.mp h
      exact .cons (fun done => hvalue (.member done true m.1 :: outer)) (ih hmembers)
  have htokens : (obj members).tokens = .beginObject :: ([.comma].intercalate (memberTokens members) ++ [.endObject]) := rfl
  have hbegin : step (.value outer) .beginObject = some (.firstName outer) := rfl
  rw [htokens, List.foldlM_cons, hbegin, Option.bind_eq_bind, Option.bind_some]
  cases members with
  | nil => rfl
  | cons m members =>
    have hmembers := foldlM_intercalate (fun done => .nextName done true outer) (fun done => .afterMember done true outer)
      (fun _ => rfl) hparts (List.cons_ne_nil _ _) []
    have hfirst : ∀ t next, step (.nextName [] true outer) t = some next → step (.firstName outer) t = some next := by
      intro t next ht
      cases t with
      | endObject => cases ht
      | _ => exact ht
    rw [List.foldlM_append, foldlM_first hfirst hmembers (by rintro ⟨⟩), List.append_nil, Option.bind_eq_bind, Option.bind_some]
    show some (deliver (.obj (rereadMembers (m :: members)).reverse.reverse) outer) = _
    rw [List.reverse_reverse]
    rfl

/-- From the tokens of a value, the value is built up again. -/
theorem builds_tokens (v : Json) : Builds v.tokens v.reread := by
  induction v using induction with
  | float x =>
    intro outer
    rfl
  | arr items ih => exact builds_arr ih
  | obj members ih => exact builds_obj ih
  | _ => exact fun _ => rfl

end Waiting

/-! ## Reading what is printed -/

/-- From the printed text of a value, what is read is the value with null for the doubles that are not finite. -/
theorem read?_indented {v : Json} (h : v.IsPrintable) : read? v.indented = some v.reread := by
  have hcut : cut .between v.indented.toList = some v.tokens := by
    have hrest := cutsOff_indentedAt h 0 [] nofun
    rwa [List.append_nil, cut, finish, Option.map_some, List.append_nil] at hrest
  have hbuild : v.tokens.foldlM Waiting.step (.value []) = some (.nothing v.reread) := Waiting.builds_tokens v []
  rw [read?, hcut, Option.bind_eq_bind, Option.bind_some, hbuild]
  rfl

end FlinkSql.Json
