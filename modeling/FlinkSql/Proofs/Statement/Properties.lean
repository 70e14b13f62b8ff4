import FlinkSql.Proofs.Statement.Creation
import FlinkSql.Proofs.Text.Reading

/-!
# Properties read back

A WITH clause is read from its text: `WITH (`, then keys and values between single quotes, with an equals sign inside a pair and a
comma between pairs, and a closing parenthesis. A doubled quote inside a quoted text stands for one. No key or value can be taken for
what stands around it, whatever it holds: the reader accepts exactly what is written, and gives back the properties that were written.
-/

namespace FlinkSql

open Text

/-! ## Quoted texts -/

/-- Reads a text between single quotes, in which a doubled quote stands for one, and leaves what follows it. -/
def quotedString? (s : List Char) : Option (String × List Char) := do
  let s ← after? "'" s
  let (text, rest) ← unquoted? singleQuote s
  return (String.ofList text, rest)

/-- A string stands between quotes, with every quote in it doubled. -/
theorem toList_quotedString (text : String) :
    (quotedString text).toList = singleQuote :: doubled singleQuote text.toList ++ [singleQuote] := by
  rw [quotedString, quoted, String.toList_ofList]

/-- A quoted text is read where it is written, unless a quote follows it. -/
theorem quotedString?_eq_some_iff {s rest : List Char} {text : String} :
    quotedString? s = some (text, rest) ↔ s = (quotedString text).toList ++ rest ∧ rest.head? ≠ some singleQuote := by
  have hquote : "'".toList = [singleQuote] := rfl
  simp only [quotedString?, Option.bind_eq_bind, Option.bind_eq_some_iff, after?_eq_some_iff, Prod.exists, unquoted?_eq_some_iff,
    Option.pure_def, Option.some.injEq, Prod.mk.injEq, hquote, toList_quotedString]
  constructor
  · rintro ⟨_, hopen, chars, left, ⟨hclose, hrest⟩, rfl, rfl⟩
    refine ⟨?_, hrest⟩
    rw [hopen, hclose, String.toList_ofList]
    simp
  · rintro ⟨hs, hrest⟩
    refine ⟨_, ?_, text.toList, rest, ⟨rfl, hrest⟩, String.ofList_toList, rfl⟩
    rw [hs]
    simp

namespace WithClause

/-! ## One property -/

/-- Reads a key and a value, each quoted, with an equals sign between them. -/
def readPair? (s : List Char) : Option ((String × String) × List Char) := do
  let (key, s) ← quotedString? s
  let s ← after? "=" s
  let (value, rest) ← quotedString? s
  return ((key, value), rest)

/-- A pair is read exactly from its own text, in front of what is no quote. -/
theorem readPair?_eq_some_iff {s rest : List Char} {p : String × String} :
    readPair? s = some (p, rest) ↔ s = (pairSql p).toList ++ rest ∧ rest.head? ≠ some singleQuote := by
  have hequals : "=".toList = ['='] := rfl
  obtain ⟨key, value⟩ := p
  simp only [readPair?, Option.bind_eq_bind, Option.bind_eq_some_iff, after?_eq_some_iff, Prod.exists, quotedString?_eq_some_iff,
    Option.pure_def, Option.some.injEq, Prod.mk.injEq, pairSql, String.toList_append, hequals, List.append_assoc]
  constructor
  · rintro ⟨_, _, ⟨hkey, -⟩, _, hsign, _, _, ⟨hvalue, hrest⟩, ⟨rfl, rfl⟩, rfl⟩
    exact ⟨by rw [hkey, hsign, hvalue], hrest⟩
  · rintro ⟨hs, hrest⟩
    refine ⟨key, _, ⟨hs, ?_⟩, _, rfl, value, rest, ⟨rfl, hrest⟩, ⟨rfl, rfl⟩, rfl⟩
    intro hhead
    exact absurd (Option.some.inj hhead) (by decide)

/-! ## All of them -/

/-- What follows a property and a comma is shorter than the text. -/
theorem length_lt_of_readPair? {s rest more : List Char} {p : String × String} (hpair : readPair? s = some (p, rest))
    (hcomma : after? ", " rest = some more) : more.length < s.length := by
  rw [(readPair?_eq_some_iff.mp hpair).1, after?_eq_some_iff.mp hcomma]
  simp only [List.length_append, pairSql, toList_quotedString, String.toList_append, List.length_cons]
  omega

/-- Reads properties with commas between them, one at least. -/
def readPairs? (s : List Char) : Option (List (String × String) × List Char) :=
  match hpair : readPair? s with
  | none => none
  | some (p, rest) =>
    match hcomma : after? ", " rest with
    | none => some ([p], rest)
    | some more =>
      have : more.length < s.length := length_lt_of_readPair? hpair hcomma
      (readPairs? more).map fun (ps, rest) => (p :: ps, rest)
termination_by s.length

/-- Where no pair is read, no pairs are. -/
theorem readPairs?_of_none {s : List Char} (hpair : readPair? s = none) : readPairs? s = none := by
  unfold readPairs?
  split <;> simp_all

/-- The last property: no comma follows it. -/
theorem readPairs?_of_end {s rest : List Char} {p : String × String} (hpair : readPair? s = some (p, rest))
    (hend : after? ", " rest = none) : readPairs? s = some ([p], rest) := by
  unfold readPairs?
  split <;> simp_all
  split <;> simp_all

/-- A property with more of them behind its comma. -/
theorem readPairs?_of_comma {s rest more : List Char} {p : String × String} (hpair : readPair? s = some (p, rest))
    (hcomma : after? ", " rest = some more) : readPairs? s = (readPairs? more).map fun (ps, rest) => (p :: ps, rest) := by
  conv_lhs => unfold readPairs?
  split <;> simp_all
  split <;> simp_all

/-- Properties with commas between them. -/
def pairsSql (ps : List (String × String)) : String := ", ".intercalate (ps.map pairSql)

/-- A pair in front of others has a comma behind it. -/
theorem pairsSql_cons {p : String × String} {ps : List (String × String)} (h : ps ≠ []) :
    pairsSql (p :: ps) = pairSql p ++ ", " ++ pairsSql ps := by
  have hne : ps.map pairSql ≠ [] := by simpa using h
  rw [pairsSql, List.map_cons, String.intercalate_cons_of_ne_nil hne]
  rfl

theorem pairsSql_singleton (p : String × String) : pairsSql [p] = pairSql p := String.intercalate_singleton

/-- The properties that a text begins with. -/
theorem of_readPairs? {s rest : List Char} {ps : List (String × String)} (h : readPairs? s = some (ps, rest)) :
    ps ≠ [] ∧ s = (pairsSql ps).toList ++ rest := by
  induction s using readPairs?.induct generalizing ps rest with
  | case1 s hpair =>
    rw [readPairs?_of_none hpair] at h
    cases h
  | case2 s p left hpair hend =>
    rw [readPairs?_of_end hpair hend] at h
    cases h
    rw [pairsSql_singleton]
    exact ⟨List.cons_ne_nil _ _, (readPair?_eq_some_iff.mp hpair).1⟩
  | case3 s p left hpair more hcomma hshorter ih =>
    rw [readPairs?_of_comma hpair hcomma] at h
    obtain ⟨⟨later, rest⟩, hmore, h⟩ := Option.map_eq_some_iff.mp h
    cases h
    obtain ⟨hne, hlater⟩ := ih hmore
    refine ⟨List.cons_ne_nil _ _, ?_⟩
    rw [(readPair?_eq_some_iff.mp hpair).1, after?_eq_some_iff.mp hcomma, hlater, pairsSql_cons hne]
    simp only [String.toList_append, List.append_assoc]

/-- Properties are read back, with whatever follows them that is neither a quote nor one more of them. -/
theorem readPairs?_pairsSql {rest : List Char} {ps : List (String × String)} (hne : ps ≠ [])
    (hquote : rest.head? ≠ some singleQuote) (hend : after? ", " rest = none) :
    readPairs? ((pairsSql ps).toList ++ rest) = some (ps, rest) := by
  induction ps with
  | nil => exact absurd rfl hne
  | cons p ps ih =>
    cases ps with
    | nil =>
      rw [pairsSql_singleton]
      exact readPairs?_of_end (readPair?_eq_some_iff.mpr ⟨rfl, hquote⟩) hend
    | cons q ps =>
      have htext : (pairsSql (p :: q :: ps)).toList ++ rest =
          (pairSql p).toList ++ (", ".toList ++ ((pairsSql (q :: ps)).toList ++ rest)) := by
        rw [pairsSql_cons (List.cons_ne_nil _ _)]
        simp only [String.toList_append, List.append_assoc]
      have hpair : readPair? ((pairsSql (p :: q :: ps)).toList ++ rest) =
          some (p, ", ".toList ++ ((pairsSql (q :: ps)).toList ++ rest)) := by
        refine readPair?_eq_some_iff.mpr ⟨htext, ?_⟩
        intro hhead
        exact absurd (Option.some.inj hhead) (by decide)
      rw [readPairs?_of_comma hpair (after?_append _ _), ih (List.cons_ne_nil _ _)]
      rfl

/-- Reads the closing parenthesis behind properties. -/
def closed? (read : List (String × String) × List Char) : Option (List (String × String)) :=
  if read.2 = [')'] then some read.1 else none

/-- The pairs are all if the closing parenthesis alone is left. -/
theorem closed?_eq_some_iff {read : List (String × String) × List Char} {ps : List (String × String)} :
    closed? read = some ps ↔ read = (ps, [')']) := by
  obtain ⟨read, rest⟩ := read
  simp [closed?, and_comm]

/-- Reads a WITH clause. -/
def read? (text : String) : Option (List (String × String)) := do
  let s ← after? "WITH (" text.toList
  if s = [')'] then return []
  closed? (← readPairs? s)

/-- Properties are the pairs between fixed words and a closing parenthesis. -/
theorem toList_propertiesSql (ps : List (String × String)) :
    (propertiesSql ps).toList = "WITH (".toList ++ ((pairsSql ps).toList ++ [')']) := by
  rw [propertiesSql, String.toList_append, String.toList_append, List.append_assoc]
  rfl

/-- The reader accepts the text of properties, and no other text. -/
theorem read?_eq_some_iff {text : String} {ps : List (String × String)} : read? text = some ps ↔ text = propertiesSql ps := by
  simp only [read?, Option.bind_eq_bind, Option.bind_eq_some_iff, after?_eq_some_iff]
  rw [← String.toList_inj, toList_propertiesSql]
  constructor
  · rintro ⟨s, hs, h⟩
    by_cases hempty : s = [')']
    · rw [if_pos hempty] at h
      cases h
      rw [hs, hempty]
      rfl
    · rw [if_neg hempty, Option.bind_eq_some_iff] at h
      obtain ⟨read, hread, hclosed⟩ := h
      rw [closed?_eq_some_iff.mp hclosed] at hread
      rw [hs, (of_readPairs? hread).2]
  · intro htext
    refine ⟨_, htext, ?_⟩
    by_cases hempty : ps = []
    · rw [hempty]
      rfl
    · have hread := readPairs?_pairsSql hempty (by decide : [')'].head? ≠ some singleQuote) (by decide)
      have hne : (pairsSql ps).toList ++ [')'] ≠ [')'] := by
        intro hnone
        rw [hnone, readPairs?_of_none (by decide)] at hread
        cases hread
      rw [if_neg hne, hread]
      rfl

/-- A WITH clause determines its properties: reading its text gives them back, in order, whatever texts they hold. The reader accepts
nothing else, so two clauses have the same text exactly if they have the same properties. Each quoted text is read back on its own. -/
theorem text_determines_properties :
    (∀ w : WithClause, read? w.sql = some w.pairs) ∧
    (∀ text ps, read? text = some ps ↔ text = propertiesSql ps) ∧
    (∀ w other : WithClause, w.sql = other.sql ↔ w.pairs = other.pairs) ∧
    ∀ text : String, quotedString? (quotedString text).toList = some (text, []) := by
  have hread : ∀ w : WithClause, read? w.sql = some w.pairs := fun w => read?_eq_some_iff.mpr w.sql_eq
  refine ⟨hread, fun _ _ => read?_eq_some_iff, fun w other => ⟨fun h => ?_, fun h => ?_⟩, fun text => ?_⟩
  · have hsame := hread w
    rw [h, hread other] at hsame
    exact (Option.some.inj hsame).symm
  · rw [w.sql_eq, other.sql_eq, h]
  · exact quotedString?_eq_some_iff.mpr ⟨(List.append_nil _).symm, nofun⟩

end WithClause

end FlinkSql
