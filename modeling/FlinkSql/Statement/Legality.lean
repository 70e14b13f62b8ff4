import FlinkSql.Query.Plan

/-!
# Legal plans

What Flink demands of the structure of a plan, whatever its expressions are. The rules are checked one after the other, and the
first one that is broken is reported.
-/

namespace FlinkSql.Plan

/-- Whether the plan joins. -/
def isJoin (p : Plan) : Bool := 1 < p.sourceTypes.length || 0 < p.joins.length

/-- The first item whose normalized label an item before it has: its label and the normalized one. -/
def collision? (seen : List String) : List Item → Option (String × String)
  | [] => none
  | item :: rest =>
    let name := Name.column item.label
    if name ∈ seen then some (item.label, name) else collision? (name :: seen) rest

/-- Whether the window is a hopping one without a slide. -/
def slideMissing (p : Plan) : Bool := p.window.any fun w => w.kind == .hop && w.slide.isNone

/-- The fault in the labels of the projection. -/
def labelFault? (p : Plan) : Option Failure :=
  (collision? [] p.selection.itemList).map fun (label, name) => .constraint (.aliasCollision label name)

/-- The first rule that the plan breaks. -/
def fault? (p : Plan) : Option Failure :=
  let sources := p.sourceTypes.length
  let topics := p.sourceTopics.length
  let joins := p.joins.length
  if sources = 0 then some (.constraint .noSource)
  else if topics ≠ 0 ∧ topics ≠ sources then some (.constraint (.topicCount topics sources))
  else if p.window.isSome ∧ joins ≠ 0 then some (.constraint .windowWithJoin)
  else if p.isJoin ∧ joins + 1 ≠ sources then some (.constraint (.joinCount joins sources))
  else if p.slideMissing then some (.constraint .hopWithoutSlide)
  else if p.having.isSome ∧ !p.hasGroupBy ∧ !p.hasAggregate then some (.constraint .havingWithoutGroups)
  else if p.grouping.any Selection.isWildcard then some (.expression .groupingByRow)
  else p.labelFault?

/-- Fails with the first rule that the plan breaks. -/
def check (p : Plan) : Except Failure Unit :=
  match p.fault? with
  | some fault => .error fault
  | none => .ok ()

end FlinkSql.Plan
