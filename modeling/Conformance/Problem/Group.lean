import Conformance.Problem

/-! Problems grouped by requirement and sample. Groups stand in the order in which their first
problem appears, and the problems of a group keep their order. While the groups are made, an index
of their keys leads to the place of each. -/

namespace Conformance

structure ProblemGroupKey where
  requirementKey : String
  sampleId : String
deriving DecidableEq, Repr

/-- The problems of one requirement on one sample. -/
structure ProblemGroup where
  key : ProblemGroupKey
  requirementTitle : String
  sampleDescription : String
  problems : List Problem
deriving DecidableEq, Repr

def Problem.groupKey (p : Problem) : ProblemGroupKey :=
  { requirementKey := p.requirementKey, sampleId := p.sampleId }

/-- The group that a problem opens, with nothing in it yet. -/
def ProblemGroup.opened (p : Problem) : ProblemGroup where
  key := p.groupKey
  requirementTitle := p.requirementTitle
  sampleDescription := p.sampleDescription
  problems := []

/-- Groups in the making, and the places of their keys among them. -/
structure Grouping where
  groups : List ProblemGroup := []
  index : List (ProblemGroupKey × Nat) := []
deriving DecidableEq, Repr

namespace Grouping

/-- The place of the group of `p`. If the index has none, the group is opened at the end. -/
def entry (s : Grouping) (p : Problem) : Grouping × Nat :=
  match s.index.lookup p.groupKey with
  | some place => (s, place)
  | none =>
    ({ groups := s.groups ++ [.opened p], index := (p.groupKey, s.groups.length) :: s.index },
      s.groups.length)

/-- One more problem, at the end of its group; nothing if the index leads past the groups. -/
def add (s : Grouping) (p : Problem) : Option Grouping :=
  let (s, place) := s.entry p
  s.groups[place]?.map fun g =>
    { s with groups := s.groups.set place { g with problems := g.problems ++ [p] } }

end Grouping

/-- The groups of a list of problems, added one after another. -/
def ProblemGroup.ofProblems (problems : List Problem) : Option (List ProblemGroup) :=
  (problems.foldlM Grouping.add {}).map (·.groups)

open RecordReader

instance : JsonForm ProblemGroupKey where
  toJson k := .object [("requirementKey", toJson k.requirementKey),
    ("sampleId", toJson k.sampleId)]
  ofJson? := run do
    let requirementKey ← required "requirementKey"
    let sampleId ← required "sampleId"
    return { requirementKey, sampleId }

instance : JsonForm ProblemGroup where
  toJson g := .object [("key", toJson g.key), ("requirementTitle", toJson g.requirementTitle),
    ("sampleDescription", toJson g.sampleDescription), ("items", toJson g.problems)]
  ofJson? := run do
    let key ← required "key"
    let requirementTitle ← required "requirementTitle"
    let sampleDescription ← required "sampleDescription"
    let problems ← required "items"
    return { key, requirementTitle, sampleDescription, problems }

end Conformance
