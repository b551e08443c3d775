import Conformance.ChangeReport.Form
import Conformance.Problem
import Conformance.Proofs.KeyedMap
import Conformance.Proofs.TimestampText
import Conformance.Sample.Impact
import Conformance.Statistics

/-! Strict reading undoes writing. The strict reader asks for the members of a record one after
another, by name; the writer writes every member under its own name, so each request finds what was
written for it. A record can be read back because its parts can. -/

namespace Conformance

/-- Strict reading undoes writing. -/
class LawfulForm (α : Type) [JsonForm α] : Prop where
  ofJson?_toJson : ∀ a : α, ofJson? (toJson a) = some a

export LawfulForm (ofJson?_toJson)

/-! ### Values -/

instance : LawfulForm Json := ⟨fun _ => rfl⟩

instance : LawfulForm String := ⟨fun _ => rfl⟩

instance : LawfulForm Bool := ⟨fun _ => rfl⟩

instance : LawfulForm Nat := ⟨fun _ => rfl⟩

instance : LawfulForm Timestamp := ⟨Timestamp.ofRelaxed?_text⟩

instance : LawfulForm Status := ⟨fun s => by cases s <;> rfl⟩

instance : LawfulForm CheckMark := ⟨fun m => by cases m <;> rfl⟩

instance : LawfulForm CriterionStatus := ⟨fun s => by cases s <;> rfl⟩

instance : LawfulForm Logic := ⟨fun l => by cases l <;> rfl⟩

/-- No value is written as `null`, which stands for an absent one. -/
class NonNull (α : Type) [JsonForm α] : Prop where
  toJson_ne_null : ∀ a : α, toJson a ≠ .null

instance : NonNull String := ⟨nofun⟩

instance : NonNull Timestamp := ⟨fun t (h : Json.text t.text = .null) => by cases h⟩

section Collections

variable {α : Type} [JsonForm α]

instance : NonNull (List α) := ⟨nofun⟩

theorem ofJson?_of_ne_null {j : Json} (h : j ≠ .null) :
    (ofJson? j : Option (Option α)) = (ofJson? j).map some := by
  cases j <;> first | rfl | exact absurd rfl h

/-- Where an optional member is written, `null` says that it is absent. -/
theorem member?_eq_null_iff [NonNull α] {j : Json} {name : String} {o : Option α}
    (h : j.member? name = some (toJson o)) : j.member? name = some .null ↔ o = none := by
  rw [h, Option.some.injEq]
  cases o with
  | none => exact iff_of_true rfl rfl
  | some a => exact iff_of_false (NonNull.toJson_ne_null a) nofun

variable [LawfulForm α]

instance [NonNull α] : LawfulForm (Option α) where
  ofJson?_toJson o := by
    cases o with
    | none => rfl
    | some a =>
      have hnull : toJson a ≠ .null := NonNull.toJson_ne_null a
      exact (ofJson?_of_ne_null hnull).trans (by rw [ofJson?_toJson, Option.map_some])

theorem mapM_map_eq_some {α β : Type} {write : α → β} {read : β → Option α}
    (h : ∀ a, read (write a) = some a) (as : List α) : (as.map write).mapM read = some as := by
  have hread : read ∘ write = fun a => pure a := funext h
  rw [List.mapM_map, hread, List.mapM_pure, List.map_id']
  rfl

instance : LawfulForm (List α) := ⟨mapM_map_eq_some ofJson?_toJson⟩

instance : LawfulForm (KeyedMap α) where
  ofJson?_toJson m := by
    have hentries : (m.entries.map fun e => (e.1, toJson e.2)).mapM
        (fun e => (ofJson? e.2).map (e.1, ·)) = some m.entries :=
      mapM_map_eq_some (fun e => by rw [ofJson?_toJson, Option.map_some]) m.entries
    exact (congrArg (Option.map KeyedMap.ofList) hentries).trans (congrArg some m.ofList_entries)

end Collections

/-! ### Members of records -/

namespace RecordReader

variable {α β : Type} {all : List (String × Json)} {name : String}

/-- Of a record with these members the reader makes `a`. -/
def Reads (all : List (String × Json)) (reader : RecordReader α) (a : α) : Prop :=
  reader (.members all) = some (a, .members all)

theorem Reads.return (a : α) : Reads all (pure a) a := rfl

theorem Reads.bind {reader : RecordReader α} {next : α → RecordReader β} {a : α} {b : β}
    (h : Reads all reader a) (hnext : Reads all (next a) b) : Reads all (reader >>= next) b := by
  have hstep : (reader >>= next) (.members all) =
      (reader (.members all)).bind fun p => next p.1 p.2 := rfl
  rw [Reads, hstep, h, Option.bind_some]
  exact hnext

section

variable [JsonForm α] [LawfulForm α] {a : α} {b : β} {next : α → RecordReader β}

/-- Under the name of a member stands what was written for it. -/
theorem reads_member? (h : all.lookup name = some (toJson a)) :
    Reads all (member? name) (some a) := by
  rw [Reads, member?, h]
  simp only [ofJson?_toJson, Option.map_some]

theorem Reads.required (h : all.lookup name = some (toJson a)) (hnext : Reads all (next a) b) :
    Reads all (required name >>= next) b :=
  .bind (.bind (reads_member? h) (.return a)) hnext

theorem Reads.optional {absent : α} (h : all.lookup name = some (toJson a))
    (hnext : Reads all (next a) b) : Reads all (optional name absent >>= next) b :=
  .bind (.bind (reads_member? h) (.return a)) hnext

end

theorem run_of_reads {reader : RecordReader α} {a : α} (h : Reads all reader a) :
    run reader (.object all) = some a := by
  rw [run, h]
  rfl

theorem runTagged_of_reads {select : String → Option (RecordReader α)} {kind : String}
    {reader : RecordReader α} {a : α} (hkind : all.lookup "kind" = some (.text kind))
    (hselect : select kind = some reader) (h : Reads all reader a) :
    runTagged select (.object all) = some a := by
  simp only [runTagged, hkind, hselect, Option.bind_eq_bind, Option.bind_some]
  rw [h]
  rfl

end RecordReader

open RecordReader

/-! ### Rule files -/

instance : LawfulForm Term :=
  ⟨fun _ => run_of_reads <| .required rfl <| .optional rfl <| .return _⟩

instance : LawfulForm SampleCategory :=
  ⟨fun _ => run_of_reads <| .required rfl <| .optional rfl <| .optional rfl <| .return _⟩

instance : LawfulForm RuleFileMetadata :=
  ⟨fun _ => run_of_reads <| .optional rfl <| .optional rfl <| .optional rfl <| .optional rfl <|
    .optional rfl <| .optional rfl <| .return _⟩

instance : LawfulForm Criterion :=
  ⟨fun _ => run_of_reads <| .required rfl <| .optional rfl <| .optional rfl <| .return _⟩

instance : LawfulForm Check :=
  ⟨fun _ => run_of_reads <| .required rfl <| .optional rfl <| .optional rfl <| .optional rfl <|
    .return _⟩

instance : LawfulForm Requirement :=
  ⟨fun _ => run_of_reads <| .required rfl <| .optional rfl <| .optional rfl <| .optional rfl <|
    .optional rfl <| .optional rfl <| .optional rfl <| .optional rfl <| .return _⟩

instance : LawfulForm RuleFile :=
  ⟨fun _ => run_of_reads <| .optional rfl <| .required rfl <| .return _⟩

/-! ### Results, samples and audits -/

instance : LawfulForm CriterionResult :=
  ⟨fun _ => run_of_reads <| .optional rfl <| .optional rfl <| .optional rfl <| .return _⟩

instance : LawfulForm CheckResult :=
  ⟨fun _ => run_of_reads <| .optional rfl <| .optional rfl <| .return _⟩

instance : LawfulForm RequirementResult :=
  ⟨fun _ => run_of_reads <| .optional rfl <| .optional rfl <| .optional rfl <| .optional rfl <|
    .optional rfl <| .optional rfl <| .optional rfl <| .return _⟩

instance : LawfulForm Sample :=
  ⟨fun _ => run_of_reads <| .required rfl <| .optional rfl <| .optional rfl <| .optional rfl <|
    .optional rfl <| .optional rfl <| .optional rfl <| .return _⟩

instance : LawfulForm Tombstone :=
  ⟨fun _ => run_of_reads <| .required rfl <| .required rfl <| .required rfl <| .required rfl <|
    .return _⟩

instance : LawfulForm Audit :=
  ⟨fun _ => run_of_reads <| .required rfl <| .optional rfl <| .optional rfl <| .return _⟩

/-! ### Edits, statistics and problems -/

instance : LawfulForm SampleEdit :=
  ⟨fun _ => run_of_reads <| .optional rfl <| .optional rfl <| .optional rfl <| .optional rfl <|
    .optional rfl <| .return _⟩

instance : LawfulForm EditImpact :=
  ⟨fun _ => run_of_reads <| .required rfl <| .required rfl <| .required rfl <| .required rfl <|
    .required rfl <| .return _⟩

instance : LawfulForm StatusCounts :=
  ⟨fun _ => run_of_reads <| .required rfl <| .required rfl <| .required rfl <| .required rfl <|
    .required rfl <| .return _⟩

instance : LawfulForm SampleSummary :=
  ⟨fun _ => run_of_reads <| .required rfl <| .required rfl <| .required rfl <| .return _⟩

instance : LawfulForm AuditSummary :=
  ⟨fun _ => run_of_reads <| .required rfl <| .required rfl <| .required rfl <| .return _⟩

instance : LawfulForm Problem :=
  ⟨fun _ => run_of_reads <| .required rfl <| .required rfl <| .required rfl <| .required rfl <|
    .required rfl <| .required rfl <| .required rfl <| .required rfl <| .required rfl <|
    .required rfl <| .return _⟩

instance : LawfulForm Warning where
  ofJson?_toJson w := by
    cases w with
    | stuckWithoutFailure sampleId key checkId criterionId status =>
      refine runTagged_of_reads rfl rfl (.required rfl <| .required rfl <| .required rfl <|
        .required rfl <| .required (a := toJson status) rfl ?_)
      cases status <;> rfl
    | requirementWithoutChecks key =>
      exact runTagged_of_reads rfl rfl (.required rfl (.return _))
    | checkWithoutCriteria key checkId =>
      exact runTagged_of_reads rfl rfl (.required rfl <| .required rfl <| .return _)
    | orphanedResult sampleId key =>
      exact runTagged_of_reads rfl rfl (.required rfl <| .required rfl <| .return _)

instance : LawfulForm ProblemScan :=
  ⟨fun _ => run_of_reads <| .required rfl <| .required rfl <| .return _⟩

/-! ### Change reports -/

instance : LawfulForm ChangeAspect where
  ofJson?_toJson aspect := by
    cases aspect with
    | contentTypes => exact runTagged_of_reads rfl rfl (.return _)
    | checkOrder => exact runTagged_of_reads rfl rfl (.return _)
    | _ => exact runTagged_of_reads rfl rfl (.required rfl (.return _))

instance : LawfulForm AddedRequirement :=
  ⟨fun _ => run_of_reads <| .required rfl <| .required rfl <| .required rfl <| .return _⟩

instance : LawfulForm UpdatedRequirement :=
  ⟨fun _ => run_of_reads <| .required rfl <| .required rfl <| .required rfl <| .required rfl <|
    .required rfl <| .return _⟩

instance : LawfulForm RemovedRequirement :=
  ⟨fun _ => run_of_reads <| .required rfl <| .required rfl <| .required rfl <| .required rfl <|
    .return _⟩

instance : LawfulForm ResultRef :=
  ⟨fun _ => run_of_reads <| .required rfl <| .required rfl <| .required rfl <| .return _⟩

instance : LawfulForm ChangeReport :=
  ⟨fun _ => run_of_reads <| .required rfl <| .required rfl <| .required rfl <| .required rfl <|
    .required rfl <| .required rfl <| .required rfl <| .optional rfl <| .optional rfl <|
    .return _⟩

/-! ### All records -/

/-- The record carries a tag that selects a reader of its members. -/
def Json.TaggedFor {α : Type} (select : String → Option (RecordReader α)) (j : Json) : Prop :=
  ∃ kind, j.member? "kind" = some (.text kind) ∧ (select kind).isSome = true

theorem ChangeAspect.taggedFor (aspect : ChangeAspect) : (toJson aspect).TaggedFor reader? := by
  cases aspect <;> exact ⟨_, rfl, rfl⟩

theorem Warning.taggedFor (w : Warning) : (toJson w).TaggedFor reader? := by
  cases w <;> exact ⟨_, rfl, rfl⟩

end Conformance
