import Conformance.Problem.Resolution
import Conformance.Proofs.KeyedMap
import Conformance.Proofs.RuleFileUpdate
import Conformance.Proofs.TimestampText
import Conformance.Sample.Impact

/-! The operations that change an audit, with any arguments and in any order, and what each of them
can do: bring the results in line with a new rule file, store one result, or replace one sample by
its edit. Invariants of audits are proved against these three cases. -/

namespace Conformance

/-- An operation with its arguments. Samples stand at positions, since their ids may repeat. -/
inductive Operation
  | updateRuleFile (new : RuleFile) (report : ChangeReport)
  | record (position : Nat) (key : String) (findings : RequirementResult) (now : Timestamp)
  | acknowledge (position : Nat) (key : String)
  | reaudit (position : Nat) (key : String) (findings : RequirementResult) (now : Timestamp)
  | resolve (problem : Problem) (now : Timestamp)
  | commitEdit (position : Nat) (file : RuleFile) (edit : SampleEdit) (impact : EditImpact)
    (retention : OrphanRetention)

namespace Operation

/-- What an operation stores in place of a result. A result that is not stored counts as an empty
one wherever a result is needed. -/
def written (r : Requirement) (previous : Option RequirementResult) :
    Operation → Option RequirementResult
  | record _ _ findings now => some (r.applyUpdate previous findings now)
  | acknowledge _ _ => (r.acknowledge (previous.getD {})).toOption
  | reaudit _ _ findings now => (r.reaudit (previous.getD {}) findings now).toOption
  | resolve p now => some (r.markSolved (previous.getD {}) p.checkId p.criterionId now)
  | updateRuleFile _ _ => none
  | commitEdit _ _ _ _ _ => none

/-- The position of the sample and the key under which an operation stores a result. -/
def target? (a : Audit) : Operation → Option (Nat × String)
  | record i key _ _ => some (i, key)
  | acknowledge i key => some (i, key)
  | reaudit i key _ _ => some (i, key)
  | resolve p _ => (a.samples.findIdx? fun s => s.id == p.sampleId).map (·, p.requirementKey)
  | updateRuleFile _ _ => none
  | commitEdit _ _ _ _ _ => none

def newRuleFile? : Operation → Option RuleFile
  | updateRuleFile new _ => some new
  | _ => none

theorem newRuleFile?_of_written {op : Operation} {r : Requirement}
    {previous : Option RequirementResult} {y : RequirementResult}
    (h : op.written r previous = some y) : op.newRuleFile? = none := by
  cases op with
  | updateRuleFile new report => cases h
  | _ => rfl

end Operation

namespace Audit

def setSampleAt (a : Audit) (i : Nat) (t : Sample) : Audit :=
  { a with samples := a.samples.set i t }

/-- The audit with a result under a key of the sample at a position, if the active rule file defines
the key and the operation gives a result. -/
def writeAt (a : Audit) (i : Nat) (key : String) (op : Operation) : Option Audit := do
  let r ← a.ruleFile.requirement? key
  let s ← a.samples[i]?
  let y ← op.written r (s.result? key)
  return a.setSampleAt i { s with results := s.results.insert key y }

/-- The audit after an operation, unless it is refused. -/
def perform (a : Audit) (op : Operation) : Option Audit :=
  match op with
  | .updateRuleFile new report => (a.applyRuleFile new report).toOption
  | .record i key .. => a.writeAt i key op
  | .acknowledge i key => a.writeAt i key op
  | .reaudit i key .. => a.writeAt i key op
  | .resolve p now => (a.resolve p now).toOption
  | .commitEdit i file edit impact retention => do
    let s ← a.samples[i]?
    let t ← (edit.commit file s impact retention).toOption
    return a.setSampleAt i t

/-- The audit after operations one after another, none of which is refused. -/
def run (a : Audit) (ops : List Operation) : Option Audit := ops.foldlM perform a

end Audit

/-! ### What an operation can do -/

/-- The audit before an operation, the operation, and the audit that it leaves. -/
inductive Transition (a : Audit) (op : Operation) : Audit → Prop
  | update {new : RuleFile} {report : ChangeReport} (hop : op = .updateRuleFile new report)
    (hvalid : new.validate = .ok ()) : Transition a op (a.reconcile new)
  | write {i : Nat} {s : Sample} {key : String} {r : Requirement} {y : RequirementResult}
    (htarget : op.target? a = some (i, key)) (hs : a.samples[i]? = some s)
    (hr : a.ruleFile.requirement? key = some r)
    (hy : op.written r (s.result? key) = some y) :
    Transition a op (a.setSampleAt i { s with results := s.results.insert key y })
  | edit {i : Nat} {s t : Sample} {file : RuleFile} {e : SampleEdit} {impact : EditImpact}
    {retention : OrphanRetention} (hop : op = .commitEdit i file e impact retention)
    (hs : a.samples[i]? = some s) (ht : e.commit file s impact retention = .ok t) :
    Transition a op (a.setSampleAt i t)

theorem eq_ok_of_toOption {ε α : Type} {x : Except ε α} {y : α} (h : x.toOption = some y) :
    x = .ok y := by
  cases x with
  | error e => cases h
  | ok z => exact congrArg Except.ok (Option.some.inj h)

theorem exists_of_map_toOption {ε α β : Type} {x : Except ε α} {f : α → β} {y : β}
    (h : (x.map f).toOption = some y) : ∃ z, x = .ok z ∧ f z = y := by
  cases x with
  | error e => cases h
  | ok z => exact ⟨z, rfl, Option.some.inj h⟩

theorem replaceSample_eq_set {samples : List Sample} {id : String} {s : Sample}
    (h : samples.find? (fun s => s.id == id) = some s) :
    ∃ i : Nat, samples.findIdx? (fun s => s.id == id) = some i ∧ samples[i]? = some s ∧
      ∀ t, replaceSample id t samples = samples.set i t := by
  induction samples with
  | nil => cases h
  | cons head rest ih =>
    by_cases hid : head.id = id
    · rw [List.find?_cons_of_pos (by simp [hid])] at h
      refine ⟨0, by simp [List.findIdx?_cons, hid], by rw [List.getElem?_cons_zero, h],
        fun t => ?_⟩
      rw [replaceSample, if_pos hid, List.set_cons_zero]
    · rw [List.find?_cons_of_neg (by simp [hid])] at h
      obtain ⟨i, hindex, hi, hset⟩ := ih h
      refine ⟨i + 1, by simp [List.findIdx?_cons, hid, hindex],
        by rw [List.getElem?_cons_succ, hi], fun t => ?_⟩
      rw [replaceSample, if_neg hid, hset, List.set_cons_succ]

namespace Audit

variable {a b : Audit} {op : Operation}

theorem transition_of_writeAt {i : Nat} {key : String} (htarget : op.target? a = some (i, key))
    (h : a.writeAt i key op = some b) : Transition a op b := by
  simp only [writeAt, Option.bind_eq_bind, Option.bind_eq_some_iff, Option.pure_def,
    Option.some.injEq] at h
  obtain ⟨r, hr, s, hs, y, hy, rfl⟩ := h
  exact .write htarget hs hr hy

theorem transition_of_resolve {p : Problem} {now : Timestamp} (h : a.resolve p now = .ok b) :
    Transition a (.resolve p now) b := by
  rw [resolve] at h
  cases hr : a.ruleFile.requirement? p.requirementKey with
  | none => simp [hr] at h
  | some r =>
    cases hs : a.sample? p.sampleId with
    | none => simp [hr, hs] at h
    | some s =>
      simp only [hr, hs, Except.ok.injEq] at h
      have hid : s.id = p.sampleId := by simpa using List.find?_some hs
      obtain ⟨i, hindex, hi, hset⟩ := replaceSample_eq_set hs
      rw [← hid] at hset
      rw [← h, storeResult, setSample, hset]
      exact .write (by rw [Operation.target?, hindex, Option.map_some]) hi hr rfl

/-- Whatever an operation does is one of the three. -/
theorem transition_of_perform (h : a.perform op = some b) : Transition a op b := by
  cases op with
  | updateRuleFile new report =>
    obtain ⟨hvalid, rfl⟩ := eq_reconcile_of_applyRuleFile (eq_ok_of_toOption h)
    exact .update rfl hvalid
  | record i key findings now => exact transition_of_writeAt rfl h
  | acknowledge i key => exact transition_of_writeAt rfl h
  | reaudit i key findings now => exact transition_of_writeAt rfl h
  | resolve p now => exact transition_of_resolve (eq_ok_of_toOption h)
  | commitEdit i file edit impact retention =>
    simp only [perform, Option.bind_eq_bind, Option.bind_eq_some_iff, Option.pure_def,
      Option.some.injEq] at h
    obtain ⟨s, hs, t, ht, rfl⟩ := h
    exact .edit rfl hs (eq_ok_of_toOption ht)

end Audit

/-- A committed edit changes no result, but may drop some. -/
theorem SampleEdit.result?_of_commit {file : RuleFile} {s t : Sample} {e : SampleEdit}
    {impact : EditImpact} {retention : OrphanRetention}
    (h : e.commit file s impact retention = .ok t) {key : String} {x : RequirementResult}
    (hx : t.result? key = some x) : s.result? key = some x := by
  rw [commit] at h
  split at h
  · cases retention with
    | retain =>
      obtain rfl := Except.ok.inj h
      exact hx
    | discard =>
      obtain rfl := Except.ok.inj h
      rw [Sample.result?, KeyedMap.get?_foldl_erase] at hx
      split at hx
      · cases hx
      · exact hx
  · cases h

namespace Specimen

/-- A remark for the first sample under `key`. -/
def remark (key : String) : Operation := .record 0 key { commentToActor := "Add a text" } noon

end Specimen

end Conformance
