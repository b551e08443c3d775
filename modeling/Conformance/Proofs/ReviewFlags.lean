import Conformance.Proofs.Operation

/-! Review flags over whole runs. A pending review stays pending until it is settled by an
acknowledgement or a new audit, or until its result is deleted. Only an update of the rule file
raises a flag, and only where it gives the key another meaning. The flag in what a caller hands in
counts for nothing. -/

namespace Conformance

/-- An operation with the definition that its caller hands to it. The operations on one result
compute its status under that definition, which need not be the one of the active rule file. -/
structure Call where
  operation : Operation
  definition : Requirement

namespace Operation

/-- The operation acknowledges or audits anew the result at a position and key. -/
def Settles (op : Operation) (i : Nat) (key : String) : Prop :=
  op = .acknowledge i key ∨ ∃ findings now, op = .reaudit i key findings now

/-- The operation with another review flag in the findings that it is given. -/
def withFlag (flag : Bool) : Operation → Operation
  | record i key findings now => record i key { findings with needsReview := flag } now
  | reaudit i key findings now => reaudit i key { findings with needsReview := flag } now
  | op => op

end Operation

def Call.withFlag (flag : Bool) (c : Call) : Call :=
  { c with operation := c.operation.withFlag flag }

namespace Audit

/-- The result stored under a key of the sample at a position. -/
def result? (a : Audit) (i : Nat) (key : String) : Option RequirementResult :=
  a.samples[i]?.bind (·.result? key)

/-- Whether a review of that result is pending. -/
def pending (a : Audit) (i : Nat) (key : String) : Bool := (a.result? i key).any (·.needsReview)

/-- The audit with a result under a key of the sample at a position, computed under `r`. -/
def writeUnder (a : Audit) (r : Requirement) (i : Nat) (key : String) (op : Operation) :
    Option Audit := do
  let s ← a.samples[i]?
  let y ← op.written r (s.result? key)
  return a.setSampleAt i { s with results := s.results.insert key y }

/-- The audit after a call, unless it is refused. -/
def call (a : Audit) (c : Call) : Option Audit :=
  match c.operation with
  | .record i key .. => a.writeUnder c.definition i key c.operation
  | .acknowledge i key => a.writeUnder c.definition i key c.operation
  | .reaudit i key .. => a.writeUnder c.definition i key c.operation
  | op => a.perform op

/-- The audit after calls one after another, none of which is refused. -/
def callAll (a : Audit) (calls : List Call) : Option Audit := calls.foldlM call a

end Audit

/-! ### One write -/

section Writes

variable {r : Requirement} {previous : Option RequirementResult} {y : RequirementResult}

theorem Lifecycle.needsReview_derived (computed : Status) :
    (derived computed).needsReview = false := by
  cases computed <;> rfl

theorem Lifecycle.needsReview_onRecorded (state : Lifecycle) (computed : Status) :
    (state.onRecorded computed).needsReview = state.needsReview := by
  cases state with
  | stale => rfl
  | _ => exact needsReview_derived computed

/-- A review is pending after an event exactly if the rule file changed or it was pending before and
findings were recorded. -/
theorem Lifecycle.needsReview_of_transition {state next : Lifecycle} {event : LifecycleEvent}
    {computed : Status} (h : state.transition event computed = .ok next) :
    next.needsReview = true ↔
      event = .ruleFileChanged ∨ (event = .recorded ∧ state.needsReview = true) := by
  cases event with
  | ruleFileChanged =>
    obtain rfl := Except.ok.inj h
    simp [needsReview]
  | recorded =>
    obtain rfl := Except.ok.inj h
    simp [needsReview_onRecorded]
  | reaudited =>
    obtain rfl := Except.ok.inj h
    simp [needsReview_derived]
  | acknowledged =>
    rw [transition] at h
    split at h
    · obtain rfl := Except.ok.inj h
      simp [needsReview_derived]
    · cases h

theorem Lifecycle.needsReview_of_settled {state next : Lifecycle} {event : LifecycleEvent}
    {computed : Status} (h : state.transition event computed = .ok next)
    (hevent : event = .acknowledged ∨ event = .reaudited) : next.needsReview = false := by
  rw [← Bool.not_eq_true, needsReview_of_transition h]
  rcases hevent with rfl | rfl <;> simp

theorem RequirementResult.needsReview_lifecycle (x : RequirementResult) :
    x.lifecycle.needsReview = x.needsReview := by
  rw [lifecycle, Lifecycle.ofParts]
  cases x.needsReview with
  | true => rfl
  | false => exact Lifecycle.needsReview_derived x.status

/-- Recording leaves the review as the previous result has it, and a missing one has none. -/
theorem RequirementResult.needsReview_onRecorded (previous : Option RequirementResult)
    (computed : Status) :
    (((previous.map lifecycle).getD .fresh).onRecorded computed).needsReview =
      previous.any (·.needsReview) := by
  rw [Lifecycle.needsReview_onRecorded]
  cases previous with
  | none => rfl
  | some p => exact p.needsReview_lifecycle

theorem Requirement.needsReview_stamped (x : RequirementResult)
    (previous : Option RequirementResult) (now : Timestamp) :
    (stamped x previous now).needsReview = x.needsReview := by
  rw [stamped_eq]

theorem Requirement.needsReview_applyUpdate (previous : Option RequirementResult)
    (x : RequirementResult) (now : Timestamp) :
    (r.applyUpdate previous x now).needsReview = previous.any (·.needsReview) := by
  rw [applyUpdate, needsReview_stamped]
  exact RequirementResult.needsReview_onRecorded previous _

/-- What is stored by an acknowledgement or a new audit is settled; any other write leaves the flag
as it was. -/
theorem Operation.needsReview_written {op : Operation} {i : Nat} {key : String} {a : Audit}
    (htarget : op.target? a = some (i, key)) (hy : op.written r previous = some y) :
    y.needsReview = previous.any (·.needsReview) ∨ op.Settles i key := by
  cases op with
  | record j k findings now =>
    obtain rfl := Option.some.inj hy
    exact .inl (Requirement.needsReview_applyUpdate _ _ _)
  | acknowledge j k =>
    obtain ⟨rfl, rfl⟩ := Prod.mk.inj (Option.some.inj htarget)
    exact .inr (.inl rfl)
  | reaudit j k findings now =>
    obtain ⟨rfl, rfl⟩ := Prod.mk.inj (Option.some.inj htarget)
    exact .inr (.inr ⟨findings, now, rfl⟩)
  | resolve p now =>
    obtain rfl := Option.some.inj hy
    refine .inl ?_
    rw [Requirement.markSolved, Requirement.needsReview_applyUpdate]
    cases previous <;> rfl
  | updateRuleFile new report => cases hy
  | commitEdit j file edit impact retention => cases hy

theorem Operation.needsReview_of_settles {op : Operation} {i : Nat} {key : String}
    (h : op.Settles i key) (hy : op.written r previous = some y) : y.needsReview = false := by
  rcases h with rfl | ⟨findings, now, rfl⟩
  · rw [written, Requirement.acknowledge] at hy
    obtain ⟨state, hstate, rfl⟩ := exists_of_map_toOption hy
    exact Lifecycle.needsReview_of_settled hstate (.inl rfl)
  · rw [written, Requirement.reaudit] at hy
    obtain ⟨state, hstate, rfl⟩ := exists_of_map_toOption hy
    rw [Requirement.needsReview_stamped]
    exact Lifecycle.needsReview_of_settled hstate (.inr rfl)

end Writes

/-! ### One call -/

/-- What an operation can make of the result at a position and key. -/
inductive ResultStep (a : Audit) (op : Operation) (i : Nat) (key : String) :
    Option RequirementResult → Prop
  | kept : ResultStep a op i key (a.result? i key)
  | deleted : ResultStep a op i key none
  | written {r : Requirement} {y : RequirementResult} (htarget : op.target? a = some (i, key))
    (hy : op.written r (a.result? i key) = some y) : ResultStep a op i key (some y)
  | flagged {new : RuleFile} {report : ChangeReport} {x : RequirementResult}
    (hop : op = .updateRuleFile new report) (hx : a.result? i key = some x)
    (hu : a.ruleFile.Unsettles new key) : ResultStep a op i key (some x.flagged)

namespace Audit

variable {a b : Audit} {op : Operation} {i j : Nat} {key k : String} {s t : Sample}

theorem result?_setSampleAt (hs : a.samples[j]? = some s) (t : Sample) :
    (a.setSampleAt j t).result? i key = if i = j then t.result? key else a.result? i key := by
  rw [result?, result?, setSampleAt]
  by_cases hi : i = j
  · have hlt : j < a.samples.length := (List.getElem?_eq_some_iff.mp hs).1
    rw [if_pos hi, hi, List.getElem?_set_self hlt, Option.bind_some]
  · rw [if_neg hi, List.getElem?_set_ne (Ne.symm hi)]

theorem result?_of_getElem? (hs : a.samples[i]? = some s) : a.result? i key = s.result? key := by
  rw [result?, hs, Option.bind_some]

theorem result?_reconcile (new : RuleFile) : (a.reconcile new).result? i key =
    (a.result? i key).bind (disposition a.ruleFile new key).apply := by
  simp only [result?, reconcile, List.getElem?_map]
  cases a.samples[i]? with
  | none => rfl
  | some s => exact s.result?_reconcile a.ruleFile new key

theorem resultStep_of_insert {r : Requirement} {y : RequirementResult}
    (hs : a.samples[j]? = some s) (htarget : op.target? a = some (j, k))
    (hy : op.written r (s.result? k) = some y) :
    ResultStep a op i key
      ((a.setSampleAt j { s with results := s.results.insert k y }).result? i key) := by
  rw [result?_setSampleAt hs]
  by_cases hi : i = j
  · subst hi
    rw [if_pos rfl, Sample.result?, KeyedMap.get?_insert]
    by_cases hk : key = k
    · subst hk
      rw [if_pos rfl]
      exact .written htarget (by rwa [result?_of_getElem? hs])
    · rw [if_neg hk]
      have hsame : a.result? i key = s.results.get? key := result?_of_getElem? hs
      rw [← hsame]
      exact .kept
  · rw [if_neg hi]
    exact .kept

theorem resultStep_of_transition (h : Transition a op b) :
    ResultStep a op i key (b.result? i key) := by
  cases h with
  | @update new report hop hvalid =>
    rw [result?_reconcile]
    cases hx : a.result? i key with
    | none => exact .deleted
    | some x =>
      rw [Option.bind_some]
      by_cases hu : a.ruleFile.Unsettles new key
      · rw [disposition_of_unsettles hu]
        exact .flagged hop hx hu
      · by_cases hnew : new.contains key = true
        · rw [disposition_of_not_unsettles hnew hu]
          show ResultStep a op i key (some x)
          rw [← hx]
          exact .kept
        · rw [disposition_of_not_contains hnew]
          exact .deleted
  | write htarget hs hr hy => exact resultStep_of_insert hs htarget hy
  | @edit j s t file e impact retention hop hs ht =>
    rw [result?_setSampleAt hs]
    by_cases hi : i = j
    · rw [if_pos hi]
      cases hx : t.result? key with
      | none => exact .deleted
      | some x =>
        have hbefore := SampleEdit.result?_of_commit ht hx
        rw [← result?_of_getElem? hs, ← hi] at hbefore
        exact hbefore ▸ .kept
    · rw [if_neg hi]
      exact .kept

theorem resultStep_of_writeUnder {r : Requirement} (htarget : op.target? a = some (j, k))
    (h : a.writeUnder r j k op = some b) : ResultStep a op i key (b.result? i key) := by
  simp only [writeUnder, Option.bind_eq_bind, Option.bind_eq_some_iff, Option.pure_def,
    Option.some.injEq] at h
  obtain ⟨s, hs, y, hy, rfl⟩ := h
  exact resultStep_of_insert hs htarget hy

theorem resultStep_of_call {c : Call} (h : a.call c = some b) :
    ResultStep a c.operation i key (b.result? i key) := by
  obtain ⟨op, r⟩ := c
  cases op with
  | record j k findings now => exact resultStep_of_writeUnder rfl h
  | acknowledge j k => exact resultStep_of_writeUnder rfl h
  | reaudit j k findings now => exact resultStep_of_writeUnder rfl h
  | updateRuleFile new report => exact resultStep_of_transition (transition_of_perform h)
  | resolve p now => exact resultStep_of_transition (transition_of_perform h)
  | commitEdit j file edit impact retention =>
    exact resultStep_of_transition (transition_of_perform h)

/-- A pending review stays pending in a call that does not settle it and leaves the result there. -/
theorem pending_of_call {c : Call} (h : a.call c = some b) (hpending : a.pending i key = true)
    (hsettle : ¬c.operation.Settles i key) (hstays : b.result? i key ≠ none) :
    b.pending i key = true := by
  have hstep : ResultStep a c.operation i key (b.result? i key) := resultStep_of_call h
  rw [pending] at hpending ⊢
  generalize b.result? i key = z at hstep hstays ⊢
  cases hstep with
  | kept => exact hpending
  | deleted => exact absurd rfl hstays
  | written htarget hy =>
    rw [Option.any_some, (Operation.needsReview_written htarget hy).resolve_right hsettle]
    exact hpending
  | flagged hop hx hu => rfl

/-- A flag is raised by nothing but an update that gives its key another meaning. -/
theorem exists_update_of_raised {c : Call} (h : a.call c = some b)
    (hcalm : a.pending i key = false) (hraised : b.pending i key = true) :
    ∃ new report x, c.operation = .updateRuleFile new report ∧ a.result? i key = some x ∧
      a.ruleFile.Unsettles new key := by
  have hstep : ResultStep a c.operation i key (b.result? i key) := resultStep_of_call h
  rw [pending] at hcalm hraised
  generalize b.result? i key = z at hstep hraised
  cases hstep with
  | kept =>
    rw [hcalm] at hraised
    cases hraised
  | deleted => cases hraised
  | written htarget hy =>
    rw [Option.any_some] at hraised
    rcases Operation.needsReview_written htarget hy with hsame | hsettles
    · rw [hsame, hcalm] at hraised
      cases hraised
    · rw [Operation.needsReview_of_settles hsettles hy] at hraised
      cases hraised
  | @flagged new report x hop hx hu => exact ⟨new, report, x, hop, hx, hu⟩

theorem call_withFlag (a : Audit) (flag : Bool) (c : Call) :
    a.call (c.withFlag flag) = a.call c := by
  obtain ⟨op, r⟩ := c
  cases op with
  | record j k findings now => rfl
  | reaudit j k findings now => rfl
  | _ => rfl

/-! ### Whole runs -/

theorem callAll_cons (c : Call) (rest : List Call) :
    a.callAll (c :: rest) = (a.call c).bind (·.callAll rest) := rfl

theorem callAll_withFlag (flag : Bool) (calls : List Call) :
    a.callAll (calls.map (Call.withFlag flag)) = a.callAll calls := by
  induction calls generalizing a with
  | nil => rfl
  | cons c rest ih =>
    rw [List.map_cons, callAll_cons, callAll_cons, call_withFlag]
    exact congrArg _ (funext fun m => ih)

/-- A pending review is pending at the end of a run, unless some call on the way settles it or
deletes its result while it is still pending. -/
theorem pending_or_exists_of_callAll {calls : List Call} (hrun : a.callAll calls = some b)
    (hpending : a.pending i key = true) :
    b.pending i key = true ∨ ∃ front c rest before after, calls = front ++ c :: rest ∧
      a.callAll front = some before ∧ before.call c = some after ∧ before.pending i key = true ∧
      (c.operation.Settles i key ∨ after.result? i key = none) := by
  induction calls generalizing a with
  | nil =>
    obtain rfl := Option.some.inj hrun
    exact .inl hpending
  | cons c rest ih =>
    rw [callAll_cons, Option.bind_eq_some_iff] at hrun
    obtain ⟨next, hcall, hrest⟩ := hrun
    by_cases hexit : c.operation.Settles i key ∨ next.result? i key = none
    · exact .inr ⟨[], c, rest, a, next, rfl, rfl, hcall, hpending, hexit⟩
    · obtain ⟨hsettle, hstays⟩ := not_or.mp hexit
      -- The review is pending after this call too, so the exit lies further on.
      have hnext := pending_of_call hcall hpending hsettle hstays
      refine (ih hrest hnext).imp_right ?_
      rintro ⟨front, d, back, before, after, rfl, hfront, hrest⟩
      refine ⟨c :: front, d, back, before, after, rfl, ?_, hrest⟩
      rw [callAll_cons, hcall, Option.bind_some, hfront]

/-- Review flags are sticky: over any run of calls, a pending review ends only with an
acknowledgement, a new audit or the deletion of its result; each call that raises a flag is an
update that gives the key another meaning; and the flags in what callers hand in change nothing. -/
theorem review_flags_of_callAll {calls : List Call} (hrun : a.callAll calls = some b) (i : Nat)
    (key : String) :
    (a.pending i key = true → b.pending i key = true ∨
      ∃ front c rest before after, calls = front ++ c :: rest ∧
        a.callAll front = some before ∧ before.call c = some after ∧
        before.pending i key = true ∧
        (c.operation.Settles i key ∨ after.result? i key = none)) ∧
    (∀ front c rest before after, calls = front ++ c :: rest → a.callAll front = some before →
      before.call c = some after → before.pending i key = false → after.pending i key = true →
      ∃ new report x, c.operation = .updateRuleFile new report ∧
        before.result? i key = some x ∧ before.ruleFile.Unsettles new key) ∧
    (∀ others : List Call,
      others.map (Call.withFlag false) = calls.map (Call.withFlag false) →
      a.callAll others = some b) := by
  refine ⟨pending_or_exists_of_callAll hrun,
    fun _ _ _ _ _ _ _ hcall => exists_update_of_raised hcall, fun others hothers => ?_⟩
  calc a.callAll others
      = a.callAll (others.map (Call.withFlag false)) := (callAll_withFlag false others).symm
    _ = a.callAll (calls.map (Call.withFlag false)) := by rw [hothers]
    _ = a.callAll calls := callAll_withFlag false calls
    _ = some b := hrun

end Audit

namespace Specimen

/-- A remark under a key whose review is pending, and then the update that drops the key. -/
def remarkThenUpdate : List Call :=
  [⟨remark "gone", gone⟩, ⟨.updateRuleFile second (audit.changeReport second), gone⟩]

theorem flags_after_update : ∃ edited final, audit.call ⟨remark "gone", gone⟩ = some edited ∧
    audit.callAll remarkThenUpdate = some final ∧
    audit.pending 0 "gone" = true ∧ edited.pending 0 "back" = false ∧
    final.pending 0 "back" = true ∧ edited.ruleFile.Unsettles second "back" ∧
    (final.pending 0 "gone" = true ∨ ∃ front c rest before after,
      remarkThenUpdate = front ++ c :: rest ∧ audit.callAll front = some before ∧
      before.call c = some after ∧ before.pending 0 "gone" = true ∧
      (c.operation.Settles 0 "gone" ∨ after.result? 0 "gone" = none)) := by
  obtain ⟨edited, hedited⟩ : ∃ edited, audit.call ⟨remark "gone", gone⟩ = some edited := ⟨_, rfl⟩
  have hfile : edited.ruleFile = first := by
    obtain rfl := Option.some.inj hedited
    rfl
  have hback : edited.result? 0 "back" = some {} := by
    obtain rfl := Option.some.inj hedited
    decide
  have hcalm : edited.pending 0 "back" = false := by
    rw [Audit.pending, hback]
    rfl
  have hupdate : edited.call ⟨.updateRuleFile second (audit.changeReport second), gone⟩ =
      some (edited.reconcile second) := by
    show (edited.applyRuleFile second (audit.changeReport second)).toOption = _
    rw [Audit.applyRuleFile_of_ruleFile_eq hfile (by decide)]
    rfl
  have hrun : audit.callAll remarkThenUpdate = some (edited.reconcile second) := by
    rw [remarkThenUpdate, Audit.callAll_cons, hedited, Option.bind_some, Audit.callAll_cons,
      hupdate]
    rfl
  have hraised : (edited.reconcile second).pending 0 "back" = true := by
    rw [Audit.pending, Audit.result?_reconcile, hback, hfile]
    decide
  have hpending : audit.pending 0 "gone" = true := by decide
  obtain ⟨new, report, x, hop, -, hunsettles⟩ :=
    (Audit.review_flags_of_callAll hrun 0 "back").2.1 [⟨remark "gone", gone⟩] _ [] edited _ rfl
      (by rw [Audit.callAll_cons, hedited]; rfl) hupdate hcalm hraised
  obtain ⟨rfl, -⟩ := Operation.updateRuleFile.inj hop
  exact ⟨edited, _, hedited, hrun, hpending, hcalm, hraised, hunsettles,
    (Audit.review_flags_of_callAll hrun 0 "gone").1 hpending⟩

end Specimen

end Conformance
