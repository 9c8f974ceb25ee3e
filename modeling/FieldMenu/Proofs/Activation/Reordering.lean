import FieldMenu.Proofs.Activation.Repetition
import Mathlib.Data.List.Perm.Basic

/-! Whether an entry takes away or adds is decided for the batch, in whatever order it stands. -/

namespace FieldMenu

namespace MenuAction

/-- The decision for the whole batch: the entry takes away.  Entries that only clear always do. -/
def removes (action : MenuAction) (batch : List Record) : Bool :=
  match action with
  | .toggle field value operation _ _ => operation.removes field value batch
  | .option field token _ _ => batch.all fun record => record.holdsToken field token
  | .clearField _ | .clearAll => true

/-- What an entry does to one record, once it is decided whether it takes away. -/
def editAlone (action : MenuAction) (removes : Bool) (record : Record) : Edited Change :=
  match action with
  | .toggle field value _ _ actions =>
      if removes then record.dropField field else record.setWith field value actions
  | .option field token _ actions =>
      if removes then record.dropToken field token else record.addTokenWith field token actions
  | .clearField field => record.dropField field
  | .clearAll => record.dropAll

theorem edit_eq_editAlone (action : MenuAction) (batch : List Record) (record : Record) :
    action.edit batch record = action.editAlone (action.removes batch) record := by
  cases action with
  | toggle field value operation asks actions =>
      rw [edit, editAlone, removes]
      split <;> rfl
  | option field token asks actions =>
      rw [edit, editAlone, removes]
      split <;> rfl
  | clearField field => rfl
  | clearAll => rfl

theorem results_eq (action : MenuAction) (batch : List Record) :
    action.results batch = batch.map (action.editAlone (action.removes batch)) :=
  List.map_congr_left fun record _ => action.edit_eq_editAlone batch record

theorem failures_eq (action : MenuAction) (batch : List Record) :
    (action.report batch).failures = batch.filterMap fun record =>
      (action.editAlone (action.removes batch) record).failure? := by
  simp only [report, results_eq, List.filterMap_map]
  rfl

variable {batch other : List Record} (order : batch.Perm other)
include order

theorem removes_of_perm (action : MenuAction) : action.removes batch = action.removes other := by
  cases action with
  | toggle field value operation asks actions =>
      cases operation with
      | toggle => exact order.all_eq
      | set => rfl
      | remove => rfl
  | option field token asks actions => exact order.all_eq
  | clearField field => rfl
  | clearAll => rfl

theorem results_perm (action : MenuAction) :
    (action.results batch).Perm (action.results other) := by
  rw [results_eq, results_eq, action.removes_of_perm order]
  exact order.map _

theorem getElem?_apply (action : MenuAction) {place place' : Nat}
    (same : batch[place]? = other[place']?) :
    (action.apply batch)[place]? = (action.apply other)[place']? := by
  rw [apply, apply, results_eq, results_eq, action.removes_of_perm order, List.map_map,
    List.map_map, List.getElem?_map, List.getElem?_map, same]

end MenuAction

/-- The same report, but for the order in which the failures stand. -/
structure ActivationReport.Reordered (report other : ActivationReport) : Prop where
  description : report.description = other.description
  entities : report.entities = other.entities
  changed : report.changed = other.changed
  fieldsRemoved : report.fieldsRemoved = other.fieldsRemoved
  failures : report.failures.Perm other.failures

theorem MenuAction.report_reordered (action : MenuAction) {batch other : List Record}
    (order : batch.Perm other) : (action.report batch).Reordered (action.report other) := by
  have results := action.results_perm order
  have changes := results.filterMap Edited.change?
  refine ⟨rfl, order.length_eq, ?_, ?_, ?_⟩
  · exact changes.countP_eq Change.changed
  · exact (changes.map Change.fieldsRemoved).foldr_eq 0
  · exact results.filterMap Edited.failure?

/-- Two ends of one kind: reports are the same but for the order of the failures, and everything
else is equal. -/
def SameEnd : Except ActivationError Outcome → Except ActivationError Outcome → Prop
  | .ok (.applied report), .ok (.applied other) => report.Reordered other
  | outcome, other => outcome = other

theorem sameEnd_ofSaved {report other : ActivationReport} (reordered : report.Reordered other)
    (answer : Except PersistError Unit) :
    SameEnd (Outcome.ofSaved report answer) (Outcome.ofSaved other answer) := by
  cases answer with
  | error cause => rfl
  | ok done => exact reordered

variable {σ τ : Type} {host : Host (StateM σ)} {host' : Host (StateM τ)} {settings : Settings}
  {state : σ} {state' : τ} {node : MenuNode} {action : MenuAction} {targets other : List Record}

def MenuNode.calls (node : MenuNode) (host : Host (StateM σ)) (settings : Settings) (state : σ)
    (targets : List Record) : List Call :=
  ((node.activate host.recording settings targets).run (state, [])).2.2

/-- Where both runs ask, they get the same answer, and where both save, too. -/
structure AnsweredAlike (calls calls' : List Call) : Prop where
  confirmed : ∀ question question' answer answer', .confirm question answer ∈ calls →
    .confirm question' answer' ∈ calls' → answer = answer'
  saved : ∀ batch batch' answer answer', .persist batch answer ∈ calls →
    .persist batch' answer' ∈ calls' → answer = answer'

/-- The host gives this answer to the call, in some state. -/
def Host.Answers (host : Host (StateM σ)) : Call → Prop
  | .confirm question answer => ∃ state, ((host.confirm question).run state).1 = answer
  | .persist batch answer => ∃ state, ((host.persist batch).run state).1 = answer
  | .log _ => True

/-- The step writes down no call with an answer that the host does not give. -/
def Host.Truthful {α : Type} (host : Host (StateM σ)) (step : StateM (σ × List Call) α) : Prop :=
  ∀ world : σ × List Call, (∀ call ∈ world.2, host.Answers call) →
    ∀ call ∈ (step.run world).2.2, host.Answers call

namespace Host.Truthful

theorem pure {α : Type} (host : Host (StateM σ)) (result : α) :
    host.Truthful (Pure.pure result) :=
  fun _ before => before

theorem bind {α β : Type} {step : StateM (σ × List Call) α} {next : α → StateM (σ × List Call) β}
    (first : host.Truthful step) (later : ∀ result, host.Truthful (next result)) :
    host.Truthful (step >>= next) := by
  intro world before
  rw [run_bind]
  exact later _ _ (first world before)

theorem recorded {α : Type} {step : StateM σ α} {call : α → Call}
    (answers : ∀ state, host.Answers (call (step.run state).1)) :
    host.Truthful (Host.recorded step call) := by
  intro world before made member
  rcases List.mem_append.mp member with earlier | last
  · exact before made earlier
  · rw [List.mem_singleton.mp last]
    exact answers world.1

theorem log (host : Host (StateM σ)) (event : Log.Event) :
    host.Truthful (host.recording.log event) :=
  recorded fun _ => trivial

theorem forM_log (host : Host (StateM σ)) (events : List Log.Event) :
    host.Truthful (events.forM host.recording.log) := by
  induction events with
  | nil => exact pure host ()
  | cons event events ih => exact bind (log host event) fun _ => ih

theorem perform (host : Host (StateM σ)) (action : MenuAction) (targets : List Record) :
    host.Truthful (action.perform host.recording targets) := by
  refine bind (forM_log host _) fun _ => bind (recorded fun state => ⟨state, rfl⟩) fun answer => ?_
  cases answer with
  | error cause => exact bind (log host _) fun _ => pure host _
  | ok done => exact bind (log host _) fun _ => pure host _

theorem confirmed (host : Host (StateM σ)) (settings : Settings) (question : Question) :
    host.Truthful (question.confirmed host.recording settings) := by
  rw [Question.confirmed]
  split
  · exact recorded fun state => ⟨state, rfl⟩
  · exact pure host true

theorem activate (host : Host (StateM σ)) (settings : Settings) (node : MenuNode)
    (targets : List Record) : host.Truthful (node.activate host.recording settings targets) := by
  rw [MenuNode.activate]
  split
  · exact pure host _
  · split
    · exact pure host _
    · refine bind (confirmed host settings _) fun answer => ?_
      split
      · exact perform host _ targets
      · exact bind (log host _) fun _ => pure host _

end Host.Truthful

theorem answeredAlike_of_constant {agrees : Bool} {saves : Except PersistError Unit}
    (confirms : ∀ question state, ((host.confirm question).run state).1 = agrees)
    (persists : ∀ batch state, ((host.persist batch).run state).1 = saves)
    (confirms' : ∀ question state, ((host'.confirm question).run state).1 = agrees)
    (persists' : ∀ batch state, ((host'.persist batch).run state).1 = saves) :
    AnsweredAlike (node.calls host settings state targets)
      (node.calls host' settings state' other) := by
  have told := Host.Truthful.activate host settings node targets (state, []) (List.forall_mem_nil _)
  have told' :=
    Host.Truthful.activate host' settings node other (state', []) (List.forall_mem_nil _)
  refine ⟨fun _ _ _ _ asked asked' => ?_, fun _ _ _ _ saved saved' => ?_⟩
  · obtain ⟨_, rfl⟩ := told _ asked
    obtain ⟨_, rfl⟩ := told' _ asked'
    rw [confirms, confirms']
  · obtain ⟨_, rfl⟩ := told _ saved
    obtain ⟨_, rfl⟩ := told' _ saved'
    rw [persists, persists']

theorem confirm_mem_calls (host : Host (StateM σ)) (state : σ) (does : node.action? = some action)
    (nonempty : targets ≠ []) (required : Required settings action targets) :
    .confirm (action.question targets.length)
        ((host.confirm (action.question targets.length)).run state).1 ∈
      node.calls host settings state targets := by
  have notEmpty : targets.isEmpty = false := by simpa using nonempty
  have asks := isRequired_iff.mpr required
  by_cases agreed : ((host.confirm (action.question targets.length)).run state).1 = true
  · obtain ⟨_, _, _, performed⟩ := run_perform host
      ((host.confirm (action.question targets.length)).run state).2
      [.confirm (action.question targets.length) true] targets action
    simp only [MenuNode.calls, MenuNode.activate, does, notEmpty, Question.confirmed, asks,
      run_bind, Host.run_confirm, agreed, if_true, Bool.false_eq_true, if_false,
      List.nil_append, performed]
    simp
  · have declined := Bool.eq_false_iff.mpr agreed
    obtain ⟨event, last, run⟩ := run_declined host [] does nonempty required declined
    rw [MenuNode.calls, run, declined]
    exact List.mem_cons_self

theorem persist_mem_calls (proceeds : Proceeds host settings state node targets action) :
    let run := ((node.activate host settings targets).run state).1
    ∃ answer, .persist run.targets answer ∈ node.calls host settings state targets ∧
      run.outcome = Outcome.ofSaved (action.report targets) answer := by
  obtain ⟨_, before, answer, event, called, _, outcome⟩ :=
    (activate_follows [] ⟨rfl, rfl⟩).saved action proceeds
  rw [activate_recording] at called outcome
  refine ⟨answer, ?_, outcome⟩
  rw [MenuNode.calls, called]
  exact List.mem_append_right before List.mem_cons_self

theorem activate_of_not_agreed (does : node.action? = some action) (nonempty : targets ≠ [])
    (refused : ¬ Agreed host settings state action targets) :
    ((node.activate host settings targets).run state).1 =
      { outcome := .ok .cancelled, targets } := by
  obtain ⟨required, declined⟩ := Classical.not_imp.mp refused
  obtain ⟨event, last, run⟩ := run_declined host [] does nonempty required
    (Bool.eq_false_iff.mpr declined)
  rw [← activate_recording host settings node state [], run]

theorem agreed_of_answeredAlike (order : targets.Perm other) (does : node.action? = some action)
    (nonempty : targets ≠ []) (nonempty' : other ≠ [])
    (alike : AnsweredAlike (node.calls host settings state targets)
      (node.calls host' settings state' other)) :
    Agreed host settings state action targets ↔ Agreed host' settings state' action other := by
  have size := order.length_eq
  have same : Required settings action targets ↔ Required settings action other := by
    rw [Required, Required, size]
  refine imp_congr_ctx same fun required => ?_
  have asked := confirm_mem_calls host state does nonempty
    (same.mpr required)
  have asked' := confirm_mem_calls host' state' does nonempty' required
  rw [alike.confirmed _ _ _ _ asked asked']

/-- Two activations of a batch in different orders have the same end, and each record comes out of
both with the same result, wherever it stands. -/
structure Activation.Reordered (targets other : List Record) (run run' : Activation) : Prop where
  outcome : SameEnd run.outcome run'.outcome
  records : run.targets.Perm run'.targets
  placed : ∀ place place' : Nat, targets[place]? = other[place']? →
    run.targets[place]? = run'.targets[place']?

theorem Activation.reordered_of_untouched (order : targets.Perm other)
    {outcome : Except ActivationError Outcome} (same : SameEnd outcome outcome) :
    Activation.Reordered targets other { outcome, targets } { outcome, targets := other } :=
  ⟨same, order, fun _ _ same => same⟩

theorem reordered_of_proceeds (order : targets.Perm other)
    (proceeds : Proceeds host settings state node targets action)
    (proceeds' : Proceeds host' settings state' node other action)
    (alike : AnsweredAlike (node.calls host settings state targets)
      (node.calls host' settings state' other)) :
    Activation.Reordered targets other ((node.activate host settings targets).run state).1
      ((node.activate host' settings other).run state').1 := by
  obtain ⟨answer, saved, outcome⟩ := persist_mem_calls proceeds
  obtain ⟨answer', saved', outcome'⟩ := persist_mem_calls proceeds'
  have applied := targets_of_agreed proceeds.does proceeds.agreed
  have applied' := targets_of_agreed proceeds'.does proceeds'.agreed
  refine ⟨?_, ?_, fun place place' same => ?_⟩
  · rw [outcome, outcome', alike.saved _ _ _ _ saved saved']
    exact sameEnd_ofSaved (action.report_reordered order) answer'
  · rw [applied, applied']
    exact (action.results_perm order).map Edited.record
  · rw [applied, applied']
    exact action.getElem?_apply order same

/-- A batch in another order, with the same answers: every record comes out as it does in the first
order, and the activation ends the same way, with the same counts and the same failures.  What
becomes of a record depends on the record and on the one decision for the batch as it is before the
first write, and on nothing else. -/
theorem activate_reordered (host : Host (StateM σ)) (host' : Host (StateM τ)) (document : Document)
    (state : σ) (state' : τ) (node : MenuNode) (targets other : List Record)
    (order : targets.Perm other)
    (alike : AnsweredAlike (node.calls host document.toSettings state targets)
      (node.calls host' document.toSettings state' other)) :
    let run := ((node.activate host document.toSettings targets).run state).1
    let run' := ((node.activate host' document.toSettings other).run state').1
    Activation.Reordered targets other run run' ∧
      ∀ action, Proceeds host document.toSettings state node targets action →
        run.targets = targets.map (fun record =>
            (action.editAlone (action.removes targets) record).record) ∧
          (action.report targets).failures = targets.filterMap fun record =>
            (action.editAlone (action.removes targets) record).failure? := by
  intro run run'
  refine ⟨?_, fun action proceeds => ⟨?_, ?_⟩⟩
  · cases does : node.action? with
    | none =>
        rw [show run = _ from congrArg Prod.fst (run_notActionable host _ state targets does),
          show run' = _ from congrArg Prod.fst (run_notActionable host' _ state' other does)]
        exact Activation.reordered_of_untouched order rfl
    | some action =>
        by_cases nonempty : targets = []
        · subst nonempty
          cases List.nil_perm.mp order
          rw [show run = _ from congrArg Prod.fst (run_noTargets host _ state does),
            show run' = _ from congrArg Prod.fst (run_noTargets host' _ state' does)]
          exact Activation.reordered_of_untouched order rfl
        · have nonempty' : other ≠ [] := fun empty => nonempty (List.Perm.eq_nil (empty ▸ order))
          have same := agreed_of_answeredAlike order does nonempty nonempty' alike
          by_cases agreed : Agreed host document.toSettings state action targets
          · exact reordered_of_proceeds order ⟨does, nonempty, agreed⟩
              ⟨does, nonempty', same.mp agreed⟩ alike
          · have refused := fun agreed' => agreed (same.mpr agreed')
            rw [show run = _ from activate_of_not_agreed does nonempty agreed,
              show run' = _ from activate_of_not_agreed does nonempty' refused]
            exact Activation.reordered_of_untouched order rfl
  · rw [show run.targets = _ from targets_of_proceeds proceeds]
    exact List.map_congr_left fun record _ => by rw [action.edit_eq_editAlone]
  · exact action.failures_eq targets

/-- Of three records the locked one and the one whose second write is refused change places with the
one that is already as it should be. -/
theorem activate_reordered_refused :
    let doom : Record :=
      { id := "1", title := "Doom", customFields := [{ name := "status", value := "BEATEN" }] }
    let quake : Record := { id := "2", title := "Quake", locked := true }
    let myst : Record := { id := "3", title := "Myst" }
    let unnamed : AdditionalAction := { field := " ", action := .set, value := "true" }
    let action : MenuAction := .toggle "Status" "Beaten" .toggle true [unnamed]
    let node : MenuNode := { key := "Beaten", caption := "Beaten", kind := .action action }
    let targets := [doom, quake, myst]
    let other := [myst, doom, quake]
    let run := ((node.activate .agreeable Document.builtin.toSettings targets).run ()).1
    let run' := ((node.activate .agreeable Document.builtin.toSettings other).run ()).1
    targets.Perm other ∧
      AnsweredAlike (node.calls .agreeable Document.builtin.toSettings () targets)
        (node.calls .agreeable Document.builtin.toSettings () other) ∧
      run.targets[2]? = run'.targets[0]? ∧
      (action.report targets).Reordered (action.report other) ∧
      (action.report targets).failures ≠ (action.report other).failures := by
  intro doom quake myst unnamed action node targets other run run'
  have order : targets.Perm other := by decide
  have alike : AnsweredAlike (node.calls .agreeable Document.builtin.toSettings () targets)
      (node.calls .agreeable Document.builtin.toSettings () other) :=
    answeredAlike_of_constant (fun _ _ => rfl) (fun _ _ => rfl) (fun _ _ => rfl) fun _ _ => rfl
  obtain ⟨reordered, -⟩ := activate_reordered .agreeable .agreeable Document.builtin () () node
    targets other order alike
  refine ⟨order, alike, reordered.placed 2 0 rfl, reordered.outcome, by decide⟩

end FieldMenu
