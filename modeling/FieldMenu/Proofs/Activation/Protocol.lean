import FieldMenu.Proofs.Activation.Recording

namespace FieldMenu

variable {σ : Type}

def Required (settings : Settings) (action : MenuAction) (targets : List Record) : Prop :=
  action.isForced = true ∨
    settings.confirmBulkChanges = true ∧ settings.confirmBulkThreshold ≤ targets.length

theorem isRequired_iff {settings : Settings} {action : MenuAction} {targets : List Record} :
    (action.question targets.length).isRequired settings = true ↔
      Required settings action targets := by
  rw [Question.isRequired, Bool.or_eq_true, Bool.and_eq_true, decide_eq_true_iff]
  rfl

/-- The activation goes on to the action: there are records, and where the user has to be asked, the
answer is yes. -/
structure Proceeds (host : Host (StateM σ)) (settings : Settings) (state : σ) (node : MenuNode)
    (targets : List Record) (action : MenuAction) : Prop where
  does : node.action? = some action
  nonempty : targets ≠ []
  agreed : Required settings action targets →
    ((host.confirm (action.question targets.length)).run state).1 = true

def Host.agreeable : Host (StateM Unit) where
  confirm _ := pure true
  persist _ := pure (.ok ())
  log _ := pure ()

theorem proceeds_agreeable (settings : Settings) {node : MenuNode} {targets : List Record}
    {action : MenuAction} (does : node.action? = some action) (nonempty : targets ≠ []) :
    Proceeds .agreeable settings () node targets action :=
  ⟨does, nonempty, fun _ => rfl⟩

def Outcome.ofSaved (report : ActivationReport) :
    Except PersistError Unit → Except ActivationError Outcome
  | .ok () => .ok (.applied report)
  | .error cause => .error (.persist cause)

section

variable (host : Host (StateM σ)) (settings : Settings) (state : σ) (calls : List Call)
  (targets : List Record)

theorem run_perform (action : MenuAction) :
    ∃ (answer : Except PersistError Unit) (event : Log.Event) (last : σ),
      (action.perform host.recording targets).run (state, calls) =
        ({ outcome := Outcome.ofSaved (action.report targets) answer
           targets := action.apply targets }, last,
          calls ++ (action.report targets).failureEvents.map .log ++
            [.persist (action.apply targets) answer, .log event]) := by
  let saved := (host.persist (action.apply targets)).run
    (host.logged state (action.report targets).failureEvents)
  simp only [MenuAction.perform, run_bind, Host.run_logAll, Host.run_persist]
  cases saved.1 with
  | error cause =>
      let event := (action.report targets).persistFailedEvent cause
      refine ⟨.error cause, event, ((host.log event).run saved.2).2, ?_⟩
      simp only [run_bind, Host.run_log, List.append_assoc]
      rfl
  | ok done =>
      let event := (action.report targets).appliedEvent
      refine ⟨.ok (), event, ((host.log event).run saved.2).2, ?_⟩
      simp only [run_bind, Host.run_log, List.append_assoc]
      rfl

theorem run_notActionable {node : MenuNode} (none : node.action? = none) :
    (node.activate host settings targets).run state =
      ({ outcome := .ok .notActionable, targets }, state) := by
  simp only [MenuNode.activate, none]
  rfl

theorem run_noTargets {node : MenuNode} {action : MenuAction} (does : node.action? = some action) :
    (node.activate host settings []).run state =
      ({ outcome := .ok .noTargets, targets := [] }, state) := by
  simp only [MenuNode.activate, does]
  rfl

variable {settings state targets} in
theorem run_declined {node : MenuNode} {action : MenuAction} (does : node.action? = some action)
    (nonempty : targets ≠ []) (required : Required settings action targets)
    (declined : ((host.confirm (action.question targets.length)).run state).1 = false) :
    ∃ (event : Log.Event) (last : σ),
      (node.activate host.recording settings targets).run (state, calls) =
        ({ outcome := .ok .cancelled, targets }, last,
          calls ++ [.confirm (action.question targets.length) false, .log event]) := by
  have notEmpty : targets.isEmpty = false := by simpa using nonempty
  have asks := isRequired_iff.mpr required
  let question := action.question targets.length
  refine ⟨question.cancelledEvent,
    ((host.log question.cancelledEvent).run ((host.confirm question).run state).2).2, ?_⟩
  simp only [MenuNode.activate, does, notEmpty, Question.confirmed, asks, run_bind,
    Host.run_confirm, declined, Host.run_log, List.append_assoc, if_true, Bool.false_eq_true,
    if_false]
  rfl

variable {settings state targets} in
theorem run_proceeds {node : MenuNode} {action : MenuAction}
    (proceeds : Proceeds host settings state node targets action) :
    ∃ (asked : List Call) (current : σ),
      asked.filterMap Call.saved? = [] ∧
      (Required settings action targets →
        asked.filterMap Call.question? = [action.question targets.length]) ∧
      (¬ Required settings action targets → asked = []) ∧
      (node.activate host.recording settings targets).run (state, calls) =
        (action.perform host.recording targets).run (current, calls ++ asked) := by
  have notEmpty : targets.isEmpty = false := by simpa using proceeds.nonempty
  by_cases required : Required settings action targets
  · have asks := isRequired_iff.mpr required
    refine ⟨[.confirm (action.question targets.length) true],
      ((host.confirm (action.question targets.length)).run state).2, rfl, fun _ => rfl,
      fun free => absurd required free, ?_⟩
    simp only [MenuNode.activate, proceeds.does, notEmpty, Question.confirmed, asks, run_bind,
      Host.run_confirm, proceeds.agreed required, if_true, Bool.false_eq_true, if_false]
  · have free : (action.question targets.length).isRequired settings = false := by
      rwa [Bool.eq_false_iff, ne_eq, isRequired_iff]
    refine ⟨[], state, rfl, fun asks => absurd asks required, fun _ => rfl, ?_⟩
    simp only [MenuNode.activate, proceeds.does, notEmpty, Question.confirmed, free, run_bind,
      List.append_nil, Bool.false_eq_true, if_false]
    rfl

end

structure Protocol (host : Host (StateM σ)) (settings : Settings) (state : σ) (node : MenuNode)
    (targets : List Record) (activation : Activation) (calls : List Call) : Prop where
  /-- The user is asked once where that is required. -/
  asked : ∀ action, node.action? = some action → targets ≠ [] →
    Required settings action targets →
    calls.filterMap Call.question? = [action.question targets.length]
  /-- Nobody is asked in any other case. -/
  notAsked : (∀ action, node.action? = some action → targets ≠ [] →
    ¬ Required settings action targets) → calls.filterMap Call.question? = []
  /-- An activation that does not go on writes nothing and saves nothing. -/
  stopped : (∀ action, ¬ Proceeds host settings state node targets action) →
    activation.targets = targets ∧ calls.filterMap Call.saved? = []
  /-- One that goes on saves the whole batch once, with the records that refused a write, and
  changes nothing after that. -/
  saved : ∀ action, Proceeds host settings state node targets action →
    activation.targets = targets.map (fun record => (action.edit targets record).record) ∧
      ∃ (before : List Call) (answer : Except PersistError Unit) (event : Log.Event),
        calls = before ++ [.persist activation.targets answer, .log event] ∧
          before.filterMap Call.saved? = [] ∧
          activation.outcome = Outcome.ofSaved (action.report targets) answer

def Silent (calls : List Call) : Prop :=
  calls.filterMap Call.question? = [] ∧ calls.filterMap Call.saved? = []

variable {host : Host (StateM σ)} {settings : Settings} {state : σ} {node : MenuNode}
  {targets : List Record}

theorem Protocol.of_stopped {activation : Activation} {calls : List Call}
    (stops : ∀ action, ¬ Proceeds host settings state node targets action)
    (free : ∀ action, node.action? = some action → targets ≠ [] →
      ¬ Required settings action targets)
    (silent : Silent calls) (same : activation.targets = targets) :
    Protocol host settings state node targets activation calls where
  asked action does nonempty required := absurd required (free action does nonempty)
  notAsked _ := silent.1
  stopped _ := ⟨same, silent.2⟩
  saved action proceeds := absurd proceeds (stops action)

theorem Protocol.of_declined {action : MenuAction} {before : List Call} (silent : Silent before)
    (does : node.action? = some action) (nonempty : targets ≠ [])
    (required : Required settings action targets)
    (declined : ((host.confirm (action.question targets.length)).run state).1 = false) :
    Protocol host settings state node targets
      ((node.activate host.recording settings targets).run (state, before)).1
      ((node.activate host.recording settings targets).run (state, before)).2.2 := by
  obtain ⟨event, last, run⟩ := run_declined host before does nonempty required declined
  rw [run]
  refine ⟨?_, ?_, ?_, ?_⟩
  · intro other same _ _
    cases does.symm.trans same
    simp [silent.1]
  · exact fun free => absurd required (free action does nonempty)
  · exact fun _ => ⟨rfl, by simp [silent.2]⟩
  · intro other proceeds
    cases does.symm.trans proceeds.does
    rw [proceeds.agreed required] at declined
    cases declined

theorem Protocol.of_proceeds {action : MenuAction} {before : List Call} (silent : Silent before)
    (proceeds : Proceeds host settings state node targets action) :
    Protocol host settings state node targets
      ((node.activate host.recording settings targets).run (state, before)).1
      ((node.activate host.recording settings targets).run (state, before)).2.2 := by
  obtain ⟨asked, current, noSave, asks, free, run⟩ := run_proceeds host before proceeds
  obtain ⟨answer, event, last, performed⟩ :=
    run_perform host current (before ++ asked) targets action
  rw [run, performed]
  refine ⟨?_, ?_, ?_, ?_⟩
  · intro other same _ required
    cases proceeds.does.symm.trans same
    simp [silent.1, asks required]
  · intro never
    have notRequired := never action proceeds.does proceeds.nonempty
    simp [silent.1, free notRequired]
  · exact fun stops => absurd proceeds (stops action)
  · intro other same
    cases proceeds.does.symm.trans same.does
    refine ⟨List.map_map, _, answer, event, rfl, ?_, rfl⟩
    simp [silent.2, noSave]

theorem activate_follows (before : List Call) (silent : Silent before) :
    Protocol host settings state node targets
      ((node.activate host.recording settings targets).run (state, before)).1
      ((node.activate host.recording settings targets).run (state, before)).2.2 := by
  cases does : node.action? with
  | none =>
      rw [run_notActionable host.recording settings (state, before) targets does]
      refine .of_stopped (fun action proceeds => ?_) (fun action other => ?_) silent rfl
      · rw [proceeds.does] at does
        cases does
      · rw [other] at does
        cases does
  | some action =>
      by_cases nonempty : targets = []
      · subst nonempty
        rw [run_noTargets host.recording settings (state, before) does]
        exact .of_stopped (fun _ proceeds => proceeds.nonempty rfl)
          (fun _ _ nonempty => absurd rfl nonempty) silent rfl
      · -- From here on everything hangs on the answer, and on that only where the user is asked.
        by_cases declined : Required settings action targets ∧
            ((host.confirm (action.question targets.length)).run state).1 = false
        · exact .of_declined silent does nonempty declined.1 declined.2
        · have agreed : Required settings action targets →
              ((host.confirm (action.question targets.length)).run state).1 = true := by
            simpa using declined
          exact .of_proceeds silent ⟨does, nonempty, agreed⟩

theorem perform_recording (host : Host (StateM σ)) (action : MenuAction) (state : σ)
    (calls : List Call) (targets : List Record) :
    ((action.perform host.recording targets).run (state, calls)).1 =
      ((action.perform host targets).run state).1 := by
  simp only [MenuAction.perform, run_bind, Host.run_logAll, Host.run_persist, Host.logged]
  generalize (host.persist (action.apply targets)).run _ = saved
  cases saved.1 <;> rfl

theorem activate_recording (host : Host (StateM σ)) (settings : Settings) (node : MenuNode)
    (state : σ) (calls : List Call) (targets : List Record) :
    ((node.activate host.recording settings targets).run (state, calls)).1 =
      ((node.activate host settings targets).run state).1 := by
  simp only [MenuNode.activate]
  cases node.action? with
  | none => rfl
  | some action =>
      cases targets.isEmpty with
      | true => rfl
      | false =>
          simp only [Question.confirmed, Bool.false_eq_true, if_false, run_bind]
          cases (action.question targets.length).isRequired settings with
          | false => exact perform_recording host action state calls targets
          | true =>
              simp only [if_true, Host.run_confirm]
              cases ((host.confirm (action.question targets.length)).run state).1 with
              | true => exact perform_recording host action _ _ targets
              | false => rfl

theorem targets_of_proceeds {action : MenuAction}
    (proceeds : Proceeds host settings state node targets action) :
    ((node.activate host settings targets).run state).1.targets =
      targets.map fun record => (action.edit targets record).record := by
  rw [← activate_recording host settings node state []]
  exact ((activate_follows [] ⟨rfl, rfl⟩).saved action proceeds).1

theorem targets_of_stopped
    (stops : ∀ action, ¬ Proceeds host settings state node targets action) :
    ((node.activate host settings targets).run state).1.targets = targets := by
  rw [← activate_recording host settings node state []]
  exact ((activate_follows [] ⟨rfl, rfl⟩).stopped stops).1

theorem outcome_of_proceeds {action : MenuAction}
    (proceeds : Proceeds host settings state node targets action) :
    ∃ answer, ((node.activate host settings targets).run state).1.outcome =
      Outcome.ofSaved (action.report targets) answer := by
  rw [← activate_recording host settings node state []]
  obtain ⟨_, _, answer, _, _, _, outcome⟩ := (activate_follows [] ⟨rfl, rfl⟩).saved action proceeds
  exact ⟨answer, outcome⟩

theorem proceeds_of_applied {report : ActivationReport}
    (applied : ((node.activate host settings targets).run state).1.outcome =
      .ok (.applied report)) :
    ∃ action, Proceeds host settings state node targets action ∧
      report = action.report targets := by
  cases does : node.action? with
  | none =>
      rw [run_notActionable host settings state targets does] at applied
      cases applied
  | some action =>
      by_cases nonempty : targets = []
      · subst nonempty
        rw [run_noTargets host settings state does] at applied
        cases applied
      · by_cases declined : Required settings action targets ∧
            ((host.confirm (action.question targets.length)).run state).1 = false
        · obtain ⟨event, last, run⟩ := run_declined host [] does nonempty declined.1 declined.2
          rw [← activate_recording host settings node state [], run] at applied
          cases applied
        · have proceeds : Proceeds host settings state node targets action :=
            ⟨does, nonempty, by simpa using declined⟩
          obtain ⟨answer, outcome⟩ := outcome_of_proceeds proceeds
          refine ⟨action, proceeds, ?_⟩
          rw [applied] at outcome
          cases answer with
          | error cause => cases outcome
          | ok saved =>
              cases outcome
              rfl

theorem same_of_proceeds {other : Settings} {host' : Host (StateM σ)} {state' : σ}
    {action action' : MenuAction} {run run' : Activation} {calls calls' : List Call}
    (proceeds : Proceeds host settings state node targets action)
    (proceeds' : Proceeds host' other state' node targets action')
    (follows : Protocol host settings state node targets run calls)
    (follows' : Protocol host' other state' node targets run' calls') :
    run.targets = run'.targets ∧
      ∀ report report', run.outcome = .ok (.applied report) →
        run'.outcome = .ok (.applied report') → report = report' := by
  cases proceeds.does.symm.trans proceeds'.does
  obtain ⟨changed, _, answer, _, _, _, outcome⟩ := follows.saved action proceeds
  obtain ⟨changed', _, answer', _, _, _, outcome'⟩ := follows'.saved action proceeds'
  refine ⟨changed.trans changed'.symm, fun report report' applied applied' => ?_⟩
  have told {saved : Except PersistError Unit} {report : ActivationReport}
      (applied : Outcome.ofSaved (action.report targets) saved = .ok (.applied report)) :
      action.report targets = report := by
    cases saved with
    | error cause => cases applied
    | ok done =>
        cases applied
        rfl
  rw [← told (outcome.symm.trans applied), ← told (outcome'.symm.trans applied')]

theorem run_activatePath_of_missing (host : Host (StateM σ)) {document : Document}
    {path : List String} {library : List Record}
    (missing : findPath? (document.menu targets library) path = none) :
    (document.activatePath host path targets library).run state =
      ({ outcome := .error (.nodeNotFound (Text.joinWith " > " path)), targets },
        host.logged state [menuBuiltEvent targets (document.menu targets library)]) := by
  simp only [Document.activatePath, run_bind, missing]
  rfl

theorem run_activatePath_of_found (host : Host (StateM σ)) {document : Document}
    {path : List String} {library : List Record}
    (found : findPath? (document.menu targets library) path = some node) :
    (document.activatePath host path targets library).run state =
      (node.activate host document.toSettings targets).run
        (host.logged state [menuBuiltEvent targets (document.menu targets library)]) := by
  simp only [Document.activatePath, run_bind, found]
  rfl

theorem activatePath_recording (host : Host (StateM σ)) (document : Document)
    (path : List String) (library : List Record) :
    ((document.activatePath host.recording path targets library).run (state, [])).1 =
      ((document.activatePath host path targets library).run state).1 := by
  cases found : findPath? (document.menu targets library) path with
  | none =>
      rw [run_activatePath_of_missing host.recording found, run_activatePath_of_missing host found]
  | some node =>
      rw [run_activatePath_of_found host.recording found, run_activatePath_of_found host found]
      exact activate_recording host document.toSettings node _ _ targets

/-- Activating an entry, by itself or by its path, keeps to the protocol, and a path without an
entry asks nobody, writes nothing and saves nothing.  Of the document, nothing but the gate counts.
The host that writes the calls down is the host itself in all that it answers. -/
theorem activation_protocol (host : Host (StateM σ)) (document : Document) (state : σ)
    (targets : List Record) :
    (∀ node : MenuNode,
      let run := (node.activate host.recording document.toSettings targets).run (state, [])
      run.1 = ((node.activate host document.toSettings targets).run state).1 ∧
        Protocol host document.toSettings state node targets run.1 run.2.2 ∧
        ∀ (other : Document) (host' : Host (StateM σ)) (state' : σ) (action action' : MenuAction),
          Proceeds host document.toSettings state node targets action →
          Proceeds host' other.toSettings state' node targets action' →
          let run' := (node.activate host'.recording other.toSettings targets).run (state', [])
          run.1.targets = run'.1.targets ∧
            ∀ report report', run.1.outcome = .ok (.applied report) →
              run'.1.outcome = .ok (.applied report') → report = report') ∧
    ∀ (path : List String) (library : List Record),
      let menu := document.menu targets library
      let run := (document.activatePath host.recording path targets library).run (state, [])
      run.1 = ((document.activatePath host path targets library).run state).1 ∧
      (findPath? menu path = none →
        run.1.targets = targets ∧ run.2.2.filterMap Call.question? = [] ∧
          run.2.2.filterMap Call.saved? = []) ∧
      ∀ node, findPath? menu path = some node →
        Protocol host document.toSettings (host.logged state [menuBuiltEvent targets menu]) node
          targets run.1 run.2.2 := by
  have empty : Silent [] := ⟨rfl, rfl⟩
  refine ⟨fun node => ⟨activate_recording host _ node state [] targets,
    activate_follows [] empty, ?_⟩, fun path library =>
    ⟨activatePath_recording host document path library, ?_, ?_⟩⟩
  · intro other host' state' action action' proceeds proceeds'
    exact same_of_proceeds proceeds proceeds' (activate_follows [] empty)
      (activate_follows [] empty)
  · intro missing
    rw [run_activatePath_of_missing host.recording missing]
    exact ⟨rfl, rfl, rfl⟩
  · intro node found
    rw [run_activatePath_of_found host.recording found]
    exact activate_follows [.log (menuBuiltEvent targets (document.menu targets library))]
      ⟨rfl, rfl⟩

/-- Two records are as many as it takes for the user to be asked; both are written, and then saved
together. -/
theorem activation_protocol_asked :
    let document : Document := { confirmBulkChanges := true, confirmBulkThreshold := 2 }
    let targets : List Record := [{ id := "1", title := "Doom" }, { id := "2", title := "Quake" }]
    let action : MenuAction := .toggle "Status" "Beaten" .toggle false []
    let node : MenuNode := { key := "Beaten", caption := "Beaten", kind := .action action }
    let run := (node.activate Host.agreeable.recording document.toSettings targets).run ((), [])
    Required document.toSettings action targets ∧
      run.2.2.filterMap Call.question? = [action.question 2] ∧
      run.1.targets.map (fun record => record.field? "Status") = [some "Beaten", some "Beaten"] ∧
      ∃ (before : List Call) (answer : Except PersistError Unit) (event : Log.Event),
        run.2.2 = before ++ [.persist run.1.targets answer, .log event] ∧
          before.filterMap Call.saved? = [] := by
  intro document targets action node run
  have required : Required document.toSettings action targets := .inr ⟨rfl, Nat.le_refl 2⟩
  have proceeds : Proceeds .agreeable document.toSettings () node targets action :=
    proceeds_agreeable document.toSettings rfl (List.cons_ne_nil _ _)
  obtain ⟨_, follows, _⟩ := (activation_protocol .agreeable document () targets).1 node
  have asked := follows.asked action rfl (List.cons_ne_nil _ _) required
  obtain ⟨changed, before, answer, event, calls, unsaved, _⟩ := follows.saved action proceeds
  refine ⟨required, asked, ?_, before, answer, event, calls, unsaved⟩
  rw [changed]
  decide

end FieldMenu
