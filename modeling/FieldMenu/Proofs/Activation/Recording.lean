import FieldMenu.Activation.Basic

namespace FieldMenu

inductive Call where
  | confirm (question : Question) (answer : Bool)
  | persist (batch : List Record) (answer : Except PersistError Unit)
  | log (event : Log.Event)

namespace Call

def question? : Call → Option Question
  | .confirm question _ => some question
  | _ => none

def saved? : Call → Option (List Record × Except PersistError Unit)
  | .persist batch answer => some (batch, answer)
  | _ => none

@[simp] theorem question?_log (event : Log.Event) : (Call.log event).question? = none :=
  rfl

@[simp] theorem saved?_log (event : Log.Event) : (Call.log event).saved? = none :=
  rfl

@[simp] theorem question?_persist (batch : List Record) (answer : Except PersistError Unit) :
    (Call.persist batch answer).question? = none :=
  rfl

@[simp] theorem question?_confirm (question : Question) (answer : Bool) :
    (Call.confirm question answer).question? = some question :=
  rfl

@[simp] theorem saved?_confirm (question : Question) (answer : Bool) :
    (Call.confirm question answer).saved? = none :=
  rfl

end Call

theorem run_bind {σ α β : Type} (step : StateM σ α) (next : α → StateM σ β) (state : σ) :
    (step >>= next).run state = (next (step.run state).1).run (step.run state).2 :=
  rfl

namespace Host

variable {σ : Type}

def recorded {α : Type} (step : StateM σ α) (call : α → Call) : StateM (σ × List Call) α :=
  fun world =>
    let result := step.run world.1
    (result.1, (result.2, world.2 ++ [call result.1]))

def recording (host : Host (StateM σ)) : Host (StateM (σ × List Call)) where
  confirm question := recorded (host.confirm question) (.confirm question)
  persist batch := recorded (host.persist batch) (.persist batch)
  log event := recorded (host.log event) fun _ => .log event

variable (host : Host (StateM σ)) (state : σ) (calls : List Call)

@[simp] theorem run_confirm (question : Question) :
    (host.recording.confirm question).run (state, calls) =
      (((host.confirm question).run state).1, ((host.confirm question).run state).2,
        calls ++ [.confirm question ((host.confirm question).run state).1]) :=
  rfl

@[simp] theorem run_persist (batch : List Record) :
    (host.recording.persist batch).run (state, calls) =
      (((host.persist batch).run state).1, ((host.persist batch).run state).2,
        calls ++ [.persist batch ((host.persist batch).run state).1]) :=
  rfl

@[simp] theorem run_log (event : Log.Event) :
    (host.recording.log event).run (state, calls) =
      ((), ((host.log event).run state).2, calls ++ [.log event]) :=
  rfl

def logged (events : List Log.Event) : σ :=
  ((events.forM host.log).run state).2

theorem run_logAll (events : List Log.Event) :
    (events.forM host.recording.log).run (state, calls) =
      ((), host.logged state events, calls ++ events.map .log) := by
  induction events generalizing state calls with
  | nil =>
      rw [List.map_nil, List.append_nil]
      rfl
  | cons event events ih =>
      have first := ih ((host.log event).run state).2 (calls ++ [.log event])
      rw [List.append_assoc] at first
      exact first

end Host

end FieldMenu
