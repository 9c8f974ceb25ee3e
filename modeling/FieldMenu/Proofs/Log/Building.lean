import FieldMenu.Log.Journal
import FieldMenu.Proofs.Document.Sound

namespace FieldMenu

open Log

theorem Log.Journal.events_foldl_record (earlier events : List Event) :
    (events.foldl record { threshold := .debug, events := earlier }).events =
      earlier ++ events := by
  have step (earlier : List Event) (event : Event) :
      record { threshold := .debug, events := earlier } event =
        { threshold := .debug, events := earlier ++ [event] } := by
    rw [record]
    cases event.level <;> rfl
  induction events generalizing earlier with
  | nil => exact (List.append_nil _).symm
  | cons event events ih =>
      rw [List.foldl_cons, step, ih, List.append_assoc, List.singleton_append]

def Notice.isUnrecognized : Notice → Bool
  | .unknownOperator _ _ | .unknownSetting _ _ => true
  | _ => false

namespace BuildReport

theorem droppedTotal_ofNotices (notices : List Notice) :
    (ofNotices notices).droppedTotal = notices.countP fun notice => notice.dropped?.isSome := by
  refine measure_ofNotices droppedTotal rfl ?_ notices
  intro report notice
  cases notice <;> simp [count, droppedTotal, Notice.dropped?] <;> omega

theorem unrecognizedValues_ofNotices (notices : List Notice) :
    (ofNotices notices).unrecognizedValues = notices.countP Notice.isUnrecognized := by
  refine measure_ofNotices unrecognizedValues rfl ?_ notices
  intro report notice
  cases notice <;> rfl

end BuildReport

theorem Notice.event?_quiet (notice : Notice) :
    notice.event? false = (notice.event? true).filter fun event => event.code ≠ .entryDropped := by
  cases notice <;> rfl

namespace Document

theorem events_build (text : String) (logDropped : Bool) :
    (build text logDropped).events =
      (readEntries text.toList).notices.filterMap (Notice.event? logDropped) ++
        if (readEntries text.toList).value.isEmpty then
          [fallbackEvent (BuildReport.ofNotices (readEntries text.toList).notices)]
        else [] := by
  rw [build]
  split
  · rfl
  · exact (List.append_nil _).symm

theorem length_withCode_build (code : Code) (isTold : Notice → Bool)
    (told : ∀ notice,
      ((notice.event? true).map fun event => decide (event.code = code)).getD false =
        isTold notice)
    (text : String) :
    (((build text true).events.foldl Journal.record { threshold := .debug }).withCode
        code).length =
      (readEntries text.toList).notices.countP isTold +
        if (readEntries text.toList).value.isEmpty ∧ code = .builtinFallback then 1 else 0 := by
  have ofNotices : (((readEntries text.toList).notices.filterMap
      (Notice.event? true)).countP fun event => event.code = code) =
        (readEntries text.toList).notices.countP isTold := by
    rw [List.countP_filterMap]
    exact List.countP_congr fun notice _ => by rw [told]
  have ofFallback (report : BuildReport) : (fallbackEvent report).code = .builtinFallback := rfl
  rw [Journal.withCode, Journal.events_foldl_record, List.nil_append,
    ← List.countP_eq_length_filter, events_build, List.countP_append, ofNotices]
  cases (readEntries text.toList).value.isEmpty with
  | true => simp [ofFallback, List.countP_cons, eq_comm]
  | false => simp

theorem events_build_quiet (text : String) :
    (build text false).events =
      (build text true).events.filter fun event => event.code ≠ .entryDropped := by
  have quiet : Notice.event? false = fun notice =>
      (notice.event? true).filter fun event => event.code ≠ .entryDropped :=
    funext Notice.event?_quiet
  rw [events_build, events_build, quiet, List.filter_append, List.filter_filterMap]
  cases (readEntries text.toList).value.isEmpty <;> rfl

end Document

/-- With its report, a build tells the log how often it left something out, met a word that it did
not know, or put the built-in document in force.  Without the entries that are left out it tells the
rest of this, in the same order, and builds the same. -/
theorem build_logged (text : String) :
    let build (logDropped : Bool) := Document.build text logDropped
    let journal (logDropped : Bool) : Journal :=
      (build logDropped).events.foldl Journal.record { threshold := .debug }
    ((journal true).withCode .entryDropped).length = (build true).report.droppedTotal ∧
      ((journal true).withCode .unrecognizedValue).length =
        (build true).report.unrecognizedValues ∧
      ((journal true).withCode .builtinFallback).length =
        (if (build true).report.usedBuiltin then 1 else 0) ∧
      (journal false).withCode .entryDropped = [] ∧
      (journal false).events =
        (journal true).events.filter (fun event => event.code ≠ .entryDropped) ∧
      (build false).document = (build true).document ∧
      (build false).report = (build true).report := by
  intro build journal
  have report : (build true).report =
      { BuildReport.ofNotices (Document.readEntries text.toList).notices with
        usedBuiltin := (Document.readEntries text.toList).value.isEmpty } :=
    Document.report_build text true
  have quiet : (journal false).events =
      (journal true).events.filter (fun event => event.code ≠ .entryDropped) := by
    simp only [journal, Journal.events_foldl_record]
    exact Document.events_build_quiet text
  refine ⟨?_, ?_, ?_, ?_, quiet, Document.build_congr_log text false true⟩
  · have dropped := Document.length_withCode_build .entryDropped
      (fun notice => notice.dropped?.isSome) (fun notice => by cases notice <;> rfl) text
    rw [dropped, ← BuildReport.droppedTotal_ofNotices, report]
    exact Nat.add_eq_left.mpr (if_neg fun both => absurd both.2 (by decide))
  · have unrecognized := Document.length_withCode_build .unrecognizedValue Notice.isUnrecognized
      (fun notice => by cases notice <;> rfl) text
    rw [unrecognized, ← BuildReport.unrecognizedValues_ofNotices, report]
    exact Nat.add_eq_left.mpr (if_neg fun both => absurd both.2 (by decide))
  · have fallback := Document.length_withCode_build .builtinFallback (fun _ => false)
      (fun notice => by cases notice <;> rfl) text
    rw [fallback, report]
    simp
  · rw [Journal.withCode, quiet, List.filter_filter, List.filter_eq_nil_iff]
    intro event _ both
    simp at both

end FieldMenu
