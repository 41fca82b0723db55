import Advent.Run.Session

/-!
# What a program writes

A program on a recorder gives a value and adds outputs to what was written before. Its lines, for
either stream, are told apart from its log records: who reads a stream does not see how the two are
mixed. What a program made of two writes is what the first writes and then what the second writes.
-/
namespace Advent

/-- Anything but a log record. -/
def Output.isLine : Output → Bool
  | .out _ => true
  | .err _ => true
  | .log _ => false

def Output.record? : Output → Option Log.Record
  | .log record => some record
  | _ => none

/-- Whatever was written before, the program gives the value and adds these lines and these records,
mixed in some way. -/
def Shows {α : Type} (program : StateM (List Output) α) (lines : List Output)
    (records : List Log.Record) (value : α) : Prop :=
  ∃ outputs : List Output, outputs.filter Output.isLine = lines ∧
    outputs.filterMap Output.record? = records ∧
    ∀ before, program.run before = pure (value, outputs.reverse ++ before)

namespace Shows

variable {α β : Type}

theorem pure (value : α) : Shows (Pure.pure value) [] [] value :=
  ⟨[], rfl, rfl, fun _ => rfl⟩

theorem of_eq {program : StateM (List Output) α} {lines others : List Output}
    {records otherRecords : List Log.Record} {value : α} (shown : Shows program lines records value)
    (same_lines : lines = others) (same_records : records = otherRecords) :
    Shows program others otherRecords value :=
  same_lines ▸ same_records ▸ shown

theorem bind {program : StateM (List Output) α} {next : α → StateM (List Output) β}
    {lines linesAfter : List Output} {records recordsAfter : List Log.Record} {value : α}
    {result : β} (first : Shows program lines records value)
    (second : Shows (next value) linesAfter recordsAfter result) :
    Shows (program >>= next) (lines ++ linesAfter) (records ++ recordsAfter) result := by
  obtain ⟨outputs, rfl, rfl, runs⟩ := first
  obtain ⟨later, rfl, rfl, continues⟩ := second
  refine ⟨outputs ++ later, List.filter_append .., List.filterMap_append .., fun before => ?_⟩
  rw [StateT.run_bind, runs, pure_bind, continues, List.reverse_append, List.append_assoc]

theorem andThen {program : StateM (List Output) Unit} {next : StateM (List Output) β}
    {lines linesAfter : List Output} {records recordsAfter : List Log.Record} {result : β}
    (first : Shows program lines records ()) (second : Shows next linesAfter recordsAfter result) :
    Shows (program >>= fun _ => next) (lines ++ linesAfter) (records ++ recordsAfter) result :=
  bind first second

end Shows

section Recorder

variable (files : String → Except ReadFault String) (times : Phase → Duration)
  (elapsed : Elapsed)

theorem shows_writeAll (outputs : List Output) :
    Shows (writeAll (.recorder files times elapsed) outputs) (outputs.filter Output.isLine)
      (outputs.filterMap Output.record?) () := by
  refine ⟨outputs, rfl, rfl, fun before => ?_⟩
  -- An output that is written comes to stand before all that were.
  induction outputs generalizing before with
  | nil => rfl
  | cons output rest ih =>
    rw [List.reverse_cons, List.append_assoc]
    exact ih (output :: before)

theorem shows_lines {outputs : List Output} (lines : ∀ output ∈ outputs, output.isLine = true) :
    Shows (writeAll (.recorder files times elapsed) outputs) outputs [] () := by
  have none_logged : outputs.filterMap Output.record? = [] := by
    refine List.filterMap_eq_nil_iff.mpr fun output member => ?_
    have line := lines output member
    cases output with
    | out text => rfl
    | err text => rfl
    | log record => cases line
  have written := shows_writeAll files times elapsed outputs
  rwa [List.filter_eq_self.mpr lines, none_logged] at written

theorem shows_logAll (filter : Log.Filter) (records : List Log.Record) :
    Shows (logAll (.recorder files times elapsed) filter records) []
      (records.filter filter.admits) () := by
  have written := shows_writeAll files times elapsed ((records.filter filter.admits).map .log)
  have none_shown : ((records.filter filter.admits).map Output.log).filter Output.isLine = [] := by
    rw [List.filter_map]
    simp [Function.comp_def, Output.isLine]
  have all_logged : ((records.filter filter.admits).map Output.log).filterMap Output.record? =
      records.filter filter.admits := by
    rw [List.filterMap_map]
    exact List.filterMap_some
  rwa [none_shown, all_logged] at written

theorem shows_printResults (config : Config) (results : List PartResult) :
    Shows (printResults (.recorder files times elapsed) config results)
      (results.map fun result => lineOutput (resultLine config.quiet result)) [] () := by
  refine shows_lines files times elapsed fun output member => ?_
  obtain ⟨result, _, rfl⟩ := List.mem_map.mp member
  cases resultLine config.quiet result <;> rfl

end Recorder

end Advent
