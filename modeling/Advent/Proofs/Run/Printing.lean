import Advent.Proofs.Run.Ordering
import Advent.Proofs.Run.Outcomes
import Advent.Proofs.Run.Writing

/-!
# Printing in key order

The receiver prints what its aggregator releases. A run sends one result for each expected key,
whatever becomes of its items, so the results may reach the receiver in any order: it prints all of
them in key order, and none is left when the last one has arrived.

A session receives group by group, and how the results are divided among groups changes nothing. So
the lines it writes between its heading and its summary are those of the results in key order.
-/
namespace Advent

/-! ### Receiving results -/

namespace Progress

theorem receiveAll_eq (progress : Progress) (arrival : List PartResult) :
    let entries := arrival.map fun result => (result.key, result)
    (progress.receiveAll arrival).1 = (progress.aggregator.addAll entries).1.map Prod.snd ∧
      (progress.receiveAll arrival).2.aggregator = (progress.aggregator.addAll entries).2 := by
  induction arrival generalizing progress with
  | nil => exact ⟨rfl, rfl⟩
  | cons result rest ih =>
    obtain ⟨printed, aggregator⟩ := ih (progress.receive result).2
    refine ⟨?_, aggregator⟩
    exact (congrArg (_ ++ ·) printed).trans List.map_append.symm

theorem receiveAll_append (progress : Progress) (earlier later : List PartResult) :
    progress.receiveAll (earlier ++ later) =
      ((progress.receiveAll earlier).1 ++ ((progress.receiveAll earlier).2.receiveAll later).1,
        ((progress.receiveAll earlier).2.receiveAll later).2) := by
  induction earlier generalizing progress with
  | nil => rfl
  | cons result rest ih =>
    simp only [List.cons_append, receiveAll, ih, List.append_assoc]

/-- Errors are only passed along. -/
theorem receiveAll_with_errors (progress : Progress) (errors : List (Option RunError))
    (results : List PartResult) :
    { progress with errors }.receiveAll results =
      ((progress.receiveAll results).1, { (progress.receiveAll results).2 with errors }) := by
  induction results generalizing progress with
  | nil => rfl
  | cons result rest ih =>
    have received : { progress with errors }.receive result =
        ((progress.receive result).1, { (progress.receive result).2 with errors }) := rfl
    simp only [receiveAll, received, ih]

theorem receiveAll_errors (progress : Progress) (results : List PartResult) :
    (progress.receiveAll results).2.errors = progress.errors :=
  congrArg (fun received => received.2.errors)
    (progress.receiveAll_with_errors progress.errors results)

/-- Whatever was printed counts as released. -/
theorem receiveAll_released (progress : Progress) (results : List PartResult) :
    (progress.receiveAll results).2.released =
      (progress.receiveAll results).1.reverse ++ progress.released := by
  induction results generalizing progress with
  | nil => rfl
  | cons result rest ih =>
    simp only [receiveAll, ih, List.reverse_append, List.append_assoc]
    rfl

end Progress

/-- Exactly the results that arrive are printed, in the order of the expected keys, and all of them
before the last arrival is dealt with. -/
structure PrintsInOrder (keys : List Key) (arrival : List PartResult) : Prop where
  printed_perm : ((Progress.expecting keys).receiveAll arrival).1.Perm arrival
  printed_keys : ((Progress.expecting keys).receiveAll arrival).1.map PartResult.key = keys
  none_left : ((Progress.expecting keys).receiveAll arrival).2.finish.1 = []
  complete :
    ((Progress.expecting keys).receiveAll arrival).2.finish.2.aggregator.isComplete = true

theorem printsInOrder_of_keys {keys : List Key} (ascending : keys.Pairwise Key.Before)
    {arrival : List PartResult} (all : (arrival.map PartResult.key).Perm keys) :
    PrintsInOrder keys arrival := by
  let entries := arrival.map fun result => (result.key, result)
  have entry_keys : entries.map Prod.fst = arrival.map PartResult.key := by
    simp only [entries, List.map_map, Function.comp_def]
  have entry_results : entries.map Prod.snd = arrival := by
    simp only [entries, List.map_map, Function.comp_def, List.map_id']
  have distinct := nodup_of_ascending ascending
  have accounts := (Aggregator.ofKeys_accounts keys).addAll entries
    (by rw [List.nil_append, entry_keys]; exact all.nodup_iff.mpr distinct)
  rw [List.nil_append, List.nil_append] at accounts
  obtain ⟨complete, held, released⟩ :=
    accounts.of_all_arrived (by rw [entry_keys]; exact all) distinct
  obtain ⟨printed, aggregator⟩ := (Progress.expecting keys).receiveAll_eq arrival
  have moved : ((Aggregator.ofKeys keys).addAll entries).1.Perm entries := by
    simpa only [held, List.append_nil] using accounts.arrived_perm
  -- A result is entered under its own key, so the released keys are those of the printed results.
  have own_keys : ∀ entry ∈ ((Aggregator.ofKeys keys).addAll entries).1,
      entry.2.key = entry.1 := by
    intro entry member
    obtain ⟨result, _, rfl⟩ := List.mem_map.mp (moved.mem_iff.mp member)
    rfl
  refine ⟨?_, ?_, ?_, ?_⟩
  · rw [printed]
    exact (moved.map Prod.snd).trans (.of_eq entry_results)
  · calc ((Progress.expecting keys).receiveAll arrival).1.map PartResult.key
      _ = ((Aggregator.ofKeys keys).addAll entries).1.map fun entry => entry.2.key := by
        rw [printed, List.map_map]
        rfl
      _ = ((Aggregator.ofKeys keys).addAll entries).1.map Prod.fst := List.map_congr_left own_keys
      _ = keys := released.trans (sortKeys_of_ascending ascending)
  · simp only [Progress.finish, Aggregator.drain, aggregator]
    exact congrArg (List.map Prod.snd) held
  · simp only [Progress.finish, Aggregator.drain, aggregator]
    exact complete

/-! ### Groups -/

/-- The lines for results in their order. -/
def resultLines (config : Config) (results : List PartResult) : List Output :=
  results.map fun result => lineOutput (resultLine config.quiet result)

def headingLines (config : Config) (items : Nat) : List Output :=
  if config.quiet then [] else [.out s!"Running {items} solver(s)..."]

def summaryLines (config : Config) (results : List PartResult) (elapsed : Elapsed) :
    List Output :=
  if config.quiet then [] else ("" :: (summary? results elapsed).getD []).map .out

section Groups

variable (files : String → Except ReadFault String) (times : Phase → Duration)
  (elapsed : Elapsed) (filter : Log.Filter) (config : Config)

/-- A group is received with all its results at once. -/
theorem shows_receiveGroup (progress : Progress) (delivery : Delivery) :
    Shows (receiveGroup (.recorder files times elapsed) filter config progress (pure delivery))
      (resultLines config (progress.receiveAll delivery.sent).1)
      (delivery.records.filter filter.admits)
      { (progress.receiveAll delivery.sent).2 with
        errors := progress.errors ++ [delivery.error] } := by
  -- The error of the group is put behind those of the groups before it.
  have errors := progress.receiveAll_errors delivery.sent
  rw [receiveGroup, pure_bind, ← errors]
  cases progress.receiveAll delivery.sent with
  | mk ready after =>
    have logged := shows_logAll files times elapsed filter delivery.records
    have printed := shows_printResults files times elapsed config ready
    have kept := Shows.pure { after with errors := after.errors ++ [delivery.error] }
    exact (logged.andThen (printed.andThen kept)).of_eq (List.append_nil _) (List.append_nil _)

/-- To receive groups one after the other is to receive all their results. -/
theorem shows_foldlM_receiveGroup (progress : Progress) (deliveries : List Delivery) :
    Shows ((deliveries.map pure).foldlM
        (receiveGroup (.recorder files times elapsed) filter config) progress)
      (resultLines config (progress.receiveAll (deliveries.flatMap Delivery.sent)).1)
      ((deliveries.flatMap Delivery.records).filter filter.admits)
      { (progress.receiveAll (deliveries.flatMap Delivery.sent)).2 with
        errors := progress.errors ++ deliveries.map Delivery.error } := by
  -- A later group is received into what the groups before it have left.
  induction deliveries generalizing progress with
  | nil =>
    simp only [List.map_nil, List.append_nil]
    exact Shows.pure progress
  | cons delivery rest ih =>
    have step := shows_receiveGroup files times elapsed filter config progress delivery
    have later := ih { (progress.receiveAll delivery.sent).2 with
      errors := progress.errors ++ [delivery.error] }
    -- The errors so far make no difference to what the rest prints.
    simp only [Progress.receiveAll_with_errors, List.append_assoc, List.singleton_append] at later
    simp only [List.map_cons, List.foldlM_cons, List.flatMap_cons, Progress.receiveAll_append]
    exact (step.bind later).of_eq (by simp only [resultLines, List.map_append])
      (by rw [List.filter_append])

/-- Where nothing waits any more, there is only the summary to add. -/
theorem shows_conclude {progress after : Progress} (ended : progress.finish = ([], after))
    (complete : after.aggregator.isComplete = true)
    (no_error : RunError.collect after.errors = none) :
    Shows (conclude (.recorder files times elapsed) filter config progress)
      (summaryLines config after.released.reverse elapsed) [] (.ok ()) := by
  have printed := shows_printResults files times elapsed config []
  have quit := Shows.pure (Except.ok () : Except SessionError Unit)
  rw [conclude, ended, summaryLines]
  simp only [complete, no_error, Bool.not_true, Bool.false_eq_true, if_false]
  cases config.quiet with
  | true => exact printed.andThen quit
  | false =>
    let lines := ("" :: (summary? after.released.reverse elapsed).getD []).map Output.out
    have all_lines : ∀ output ∈ lines, output.isLine = true := by simp [lines, Output.isLine]
    have summary := shows_lines files times elapsed all_lines
    simp only [Bool.not_false, if_true]
    -- The clock is read before the summary is written.
    exact (printed.andThen ((Shows.pure elapsed).bind (summary.andThen quit))).of_eq
      (List.append_nil lines) rfl

/-- Whatever groups the results of these deliveries come in, they are printed in order as they come
in, none of them is left for the end or missing there, and the summary follows. -/
structure ReceivesInOrder (keys : List Key) (deliveries : List Delivery)
    (results : List PartResult) : Prop where
  as_they_come : ∃ progress,
    Shows ((deliveries.map pure).foldlM
        (receiveGroup (.recorder files times elapsed) filter config) (.expecting keys))
      (resultLines config results) ((deliveries.flatMap Delivery.records).filter filter.admits)
      progress ∧
    progress.finish.1 = [] ∧ progress.finish.2.aggregator.isComplete = true
  to_the_end :
    Shows (receiveGroups (.recorder files times elapsed) filter config keys (deliveries.map pure))
      (resultLines config results ++ summaryLines config results elapsed)
      ((deliveries.flatMap Delivery.records).filter filter.admits) (.ok ())

theorem receivesInOrder_of_printed {keys : List Key} {deliveries : List Delivery}
    (well : ∀ delivery ∈ deliveries, delivery.error = none)
    (inOrder : PrintsInOrder keys (deliveries.flatMap Delivery.sent)) :
    ReceivesInOrder files times elapsed filter config keys deliveries
      ((Progress.expecting keys).receiveAll (deliveries.flatMap Delivery.sent)).1 := by
  let arrived := (Progress.expecting keys).receiveAll (deliveries.flatMap Delivery.sent)
  let after : Progress := { arrived.2 with errors := deliveries.map Delivery.error }
  have received := shows_foldlM_receiveGroup files times elapsed filter config (.expecting keys)
    deliveries
  obtain ⟨-, -, none_left, complete⟩ := inOrder
  have no_error : RunError.collect after.errors = none := by
    refine RunError.collect_eq_none fun outcome member => ?_
    obtain ⟨delivery, present, rfl⟩ := List.mem_map.mp member
    exact well delivery present
  -- What is released by the end was printed before it, so the summary is about just that.
  have released : after.finish.2.released.reverse = arrived.1 := by
    calc after.finish.2.released.reverse
      _ = (after.finish.1.reverse ++ arrived.2.released).reverse := rfl
      _ = arrived.2.released.reverse := by
        rw [show after.finish.1 = [] from none_left, List.reverse_nil, List.nil_append]
      _ = (arrived.1.reverse ++ []).reverse :=
        congrArg List.reverse ((Progress.expecting keys).receiveAll_released _)
      _ = arrived.1 := by rw [List.append_nil, List.reverse_reverse]
  have concluded := shows_conclude files times elapsed filter config
    (show after.finish = ([], after.finish.2) from Prod.ext none_left rfl) complete no_error
  rw [released] at concluded
  refine ⟨⟨after, received, none_left, complete⟩, ?_⟩
  exact (received.bind concluded).of_eq rfl (List.append_nil _)

end Groups

/-! ### Whole runs -/

/-- Ascending keys leave results no choice of their order. -/
theorem eq_of_perm_of_keys {keys : List Key} (ascending : keys.Pairwise Key.Before)
    {results others : List PartResult} (reordered : results.Perm others)
    (keys_eq : results.map PartResult.key = keys)
    (others_eq : others.map PartResult.key = keys) : results = others := by
  have in_order : results.Pairwise fun first second => first.key.Before second.key :=
    List.pairwise_map.mp (keys_eq ▸ ascending)
  have others_in_order : others.Pairwise fun first second => first.key.Before second.key :=
    List.pairwise_map.mp (others_eq ▸ ascending)
  exact List.Perm.eq_of_pairwise
    (fun _ _ _ _ before after => (Key.Before.irrefl _ (before.trans after)).elim)
    in_order others_in_order reordered

namespace Executor

variable (executor : Executor) (files : String → Except ReadFault String)
  (times : Phase → Duration)

/-- What is sent of each group to a receiver that takes every result. -/
def deliveries : List Delivery :=
  executor.groups.map (executor.groupDelivery times files fun _ _ => true)

theorem deliveries_error :
    ∀ delivery ∈ executor.deliveries files times, delivery.error = none := by
  intro delivery member
  obtain ⟨items, _, rfl⟩ := List.mem_map.mp member
  exact executor.groupDelivery_all_error times files items

theorem deliveries_sent :
    (executor.deliveries files times).flatMap Delivery.sent =
      (executor.deliver times files fun _ => true).sent :=
  (congrArg Delivery.sent (executor.deliver_eq times files fun _ => true)).symm

theorem deliveries_records :
    (executor.deliveries files times).flatMap Delivery.records =
      (executor.deliver times files fun _ => true).records :=
  (congrArg Delivery.records (executor.deliver_eq times files fun _ => true)).symm

/-- A session that runs the items writes its heading, what it receives of the groups, and its
summary. -/
theorem shows_runItems (elapsed : Elapsed) (filter : Log.Filter) (config : Config)
    {results : List PartResult}
    (received : ReceivesInOrder files times elapsed filter config executor.expectedKeys
      (executor.deliveries files times) results) :
    Shows (runItems (.recorder files times elapsed) filter config executor)
      (headingLines config executor.workItems.length ++ resultLines config results ++
        summaryLines config results elapsed)
      ((startRecord executor.workItems.length config ::
        (executor.deliver times files fun _ => true).records).filter filter.admits)
      (.ok ()) := by
  have started : Shows
      (executor.start (.single times) (fun path => pure (files path)) fun _ => true) [] []
      ((executor.deliveries files times).map pure) := by
    rw [executor.start_single times files, deliveries, List.map_map]
    exact .pure _
  have logged := shows_logAll files times elapsed filter
    [startRecord executor.workItems.length config]
  have body := logged.andThen (started.bind received.to_the_end)
  rw [← deliveries_records, ← List.singleton_append, List.filter_append, runItems, headingLines]
  cases config.quiet with
  | true => exact body
  | false =>
    have heading := shows_writeAll files times elapsed
      [.out s!"Running {executor.workItems.length} solver(s)..."]
    exact heading.andThen body

end Executor

/-- Whatever groups and order its results come in, a session prints these results between its
heading and its summary. -/
structure SessionPrints (executor : Executor) (files : String → Except ReadFault String)
    (times : Phase → Duration) (results : List PartResult) : Prop where
  received : ∀ (elapsed : Elapsed) (filter : Log.Filter) (config : Config),
    ∀ deliveries : List Delivery, (∀ delivery ∈ deliveries, delivery.error = none) →
      (deliveries.flatMap Delivery.sent).Perm
        (executor.deliver times files fun _ => true).sent →
      ReceivesInOrder files times elapsed filter config executor.expectedKeys deliveries results
  run : ∀ (elapsed : Elapsed) (filter : Log.Filter) (config : Config),
    Shows (runItems (.recorder files times elapsed) filter config executor)
      (headingLines config executor.workItems.length ++ resultLines config results ++
        summaryLines config results elapsed)
      ((startRecord executor.workItems.length config ::
        (executor.deliver times files fun _ => true).records).filter filter.admits)
      (.ok ())

/-- A run sends one result for each expected key, and in whatever order these arrive, they are
printed in key order. So a session shows the results in this order, whatever groups they come in. -/
theorem results_printed_in_key_order {executor : Executor}
    (own : executor.registry.ReportsOwnDays) (times : Phase → Duration)
    (files : String → Except ReadFault String) :
    (executor.deliver times files fun _ => true).error = none ∧
      ((executor.deliver times files fun _ => true).sent.map PartResult.key).Perm
        executor.expectedKeys ∧
      executor.expectedKeys.Nodup ∧ executor.expectedKeys.Pairwise Key.Before ∧
      (∀ arrival : List PartResult,
        arrival.Perm (executor.deliver times files fun _ => true).sent →
          PrintsInOrder executor.expectedKeys arrival) ∧
      ∃ results : List PartResult,
        results.Perm (executor.deliver times files fun _ => true).sent ∧
        results.map PartResult.key = executor.expectedKeys ∧
        SessionPrints executor files times results := by
  have keys := executor.deliver_all_keys times files own
  have ascending := executor.expectedKeys_ascending
  have in_order (arrival : List PartResult)
      (arrives : arrival.Perm (executor.deliver times files fun _ => true).sent) :
      PrintsInOrder executor.expectedKeys arrival :=
    printsInOrder_of_keys ascending (keys ▸ arrives.map PartResult.key)
  have received (elapsed : Elapsed) (filter : Log.Filter) (config : Config)
      (deliveries : List Delivery) (well : ∀ delivery ∈ deliveries, delivery.error = none)
      (arrives : (deliveries.flatMap Delivery.sent).Perm
        (executor.deliver times files fun _ => true).sent) :
      ReceivesInOrder files times elapsed filter config executor.expectedKeys deliveries
        (executor.deliver times files fun _ => true).sent := by
    have printed := in_order _ arrives
    have same := eq_of_perm_of_keys ascending (printed.printed_perm.trans arrives)
      printed.printed_keys keys
    rw [← same]
    exact receivesInOrder_of_printed files times elapsed filter config well printed
  refine ⟨executor.deliver_all_error times files, .of_eq keys, nodup_of_ascending ascending,
    ascending, in_order, _, .refl _, keys, received, fun elapsed filter config => ?_⟩
  -- The run of the session is one way in which the results may come in.
  exact executor.shows_runItems files times elapsed filter config <|
    received elapsed filter config _ (executor.deliveries_error files times)
      (.of_eq (executor.deliveries_sent files times))

/-- Days 3 and 6 with one input file missing, each part on an instance of its own. -/
theorem grid_results_printed_in_key_order :
    ∃ executor : Executor,
      Registry.ofPlugins Calendar.plugins ["grid"] = .ok executor.registry ∧
      executor.registry.size = 2 ∧ executor.parallelism = .part ∧
      executor.registry.ReportsOwnDays ∧
      let files path := if path = "2015_day03.txt" then .ok "^>v<" else .error .notFound
      let delivery := executor.deliver (fun _ => .zero) files fun _ => true
      delivery.error = none ∧ (delivery.sent.map PartResult.key).Perm executor.expectedKeys ∧
      executor.expectedKeys.Nodup ∧ executor.expectedKeys.Pairwise Key.Before ∧
      (∀ arrival : List PartResult, arrival.Perm delivery.sent →
        PrintsInOrder executor.expectedKeys arrival) ∧
      ∃ results : List PartResult, results.Perm delivery.sent ∧
        results.map PartResult.key = executor.expectedKeys ∧
        SessionPrints executor files (fun _ => .zero) results := by
  obtain ⟨registry, built, two⟩ := Calendar.exists_grid_registry
  have own := Registry.reportsOwnDays_of_plugins built
  exact ⟨⟨registry, ⟨"", none⟩, .part, ⟨none, none, none⟩⟩, built, two, rfl, own,
    results_printed_in_key_order own _ _⟩

end Advent
