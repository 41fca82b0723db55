import Advent.Proofs.Registry.Installation
import Advent.Proofs.Run.Outcomes
import Advent.Proofs.Solver.Faults
import Advent.Run.Report
import Mathlib.Algebra.BigOperators.Group.List.Basic
import Mathlib.Algebra.Ring.Int.Defs
import Mathlib.Algebra.Ring.Nat

/-!
# Parse times in the summary

A shared run reads its input once, and the first part carries the time that took. The summary adds
up the times of solved results only, so the parse of an item is counted once if its first part is
solved. It is lost if the first part fails, also where a later part of the item is solved.
-/
namespace Advent

/-! ### Sums of durations -/

namespace Duration

theorem nanoseconds_of_add? {first second sum : Duration} (added : first.add? second = some sum) :
    sum.nanoseconds = first.nanoseconds + second.nanoseconds := by
  obtain ⟨_, same⟩ := Option.ite_none_right_eq_some.mp added
  exact congrArg nanoseconds (Option.some.inj same).symm

theorem add?_of_le {first second : Duration}
    (fits : ((first.nanoseconds + second.nanoseconds).natAbs : Int) ≤ limit) :
    first.add? second = some ⟨first.nanoseconds + second.nanoseconds⟩ := by
  refine if_pos ⟨?_, ?_⟩ <;> dsimp only <;> omega

theorem nanoseconds_of_foldlM {durations : List Duration} {start sum : Duration}
    (summed : durations.foldlM add? start = some sum) :
    sum.nanoseconds = start.nanoseconds + (durations.map nanoseconds).sum := by
  induction durations generalizing start with
  | nil =>
    cases summed
    simp
  | cons first rest ih =>
    rw [List.foldlM_cons] at summed
    obtain ⟨next, added, later⟩ := Option.bind_eq_some_iff.mp summed
    rw [ih later, nanoseconds_of_add? added, List.map_cons, List.sum_cons, add_assoc]

/-- A sum that is in range is exact. -/
theorem nanoseconds_of_sum? {durations : List Duration} {sum : Duration}
    (summed : sum? durations = some sum) :
    sum.nanoseconds = (durations.map nanoseconds).sum :=
  (nanoseconds_of_foldlM summed).trans (zero_add _)

/-- How far durations can lead away from zero in any order. -/
def magnitude (durations : List Duration) : Nat :=
  (durations.map fun duration => duration.nanoseconds.natAbs).sum

/-- Each partial sum is at most as far from zero as its durations lead. -/
theorem sum?_of_magnitude {durations : List Duration}
    (fits : (magnitude durations : Int) ≤ limit) :
    sum? durations = some ⟨(durations.map nanoseconds).sum⟩ := by
  have advance : ∀ (spent : Nat) (sum first : Duration), first ∈ durations →
      sum.nanoseconds.natAbs ≤ spent → spent + first.nanoseconds.natAbs ≤ limit.toNat →
        ∃ next, sum.add? first = pure next ∧
          next.nanoseconds.natAbs ≤ spent + first.nanoseconds.natAbs := by
    intro spent sum first _ within covered
    have triangle := Int.natAbs_add_le sum.nanoseconds first.nanoseconds
    exact ⟨_, add?_of_le (by omega), by dsimp only; omega⟩
  have covered : 0 + (durations.map fun first => first.nanoseconds.natAbs).sum ≤ limit.toNat := by
    unfold magnitude at fits
    omega
  have start : zero.nanoseconds.natAbs ≤ 0 := Nat.le_refl 0
  obtain ⟨total, summed, _⟩ := foldlM_of_budget _ _ advance start covered
  rw [← nanoseconds_of_sum? summed]
  exact summed

end Duration

/-! ### One shared run -/

theorem solvedRun_parseTime {σ : Type} (key : Key) (parseTime : Option Duration) (step : Step σ)
    (time : Duration) : (solvedRun key parseTime step time).result.parseTime = parseTime := by
  unfold solvedRun
  cases step.answer <;> rfl

/-- Parts that are given no parse time report none. -/
theorem solveParts_untimed (times : Phase → Duration) (factory : Factory)
    (state : factory.solver.State) (parts : List Nat) :
    ∀ run ∈ Id.run (solveParts (.single times) factory state none parts),
      run.result.parseTime = none := by
  induction parts generalizing state with
  | nil => exact fun run member => absurd member List.not_mem_nil
  | cons part rest ih =>
    refine List.forall_mem_cons.mpr ⟨solvedRun_parseTime _ _ _ _, ?_⟩
    exact ih (factory.solver.solveChecked state part).state

/-- A run of an item whose instance could be created. -/
structure SharedRun (registry : Registry) where
  item : WorkItem
  input : String
  running : Instance
  created : registry.create item.year item.day input = .ok running

namespace SharedRun

variable {registry : Registry} (times : Phase → Duration) (run : SharedRun registry)

def results : List PartResult :=
  (Id.run (runShared (.single times) registry run.item run.input)).parts.map PartRun.result

/-- The time that reading the input of the item took. -/
def parseTime : Duration :=
  times (.parsing run.item.year run.item.day none)

def solvesSome : Bool :=
  (run.results times).any PartResult.isSolved

def solvesFirst : Bool :=
  (run.results times).head?.any PartResult.isSolved

theorem results_eq :
    run.results times = (Id.run (solveParts (.single times) run.running.factory run.running.state
      (some (run.parseTime times)) run.item.parts)).map PartRun.result := by
  obtain ⟨found, read⟩ := (Registry.create_eq_ok_iff ..).mp run.created
  unfold results runShared
  simp only [found, read, Workers.single, pure_bind]
  rfl

/-- The first result carries the parse time, and no other result carries one. -/
theorem results_cases :
    run.results times = [] ∨ ∃ first rest, run.results times = first :: rest ∧
      first.parseTime = some (run.parseTime times) ∧ ∀ result ∈ rest, result.parseTime = none := by
  rw [results_eq]
  cases run.item.parts with
  | nil => exact Or.inl rfl
  | cons part rest =>
    refine Or.inr ⟨_, _, rfl, solvedRun_parseTime _ _ _ _, ?_⟩
    exact List.forall_mem_map.mpr (solveParts_untimed times _ _ rest)

end SharedRun

/-! ### What the summary counts -/

/-- The parse times that the summary adds up. -/
def countedParses (results : List PartResult) : List Duration :=
  (results.filter PartResult.isSolved).filterMap PartResult.parseTime

theorem totalParseTime?_eq (results : List PartResult) :
    totalParseTime? results = Duration.sum? (countedParses results) :=
  rfl

theorem countedParses_flatMap {α : Type*} (results : α → List PartResult) (items : List α) :
    countedParses (items.flatMap results) =
      items.flatMap fun item => countedParses (results item) := by
  simp only [countedParses, List.filter_flatMap, List.filterMap_flatMap]

theorem countedParses_perm {results arrival : List PartResult} (arrives : arrival.Perm results) :
    (countedParses arrival).Perm (countedParses results) :=
  (arrives.filter _).filterMap _

theorem countedParses_untimed {results : List PartResult}
    (untimed : ∀ result ∈ results, result.parseTime = none) : countedParses results = [] :=
  List.filterMap_eq_nil_iff.mpr fun result member => untimed result (List.mem_of_mem_filter member)

namespace SharedRun

variable {registry : Registry} (times : Phase → Duration)

theorem countedParses_results (run : SharedRun registry) :
    countedParses (run.results times) =
      if run.solvesFirst times then [run.parseTime times] else [] := by
  unfold solvesFirst
  rcases run.results_cases times with none | ⟨first, rest, cut, timed, untimed⟩
  · rw [none]
    rfl
  · have later := countedParses_untimed untimed
    unfold countedParses at later ⊢
    rw [cut, List.head?_cons, Option.any_some]
    cases solved : first.isSolved with
    | true => simp [solved, timed, later]
    | false => simp [solved, later]

theorem countedParses_runs (runs : List (SharedRun registry)) :
    countedParses (runs.flatMap (results times)) =
      (runs.filter (solvesFirst times)).map (parseTime times) := by
  rw [countedParses_flatMap]
  induction runs with
  | nil => rfl
  | cons run rest ih =>
    rw [List.flatMap_cons, ih, countedParses_results]
    cases first : run.solvesFirst times <;> simp [first]

theorem solvesSome_of_solvesFirst (run : SharedRun registry)
    (first : run.solvesFirst times = true) : run.solvesSome times = true := by
  unfold solvesFirst at first
  unfold solvesSome
  cases cut : run.results times with
  | nil => simp [cut] at first
  | cons result rest =>
    rw [cut, List.head?_cons, Option.any_some] at first
    rw [List.any_cons, first, Bool.true_or]

/-- The parse times of some of the runs together, in nanoseconds. -/
def parseNanoseconds (runs : List (SharedRun registry)) (chosen : SharedRun registry → Bool) :
    Int :=
  ((runs.filter chosen).map fun run => (run.parseTime times).nanoseconds).sum

/-- A later part is solved where the first has failed. -/
def losesParse (run : SharedRun registry) : Bool :=
  run.solvesSome times && !run.solvesFirst times

theorem parseNanoseconds_solvesSome (runs : List (SharedRun registry)) :
    parseNanoseconds times runs (solvesSome times) =
      parseNanoseconds times runs (solvesFirst times) +
        parseNanoseconds times runs (losesParse times) := by
  unfold parseNanoseconds
  induction runs with
  | nil => rfl
  | cons run rest ih =>
    cases first : run.solvesFirst times with
    | true =>
      have some := run.solvesSome_of_solvesFirst times first
      simp [losesParse, first, some, ih, add_assoc]
    | false =>
      cases some : run.solvesSome times <;> simp [losesParse, first, some, ih, add_left_comm]

theorem parseNanoseconds_losesParse {runs : List (SharedRun registry)}
    (firsts : ∀ run ∈ runs, run.solvesSome times = true → run.solvesFirst times = true) :
    parseNanoseconds times runs (losesParse times) = 0 := by
  have none_lost : runs.filter (losesParse times) = [] := by
    refine List.filter_eq_nil_iff.mpr fun run member lost => ?_
    obtain ⟨some, failed⟩ := Bool.and_eq_true_iff.mp lost
    simp [firsts run member some] at failed
  rw [parseNanoseconds, none_lost]
  rfl

end SharedRun

/-! ### Two days -/

/-- A solver of two parts that answers those given and fails the others. -/
def answering (answered : List Nat) : Solver :=
  (Dispatch.upTo 2).solver (fun _ => .ok ()) fun part state =>
    .ofAnswer state (if part ∈ answered then .ok "42" else .error (.failed "no answer"))

/-- Day 1 answers both parts, and day 2 only its second. -/
def answeringPlugins : List Plugin :=
  [⟨2015, 1, answering [1, 2], []⟩, ⟨2015, 2, answering [2], []⟩]

def answeringTimes : Phase → Duration
  | .parsing .. => ⟨12000⟩
  | .solving _ => ⟨3000⟩

/-- A run of both parts of a day. -/
def SharedRun.ofAnswering {registry : Registry} {day : Nat} {answered : List Nat}
    (found : registry.factory 2015 day = .ok ⟨answering answered, 2015, day⟩) :
    SharedRun registry where
  item := ⟨2015, day, 1, 2⟩
  input := ""
  running := ⟨⟨answering answered, 2015, day⟩, ()⟩
  created := (Registry.create_eq_ok_iff ..).mpr ⟨found, rfl⟩

/-- What the two days solve. -/
theorem SharedRun.solves_ofAnswering {registry : Registry}
    (first : registry.factory 2015 1 = .ok ⟨answering [1, 2], 2015, 1⟩)
    (second : registry.factory 2015 2 = .ok ⟨answering [2], 2015, 2⟩) :
    (ofAnswering first).solvesFirst answeringTimes = true ∧
      (ofAnswering second).solvesFirst answeringTimes = false ∧
      (ofAnswering second).solvesSome answeringTimes = true := by
  simp only [solvesFirst, solvesSome, results_eq]
  exact ⟨rfl, rfl, rfl⟩

theorem exists_answering_registry :
    ∃ registry, Registry.ofPlugins answeringPlugins [] = .ok registry ∧
      registry.factory 2015 1 = .ok ⟨answering [1, 2], 2015, 1⟩ ∧
      registry.factory 2015 2 = .ok ⟨answering [2], 2015, 2⟩ := by
  have acceptable : Registration.Acceptable (Registry.registrations answeringPlugins []) := by
    simp [Registry.registrations_acceptable_iff, Plugin.DistinctDays, Plugin.Selected,
      answeringPlugins, inRange_iff]
  obtain ⟨registry, registered⟩ := (Registry.registerAll_empty_ok_iff _).mpr acceptable
  have built := (Registry.ofPlugins_eq_registerAll ..).trans registered
  have factory := (Registry.builtFrom_of_ofPlugins built).factory
  have untagged (plugin : Plugin) : plugin.Selected [] :=
    fun _ absent => absurd absent List.not_mem_nil
  have listed : ∀ plugin ∈ answeringPlugins, registry.factory plugin.year plugin.day =
      .ok ⟨plugin.solver, plugin.year, plugin.day⟩ :=
    fun plugin member => factory plugin member (untagged plugin)
  simp only [answeringPlugins, List.forall_mem_cons] at listed
  exact ⟨registry, built, listed.1, listed.2.1⟩

/-! ### The total parse time -/

open SharedRun

/-- In whatever order results arrive, the total is the sum of the parse times of the runs whose
first part is solved. What it misses are the parse times of the runs that solve only later parts, so
it misses none if no run fails its first part and solves another. -/
theorem parse_counted_with_first_part {registry : Registry} (times : Phase → Duration)
    (runs : List (SharedRun registry)) {arrival : List PartResult}
    (arrives : arrival.Perm (runs.flatMap (results times))) :
    let counted := parseNanoseconds times runs (solvesFirst times)
    (∀ elapsed lines, summary? arrival elapsed = some lines →
      ∃ total : Duration, total.nanoseconds = counted ∧
        lines[2]? = some s!"Total parse time: {total.shown}") ∧
    ((Duration.magnitude ((runs.filter (solvesFirst times)).map (parseTime times)) : Int) ≤
        Duration.limit → totalParseTime? arrival = some ⟨counted⟩) ∧
    parseNanoseconds times runs (solvesSome times) =
      counted + parseNanoseconds times runs (losesParse times) ∧
    ((∀ run ∈ runs, run.solvesSome times = true → run.solvesFirst times = true) →
      parseNanoseconds times runs (solvesSome times) = counted) := by
  intro counted
  have moved := (countedParses_perm arrives).trans (.of_eq (countedParses_runs times runs))
  have sum_eq : ((countedParses arrival).map Duration.nanoseconds).sum = counted :=
    (moved.map _).sum_eq.trans (congrArg List.sum (List.map_map ..))
  have missing := parseNanoseconds_solvesSome times runs
  refine ⟨fun elapsed lines summed => ?_, fun fits => ?_, missing, fun firsts => ?_⟩
  · obtain ⟨total, parsed, later⟩ := Option.bind_eq_some_iff.mp summed
    refine ⟨total, (Duration.nanoseconds_of_sum? parsed).trans sum_eq, ?_⟩
    obtain ⟨solve, _, later⟩ := Option.bind_eq_some_iff.mp later
    obtain ⟨computing, _, later⟩ := Option.bind_eq_some_iff.mp later
    cases later
    rfl
  · have same : Duration.magnitude (countedParses arrival) = Duration.magnitude _ :=
      (moved.map _).sum_eq
    rw [totalParseTime?_eq, Duration.sum?_of_magnitude (same ▸ fits), sum_eq]
  · rw [missing, parseNanoseconds_losesParse times firsts, add_zero]

/-- Both days are run and their results arrive from the last to the first. -/
theorem one_of_two_parses_counted :
    ∃ registry, Registry.ofPlugins answeringPlugins [] = .ok registry ∧
      ∃ runs : List (SharedRun registry), runs.map item = [⟨2015, 1, 1, 2⟩, ⟨2015, 2, 1, 2⟩] ∧
        let arrival := (runs.flatMap (results answeringTimes)).reverse
        arrival.Perm (runs.flatMap (results answeringTimes)) ∧
        totalParseTime? arrival = some ⟨12000⟩ ∧
        parseNanoseconds answeringTimes runs (solvesSome answeringTimes) = 24000 ∧
        parseNanoseconds answeringTimes runs (losesParse answeringTimes) = 12000 := by
  obtain ⟨registry, built, first, second⟩ := exists_answering_registry
  refine ⟨registry, built, [ofAnswering first, ofAnswering second], rfl, ?_⟩
  intro arrival
  have arrives : arrival.Perm _ := List.reverse_perm _
  obtain ⟨_, total, missing, _⟩ := parse_counted_with_first_part answeringTimes _ arrives
  obtain ⟨solved, failed, later⟩ := solves_ofAnswering first second
  have counted : parseNanoseconds answeringTimes [ofAnswering first, ofAnswering second]
      (solvesFirst answeringTimes) = 12000 := by
    simp [parseNanoseconds, solved, failed, parseTime, answeringTimes]
  have lost : parseNanoseconds answeringTimes [ofAnswering first, ofAnswering second]
      (losesParse answeringTimes) = 12000 := by
    simp [parseNanoseconds, losesParse, solved, failed, later, parseTime, answeringTimes]
  have within : (12000 : Int) ≤ Duration.limit := by decide
  have fits : (Duration.magnitude (([ofAnswering first, ofAnswering second].filter
      (solvesFirst answeringTimes)).map (parseTime answeringTimes)) : Int) ≤ Duration.limit := by
    simpa [solved, failed, Duration.magnitude, parseTime, answeringTimes] using within
  refine ⟨arrives, (total fits).trans (by rw [counted]), ?_, lost⟩
  rw [missing, counted, lost]
  rfl

/-- An instance was created and a part solved, but no time is reported for reading the input. -/
theorem parse_lost_with_failed_first_part :
    ∃ registry, Registry.ofPlugins answeringPlugins [] = .ok registry ∧
      ∃ run : SharedRun registry, run.item = ⟨2015, 2, 1, 2⟩ ∧
        run.solvesSome answeringTimes = true ∧
        parseNanoseconds answeringTimes [run] (solvesSome answeringTimes) = 12000 ∧
        totalParseTime? (run.results answeringTimes) = some .zero ∧
        summary? (run.results answeringTimes) ⟨0, 0⟩ = some ["--- Summary ---",
          "Solvers: 1 solved, 1 failed", "Total parse time: 0µs", "Total solve time: 3µs",
          "Elapsed wall-clock time: 0µs"] := by
  obtain ⟨registry, built, first, second⟩ := exists_answering_registry
  obtain ⟨_, _, later⟩ := solves_ofAnswering first second
  refine ⟨registry, built, ofAnswering second, rfl, later, ?_, ?_⟩
  · simp [parseNanoseconds, later, parseTime, answeringTimes]
  · have sent : (ofAnswering second).results answeringTimes =
        [⟨⟨2015, 2, 1⟩, .error (.solve (.failed "no answer")), some ⟨12000⟩, .zero⟩,
          ⟨⟨2015, 2, 2⟩, .ok "42", none, ⟨3000⟩⟩] := by
      rw [results_eq]
      rfl
    rw [sent]
    decide +kernel

end Advent
