import Advent.Proofs.Puzzle.Lights
import Mathlib.Algebra.BigOperators.Group.Finset.Piecewise
import Mathlib.Algebra.BigOperators.Group.Finset.Sigma
import Mathlib.Tactic.Linarith

/-!
# One light through all instructions

Instructions act on each light apart from the others: what it is afterwards comes of the actions of
those whose rectangle covers it, in their order. This holds of every grid, and a run faults if and
only if the actions fault on some light. Switches never do. A dial does where its brightness leaves
its word, which from zero takes more instructions than a list of instructions has.
-/
namespace Advent.Lights

variable {α : Type}

/-! ### One light -/

instance (area : Rectangle) (x y : Nat) : Decidable (area.Covers x y) :=
  inferInstanceAs (Decidable ((area.left ≤ x ∧ x ≤ area.right) ∧ area.top ≤ y ∧ y ≤ area.bottom))

/-- The actions of the instructions whose rectangle covers a light. -/
def actionsAt (instructions : List Instruction) (x y : Nat) : List Action :=
  (instructions.filter fun instruction => instruction.area.Covers x y).map Instruction.action

theorem actionsAt_cons (instruction : Instruction) (rest : List Instruction) (x y : Nat) :
    actionsAt (instruction :: rest) x y =
      if instruction.area.Covers x y then instruction.action :: actionsAt rest x y
      else actionsAt rest x y := by
  by_cases covered : instruction.area.Covers x y <;> simp [actionsAt, covered]

theorem actionsAt_eq_nil {instructions : List Instruction} {x y : Nat}
    (uncovered : ∀ instruction ∈ instructions, ¬ instruction.area.Covers x y) :
    actionsAt instructions x y = [] := by
  rw [actionsAt, List.map_eq_nil_iff, List.filter_eq_nil_iff]
  simpa using uncovered

theorem length_actionsAt_le (instructions : List Instruction) (x y : Nat) :
    (actionsAt instructions x y).length ≤ instructions.length := by
  rw [actionsAt, List.length_map]
  exact List.length_filter_le _ _

/-- Actions one after the other on a light, up to the first that faults on it. -/
def act (change : Action → α → Except Fault α) (light : α) (actions : List Action) :
    Except Fault α :=
  actions.foldlM (fun light action => change action light) light

/-! ### All lights -/

/-- What comes of instructions: every light has had its actions, or they have faulted on one. -/
inductive Follows (change : Action → α → Except Fault α) (instructions : List Instruction)
    (grid : Grid α) : Except Fault (Grid α) → Prop
  | done {after : Grid α} (size_eq : after.cells.size = grid.cells.size)
      (lights : ∀ {i light}, grid.cells[i]? = some light →
        ∃ next, act change light (actionsAt instructions (i % gridSize) (i / gridSize)) = .ok next ∧
          after.cells[i]? = some next) :
      Follows change instructions grid (.ok after)
  | refused {i : Nat} {light : α} {fault : Fault} (here : grid.cells[i]? = some light)
      (failed : act change light (actionsAt instructions (i % gridSize) (i / gridSize)) =
        .error fault) :
      Follows change instructions grid (.error fault)

section Runs

variable {change : Action → α → Except Fault α} {instruction : Instruction}
  {rest : List Instruction} {grid mid : Grid α}

/-- A light has the action of the first instruction, if it covers the light, before the others. -/
theorem act_of_updates
    (updates : Updates (change instruction.action)
      (fun i => instruction.area.Covers (i % gridSize) (i / gridSize)) grid.cells mid.cells)
    {i : Nat} {light : α} (here : grid.cells[i]? = some light) :
    ∃ between, mid.cells[i]? = some between ∧
      act change light (actionsAt (instruction :: rest) (i % gridSize) (i / gridSize)) =
        act change between (actionsAt rest (i % gridSize) (i / gridSize)) := by
  rw [actionsAt_cons]
  by_cases covered : instruction.area.Covers (i % gridSize) (i / gridSize)
  · obtain ⟨between, changed, there⟩ := updates.changed covered here
    refine ⟨between, there, ?_⟩
    rw [if_pos covered, act, List.foldlM_cons, changed]
    rfl
  · exact ⟨light, (updates.kept covered).trans here, by rw [if_neg covered]⟩

theorem Follows.cons
    (updates : Updates (change instruction.action)
      (fun i => instruction.area.Covers (i % gridSize) (i / gridSize)) grid.cells mid.cells)
    {outcome : Except Fault (Grid α)} (later : Follows change rest mid outcome) :
    Follows change (instruction :: rest) grid outcome := by
  cases later with
  | done size_eq lights =>
    refine .done (size_eq.trans updates.size_eq) fun here => ?_
    obtain ⟨between, there, same⟩ := act_of_updates updates here
    rw [same]
    exact lights there
  | refused there failed =>
    -- The light on which the actions fault comes from the one at its place.
    have inside := (Array.getElem?_eq_some_iff.mp there).1
    rw [updates.size_eq] at inside
    have here := Array.getElem?_eq_getElem inside
    obtain ⟨between, there', same⟩ := act_of_updates updates here
    obtain rfl := Option.some.inj (there.symm.trans there')
    exact .refused here (same.trans failed)

theorem follows_run (change : Action → α → Except Fault α)
    {step : Grid α → Instruction → Except Fault (Grid α)}
    (step_eq : ∀ grid instruction,
      step grid instruction = grid.apply (change instruction.action) instruction.area)
    {instructions : List Instruction}
    (inGrid : ∀ instruction ∈ instructions, instruction.area.InGrid)
    (size_eq : grid.cells.size = gridSize * gridSize) :
    Follows change instructions grid (instructions.foldlM step grid) := by
  -- The rest of the instructions goes on from what the first one makes of the grid.
  induction instructions generalizing grid with
  | nil => exact .done rfl fun {_ light} here => ⟨light, rfl, here⟩
  | cons instruction rest ih =>
    obtain ⟨first, others⟩ := List.forall_mem_cons.mp inGrid
    rw [List.foldlM_cons, step_eq]
    rcases Grid.apply_cases (change instruction.action) first size_eq with
      ⟨mid, changed, updates⟩ | ⟨i, light, fault, covered, here, failed, refused⟩
    · rw [changed]
      exact .cons updates (ih others (updates.size_eq.trans size_eq))
    · -- The first action on that light faults already, whatever the others are.
      rw [refused]
      refine .refused here ?_
      rw [actionsAt_cons, if_pos covered, act, List.foldlM_cons, failed]
      rfl

end Runs

/-! ### Places -/

theorem row_of_place {columns x : Nat} (column : x < columns) (y : Nat) :
    (y * columns + x) / columns = y := by
  rw [Nat.mul_comm, Nat.mul_add_div (Nat.zero_lt_of_lt column), Nat.div_eq_of_lt column,
    Nat.add_zero]

theorem column_lt (i : Nat) : i % gridSize < gridSize :=
  Nat.mod_lt i (by decide)

theorem Grid.get?_mod_div (grid : Grid α) (i : Nat) :
    grid.get? (i % gridSize) (i / gridSize) = grid.cells[i]? := by
  rw [Grid.get?, Nat.div_add_mod']

theorem Grid.get?_new {x y : Nat} (column : x < gridSize) (row : y < gridSize) (initial : α) :
    (Grid.new initial).get? x y = some initial := by
  have inside : y * gridSize + x < gridSize * gridSize := by
    simp only [gridSize] at column row ⊢
    omega
  rw [Grid.get?, Grid.new, Array.getElem?_replicate, if_pos inside]

/-- Each light of the grid is what its actions make of it, and one without actions is kept. -/
structure Transforms (effect : α → List Action → α) (instructions : List Instruction)
    (grid after : Grid α) : Prop where
  size_eq : after.cells.size = grid.cells.size
  light_eq : ∀ x y, x < gridSize → after.get? x y =
    (grid.get? x y).map fun light => effect light (actionsAt instructions x y)
  kept : ∀ x y, x < gridSize →
    (∀ instruction ∈ instructions, ¬ instruction.area.Covers x y) → after.get? x y = grid.get? x y

theorem Transforms.of_lights {effect : α → List Action → α}
    (nothing : ∀ light, effect light [] = light) {instructions : List Instruction}
    {grid after : Grid α} (size_eq : after.cells.size = grid.cells.size)
    (lights : ∀ {i light}, grid.cells[i]? = some light → after.cells[i]? =
      some (effect light (actionsAt instructions (i % gridSize) (i / gridSize)))) :
    Transforms effect instructions grid after := by
  have light_eq : ∀ x y, x < gridSize → after.get? x y =
      (grid.get? x y).map fun light => effect light (actionsAt instructions x y) := by
    intro x y column
    simp only [Grid.get?]
    cases here : grid.cells[y * gridSize + x]? with
    | none =>
      rw [Array.getElem?_eq_none_iff] at here
      exact Array.getElem?_eq_none (size_eq ▸ here)
    | some light =>
      have there := lights here
      rw [Nat.mul_add_mod_of_lt column, row_of_place column] at there
      exact there
  refine ⟨size_eq, light_eq, fun x y column uncovered => ?_⟩
  rw [light_eq x y column, actionsAt_eq_nil uncovered]
  simp [nothing]

/-- On a grid of like lights each becomes what its actions make of that light. -/
theorem Transforms.get?_new {effect : α → List Action → α} {instructions : List Instruction}
    {initial : α} {after : Grid α}
    (transforms : Transforms effect instructions (Grid.new initial) after) {x y : Nat}
    (column : x < gridSize) (row : y < gridSize) :
    after.get? x y = some (effect initial (actionsAt instructions x y)) := by
  rw [transforms.light_eq x y column, Grid.get?_new column row]
  rfl

/-! ### Switches -/

/-- An action sets a light, clears it or flips it. -/
def switched (lit : Bool) : Action → Bool
  | .turnOn => true
  | .turnOff => false
  | .toggle => lit ^^ true

def litAfter (lit : Bool) (actions : List Action) : Bool :=
  actions.foldl switched lit

theorem switchLight_eq (action : Action) (lit : Bool) :
    switchLight action lit = switched lit action := by
  cases action with
  | turnOn => rfl
  | turnOff => rfl
  | toggle => exact (Bool.xor_true lit).symm

theorem act_switchLight (lit : Bool) (actions : List Action) :
    act (fun action lit => .ok (switchLight action lit)) lit actions =
      .ok (litAfter lit actions) := by
  induction actions generalizing lit with
  | nil => rfl
  | cons action rest ih =>
    rw [litAfter, List.foldl_cons, ← switchLight_eq]
    exact ih (switchLight action lit)

section InGrid

variable {instructions : List Instruction}
  (inGrid : ∀ instruction ∈ instructions, instruction.area.InGrid)

include inGrid

theorem switch_transforms {grid : Grid Bool} (size_eq : grid.cells.size = gridSize * gridSize) :
    ∃ after, instructions.foldlM switch grid = .ok after ∧
      Transforms litAfter instructions grid after := by
  have follows := follows_run (fun action lit => .ok (switchLight action lit)) switch_eq inGrid
    size_eq
  cases run : instructions.foldlM switch grid with
  | ok after =>
    rw [run] at follows
    cases follows with
    | done same_size lights =>
      refine ⟨after, rfl, .of_lights (fun _ => rfl) same_size fun here => ?_⟩
      obtain ⟨next, acted, there⟩ := lights here
      rw [act_switchLight] at acted
      rw [there, ← Except.ok.inj acted]
  | error fault =>
    rw [run] at follows
    cases follows with
    | refused _ failed =>
      rw [act_switchLight] at failed
      cases failed

omit inGrid

/-! ### Dials -/

/-- What an action makes of a brightness that has no bound. -/
def dialed : Action → Nat → Nat
  | .turnOn, brightness => brightness + 1
  | .turnOff, brightness => brightness - 1
  | .toggle, brightness => brightness + 2

def brightnessAfter (brightness : Nat) (actions : List Action) : Nat :=
  actions.foldl (fun brightness action => dialed action brightness) brightness

/-- The brightness is in its word at the start and after each action. -/
def Fits (brightness : Nat) (actions : List Action) : Prop :=
  ∀ earlier, earlier <+: actions → brightnessAfter brightness earlier < Word.size 32

theorem fits_cons (brightness : Nat) (action : Action) (rest : List Action) :
    Fits brightness (action :: rest) ↔
      brightness < Word.size 32 ∧ Fits (dialed action brightness) rest := by
  constructor
  · intro fits
    refine ⟨fits [] (List.nil_prefix ..), fun earlier start => ?_⟩
    exact fits (action :: earlier) (List.prefix_cons_inj action |>.mpr start)
  · rintro ⟨within, later⟩ earlier start
    rcases List.prefix_cons_iff.mp start with rfl | ⟨others, rfl, start'⟩
    · exact within
    · exact later others start'

theorem dimLight_eq (action : Action) {brightness : Nat} (within : brightness < Word.size 32) :
    dimLight action brightness =
      if dialed action brightness < Word.size 32 then .ok (dialed action brightness)
      else .error .overflow := by
  have brightened_eq (steps : Nat) : brightened brightness steps =
      if brightness + steps < Word.size 32 then .ok (brightness + steps)
      else .error .overflow := by
    unfold brightened Word.unsigned32?
    by_cases bounded : brightness + steps < Word.size 32 <;> simp [bounded]
  cases action with
  | turnOn => exact brightened_eq 1
  | turnOff => exact (if_pos (Nat.lt_of_le_of_lt (Nat.sub_le brightness 1) within)).symm
  | toggle => exact brightened_eq 2

/-- Dimming follows the brightness as long as it fits. -/
theorem act_dimLight {brightness : Nat} (within : brightness < Word.size 32)
    (actions : List Action) :
    Fits brightness actions ∧ act dimLight brightness actions =
        .ok (brightnessAfter brightness actions) ∨
      ¬ Fits brightness actions ∧ act dimLight brightness actions = .error .overflow := by
  -- The start is in the word, so the first action decides: it leaves the word or the rest goes on.
  induction actions generalizing brightness with
  | nil =>
    refine Or.inl ⟨fun earlier start => ?_, rfl⟩
    rw [List.prefix_nil.mp start]
    exact within
  | cons action rest ih =>
    have first := dimLight_eq action within
    rw [fits_cons, act, List.foldlM_cons]
    by_cases bounded : dialed action brightness < Word.size 32
    · rw [first, if_pos bounded]
      rcases ih bounded with ⟨fits, run⟩ | ⟨leaves, run⟩
      · exact Or.inl ⟨⟨within, fits⟩, run⟩
      · exact Or.inr ⟨fun fits => leaves fits.2, run⟩
    · rw [first, if_neg bounded]
      exact Or.inr ⟨fun fits => bounded (fits.2 [] (List.nil_prefix ..)), rfl⟩

theorem brightnessAfter_le (brightness : Nat) (actions : List Action) :
    brightnessAfter brightness actions ≤ brightness + 2 * actions.length := by
  induction actions generalizing brightness with
  | nil => exact Nat.le_refl _
  | cons action rest ih =>
    have later := ih (dialed action brightness)
    have step : dialed action brightness ≤ brightness + 2 := by
      cases action <;> simp only [dialed] <;> omega
    rw [List.length_cons]
    change brightnessAfter (dialed action brightness) rest ≤ _
    omega

theorem fits_of_few {brightness : Nat} {actions : List Action}
    (few : brightness + 2 * actions.length < Word.size 32) : Fits brightness actions := by
  intro earlier start
  have bound := brightnessAfter_le brightness earlier
  have shorter := start.length_le
  omega

/-- Every dial of the grid stays in its word under its actions. -/
def Grid.Fits (instructions : List Instruction) (grid : Grid Nat) : Prop :=
  ∀ x y brightness, x < gridSize → grid.get? x y = some brightness →
    Lights.Fits brightness (actionsAt instructions x y)

theorem Grid.Dimmed.mono {grid : Grid Nat} {brightest higher : Nat} (dimmed : grid.Dimmed brightest)
    (le : brightest ≤ higher) : grid.Dimmed higher :=
  ⟨dimmed.size_eq, fun here => Nat.le_trans (dimmed.le here) le⟩

theorem Grid.Dimmed.fits {grid : Grid Nat} {brightest : Nat} (dimmed : grid.Dimmed brightest)
    (few : brightest + 2 * instructions.length < Word.size 32) : grid.Fits instructions := by
  intro x y brightness _ here
  have le := dimmed.le here
  have fewer := length_actionsAt_le instructions x y
  exact fits_of_few (by omega)

include inGrid

theorem dim_transforms {grid : Grid Nat} (dials : grid.Dimmed (Word.greatest 32)) :
    (grid.Fits instructions → ∃ after, instructions.foldlM dim grid = .ok after ∧
        Transforms brightnessAfter instructions grid after) ∧
      (¬ grid.Fits instructions → instructions.foldlM dim grid = .error .overflow) := by
  have follows : Follows dimLight instructions grid (instructions.foldlM dim grid) :=
    follows_run dimLight (fun _ _ => rfl) inGrid dials.size_eq
  have small {i brightness : Nat} (here : grid.cells[i]? = some brightness) :
      brightness < Word.size 32 :=
    Nat.lt_of_le_pred (by decide) (dials.le here)
  cases run : instructions.foldlM dim grid with
  | ok after =>
    rw [run] at follows
    cases follows with
    | done same_size lights =>
      -- The actions have gone through on every light, so every dial has stayed in its word.
      have each {i brightness : Nat} (here : grid.cells[i]? = some brightness) :
          Fits brightness (actionsAt instructions (i % gridSize) (i / gridSize)) ∧
            after.cells[i]? = some (brightnessAfter brightness
              (actionsAt instructions (i % gridSize) (i / gridSize))) := by
        obtain ⟨next, acted, there⟩ := lights here
        rcases act_dimLight (small here) (actionsAt instructions (i % gridSize) (i / gridSize)) with
          ⟨fits, followed⟩ | ⟨_, refused⟩
        · obtain rfl := Except.ok.inj (acted.symm.trans followed)
          exact ⟨fits, there⟩
        · cases acted.symm.trans refused
      have all : grid.Fits instructions := by
        intro x y brightness column here
        have fits := (each here).1
        rwa [Nat.mul_add_mod_of_lt column, row_of_place column] at fits
      exact ⟨fun _ => ⟨after, rfl, .of_lights (fun _ => rfl) same_size fun here => (each here).2⟩,
        fun leaves => absurd all leaves⟩
  | error fault =>
    rw [run] at follows
    cases follows with
    | @refused i brightness _ here failed =>
      rcases act_dimLight (small here) (actionsAt instructions (i % gridSize) (i / gridSize)) with
        ⟨_, followed⟩ | ⟨leaves, refused⟩
      · cases failed.symm.trans followed
      · obtain rfl := Except.error.inj (failed.symm.trans refused)
        refine ⟨fun fits => absurd ?_ leaves, fun _ => rfl⟩
        exact fits (i % gridSize) (i / gridSize) brightness (column_lt i)
          ((grid.get?_mod_div i).trans here)

omit inGrid

/-! ### Answers -/

/-- A sum over cells row by row is the sum over their columns and rows. -/
theorem sum_mod_div {columns : Nat} (positive : 0 < columns) (rows : Nat)
    (value : Nat → Nat → Nat) :
    ((List.range (columns * rows)).map fun i => value (i % columns) (i / columns)).sum =
      ∑ place ∈ Finset.range columns ×ˢ Finset.range rows, value place.1 place.2 := by
  -- A place is the remainder and the quotient of its index, and the index is made of both.
  change ∑ i ∈ Finset.range (columns * rows), value (i % columns) (i / columns) = _
  refine Finset.sum_nbij' (fun i => (i % columns, i / columns))
    (fun place => place.2 * columns + place.1) ?_ ?_ ?_ ?_ fun _ _ => rfl
  · intro i member
    simp only [Finset.mem_range, Finset.mem_product] at member ⊢
    exact ⟨Nat.mod_lt i positive, Nat.div_lt_of_lt_mul member⟩
  · rintro ⟨x, y⟩ member
    simp only [Finset.mem_range, Finset.mem_product] at member ⊢
    nlinarith
  · intro i _
    exact Nat.div_add_mod' i columns
  · rintro ⟨x, y⟩ member
    simp only [Finset.mem_range, Finset.mem_product] at member
    exact Prod.ext (Nat.mul_add_mod_of_lt member.1) (row_of_place member.1 y)

theorem Transforms.toList_cells {effect : α → List Action → α} {initial : α} {after : Grid α}
    (transforms : Transforms effect instructions (Grid.new initial) after) :
    after.cells.toList = (List.range (gridSize * gridSize)).map fun i =>
      effect initial (actionsAt instructions (i % gridSize) (i / gridSize)) := by
  apply List.ext_getElem?
  intro i
  rw [Array.getElem?_toList, ← Grid.get?_mod_div, transforms.light_eq _ _ (column_lt i),
    Grid.get?_mod_div, Grid.new, Array.getElem?_replicate, List.getElem?_map]
  by_cases inside : i < gridSize * gridSize
  · rw [if_pos inside, List.getElem?_range inside]
    rfl
  · rw [if_neg inside, List.getElem?_eq_none (by simpa using inside)]
    rfl

theorem Transforms.litCount_eq {after : Grid Bool}
    (transforms : Transforms litAfter instructions (Grid.new false) after) :
    litCount after = ((Finset.range gridSize ×ˢ Finset.range gridSize).filter fun place =>
      litAfter false (actionsAt instructions place.1 place.2)).card := by
  have counted (lights : List Bool) (count : Nat) :
      lights.foldl (fun count lit => if lit then count + 1 else count) count =
        count + (lights.map fun lit => if lit then 1 else 0).sum := by
    induction lights generalizing count with
    | nil => rfl
    | cons lit rest ih =>
      rw [List.foldl_cons, ih, List.map_cons, List.sum_cons]
      cases lit <;> simp [Nat.add_assoc]
  calc litCount after
    _ = (after.cells.toList.map fun lit => if lit then 1 else 0).sum := by
      rw [litCount, ← Array.foldl_toList, counted, Nat.zero_add]
    _ = ((List.range (gridSize * gridSize)).map fun i =>
          if litAfter false (actionsAt instructions (i % gridSize) (i / gridSize)) then 1
          else 0).sum := by
      rw [transforms.toList_cells, List.map_map]
      simp only [Function.comp_def]
    _ = ∑ place ∈ Finset.range gridSize ×ˢ Finset.range gridSize,
          if litAfter false (actionsAt instructions place.1 place.2) then 1 else 0 :=
      sum_mod_div (by decide) gridSize fun x y =>
        if litAfter false (actionsAt instructions x y) then 1 else 0
    _ = _ := (Finset.card_filter ..).symm

theorem Transforms.totalBrightness_eq {after : Grid Nat}
    (transforms : Transforms brightnessAfter instructions (Grid.new 0) after) :
    totalBrightness after = ∑ place ∈ Finset.range gridSize ×ˢ Finset.range gridSize,
      brightnessAfter 0 (actionsAt instructions place.1 place.2) := by
  calc totalBrightness after
    _ = after.cells.toList.sum := by rw [Array.sum_toList, Array.sum_eq_foldl_nat]; rfl
    _ = ((List.range (gridSize * gridSize)).map fun i =>
          brightnessAfter 0 (actionsAt instructions (i % gridSize) (i / gridSize))).sum := by
      rw [transforms.toList_cells]
    _ = _ :=
      sum_mod_div (by decide) gridSize fun x y => brightnessAfter 0 (actionsAt instructions x y)

include inGrid

theorem answer_one_eq :
    answer instructions 1 =
      .ok (toString ((Finset.range gridSize ×ˢ Finset.range gridSize).filter fun place =>
        litAfter false (actionsAt instructions place.1 place.2)).card) := by
  have full : (Grid.new false).cells.size = gridSize * gridSize := Array.size_replicate
  obtain ⟨after, run, transforms⟩ := switch_transforms inGrid full
  rw [answer, if_pos rfl, run, ← transforms.litCount_eq]
  rfl

theorem answer_two_eq (few : instructions.length < Word.size 31) :
    answer instructions 2 =
      .ok (toString (∑ place ∈ Finset.range gridSize ×ˢ Finset.range gridSize,
        brightnessAfter 0 (actionsAt instructions place.1 place.2))) := by
  have double : Word.size 32 = 2 * Word.size 31 := by decide
  obtain ⟨after, run, dimmed⟩ := dim_run inGrid few
  have fits : (Grid.new 0).Fits instructions := (Grid.dimmed_new 0).fits (by omega)
  have dials : (Grid.new 0).Dimmed (Word.greatest 32) := (Grid.dimmed_new 0).mono (Nat.zero_le _)
  -- The same run is known twice, for the bound of the total and for the lights themselves.
  obtain ⟨after', run', transforms⟩ := (dim_transforms inGrid dials).1 fits
  obtain rfl := Except.ok.inj (run'.symm.trans run)
  rw [answer, if_neg (by decide), run, Except.bind, brightnessSum_of_dimmed dimmed (by omega),
    ← transforms.totalBrightness_eq]
  rfl

end InGrid

/-- Every light becomes the fold of the actions whose rectangle covers it, and the answers are what
the folds of a dark grid add up to. Dials follow their folds if and only if these fit their word. -/
theorem lights_fold_their_actions {instructions : List Instruction}
    (read : ∀ instruction ∈ instructions, ∃ text, readInstruction text = .ok instruction)
    (few : instructions.length < Word.size 31) :
    (∀ grid : Grid Bool, grid.cells.size = gridSize * gridSize →
      ∃ after, instructions.foldlM switch grid = .ok after ∧
        Transforms litAfter instructions grid after) ∧
    (∀ grid : Grid Nat, grid.Dimmed (Word.greatest 32) →
      (grid.Fits instructions → ∃ after, instructions.foldlM dim grid = .ok after ∧
        Transforms brightnessAfter instructions grid after) ∧
      (¬ grid.Fits instructions → instructions.foldlM dim grid = .error .overflow)) ∧
    (∀ (grid : Grid Nat) (brightest : Nat), grid.Dimmed brightest →
      brightest + 2 * instructions.length < Word.size 32 → grid.Fits instructions) ∧
    answer instructions 1 =
      .ok (toString ((Finset.range gridSize ×ˢ Finset.range gridSize).filter fun place =>
        litAfter false (actionsAt instructions place.1 place.2)).card) ∧
    answer instructions 2 =
      .ok (toString (∑ place ∈ Finset.range gridSize ×ˢ Finset.range gridSize,
        brightnessAfter 0 (actionsAt instructions place.1 place.2))) := by
  have inGrid : ∀ instruction ∈ instructions, instruction.area.InGrid := by
    intro instruction member
    obtain ⟨text, found⟩ := read instruction member
    exact inGrid_of_readInstruction found
  refine ⟨?_, ?_, ?_, answer_one_eq inGrid, answer_two_eq inGrid few⟩
  · intro grid size_eq
    exact switch_transforms inGrid size_eq
  · intro grid dials
    exact dim_transforms inGrid dials
  · intro grid brightest dimmed room
    exact dimmed.fits room

/-- All lights are turned on, the first one is toggled, and the second one is turned off. -/
theorem lights_turned_on_toggled_and_turned_off :
    ∃ instructions,
      ["turn on 0,0 through 999,999".toList, "toggle 0,0 through 0,0".toList,
          "turn off 1,0 through 1,0".toList].mapM readInstruction = .ok instructions ∧
      (∃ after, instructions.foldlM switch (Grid.new false) = .ok after ∧
        after.get? 0 0 = some false ∧ after.get? 1 0 = some false ∧ after.get? 2 0 = some true) ∧
      ∃ after, instructions.foldlM dim (Grid.new 0) = .ok after ∧
        after.get? 0 0 = some 3 ∧ after.get? 1 0 = some 0 ∧ after.get? 2 0 = some 1 := by
  have parsed :
      ["turn on 0,0 through 999,999".toList, "toggle 0,0 through 0,0".toList,
          "turn off 1,0 through 1,0".toList].mapM readInstruction =
        .ok [⟨.turnOn, .between 0 0 999 999⟩, ⟨.toggle, .between 0 0 0 0⟩,
          ⟨.turnOff, .between 1 0 1 0⟩] := by decide
  have read (instruction : Instruction) (member : instruction ∈
      [⟨.turnOn, .between 0 0 999 999⟩, ⟨.toggle, .between 0 0 0 0⟩,
        ⟨.turnOff, .between 1 0 1 0⟩]) :
      ∃ text, readInstruction text = .ok instruction := by
    obtain ⟨text, _, found⟩ :=
      Text.exists_of_forall₂ (Text.forall₂_of_mapM parsed) instruction member
    exact ⟨text, found⟩
  obtain ⟨switches, dials, room, _, _⟩ := lights_fold_their_actions read (by decide)
  refine ⟨_, parsed, ?_, ?_⟩
  · obtain ⟨after, run, transforms⟩ := switches (Grid.new false) Array.size_replicate
    refine ⟨after, run, ?_, ?_, ?_⟩
    · exact (transforms.get?_new (by decide) (by decide)).trans (by decide)
    · exact (transforms.get?_new (by decide) (by decide)).trans (by decide)
    · exact (transforms.get?_new (by decide) (by decide)).trans (by decide)
  · have fits := room (Grid.new 0) 0 (Grid.dimmed_new 0) (by decide)
    obtain ⟨after, run, transforms⟩ :=
      (dials (Grid.new 0) ((Grid.dimmed_new 0).mono (Nat.zero_le _))).1 fits
    refine ⟨after, run, ?_, ?_, ?_⟩
    · exact (transforms.get?_new (by decide) (by decide)).trans (by decide)
    · exact (transforms.get?_new (by decide) (by decide)).trans (by decide)
    · exact (transforms.get?_new (by decide) (by decide)).trans (by decide)

/-- A dial that is as bright as its word allows cannot be turned up, so the run faults. -/
theorem brightest_light_not_turned_up :
    ∃ instruction, readInstruction "turn on 0,0 through 0,0".toList = .ok instruction ∧
      [instruction].foldlM dim (Grid.new (Word.greatest 32)) = .error .overflow ∧
      ¬ ∃ after, [instruction].foldlM dim (Grid.new (Word.greatest 32)) = .ok after ∧
        after.get? 0 0 =
          some (brightnessAfter (Word.greatest 32) (actionsAt [instruction] 0 0)) := by
  have read : readInstruction "turn on 0,0 through 0,0".toList =
      .ok ⟨.turnOn, .between 0 0 0 0⟩ := by decide
  have leaves : ¬ (Grid.new (Word.greatest 32)).Fits [⟨.turnOn, .between 0 0 0 0⟩] := by
    intro fits
    have first := fits 0 0 _ (by decide) (Grid.get?_new (by decide) (by decide) _)
    exact absurd (first _ (List.prefix_refl _)) (by decide)
  have refused := (dim_transforms (List.forall_mem_singleton.mpr (inGrid_of_readInstruction read))
    (Grid.dimmed_new _)).2 leaves
  refine ⟨_, read, refused, ?_⟩
  rintro ⟨after, run, _⟩
  cases run.symm.trans refused

end Advent.Lights
