import Advent.Proofs.Solver.Calls
import Advent.Puzzle.Coins

/-!
# Mining coins

A search gives the lowest coin in its range. Six leading zeroes are also five, so no coin with six
lies before the lowest with five and the second search may start there. What a prospect remembers is
the lowest coin with five zeroes for its key, however often and in whatever order it is asked.
-/
namespace Advent.Coins

/-! ### Leading zeroes -/

theorem hasLeadingZeroes_of_succ (digest : List UInt8) (zeroes : Nat)
    (more : hasLeadingZeroes digest (zeroes + 1) = true) :
    hasLeadingZeroes digest zeroes = true := by
  fun_induction hasLeadingZeroes digest zeroes with
  | case1 => rfl
  | case2 zeroes positive =>
    simp [hasLeadingZeroes] at more
  | case3 byte rest =>
    have zero : byte = 0 := by simpa [hasLeadingZeroes] using more
    simp [zero]
  | case4 byte rest zeroes ih =>
    simp only [hasLeadingZeroes, Bool.and_eq_true] at more ⊢
    exact ⟨more.1, ih more.2⟩

/-! ### Searching -/

section Search

variable (hash : List UInt8 → List UInt8)

/-- Whether a number is a coin. -/
def IsCoin (key : List UInt8) (zeroes number : Nat) : Prop :=
  hasLeadingZeroes (hash (candidate key number)) zeroes = true

theorem search_eq_some {key : List UInt8} {zeroes start count number : Nat}
    (found : search hash key zeroes start count = some number) :
    start ≤ number ∧ number < start + count ∧ IsCoin hash key zeroes number ∧
      ∀ other, start ≤ other → other < number → ¬ IsCoin hash key zeroes other := by
  induction count generalizing start with
  | zero => simp [search] at found
  | succ count ih =>
    unfold search at found
    split at found
    next coin =>
      cases found
      exact ⟨Nat.le_refl _, by omega, coin, fun other _ _ => by omega⟩
    next blank =>
      obtain ⟨above, below, coin, lowest⟩ := ih found
      refine ⟨by omega, by omega, coin, fun other later before => ?_⟩
      rcases Nat.eq_or_lt_of_le later with rfl | later
      · exact blank
      · exact lowest other later before

/-- Numbers that are no coins may be skipped. -/
theorem search_skip (key : List UInt8) (zeroes start skipped count : Nat)
    (none_before : ∀ number, start ≤ number → number < start + skipped →
      ¬ IsCoin hash key zeroes number) :
    search hash key zeroes start (skipped + count) =
      search hash key zeroes (start + skipped) count := by
  induction skipped generalizing start with
  | zero => rw [Nat.zero_add, Nat.add_zero]
  | succ skipped ih =>
    have blank := none_before start (Nat.le_refl _) (by omega)
    have tail := ih (start + 1) fun number above below =>
      none_before number (by omega) (by omega)
    rw [Nat.succ_add, search]
    refine (if_neg blank).trans (tail.trans ?_)
    rw [Nat.succ_add_eq_add_succ]

/-- The lowest coin with six zeroes is found from the lowest with five on. -/
theorem mine_six_from_five {key : List Char} {number : Nat} {record : Log.Record}
    (mined : mine hash key 5 1 = .ok (number, record)) :
    mine hash key 6 number = mine hash key 6 1 := by
  unfold mine at mined
  split at mined
  next other found =>
    cases mined
    obtain ⟨above, below, _, lowest⟩ := search_eq_some hash found
    -- None before the first number with five zeroes has five, hence none of them has six.
    have skip := search_skip hash (Text.bytes key) 6 1 (number - 1) (searchLimit - number)
      fun earlier first before coin =>
        lowest earlier first (by omega) (hasLeadingZeroes_of_succ _ 5 coin)
    unfold mine
    rw [show searchLimit - 1 = number - 1 + (searchLimit - number) by omega, skip,
      show 1 + (number - 1) = number by omega]
  · cases mined

/-! ### What a prospect remembers -/

/-- The answer to a part without anything remembered. -/
def answerFor (key : List Char) (part : Nat) : Except SolveError String :=
  match mine hash key 5 1 with
  | .error error => .error (.failed error.message)
  | .ok (five, _) =>
    if part = 1 then .ok (toString five)
    else
      match mine hash key 6 1 with
      | .error error => .error (.failed error.message)
      | .ok (six, _) => .ok (toString six)

/-- The prospect is one for the key, and what it remembers is the first answer for it. -/
structure Remembers (key : List Char) (prospect : Prospect) : Prop where
  key_eq : prospect.key = key
  five : ∀ number, prospect.fiveZeroes = some number →
    ∃ record, mine hash key 5 1 = .ok (number, record)

variable {hash} {key : List Char} {prospect : Prospect}

/-- Mining five zeroes comes to the same whether or not the answer is remembered. -/
theorem Remembers.mineFive_cases (remembers : Remembers hash key prospect) :
    (∃ error, mine hash key 5 1 = .error error ∧ mineFive hash prospect = .error error) ∨
      ∃ number record next records, mine hash key 5 1 = .ok (number, record) ∧
        mineFive hash prospect = .ok (number, next, records) ∧ Remembers hash key next ∧
        next.fiveZeroes = some number := by
  obtain ⟨rfl, five⟩ := remembers
  unfold mineFive
  cases known : prospect.fiveZeroes with
  | some number =>
    obtain ⟨record, mined⟩ := five number known
    exact Or.inr ⟨number, record, prospect, [], mined, rfl, ⟨rfl, five⟩, known⟩
  | none =>
    cases mined : mine hash prospect.key 5 1 with
    | error error => exact Or.inl ⟨error, rfl, rfl⟩
    | ok coin =>
      refine Or.inr ⟨coin.1, coin.2, { prospect with fiveZeroes := some coin.1 }, [coin.2], rfl,
        rfl, ⟨rfl, fun number same => ?_⟩, rfl⟩
      cases same
      exact ⟨coin.2, mined⟩

theorem Remembers.answer_eq (remembers : Remembers hash key prospect) (part : Nat) :
    (solvePart hash part prospect).answer = answerFor hash key part := by
  unfold solvePart answerFor
  rcases remembers.mineFive_cases with
    ⟨error, mined, failed⟩ | ⟨number, record, next, records, mined, five, later, _⟩
  · rw [failed, mined]
    rfl
  · simp only [five, mined, later.key_eq, mine_six_from_five hash mined]
    split
    · rfl
    · cases mine hash key 6 1 <;> rfl

theorem Remembers.state_of_failed (remembers : Remembers hash key prospect) {error : MineError}
    (failed : mine hash key 5 1 = .error error) (part : Nat) :
    (solvePart hash part prospect).state = prospect := by
  unfold solvePart
  rcases remembers.mineFive_cases with ⟨_, _, refused⟩ | ⟨_, _, _, _, mined, _⟩
  · rw [refused]
    rfl
  · cases failed.symm.trans mined

/-- Every part remembers the coin with five zeroes if there is one, whether or not it has an
answer. -/
theorem Remembers.state_of_mined (remembers : Remembers hash key prospect) {number : Nat}
    {record : Log.Record} (mined : mine hash key 5 1 = .ok (number, record)) (part : Nat) :
    Remembers hash key (solvePart hash part prospect).state ∧
      (solvePart hash part prospect).state.fiveZeroes = some number := by
  unfold solvePart
  rcases remembers.mineFive_cases with ⟨_, failed, _⟩ | ⟨_, _, next, _, again, five, known⟩
  · cases mined.symm.trans failed
  · cases mined.symm.trans again
    simp only [five]
    split
    · exact known
    · cases mine hash next.key 6 number with
      | error error => exact known
      | ok coin => exact known

theorem memoises (key : List Char) :
    Dispatch.Memoises (solvePart hash) (Remembers hash key) Prospect.fiveZeroes
      fun number => ∃ record, mine hash key 5 1 = .ok (number, record) where
  unique := by
    rintro first second ⟨record, mined⟩ ⟨record', mined'⟩
    cases mined.symm.trans mined'
    rfl
  sound _ number remembers known := remembers.five number known
  step_cases prospect part remembers := by
    cases mined : mine hash key 5 1 with
    | error error => exact Or.inl (remembers.state_of_failed mined part)
    | ok coin =>
      obtain ⟨later, known⟩ := remembers.state_of_mined mined part
      exact Or.inr ⟨later, coin.1, ⟨coin.2, rfl⟩, known⟩

end Search

theorem parse_remembers (hash : List UInt8 → List UInt8) {input : String} {prospect : Prospect}
    (read : parse input = .ok prospect) : Remembers hash prospect.key prospect := by
  simp only [parse] at read
  split at read
  · cases read
  · cases read
    exact ⟨rfl, by simp⟩

theorem solverWith_keeps (hash : List UInt8 → List UInt8) :
    (solverWith hash).Keeps fun fresh state =>
      Remembers hash fresh.key fresh ∧ Remembers hash fresh.key state := by
  refine Dispatch.keeps_of_family parse ?_ ?_ ?_
  · intro input fresh read
    exact ⟨parse_remembers hash read, parse_remembers hash read⟩
  · intro fresh state part sound
    exact (sound.2.answer_eq part).trans (sound.1.answer_eq part).symm
  · intro fresh state part sound
    exact ⟨sound.1, (memoises fresh.key).step state part sound.2⟩

/-- What calls leave remembered is what a new prospect answers to part 1, and stays so; the search
for six zeroes that starts there skips no coin. -/
theorem remembered_coin {hash : List UInt8 → List UInt8} {input : String} {prospect : Prospect}
    (read : parse input = .ok prospect) {calls : List Nat} {number : Nat}
    (known : ((solverWith hash).stateAfter prospect calls).fiveZeroes = some number) :
    ((solverWith hash).solveChecked prospect 1).answer = .ok (toString number) ∧
      mine hash prospect.key 6 number = mine hash prospect.key 6 1 ∧
      ∀ more, ((solverWith hash).stateAfter prospect (calls ++ more)).fiveZeroes = some number := by
  have fresh := parse_remembers hash read
  have later := ((solverWith_keeps hash).stateAfter (And.intro fresh fresh) calls).2
  obtain ⟨record, mined⟩ := later.five number known
  refine ⟨?_, mine_six_from_five hash mined, fun more => ?_⟩
  · have called := Dispatch.solveChecked_of_within parse (solvePart hash) prospect
      (show 1 ≤ 1 ∧ 1 ≤ 2 by decide)
    refine (congrArg Step.answer called).trans ((fresh.answer_eq 1).trans ?_)
    simp only [answerFor, mined, if_true]
  · have both := (solverWith hash).stateAfter_append prospect calls more
    exact (congrArg Prospect.fiveZeroes both).trans
      ((memoises prospect.key).memory_stateAfter parse later known more)

end Advent.Coins
