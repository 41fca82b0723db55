import Advent.Proofs.Puzzle.Coins
import Mathlib.Order.Bounds.Basic

/-!
# The lowest coins

The coins for a key are the numbers from one to below the limit whose digest, written in hexadecimal,
starts with so many zeroes. Each part answers the lowest coin with its count of zeroes, whatever was
asked before, and fails if and only if there is no coin. The test on bytes and half bytes comes to
the same as the first digits, for every digest and every count, also one past the end.
-/
namespace Advent.Coins

/-! ### Hexadecimal digits -/

/-- The lower case hexadecimal form, two digits for each byte. -/
def hexForm (digest : List UInt8) : List Char :=
  digest.flatMap fun byte => [Nat.digitChar (byte.toNat / 16), Nat.digitChar (byte.toNat % 16)]

theorem hexForm_cons (byte : UInt8) (rest : List UInt8) :
    hexForm (byte :: rest) =
      Nat.digitChar (byte.toNat / 16) :: Nat.digitChar (byte.toNat % 16) :: hexForm rest :=
  rfl

theorem zero_eq_digitChar_iff (digit : Nat) : '0' = Nat.digitChar digit ↔ digit = 0 :=
  eq_comm.trans Nat.digitChar_eq_zero

/-- Both digits of a byte are zero if and only if the byte is. -/
theorem digits_zero_iff (byte : UInt8) :
    '0' = Nat.digitChar (byte.toNat / 16) ∧ '0' = Nat.digitChar (byte.toNat % 16) ↔ byte = 0 := by
  rw [zero_eq_digitChar_iff, zero_eq_digitChar_iff, ← UInt8.toNat_inj, UInt8.toNat_zero]
  omega

theorem hasLeadingZeroes_iff (digest : List UInt8) (zeroes : Nat) :
    hasLeadingZeroes digest zeroes = true ↔ List.replicate zeroes '0' <+: hexForm digest := by
  fun_induction hasLeadingZeroes digest zeroes with
  | case1 digest => simp
  | case2 zeroes positive =>
    obtain ⟨fewer, rfl⟩ := Nat.exists_eq_succ_of_ne_zero positive
    simp [hexForm, List.replicate_succ]
  | case3 byte rest =>
    have high : byte / 16 = 0 ↔ byte.toNat / 16 = 0 := by
      rw [← UInt8.toNat_inj, UInt8.toNat_div]
      rfl
    rw [decide_eq_true_iff, high, hexForm_cons, List.replicate_one, List.cons_prefix_cons,
      zero_eq_digitChar_iff]
    exact (and_iff_left List.nil_prefix).symm
  | case4 byte rest zeroes ih =>
    rw [Bool.and_eq_true, decide_eq_true_iff, ih, hexForm_cons, List.replicate_succ,
      List.replicate_succ, List.cons_prefix_cons, List.cons_prefix_cons, ← and_assoc,
      digits_zero_iff]

/-! ### Coins below the limit -/

section Search

variable (hash : List UInt8 → List UInt8)

/-- The coins for a key: the digest is taken of the key followed by the number in decimal. -/
def coins (key : List Char) (zeroes : Nat) : Set Nat :=
  {number | 1 ≤ number ∧ number < 100000000 ∧
    List.replicate zeroes '0' <+: hexForm (hash (Text.bytes (key ++ Nat.toDigits 10 number)))}

theorem mem_coins_iff (key : List Char) (zeroes number : Nat) :
    number ∈ coins hash key zeroes ↔
      1 ≤ number ∧ number < searchLimit ∧ IsCoin hash (Text.bytes key) zeroes number := by
  rw [IsCoin, candidate, ← Text.bytes_append, hasLeadingZeroes_iff]
  rfl

/-- Whoever has six zeroes has five. -/
theorem coins_succ_subset (key : List Char) (zeroes : Nat) :
    coins hash key (zeroes + 1) ⊆ coins hash key zeroes := by
  intro number coin
  rw [mem_coins_iff] at coin ⊢
  exact ⟨coin.1, coin.2.1, hasLeadingZeroes_of_succ _ zeroes coin.2.2⟩

variable {hash}

theorem not_isCoin_of_search_eq_none {key : List UInt8} {zeroes start count : Nat}
    (missed : search hash key zeroes start count = none) {number : Nat} (above : start ≤ number)
    (below : number < start + count) : ¬ IsCoin hash key zeroes number := by
  induction count generalizing start with
  | zero => omega
  | succ count ih =>
    unfold search at missed
    split at missed
    · cases missed
    next blank =>
      rcases Nat.eq_or_lt_of_le above with rfl | later
      · exact blank
      · exact ih missed later (by omega)

variable (hash)

/-- Mining from one on gives the lowest coin, or an error if there is none. -/
theorem mine_cases (key : List Char) (zeroes : Nat) :
    (∃ number record, mine hash key zeroes 1 = .ok (number, record) ∧
        IsLeast (coins hash key zeroes) number) ∨
      mine hash key zeroes 1 = .error ⟨zeroes⟩ ∧ coins hash key zeroes = ∅ := by
  have all_tried : 1 + (searchLimit - 1) = searchLimit := by decide
  unfold mine
  cases tried : search hash (Text.bytes key) zeroes 1 (searchLimit - 1) with
  | some number =>
    obtain ⟨above, below, coin, lowest⟩ := search_eq_some hash tried
    rw [all_tried] at below
    refine Or.inl ⟨number, _, rfl, (mem_coins_iff ..).mpr ⟨above, below, coin⟩, ?_⟩
    intro other found
    obtain ⟨positive, _, also⟩ := (mem_coins_iff ..).mp found
    exact Nat.le_of_not_lt fun lower => lowest other positive lower also
  | none =>
    refine Or.inr ⟨rfl, Set.eq_empty_iff_forall_notMem.mpr fun number found => ?_⟩
    obtain ⟨positive, below, coin⟩ := (mem_coins_iff ..).mp found
    exact not_isCoin_of_search_eq_none tried positive (all_tried.symm ▸ below) coin

/-! ### Answers -/

/-- The answer is the lowest coin in decimal, and a failure if and only if there is no coin. -/
def AnswersLowest (coins : Set Nat) (answer : Except SolveError String) : Prop :=
  (∀ text, answer = .ok text ↔ ∃ number, IsLeast coins number ∧ text = toString number) ∧
    ((∃ reason, answer = .error (.failed reason)) ↔ coins = ∅)

theorem answersLowest_of_isLeast {coins : Set Nat} {number : Nat} (least : IsLeast coins number) :
    AnswersLowest coins (.ok (toString number)) := by
  refine ⟨fun text => ⟨fun same => ⟨number, least, (Except.ok.inj same).symm⟩, ?_⟩, ?_⟩
  · rintro ⟨other, least', rfl⟩
    rw [least.unique least']
  · refine ⟨fun ⟨_, failed⟩ => (by cases failed), fun none => ?_⟩
    exact absurd (none ▸ least.1) (Set.notMem_empty number)

theorem answersLowest_of_empty {coins : Set Nat} (none : coins = ∅) (reason : String) :
    AnswersLowest coins (.error (.failed reason)) := by
  refine ⟨fun text => ⟨fun same => (by cases same), ?_⟩, fun _ => none, fun _ => ⟨reason, rfl⟩⟩
  rintro ⟨number, least, _⟩
  exact absurd (none ▸ least.1) (Set.notMem_empty number)

theorem answersLowest_answerFor_one (key : List Char) :
    AnswersLowest (coins hash key 5) (answerFor hash key 1) := by
  unfold answerFor
  rcases mine_cases hash key 5 with ⟨number, record, mined, least⟩ | ⟨failed, none⟩
  · simp only [mined, if_true]
    exact answersLowest_of_isLeast least
  · simp only [failed]
    exact answersLowest_of_empty none _

/-- The second part fails with the first only where no coin has six zeroes either. -/
theorem answersLowest_answerFor_two (key : List Char) :
    AnswersLowest (coins hash key 6) (answerFor hash key 2) := by
  unfold answerFor
  rcases mine_cases hash key 5 with ⟨five, record, mined, _⟩ | ⟨failed, none⟩
  · rcases mine_cases hash key 6 with ⟨six, record', mined', least⟩ | ⟨failed', none⟩
    · simp only [mined, mined']
      exact answersLowest_of_isLeast least
    · simp only [mined, failed']
      exact answersLowest_of_empty none _
  · simp only [failed]
    exact answersLowest_of_empty (Set.subset_empty_iff.mp (none ▸ coins_succ_subset hash key 5)) _

end Search

/-- For any digest and any key that is not blank, after any calls, the first part answers the lowest
coin with five zeroes and the second the lowest with six, and each fails if and only if there is
none. -/
theorem lowest_coins_mined (hash : List UInt8 → List UInt8) (input : String)
    (filled : Text.trim input.toList ≠ []) :
    (∀ digest zeroes, hasLeadingZeroes digest zeroes = true ↔
        List.replicate zeroes '0' <+: hexForm digest) ∧
      ∃ prospect, parse input = .ok prospect ∧ ∀ calls,
        let answer part := ((solverWith hash).solveChecked
          ((solverWith hash).stateAfter prospect calls) part).answer
        AnswersLowest (coins hash (Text.trim input.toList) 5) (answer 1) ∧
          AnswersLowest (coins hash (Text.trim input.toList) 6) (answer 2) := by
  refine ⟨hasLeadingZeroes_iff, ⟨Text.trim input.toList, none⟩, ?_, fun calls => ?_⟩
  · simp [parse, filled]
  · have read : parse input = .ok ⟨Text.trim input.toList, none⟩ := by simp [parse, filled]
    have fresh := parse_remembers hash read
    have later := ((solverWith_keeps hash).stateAfter (And.intro fresh fresh) calls).2
    have answer_eq (part : Nat) (within : 1 ≤ part ∧ part ≤ 2) :=
      (congrArg Step.answer (Dispatch.solveChecked_of_within parse (solvePart hash) _ within)).trans
        (later.answer_eq part)
    intro answer
    rw [show answer 1 = _ from answer_eq 1 (by decide),
      show answer 2 = _ from answer_eq 2 (by decide)]
    exact ⟨answersLowest_answerFor_one hash _, answersLowest_answerFor_two hash _⟩

/-- A digest with five zeroes for 3 and with all zeroes for 7, asked for the second part first. -/
theorem lowest_coins_three_and_seven :
    let hash (message : List UInt8) : List UInt8 :=
      if message.getLast? = some 0x37 then List.replicate 16 0
      else if message.getLast? = some 0x33 then [0, 0, 8] ++ List.replicate 13 255
      else List.replicate 16 255
    Text.trim " key\n".toList ≠ [] ∧ ∃ prospect, parse " key\n" = .ok prospect ∧
      ((solverWith hash).solveChecked prospect 2).answer = .ok "7" ∧
      ((solverWith hash).solveChecked ((solverWith hash).stateAfter prospect [2]) 1).answer =
        .ok "3" := by
  intro hash
  have filled : Text.trim " key\n".toList ≠ [] := by decide
  have coin (zeroes number : Nat) (positive : 1 ≤ number) (below : number < 100000000)
      (opens : List.replicate zeroes '0' <+:
        hexForm (hash (Text.bytes ("key".toList ++ Nat.toDigits 10 number))))
      (lowest : ∀ other ∈ List.range' 1 (number - 1), ¬ List.replicate zeroes '0' <+:
        hexForm (hash (Text.bytes ("key".toList ++ Nat.toDigits 10 other)))) :
      IsLeast (coins hash "key".toList zeroes) number := by
    refine ⟨⟨positive, below, opens⟩, fun other found => Nat.le_of_not_lt fun before => ?_⟩
    exact lowest other (List.mem_range'_1.mpr ⟨found.1, by omega⟩) found.2.2
  obtain ⟨_, prospect, read, answers⟩ := lowest_coins_mined hash " key\n" filled
  have three := coin 5 3 (by decide) (by decide) (by decide) (by decide)
  have seven := coin 6 7 (by decide) (by decide) (by decide) (by decide)
  exact ⟨filled, prospect, read, ((answers []).2.1 "7").mpr ⟨7, seven, rfl⟩,
    ((answers [2]).1.1 "3").mpr ⟨3, three, rfl⟩⟩

end Advent.Coins
