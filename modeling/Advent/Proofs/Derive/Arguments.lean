import Advent.Derive.Expansion
import Mathlib.Data.List.Basic
import Mathlib.Data.List.Induction

/-!
# What a list of arguments says

A list of arguments is read turn by turn, and a turn takes one argument off the tokens. So a list is
accepted if and only if its tokens are arguments with a comma between them and perhaps after the
last, and it gives what the arguments make of the start, from the first to the last: the last value
for a key, and all tags in order.
-/
namespace Advent.Derive

theorem bind_eq_ok_iff {ε α β : Type} {first : Except ε α} {next : α → Except ε β} {value : β} :
    first >>= next = .ok value ↔ ∃ found, first = .ok found ∧ next found = .ok value := by
  cases first with
  | error cause => simp [bind, Except.bind]
  | ok found => simp [bind, Except.bind]

theorem map_eq_ok_iff {ε α β : Type} {first : Except ε α} {apply : α → β} {value : β} :
    first.map apply = .ok value ↔ ∃ found, first = .ok found ∧ apply found = value := by
  cases first with
  | error cause => simp [Except.map]
  | ok found => simp [Except.map]

theorem eq_ok_of_toOption {ε α : Type} {read : Except ε α} {value : α}
    (found : read.toOption = some value) : read = .ok value := by
  cases read with
  | error cause => cases found
  | ok other => exact congrArg _ (Option.some.inj found)

/-! ### Reading turn by turn -/

/-- The tokens are the arguments, with a comma between them and perhaps after the last. -/
inductive Lists {α : Type} (Written : α → List Token → Prop) : List α → List Token → Prop
  | nil : Lists Written [] []
  | last {argument : α} {tokens : List Token} (written : Written argument tokens) :
      Lists Written [argument] tokens
  | cons {argument : α} {arguments : List α} {tokens rest : List Token} {isJoint : Bool}
      (written : Written argument tokens) (others : Lists Written arguments rest) :
      Lists Written (argument :: arguments) (tokens ++ .punct ',' isJoint :: rest)

theorem Lists.of_mem {α : Type} {Written : α → List Token → Prop} {arguments : List α}
    {tokens : List Token} (lists : Lists Written arguments tokens) :
    ∀ argument ∈ arguments, ∃ part, Written argument part := by
  induction lists with
  | nil => simp
  | last written => simpa using ⟨_, written⟩
  | cons written _ ih => exact List.forall_mem_cons.mpr ⟨⟨_, written⟩, ih⟩

section Turns

variable {σ α : Type}
  {take : σ → Option String → List Token → Except DeriveError (σ × List Token)}
  {Written : α → List Token → Prop} {give : σ → α → σ}

/-- Every turn takes one argument off the tokens. -/
structure TakesEach
    (take : σ → Option String → List Token → Except DeriveError (σ × List Token))
    (Written : α → List Token → Prop) (give : σ → α → σ) : Prop where
  filled : ∀ argument tokens, Written argument tokens → tokens ≠ []
  turn_iff : ∀ state tokens next rest,
    (∃ key behind, takeKey tokens = .ok (key, behind) ∧
      take state key behind = .ok (next, rest)) ↔
    ∃ argument written, Written argument written ∧ tokens = written ++ rest ∧
      give state argument = next

theorem readArguments_nil (turns : Nat) (state : σ) :
    readArguments take turns state [] = .ok state := by
  cases turns <;> rfl

/-- After its first turn a list ends or goes on behind a comma. -/
theorem readArguments_turn_iff {turns : Nat} {start final : σ} {tokens : List Token}
    (filled : tokens ≠ []) :
    readArguments take (turns + 1) start tokens = .ok final ↔
      ∃ next left, (∃ key behind, takeKey tokens = .ok (key, behind) ∧
        take start key behind = .ok (next, left)) ∧
        (left = [] ∧ next = final ∨ ∃ isJoint rest, left = .punct ',' isJoint :: rest ∧
          readArguments take turns next rest = .ok final) := by
  obtain ⟨first, others, rfl⟩ := List.exists_cons_of_ne_nil filled
  rw [readArguments, bind_eq_ok_iff]
  · simp only [Prod.exists, bind_eq_ok_iff]
    constructor
    · rintro ⟨key, behind, key_read, next, left, taken, later⟩
      refine ⟨next, left, ⟨key, behind, key_read, taken⟩, ?_⟩
      split at later
      next state ended =>
        cases ended
        exact Or.inl ⟨rfl, Except.ok.inj later⟩
      next state isJoint rest goes_on =>
        cases goes_on
        exact Or.inr ⟨isJoint, rest, rfl, later⟩
      next => cases later
    · rintro ⟨next, left, ⟨key, behind, key_read, taken⟩, ⟨rfl, rfl⟩ | ⟨_, rest, rfl, later⟩⟩
      · exact ⟨key, behind, key_read, next, [], taken, rfl⟩
      · exact ⟨key, behind, key_read, next, _, taken, later⟩
  · simp

theorem TakesEach.lists_nil_iff (each : TakesEach take Written give) (arguments : List α) :
    Lists Written arguments [] ↔ arguments = [] := by
  constructor
  · intro lists
    -- The tokens become a variable, or the cases could not be told apart.
    generalize ended : ([] : List Token) = tokens at lists
    cases lists with
    | nil => rfl
    | last written => exact absurd ended.symm (each.filled _ _ written)
    | cons => simp at ended
  · rintro rfl
    exact .nil

/-- A list is accepted if and only if it says arguments, and they are given one after the other. -/
theorem TakesEach.readArguments_eq_ok_iff (each : TakesEach take Written give) {turns : Nat}
    {tokens : List Token} (enough : tokens.length ≤ turns) (start final : σ) :
    readArguments take turns start tokens = .ok final ↔
      ∃ arguments, Lists Written arguments tokens ∧ arguments.foldl give start = final := by
  -- A turn takes a token at least, so there are always turns enough for the tokens that are left.
  induction turns generalizing start tokens with
  | zero =>
    obtain rfl := List.eq_nil_of_length_eq_zero (Nat.le_zero.mp enough)
    simp [readArguments_nil, each.lists_nil_iff]
  | succ turns ih =>
    by_cases filled : tokens ≠ []
    · rw [readArguments_turn_iff filled]
      constructor
      · rintro ⟨next, left, taken, ended⟩
        obtain ⟨argument, written, first, rfl, rfl⟩ := (each.turn_iff ..).mp taken
        rcases ended with ⟨rfl, rfl⟩ | ⟨isJoint, rest, rfl, later⟩
        · exact ⟨[argument], (List.append_nil written).symm ▸ .last first, rfl⟩
        · rw [List.length_append, List.length_cons] at enough
          obtain ⟨others, lists, rfl⟩ := (ih (by omega) _).mp later
          exact ⟨argument :: others, .cons first lists, rfl⟩
      · rintro ⟨arguments, lists, rfl⟩
        cases lists with
        | nil => exact absurd rfl filled
        | last first =>
          have alone := (List.append_nil tokens).symm
          exact ⟨_, [], (each.turn_iff ..).mpr ⟨_, _, first, alone, rfl⟩, Or.inl ⟨rfl, rfl⟩⟩
        | cons first others =>
          rw [List.length_append, List.length_cons] at enough
          refine ⟨_, _, (each.turn_iff ..).mpr ⟨_, _, first, rfl, rfl⟩, Or.inr ⟨_, _, rfl, ?_⟩⟩
          exact (ih (by omega) _).mpr ⟨_, others, rfl⟩
    · obtain rfl := not_not.mp filled
      simp [readArguments_nil, each.lists_nil_iff]

end Turns

/-! ### Keys and values -/

/-- A key, an equals sign and a whole number, with or without a suffix. -/
inductive AssignsNumber (key : String) (number : Nat) : List Token → Prop
  | intro (isJoint hasSuffix : Bool) (text : String) : AssignsNumber key number
      [.ident key, .punct '=' isJoint, .literal (.integer number hasSuffix) text]

/-- A key, an equals sign and tokens in brackets. -/
inductive AssignsGroup (key : String) (body : List Token) : List Token → Prop
  | intro (isJoint : Bool) :
      AssignsGroup key body [.ident key, .punct '=' isJoint, .group .bracket body]

theorem eq_of_skipSegments {tokens rest : List Token}
    (short : skipSegments tokens = .ok (false, rest)) : rest = tokens := by
  unfold skipSegments at short
  split at short
  · obtain ⟨_, _, longer⟩ := map_eq_ok_iff.mp short
    cases longer
  · cases short
  · cases short
    rfl

/-- A name that an equals sign follows is a key, whatever comes next. -/
theorem takeKey_takeEquals_iff {key : String} {tokens value : List Token} :
    (∃ behind, takeKey tokens = .ok (some key, behind) ∧ takeEquals behind = .ok value) ↔
      ∃ isJoint, tokens = .ident key :: .punct '=' isJoint :: value := by
  constructor
  · rintro ⟨behind, key_read, equals⟩
    have after : ∃ isJoint, behind = .punct '=' isJoint :: value := by
      unfold takeEquals at equals
      split at equals
      · cases equals
        exact ⟨_, rfl⟩
      · cases equals
    obtain ⟨isJoint, rfl⟩ := after
    refine ⟨isJoint, ?_⟩
    simp only [takeKey] at key_read
    split at key_read
    next name rest found =>
      obtain ⟨⟨isLonger, left⟩, skipped, same⟩ := map_eq_ok_iff.mp key_read
      -- A key with a name has one segment, and no colons before it.
      simp only [Prod.mk.injEq, ite_eq_iff, reduceCtorEq, and_false, false_or, Option.some.injEq,
        Bool.not_eq_true, Bool.or_eq_false_iff] at same
      obtain ⟨⟨⟨unopened, rfl⟩, rfl⟩, rfl⟩ := same
      rw [eq_of_skipSegments skipped]
      split at found
      · cases unopened
      · exact found
    · cases key_read
    · cases key_read
  · rintro ⟨isJoint, rfl⟩
    exact ⟨_, rfl, rfl⟩

theorem takeValue_integer_iff {tokens rest : List Token} {number : Nat} :
    takeValue tokens = .ok (.integer false number, rest) ↔
      ∃ hasSuffix text, tokens = .literal (.integer number hasSuffix) text :: rest := by
  constructor
  · intro read
    unfold takeValue at read
    split at read
    next value hasSuffix text rest' =>
      simp only [Except.ok.injEq, Prod.mk.injEq, Value.integer.injEq, true_and] at read
      obtain ⟨rfl, rfl⟩ := read
      exact ⟨hasSuffix, text, rfl⟩
    · cases read
    · cases read
    · cases read
    · split at read <;> cases read
    · cases read
  · rintro ⟨hasSuffix, text, rfl⟩
    rfl

theorem numberOf_eq_ok_iff {key : String} {highest number : Nat} {value : Value} :
    numberOf key highest value = .ok number ↔ value = .integer false number ∧ number ≤ highest := by
  unfold numberOf
  split
  · simp
  · split
    next within =>
      simp only [Except.ok.injEq, Value.integer.injEq, true_and, iff_self_and]
      rintro rfl
      exact within
    next above =>
      simp only [reduceCtorEq, Value.integer.injEq, true_and, false_iff, not_and]
      rintro rfl
      exact above
  · simp

/-- What a key and a number take off the tokens. -/
theorem takeKey_takeNumber_iff {key : String} {highest number : Nat} {tokens rest : List Token} :
    (∃ behind, takeKey tokens = .ok (some key, behind) ∧
      takeNumber key highest behind = .ok (number, rest)) ↔
    ∃ written, AssignsNumber key number written ∧ number ≤ highest ∧ tokens = written ++ rest := by
  constructor
  · rintro ⟨behind, key_read, read⟩
    obtain ⟨after, equals, read⟩ := bind_eq_ok_iff.mp read
    obtain ⟨⟨value, left⟩, value_read, read⟩ := bind_eq_ok_iff.mp read
    obtain ⟨found, number_read, same⟩ := bind_eq_ok_iff.mp read
    cases same
    obtain ⟨rfl, within⟩ := numberOf_eq_ok_iff.mp number_read
    obtain ⟨hasSuffix, text, rfl⟩ := takeValue_integer_iff.mp value_read
    obtain ⟨isJoint, rfl⟩ := takeKey_takeEquals_iff.mp ⟨behind, key_read, equals⟩
    exact ⟨_, .intro isJoint hasSuffix text, within, rfl⟩
  · rintro ⟨_, ⟨isJoint, hasSuffix, text⟩, within, rfl⟩
    refine ⟨_, rfl, bind_eq_ok_iff.mpr ⟨_, rfl, bind_eq_ok_iff.mpr ⟨_, rfl, ?_⟩⟩⟩
    exact bind_eq_ok_iff.mpr ⟨number, numberOf_eq_ok_iff.mpr ⟨rfl, within⟩, rfl⟩

/-- What a key and tags take off the tokens. -/
theorem takeKey_takeTags_iff {key : String} {literals : List String} {tokens rest : List Token} :
    (∃ behind, takeKey tokens = .ok (some key, behind) ∧ takeTags behind = .ok (literals, rest)) ↔
    ∃ body written, AssignsGroup key body written ∧ readTags body = .ok literals ∧
      tokens = written ++ rest := by
  constructor
  · rintro ⟨behind, key_read, read⟩
    obtain ⟨after, equals, read⟩ := bind_eq_ok_iff.mp read
    obtain ⟨isJoint, rfl⟩ := takeKey_takeEquals_iff.mp ⟨behind, key_read, equals⟩
    split at read
    next body left =>
      obtain ⟨found, tags_read, same⟩ := bind_eq_ok_iff.mp read
      cases same
      exact ⟨body, _, .intro isJoint, tags_read, rfl⟩
    · cases read
  · rintro ⟨body, _, ⟨isJoint⟩, tags_read, rfl⟩
    refine ⟨_, rfl, bind_eq_ok_iff.mpr ⟨_, rfl, ?_⟩⟩
    exact bind_eq_ok_iff.mpr ⟨literals, tags_read, rfl⟩

/-! ### Counts of parts -/

/-- A count of parts as an argument. -/
def CountWritten (count : Nat) (tokens : List Token) : Prop :=
  AssignsNumber "max_parts" count tokens ∧ count ≤ partLimit

theorem takeParts_takesEach : TakesEach takeParts CountWritten fun _ count => some count where
  filled := by
    rintro _ _ ⟨⟨⟩, _⟩
    simp
  turn_iff state tokens next rest := by
    have taken_iff {key : Option String} {behind : List Token} :
        takeParts state key behind = .ok (next, rest) ↔ key = some "max_parts" ∧
          ∃ count, takeNumber "max_parts" partLimit behind = .ok (count, rest) ∧
            some count = next := by
      unfold takeParts
      split
      next named => simp [named, map_eq_ok_iff]
      next unnamed => simp [unnamed]
    simp only [taken_iff]
    constructor
    · rintro ⟨_, behind, key_read, rfl, count, read, rfl⟩
      obtain ⟨written, assigns, within, rfl⟩ := takeKey_takeNumber_iff.mp ⟨behind, key_read, read⟩
      exact ⟨count, written, ⟨assigns, within⟩, rfl, rfl⟩
    · rintro ⟨count, written, ⟨assigns, within⟩, rfl, rfl⟩
      obtain ⟨behind, key_read, read⟩ := takeKey_takeNumber_iff.mpr ⟨written, assigns, within, rfl⟩
      exact ⟨_, behind, key_read, rfl, count, read, rfl⟩

theorem foldl_last {α : Type} (values : List α) :
    values.foldl (fun _ value => some value) none = values.getLast? := by
  rcases List.eq_nil_or_concat' values with rfl | ⟨others, last, rfl⟩
  · rfl
  · simp

/-- The dispatch has as many parts as the last count says, and at least one. -/
theorem dispatchOfArguments_eq_ok_iff {tokens : List Token} {dispatch : Dispatch} :
    dispatchOfArguments tokens = .ok dispatch ↔
      ∃ counts parts, Lists CountWritten counts tokens ∧ counts.getLast? = some parts ∧
        1 ≤ parts ∧ dispatch = .upTo parts := by
  have read_iff (last : Option Nat) :
      readArguments takeParts tokens.length none tokens = .ok last ↔
        ∃ counts, Lists CountWritten counts tokens ∧ counts.getLast? = last := by
    rw [takeParts_takesEach.readArguments_eq_ok_iff (Nat.le_refl _)]
    simp only [foldl_last]
  unfold dispatchOfArguments
  rw [bind_eq_ok_iff]
  simp only [read_iff]
  constructor
  · rintro ⟨_, ⟨counts, lists, rfl⟩, made⟩
    -- No count at all is refused, and so is a last count of zero.
    split at made
    · cases made
    · cases made
    next parts some_part last =>
      cases made
      exact ⟨counts, parts, lists, last, Nat.pos_of_ne_zero some_part, rfl⟩
  · rintro ⟨counts, parts, lists, last, positive, rfl⟩
    refine ⟨some parts, ⟨counts, lists, last⟩, ?_⟩
    obtain ⟨fewer, rfl⟩ := Nat.exists_eq_add_of_le' positive
    rfl

/-! ### Registrations -/

/-- An argument of a registration with its value. -/
inductive Argument
  | year (number : Nat)
  | day (number : Nat)
  | tags (literals : List String)

namespace Argument

/-- Years are bound by their word, and days by the calendar. -/
inductive Written : Argument → List Token → Prop
  | year {number : Nat} {tokens : List Token} (assigns : AssignsNumber "year" number tokens)
      (within : number ≤ yearLimit) : Written (.year number) tokens
  | day {number : Nat} {tokens : List Token} (assigns : AssignsNumber "day" number tokens)
      (within : 1 ≤ number ∧ number ≤ 25) : Written (.day number) tokens
  | tags {literals : List String} {body tokens : List Token}
      (assigns : AssignsGroup "tags" body tokens) (read : readTags body = .ok literals) :
      Written (.tags literals) tokens

def year? : Argument → Option Nat
  | .year number => some number
  | _ => none

def day? : Argument → Option Nat
  | .day number => some number
  | _ => none

def literals : Argument → List String
  | .tags literals => literals
  | _ => []

end Argument

namespace PartialRegistration

def give (given : PartialRegistration) : Argument → PartialRegistration
  | .year year => { given with year := some year }
  | .day day => { given with day := some day }
  | .tags literals => { given with tags := given.tags ++ literals }

/-- The last year, the last day and all tags are given. -/
theorem foldl_give (arguments : List Argument) :
    arguments.foldl give {} = {
      year := (arguments.filterMap Argument.year?).getLast?
      day := (arguments.filterMap Argument.day?).getLast?
      tags := arguments.flatMap Argument.literals } := by
  induction arguments using List.reverseRecOn with
  | nil => rfl
  | append_singleton others last ih =>
    rw [List.foldl_concat, ih]
    cases last <;> simp [give, Argument.year?, Argument.day?, Argument.literals]

end PartialRegistration

theorem takeRegistration_takesEach :
    TakesEach takeRegistration Argument.Written PartialRegistration.give where
  filled := by
    rintro _ _ (⟨⟨⟩, _⟩ | ⟨⟨⟩, _⟩ | ⟨⟨⟩, _⟩) <;> simp
  turn_iff state tokens next rest := by
    constructor
    · rintro ⟨key, behind, key_read, taken⟩
      unfold takeRegistration at taken
      -- There is one kind of argument for each key, and any other key is refused.
      split at taken
      · obtain ⟨⟨year, left⟩, read, same⟩ := bind_eq_ok_iff.mp taken
        cases same
        obtain ⟨written, assigns, within, rfl⟩ := takeKey_takeNumber_iff.mp ⟨behind, key_read, read⟩
        exact ⟨.year year, written, .year assigns within, rfl, rfl⟩
      · obtain ⟨⟨day, left⟩, read, same⟩ := bind_eq_ok_iff.mp taken
        simp only at same
        split at same
        next within =>
          cases same
          obtain ⟨written, assigns, _, rfl⟩ := takeKey_takeNumber_iff.mp ⟨behind, key_read, read⟩
          exact ⟨.day day, written, .day assigns within, rfl, rfl⟩
        · cases same
      · obtain ⟨⟨literals, left⟩, read, same⟩ := bind_eq_ok_iff.mp taken
        cases same
        obtain ⟨body, written, assigns, read, rfl⟩ :=
          takeKey_takeTags_iff.mp ⟨behind, key_read, read⟩
        exact ⟨.tags literals, written, .tags assigns read, rfl, rfl⟩
      · cases taken
    · rintro ⟨argument, written, argument_written, rfl, rfl⟩
      cases argument_written with
      | year assigns within =>
        obtain ⟨behind, key_read, read⟩ :=
          takeKey_takeNumber_iff.mpr ⟨written, assigns, within, rfl⟩
        exact ⟨_, behind, key_read, bind_eq_ok_iff.mpr ⟨_, read, rfl⟩⟩
      | day assigns within =>
        have narrow := Nat.le_trans within.2 (show 25 ≤ dayLimit by decide)
        obtain ⟨behind, key_read, read⟩ :=
          takeKey_takeNumber_iff.mpr ⟨written, assigns, narrow, rfl⟩
        exact ⟨_, behind, key_read, bind_eq_ok_iff.mpr ⟨_, read, if_pos within⟩⟩
      | tags assigns tags_read =>
        obtain ⟨behind, key_read, read⟩ :=
          takeKey_takeTags_iff.mpr ⟨_, written, assigns, tags_read, rfl⟩
        exact ⟨_, behind, key_read, bind_eq_ok_iff.mpr ⟨_, read, rfl⟩⟩

/-- A registration has the last year, the last day and all tags of its arguments. -/
structure Registration.GivenBy (registration : Registration) (arguments : List Argument) :
    Prop where
  year : (arguments.filterMap Argument.year?).getLast? = some registration.year
  day : (arguments.filterMap Argument.day?).getLast? = some registration.day
  tags : registration.tags = arguments.flatMap Argument.literals

theorem registrationOfArguments_eq_ok_iff {tokens : List Token} {registration : Registration} :
    registrationOfArguments tokens = .ok registration ↔
      ∃ arguments, Lists Argument.Written arguments tokens ∧ registration.GivenBy arguments := by
  unfold registrationOfArguments
  rw [bind_eq_ok_iff]
  simp only [takeRegistration_takesEach.readArguments_eq_ok_iff (Nat.le_refl _),
    PartialRegistration.foldl_give]
  constructor
  · rintro ⟨_, ⟨arguments, lists, rfl⟩, made⟩
    split at made
    · cases made
    · cases made
    next year day year_last day_last =>
      cases made
      exact ⟨arguments, lists, year_last, day_last, rfl⟩
  · rintro ⟨arguments, lists, given⟩
    refine ⟨_, ⟨arguments, lists, rfl⟩, ?_⟩
    simp only [given.year, given.day, ← given.tags]
    rfl

end Advent.Derive
