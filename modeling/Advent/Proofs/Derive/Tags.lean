import Advent.Proofs.Derive.Ranges
import Mathlib.Data.List.Chain

/-!
# Tags and their commas

The tags of an item are string literals in brackets. A comma is taken after a literal where one
stands, but none is asked for. So the brackets are read if and only if they hold literals and
commas, with no comma at first and none right after another. The lists with a comma between the
literals are the part of these in which no literal stands right after another.
-/
namespace Advent.Derive

/-! ### Literals and commas -/

def Token.stringText? : Token → Option String
  | .literal .string text => some text
  | _ => none

def Token.isString (token : Token) : Bool :=
  token.stringText?.isSome

def Token.isComma : Token → Bool
  | .punct mark _ => mark = ','
  | _ => false

/-- The string literals among the tokens, as they are written. -/
def stringTexts (tokens : List Token) : List String :=
  tokens.filterMap Token.stringText?

/-- String literals and commas, with no comma at first and none right after another. -/
structure TagTokens (body : List Token) : Prop where
  only : ∀ token ∈ body, token.isString ∨ token.isComma
  first : ∀ token ∈ body.head?, ¬ token.isComma
  apart : body.IsChain fun token next => ¬ (token.isComma ∧ next.isComma)

/-- No string literal stands right after another. -/
def LiteralsApart (body : List Token) : Prop :=
  body.IsChain fun token next => ¬ (token.isString ∧ next.isString)

/-- A string literal by itself. -/
inductive StringWritten (text : String) : List Token → Prop
  | intro : StringWritten text [.literal .string text]

theorem Token.isString_iff {token : Token} :
    token.isString ↔ ∃ text, token = .literal .string text := by
  unfold isString stringText?
  split <;> simp_all

theorem Token.isComma_iff {token : Token} :
    token.isComma ↔ ∃ isJoint, token = .punct ',' isJoint := by
  cases token <;> simp [isComma]

section Brackets

variable {text : String} {isJoint : Bool} {rest body : List Token}

theorem tagTokens_literal_comma_iff :
    TagTokens (.literal .string text :: .punct ',' isJoint :: rest) ↔ TagTokens rest := by
  constructor
  · intro written
    obtain ⟨next, others⟩ := List.isChain_cons.mp (List.isChain_cons_cons.mp written.apart).2
    exact ⟨fun token member => written.only token (by simp [member]),
      fun token head comma => next token head ⟨rfl, comma⟩, others⟩
  · intro written
    constructor
    · simpa [Token.isString, Token.stringText?, Token.isComma] using written.only
    · simp [Token.isComma]
    · rw [List.isChain_cons_cons, List.isChain_cons]
      exact ⟨by simp [Token.isComma], fun token head both => written.first token head both.2,
        written.apart⟩

/-- A literal that no comma follows changes nothing for what follows it. -/
theorem tagTokens_literal_iff (bare : ∀ token ∈ rest.head?, ¬ token.isComma) :
    TagTokens (.literal .string text :: rest) ↔ TagTokens rest := by
  constructor
  · intro written
    exact ⟨fun token member => written.only token (List.mem_cons_of_mem _ member), bare,
      written.apart.tail⟩
  · intro written
    constructor
    · simpa [Token.isString, Token.stringText?] using written.only
    · simp [Token.isComma]
    · rw [List.isChain_cons]
      exact ⟨by simp [Token.isComma], written.apart⟩

theorem tagTokens_nil : TagTokens [] :=
  ⟨by simp, by simp, List.isChain_nil⟩

theorem bare_of_no_comma
    (no_comma : ∀ isJoint others, rest = .punct ',' isJoint :: others → False) :
    ∀ token ∈ rest.head?, ¬ token.isComma := by
  intro token head comma
  obtain ⟨others, rfl⟩ := List.head?_eq_some_iff.mp head
  obtain ⟨isJoint, rfl⟩ := Token.isComma_iff.mp comma
  exact no_comma isJoint others rfl

/-- The first of the tokens is a literal, unless there is none. -/
theorem TagTokens.exists_literal {token : Token} (written : TagTokens (token :: rest)) :
    ∃ text, token = .literal .string text := by
  rcases written.only token List.mem_cons_self with literal | comma
  · exact Token.isString_iff.mp literal
  · exact absurd comma (written.first token rfl)

theorem not_tagTokens_of_no_literal (filled : body ≠ [])
    (no_literal : ∀ text rest, body = .literal .string text :: rest → False) :
    ¬ TagTokens body := by
  intro written
  obtain ⟨token, rest, rfl⟩ := List.exists_cons_of_ne_nil filled
  obtain ⟨text, rfl⟩ := written.exists_literal
  exact no_literal text rest rfl

theorem readTags_of_tagTokens (written : TagTokens body) :
    readTags body = .ok (stringTexts body) := by
  fun_induction readTags body with
  | case1 => rfl
  | case2 text isJoint rest ih =>
    rw [ih (tagTokens_literal_comma_iff.mp written)]
    rfl
  | case3 text rest no_comma ih =>
    rw [ih ((tagTokens_literal_iff (bare_of_no_comma no_comma)).mp written)]
    rfl
  | case4 body filled _ no_literal =>
    exact absurd written (not_tagTokens_of_no_literal filled no_literal)

/-- Whatever is wrong in the brackets, a literal is missing where it shows. -/
theorem readTags_of_not_tagTokens (misplaced : ¬ TagTokens body) :
    readTags body = .error (.expected "string literal") := by
  fun_induction readTags body with
  | case1 => exact absurd tagTokens_nil misplaced
  | case2 text isJoint rest ih =>
    rw [ih (mt tagTokens_literal_comma_iff.mpr misplaced)]
    rfl
  | case3 text rest no_comma ih =>
    rw [ih (mt (tagTokens_literal_iff (bare_of_no_comma no_comma)).mpr misplaced)]
    rfl
  | case4 => rfl

theorem readTags_eq_ok_iff {literals : List String} :
    readTags body = .ok literals ↔ TagTokens body ∧ stringTexts body = literals := by
  by_cases written : TagTokens body
  · simp [readTags_of_tagTokens written, written]
  · simp [readTags_of_not_tagTokens written, written]

theorem literalsApart_literal_comma_iff :
    LiteralsApart (.literal .string text :: .punct ',' isJoint :: rest) ↔ LiteralsApart rest := by
  unfold LiteralsApart
  rw [List.isChain_cons_cons, List.isChain_cons]
  simp [Token.isString, Token.stringText?]

/-- Lists of literals with a comma between them are what is read without neighbouring literals. -/
theorem lists_string_iff {literals : List String} :
    Lists StringWritten literals body ↔
      TagTokens body ∧ LiteralsApart body ∧ stringTexts body = literals := by
  constructor
  · intro lists
    induction lists with
    | nil => exact ⟨tagTokens_nil, List.isChain_nil, rfl⟩
    | last written =>
      cases written
      exact ⟨(tagTokens_literal_iff (by simp)).mpr tagTokens_nil, List.isChain_singleton _, rfl⟩
    | cons written _ ih =>
      cases written
      obtain ⟨tag_tokens, apart, rfl⟩ := ih
      exact ⟨tagTokens_literal_comma_iff.mpr tag_tokens, literalsApart_literal_comma_iff.mpr apart,
        rfl⟩
  · rintro ⟨tag_tokens, apart, rfl⟩
    -- The tokens fall into literals with a comma and literals without one, as they are read.
    fun_induction readTags body with
    | case1 => exact .nil
    | case2 text isJoint rest ih =>
      exact .cons .intro (ih (tagTokens_literal_comma_iff.mp tag_tokens)
        (literalsApart_literal_comma_iff.mp apart))
    | case3 text rest no_comma ih =>
      -- Without a comma the literal has to be the last, for only a literal could follow.
      have others := (tagTokens_literal_iff (bare_of_no_comma no_comma)).mp tag_tokens
      cases rest with
      | nil => exact .last .intro
      | cons token rest =>
        obtain ⟨next, rfl⟩ := others.exists_literal
        exact absurd ⟨rfl, rfl⟩ (List.isChain_cons_cons.mp apart).1
    | case4 body filled _ no_literal =>
      exact absurd tag_tokens (not_tagTokens_of_no_literal filled no_literal)

end Brackets

/-! ### Tags among other arguments -/

/-- Arguments with a comma after each. -/
inductive Leads {α : Type} (Written : α → List Token → Prop) : List α → List Token → Prop
  | nil : Leads Written [] []
  | cons {argument : α} {arguments : List α} {tokens rest : List Token} {isJoint : Bool}
      (written : Written argument tokens) (others : Leads Written arguments rest) :
      Leads Written (argument :: arguments) (tokens ++ .punct ',' isJoint :: rest)

/-- Nothing, or a comma and the arguments after it. -/
inductive Trails {α : Type} (Written : α → List Token → Prop) : List α → List Token → Prop
  | nil : Trails Written [] []
  | comma {arguments : List α} {rest : List Token} {isJoint : Bool}
      (lists : Lists Written arguments rest) : Trails Written arguments (.punct ',' isJoint :: rest)

theorem Trails.lists {α : Type} {Written : α → List Token → Prop} {argument : α}
    {arguments : List α} {tokens rest : List Token} (trails : Trails Written arguments rest)
    (written : Written argument tokens) :
    Lists Written (argument :: arguments) (tokens ++ rest) := by
  cases trails with
  | nil =>
    rw [List.append_nil]
    exact .last written
  | comma lists => exact .cons written lists

theorem Leads.lists {α : Type} {Written : α → List Token → Prop} {earlier later : List α}
    {before rest : List Token} (leads : Leads Written earlier before)
    (lists : Lists Written later rest) : Lists Written (earlier ++ later) (before ++ rest) := by
  induction leads with
  | nil => exact lists
  | cons written _ ih =>
    rw [List.append_assoc]
    exact .cons written ih

/-- The argument that gives tags in brackets. -/
def tagsTokens (isJoint : Bool) (body : List Token) : List Token :=
  [.ident "tags", .punct '=' isJoint, .group .bracket body]

namespace Argument

/-- Every argument is a key, an equals sign and one token for the value, which is no name. -/
theorem Written.exists_tokens {argument : Argument} {tokens : List Token}
    (written : Written argument tokens) :
    ∃ key isJoint value, tokens = [.ident key, .punct '=' isJoint, value] ∧
      ∀ name, value ≠ .ident name := by
  rcases written with ⟨⟨_⟩, _⟩ | ⟨⟨_⟩, _⟩ | ⟨⟨_⟩, _⟩ <;> exact ⟨_, _, _, rfl, by simp⟩

theorem written_tagsTokens_iff {argument : Argument} {isJoint : Bool} {body : List Token} :
    Written argument (tagsTokens isJoint body) ↔
      TagTokens body ∧ argument = .tags (stringTexts body) := by
  constructor
  · intro written
    generalize same : tagsTokens isJoint body = tokens at written
    rcases written with ⟨⟨_⟩, _⟩ | ⟨⟨_⟩, _⟩ | ⟨⟨_⟩, read⟩
    · simp [tagsTokens] at same
    · simp [tagsTokens] at same
    · cases same
      obtain ⟨tag_tokens, rfl⟩ := readTags_eq_ok_iff.mp read
      exact ⟨tag_tokens, rfl⟩
  · rintro ⟨tag_tokens, rfl⟩
    exact .tags (.intro isJoint) (readTags_of_tagTokens tag_tokens)

/-- An argument before tags ends before them, or it is the tags. -/
theorem Written.cut {argument : Argument} {tokens rest before body after : List Token}
    {isJoint : Bool} (written : Written argument tokens)
    (same : tokens ++ rest = before ++ (tagsTokens isJoint body ++ after)) :
    before = [] ∧ tokens = tagsTokens isJoint body ∧ rest = after ∨
      ∃ more, before = tokens ++ more ∧ rest = more ++ (tagsTokens isJoint body ++ after) := by
  obtain ⟨key, isJoint', value, rfl, no_name⟩ := written.exists_tokens
  -- The key of the tags is no equals sign and no value, so it stands at the first token or behind.
  match before with
  | [] => exact Or.inl ⟨rfl, by simpa [tagsTokens, and_assoc] using same⟩
  | [_] => simp [tagsTokens] at same
  | [_, _] =>
    simp only [tagsTokens, List.cons_append, List.nil_append, List.cons.injEq] at same
    exact absurd same.2.2.1 (no_name "tags")
  | _ :: _ :: _ :: more =>
    simp only [List.cons_append, List.nil_append, List.cons.injEq] at same
    obtain ⟨rfl, rfl, rfl, rfl⟩ := same
    exact Or.inr ⟨more, rfl, rfl⟩

end Argument

/-- A list with tags in it is the arguments before them, the tags, and the arguments after them. -/
theorem lists_around_iff {arguments : List Argument} {before body after : List Token}
    {isJoint : Bool} :
    Lists Argument.Written arguments (before ++ (tagsTokens isJoint body ++ after)) ↔
      TagTokens body ∧ ∃ earlier later, Leads Argument.Written earlier before ∧
        Trails Argument.Written later after ∧
        arguments = earlier ++ .tags (stringTexts body) :: later := by
  constructor
  · intro lists
    generalize same : before ++ (tagsTokens isJoint body ++ after) = tokens at lists
    -- Either the first argument is the tags, or it is the first of those before them.
    induction lists generalizing before with
    | nil => simp [tagsTokens] at same
    | @last argument tokens written =>
      rw [← List.append_nil tokens] at same
      rcases written.cut same.symm with ⟨rfl, rfl, rfl⟩ | ⟨more, -, ended⟩
      · obtain ⟨tag_tokens, rfl⟩ := Argument.written_tagsTokens_iff.mp written
        exact ⟨tag_tokens, [], [], .nil, .nil, rfl⟩
      · simp [tagsTokens] at ended
    | @cons argument arguments tokens rest _ written others ih =>
      rcases written.cut same.symm with ⟨rfl, rfl, rfl⟩ | ⟨more, rfl, goes_on⟩
      · obtain ⟨tag_tokens, rfl⟩ := Argument.written_tagsTokens_iff.mp written
        exact ⟨tag_tokens, [], arguments, .nil, .comma others, rfl⟩
      · cases more with
        | nil => simp [tagsTokens] at goes_on
        | cons comma more =>
          cases goes_on
          obtain ⟨tag_tokens, earlier, later, leads, trails, rfl⟩ := ih rfl
          exact ⟨tag_tokens, argument :: earlier, later, .cons written leads, trails, rfl⟩
  · rintro ⟨tag_tokens, earlier, later, leads, trails, rfl⟩
    exact leads.lists (trails.lists (Argument.written_tagsTokens_iff.mpr ⟨tag_tokens, rfl⟩))

/-- The registration that is told by arguments with tags among them. -/
theorem registrationOfArguments_around_iff {before body after : List Token} {isJoint : Bool}
    {registration : Registration} :
    registrationOfArguments (before ++ (tagsTokens isJoint body ++ after)) = .ok registration ↔
      TagTokens body ∧ ∃ earlier later, Leads Argument.Written earlier before ∧
        Trails Argument.Written later after ∧
        registration.GivenBy (earlier ++ .tags (stringTexts body) :: later) := by
  simp only [registrationOfArguments_eq_ok_iff, lists_around_iff]
  constructor
  · rintro ⟨_, ⟨tag_tokens, earlier, later, leads, trails, rfl⟩, given⟩
    exact ⟨tag_tokens, earlier, later, leads, trails, given⟩
  · rintro ⟨tag_tokens, earlier, later, leads, trails, given⟩
    exact ⟨_, ⟨tag_tokens, earlier, later, leads, trails, rfl⟩, given⟩

/-- The arguments tell a year and a day. -/
def TellsDay (arguments : List Argument) : Prop :=
  (∃ year, .year year ∈ arguments) ∧ ∃ day, .day day ∈ arguments

theorem TellsDay.exists_givenBy {earlier later : List Argument}
    (tells : TellsDay (earlier ++ later)) (literals : List String) :
    ∃ registration : Registration, registration.GivenBy (earlier ++ .tags literals :: later) := by
  obtain ⟨⟨year, year_told⟩, day, day_told⟩ := tells
  have exists_last (told : Argument → Option Nat) {argument : Argument} {number : Nat}
      (member : argument ∈ earlier ++ later) (tells_it : told argument = some number) :
      ∃ last, ((earlier ++ .tags literals :: later).filterMap told).getLast? = some last := by
    apply Option.isSome_iff_exists.mp
    apply List.getLast?_isSome.mpr
    apply List.ne_nil_of_mem
    have listed := ((List.sublist_cons_self (.tags literals) later).append_left earlier).mem member
    exact List.mem_filterMap.mpr ⟨argument, listed, tells_it⟩
  obtain ⟨last_year, year_last⟩ := exists_last Argument.year? year_told rfl
  obtain ⟨last_day, day_last⟩ := exists_last Argument.day? day_told rfl
  exact ⟨⟨last_year, last_day, _⟩, year_last, day_last, rfl⟩

section Turns

variable {σ α : Type}
  {take : σ → Option String → List Token → Except DeriveError (σ × List Token)}
  {Written : α → List Token → Prop} {give : σ → α → σ}

/-- An argument is given in one turn, whatever stands behind its comma. -/
theorem TakesEach.readArguments_turn (each : TakesEach take Written give) {argument : α}
    {tokens : List Token} (written : Written argument tokens) (turns : Nat) (state : σ)
    (isJoint : Bool) (rest : List Token) :
    readArguments take (turns + 1) state (tokens ++ .punct ',' isJoint :: rest) =
      readArguments take turns (give state argument) rest := by
  obtain ⟨key, behind, key_read, taken⟩ :=
    (each.turn_iff state _ _ (.punct ',' isJoint :: rest)).mpr ⟨argument, tokens, written, rfl, rfl⟩
  rw [readArguments]
  · simp [key_read, taken, bind, Except.bind]
  · simp

/-- Arguments that lead a list are given before the rest of it is read. -/
theorem TakesEach.readArguments_leads (each : TakesEach take Written give) {earlier : List α}
    {before : List Token} (leads : Leads Written earlier before) (turns : Nat) (state : σ)
    (rest : List Token) :
    readArguments take (turns + earlier.length) state (before ++ rest) =
      readArguments take turns (earlier.foldl give state) rest := by
  induction leads generalizing state with
  | nil => rfl
  | cons written _ ih =>
    rw [List.append_assoc, List.cons_append, List.length_cons, ← Nat.add_assoc,
      each.readArguments_turn written, ih, List.foldl_cons]

end Turns

theorem Leads.length_le {α : Type} {Written : α → List Token → Prop} {earlier : List α}
    {before : List Token} (leads : Leads Written earlier before) :
    earlier.length ≤ before.length := by
  induction leads with
  | nil => exact Nat.le_refl _
  | cons _ _ ih =>
    simp only [List.length_append, List.length_cons]
    omega

/-- What is wrong in the brackets is reported, whatever stands after them. -/
theorem registrationOfArguments_of_not_tagTokens {earlier : List Argument}
    {before body after : List Token} {isJoint : Bool}
    (leads : Leads Argument.Written earlier before) (misplaced : ¬ TagTokens body) :
    registrationOfArguments (before ++ (tagsTokens isJoint body ++ after)) =
      .error (.expected "string literal") := by
  have refused (turns : Nat) (given : PartialRegistration) :
      readArguments takeRegistration (turns + 1) given (tagsTokens isJoint body ++ after) =
        .error (.expected "string literal") := by
    have bad_tags := readTags_of_not_tagTokens misplaced
    simp [tagsTokens, readArguments, takeKey, skipSegments, takeRegistration, takeTags, takeEquals,
      bad_tags, bind, Except.bind, Except.map]
  -- Each argument before took one of the turns, and at least one is left for the tags.
  have length_le := leads.length_le
  obtain ⟨more, turns⟩ : ∃ more,
      (before ++ (tagsTokens isJoint body ++ after)).length = (more + 1) + earlier.length :=
    ⟨before.length - earlier.length + 2 + after.length, by simp [tagsTokens]; omega⟩
  unfold registrationOfArguments
  rw [turns, takeRegistration_takesEach.readArguments_leads leads, refused]
  rfl

/-! ### Items with tags -/

theorem registrationOf_of_dayArguments {item : Item} {tokens : List Token}
    (written : dayArguments item = .ok tokens) :
    registrationOf item = registrationOfArguments tokens := by
  have steps : registrationOf item = dayArguments item >>= registrationOfArguments := rfl
  rw [steps, written]
  rfl

/-- An item with tags in brackets is accepted if and only if these hold literals and commas, with no
comma at first and none right after another, and the arguments around them tell a year and a day.
The literals are then given in order, after those of the arguments before, and so they stand in the
record that the code of the item submits. Whatever else the
brackets hold is refused as soon as the arguments before are read. The lists with a comma between
the literals are the part of what is read in which no literal stands right after another. -/
theorem literals_read_with_or_without_commas {item : Item} {before body after : List Token}
    {isJoint : Bool}
    (written : dayArguments item = .ok (before ++ (tagsTokens isJoint body ++ after))) :
    (∀ code, expandRegistration item = .ok code ↔
      TagTokens body ∧ ∃ earlier later registration,
        Leads Argument.Written earlier before ∧ Trails Argument.Written later after ∧
        registration.GivenBy (earlier ++ .tags (stringTexts body) :: later) ∧
        registration.tags = earlier.flatMap Argument.literals ++ stringTexts body ++
          later.flatMap Argument.literals ∧
        code = registrationTokens item.name registration ∧
        Submission.ofTokens? code =
          some ⟨item.name, registration.year, registration.day, item.name, registration.tags⟩) ∧
    (∀ earlier, Leads Argument.Written earlier before →
      (¬ TagTokens body → expandRegistration item = .error (.expected "string literal")) ∧
      ∀ later, Trails Argument.Written later after → TellsDay (earlier ++ later) →
        ((∃ code, expandRegistration item = .ok code) ↔ TagTokens body)) ∧
    ∀ literals, Lists StringWritten literals body ↔
      TagTokens body ∧ LiteralsApart body ∧ stringTexts body = literals := by
  have read := registrationOf_of_dayArguments written
  have accepted_iff (code : List Token) : expandRegistration item = .ok code ↔
      ∃ registration, registrationOfArguments (before ++ (tagsTokens isJoint body ++ after)) =
        .ok registration ∧ registrationTokens item.name registration = code := by
    rw [← read]
    exact map_eq_ok_iff
  simp only [accepted_iff, registrationOfArguments_around_iff]
  refine ⟨fun code => ⟨?_, ?_⟩, fun earlier leads => ⟨fun misplaced => ?_, ?_⟩,
    fun _ => lists_string_iff⟩
  · rintro ⟨registration, ⟨tag_tokens, earlier, later, leads, trails, given⟩, rfl⟩
    have said := Submission.ofTokens?_registrationTokens item.name registration
    refine ⟨tag_tokens, earlier, later, registration, leads, trails, given, ?_, rfl, said⟩
    simp [given.tags, Argument.literals]
  · rintro ⟨tag_tokens, earlier, later, registration, leads, trails, given, -, rfl, -⟩
    exact ⟨registration, ⟨tag_tokens, earlier, later, leads, trails, given⟩, rfl⟩
  · unfold expandRegistration
    rw [read, registrationOfArguments_of_not_tagTokens leads misplaced]
    rfl
  · intro later trails tells
    obtain ⟨registration, given⟩ := tells.exists_givenBy (stringTexts body)
    constructor
    · rintro ⟨_, _, ⟨tag_tokens, _⟩, _⟩
      exact tag_tokens
    · intro tag_tokens
      exact ⟨_, registration, ⟨tag_tokens, earlier, later, leads, trails, given⟩, rfl⟩

/-- Arguments that tell a day, with a comma after each. -/
def dayTokens (year day : Nat) : List Token :=
  let number (value : Nat) : Token := .literal (.integer value false) (toString value)
  [.ident "year", .punct '=' false, number year, .punct ',' false,
    .ident "day", .punct '=' false, number day, .punct ',' false]

theorem leads_dayTokens {year day : Nat} (narrow : year ≤ yearLimit)
    (within : 1 ≤ day ∧ day ≤ 25) :
    Leads Argument.Written [.year year, .day day] (dayTokens year day) := by
  have year_written := Argument.Written.year (.intro false false (toString year)) narrow
  have day_written := Argument.Written.day (.intro false false (toString day)) within
  exact Leads.cons year_written (.cons day_written .nil)

/-- Tags are read with a comma missing, and not with one too many. -/
theorem missing_comma_read_and_doubled_comma_refused :
    ∃ item other,
      Item.ofText?
        "#[aoc(year = 2015, day = 1, tags = [\"a\" \"b\",], tags = [\"c\"])] enum E {}".toList =
          some item ∧
      Item.ofText? "#[aoc(year = 2015, day = 1, tags = [\"a\",, \"b\"])] enum E {}".toList =
        some other ∧
      expandRegistration item =
        .ok (registrationTokens item.name ⟨2015, 1, ["\"a\"", "\"b\"", "\"c\""]⟩) ∧
      expandRegistration other = .error (.expected "string literal") := by
  have read : (Item.ofText?
      "#[aoc(year = 2015, day = 1, tags = [\"a\" \"b\",], tags = [\"c\"])] enum E {}".toList).bind
        (fun item => (dayArguments item).toOption) = some (dayTokens 2015 1 ++ (tagsTokens false
          [.literal .string "\"a\"", .literal .string "\"b\"", .punct ',' false] ++
            .punct ',' false :: tagsTokens false [.literal .string "\"c\""])) := by
    decide +kernel
  have other_read : (Item.ofText?
      "#[aoc(year = 2015, day = 1, tags = [\"a\",, \"b\"])] enum E {}".toList).bind
        (fun item => (dayArguments item).toOption) = some (dayTokens 2015 1 ++ (tagsTokens false
          [.literal .string "\"a\"", .punct ',' true, .punct ',' false,
            .literal .string "\"b\""] ++ [])) := by
    decide +kernel
  obtain ⟨item, item_read, found⟩ := Option.bind_eq_some_iff.mp read
  obtain ⟨other, other_item_read, other_found⟩ := Option.bind_eq_some_iff.mp other_read
  have accepted := literals_read_with_or_without_commas (eq_ok_of_toOption found)
  have refused := literals_read_with_or_without_commas (eq_ok_of_toOption other_found)
  have leads := leads_dayTokens (show 2015 ≤ yearLimit by decide) (show 1 ≤ 1 ∧ 1 ≤ 25 by decide)
  refine ⟨item, other, item_read, other_item_read, (accepted.1 _).mpr ⟨?_, ?_⟩, ?_⟩
  · exact ⟨by decide, by decide, by decide⟩
  · have last_body : TagTokens [.literal .string "\"c\""] := ⟨by decide, by decide, by decide⟩
    have last_tags : Argument.Written _ (tagsTokens false _) :=
      Argument.written_tagsTokens_iff.mpr ⟨last_body, rfl⟩
    exact ⟨_, _, _, leads, .comma (.last last_tags), ⟨rfl, rfl, rfl⟩, rfl, rfl,
      Submission.ofTokens?_registrationTokens ..⟩
  · refine (refused.2.1 _ leads).1 fun misplaced => ?_
    exact absurd misplaced.apart (by decide)

/-- Two literals without a comma between them are accepted. -/
theorem neighbouring_literals_accepted :
    ∃ item, Item.ofText? "#[aoc(year = 2015, day = 1, tags = [\"a\" \"b\"])] struct Elf;".toList =
        some item ∧
      dayArguments item = .ok (dayTokens 2015 1 ++
        tagsTokens false [.literal .string "\"a\"", .literal .string "\"b\""]) ∧
      (∀ literals, ¬ Lists StringWritten literals
        [.literal .string "\"a\"", .literal .string "\"b\""]) ∧
      expandRegistration item =
        .ok (registrationTokens item.name ⟨2015, 1, ["\"a\"", "\"b\""]⟩) := by
  have read : (Item.ofText?
      "#[aoc(year = 2015, day = 1, tags = [\"a\" \"b\"])] struct Elf;".toList).bind
        (fun item => (dayArguments item).toOption) = some (dayTokens 2015 1 ++
          tagsTokens false [.literal .string "\"a\"", .literal .string "\"b\""]) := by
    decide +kernel
  obtain ⟨item, item_read, found⟩ := Option.bind_eq_some_iff.mp read
  have written := eq_ok_of_toOption found
  refine ⟨item, item_read, written, fun literals lists => ?_, ?_⟩
  · obtain ⟨-, apart, -⟩ := lists_string_iff.mp lists
    exact absurd apart (by unfold LiteralsApart; decide)
  · have told := registrationOf_of_dayArguments written
    exact map_eq_ok_iff.mpr ⟨_, told, rfl⟩

end Advent.Derive
