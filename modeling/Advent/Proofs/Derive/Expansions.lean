import Advent.Derive.Expansion
import Mathlib.Data.List.Basic

/-!
# What an expansion says

The tokens of an expansion are code, and they are read as such. An implementation has a name, a count
of parts, and arms that are tried from the first to the last; a submission has the fields of its
record. What is read is what the expansion was made of: the arms do for every part number what the
dispatch does, and the record has the year, the day and the tags of the registration.
-/
namespace Advent.Derive

/-! ### Reading code -/

namespace Reader

/-- Code without groups and literals, word by word. -/
def code (text : String) : Reader Unit :=
  forM (Text.words text.toList) fun letters =>
    if letters.all marks.contains then mark (String.ofList letters)
    else word (String.ofList letters)

def anyName : Reader String
  | .ident name :: rest => some (name, rest)
  | _ => none

/-- A number in digits, with the name of its type behind it or with nothing. -/
def number (suffix : String) : Reader Nat
  | .literal (.integer value hasSuffix) text :: rest =>
    if text = toString value ++ suffix ∧ hasSuffix = !suffix.isEmpty then some (value, rest)
    else none
  | _ => none

/-- String literals up to the end, with commas between them. -/
def strings : Reader (List String)
  | [] => some ([], [])
  | [.literal .string text] => some ([text], [])
  | .literal .string text :: .punct ',' _ :: rest =>
    (strings rest).map fun (texts, rest) => (text :: texts, rest)
  | _ => none

/-- One more item, unless nothing is left. -/
def oneMore {α : Type} (item : Reader α) (taken : List α) : Reader (Option (List α)) := do
  if ← sees Ahead.finish then return none
  else return some (taken ++ [← item])

/-- Items one after the other, up to the end. -/
def untilEnd {α : Type} (item : Reader α) : Reader (List α) :=
  steps (oneMore item) []

/-- What a reader makes of all the tokens. -/
def whole? {α : Type} (reader : Reader α) (tokens : List Token) : Option α :=
  match reader tokens with
  | some (value, []) => some value
  | _ => none

/-! ### What readers take -/

section Takes

variable {α β : Type}

/-- The reader makes the value of the tokens, whatever follows them. -/
def Takes (reader : Reader α) (tokens : List Token) (value : α) : Prop :=
  ∀ rest, reader (tokens ++ rest) = some (value, rest)

variable {first : Reader α} {next : α → Reader β} {tokens more : List Token} {value : α}
  {result : β}

theorem Takes.whole (takes : Takes first tokens value) : first tokens = some (value, []) := by
  simpa using takes []

theorem whole?_of_takes (takes : Takes first tokens value) : whole? first tokens = some value := by
  simp only [whole?, takes.whole]

theorem Takes.pure (value : α) : Takes (Pure.pure value) [] value :=
  fun _ => rfl

theorem Takes.bind (takes : Takes first tokens value) (then_takes : Takes (next value) more result) :
    Takes (first >>= next) (tokens ++ more) result := by
  intro rest
  have steps : (first >>= next) (tokens ++ more ++ rest) =
      first (tokens ++ (more ++ rest)) >>= fun (value, rest) => next value rest := by
    rw [List.append_assoc]
    rfl
  rw [steps, takes]
  exact then_takes rest

theorem Takes.bind_cons {token : Token} (takes : Takes first [token] value)
    (then_takes : Takes (next value) more result) :
    Takes (first >>= next) (token :: more) result :=
  takes.bind then_takes

theorem Takes.map (takes : Takes first tokens value) (make : α → β) :
    Takes (first >>= fun value => Pure.pure (make value)) tokens (make value) := by
  rw [← List.append_nil tokens]
  exact takes.bind (.pure (make value))

theorem Takes.last (takes : Takes first tokens value) (result : β) :
    Takes (first >>= fun _ => Pure.pure result) tokens result :=
  takes.map fun _ => result

theorem Takes.group {delimiter : Delimiter} {inner : List Token}
    (read : first inner = some (value, [])) :
    Takes (group delimiter first) [.group delimiter inner] value := by
  intro rest
  simp [Reader.group, read]

theorem afterMark?_markTokens (letters : List Char) (rest : List Token) :
    afterMark? letters (markTokens letters ++ rest) = some rest := by
  induction letters with
  | nil => rfl
  | cons c more ih =>
    cases more with
    | nil => exact if_pos rfl
    | cons d further => exact (if_pos rfl).trans ih

theorem takes_code (text : String) : Takes (code text) (Derive.code text) () := by
  unfold code Derive.code
  induction Text.words text.toList with
  | nil => exact .pure ()
  | cons letters rest ih =>
    -- Reader and spelling tell marks from names by the same test.
    have taken : Takes (if letters.all marks.contains then mark (String.ofList letters)
        else word (String.ofList letters)) (wordTokens letters) () := by
      intro after
      unfold wordTokens
      split
      · simp [mark, afterMark?_markTokens]
      · exact if_pos (decide_eq_true rfl)
    rw [List.forM_cons, List.flatMap_cons]
    exact taken.bind ih

theorem takes_anyName (name : String) : Takes anyName [.ident name] name :=
  fun _ => rfl

theorem takes_number (value : Nat) (suffix : String) :
    Takes (number suffix) [numberToken value suffix] value :=
  fun _ => if_pos ⟨rfl, rfl⟩

theorem strings_stringTokens (texts : List String) :
    strings (stringTokens texts) = some (texts, []) := by
  induction texts with
  | nil => rfl
  | cons text rest ih =>
    cases rest with
    | nil => rfl
    | cons second more => exact congrArg (Option.map _) ih

theorem oneMore_of_takes {item : Reader α} (takes : Takes item tokens value) (spelled : tokens ≠ [])
    (taken : List α) (rest : List Token) :
    oneMore item taken (tokens ++ rest) = some (some (taken ++ [value]), rest) := by
  have unfinished : ¬ Ahead.finish (tokens ++ rest) = true := by
    simp [Ahead.finish, spelled]
  change (if Ahead.finish (tokens ++ rest) = true then (Pure.pure none : Reader (Option (List α)))
    else _) (tokens ++ rest) = _
  rw [if_neg unfinished]
  exact (takes.map fun value => some (taken ++ [value])) rest

section Members

variable {item : Reader α} {spell : β → List Token} {make : β → α}
  (takes : ∀ member, Takes item (spell member) (make member))
  (spelled : ∀ member, spell member ≠ [])

include takes spelled

/-- A turn takes one member, and the last turn finds that nothing is left. -/
theorem stepUpTo_flatMap (members : List β) (taken : List α) (turns : Nat)
    (enough : members.length < turns) :
    stepUpTo (oneMore item) turns taken (members.flatMap spell) =
      some (taken ++ members.map make, []) := by
  induction members generalizing taken turns with
  | nil =>
    obtain ⟨more, rfl⟩ := Nat.exists_eq_add_of_lt enough
    exact congrArg (fun taken => some (taken, [])) (List.append_nil taken).symm
  | cons member rest ih =>
    -- One turn is spent on the first member, so enough are left for the others.
    obtain ⟨more, rfl⟩ := Nat.exists_eq_succ_of_ne_zero (Nat.ne_zero_of_lt enough)
    have turn := oneMore_of_takes (takes member) (spelled member) taken (rest.flatMap spell)
    have later := ih (taken ++ [make member]) more (Nat.lt_of_succ_lt_succ enough)
    rw [List.append_assoc] at later
    rw [List.flatMap_cons]
    exact (congrArg (Option.bind · _) turn).trans later

/-- Members that are spelled one after the other are read to the end. -/
theorem untilEnd_flatMap (members : List β) :
    untilEnd item (members.flatMap spell) = some (members.map make, []) := by
  -- There are as many turns as tokens, and no member is spelled without one.
  have enough : members.length ≤ (members.flatMap spell).length := by
    induction members with
    | nil => exact Nat.le_refl _
    | cons member rest ih =>
      have positive := List.length_pos_iff.mpr (spelled member)
      simp only [List.flatMap_cons, List.length_append, List.length_cons]
      omega
  exact stepUpTo_flatMap takes spelled members [] _ (Nat.lt_succ_of_le enough)

end Members

end Takes

end Reader

/-! ### Implementations -/

/-- An arm of an implementation. -/
inductive Arm
  /-- Takes one part, for which it runs the part solver of a number. -/
  | run (part number : Nat)
  /-- Takes every part and refuses it as not implemented. -/
  | refuse
  deriving Repr, DecidableEq

/-- The implementation of a solver, as its code says. -/
structure Implementation where
  name : String
  parts : Nat
  arms : List Arm
  deriving Repr, DecidableEq

namespace Reader

/-- What stands behind an underscore for the pattern. -/
def refusal : Reader Arm := do
  code "=> :: core :: result :: Result :: Err"
  group .parenthesis do
    code ":: aoc_solver :: SolveError :: PartNotImplemented"
    group .parenthesis (code "part")
  code ","
  return .refuse

/-- The number of a part and the call of a part solver. -/
def call : Reader Arm := do
  let part ← number ""
  code "=> < Self as :: aoc_solver :: PartSolver <"
  let solver ← number ""
  code ">> :: solve"
  group .parenthesis (code "shared")
  code ","
  return .run part solver

def arm : Reader Arm := do
  if ← wordIf "_" then refusal else call

/-- The state that the part solvers share, and the number of a part. -/
def parameters : Reader Unit := do
  code "shared : & mut < Self as :: aoc_solver :: AocParser > :: SharedData <"
  lifetime
  code "> , part : u8 ,"

/-- The arms of the function that solves a part. -/
def function : Reader (List Arm) := do
  code "fn solve_part"
  group .parenthesis parameters
  code "-> :: core :: result :: Result <"
  code ":: std :: string :: String , :: aoc_solver :: SolveError >"
  group .brace do
    code "match part"
    group .brace (untilEnd arm)

def implementation : Reader Implementation := do
  code "impl :: aoc_solver :: Solver for"
  let name ← anyName
  group .brace do
    code "const PARTS : u8 ="
    let parts ← number ""
    code ";"
    return ⟨name, parts, ← function⟩

end Reader

/-- What all of the tokens say, if they are an implementation. -/
def Implementation.ofTokens? (tokens : List Token) : Option Implementation :=
  Reader.implementation.whole? tokens

/-- An arm for each part of a dispatch, with the part solver of the same number, and a refusal of
all other parts at last. -/
def Implementation.ofDispatch (name : String) (dispatch : Dispatch) : Implementation :=
  ⟨name, dispatch.parts, dispatch.arms.map (fun part => .run part part) ++ [.refuse]⟩

namespace Reader

theorem takes_refusal : Takes arm fallbackTokens .refuse := by
  have marked : Takes (wordIf "_") [.ident "_"] true := fun _ => rfl
  have part : Takes (group .parenthesis (code "part")) _ () := .group (takes_code _).whole
  have refused : Takes refusal _ .refuse :=
    (takes_code _).bind (.bind_cons (.group ((takes_code _).bind part).whole)
      ((takes_code _).last _))
  exact marked.bind_cons refused

theorem takes_call (part : Nat) : Takes arm (armTokens part) (.run part part) := by
  have called : Takes call (armTokens part) (.run part part) := by
    simp only [armTokens, List.append_assoc, List.cons_append]
    apply (takes_number part "").bind_cons
    apply (takes_code _).bind
    apply (takes_number part "").bind_cons
    apply (takes_code _).bind
    apply Takes.bind_cons (.group (takes_code _).whole)
    exact (takes_code _).last _
  -- A number is no underscore, so nothing is taken before the call is read.
  exact fun rest => called rest

theorem untilEnd_arms (parts : List Nat) :
    untilEnd arm (parts.flatMap armTokens ++ fallbackTokens) =
      some (parts.map (fun part => .run part part) ++ [.refuse], []) := by
  -- The refusal is the arm without a part.
  have takes : ∀ part : Option Nat, Takes arm (part.elim fallbackTokens armTokens)
      (part.elim .refuse fun part => .run part part) := by
    rintro (_ | part)
    · exact takes_refusal
    · exact takes_call part
  have spelled : ∀ part : Option Nat, part.elim fallbackTokens armTokens ≠ [] := by
    rintro (_ | part) <;> exact List.cons_ne_nil _ _
  have all := untilEnd_flatMap takes spelled (parts.map some ++ [none])
  rw [List.flatMap_append, List.flatMap_map, List.flatMap_singleton, List.map_append,
    List.map_map] at all
  exact all

theorem takes_parameters : Takes parameters parameterTokens () := by
  apply (takes_code _).bind
  exact Takes.bind_cons (fun _ => rfl) (takes_code _)

theorem takes_function (dispatch : Dispatch) :
    Takes function (functionTokens dispatch)
      (dispatch.arms.map (fun part => .run part part) ++ [.refuse]) := by
  have matched : Takes (group .brace (untilEnd arm)) _ _ := .group (untilEnd_arms dispatch.arms)
  simp only [functionTokens, List.append_assoc, List.cons_append]
  apply (takes_code _).bind
  apply Takes.bind_cons (.group takes_parameters.whole)
  apply (takes_code _).bind
  apply (takes_code _).bind
  exact .group ((takes_code _).bind matched).whole

theorem takes_implementation (name : String) (dispatch : Dispatch) :
    Takes implementation (dispatchTokens name dispatch) (.ofDispatch name dispatch) := by
  simp only [dispatchTokens, List.append_assoc, List.cons_append]
  apply (takes_code _).bind
  apply (takes_anyName name).bind_cons
  apply Takes.group
  apply Takes.whole
  apply (takes_code _).bind
  apply (takes_number dispatch.parts "").bind_cons
  apply (takes_code _).bind
  exact (takes_function dispatch).map _

end Reader

theorem Implementation.ofTokens?_dispatchTokens (name : String) (dispatch : Dispatch) :
    ofTokens? (dispatchTokens name dispatch) = some (ofDispatch name dispatch) :=
  Reader.whole?_of_takes (Reader.takes_implementation name dispatch)

/-! ### Running an implementation -/

section Running

variable {σ : Type} (family fallback : Nat → σ → Step σ) (state : σ) (part : Nat)

/-- What an arm does for a part that it takes, with some step for the refusal. -/
def Arm.step? : Arm → Option (Step σ)
  | .run taken number => if part = taken then some (family number state) else none
  | .refuse => some (fallback part state)

/-- The first arm that takes a part decides what is done for it. -/
def Implementation.solveOr (implementation : Implementation) : Option (Step σ) :=
  implementation.arms.findSome? (Arm.step? family fallback state part)

/-- A refused part is not implemented, and leaves the state as it is. -/
def Implementation.solvePart (implementation : Implementation) : Option (Step σ) :=
  implementation.solveOr family (fun part state => .failed state (.partNotImplemented part)) state
    part

theorem Implementation.solveOr_ofDispatch (name : String) (dispatch : Dispatch) :
    (ofDispatch name dispatch).solveOr family fallback state part =
      some (if part ∈ dispatch.arms then family part state else fallback part state) := by
  obtain ⟨parts, arms⟩ := dispatch
  unfold ofDispatch solveOr
  -- The first arm takes its own part, and every other part goes on to the arms behind it.
  induction arms with
  | nil => rfl
  | cons first rest ih =>
    by_cases same : part = first
    · simp [Arm.step?, same]
    · simpa [Arm.step?, same] using ih

/-- The arms do what the dispatch does. -/
theorem Implementation.solvePart_ofDispatch (name : String) (dispatch : Dispatch) :
    (ofDispatch name dispatch).solvePart family state part =
      some (dispatch.solve family state part) :=
  solveOr_ofDispatch family _ state part name dispatch

end Running

/-! ### Submissions -/

/-- The record of a solver that code submits, and the type that it makes sure is one. -/
structure Submission where
  checked : String
  year : Nat
  day : Nat
  solver : String
  /-- The literals of the tags. -/
  tags : List String
  deriving Repr, DecidableEq

namespace Reader

/-- The name of the type that has to be a solver for the code to compile. -/
def check : Reader String := do
  code "const _ :"
  group .parenthesis (pure ())
  code "="
  let name ← group .brace do
    code "trait MustImplementSolver : :: aoc_solver :: Solver"
    group .brace (pure ())
    code "impl MustImplementSolver for"
    let name ← anyName
    group .brace (pure ())
    return name
  code ";"
  return name

def record (checked : String) : Reader Submission := do
  code "year :"
  let year ← number "u16"
  code ", day :"
  let day ← number "u8"
  code ", solver : &"
  let solver ← anyName
  code ", tags : &"
  let tags ← group .bracket strings
  code ","
  return ⟨checked, year, day, solver, tags⟩

def submission : Reader Submission := do
  let checked ← check
  code ":: aoc_solver :: inventory :: submit !"
  group .brace do
    code ":: aoc_solver :: SolverPlugin"
    group .brace (record checked)

end Reader

/-- What all of the tokens say, if they submit a record. -/
def Submission.ofTokens? (tokens : List Token) : Option Submission :=
  Reader.submission.whole? tokens

namespace Reader

theorem takes_nothing (delimiter : Delimiter) :
    Takes (group delimiter (pure ())) [.group delimiter []] () :=
  .group rfl

theorem takes_check (name : String) : Takes check (checkTokens name) name := by
  simp only [checkTokens, List.append_assoc, List.cons_append]
  apply (takes_code _).bind
  apply (takes_nothing .parenthesis).bind_cons
  apply (takes_code _).bind
  refine Takes.bind_cons (.group (Takes.whole ?_)) ((takes_code _).last name)
  apply (takes_code _).bind
  apply (takes_nothing .brace).bind_cons
  apply (takes_code _).bind
  apply (takes_anyName name).bind_cons
  exact (takes_nothing .brace).last name

theorem takes_record (checked name : String) (registration : Registration) :
    Takes (record checked) (recordTokens name registration)
      ⟨checked, registration.year, registration.day, name, registration.tags⟩ := by
  simp only [recordTokens, List.append_assoc, List.cons_append]
  apply (takes_code _).bind
  apply (takes_number registration.year "u16").bind_cons
  apply (takes_code _).bind
  apply (takes_number registration.day "u8").bind_cons
  apply (takes_code _).bind
  apply (takes_anyName name).bind_cons
  apply (takes_code _).bind
  apply Takes.bind_cons (.group (strings_stringTokens registration.tags))
  exact (takes_code _).last _

theorem takes_submission (name : String) (registration : Registration) :
    Takes submission (registrationTokens name registration)
      ⟨name, registration.year, registration.day, name, registration.tags⟩ := by
  rw [registrationTokens, List.append_assoc]
  apply (takes_check name).bind
  apply (takes_code _).bind
  apply Takes.group
  apply Takes.whole
  apply (takes_code _).bind
  exact .group (takes_record name name registration).whole

end Reader

/-- The record that is submitted is that of the registration, and the type that is checked is the
solver that is registered. -/
theorem Submission.ofTokens?_registrationTokens (name : String) (registration : Registration) :
    ofTokens? (registrationTokens name registration) =
      some ⟨name, registration.year, registration.day, name, registration.tags⟩ :=
  Reader.whole?_of_takes (Reader.takes_submission name registration)

end Advent.Derive
