import Advent.Derive.Token
import Advent.Text.Blank
import Advent.Text.Digit
import Advent.Text.Identifier
import Advent.Text.Split

/-!
# From text to tokens

The lexer takes one lexeme after another off a text and then closes every opened delimiter. Blanks
and comments separate lexemes; a documentation comment stands for the attribute that holds its text.
Every reader of a part gives the text after it, and nothing if the text does not start with the part.
-/
namespace Advent.Derive

inductive Lexeme
  | token (token : Token)
  | opening (delimiter : Delimiter)
  | closing (delimiter : Delimiter)
  deriving Repr

/-! ### Blanks and comments -/

/-- Blanks between lexemes; the two marks of writing direction count among them. -/
def isSeparator (c : Char) : Bool :=
  Text.isBlank c || c = '\u200e' || c = '\u200f'

/-- The text after a block comment that is so deep when it is entered. -/
def skipBlockComment : Nat → List Char → Option (List Char)
  | depth, '*' :: '/' :: rest => if depth ≤ 1 then some rest else skipBlockComment (depth - 1) rest
  | depth, '/' :: '*' :: rest => skipBlockComment (depth + 1) rest
  | depth, _ :: rest => skipBlockComment depth rest
  | _, [] => none

/-- A line without its end, and the text from its end on. -/
def splitLine : List Char → List Char × List Char
  | [] => ([], [])
  | '\n' :: rest => ([], '\n' :: rest)
  | '\r' :: '\n' :: rest => ([], '\r' :: '\n' :: rest)
  | c :: rest =>
    let (line, after) := splitLine rest
    (c :: line, after)

def startsWith (start : String) (text : List Char) : Bool :=
  start.toList.isPrefixOf text

def isLineComment (text : List Char) : Bool :=
  startsWith "//" text && (!startsWith "///" text || startsWith "////" text) &&
    !startsWith "//!" text

def isBlockComment (text : List Char) : Bool :=
  startsWith "/**/" text ||
    startsWith "/*" text && (!startsWith "/**" text || startsWith "/***" text) &&
      !startsWith "/*!" text

/-- Skips one blank or one comment that is no documentation. -/
def skipOne? (text : List Char) : Option (List Char) :=
  if isLineComment text then some (splitLine text).2
  else if isBlockComment text then skipBlockComment 1 (text.drop 2)
  else
    match text with
    | c :: rest => if isSeparator c then some rest else none
    | [] => none

/-- Whether every carriage return stands before a line feed. -/
def hasNoBareReturn : List Char → Bool
  | [] => true
  | '\r' :: '\n' :: rest => hasNoBareReturn rest
  | c :: rest => c ≠ '\r' && hasNoBareReturn rest

/-- The text of a documentation comment, whether it documents what is around it, and the rest. -/
def documentation? (text : List Char) : Option (List Char × Bool × List Char) := do
  let (comment, isInner, rest) ←
    if startsWith "//!" text then
      let (line, rest) := splitLine (text.drop 3)
      some (line, true, rest)
    else if startsWith "///" text && !startsWith "////" text then
      let (line, rest) := splitLine (text.drop 3)
      some (line, false, rest)
    else if startsWith "/*!" text || startsWith "/**" text && !startsWith "/***" text then do
      let rest ← skipBlockComment 1 (text.drop 2)
      let whole := text.take (text.length - rest.length)
      some ((whole.drop 3).take (whole.length - 5), startsWith "/*!" text, rest)
    else none
  guard (hasNoBareReturn comment)
  return (comment, isInner, rest)

/-- The attribute that a documentation comment stands for. -/
def documentationLexemes (comment : List Char) (isInner : Bool) : List Lexeme :=
  [.token (.punct '#' false)] ++ (if isInner then [.token (.punct '!' false)] else []) ++
    [.token (.group .bracket
      [.ident "doc", .punct '=' false, .literal .string (String.ofList comment)])]

/-! ### Identifiers -/

/-- An identifier without a mark before it, and the rest. -/
def plainIdentifier? : List Char → Option (List Char × List Char)
  | [] => none
  | c :: rest =>
    if Text.isIdentifierStart c then
      some (c :: rest.takeWhile Text.isIdentifierChar, rest.dropWhile Text.isIdentifierChar)
    else none

/-- The names that may not be raw. -/
def neverRaw : List (List Char) :=
  ["_", "super", "self", "Self", "crate"].map String.toList

def anyIdentifier? (text : List Char) : Option (List Char × List Char) :=
  match text with
  | 'r' :: '#' :: rest => do
    let (name, rest) ← plainIdentifier? rest
    guard (name ∉ neverRaw)
    return ('r' :: '#' :: name, rest)
  | text => plainIdentifier? text

/-- The starts of literals that look like identifiers. -/
def literalStarts : List String :=
  ["r\"", "r#\"", "r##", "b\"", "b'", "br\"", "br#", "c\"", "cr\"", "cr#"]

def identifier? (text : List Char) : Option (List Char × List Char) :=
  if literalStarts.any fun start => startsWith start text then none else anyIdentifier? text

/-- The rest after a suffix, if there is one. -/
def skipSuffix (text : List Char) : List Char :=
  match plainIdentifier? text with
  | some (_, rest) => rest
  | none => text

/-! ### Quoted literals -/

/-- What a quoted literal holds. -/
inductive Content
  | text
  | bytes
  /-- Text without NUL. -/
  | cText
  deriving Repr, DecidableEq

/-- A character that may stand in a quoted literal as it is. -/
def Content.admits : Content → Char → Bool
  | .text, _ => true
  | .bytes, c => c.toNat < 128
  | .cText, c => c ≠ '\x00'

/-- A value of two hexadecimal digits: text stays within ASCII, and text without NUL is not zero. -/
def Content.admitsCode : Content → Nat → Bool
  | .text, value => value < 128
  | .bytes, _ => true
  | .cText, value => value ≠ 0

/-- The characters that a backslash may stand before by themselves. -/
def simpleEscapes : List Char := ['n', 'r', 't', '\\', '\'', '"']

/-- Where the reader of a quoted literal stands. -/
inductive QuoteState
  | body
  | escape
  | firstDigit
  | secondDigit (high : Nat)
  | codeStart
  | code (digits value : Nat)
  /-- After an escaped line end, where blanks are skipped. -/
  | skipping
  /-- After a carriage return, which needs a line feed; `skips` tells what follows. -/
  | return (skips : Bool)
  deriving Repr, DecidableEq

def isValidCode (value : Nat) : Bool :=
  value < 0xD800 || 0xDFFF < value && value < 0x110000

/-- The state after a character, or `none` where it may not stand; the quote that ends is not asked. -/
def QuoteState.next (content : Content) (c : Char) : QuoteState → Option QuoteState
  | .body | .skipping =>
    if c = '\\' then some .escape
    else if c = '\r' then some (.return false)
    else if content.admits c then some .body
    else none
  | .escape =>
    if c ∈ simpleEscapes || (c = '0' && content ≠ .cText) then some .body
    else if c = 'x' then some .firstDigit
    else if c = 'u' && content ≠ .bytes then some .codeStart
    else if c = '\n' then some .skipping
    else if c = '\r' then some (.return true)
    else none
  | .firstDigit => (Text.hexDigit? c).map .secondDigit
  | .secondDigit high => do
    let low ← Text.hexDigit? c
    guard (content.admitsCode (16 * high + low))
    return .body
  | .codeStart => if c = '\x7b' then some (.code 0 0) else none
  | .code digits value =>
    if c = '\x7d' && 0 < digits then
      if isValidCode value && (content ≠ .cText || value ≠ 0) then some .body else none
    else if c = '_' && 0 < digits then some (.code digits value)
    else do
      let digit ← Text.hexDigit? c
      guard (digits < 6)
      return .code (digits + 1) (16 * value + digit)
  | .return skips => if c = '\n' then some (if skips then .skipping else .body) else none

/-- The blanks that an escaped line end skips. -/
def isSkipped (c : Char) : Bool :=
  c = ' ' || c = '\t' || c = '\n'

/-- The rest after the quote that ends a literal. -/
def closeQuoted (content : Content) : QuoteState → List Char → Option (List Char)
  | _, [] => none
  | .skipping, c :: rest =>
    if isSkipped c then closeQuoted content .skipping rest
    else if c = '\r' then closeQuoted content (.return true) rest
    else if c = '"' then some rest
    else (QuoteState.next content c .body).bind fun state => closeQuoted content state rest
  | .body, c :: rest =>
    if c = '"' then some rest
    else (QuoteState.next content c .body).bind fun state => closeQuoted content state rest
  | state, c :: rest =>
    (QuoteState.next content c state).bind fun state => closeQuoted content state rest

/-- The rest after a quote with so many marks behind it, in which no escapes are read. -/
def closeRaw (content : Content) (marks : Nat) : List Char → Option (List Char)
  | [] => none
  | '"' :: rest =>
    if (List.replicate marks '#').isPrefixOf rest then some (rest.drop marks)
    else closeRaw content marks rest
  | '\r' :: '\n' :: rest => closeRaw content marks rest
  | c :: rest => if c ≠ '\r' && content.admits c then closeRaw content marks rest else none

/-- The greatest count of marks around a raw literal. -/
def markLimit : Nat := 255

def rawQuoted (content : Content) (text : List Char) : Option (List Char) :=
  let marks := (text.takeWhile (· = '#')).length
  match text.dropWhile (· = '#') with
  | '"' :: rest => if marks ≤ markLimit then closeRaw content marks rest else none
  | _ => none

/-- The rest after one character or escape of a character literal. -/
def oneCharacter (content : Content) : List Char → Option (List Char)
  | '\\' :: 'x' :: high :: low :: rest => do
    let high ← Text.hexDigit? high
    let low ← Text.hexDigit? low
    guard (content.admitsCode (16 * high + low))
    return rest
  | '\\' :: 'u' :: '\x7b' :: rest => do
    guard (content ≠ .bytes)
    let digits := rest.takeWhile (· ≠ '\x7d')
    let state ← digits.foldlM (fun state c => QuoteState.next content c state) (.code 0 0)
    guard ((QuoteState.next content '\x7d' state).isSome)
    match rest.dropWhile (· ≠ '\x7d') with
    | _ :: rest => return rest
    | [] => none
  | '\\' :: c :: rest => if c ∈ simpleEscapes || c = '0' then some rest else none
  | ['\\'] => none
  | c :: rest => if content.admits c then some rest else none
  | [] => none

def characterLiteral (content : Content) (text : List Char) : Option (List Char) := do
  match ← oneCharacter content text with
  | '\'' :: rest => return rest
  | _ => none

/-- The kind of a quoted literal and the rest after it, its suffix not yet skipped. -/
def quoted? : List Char → Option (LiteralKind × List Char)
  | '"' :: rest => (closeQuoted .text .body rest).map (.string, ·)
  | 'b' :: '"' :: rest => (closeQuoted .bytes .body rest).map (.byteString, ·)
  | 'c' :: '"' :: rest => (closeQuoted .cText .body rest).map (.cString, ·)
  | 'b' :: '\'' :: rest => (characterLiteral .bytes rest).map (.byte, ·)
  | '\'' :: rest => (characterLiteral .text rest).map (.character, ·)
  | 'r' :: rest => (rawQuoted .text rest).map (.string, ·)
  | 'b' :: 'r' :: rest => (rawQuoted .bytes rest).map (.byteString, ·)
  | 'c' :: 'r' :: rest => (rawQuoted .cText rest).map (.cString, ·)
  | _ => none

/-! ### Numbers -/

/-- The rest after a suffix that starts right here, unless an identifier goes on after it. -/
def endNumber (text : List Char) : Option (List Char) :=
  let rest := skipSuffix text
  match rest with
  | c :: _ => if Text.isIdentifierChar c then none else some rest
  | [] => some rest

def isDigitOrLine (c : Char) : Bool :=
  Text.isAsciiDigit c || c = '_'

/-- The rest after an exponent, from its letter on; it needs a digit. -/
def exponent? (text : List Char) : Option (List Char) :=
  match text with
  | letter :: rest =>
    if letter = 'e' || letter = 'E' then
      let lined := rest.dropWhile (· = '_')
      let unsigned :=
        match lined with
        | sign :: tail => if sign = '+' || sign = '-' then tail else lined
        | [] => lined
      if (unsigned.takeWhile isDigitOrLine).any Text.isAsciiDigit then
        some (unsigned.dropWhile isDigitOrLine)
      else none
    else none
  | [] => none

/-- A number with a point or an exponent. -/
def float? (text : List Char) : Option (List Char) := do
  match text with
  | first :: _ => guard (Text.isAsciiDigit first)
  | [] => none
  match text.dropWhile isDigitOrLine with
  | '.' :: rest =>
    match rest with
    | c :: _ => guard (c ≠ '.' && !Text.isIdentifierStart c)
    | [] => pure ()
    let rest := rest.dropWhile isDigitOrLine
    endNumber ((exponent? rest).getD rest)
  | rest => endNumber (← exponent? rest)

/-- The digits of a base that a text starts with, lines between them skipped, and their value. -/
def readDigitsOf (base : Nat) : Nat → Nat → List Char → Option (Nat × Nat × List Char)
  | count, value, [] => some (count, value, [])
  | count, value, c :: rest =>
    if c = '_' then
      if count = 0 ∧ base = 10 then none else readDigitsOf base count value rest
    else
      match Text.hexDigit? c with
      | none => some (count, value, c :: rest)
      | some digit =>
        if digit < base then readDigitsOf base (count + 1) (base * value + digit) rest
        else if digit < 10 then none
        else some (count, value, c :: rest)

/-- A whole number in base ten, or in another base behind its mark. -/
def integer? (text : List Char) : Option (LiteralKind × List Char) := do
  let (base, digits) :=
    match text with
    | '0' :: 'x' :: rest => (16, rest)
    | '0' :: 'o' :: rest => (8, rest)
    | '0' :: 'b' :: rest => (2, rest)
    | text => (10, text)
  let (count, value, rest) ← readDigitsOf base 0 0 digits
  guard (0 < count)
  let after ← endNumber rest
  return (.integer value (after.length < rest.length), after)

def literal? (text : List Char) : Option (LiteralKind × List Char) :=
  ((quoted? text).map fun (kind, rest) => (kind, skipSuffix rest)).or
    (((float? text).map (LiteralKind.float, ·)).or (integer? text))

/-! ### Marks -/

def marks : List Char := "~!@#$%^&*-=+|;:,<.>/?'".toList

def isMark (text : List Char) : Bool :=
  !startsWith "//" text && !startsWith "/*" text &&
    match text with
    | c :: _ => marks.contains c
    | [] => false

/-- A lifetime: an apostrophe and a name that no apostrophe ends. Before a literal that starts like a
name the apostrophe is a mark. -/
def lifetime? (text : List Char) : Option (Token × List Char) := do
  let (name, rest) ← anyIdentifier? text
  match rest with
  | '\'' :: _ => none
  | '#' :: _ => guard (startsWith "r#" text)
  | _ => pure ()
  if (literal? text).isSome then return (.punct '\'' true, text)
  else return (.lifetime (String.ofList name), rest)

def mark? (text : List Char) : Option (Token × List Char) :=
  match text with
  | [] => none
  | c :: rest =>
    if isMark text then
      if c = '\'' then lifetime? rest else some (.punct c (isMark rest), rest)
    else none

/-! ### The lexer -/

def delimiter? : Char → Option Lexeme
  | '(' => some (.opening .parenthesis)
  | '[' => some (.opening .bracket)
  | '\x7b' => some (.opening .brace)
  | ')' => some (.closing .parenthesis)
  | ']' => some (.closing .bracket)
  | '\x7d' => some (.closing .brace)
  | _ => none

def token? (text : List Char) : Option (Token × List Char) :=
  match literal? text with
  | some (kind, rest) =>
    some (.literal kind (String.ofList (text.take (text.length - rest.length))), rest)
  | none => (mark? text).or ((identifier? text).map fun (name, rest) =>
      (.ident (String.ofList name), rest))

/-- The text that stands where a literal could not be read. -/
def faultyLiteral : String := "(/*ERROR*/)"

/-- The lexemes at the start of a text that starts with none of blank and plain comment. -/
def lexemes? (text : List Char) : Option (List Lexeme × List Char) :=
  match documentation? text with
  | some (comment, isInner, rest) => some (documentationLexemes comment isInner, rest)
  | none =>
    if startsWith faultyLiteral text then
      some ([.token (.literal .faulty faultyLiteral)], text.drop faultyLiteral.length)
    else
      match text with
      | [] => none
      | c :: rest =>
        match delimiter? c with
        | some lexeme => some ([lexeme], rest)
        | none => (token? text).map fun (token, rest) => ([.token token], rest)

/-- All lexemes of a text. Every turn takes something off the text, so `turns` need not pass its
length. -/
def lexAll : (turns : Nat) → List Char → Option (List Lexeme)
  | _, [] => some []
  | 0, _ => none
  | turns + 1, text =>
    match skipOne? text with
    | some rest => lexAll turns rest
    | none => do
      let (lexemes, rest) ← lexemes? text
      return lexemes ++ (← lexAll turns rest)

/-- Closes groups: `outer` holds the groups around the current one, innermost first, each with the
tokens before it; tokens are kept the latest first. -/
def closeGroups (outer : List (Delimiter × List Token)) (current : List Token) :
    List Lexeme → Option (List Token)
  | [] => if outer.isEmpty then some current.reverse else none
  | .token token :: rest => closeGroups outer (token :: current) rest
  | .opening delimiter :: rest => closeGroups ((delimiter, current) :: outer) [] rest
  | .closing delimiter :: rest =>
    match outer with
    | (opened, before) :: further =>
      if opened = delimiter then
        closeGroups further (.group delimiter current.reverse :: before) rest
      else none
    | [] => none

/-- The tokens of a text; a byte order mark at its start does not count. -/
def lex? (text : List Char) : Option (List Token) :=
  let text := (Text.stripStart? ['\ufeff'] text).getD text
  (lexAll text.length text).bind (closeGroups [] [])

end Advent.Derive
