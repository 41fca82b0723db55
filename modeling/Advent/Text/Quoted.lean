import Advent.Text.Unshown

/-!
# Quoted text in messages

Messages show text between quotes. The quote itself, the backslash, NUL, tab, line feed and carriage
return have an escape of two characters; every other character that is not shown is written by its
code point in hexadecimal; the rest stands for itself.
-/
namespace Advent.Text

/-- The form of one character between quotes of the given kinds. -/
def escapeChar (quotes : List Char) (c : Char) : List Char :=
  match c with
  | '\x00' => ['\\', '0']
  | '\t' => ['\\', 't']
  | '\r' => ['\\', 'r']
  | '\n' => ['\\', 'n']
  | '\\' => ['\\', '\\']
  | c =>
    if c ∈ quotes then ['\\', c]
    else if isUnshown c then ['\\', 'u', '\x7b'] ++ Nat.toDigits 16 c.toNat ++ ['\x7d']
    else [c]

def escape (quotes : List Char) (text : List Char) : List Char :=
  text.flatMap (escapeChar quotes)

/-- A text between double quotes; an apostrophe needs no escape in it. -/
def quote (text : List Char) : String :=
  String.ofList (['"'] ++ escape ['"'] text ++ ['"'])

/-- A character between apostrophes; a double quote needs no escape in it. -/
def quoteChar (c : Char) : String :=
  String.ofList (['\''] ++ escapeChar ['\''] c ++ ['\''])

/-- A path between double quotes, both kinds of quote escaped. -/
def quotePath (path : List Char) : String :=
  String.ofList (['"'] ++ escape ['"', '\''] path ++ ['"'])

/-- A bracketed list of quoted texts. -/
def quoteList (texts : List (List Char)) : String :=
  "[" ++ ", ".intercalate (texts.map quote) ++ "]"

end Advent.Text
