/-!
# Tokens of an item

An item is written in tokens: identifiers, lifetimes, single marks, literals as they are written, and
groups of tokens between delimiters.
-/
namespace Advent.Derive

inductive Delimiter
  | parenthesis
  | bracket
  | brace
  deriving Repr, DecidableEq

inductive LiteralKind
  | string
  | byteString
  | cString
  | byte
  | character
  | integer (value : Nat) (hasSuffix : Bool)
  | float
  /-- Stands where a literal could not be read. -/
  | faulty
  deriving Repr, DecidableEq

inductive Token
  /-- A raw identifier keeps its mark. -/
  | ident (name : String)
  | lifetime (name : String)
  /-- A mark is joint if another mark follows it at once. -/
  | punct (mark : Char) (isJoint : Bool)
  | literal (kind : LiteralKind) (text : String)
  | group (delimiter : Delimiter) (body : List Token)
  deriving Repr

mutual

/-- The count of tokens, those inside groups included. -/
def Token.size : Token → Nat
  | .group _ body => sizeOfTokens body + 1
  | _ => 1

def sizeOfTokens : List Token → Nat
  | [] => 0
  | token :: rest => token.size + sizeOfTokens rest

end

/-! ### Equality -/

mutual

/-- Whether two tokens are the same, groups by the tokens in them. -/
def Token.isSame : Token → Token → Bool
  | .ident name, .ident other => name = other
  | .lifetime name, .lifetime other => name = other
  | .punct mark isJoint, .punct other isOtherJoint => mark = other && isJoint = isOtherJoint
  | .literal kind text, .literal otherKind otherText => kind = otherKind && text = otherText
  | .group delimiter body, .group other otherBody => delimiter = other && areSame body otherBody
  | _, _ => false

def areSame : List Token → List Token → Bool
  | [], [] => true
  | token :: rest, other :: others => token.isSame other && areSame rest others
  | _, _ => false

end

mutual

theorem Token.isSame_iff (token other : Token) : token.isSame other ↔ token = other := by
  cases token <;> cases other <;> simp [Token.isSame, areSame_iff]

theorem areSame_iff (tokens others : List Token) : areSame tokens others ↔ tokens = others := by
  cases tokens <;> cases others <;> simp [areSame, Token.isSame_iff, areSame_iff]

end

instance : DecidableEq Token :=
  fun token other => decidable_of_iff _ (Token.isSame_iff token other)

end Advent.Derive
