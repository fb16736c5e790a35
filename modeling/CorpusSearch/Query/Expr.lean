-- Expressions: what a query asks of a text.
import CorpusSearch.Query.Token
import CorpusSearch.Value

namespace CorpusSearch.Query

/-- A query expression; `always` stands where an operand is missing. -/
inductive Expr where
  | always
  | term (text : Text)
  | phrase (text : Text)
  | not (child : Expr)
  | and (left right : Expr)
  | or (left right : Expr)
  deriving DecidableEq, Repr, Inhabited

namespace Expr

def leaf (token : Token) : Expr :=
  if token.kind = .phrase then .phrase token.word else .term token.word

/-- Whether an expression holds of a text: terms and phrases ask to occur in it. -/
def holds (text : Text) : Expr → Bool
  | .always => true
  | .term word => word.occursIn text
  | .phrase word => word.occursIn text
  | .not child => !child.holds text
  | .and left right => left.holds text && right.holds text
  | .or left right => left.holds text || right.holds text

/-! ## Written forms -/

/-- The written form of an expression in the log. -/
def shown : Expr → Text
  | .always => "TrueNode()"
  | .term word => "TermNode(q=" ++ Text.quoted word ++ ")"
  | .phrase word => "PhraseNode(q=" ++ Text.quoted word ++ ")"
  | .not child => "NotNode(child=" ++ child.shown ++ ")"
  | .and left right => "AndNode(left=" ++ left.shown ++ ", right=" ++ right.shown ++ ")"
  | .or left right => "OrNode(left=" ++ left.shown ++ ", right=" ++ right.shown ++ ")"

/-- An expression as a tree of data: a list of the operator's name and the operands. -/
def toValue : Expr → Value
  | .always => .list [.text "TRUE"]
  | .term word => .list [.text "TERM", .text word]
  | .phrase word => .list [.text "PHRASE", .text word]
  | .not child => .list [.text "NOT", child.toValue]
  | .and left right => .list [.text "AND", left.toValue, right.toValue]
  | .or left right => .list [.text "OR", left.toValue, right.toValue]

/-- The expression of a tree of data, or the first part from the left that is none. -/
def ofValue : Value → Except Value Expr
  | .list [.text name, .text word] =>
    if name = "TERM".toList then .ok (.term word)
    else if name = "PHRASE".toList then .ok (.phrase word)
    else .error (.text word)
  | .list [.text _, child] => return .not (← ofValue child)
  | .list [.text name, left, right] => do
    let left ← ofValue left
    let right ← ofValue right
    return if name = "AND".toList then .and left right else .or left right
  | .list _ => .ok .always
  | other => .error other

/-- What is said of a value that is no expression. -/
def unsupported (value : Value) : Text := "Unsupported expression node: " ++ value.shown

end Expr

end CorpusSearch.Query
