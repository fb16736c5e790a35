-- The expression of a token list. NOT binds closest, then the unwritten AND, then OR, and equal
-- operators group to the left. No token list is refused: a missing operand is `always`, an open
-- parenthesis without a partner reaches to the end, and a closing one without a partner ends the
-- expression. Expressions may stand in one another as deep as they like, here and wherever they are
-- tested or shown: of all recursions, only the one that reads JSON has a limit.
import CorpusSearch.Query.Expr

namespace CorpusSearch.Query

/-- An expression that is being read: the part left of the last OR, the part behind it, and the
count of NOTs that wait for their operand. -/
structure Group where
  disjunct : Option Expr := none
  conjunct : Option Expr := none
  negations : Nat := 0
  deriving DecidableEq, Repr, Inhabited

namespace Group

/-- Whether an operand has to follow. -/
def isOpen (group : Group) : Bool := group.conjunct.isNone || 0 < group.negations

/-- An expression under a count of NOTs. -/
def negate : Nat → Expr → Expr
  | 0, e => e
  | n + 1, e => .not (negate n e)

def operand (e : Expr) (group : Group) : Group :=
  let e := negate group.negations e
  { group with
    conjunct := some (match group.conjunct with
      | none => e
      | some left => .and left e)
    negations := 0 }

/-- The whole expression read so far, `always` standing for an operand that is missing. -/
def result (group : Group) : Expr :=
  let group := if group.isOpen then group.operand .always else group
  match group.disjunct, group.conjunct with
  | none, none => .always
  | none, some e => e
  | some left, none => left
  | some left, some e => .or left e

/-- Ends the part behind the last OR by another OR. -/
def disjoin (group : Group) : Group := { disjunct := some group.result }

end Group

/-- Ends all groups at the end of the tokens, the innermost one first. -/
def closeAll (group : Group) : List Group → Expr
  | [] => group.result
  | outer :: groups => closeAll (outer.operand group.result) groups

/-- Reads tokens into a group that stands inside the groups of `outer`, the nearest one first. The
result is the expression and the tokens behind it. -/
def parseFrom (outer : List Group) (group : Group) : List Token → Expr × List Token
  | [] => (closeAll group outer, [])
  | token :: rest =>
    match token.kind with
    | .openParen => parseFrom (group :: outer) {} rest
    | .notOp => parseFrom outer { group with negations := group.negations + 1 } rest
    | .notTerm => parseFrom outer (group.operand (.not (.term token.word))) rest
    | .term => parseFrom outer (group.operand (.term token.word)) rest
    | .phrase => parseFrom outer (group.operand (.phrase token.word)) rest
    | .andOp => parseFrom outer (group.operand .always) rest
    | .orOp =>
      if group.isOpen then parseFrom outer (group.operand .always) rest
      else parseFrom outer group.disjoin rest
    | .closeParen =>
      if group.isOpen then parseFrom outer (group.operand .always) rest
      else match outer with
        | [] => (group.result, token :: rest)
        | next :: outer => parseFrom outer (next.operand group.result) rest

/-- The expression of a token list and the tokens that are left over. -/
def parseAll (tokens : List Token) : Expr × List Token := parseFrom [] {} tokens

/-- The expression of a token list. -/
def parse (tokens : List Token) : Expr := (parseAll tokens).1

end CorpusSearch.Query
