-- A query made ready for matching: what it asks of a text strictly, what is enough when that
-- fails, and the texts to show in excerpts.
import CorpusSearch.Query.Parser
import CorpusSearch.Query.Segment
import CorpusSearch.Query.Synonyms

namespace CorpusSearch.Query

/-- The OR of all terms and phrases among the tokens, `always` when there are none. -/
def anyOf (tokens : List Token) : Expr :=
  match (tokens.filter Token.isPositive).map Expr.leaf with
  | [] => .always
  | leaf :: leaves => leaves.foldl .or leaf

/-- The texts of the terms and phrases among the tokens, each one once. -/
def needlesOf (tokens : List Token) : List Text :=
  ((tokens.filter Token.isPositive).filterMap Token.text).eraseDups

/-- A query made ready for matching. -/
structure Compiled where
  raw : Text
  tokens : List Token
  tree : Expr
  relaxedTree : Expr
  needles : List Text
  deriving Repr

namespace Compiled

/-- The query of a text under a table of synonyms. -/
def build (table : Synonyms) (raw : Text) : Compiled :=
  let tokens := expand table (tokenize raw)
  { raw, tokens, tree := parse tokens, relaxedTree := anyOf tokens, needles := needlesOf tokens }

/-- Whether a text in normal form meets the query. -/
def strict (query : Compiled) (text : Text) : Bool := query.tree.holds text

/-- Whether a text in normal form has one of the terms or phrases. -/
def relaxed (query : Compiled) (text : Text) : Bool := query.relaxedTree.holds text

end Compiled

end CorpusSearch.Query
