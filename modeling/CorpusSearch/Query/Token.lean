-- The tokens of a query. Words and phrases are held in normal form.
import CorpusSearch.Text.Decomposition

namespace CorpusSearch.Query

inductive Kind where
  | term
  | phrase
  | notTerm
  | andOp
  | orOp
  | notOp
  | openParen
  | closeParen
  deriving DecidableEq, Repr, Inhabited

/-- A token; only terms, phrases and excluded terms have a text. -/
structure Token where
  kind : Kind
  text : Option Text := none
  deriving DecidableEq, Repr, Inhabited

namespace Token

def term (text : Text) : Token := ⟨.term, some text.normalize⟩

def phrase (text : Text) : Token := ⟨.phrase, some text.normalize⟩

/-- Whether a token asks for a text to be there. -/
def isPositive (token : Token) : Bool := token.kind == .term || token.kind == .phrase

/-- The text of a token, empty when it has none. -/
def word (token : Token) : Text := token.text.getD []

/-- The token of a word: an operator when it reads OR or NOT in capitals, an excluded term behind a
minus sign, and a term otherwise. -/
def ofWord (word : Text) : Token :=
  if word.upper = ['O', 'R'] then ⟨.orOp, none⟩
  else if word.upper = ['N', 'O', 'T'] then ⟨.notOp, none⟩
  else match word with
    | '-' :: rest => ⟨.notTerm, some (Text.normalize rest)⟩
    | word => term word

end Token

end CorpusSearch.Query
