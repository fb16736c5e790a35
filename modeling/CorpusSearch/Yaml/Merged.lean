-- Mappings that take over the entries of others: the entries behind a merge key come first, so that
-- an entry of the mapping itself counts more.
import CorpusSearch.Yaml.Node

namespace CorpusSearch.Yaml.Node

def tag : Node → Tag
  | .scalar tag _ | .sequence tag _ | .mapping tag _ => tag
  | .around => .sequence

/-- The entries of mappings that are taken over: those that come first, and those that stay. -/
structure Split where
  taken : List (Node × Node) := []
  own : List (Node × Node) := []

/-- All entries, those that are taken over first. -/
def Split.all (split : Split) : List (Node × Node) := split.taken ++ split.own

/-- A key as it stands in a mapping; the lone equals sign is a text there. -/
def asKey : Node → Node
  | .scalar .equals text => .scalar .text text
  | node => node

def noEntry : Node × Node := (.scalar .unknown [], empty)

mutual

/-- The node with the entries taken over in every mapping of it. Entries that cannot be taken over
leave a mapping without a value. -/
def merged : Node → Node
  | .scalar tag text => .scalar tag text
  | .sequence tag items => .sequence tag (mergedItems items)
  | .mapping tag entries =>
    if tag = .mapping || tag = .set then
      .mapping tag (((splitEntries entries).map Split.all).getD [noEntry])
    else .mapping tag (mergedEntries entries)
  | .around => .around

/-- The nodes of a sequence with the entries taken over in each. -/
def mergedItems : List Node → List Node
  | [] => []
  | item :: items => merged item :: mergedItems items

/-- The entries with those taken over in their keys and values. -/
def mergedEntries : List (Node × Node) → List (Node × Node)
  | [] => []
  | (key, value) :: entries => (merged key, merged value) :: mergedEntries entries

/-- The entries of a mapping, with those that its merge keys take over. -/
def splitEntries : List (Node × Node) → Option Split
  | [] => some {}
  | (key, value) :: entries => do
    if key.tag = .merge then
      let taken ← takenFrom value
      let split ← splitEntries entries
      return { split with taken := taken ++ split.taken }
    else
      let split ← splitEntries entries
      return { split with own := (asKey (merged key), merged value) :: split.own }

/-- The entries that a merge key takes over: those of a mapping or of mappings in a sequence. -/
def takenFrom : Node → Option (List (Node × Node))
  | .mapping _ entries => (splitEntries entries).map Split.all
  | .sequence _ items => takenFromItems items
  | .around => some []
  | .scalar _ _ => none

/-- The entries of mappings in a sequence, those of the last one first, so that the first one counts
most. -/
def takenFromItems : List Node → Option (List (Node × Node))
  | [] => some []
  | .mapping _ items :: rest => do
    let entries ← splitEntries items
    return (← takenFromItems rest) ++ entries.all
  | _ :: _ => none

end

end CorpusSearch.Yaml.Node
