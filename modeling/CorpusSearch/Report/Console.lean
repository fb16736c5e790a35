-- A result as a text for readers: the summary, and the records of each group with their excerpts.
import CorpusSearch.Corpus.Document
import CorpusSearch.Report.Summary
import CorpusSearch.Snippet.Highlight
import CorpusSearch.Text.Blank

namespace CorpusSearch.Report

open Corpus

/-- How many characters of a hash are shown. -/
def shownHash : Nat := 12

/-- The lines of a record with its number in the group. -/
def recordLines (needles : List Text) (number : Nat) (record : Record) : List Text :=
  [Number.digits number ++ ". " ++ record.title,
    "   TXT: " ++ record.url,
    "   size: " ++ Number.grouped record.size ++ " bytes  sha256: " ++
      record.hash.take shownHash ++ "…" ++
      (if record.strict then ([] : Text) else "  (relaxed match)")] ++
    record.snippets.map fun snippet =>
      "   > " ++ Snippet.highlight Snippet.openMark Snippet.closeMark needles snippet

/-- The lines of records, the first of them with the number `number`, an empty line behind each. -/
def recordsLines (needles : List Text) : (number : Nat) → List Record → List Text
  | _, [] => []
  | number, record :: records =>
    recordLines needles number record ++ [[]] ++ recordsLines needles (number + 1) records

def groupLines (result : Result) (kind : Kind) : List Text :=
  let records := result.group kind
  ("== " ++ kind.heading ++ " (" ++ Number.digits records.length ++ ") ==") ::
    recordsLines result.needles 1 records

/-- A result as a text, without blanks at the end and with one line break there. -/
def text (result : Result) : Text :=
  (Text.join ['\n']
    (summary result.stats :: [] :: Kind.all.flatMap (groupLines result))).stripEnd ++ ['\n']

/-- A result as a text, unless it has too many bytes. -/
def text? (result : Result) : Except Fault Text :=
  (summary? result.stats).map fun _ => text result

end CorpusSearch.Report
