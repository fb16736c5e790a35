-- The line that sums up the work of a search.
import CorpusSearch.Corpus.Document
import CorpusSearch.Number.Shortest

namespace CorpusSearch.Report

open Corpus

/-- Why a result cannot be shown: its byte count in kilobytes is past every floating-point
number. -/
inductive Fault where
  | tooManyBytes
  deriving DecidableEq, Repr

/-- What is said of a result that cannot be shown. -/
def Fault.message : Fault → Text
  | .tooManyBytes => "integer division result too large for a float"

/-- The bytes in units of 1024, infinite when that is past every floating-point number. -/
def kilobytes (stats : Stats) : Double := .nearest (stats.bytes < 0) stats.bytes.natAbs 1024

/-- The work of a search in one line. -/
def summary (stats : Stats) : Text :=
  "Scanned — docs: " ++ Number.decimal stats.documents ++ ", bytes: " ++
    Number.grouped stats.bytes ++ " (≈" ++ (kilobytes stats).fixed 1 ++ " KB), matched: " ++
    Number.decimal stats.hits

/-- The work of a search in one line, unless it has too many bytes. -/
def summary? (stats : Stats) : Except Fault Text :=
  match kilobytes stats with
  | .infinite _ => .error .tooManyBytes
  | _ => .ok (summary stats)

end CorpusSearch.Report
