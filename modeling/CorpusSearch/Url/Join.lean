-- Relative addresses, resolved against a base.
import CorpusSearch.Url.Parts

namespace CorpusSearch.Url

/-- The segments of a path between its slashes. -/
def segments (path : Text) : List Text := Text.splitAt (· == '/') path

/-- Drops the empty segments but the first and the last one. -/
def dropInnerEmpty : List Text → List Text
  | [] => []
  | first :: rest =>
    first :: (rest.dropLast.filter fun segment => !segment.isEmpty) ++ rest.getLast?.toList

/-- The segments of a path that is resolved against the path of the base: those of the path itself
if it starts at the root, else behind those of the base up to its last slash. -/
def joinedSegments (base path : Text) : List Text :=
  if path.head? = some '/' then segments path
  else
    let folders := segments base
    let folders := if folders.getLast? = some [] then folders else folders.dropLast
    dropInnerEmpty (folders ++ segments path)

/-- Follows the dot segments; `done` holds the segments so far, the last one first. Two dots at the
root stay there. -/
def followDots (done : List Text) : List Text → List Text
  | [] => done.reverse
  | segment :: rest =>
    if segment = ['.', '.'] then followDots done.tail rest
    else if segment = ['.'] then followDots done rest
    else followDots (segment :: done) rest

/-- The path of joined segments, with a slash at the end when the last one is a dot segment. -/
def resolvedPath (joined : List Text) : Text :=
  let isDots := joined.getLast? = some ['.'] || joined.getLast? = some ['.', '.']
  let path := Text.join ['/'] (followDots [] joined ++ if isDots then [[]] else [])
  if path.isEmpty then ['/'] else path

/-- Resolves an address against a base. An address of another scheme stays as it is, and so does one
whose scheme does not know relative addresses. -/
def join (base url : Text) : Except Fault Text := do
  if base.isEmpty then return url
  if url.isEmpty then return base
  let base ← Parts.read [] base
  let parts ← Parts.read base.scheme url
  if parts.scheme ≠ base.scheme || !relativeSchemes.contains parts.scheme then return url
  if hostSchemes.contains parts.scheme && !parts.authority.isEmpty then return parts.write
  let authority := if hostSchemes.contains parts.scheme then base.authority else parts.authority
  if parts.path.isEmpty && parts.params.isEmpty then
    return { parts with
      authority
      path := base.path
      params := base.params
      query := if parts.query.isEmpty then base.query else parts.query : Parts }.write
  else
    return { parts with
      authority, path := resolvedPath (joinedSegments base.path parts.path) : Parts }.write

end CorpusSearch.Url
