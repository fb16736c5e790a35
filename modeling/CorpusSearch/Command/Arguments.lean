-- The words of a command line. The words behind the name of the command are read only when the
-- settings are known.
import CorpusSearch.Corpus.Document
import CorpusSearch.Files.Disk
import CorpusSearch.Settings.Source
import CorpusSearch.Text.Case

namespace CorpusSearch.Command

open Corpus Files

inductive Name where
  | search
  | mode
  deriving DecidableEq, Repr

/-- The name of a command, as it is typed and as log files are named. -/
def Name.text : Name → Text
  | .search => "search"
  | .mode => "mode"

def Name.ofText? (text : Text) : Option Name :=
  [Name.search, .mode].find? fun name => name.text = text

/-- A call: the file of settings, the name of the command, and the words behind it. -/
structure Call where
  settings : Path
  name : Name
  words : List Text
  deriving DecidableEq, Repr

/-- Whether a word is an option; a lone hyphen is none. -/
def isOption : Text → Bool
  | '-' :: _ :: _ => true
  | _ => false

/-! ## The call -/

/-- The option that names the file of settings. -/
def settingsOption : Text := "--config"

/-- Reads the options before the name of the command; of a repeated one the last value counts. -/
def readOptions (path : Option Text) : List Text → Option (Option Text × List Text)
  | [] => some (path, [])
  | [word] =>
    if word = "--".toList then some (path, [])
    else match Text.cutAt? (· == '=') word with
      | some (option, value) =>
        if option = settingsOption then some (some value, [])
        else if isOption word then none else some (path, [word])
      | none => if isOption word then none else some (path, [word])
  | word :: next :: words =>
    if word = "--".toList then some (path, next :: words)
    else if word = settingsOption then readOptions (some next) words
    else match Text.cutAt? (· == '=') word with
      | some (option, value) =>
        if option = settingsOption then readOptions (some value) (next :: words)
        else if isOption word then none else some (path, word :: next :: words)
      | none => if isOption word then none else some (path, word :: next :: words)

/-- Why words are no call. -/
inductive Misuse where
  | words
  /-- The path of the settings cannot be asked for. -/
  | path (fault : Fault)
  deriving DecidableEq, Repr

/-- The path of the file of settings. It must not be that of a folder, and the empty text stands for
no folder. A path with a zero cannot even be asked for. -/
def settingsPath (disk : Disk) (path? : Option Text) : Except Misuse Path :=
  let path := (path?.map Path.ofText).getD Settings.defaultPath
  if disk.place path matches .error .zeroByte then .error (.path (.refused .zeroByte path))
  else if disk.isFolder path && path? ≠ some [] then .error .words
  else .ok path

def Call.read (disk : Disk) (words : List Text) : Except Misuse Call := do
  match readOptions none words with
  | none => throw .words
  | some (path?, words) =>
    let settings ← settingsPath disk path?
    match words with
    | [] => throw .words
    | word :: words => match Name.ofText? word with
      | none => throw .words
      | some name => return { settings, name, words }

/-! ## The command -/

inductive Order where
  /-- A search for words; without a mode the stored one counts. -/
  | search (words : List Text) (mode : Option Mode)
  /-- The stored mode, changed if a value is given. -/
  | mode (fullText : Option Bool)
  deriving DecidableEq, Repr

def modeOptions : List (Text × Mode) := [("--fulltext", .fullText), ("--simple", .simple)]

/-- Reads the words of a search; of several modes the last one counts. -/
def readSearch (mode : Option Mode) : List Text → Option (List Text × Option Mode)
  | [] => some ([], mode)
  | word :: words =>
    if word = "--".toList then some (words, mode)
    else match modeOptions.lookup word with
      | some chosen => readSearch (some chosen) words
      | none =>
        if isOption word then none
        else (readSearch mode words).map fun (words, mode) => (word :: words, mode)

/-- Whether a word is that of a switch, in letters of either case. The ligature of two f counts as
its letters. -/
def switch? (word : Text) : Option Bool :=
  let word := Text.lower (word.flatMap fun c => if c = 'ﬀ' then ['f', 'f'] else [c])
  if word = "on".toList then some true
  else if word = "off".toList then some false
  else none

/-- Words without the mark of the end of options; none when there is an option before it. -/
def withoutOptions : List Text → Option (List Text)
  | [] => some []
  | word :: words =>
    if word = "--".toList then some words
    else if isOption word then none
    else (withoutOptions words).map (word :: ·)

/-- The command of a call; none when its words are not used in the right way. -/
def Call.order? (call : Call) : Option Order := do
  match call.name with
  | .search => (readSearch none call.words).map fun (words, mode) => .search words mode
  | .mode => match ← withoutOptions call.words with
    | [] => return .mode none
    | [word] => return .mode (some (← switch? word))
    | _ => none

end CorpusSearch.Command
