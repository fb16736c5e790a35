-- The section `output`: the formats in which results are written, and the folder of the files.
import CorpusSearch.Report.Format
import CorpusSearch.Settings.Section
import CorpusSearch.Text.Case

namespace CorpusSearch.Settings

structure Output where
  folder : Text
  formats : List Text
  deriving DecidableEq, Repr

namespace Output

/-- Names without blank ones and repetitions, in small letters. -/
def formatNames (names : List Text) : List Text :=
  ((names.map Text.strip).filter fun name => !name.isEmpty).map Text.lower |>.foldl
    (fun done name => if done.contains name then done else done ++ [name]) []

/-- Reads the section. -/
def read (raw : Entries) : Except Fault Output := do
  let entries ← sectionOf false "output" raw
  let names ← asTextOrList "output.formats"
    (optional entries "formats" (.list [.text Report.Format.console.name]))
  let folder ← asText "output.base_dir" (optional entries "base_dir" (.text "output"))
  return { folder, formats := formatNames names }

/-- Checks the section: one format at least, and only known ones. -/
def check (output : Output) : Except Fault Unit := do
  checkNotBlank "output.base_dir" output.folder
  if output.formats.isEmpty then .error .noFormat
  let unknown := output.formats.filter fun name => (Report.Format.ofName? name).isNone
  if !unknown.isEmpty then
    .error (.unknownFormats unknown (Report.Format.all.map Report.Format.name))

end Output

end CorpusSearch.Settings
