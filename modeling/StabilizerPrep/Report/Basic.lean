import StabilizerPrep.Document.Json
import StabilizerPrep.Document.Yaml

/-!
# Reports

The result of a command can be written in three formats. A report holds the
lines for the reader and the document for the other two.
-/

namespace StabilizerPrep

set_option autoImplicit false

inductive Format where
  | text
  | json
  | yaml
  deriving DecidableEq, Repr

namespace Format

def every : List Format :=
  [.text, .json, .yaml]

def name : Format → String
  | .text => "text"
  | .json => "json"
  | .yaml => "yaml"

def ofName? (name : String) : Option Format :=
  every.find? fun format => format.name == name

end Format

structure Report where
  lines : List String
  document : Document

def Report.render (report : Report) : Format → String
  | .text => Text.unlines report.lines
  | .json => JsonText.render report.document ++ "\n"
  | .yaml => YamlText.render report.document

end StabilizerPrep
