import CriticalCss.FileTree
import CriticalCss.Stylesheet.Schema
import CriticalCss.Text.Lines

/-!
# Stylesheets in files

A stylesheet file holds a JSON text in UTF-8, with line ends of any kind.
-/

namespace CriticalCss.Stylesheet

/-- The text of a file. -/
def readText (tree : FileTree) (path : String) : Except Fault String :=
  if path.toList.contains '\x00' then .error .nullInPath
  else
    let filePath := FilePath.ofText path
    match tree.read filePath with
    | .error failure => .error (.unreadableFile filePath.render failure.message)
    | .ok bytes =>
      match Text.decode bytes with
      | .error error => .error (.undecodable error)
      | .ok chars => .ok (String.ofList (Text.unifyLineEnds chars))

/-- The value that the text of a file denotes. -/
def decodeText (path text : String) : Except Fault Value :=
  match Json.read text with
  | .ok value => .ok value
  | .error error =>
    match error.problem with
    | .tooLong digits => .error (.tooManyDigits digits)
    | problem =>
      .error (.fileNotJson (FilePath.ofText path).render problem (error.line text.toList))

/-- The rules of the stylesheet in a file. -/
def load (tree : FileTree) (path : String) : Except Fault Value := do
  let text ← readText tree path
  let stylesheet ← decodeText path text
  parse stylesheet

end CriticalCss.Stylesheet
