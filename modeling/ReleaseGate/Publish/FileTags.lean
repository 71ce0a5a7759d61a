import ReleaseGate.Text.Lines

/-!
# Tags in file names

The upload form of a package index tells what kind of file it carries and for which interpreter. Both are read off the file
name: a wheel's name has five or six components between hyphens, of which the third from the end is the interpreter tag.
-/

namespace ReleaseGate.FileTags

/-- The ending of the file name of a wheel. -/
def wheelEnding : List Char := ['.', 'w', 'h', 'l']

/-- The kind of a file, as upload forms have it. -/
def fileType (fileName : String) : String :=
  if (Text.beforeSuffix? wheelEnding fileName.toList).isSome then "bdist_wheel" else "sdist"

/-- The third component from the end, when there are at least five. -/
def interpreterComponent? (components : List (List Char)) : Option (List Char) :=
  if 5 ≤ components.length then components.reverse[2]? else none

/-- The interpreter tag of a file, as upload forms have it. -/
def interpreterTag (fileName : String) : String :=
  match Text.beforeSuffix? wheelEnding fileName.toList with
  | some stem => ((interpreterComponent? (Text.fields '-' stem)).map String.ofList).getD "any"
  | none => "source"

end ReleaseGate.FileTags
