import ChannelLint.Error
import ChannelLint.Rule

/-!
# Reports

What all reports share: the name and version of the tool, the path under which a file is shown, and
the error of a report on something that cannot be written.
-/

namespace ChannelLint.Report

/-- The name of the tool. -/
def toolName : String := "brslint"

/-- The version of the tool. -/
def toolVersion : String := "0.1.0"

/-- An error unless what a report needs can be written. -/
def requireWritable (writable : Bool) : Except LintError Unit :=
  if writable then .ok () else .error .integerTooLong

/-- The path under which the file of a warning is shown in a report on the given root. -/
def shownPath (cwd : Location) (root : Path) (warning : Warning) : Except LintError String :=
  if warning.path.hasNull || root.hasNull then .error .nullInPath
  else .ok (reportPath cwd warning.path root)

/-- The warnings with the paths under which their files are shown. -/
def withPaths (cwd : Location) (root : Path) :
    List Warning → Except LintError (List (String × Warning))
  | [] => .ok []
  | warning :: rest => do
      let path ← shownPath cwd root warning
      let others ← withPaths cwd root rest
      pure ((path, warning) :: others)

end ChannelLint.Report
