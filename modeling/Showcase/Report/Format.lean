import Showcase.Report.Text
import Showcase.Report.Csv
import Showcase.Report.Data
import Showcase.Report.Markdown
import Showcase.Settings.Format

namespace Showcase

/-! # Writing results in a format -/

/-- How the text for people is written. -/
structure TextStyle where
  colors : Bool
  verbose : Bool
  quiet : Bool
deriving DecidableEq, Repr

/-- Results in a format.  The style concerns the text for people alone. -/
def Results.format (results : Results) (format : OutputFormat) (style : TextStyle) :
    Except Fault String :=
  match format with
  | .text =>
    .ok (if style.quiet then Report.brief results
      else Report.text style.colors style.verbose results)
  | .json => Report.json results
  | .csv => Report.csv results
  | .markdown => .ok (Report.markdown results)

end Showcase
