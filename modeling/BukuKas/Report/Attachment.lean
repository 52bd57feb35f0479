import BukuKas.Report.Chart
import BukuKas.Report.Workbook

/-!
# Attachments

What a reply can carry besides its text.
-/

namespace BukuKas.Report

/-- A chart or the sheets of a workbook. -/
inductive Content where
  | chart (c : Chart)
  | workbook (sheets : List Sheet)
  deriving DecidableEq

/-- A file that goes with a reply. -/
structure Attachment where
  filename : String
  content : Content
  deriving DecidableEq

namespace Attachment

/-- The kind of the file. -/
def mime (a : Attachment) : String :=
  match a.content with
  | .chart _ => "image/png"
  | .workbook _ => "application/vnd.openxmlformats-officedocument.spreadsheetml.sheet"

end Attachment

/-- The makers of attachments.  One that is out of order costs the reply its attachment only. -/
inductive Renderer where
  | chart
  | workbook
  deriving DecidableEq, Repr

end BukuKas.Report
