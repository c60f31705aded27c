/-
**Reports as a table in HTML.**

Texts are escaped, so that no text can open or close an element of the table.
-/
import HostWatch.Problem.Report

namespace HostWatch.Html

/-- The special characters of HTML and what stands for them. The ampersand comes first, as it stands in all of
the others. -/
def entities : List (Char × String) := [('&', "&amp;"), ('<', "&lt;"), ('>', "&gt;")]

/-- A text with another text in every place of a character. -/
def replaceChar (special : Char) (entity s : List Char) : List Char :=
  s.flatMap fun c => if c = special then entity else [c]

/-- A text with the special characters of HTML escaped, one after the other. -/
def escape (s : String) : String :=
  String.ofList (entities.foldl (fun text entity => replaceChar entity.1 entity.2.toList text) s.toList)

def tableHead : String :=
  "<table border=\"1\"><thead><tr><th>Problem type</th><th>Status</th><th>Diagnosis</th></tr></thead>"

/-- The background of the status of a report. -/
def statusColor (flagged : Bool) : String := if flagged then "#d24343" else "#28cb17"

def statusWord (flagged : Bool) : String := if flagged then "WARN" else "OK"

def tableRow (report : Report) : String :=
  "<tr><td>" ++ escape report.title ++ "</td><td bgcolor=\"" ++ statusColor report.flagged ++ "\">" ++
    statusWord report.flagged ++ "</td><td><pre>" ++ escape report.diagnosis ++ "</pre></td></tr>"

def table (reports : List Report) : String :=
  "\n".intercalate (tableHead :: reports.map tableRow ++ ["</table>"])

end HostWatch.Html
