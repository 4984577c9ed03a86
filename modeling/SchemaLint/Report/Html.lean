import SchemaLint.Report.Basic
import SchemaLint.Text.Markup

/-!
# Reports as pages

A report can be shown as an HTML page of its own. All text of a report is escaped, so that it cannot
add markup to the page. In place of the built-in page a template may be used, which is told the content
of the page.
-/

namespace SchemaLint

/-- What a template is told of a diagnostic. -/
structure PageEntry where
  severity : String
  rule : String
  message : String
  location : String
  path : String
  line : Int
  column : Int
  fix : Option String
  deriving DecidableEq, Repr

/-- What a template is told of a report. -/
structure PageContent where
  title : String
  source : String
  diagnostics : List PageEntry
  verdict : String
  errors : Nat
  warnings : Nat
  summary : String
  version : String
  deriving DecidableEq, Repr

/-- What a template is told of the diagnostic. -/
def PageEntry.ofDiagnostic (d : Diagnostic) : PageEntry :=
  ⟨d.severity.label, d.rule, d.message, d.location.text, d.location.path, d.location.line,
    d.location.column, d.fix⟩

/-- What a name stands for in a template that has nothing but names between double braces. -/
def PageContent.slot (c : PageContent) : String → String
  | "title" => c.title
  | "source_name" => c.source
  | "verdict" => c.verdict
  | "error_count" => toString c.errors
  | "warning_count" => toString c.warnings
  | "summary" => c.summary
  | "version" => c.version
  | _ => ""

namespace Report

open Text.Markup (escape Piece)

/-- The style sheet of the page. -/
def styleSheet : List String :=
  [
    "    :root \x7b --bg: #1e1e2e; --fg: #cdd6f4; --surface: #313244;",
    "            --red: #f38ba8; --yellow: #f9e2af; --green: #a6e3a1;",
    "            --blue: #89b4fa; --border: #45475a; \x7d",
    "    * \x7b box-sizing: border-box; margin: 0; padding: 0; \x7d",
    "    body \x7b font-family: 'Fira Code', 'Cascadia Code', monospace;",
    "           background: var(--bg); color: var(--fg); padding: 2rem; \x7d",
    "    h1 \x7b margin-bottom: 1rem; \x7d",
    "    .card \x7b background: var(--surface); border: 1px solid var(--border);",
    "            border-radius: 8px; padding: 1rem; margin-bottom: 1rem; \x7d",
    "    .sev-error   \x7b border-left: 4px solid var(--red); \x7d",
    "    .sev-warning \x7b border-left: 4px solid var(--yellow); \x7d",
    "    .badge \x7b display: inline-block; padding: 2px 8px; border-radius: 4px;",
    "             font-size: 0.85em; font-weight: bold; \x7d",
    "    .badge-error   \x7b background: var(--red); color: var(--bg); \x7d",
    "    .badge-warning \x7b background: var(--yellow); color: var(--bg); \x7d",
    "    .loc \x7b color: var(--blue); font-size: 0.9em; \x7d",
    "    .msg \x7b margin-top: 0.4rem; \x7d",
    "    .help \x7b color: var(--green); margin-top: 0.3rem; font-size: 0.9em; \x7d",
    "    .summary \x7b margin-top: 2rem; padding: 1rem; background: var(--surface);",
    "               border-radius: 8px; text-align: center; font-size: 1.1em; \x7d",
    "    .verdict-pass \x7b color: var(--green); \x7d",
    "    .verdict-fail \x7b color: var(--red); \x7d"]

/-- The page up to its heading. -/
def pageHead (title : String) : String :=
  "<!DOCTYPE html>\n<html lang=\"en\">\n<head>\n  <meta charset=\"utf-8\">\n" ++
    "  <meta name=\"viewport\" content=\"width=device-width, initial-scale=1\">\n" ++
    s!"  <title>{escape title}</title>\n  <style>\n" ++
    "\n".intercalate styleSheet ++ "\n  </style>\n</head>\n<body>\n"

/-- The part of the page about a diagnostic. -/
def card (d : Diagnostic) : String :=
  let severity := escape d.severity.label
  let line := if d.location.line = 0 then "" else s!" (line {d.location.line})"
  let help :=
    match d.fix with
    | some fix => s!"\n      <div class=\"help\">help: try <code>{escape fix}</code></div>\n    "
    | none => ""
  s!"\n  <div class=\"card sev-{severity}\">\n" ++
    s!"    <span class=\"badge badge-{severity}\">{severity}</span>\n" ++
    s!"    <code>[{escape d.rule}]</code>\n" ++
    s!"    <span class=\"loc\">{escape d.location.path}{line}</span>\n" ++
    s!"    <div class=\"msg\">{escape d.message}</div>\n    {help}\n  </div>\n  "

/-- The page from behind its last card. -/
def pageFoot (r : Report) : String :=
  let verdict := r.verdict.text
  let shout := String.ofList (verdict.toList.map Char.toUpper)
  "\n  <div class=\"summary\">\n" ++
    s!"    <span class=\"verdict-{verdict}\">{shout}</span>: {escape r.summary}\n" ++
    s!"  </div>\n  <p class=\"loc\">generated by {Program.name} {Program.version}</p>\n" ++
    "</body>\n</html>"

/-- The title of a page. -/
def title (r : Report) : String := s!"{Program.name} report: {r.source}"

/-- The built-in page. -/
def page (r : Report) : String :=
  pageHead r.title ++ s!"  <h1>{escape r.source}</h1>\n  " ++
    String.join (r.diagnostics.map card) ++ r.pageFoot

/-- What a template is told of the report. -/
def content (r : Report) : PageContent :=
  ⟨r.title, r.source, r.diagnostics.map .ofDiagnostic, r.verdict.text, r.errors, r.warnings,
    r.summary, Program.version⟩

/-- The page, by a template if one is given that has nothing but names between double braces. -/
def html (r : Report) (template : Option String) : String :=
  match template with
  | none => r.page
  | some t => Text.Markup.fill r.content.slot t

end Report
end SchemaLint
