import Mathlib.Data.String.Basic

/-!
# Rendering the fingerprint report

The fingerprinting endpoints render what a request sent as an HTML report:
`render_report` appends to the leading HTML a `report` block with, for each table, a
heading with the table's title and a table with one row for each key and value, and
`render_page` puts the result in the page template.

Titles, keys and values are inserted as they are: no character is escaped. The
report is therefore the page of the leading HTML and `reportContent id`, one row
template for each pair with the key and value verbatim (`renderReport_eq_verbatim`),
and it is not the page of the escaped rows (`renderReport_unescaped_key`): a key
`<` reaches the page as `<`. Every header a request sends reaches the page of
`get_report` and of `form` in a row of its own text (`report_pages_show_header_rows`).
-/

set_option autoImplicit false

namespace Rama.Fp

/-! ## Pages -/

/-- `Html<String>`: a response whose body is the page. -/
structure Html where
  body : String
  deriving DecidableEq

/-- `html`: the page as a response. -/
def html (inner : String) : Html := ⟨inner⟩

/-- The page template of `render_page` up to its first placeholder, the head. -/
def pageOpening : String :=
  String.intercalate "\n" [
    "",
    "        <!DOCTYPE html>",
    "        <html lang=\"en\">",
    "        <head>",
    "            <meta charset=\"UTF-8\">",
    "            <meta name=\"viewport\" content=\"width=device-width, initial-scale=1.0\">",
    "        ",
    "            <title>ラマ | FP</title>",
    "        ",
    "            <link rel=\"icon\"",
    "                href=\"data:image/svg+xml,<svg xmlns=%22http://www.w3.org/2000/svg%22 viewBox=%2210 0 100 100%22><text y=%22.90em%22 font-size=%2290%22>🦙</text></svg>\">",
    "        ",
    "            <meta name=\"description\" content=\"rama proxy fingerprinting service\">",
    "            <meta name=\"robots\" content=\"none\">",
    "            <link rel=\"canonical\" href=\"https://ramaproxy.org/\">",
    "        ",
    "            <meta property=\"og:title\" content=\"ramaproxy.org\" />",
    "            <meta property=\"og:locale\" content=\"en_US\" />",
    "            <meta property=\"og:type\" content=\"website\">",
    "            <meta property=\"og:description\" content=\"rama proxy fingerprinting service\" />",
    "            <meta property=\"og:url\" content=\"https://ramaproxy.org/\" />",
    "            <meta property=\"og:site_name\" content=\"ramaproxy.org\" />",
    "            <meta property=\"og:image\" content=\"https://raw.githubusercontent.com/plabayo/rama/main/docs/img/banner.svg\">",
    "",
    "            <link rel=\"stylesheet\" type=\"text/css\" href=\"/assets/style.css\">",
    "",
    "            "]

/-- The page template between the head and the title. -/
def pageAfterHead : String :=
  String.intercalate "\n" [
    "",
    "        </head>",
    "        <body>",
    "            <main>",
    "                <h1>",
    "                    <a href=\"/consent\" title=\"rama-fp home\">ラマ</a>",
    "                    &nbsp;",
    "                    |",
    "                    &nbsp;",
    "                    "]

/-- The page template between the title and the content. -/
def pageAfterTitle : String :=
  String.intercalate "\n" [
    "",
    "                </h1>",
    "                <div id=\"content\">"]

/-- The page template after the content. -/
def pageClosing : String :=
  String.intercalate "\n" [
    "</div>",
    "                <div id=\"input\"></div>",
    "                <div id=\"banner\">",
    "                    <a href=\"https://ramaproxy.org\" title=\"rama proxy website\">",
    "                        <img src=\"https://raw.githubusercontent.com/plabayo/rama/main/docs/img/rama_banner.jpeg\" alt=\"rama banner\" />",
    "                    </a>",
    "                </div>",
    "            </main>",
    "        </body>",
    "        </html>",
    "    "]

/-- `render_page`: the template with the head, the title and the content in its three
placeholders. -/
def renderPage (title head content : String) : Html :=
  html (pageOpening ++ head ++ pageAfterHead ++ title ++ pageAfterTitle ++ content ++ pageClosing)

/-! ## Reports -/

/-- `Table`: a title and its rows of keys and values. -/
structure Table where
  title : String
  rows : List (String × String)

/-- One pass of the inner loop of `render_report`: push the row of a key and a value. -/
def pushRow (html : String) (row : String × String) : String :=
  html ++ ("<tr><td class=\"key\">" ++ row.1 ++ "</td><td>" ++ row.2 ++ "</td></tr>")

/-- One pass of the outer loop of `render_report`: push the heading, then the table
and its rows. -/
def pushTable (html : String) (table : Table) : String :=
  let html := html ++ ("<h2>" ++ table.title ++ "</h2>")
  let html := html ++ "<table>"
  let html := table.rows.foldl pushRow html
  html ++ "</table>"

/-- `render_report`: the report block after the leading HTML, in the page. -/
def renderReport (title head html : String) (tables : List Table) : Html :=
  let html := html ++ "<div class=\"report\">"
  let html := tables.foldl pushTable html
  renderPage title head (html ++ "</div>")

/-- `RequestInfo`, as its table reads it: the fetch mode, resource type and initiator
in their text. -/
structure RequestInfo where
  userAgent : Option String
  version : String
  scheme : String
  host : Option String
  method : String
  fetchMode : String
  resourceType : String
  initiator : String
  path : String
  uri : String

/-- `DataSource`. -/
structure DataSource where
  name : String
  version : String

/-- `From<RequestInfo> for Table`. -/
def Table.ofRequestInfo (info : RequestInfo) : Table :=
  ⟨"ℹ️ Request Info", [
    ("User Agent", info.userAgent.getD ""),
    ("Version", info.version),
    ("Scheme", info.scheme),
    ("Host", info.host.getD ""),
    ("Method", info.method),
    ("Fetch Mode", info.fetchMode),
    ("Resource Type", info.resourceType),
    ("Initiator", info.initiator),
    ("Path", info.path),
    ("Uri", info.uri)]⟩

/-- `From<DataSource> for Table`. -/
def Table.ofDataSource (dataSource : DataSource) : Table :=
  ⟨"📦 Data Source", [("Name", dataSource.name), ("Version", dataSource.version)]⟩

/-- The tables of both report endpoints: the data source, the request and the request's
headers. -/
def reportTables (dataSource : DataSource) (requestInfo : RequestInfo)
    (headers : List (String × String)) : List Table :=
  [Table.ofDataSource dataSource, Table.ofRequestInfo requestInfo,
    ⟨"🚗 Http Headers", headers⟩]

/-- `get_report`, from what it reads of the state and the request: the data source,
the request information and the request's headers. -/
def getReport (dataSource : DataSource) (requestInfo : RequestInfo)
    (headers : List (String × String)) : Html :=
  let head := "<script src=\"/assets/script.js\"></script>"
  renderReport "🕵️ Fingerprint Report" head "" (reportTables dataSource requestInfo headers)

/-- The question `form` adds to the page of a `POST`. -/
def turtlesForm : String :=
  String.intercalate "\n" [
    "<div id=\"input\"><form method=\"GET\" action=\"/form\">",
    "    <input type=\"hidden\" name=\"source\" value=\"web\">",
    "    <label for=\"turtles\">Do you like turtles?</label>",
    "    <select id=\"turtles\" name=\"turtles\">",
    "        <option value=\"yes\">Yes</option>",
    "        <option value=\"no\">No</option>",
    "        <option value=\"maybe\">Maybe</option>",
    "    </select>",
    "    <button type=\"submit\">Submit</button>",
    "</form></div>"]

/-- `form`, from what it reads of the state and the request: the data source, the
request information, the request's headers and its method. -/
def form (dataSource : DataSource) (requestInfo : RequestInfo)
    (headers : List (String × String)) (method : String) : Html :=
  let content := "<a href=\"/report\" title=\"Back to Home\">🏠 Back to Home...</a>"
  let content := if method = "POST" then content ++ turtlesForm else content
  renderReport "🕵️ Fingerprint Report » Form" "" content
    (reportTables dataSource requestInfo headers)

/-! ## What a report holds -/

/-- The row of a key and a value, each passed through `escape`. -/
def reportRow (escape : String → String) (key value : String) : String :=
  "<tr><td class=\"key\">" ++ escape key ++ "</td><td>" ++ escape value ++ "</td></tr>"

/-- The rows of a table. -/
def reportRows (escape : String → String) : List (String × String) → String
  | [] => ""
  | (key, value) :: rows => reportRow escape key value ++ reportRows escape rows

/-- The heading and the table of each table. -/
def reportBody (escape : String → String) : List Table → String
  | [] => ""
  | table :: tables =>
    "<h2>" ++ escape table.title ++ "</h2>" ++ "<table>" ++ reportRows escape table.rows ++
      "</table>" ++ reportBody escape tables

/-- The report block, with titles, keys and values passed through `escape`. -/
def reportContent (escape : String → String) (tables : List Table) : String :=
  "<div class=\"report\">" ++ reportBody escape tables ++ "</div>"

/-- HTML escaping of one character. -/
def escapeChar (c : Char) : String :=
  if c = '&' then "&amp;"
  else if c = '<' then "&lt;"
  else if c = '>' then "&gt;"
  else if c = '"' then "&quot;"
  else if c = Char.ofNat 39 then "&#39;"
  else c.toString

/-- HTML escaping of `&`, `<`, `>`, the double and the single quote. -/
def escapeHtml (text : String) : String := String.join (text.data.map escapeChar)

/-! ## The loops -/

theorem foldl_pushRow (rows : List (String × String)) (html : String) :
    rows.foldl pushRow html = html ++ reportRows id rows := by
  induction rows generalizing html with
  | nil => simp [reportRows]
  | cons row rows ih =>
    obtain ⟨key, value⟩ := row
    simp only [List.foldl_cons, ih, pushRow, reportRows, reportRow, id, String.append_assoc]

theorem foldl_pushTable (tables : List Table) (html : String) :
    tables.foldl pushTable html = html ++ reportBody id tables := by
  induction tables generalizing html with
  | nil => simp [reportBody]
  | cons table tables ih =>
    simp only [List.foldl_cons, ih, pushTable, foldl_pushRow, reportBody, id, String.append_assoc]

/-- **The report inserts every title, key and value verbatim.** It is the page of the
leading HTML and the report block, with one heading and table for each table and one
row for each key and value, in order, none of them escaped. -/
theorem renderReport_eq_verbatim (title head html : String) (tables : List Table) :
    renderReport title head html tables =
      renderPage title head (html ++ reportContent id tables) := by
  simp only [renderReport, foldl_pushTable, reportContent, String.append_assoc]

/-- A key `<` reaches the report as `<`, not as `&lt;`. -/
theorem renderReport_unescaped_key :
    renderReport "" "" "" [⟨"", [("<", "")]⟩] ≠
      renderPage "" "" ("" ++ reportContent escapeHtml [⟨"", [("<", "")]⟩]) := by
  intro same
  have lengths := congrArg (fun page => page.body.length) same
  have escaped : escapeHtml "<" = "&lt;" := by decide
  have unescaped : escapeHtml "" = "" := rfl
  simp only [renderReport, renderPage, html, reportContent, reportBody, reportRows, reportRow,
    List.foldl_cons, List.foldl_nil, pushTable, pushRow, escaped, unescaped,
    String.length_append] at lengths
  have : "<".length = 1 := rfl
  have : "&lt;".length = 4 := rfl
  omega

/-! ## Rows on the page -/

theorem reportRows_split {escape : String → String} {rows : List (String × String)}
    {key value : String} (mem : (key, value) ∈ rows) :
    ∃ before after, reportRows escape rows = before ++ reportRow escape key value ++ after := by
  induction rows with
  | nil => cases mem
  | cons row rows ih =>
    obtain ⟨key', value'⟩ := row
    rcases List.mem_cons.mp mem with same | later
    · cases same
      exact ⟨"", reportRows escape rows, by simp only [reportRows, String.empty_append]⟩
    · obtain ⟨before, after, split⟩ := ih later
      exact ⟨reportRow escape key' value' ++ before, after, by
        simp only [reportRows, split, String.append_assoc]⟩

theorem reportBody_split {escape : String → String} {tables : List Table} {table : Table}
    (mem : table ∈ tables) :
    ∃ before after,
      reportBody escape tables = before ++ reportRows escape table.rows ++ after := by
  induction tables with
  | nil => cases mem
  | cons first tables ih =>
    rcases List.mem_cons.mp mem with rfl | later
    · exact ⟨"<h2>" ++ escape table.title ++ "</h2>" ++ "<table>",
        "</table>" ++ reportBody escape tables, by simp only [reportBody, String.append_assoc]⟩
    · obtain ⟨before, after, split⟩ := ih later
      exact ⟨"<h2>" ++ escape first.title ++ "</h2>" ++ "<table>" ++
        reportRows escape first.rows ++ "</table>" ++ before, after,
        by simp only [reportBody, split, String.append_assoc]⟩

/-- Every row of every table stands on the report page as its own text. -/
theorem renderReport_split (title head html : String) {tables : List Table} {table : Table}
    {key value : String} (tableMem : table ∈ tables) (rowMem : (key, value) ∈ table.rows) :
    ∃ before after, (renderReport title head html tables).body =
      before ++ reportRow id key value ++ after := by
  obtain ⟨rowsBefore, rowsAfter, rows⟩ := @reportRows_split id _ _ _ rowMem
  obtain ⟨bodyBefore, bodyAfter, body⟩ := @reportBody_split id _ _ tableMem
  exact ⟨pageOpening ++ head ++ pageAfterHead ++ title ++ pageAfterTitle ++ html ++
      "<div class=\"report\">" ++ bodyBefore ++ rowsBefore,
    rowsAfter ++ bodyAfter ++ "</div>" ++ pageClosing, by
      simp only [renderReport, renderPage, Rama.Fp.html, foldl_pushTable, body, rows,
        String.append_assoc]⟩

/-- **Every header a request sends stands verbatim on both report pages, as a row of
its own.** -/
theorem report_pages_show_header_rows (dataSource : DataSource) (requestInfo : RequestInfo)
    (headers : List (String × String)) (method name value : String)
    (sent : (name, value) ∈ headers) :
    (∃ before after, (getReport dataSource requestInfo headers).body =
      before ++ reportRow id name value ++ after) ∧
    (∃ before after, (form dataSource requestInfo headers method).body =
      before ++ reportRow id name value ++ after) := by
  have headersTable : _ ∈ reportTables dataSource requestInfo headers :=
    List.mem_cons_of_mem _ (List.mem_cons_of_mem _ (List.mem_singleton_self _))
  exact ⟨renderReport_split _ _ _ headersTable sent, renderReport_split _ _ _ headersTable sent⟩

theorem report_pages_show_header_rows_script :
    (∃ before after, (getReport ⟨"", ""⟩ ⟨none, "", "", none, "", "", "", "", "", ""⟩
        [("x-test", "<script>")]).body =
      before ++ reportRow id "x-test" "<script>" ++ after) ∧
    (∃ before after, (form ⟨"", ""⟩ ⟨none, "", "", none, "", "", "", "", "", ""⟩
        [("x-test", "<script>")] "GET").body =
      before ++ reportRow id "x-test" "<script>" ++ after) :=
  report_pages_show_header_rows _ _ _ _ _ _ (List.mem_singleton_self _)

end Rama.Fp
