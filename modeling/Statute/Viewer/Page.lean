import Statute.Text.Search
import Statute.Viewer.Behavior
import Statute.Viewer.Style

/-!
# The page of the viewer

The page is a template with slots for the title of a fragment, the style sheet and the script. The
slots are filled one kind after the other, each throughout the text that the kinds before it have
left. A title is escaped, so that it is text and no markup.
-/

namespace Statute.Viewer

/-- The characters that have a meaning in markup, with what is written for each. The ampersand comes
first, because it stands in what is written for the others. -/
def entities : List (Char × String) :=
  [('&', "&amp;"), ('<', "&lt;"), ('>', "&gt;"), ('"', "&quot;"), ('\'', "&#39;")]

/-- A text as it is written in markup. The characters are replaced one kind after the other. -/
def escape (text : List Char) : List Char :=
  entities.foldl (fun text (character, entity) =>
    Text.replaceAll [character] entity.toList text) text

/-- The slot for a title. -/
def titleSlot : String := "\x7b\x7bTITLE\x7d\x7d"

/-- The slot for the style sheet. -/
def styleSlot : String := "\x7b\x7bSTYLES\x7d\x7d"

/-- The slot for the script. -/
def scriptSlot : String := "\x7b\x7bSCRIPT\x7d\x7d"

/-- The page with its slots. -/
def template : String := "<!DOCTYPE html>
<html lang=\"en\">
<head>
  <meta charset=\"utf-8\">
  <meta name=\"viewport\" content=\"width=device-width, initial-scale=1\">
  <title>\x7b\x7bTITLE\x7d\x7d - lexlogic</title>
  <style>\x7b\x7bSTYLES\x7d\x7d</style>
  <script src=\"https://cdnjs.cloudflare.com/ajax/libs/graphology/0.25.4/graphology.umd.min.js\"></script>
  <script src=\"https://cdn.jsdelivr.net/npm/graphology-library/dist/graphology-library.min.js\"></script>
  <script src=\"https://cdnjs.cloudflare.com/ajax/libs/sigma.js/2.4.0/sigma.min.js\"></script>
</head>
<body>
  <header>
    <h1>\x7b\x7bTITLE\x7d\x7d</h1>
    <span id=\"source\" class=\"muted\"></span>
    <div class=\"controls\">
      <label><input type=\"checkbox\" id=\"per-rule\"> node per rule</label>
      <label><input type=\"checkbox\" id=\"parsed\"> parsed references</label>
    </div>
  </header>
  <main>
    <section id=\"text-panel\">
      <div id=\"fragment-text\" class=\"fragment-text\"></div>
      <h2>Atoms</h2>
      <ul id=\"atom-list\"></ul>
    </section>
    <section id=\"graph-panel\">
      <div id=\"graph\"></div>
      <div id=\"graph-status\" class=\"muted\"></div>
    </section>
  </main>
  <div id=\"error\" class=\"error\" hidden></div>
  <script>\x7b\x7bSCRIPT\x7d\x7d</script>
</body>
</html>
"

/-- A text with every slot of a kind filled. -/
def fill (slot : String) (content text : List Char) : List Char :=
  Text.replaceAll slot.toList content text

/-- The page for a title. -/
def page (title : String) : String :=
  let titled := fill titleSlot (escape title.toList) template.toList
  let styled := fill styleSlot styleSheet.toList titled
  String.ofList (fill scriptSlot script.toList styled)

end Statute.Viewer
