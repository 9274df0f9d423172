import EntityDiagram.Text.Basic

/-!
# The page around a diagram

The page that shows a diagram in a browser is fixed but for four things: the title, which stands in
it twice, the address of the script that draws, the diagram itself, and the date. It is kept here as
the sequence of its pieces, the fixed ones line by line, so that what depends on its inputs can be
read off the sequence.
-/

namespace EntityDiagram
namespace Viewer

inductive Piece where
  /-- Lines that do not depend on anything, with a line feed between any two. -/
  | fixed (lines : List String)
  | title
  | script
  | diagram
  | date

def documentHead : List String := [
  "<!DOCTYPE html>",
  "<html lang=\"en\">",
  "<head>",
  "    <meta charset=\"UTF-8\">",
  "    <meta name=\"viewport\" content=\"width=device-width, initial-scale=1.0\">",
  "    <title>"]

def scriptReference : List String := [
  "</title>",
  "    <script src=\""]

/-- From the script to the heading: the styles, and the page down to its header. -/
def styleAndHeader : List String := [
  "\"></script>",
  "    <style>",
  "        body \x7b",
  "            font-family: -apple-system, BlinkMacSystemFont, 'Segoe UI', Roboto, Oxygen, Ubuntu, Cantarell, 'Open Sans', 'Helvetica Neue', sans-serif;",
  "            margin: 0;",
  "            padding: 0;",
  "            background-color: #f5f7fa;",
  "        \x7d",
  "        .container \x7b",
  "            max-width: 1200px;",
  "            margin: 0 auto;",
  "            padding: 20px;",
  "        \x7d",
  "        .header, .diagram-container \x7b",
  "            background-color: #fff;",
  "            padding: 20px;",
  "            border-radius: 5px;",
  "            box-shadow: 0 2px 4px rgba(0, 0, 0, 0.1);",
  "        \x7d",
  "        .header \x7b",
  "            margin-bottom: 20px;",
  "        \x7d",
  "        .diagram-container \x7b",
  "            overflow: auto;",
  "        \x7d",
  "        h1 \x7b",
  "            color: #2d3748;",
  "            margin-top: 0;",
  "        \x7d",
  "        .footer \x7b",
  "            margin-top: 20px;",
  "            text-align: center;",
  "            color: #718096;",
  "            font-size: 0.9rem;",
  "        \x7d",
  "        .controls \x7b",
  "            margin-bottom: 20px;",
  "        \x7d",
  "        button \x7b",
  "            background-color: #4a5568;",
  "            color: white;",
  "            border: none;",
  "            padding: 8px 16px;",
  "            border-radius: 4px;",
  "            cursor: pointer;",
  "            font-size: 14px;",
  "            margin-right: 10px;",
  "        \x7d",
  "        button:hover \x7b",
  "            background-color: #2d3748;",
  "        \x7d",
  "    </style>",
  "</head>",
  "<body>",
  "    <div class=\"container\">",
  "        <div class=\"header\">",
  "            <h1>"]

/-- From the heading to the diagram: the version and the buttons. -/
def controls : List String := [
  "</h1>",
  "            <p>Generated with laravel2erd 0.3.0</p>",
  "        </div>",
  "",
  "        <div class=\"controls\">",
  "            <button id=\"zoom-in\">Zoom In</button>",
  "            <button id=\"zoom-out\">Zoom Out</button>",
  "            <button id=\"reset-zoom\">Reset Zoom</button>",
  "            <button id=\"download-svg\">Download SVG</button>",
  "        </div>",
  "",
  "        <div class=\"diagram-container\">",
  "            <div class=\"mermaid\" id=\"erd-diagram\">",
  ""]

def footer : List String := [
  "",
  "            </div>",
  "        </div>",
  "",
  "        <div class=\"footer\">",
  "            <p>Generated on "]

/-- From the date to the end: what the buttons do. -/
def behaviour : List String := [
  "</p>",
  "        </div>",
  "    </div>",
  "",
  "    <script>",
  "        mermaid.initialize(\x7b",
  "            theme: 'default',",
  "            securityLevel: 'loose',",
  "            er: \x7b",
  "                diagramPadding: 20",
  "            \x7d",
  "        \x7d);",
  "",
  "        let zoom = 1;",
  "        const zoomStep = 0.1;",
  "        const diagram = document.getElementById('erd-diagram');",
  "",
  "        function applyZoom() \x7b",
  "            diagram.style.transform = `scale($\x7bzoom\x7d)`;",
  "            diagram.style.transformOrigin = 'top left';",
  "        \x7d",
  "",
  "        document.getElementById('zoom-in').addEventListener('click', () => \x7b",
  "            zoom += zoomStep;",
  "            applyZoom();",
  "        \x7d);",
  "",
  "        // Rounded to one decimal and never below one step",
  "        document.getElementById('zoom-out').addEventListener('click', () => \x7b",
  "            zoom = Math.max(zoomStep, Math.round((zoom - zoomStep) * 10) / 10);",
  "            applyZoom();",
  "        \x7d);",
  "",
  "        document.getElementById('reset-zoom').addEventListener('click', () => \x7b",
  "            zoom = 1;",
  "            diagram.style.transform = 'scale(1)';",
  "        \x7d);",
  "",
  "        document.getElementById('download-svg').addEventListener('click', () => \x7b",
  "            const svg = document.querySelector('.mermaid svg');",
  "            if (svg) \x7b",
  "                const svgData = new XMLSerializer().serializeToString(svg);",
  "                const blob = new Blob([svgData], \x7b type: 'image/svg+xml' \x7d);",
  "                const url = URL.createObjectURL(blob);",
  "",
  "                const link = document.createElement('a');",
  "                link.href = url;",
  "                link.download = 'laravel-erd.svg';",
  "                document.body.appendChild(link);",
  "                link.click();",
  "                document.body.removeChild(link);",
  "                URL.revokeObjectURL(url);",
  "            \x7d",
  "        \x7d);",
  "    </script>",
  "</body>",
  "</html>",
  ""]

/-- The page, piece by piece. -/
def pieces : List Piece := [
  .fixed documentHead, .title, .fixed scriptReference, .script, .fixed styleAndHeader,
  .title, .fixed controls, .diagram, .fixed footer, .date, .fixed behaviour]

end Viewer
end EntityDiagram
