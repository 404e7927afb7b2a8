/-!
# The style of the viewer

The style sheet of the page that shows a fragment.
-/

namespace Statute.Viewer

/-- The style sheet. -/
def styleSheet : String := "* \x7b box-sizing: border-box; \x7d

body \x7b
  margin: 0;
  font-family: -apple-system, BlinkMacSystemFont, \"Segoe UI\", Helvetica, Arial, sans-serif;
  color: #1f2328;
  background: #f6f8fa;
\x7d

header \x7b
  display: flex;
  align-items: baseline;
  gap: 1rem;
  padding: 0.75rem 1.25rem;
  background: #ffffff;
  border-bottom: 1px solid #d0d7de;
\x7d

header h1 \x7b font-size: 1.1rem; margin: 0; \x7d

.controls \x7b margin-left: auto; display: flex; gap: 1rem; font-size: 0.85rem; \x7d

.muted \x7b color: #57606a; font-size: 0.85rem; \x7d

main \x7b
  display: grid;
  grid-template-columns: minmax(320px, 1fr) 1.3fr;
  height: calc(100vh - 52px);
\x7d

#text-panel \x7b
  overflow-y: auto;
  padding: 1.25rem;
  background: #ffffff;
  border-right: 1px solid #d0d7de;
\x7d

.fragment-text \x7b
  white-space: pre-wrap;
  line-height: 1.7;
  font-size: 0.95rem;
\x7d

.atom-span \x7b
  border-radius: 3px;
  padding: 1px 0;
  cursor: pointer;
  transition: background-color 0.12s ease-in;
\x7d

#text-panel h2 \x7b font-size: 0.95rem; margin-top: 1.5rem; \x7d

#atom-list \x7b list-style: none; padding: 0; margin: 0; \x7d

#atom-list li \x7b
  display: flex;
  gap: 0.5rem;
  align-items: baseline;
  padding: 0.3rem 0.4rem;
  border-radius: 4px;
  cursor: pointer;
  font-size: 0.85rem;
\x7d

#atom-list li.hovered \x7b outline: 2px solid #1f2328; \x7d

#atom-list code \x7b font-weight: 600; \x7d

.swatch \x7b
  flex: none;
  width: 0.8rem;
  height: 0.8rem;
  border-radius: 2px;
\x7d

.tag \x7b
  font-size: 0.7rem;
  padding: 0 0.3rem;
  border: 1px solid #d0d7de;
  border-radius: 8px;
  color: #57606a;
\x7d

#graph-panel \x7b position: relative; \x7d

#graph \x7b width: 100%; height: 100%; \x7d

#graph-status \x7b position: absolute; left: 1rem; bottom: 0.75rem; \x7d

.error \x7b
  position: fixed;
  right: 1rem;
  bottom: 1rem;
  max-width: 420px;
  padding: 0.75rem 1rem;
  background: #ffebe9;
  border: 1px solid #ff8182;
  border-radius: 6px;
  color: #82071e;
\x7d
"

end Statute.Viewer
