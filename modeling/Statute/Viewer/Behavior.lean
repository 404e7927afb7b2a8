/-!
# The behavior of the viewer

The script of the page that shows a fragment. It loads the fragment and its graph, and keeps the
emphasized atom in step with every other page that is open.
-/

namespace Statute.Viewer

/-- The script. -/
def script : String := "\"use strict\";

// Shared hover: the server holds the hovered atom so every open view agrees.
const state = \x7b
  hovered: null,
  atoms: new Map(),
  renderer: null,
  graph: null,
\x7d;

function showError(message) \x7b
  const el = document.getElementById(\"error\");
  el.textContent = message;
  el.hidden = false;
  setTimeout(() => \x7b el.hidden = true; \x7d, 6000);
\x7d

async function fetchJson(url, options) \x7b
  const response = await fetch(url, options);
  if (!response.ok) \x7b
    let message = response.statusText;
    try \x7b
      message = (await response.json()).error || message;
    \x7d catch (_) \x7b /* not JSON */ \x7d
    throw new Error(message);
  \x7d
  return response.status === 204 ? null : response.json();
\x7d

// ---------------------------------------------------------------------------
// Hover
// ---------------------------------------------------------------------------

function applyHover(atomId) \x7b
  state.hovered = atomId;

  document.querySelectorAll(\".atom-span\").forEach((span) => \x7b
    const atom = state.atoms.get(Number(span.dataset.atom));
    if (!atom) return;
    span.style.backgroundColor = atom.color[atomId === atom.id ? \"hover\" : \"base\"];
  \x7d);

  document.querySelectorAll(\"#atom-list li\").forEach((item) => \x7b
    item.classList.toggle(\"hovered\", Number(item.dataset.atom) === atomId);
  \x7d);

  if (state.renderer) state.renderer.refresh();
\x7d

function setHover(atomId) \x7b
  if (atomId === state.hovered) return;
  applyHover(atomId);
  const request = atomId === null
    ? fetch(\"/api/hover\", \x7b method: \"DELETE\" \x7d)
    : fetch(\"/api/hover\", \x7b
        method: \"PUT\",
        headers: \x7b \"Content-Type\": \"application/json\" \x7d,
        body: JSON.stringify(\x7b atom_id: atomId \x7d),
      \x7d);
  request.catch((e) => showError(`Could not share hover: $\x7be.message\x7d`));
\x7d

// Long poll so hovers from other tabs show up here.
async function watchHover() \x7b
  for (;;) \x7b
    try \x7b
      const known = state.hovered === null ? \"\" : `?known=$\x7bstate.hovered\x7d`;
      const body = await fetchJson(`/api/hover/changes$\x7bknown\x7d`);
      if (body.atom_id !== state.hovered) applyHover(body.atom_id);
    \x7d catch (_) \x7b
      await new Promise((resolve) => setTimeout(resolve, 2000));
    \x7d
  \x7d
\x7d

function bindHover(el, atomId) \x7b
  el.addEventListener(\"mouseenter\", () => setHover(atomId));
  el.addEventListener(\"mouseleave\", () => setHover(null));
\x7d

// ---------------------------------------------------------------------------
// Fragment text
// ---------------------------------------------------------------------------

async function loadFragment() \x7b
  const view = await fetchJson(\"/api/fragment\");
  state.atoms = new Map(view.atoms.map((atom) => [atom.id, atom]));

  if (view.source) document.getElementById(\"source\").textContent = view.source;

  const text = document.getElementById(\"fragment-text\");
  text.replaceChildren();
  for (const fragment of view.fragments) \x7b
    if (fragment.kind === \"plain\") \x7b
      text.appendChild(document.createTextNode(fragment.text));
      continue;
    \x7d
    const span = document.createElement(\"span\");
    span.className = \"atom-span\";
    span.dataset.atom = fragment.atom_id;
    span.textContent = fragment.text;
    span.style.backgroundColor = fragment.color.base;
    bindHover(span, fragment.atom_id);
    text.appendChild(span);
  \x7d

  const list = document.getElementById(\"atom-list\");
  list.replaceChildren();
  for (const atom of view.atoms) \x7b
    const item = document.createElement(\"li\");
    item.dataset.atom = atom.id;

    const swatch = document.createElement(\"span\");
    swatch.className = \"swatch\";
    swatch.style.backgroundColor = atom.color.hover;

    const predicate = document.createElement(\"code\");
    predicate.textContent = atom.predicate;

    const description = document.createElement(\"span\");
    description.textContent = atom.description;

    item.append(swatch, predicate, description);
    if (atom.is_negated) item.appendChild(tag(\"negated\"));
    if (atom.is_fact) item.appendChild(tag(\"fact\"));
    bindHover(item, atom.id);
    list.appendChild(item);
  \x7d

  applyHover(view.hovered);
\x7d

function tag(text) \x7b
  const el = document.createElement(\"span\");
  el.className = \"tag\";
  el.textContent = text;
  return el;
\x7d

// ---------------------------------------------------------------------------
// Dependency graph
// ---------------------------------------------------------------------------

async function loadGraph() \x7b
  const params = new URLSearchParams();
  if (document.getElementById(\"per-rule\").checked) params.set(\"per_rule\", \"true\");
  if (document.getElementById(\"parsed\").checked) params.set(\"parsed\", \"true\");
  const data = await fetchJson(`/api/graph?$\x7bparams\x7d`);

  const graph = new graphology.Graph(\x7b type: \"directed\", multi: false \x7d);
  data.nodes.forEach((node, i) => \x7b
    const angle = (2 * Math.PI * i) / Math.max(data.nodes.length, 1);
    graph.addNode(node.key, \x7b ...node.attributes, x: Math.cos(angle), y: Math.sin(angle) \x7d);
  \x7d);
  data.edges.forEach((edge) => \x7b
    if (!graph.hasEdge(edge.key)) \x7b
      graph.addEdgeWithKey(edge.key, edge.source, edge.target, \x7b type: \"arrow\", size: 1.5 \x7d);
    \x7d
  \x7d);

  if (graph.order > 1) \x7b
    const settings = graphologyLibrary.layoutForceAtlas2.inferSettings(graph);
    graphologyLibrary.layoutForceAtlas2.assign(graph, \x7b iterations: 200, settings \x7d);
  \x7d

  if (state.renderer) state.renderer.kill();
  state.graph = graph;
  state.renderer = new Sigma(graph, document.getElementById(\"graph\"), \x7b
    renderEdgeLabels: false,
    defaultEdgeType: \"arrow\",
    nodeReducer: (key, attributes) => \x7b
      if (state.hovered === null || attributes.atom_id !== state.hovered) return attributes;
      return \x7b ...attributes, size: attributes.size * 1.8, highlighted: true, zIndex: 1 \x7d;
    \x7d,
  \x7d);
  state.renderer.on(\"enterNode\", (\x7b node \x7d) => \x7b
    const atomId = graph.getNodeAttribute(node, \"atom_id\");
    if (atomId !== undefined) setHover(atomId);
  \x7d);
  state.renderer.on(\"leaveNode\", () => setHover(null));

  document.getElementById(\"graph-status\").textContent =
    `$\x7bgraph.order\x7d nodes, $\x7bgraph.size\x7d edges`;
\x7d

// ---------------------------------------------------------------------------
// Startup
// ---------------------------------------------------------------------------

document.getElementById(\"per-rule\").addEventListener(\"change\", () => loadGraph().catch((e) => showError(e.message)));
document.getElementById(\"parsed\").addEventListener(\"change\", () => loadGraph().catch((e) => showError(e.message)));

Promise.all([loadFragment(), loadGraph()])
  .catch((e) => showError(e.message))
  .finally(watchHover);
"

end Statute.Viewer
