import BrainfuckWasm.Path
import BrainfuckWasm.Text.Utf8

/-!
# Pages of the service

The files that the service hands out as they are: its start page and the script that runs compiled
modules in a browser. Files are found by the names on the way to them. A way may step out of the
pages' directory as long as it comes back in by the names of the directories around it, and it may
not start with a backslash.
-/

namespace BrainfuckWasm.Service

/-- The files to hand out. -/
structure Pages where
  /-- The names of the directories down to the one that holds the files, as far as they are
  known. -/
  directory : List String := []
  /-- Files by the names on the way to them from there; of two with the same names the later one
  counts. -/
  files : List (List String × List UInt8)
  deriving DecidableEq, Repr

/-- Lines of text as the bytes of a file. -/
def bytesOfLines (lines : List String) : List UInt8 :=
  Text.bytesOfText (String.join (lines.map (· ++ "\n")))

/-- The source that the start page offers to compile: a greeting. -/
def sampleSource : String :=
  "++++++++[>++++[>++>+++>+++>+<<<<-]>+>+>->>+[<]<-]>>.>---.+++++++..+++.>>." ++
    "<-.<.+++.------.--------.>>+."

/-- The start page. -/
def indexPage : List UInt8 :=
  bytesOfLines [
    "<!DOCTYPE html>",
    "<html lang=\"en\">",
    "<head>",
    "  <meta charset=\"utf-8\">",
    "  <title>bf2wasm runner</title>",
    "</head>",
    "<body>",
    "  <h1>bf2wasm runner</h1>",
    "  <textarea id=\"code\" rows=\"12\" cols=\"80\">" ++ sampleSource ++ "</textarea>",
    "  <p>",
    "    <label>Input <input id=\"input\" type=\"text\"></label>",
    "    <button id=\"run\">Compile and run</button>",
    "    <span id=\"running-text\"></span>",
    "  </p>",
    "  <pre id=\"container\"></pre>",
    "  <script src=\"/static/host.js\"></script>",
    "</body>",
    "</html>"]

/-- The script that compiles a program through the service and runs it. -/
def hostScript : List UInt8 :=
  bytesOfLines [
    "// Host runtime for modules produced by bf2wasm: supplies the imported",
    "// memory and the putChar/getChar primitives, then calls runBrainfuck.",
    "",
    "async function compileModule(code) \x7b",
    "    const response = await fetch('/api/compile', \x7b",
    "        method: 'POST',",
    "        headers: \x7b'Content-Type': 'application/json'\x7d,",
    "        body: JSON.stringify(\x7bcode: code\x7d),",
    "    \x7d);",
    "    if (!response.ok) \x7b",
    "        throw new Error((await response.json()).detail);",
    "    \x7d",
    "    return response.json();",
    "\x7d",
    "",
    "function makeImports(container, submittedInput) \x7b",
    "    const memory = new WebAssembly.Memory(\x7binitial: 1\x7d);",
    "    let inputCharIdx = 0;",
    "    return \x7b",
    "        js: \x7bmem: memory\x7d,",
    "        console: \x7b",
    "            putChar: function (ch) \x7b",
    "                container.textContent += String.fromCharCode(ch);",
    "            \x7d,",
    "            getChar: function () \x7b",
    "                const result = submittedInput.charCodeAt(inputCharIdx);",
    "                if (inputCharIdx + 1 < submittedInput.length) \x7b",
    "                    inputCharIdx++;",
    "                \x7d",
    "                return result;",
    "            \x7d,",
    "        \x7d,",
    "    \x7d;",
    "\x7d",
    "",
    "async function runProgram() \x7b",
    "    const container = document.getElementById('container');",
    "    const runningText = document.getElementById('running-text');",
    "    const code = document.getElementById('code').value;",
    "    const submittedInput = document.getElementById('input').value + '\\0';",
    "",
    "    container.textContent = '';",
    "    runningText.textContent = 'running...';",
    "    try \x7b",
    "        const artifact = await compileModule(code);",
    "        const importObject = makeImports(container, submittedInput);",
    "        const \x7binstance\x7d = await WebAssembly.instantiateStreaming(",
    "            fetch('/api/compile/' + artifact.artifact_id + '/module.wasm'),",
    "            importObject,",
    "        );",
    "        instance.exports.runBrainfuck();",
    "        runningText.textContent = '';",
    "    \x7d catch (err) \x7b",
    "        runningText.textContent = 'error: ' + err.message;",
    "    \x7d",
    "\x7d",
    "",
    "document.getElementById('run').addEventListener('click', runProgram);"]

/-- The pages that come with the service. -/
def ownPages : Pages where
  directory := ["bf2wasm", "webui", "static"]
  files := [(["index.html"], indexPage), (["host.js"], hostScript)]

/-- Where segments lead: so many directories up, and then down by names, given in reverse. -/
structure Way where
  up : Nat
  down : List String
  deriving DecidableEq, Repr

/-- A way after one more segment. -/
def Way.step (way : Way) (segment : String) : Way :=
  if segment = "" || segment = "." then way
  else if segment = ".." then
    match way.down with
    | [] => { way with up := way.up + 1 }
    | _ :: before => { way with down := before }
  else { way with down := segment :: way.down }

/-- What is left of a list after another one at its start. -/
def afterStart? : List String → List String → Option (List String)
  | [], names => some names
  | _ :: _, [] => none
  | name :: start, other :: names => if name = other then afterStart? start names else none

/-- The names inside the directory that segments lead to, if they do not end outside. -/
def Pages.inside? (pages : Pages) (segments : List String) : Option (List String) :=
  let way := segments.foldl Way.step ⟨0, []⟩
  if pages.directory.length < way.up then none
  else
    afterStart? (pages.directory.drop (pages.directory.length - way.up)) way.down.reverse

/-- Whether segments lead to a name that starts with a backslash before any other. -/
def startsWithBackslash (segments : List String) : Bool :=
  let way := segments.foldl Way.step ⟨0, []⟩
  way.up = 0 && way.down.getLast?.any fun name => name.toList.head? = some '\\'

/-- The page that segments lead to, with its name. -/
def Pages.find? (pages : Pages) (segments : List String) : Option (String × List UInt8) :=
  if startsWithBackslash segments then none
  else
    match pages.inside? segments with
    | none => none
    | some names =>
      match names.getLast?,
        pages.files.reverse.find? fun file => pages.inside? file.1 = some names with
      | some name, some (_, content) => some (name, content)
      | _, _ => none

end BrainfuckWasm.Service
