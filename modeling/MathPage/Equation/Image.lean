import MathPage.Action
import MathPage.Text.Percent
import MathPage.Text.Base64

/-!
# Images of equations

The default renderer of equations writes an HTML element that shows an image. The image is fetched
by the reader from a rendering service, or stands in a folder beside the page, or is embedded.

* `Image.Source` – where images come from;
* `Image.url` – the address of the image of an equation;
* `Image.quoted` – an attribute value between its marks, with its escapes;
* `Image.element` – the printed element;
* `Image.render` – the renderer.
-/

namespace MathPage.Image

/-- Where images come from: a folder, if one is named, or the service; `inline` embeds them. -/
structure Source where
  base : Option Text := none
  inline : Bool := false
  /-- how long to wait for an image, handed on as it is -/
  timeout : Value := .int 10

/-- An answer to a request. -/
inductive Answer where
  | response (status : Int) (body : List UInt8)
  /-- no answer, with the reason -/
  | unreachable (reason : Text)
  /-- a failure of the requesting program itself -/
  | broken (failure : Failure)

/-- What embedding images needs from the outside. -/
structure Net (ω : Type) where
  fetch : Text → Value → ω → Answer × ω
  log : Severity → Text → Action ω Unit

/-- The address of the rendering service. -/
def service : Text := "https://latex.codecogs.com/svg.image".toList

/-- The folder of a source, without slashes at its end; a folder without a name is none. -/
def Source.folder? (s : Source) : Option Text :=
  match s.base with
  | none => none
  | some t =>
    let t := Text.trimRight (· == '/') t
    if t.isEmpty then none else some t

/-- The address of the image of an equation. -/
def url (s : Source) (label raw : Text) : Text :=
  match s.folder? with
  | some folder => folder ++ "/equation_".toList ++ label ++ ".svg".toList
  | none => service ++ '?' :: Percent.encode raw

/-- A character of an attribute value. -/
def escapeChar : Char → Text
  | '&' => "&amp;".toList
  | '<' => "&lt;".toList
  | '>' => "&gt;".toList
  | c => [c]

/-- An attribute value without the characters of markup. -/
def escape (t : Text) : Text := t.flatMap escapeChar

/-- An attribute value between marks that do not occur in it: quotation marks, or apostrophes if
the value holds a quotation mark and no apostrophe; if it holds both, its quotation marks are
escaped. -/
def quoted (t : Text) : Text :=
  let t := escape t
  if t.contains Text.quote then
    if t.contains Text.apostrophe then
      Text.quote :: t.flatMap (fun c => if c = Text.quote then "&quot;".toList else [c]) ++
        [Text.quote]
    else Text.apostrophe :: t ++ [Text.apostrophe]
  else Text.quote :: t ++ [Text.quote]

/-- An attribute with its name. -/
def field (name : String) (t : Text) : Text := ' ' :: name.toList ++ '=' :: quoted t

/-- The element that shows the image at an address. -/
def element (e : Equation) (src : Text) : Text :=
  "<div".toList ++ field "align" "center".toList ++ field "class" "equation".toList ++
    field "data-equation" ("eq:".toList ++ e.label) ++ field "data-raw-text" e.raw ++
    ">\n    <img".toList ++ field "alt" e.alt ++ field "src" src ++
    "/>\n    <br/>\n</div>".toList

variable {ω : Type}

/-- The image at an address as a data URI, or nothing with a warning. -/
def embed (n : Net ω) (timeout : Value) (address : Text) : Action ω (Option Text) := fun w =>
  match n.fetch address timeout w with
  | (.broken f, w') => (.error f, w')
  | (.unreachable reason, w') =>
    (do
      n.log .warning ("Equation image fetch failed for ".toList ++ address ++ ": ".toList ++ reason)
      return none : Action ω (Option Text)) w'
  | (.response status body, w') =>
    if status = 200 then
      (.ok (some ("data:image/svg+xml;base64,".toList ++ Base64.encode body)), w')
    else
      (do
        n.log .warning ("Equation image fetch failed for ".toList ++ address ++ ": HTTP ".toList ++
          Value.integer status)
        return none : Action ω (Option Text)) w'

/-- Renders an equation as an image. -/
def render (n : Net ω) (s : Source) (e : Equation) : Action ω Text := do
  let address := url s e.label e.raw
  let src ← if s.inline then embed n s.timeout address else pure none
  let html := element e (src.getD address)
  n.log .debug ("Generated HTML: ".toList ++ html)
  return html

end MathPage.Image
