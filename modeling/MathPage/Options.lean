import MathPage.Value

/-!
# Reading options

Callers give options as a record. `Options.read` accepts exactly the records whose keys are option
names and whose values have the type of the option, and otherwise lists everything that is wrong:
first the known options in their order, then the other keys in the order in which they were given.

* `Options.Problem` – a place and what is wrong there;
* `Options.Refusal` – why no options can be made of a value;
* `Options.ofRecord`, `Options.read` – the checks.
-/

namespace MathPage.Options

/-- What is wrong with a key or a value. -/
inductive Fault where
  | notText
  | notTruth
  | notPath
  | unknownKey
  | keyNotText
  deriving DecidableEq, Repr

/-- The wording of a fault. -/
def Fault.message : Fault → Text
  | .notText => "Input should be a valid string".toList
  | .notTruth => "Input should be a valid boolean".toList
  | .notPath => "Input should be an instance of Path".toList
  | .unknownKey => "Extra inputs are not permitted".toList
  | .keyNotText => "Keys should be strings".toList

/-- A fault and the place where it stands. -/
structure Problem where
  place : Text
  fault : Fault
  deriving DecidableEq, Repr

/-- The place of a problem, or the word for the whole record if the place is empty, and the fault. -/
def Problem.message (p : Problem) : Text :=
  (if p.place.isEmpty then "options".toList else p.place) ++ ": ".toList ++ p.fault.message

/-- Why a value is no set of options. -/
inductive Refusal where
  | notRecord (value : Value)
  /-- a function, although there is a callback already -/
  | function
  | problems (ps : List Problem)

/-- The place at which an output path is checked as a path. -/
def pathPlace : Text :=
  ("out.lax-or-strict[lax=union[json-or-python[json=function-after[path_validator(), str]," ++
  "python=is-instance[Path]],function-after[path_validator(), str]]," ++
  "strict=json-or-python[json=function-after[path_validator(), str]," ++
  "python=is-instance[Path]]]").toList

/-- The value of a key, if the record has the key. -/
def lookup? (name : String) : List (Value × Value) → Option Value
  | [] => none
  | (.text k, v) :: es => if k = name.toList then some v else lookup? name es
  | _ :: es => lookup? name es

/-- Reads an optional text: absent, nothing, or a text. -/
def readText (name : String) (es : List (Value × Value)) : List Problem × Option Text :=
  match lookup? name es with
  | none | some .none => ([], none)
  | some (.text t) => ([], some t)
  | some _ => ([⟨name.toList, .notText⟩], none)

/-- Reads the output path. -/
def readOut (es : List (Value × Value)) : List Problem × Option (Text ⊕ Path) :=
  match lookup? "out" es with
  | none | some .none => ([], none)
  | some (.text t) => ([], some (.inl t))
  | some (.path p) => ([], some (.inr p))
  | some _ => ([⟨"out.str".toList, .notText⟩, ⟨pathPlace, .notPath⟩], none)

/-- Reads the choice between a fragment and a page. -/
def readFragment (es : List (Value × Value)) : List Problem × Bool :=
  match lookup? "fragment" es with
  | none => ([], false)
  | some (.bool b) => ([], b)
  | some _ => ([⟨"fragment".toList, .notTruth⟩], false)

/-- Reads the title. -/
def readTitle (es : List (Value × Value)) : List Problem × Text :=
  match lookup? "title" es with
  | none => ([], "README".toList)
  | some (.text t) => ([], t)
  | some _ => ([⟨"title".toList, .notText⟩], [])

/-- The option names. -/
def names : List Text :=
  ["out".toList, "tests".toList, "benchmarks".toList, "source".toList, "fragment".toList,
    "title".toList, "head".toList, "prepend".toList, "append".toList]

/-- How a problem names a key that is no text. A truth value counts as a number. -/
def keyPlace : Value → Text
  | .bool b => if b then ['1'] else ['0']
  | v => v.literal

/-- The keys that are no option names. -/
def extraProblems : List (Value × Value) → List Problem
  | [] => []
  | (.text k, _) :: es =>
    if names.contains k then extraProblems es else ⟨k, .unknownKey⟩ :: extraProblems es
  | (k, _) :: es => ⟨keyPlace k, .keyNotText⟩ :: extraProblems es

/-- Makes options of the entries of a record, or lists what is wrong with them. -/
def ofRecord (es : List (Value × Value)) : Except (List Problem) Options :=
  let (p₁, out) := readOut es
  let (p₂, tests) := readText "tests" es
  let (p₃, benchmarks) := readText "benchmarks" es
  let (p₄, source) := readText "source" es
  let (p₅, fragment) := readFragment es
  let (p₆, title) := readTitle es
  let (p₇, head) := readText "head" es
  let (p₈, prepend) := readText "prepend" es
  let (p₉, append) := readText "append" es
  let ps := p₁ ++ p₂ ++ p₃ ++ p₄ ++ p₅ ++ p₆ ++ p₇ ++ p₈ ++ p₉ ++ extraProblems es
  if ps.isEmpty then
    .ok ⟨out, tests, benchmarks, source, fragment, title, head, prepend, append⟩
  else .error ps

/-- Options from what a caller gave: nothing for the defaults, options as they are, or a record. -/
def read : Value → Except Refusal Options
  | .none => .ok {}
  | .options o => .ok o
  | .record _ es =>
    match ofRecord es with
    | .ok o => .ok o
    | .error ps => .error (.problems ps)
  | v => .error (.notRecord v)

/-- Whether an output path is given: the empty text is none. -/
def destination? (o : Options) : Option (Text ⊕ Path) :=
  match o.out with
  | some (.inl []) => none
  | out => out

end MathPage.Options
