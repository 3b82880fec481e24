import MathPage.Path
import MathPage.Number.Shortest
import MathPage.Text.Quoted

/-!
# Values of any kind

What callers hand in as a file, an option or a callback can be anything; this type holds what it
can be, so that a wrong value can be named in a message.

* `Value.literal` – how a message shows a value;
* `Value.plain` – how a page or a key shows it: a text without marks, anything else as its literal;
* `Value.isTrue` – whether a value counts as present;
* `Value.items?` – what a value holds, one after the other;
* `Value.kind` – what a message calls the kind of a value.
-/

namespace MathPage

/-- The options of a conversion. -/
structure Options where
  /-- where the page is written; as the caller gave it -/
  out : Option (Text ⊕ Path) := none
  tests : Option Text := none
  benchmarks : Option Text := none
  source : Option Text := none
  /-- leave out the page around the converted text -/
  fragment : Bool := false
  title : Text := "README".toList
  head : Option Text := none
  prepend : Option Text := none
  append : Option Text := none
  deriving DecidableEq, Repr

/-- A value of any kind. -/
inductive Value where
  | none
  | bool (b : Bool)
  | int (n : Int)
  | float (x : Float)
  | text (t : Text)
  | bytes (bs : List UInt8)
  | path (p : Path)
  | list (vs : List Value)
  | tuple (vs : List Value)
  /-- keys and values in order; a `frozen` record can only be read -/
  | record (frozen : Bool) (entries : List (Value × Value))
  | options (o : Options)

namespace Value

/-- An integer in base ten. -/
def integer (n : Int) : Text :=
  (if n < 0 then ['-'] else []) ++ Text.decimal n.natAbs

/-- A truth value. -/
def truth (b : Bool) : Text := if b then "True".toList else "False".toList

/-- A path as a literal. -/
def pathLiteral (p : Path) : Text :=
  "PosixPath(".toList ++ Quoted.text p.toText ++ [')']

/-- A text or nothing, as a literal. -/
def textLiteral : Option Text → Text
  | .none => "None".toList
  | .some t => Quoted.text t

/-- A field and its value. -/
def field (name : String) (value : Text) : Text := name.toList ++ '=' :: value

/-- Options as a literal: all fields in their order. -/
def optionsLiteral (o : Options) : Text :=
  let out := match o.out with
    | .none => "None".toList
    | .some (.inl t) => Quoted.text t
    | .some (.inr p) => pathLiteral p
  "Options(".toList ++ Text.join ", ".toList
    [field "out" out, field "tests" (textLiteral o.tests),
      field "benchmarks" (textLiteral o.benchmarks), field "source" (textLiteral o.source),
      field "fragment" (truth o.fragment), field "title" (Quoted.text o.title),
      field "head" (textLiteral o.head), field "prepend" (textLiteral o.prepend),
      field "append" (textLiteral o.append)] ++ [')']

mutual

/-- How a message shows a value. -/
def literal : Value → Text
  | .none => "None".toList
  | .bool b => truth b
  | .int n => integer n
  | .float x => Number.shown x
  | .text t => Quoted.text t
  | .bytes bs => Quoted.bytes bs
  | .path p => pathLiteral p
  | .list vs => '[' :: Text.join ", ".toList (literals vs) ++ [']']
  | .tuple [v] => '(' :: literal v ++ ",)".toList
  | .tuple vs => '(' :: Text.join ", ".toList (literals vs) ++ [')']
  | .record frozen es =>
    let body := '\x7b' :: Text.join ", ".toList (entryLiterals es) ++ ['\x7d']
    if frozen then "mappingproxy(".toList ++ body ++ [')'] else body
  | .options o => optionsLiteral o

/-- The literals of several values. -/
def literals : List Value → List Text
  | [] => []
  | v :: vs => literal v :: literals vs

/-- The entries of a record. -/
def entryLiterals : List (Value × Value) → List Text
  | [] => []
  | (k, v) :: es => (literal k ++ ": ".toList ++ literal v) :: entryLiterals es

end

/-- A value as running text: texts and paths without marks. -/
def plain : Value → Text
  | .text t => t
  | .path p => p.toText
  | v => literal v

/-- Whether a value counts as present: not nothing, not false, zero or empty. -/
def isTrue : Value → Bool
  | .none => false
  | .bool b => b
  | .int n => n != 0
  | .float x => x != 0
  | .text t => !t.isEmpty
  | .bytes bs => !bs.isEmpty
  | .path _ => true
  | .list vs => !vs.isEmpty
  | .tuple vs => !vs.isEmpty
  | .record _ es => !es.isEmpty
  | .options _ => true

/-- What a value holds, one after the other: a text its characters, a record its keys. -/
def items? : Value → Option (List Value)
  | .text t => some (t.map fun c => .text [c])
  | .bytes bs => some (bs.map fun b => .int b.toNat)
  | .list vs => some vs
  | .tuple vs => some vs
  | .record _ es => some (es.map (·.1))
  | _ => Option.none

/-- What a message calls the kind of a value. -/
def kind : Value → Text
  | .none => "NoneType".toList
  | .bool _ => "bool".toList
  | .int _ => "int".toList
  | .float _ => "float".toList
  | .text _ => "str".toList
  | .bytes _ => "bytes".toList
  | .path _ => "PosixPath".toList
  | .list _ => "list".toList
  | .tuple _ => "tuple".toList
  | .record false _ => "dict".toList
  | .record true _ => "mappingproxy".toList
  | .options _ => "Options".toList

end Value

end MathPage
