import MathPage.Options
import MathPage.Text.Utf8

/-!
# What can go wrong

`Failure` lists the causes for which a conversion is refused or ends; `Failure.message` is the only
place that words them. They are those that a program can catch and go on from: what ends the program
itself, as an exit or an interrupt does, is no failure of a conversion.

A failure leaves a generator or a coroutine as it is, unless it is the signal that ends an iteration:
that cannot leave one, and another failure takes its place (`Failure.beyond`).
-/

namespace MathPage

/-- What is wrong with an attribute of an equation marker. -/
inductive AttributeFault where
  | missing
  | unterminated
  | empty
  /-- any other reason that a caller gives by name -/
  | other (reason : Text)
  deriving DecidableEq, Repr

/-- Why arguments are refused before anything is done. -/
inductive UsageFault where
  | notFile (value : Value)
  | notCallback (value : Value)
  | options (refusal : Options.Refusal)
  /-- a path with a null character, as it was given -/
  | nullInPath (value : Value)
  | other (message : Text)

/-- Why a file cannot be opened. -/
inductive FileFault where
  | absent
  | notFolder
  | isFolder
  | nameTooLong
  deriving DecidableEq, Repr

/-- The kinds of failure that a renderer, a logger or a callback can raise. -/
inductive ForeignKind where
  | value
  | runtime
  | system
  /-- the signal that an iteration has come to its end -/
  | exhausted
  deriving DecidableEq, Repr

/-- Why a converted text cannot be written. -/
inductive MarkupFault where
  /-- an identifier or a label of a heading has no value -/
  | noValue
  /-- the identifier of raised text in a heading has no value -/
  | noIdentifier
  /-- a switch of fenced code, on, off or neither, that a page does not show -/
  | hiddenSwitch (value : Option Bool)
  /-- marked text ends, and in front of it stands a single mark that it could not end -/
  | singleMark
  deriving DecidableEq, Repr

/-- Why a conversion is refused or ends. -/
inductive Failure where
  | usage (fault : UsageFault)
  | marker (name node : Text) (fault : AttributeFault)
  /-- a start marker without its end marker -/
  | block (node : Text)
  | equation (message node : Text)
  | general (message : Text)
  | markup (fault : MarkupFault)
  | file (fault : FileFault) (place : Place)
  | encoding (fault : Utf8.Fault)
  /-- a completion settles once -/
  | delivered
  /-- a value that should hold pieces of markup holds nothing one after the other -/
  | notIterable (value : Value)
  | foreign (kind : ForeignKind) (message : Text)

/-- What the signal that ends an iteration cannot leave. -/
inductive Boundary where
  | generator
  | coroutine
  deriving DecidableEq, Repr

namespace AttributeFault

/-- The name of a reason. -/
def name : AttributeFault → Text
  | .missing => "missing".toList
  | .unterminated => "unterminated".toList
  | .empty => "empty".toList
  | .other r => r

/-- The reason with a given name. -/
def ofName (t : Text) : AttributeFault :=
  if t = "missing".toList then .missing
  else if t = "unterminated".toList then .unterminated
  else if t = "empty".toList then .empty
  else .other t

/-- The sentence about an attribute. -/
def message (field : Text) : AttributeFault → Text
  | .unterminated =>
    "Equation comment `".toList ++ field ++ "` value is missing a closing quote".toList
  | .empty => "Equation comment `".toList ++ field ++ "` must not be empty".toList
  | _ => "Equation comments must have a valid `".toList ++ field ++ "` attribute".toList

end AttributeFault

/-- The wording of a refused argument. -/
def UsageFault.message : UsageFault → Text
  | .notFile v =>
    "invalid argument. First argument must be a string. Value: `".toList ++ v.literal ++
      "`.".toList
  | .notCallback v =>
    "invalid argument. Callback argument must be a function. Value: `".toList ++ v.literal ++
      "`.".toList
  | .options (.notRecord v) =>
    "invalid argument. Options argument must be an object. Value: `".toList ++ v.literal ++
      "`.".toList
  | .options .function =>
    "invalid argument. Options argument must be an object. Value: `<function>`.".toList
  | .options (.problems ps) =>
    "invalid option. ".toList ++ Text.join "; ".toList (ps.map Options.Problem.message) ++ ['.']
  | .nullInPath v =>
    "invalid path. Value: `".toList ++ v.literal ++ "`. embedded null byte".toList
  | .other m => m

/-- The wording of a fault of markup. -/
def MarkupFault.message : MarkupFault → Text
  | .noValue => "expected string or bytes-like object, got 'NoneType'".toList
  | .noIdentifier => "'NoneType' object has no attribute 'startswith'".toList
  | .hiddenSwitch none => "cannot serialize None (type NoneType)".toList
  | .hiddenSwitch (some b) =>
    "cannot serialize ".toList ++ Value.truth b ++ " (type bool)".toList
  | .singleMark => "deque index out of range".toList

/-- The number and the wording of a file fault. -/
def FileFault.message : FileFault → Text
  | .absent => "[Errno 2] No such file or directory".toList
  | .notFolder => "[Errno 20] Not a directory".toList
  | .isFolder => "[Errno 21] Is a directory".toList
  | .nameTooLong => "[Errno 36] File name too long".toList

/-- The wording of a failure. -/
def Failure.message : Failure → Text
  | .usage f => f.message
  | .marker a node f =>
    "invalid node. ".toList ++ f.message a ++ ". Node: ".toList ++ node
  | .block node =>
    ("invalid node. Invalid equation comment. Ensure that the Markdown file includes both " ++
      "starting and ending equation comments. Node: `").toList ++ node ++ ['\x60']
  | .equation m _ => m
  | .general m => m
  | .markup f => f.message
  | .file f place => f.message ++ ": ".toList ++ Quoted.text place.toText
  | .encoding f => f.message
  | .delivered => "Conversion result has already been delivered.".toList
  | .notIterable v => '\x27' :: v.kind ++ "' object is not iterable".toList
  | .foreign _ m => m

/-- What a boundary is called. -/
def Boundary.name : Boundary → Text
  | .generator => "generator".toList
  | .coroutine => "coroutine".toList

/-- What a failure becomes that leaves a generator or a coroutine. -/
def Failure.beyond (b : Boundary) : Failure → Failure
  | .foreign .exhausted _ => .foreign .runtime (b.name ++ " raised StopIteration".toList)
  | f => f

end MathPage
