import Mathlib.Tactic
import MathPage.Proofs.Conversion.Check

/-!
# What a record of options must hold

* `Kind` – the kinds of options, with the values that each accepts (`Kind.accepts`) and what is
  reported of any other value (`Kind.problems`);
* `Field` – the options in their order, with the value that each has in given options
  (`Field.value`);
* `Distinct` – entries in which no text is the key of two;
* `problems` – everything that is wrong with some entries.

A field is found under its name or has its default (`Field.read_of_mem`, `Field.read_of_not_mem`),
and the options are those that the fields give, unless something is wrong (`ofRecord_eq`). So a
record is accepted if and only if nothing is wrong with it, and otherwise all that is wrong is
listed (`read_record`).
-/

namespace MathPage.Options

/-- The kinds of options. -/
inductive Kind where
  | place
  | optionalText
  | truth
  | text
  deriving DecidableEq, Repr

/-- The values that an option of some kind can have. -/
def Kind.accepts : Kind → Value → Bool
  | .place, .none | .place, .text _ | .place, .path _ => true
  | .optionalText, .none | .optionalText, .text _ => true
  | .truth, .bool _ => true
  | .text, .text _ => true
  | _, _ => false

/-- What is reported of a value that an option does not accept. A place is tried as a text and as a
path. -/
def Kind.problems (name : Text) : Kind → List Problem
  | .place => [⟨name ++ ".str".toList, .notText⟩, ⟨pathPlace, .notPath⟩]
  | .truth => [⟨name, .notTruth⟩]
  | .optionalText | .text => [⟨name, .notText⟩]

theorem Kind.problems_ne_nil (name : Text) (kind : Kind) : kind.problems name ≠ [] := by
  cases kind <;> exact List.cons_ne_nil _ _

/-- The options. -/
inductive Field where
  | out
  | tests
  | benchmarks
  | source
  | fragment
  | title
  | head
  | prepend
  | append
  deriving DecidableEq, Repr

namespace Field

/-- The options in their order. -/
def all : List Field :=
  [.out, .tests, .benchmarks, .source, .fragment, .title, .head, .prepend, .append]

/-- The name of an option. -/
def word : Field → String
  | .out => "out"
  | .tests => "tests"
  | .benchmarks => "benchmarks"
  | .source => "source"
  | .fragment => "fragment"
  | .title => "title"
  | .head => "head"
  | .prepend => "prepend"
  | .append => "append"

/-- The name of an option as a text. -/
def name (f : Field) : Text := f.word.toList

/-- The kind of an option. -/
def kind : Field → Kind
  | .out => .place
  | .fragment => .truth
  | .title => .text
  | _ => .optionalText

/-- An optional text as a value. -/
def ofText (t : Option Text) : Value := (t.map Value.text).getD .none

/-- An optional destination as a value. -/
def ofPlace (d : Option (Text ⊕ Path)) : Value := (d.map Job.destinationValue).getD .none

/-- The value that an option has. -/
def value (o : Options) : Field → Value
  | .out => ofPlace o.out
  | .tests => ofText o.tests
  | .benchmarks => ofText o.benchmarks
  | .source => ofText o.source
  | .fragment => .bool o.fragment
  | .title => .text o.title
  | .head => ofText o.head
  | .prepend => ofText o.prepend
  | .append => ofText o.append

/-- What is read of an option: what is wrong with it, and its value. -/
def read (es : List (Value × Value)) : Field → List Problem × Value
  | .out => (readOut es).map id ofPlace
  | .fragment => (readFragment es).map id .bool
  | .title => (readTitle es).map id .text
  | f => (readText f.word es).map id ofText

/-- Whether an entry gives an option a value that it does not accept. -/
def refuses (f : Field) : Value × Value → Bool
  | (.text k, v) => k = f.name && !f.kind.accepts v
  | _ => false

end Field

/-- No text is the key of two entries. -/
def Distinct (es : List (Value × Value)) : Prop :=
  es.Pairwise fun a b => ∀ k, a.1 = .text k → b.1 ≠ .text k

/-- What is wrong with the key of an entry. -/
def extra? : Value × Value → Option Problem
  | (.text k, _) => if ∃ f ∈ Field.all, f.name = k then none else some ⟨k, .unknownKey⟩
  | (k, _) => some ⟨keyPlace k, .keyNotText⟩

/-- What is wrong with the values of the options, in the order of the options. -/
def valueProblems (es : List (Value × Value)) : List Problem :=
  Field.all.flatMap fun f => if es.any f.refuses then f.kind.problems f.name else []

/-- Everything that is wrong with some entries: first the values of the options, and then the keys
that are no names of options, in the order of the entries. -/
def problems (es : List (Value × Value)) : List Problem := valueProblems es ++ es.filterMap extra?

/-! ### Entries -/

variable {es : List (Value × Value)} {f : Field} {v : Value}

theorem lookup?_eq_none_iff {name : String} :
    lookup? name es = none ↔ ∀ v, (.text name.toList, v) ∉ es := by
  fun_induction lookup? name es with
  | case1 => simp
  | case2 v es =>
    simp only [reduceCtorEq, false_iff, not_forall, not_not]
    exact ⟨v, List.mem_cons_self⟩
  | case3 k v es hk ih => simp [ih, Ne.symm hk]
  | case4 entry es hentry ih =>
    have hne : ∀ v, (.text name.toList, v) ≠ entry := fun v h => hentry _ v h.symm
    simp [ih, hne]

/-- The value of a key is that of the entry with the key. -/
theorem lookup?_eq_some_iff (hes : Distinct es) {name : String} :
    lookup? name es = some v ↔ (.text name.toList, v) ∈ es := by
  fun_induction lookup? name es with
  | case1 => simp
  | case2 v' es =>
    have hrest : (Value.text name.toList, v) ∉ es := fun hmem =>
      (List.pairwise_cons.1 hes).1 _ hmem _ rfl rfl
    simp [hrest, eq_comm]
  | case3 k v' es hk ih => simp [ih (List.pairwise_cons.1 hes).2, Ne.symm hk]
  | case4 entry es hentry ih =>
    have hne : (.text name.toList, v) ≠ entry := fun h => hentry _ v h.symm
    simp [ih (List.pairwise_cons.1 hes).2, hne]

namespace Field

theorem all_complete (f : Field) : f ∈ all := by cases f <;> decide

theorem name_injective : Function.Injective name := by
  intro f g
  cases f <;> cases g <;> decide

theorem names_eq : names = all.map name := rfl

theorem read_of_lookup?_eq_none (h : lookup? f.word es = none) :
    f.read es = ([], f.value {}) := by
  cases f <;> simp only [word] at h <;>
    simp only [read, word, readOut, readText, readFragment, readTitle, h] <;> rfl

theorem read_of_accepts (h : lookup? f.word es = some v) (hv : f.kind.accepts v = true) :
    f.read es = ([], v) := by
  cases f <;> cases v <;> simp only [word, kind, Kind.accepts, reduceCtorEq] at h hv <;>
    simp only [read, word, readOut, readText, readFragment, readTitle, h] <;> rfl

theorem read_of_not_accepts (h : lookup? f.word es = some v) (hv : f.kind.accepts v = false) :
    (f.read es).1 = f.kind.problems f.name := by
  cases f <;> cases v <;> simp only [word, kind, Kind.accepts, reduceCtorEq] at h hv <;>
    simp only [read, word, readOut, readText, readFragment, readTitle, h] <;> rfl

theorem any_refuses_iff : es.any f.refuses = true ↔
    ∃ v, (.text f.name, v) ∈ es ∧ f.kind.accepts v = false := by
  rw [List.any_eq_true]
  constructor
  · rintro ⟨⟨k, v⟩, hmem, hrefuses⟩
    cases k with
    | text k =>
      simp only [refuses, Bool.and_eq_true, decide_eq_true_eq, Bool.not_eq_true'] at hrefuses
      exact ⟨v, hrefuses.1 ▸ hmem, hrefuses.2⟩
    | _ => simp [refuses] at hrefuses
  · rintro ⟨v, hmem, hv⟩
    exact ⟨_, hmem, by simp [refuses, hv]⟩

/-- What is reported of an option is what is wrong with the value that is given for it. -/
theorem read_fst (hes : Distinct es) (f : Field) :
    (f.read es).1 = if es.any f.refuses then f.kind.problems f.name else [] := by
  cases hlookup : lookup? f.word es with
  | none =>
    have hnone := lookup?_eq_none_iff.1 hlookup
    rw [read_of_lookup?_eq_none hlookup, if_neg]
    rw [any_refuses_iff]
    exact fun ⟨v, hmem, _⟩ => hnone v hmem
  | some v =>
    have hmem := (lookup?_eq_some_iff hes).1 hlookup
    cases hv : f.kind.accepts v with
    | false =>
      rw [read_of_not_accepts hlookup hv, if_pos (any_refuses_iff.2 ⟨v, hmem, hv⟩)]
    | true =>
      rw [read_of_accepts hlookup hv, if_neg]
      rw [any_refuses_iff]
      rintro ⟨v', hmem', hv'⟩
      have hlookup' : lookup? f.word es = some v' := (lookup?_eq_some_iff hes).2 hmem'
      obtain rfl := Option.some.inj (hlookup.symm.trans hlookup')
      rw [hv] at hv'
      cases hv'

end Field

theorem extra?_text (k : Text) (v : Value) : extra? (.text k, v) =
    if names.contains k then none else some ⟨k, .unknownKey⟩ := by
  simp only [extra?, Field.names_eq, List.contains_iff_mem, List.mem_map]

theorem extra?_of_ne {k v : Value} (hk : ∀ t, k = .text t → False) :
    extra? (k, v) = some ⟨keyPlace k, .keyNotText⟩ := by
  cases k with
  | text t => exact (hk t rfl).elim
  | _ => rfl

theorem extra?_eq_none_iff {k v : Value} :
    extra? (k, v) = none ↔ ∃ f : Field, k = .text f.name := by
  by_cases hk : ∃ t, k = .text t
  · obtain ⟨t, rfl⟩ := hk
    simp only [extra?, ite_eq_left_iff, reduceCtorEq, imp_false, not_not, Value.text.injEq]
    exact ⟨fun ⟨f, _, hf⟩ => ⟨f, hf.symm⟩, fun ⟨f, hf⟩ => ⟨f, f.all_complete, hf.symm⟩⟩
  · rw [extra?_of_ne fun t ht => hk ⟨t, ht⟩]
    simp only [reduceCtorEq, false_iff]
    exact fun ⟨f, hf⟩ => hk ⟨_, hf⟩

theorem extraProblems_eq (es : List (Value × Value)) : extraProblems es = es.filterMap extra? := by
  fun_induction extraProblems es with
  | case1 => rfl
  | case2 k v es hk ih => rw [ih, List.filterMap_cons_none (by rw [extra?_text, if_pos hk])]
  | case3 k v es hk ih => rw [ih, List.filterMap_cons_some (by rw [extra?_text, if_neg hk])]
  | case4 k v es hk ih => rw [ih, List.filterMap_cons_some (extra?_of_ne hk)]

/-- The options that the entries give, as far as they are accepted. -/
def gathered (es : List (Value × Value)) : Options :=
  ⟨(readOut es).2, (readText "tests" es).2, (readText "benchmarks" es).2, (readText "source" es).2,
    (readFragment es).2, (readTitle es).2, (readText "head" es).2, (readText "prepend" es).2,
    (readText "append" es).2⟩

theorem value_gathered (es : List (Value × Value)) (f : Field) :
    f.value (gathered es) = (f.read es).2 := by cases f <;> rfl

/-- **Entries give the options that are gathered from them, unless something is wrong.** -/
theorem ofRecord_eq (hes : Distinct es) :
    ofRecord es = if problems es = [] then .ok (gathered es) else .error (problems es) := by
  have hproblems : (readOut es).1 ++ (readText "tests" es).1 ++ (readText "benchmarks" es).1 ++
      (readText "source" es).1 ++ (readFragment es).1 ++ (readTitle es).1 ++
      (readText "head" es).1 ++ (readText "prepend" es).1 ++ (readText "append" es).1 ++
      extraProblems es = problems es := by
    simp only [problems, valueProblems, ← Field.read_fst hes, ← extraProblems_eq, Field.all,
      List.flatMap_cons, List.flatMap_nil, List.append_nil, List.append_assoc]
    rfl
  unfold ofRecord
  dsimp only
  rw [hproblems]
  simp only [List.isEmpty_iff]
  rfl

theorem problems_eq_nil_iff : problems es = [] ↔
    ∀ k v, (k, v) ∈ es → ∃ f : Field, k = .text f.name ∧ f.kind.accepts v = true := by
  have hfields : valueProblems es = [] ↔
      ∀ f : Field, ∀ v, (.text f.name, v) ∈ es → f.kind.accepts v = true := by
    simp only [valueProblems, List.flatMap_eq_nil_iff, ite_eq_right_iff, Kind.problems_ne_nil,
      imp_false, Field.any_refuses_iff, not_exists, not_and, Bool.not_eq_false]
    exact ⟨fun h f => h f f.all_complete, fun h f _ => h f⟩
  have hextra : es.filterMap extra? = [] ↔ ∀ k v, (k, v) ∈ es → ∃ f : Field, k = .text f.name := by
    simp only [List.filterMap_eq_nil_iff, Prod.forall, extra?_eq_none_iff]
  rw [problems, List.append_eq_nil_iff, hfields, hextra]
  constructor
  · rintro ⟨hvalues, hkeys⟩ k v hmem
    obtain ⟨f, rfl⟩ := hkeys k v hmem
    exact ⟨f, rfl, hvalues f v hmem⟩
  · refine fun haccepts => ⟨fun f v hmem => ?_, fun k v hmem => ?_⟩
    · obtain ⟨g, hname, hv⟩ := haccepts _ v hmem
      rwa [Field.name_injective (Value.text.inj hname)]
    · obtain ⟨f, hname, -⟩ := haccepts k v hmem
      exact ⟨f, hname⟩

/-- A conversion looks only at the options that are read of its argument. -/
theorem call_congr {ω : Type} (h : Host ω) (current : Place) (file : Value) {u v : Value}
    (huv : read u = read v) (callback : Conversion.Argument ω) :
    Conversion.call h current file (.value u) callback =
      Conversion.call h current file (.value v) callback :=
  Conversion.call_congr (by rw [huv]) callback

/-- **A record is accepted exactly if every key is the name of an option that accepts the value.**
Then each option has the value that is given for it, or its default. Otherwise everything that is
wrong is listed: the values of options in the order of the options, whatever the order of the record,
and then the other keys in the order of the record. Options that are built of the same entries are
the options that the record is read as, and a conversion does the same with either of them. -/
theorem read_record (hes : Distinct es) (frozen : Bool) :
    ((∃ o, read (.record frozen es) = .ok o) ↔
      ∀ k v, (k, v) ∈ es → ∃ f : Field, k = .text f.name ∧ f.kind.accepts v = true) ∧
    (∀ o, read (.record frozen es) = .ok o → ∀ f : Field,
      (∀ v, (.text f.name, v) ∈ es → f.value o = v) ∧
        ((∀ v, (.text f.name, v) ∉ es) → f.value o = f.value {})) ∧
    (∀ r, read (.record frozen es) = .error r → r = .problems (problems es)) ∧
    (∀ es', es'.Perm es → valueProblems es' = valueProblems es) ∧
    (∀ o, ofRecord es = .ok o ↔ read (.record frozen es) = .ok o) ∧
    ∀ o, ofRecord es = .ok o → ∀ (ω : Type) (h : Host ω) (current : Place) (file : Value),
      (∀ callback, Conversion.call h current file (.value (.record frozen es)) callback =
        Conversion.call h current file (.value (.options o)) callback) ∧
      Conversion.start h current file (.record frozen es) =
        Conversion.start h current file (.options o) := by
  have hread : ∀ o, ofRecord es = .ok o ↔ read (.record frozen es) = .ok o := by
    intro o
    rw [read]
    cases ofRecord es <;> simp
  have hof : ∀ o, ofRecord es = .ok o ↔ problems es = [] ∧ gathered es = o := by
    intro o
    rw [ofRecord_eq hes]
    split_ifs with hnil <;> simp [hnil]
  have haccepts : problems es = [] ↔
      ∀ k v, (k, v) ∈ es → ∃ f : Field, k = .text f.name ∧ f.kind.accepts v = true :=
    problems_eq_nil_iff
  refine ⟨?_, fun o ho f => ?_, fun r hr => ?_, fun es' hperm => ?_, hread,
    fun o ho ω h current file => ?_⟩
  · rw [← haccepts]
    simp only [← hread, hof, exists_and_left, exists_eq', and_true]
  · obtain ⟨hnil, rfl⟩ := (hof o).1 ((hread o).2 ho)
    rw [haccepts] at hnil
    rw [value_gathered]
    refine ⟨fun v hmem => ?_, fun hnone => ?_⟩
    · obtain ⟨g, hname, hv⟩ := hnil _ v hmem
      obtain rfl := Field.name_injective (Value.text.inj hname)
      rw [Field.read_of_accepts ((lookup?_eq_some_iff hes).2 hmem) hv]
    · rw [Field.read_of_lookup?_eq_none (lookup?_eq_none_iff.2 hnone)]
  · rw [read, ofRecord_eq hes] at hr
    split_ifs at hr
    · exact (Except.error.inj hr).symm
  · simp only [valueProblems, hperm.any_eq]
  · have hoptions : read (.record frozen es) = read (.options o) := (hread o).1 ho
    refine ⟨call_congr h current file hoptions, ?_⟩
    rw [Conversion.start, Conversion.start, hoptions]

/-- Entries in no order, with values that are not accepted, an unknown key and one that is no
text. -/
def strayingSample : List (Value × Value) :=
  [(.text "colour".toList, .none), (.text "fragment".toList, .text "yes".toList),
    (.int 5, .none), (.text "title".toList, .text "t".toList), (.text "out".toList, .int 1)]

theorem read_record_straying : Distinct strayingSample ∧
    read (.record true strayingSample) = .error (.problems
      [⟨"out.str".toList, .notText⟩, ⟨pathPlace, .notPath⟩, ⟨"fragment".toList, .notTruth⟩,
        ⟨"colour".toList, .unknownKey⟩, ⟨"5".toList, .keyNotText⟩]) := by
  have hdistinct : Distinct strayingSample := by simp [Distinct, strayingSample]
  obtain ⟨haccepts, -, hrefused, -⟩ := read_record hdistinct true
  refine ⟨hdistinct, ?_⟩
  cases hread : read (.record true strayingSample) with
  | error r =>
    rw [hrefused r hread]
    rfl
  | ok o =>
    -- a key that is no text is no name of an option
    obtain ⟨f, hkey, -⟩ := haccepts.1 ⟨o, hread⟩ (.int 5) .none (by simp [strayingSample])
    cases hkey

end MathPage.Options
