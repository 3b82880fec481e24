import MathPage.Proofs.Equation.Marker
import MathPage.Proofs.Equation.Written
import MathPage.Proofs.Text.Occurrence

/-!
# What a start marker says

The attributes of a start marker follow a small grammar: the value of an attribute is what stands
between the first occurrence of `name="` and the next quotation mark. There are no escapes, and the
first occurrence counts wherever it stands, also inside another value.

* `Marker.HasValue` – the value of an attribute, by this grammar;
* `Marker.Fails` – what can be wrong with one attribute;
* `Marker.FirstFault` – the first fault of several attributes, in their order.

The attributes are read if and only if all three have values, and those that must not be empty are
not; otherwise it is the first fault that is reported (`attributes_grammar`).
-/

namespace MathPage.Marker

/-- What an attribute opens with. -/
def key (name : Text) : Text := name ++ ['=', Text.quote]

/-- The value of an attribute: what stands between the first opening of the attribute and the next
quotation mark. -/
def HasValue (name t v : Text) : Prop :=
  ∃ before rest, Text.FirstAt (key name) t before (v ++ Text.quote :: rest) ∧ Text.quote ∉ v

/-- The attributes of a start marker, in the order in which they are read. -/
def names : List Text := ["label".toList, "alt".toList, "raw".toList]

/-- What is wrong with an attribute of a text. The alternate text alone may be empty. -/
inductive Fails (name t : Text) : AttributeFault → Prop where
  | missing (habsent : ¬ key name <:+: t) : Fails name t .missing
  | unterminated {before rest : Text} (hfirst : Text.FirstAt (key name) t before rest)
    (hopen : Text.quote ∉ rest) : Fails name t .unterminated
  | empty (hvalue : HasValue name t []) (hname : name ≠ "alt".toList) : Fails name t .empty

/-- The first of several attributes that has a fault, and this fault. -/
inductive FirstFault (t : Text) : List Text → Text → AttributeFault → Prop where
  | here {name : Text} {rest : List Text} {fault : AttributeFault} (hfails : Fails name t fault) :
    FirstFault t (name :: rest) name fault
  | later {first name : Text} {rest : List Text} {fault : AttributeFault}
    (hsound : ∀ fault', ¬ Fails first t fault') (hrest : FirstFault t rest name fault) :
    FirstFault t (first :: rest) name fault

/-! ### One attribute -/

/-- A value has no quotation mark in it and stands in the text behind its opening and in front of a
quotation mark. -/
theorem HasValue.written {name t v : Text} (h : HasValue name t v) :
    Text.quote ∉ v ∧ key name ++ v ++ [Text.quote] <:+: t := by
  obtain ⟨before, rest, hfirst, hv⟩ := h
  refine ⟨hv, before, rest, ?_⟩
  rw [hfirst.1]
  simp only [List.append_assoc, List.singleton_append]

theorem scan_eq_ok_iff {name t v : Text} : scan name t = .ok v ↔ HasValue name t v := by
  unfold scan
  constructor
  · intro hscan
    split at hscan
    · cases hscan
    · rename_i before rest hcut
      split at hscan
      · cases hscan
      · rename_i v' rest' hcut'
        obtain rfl := Except.ok.inj hscan
        obtain ⟨rfl, hv⟩ := Text.cutAt?_singleton_eq_some_iff.1 hcut'
        exact ⟨before, rest', Text.cutAt?_eq_some_iff.1 hcut, hv⟩
  · rintro ⟨before, rest, hfirst, hv⟩
    have hcut : Text.cutAt? (name ++ ['=', Text.quote]) t = _ := Text.cutAt?_eq_some_iff.2 hfirst
    simp only [hcut, Text.cutAt?_singleton hv]

theorem scan_eq_missing_iff {name t : Text} :
    scan name t = .error .missing ↔ ¬ key name <:+: t := by
  rw [← Text.cutAt?_eq_none_iff, key, scan]
  split
  · rename_i hcut
    simp only [hcut]
  · rename_i hcut
    rw [hcut]
    split <;> simp

theorem scan_eq_unterminated_iff {name t : Text} : scan name t = .error .unterminated ↔
    ∃ before rest, Text.FirstAt (key name) t before rest ∧ Text.quote ∉ rest := by
  unfold scan
  constructor
  · intro hscan
    split at hscan
    · cases hscan
    · rename_i before rest hcut
      split at hscan
      · rename_i hnone
        exact ⟨before, rest, Text.cutAt?_eq_some_iff.1 hcut,
          Text.cutAt?_singleton_eq_none_iff.1 hnone⟩
      · cases hscan
  · rintro ⟨before, rest, hfirst, hopen⟩
    have hcut : Text.cutAt? (name ++ ['=', Text.quote]) t = _ := Text.cutAt?_eq_some_iff.2 hfirst
    simp only [hcut, Text.cutAt?_singleton_eq_none_iff.2 hopen]

/-- The search for an attribute finds nothing else to complain about. -/
theorem scan_eq_error {name t : Text} {fault : AttributeFault} (hscan : scan name t = .error fault) :
    fault = .missing ∨ fault = .unterminated := by
  unfold scan at hscan
  split at hscan
  · exact Or.inl (Except.error.inj hscan).symm
  · split at hscan
    · exact Or.inr (Except.error.inj hscan).symm
    · cases hscan

theorem value_eq_error_iff {name t : Text} {f : Failure} :
    value name t = .error f ↔ ∃ fault, scan name t = .error fault ∧ f = .marker name t fault := by
  unfold value refuse
  cases scan name t with
  | ok v => simp [Except.mapError]
  | error fault =>
    simp only [Except.mapError, Except.error.injEq]
    exact ⟨fun h => ⟨fault, rfl, h.symm⟩, fun ⟨_, hfault, hf⟩ => by rw [hf, hfault]⟩

theorem fails_of_scan {name t : Text} {fault : AttributeFault}
    (hscan : scan name t = .error fault) : Fails name t fault := by
  rcases scan_eq_error hscan with rfl | rfl
  · exact .missing (scan_eq_missing_iff.1 hscan)
  · obtain ⟨before, rest, hfirst, hopen⟩ := scan_eq_unterminated_iff.1 hscan
    exact .unterminated hfirst hopen

/-- The faults of an attribute are those that the search finds, and the empty value. -/
theorem fails_iff {name t : Text} {fault : AttributeFault} : Fails name t fault ↔
    scan name t = .error fault ∨ fault = .empty ∧ scan name t = .ok [] ∧ name ≠ "alt".toList := by
  constructor
  · intro hfails
    cases hfails with
    | missing habsent => exact Or.inl (scan_eq_missing_iff.2 habsent)
    | unterminated hfirst hopen => exact Or.inl (scan_eq_unterminated_iff.2 ⟨_, _, hfirst, hopen⟩)
    | empty hvalue hname => exact Or.inr ⟨rfl, scan_eq_ok_iff.2 hvalue, hname⟩
  · rintro (hscan | ⟨rfl, hscan, hname⟩)
    · exact fails_of_scan hscan
    · exact .empty (scan_eq_ok_iff.1 hscan) hname

/-- Reading one attribute gives its value, or the fault that it has. -/
structure Reads (name t : Text) (r : Except Failure Text) : Prop where
  sound : ∀ {v}, r = .ok v → ∀ fault, ¬ Fails name t fault
  fault : ∀ {f}, r = .error f → ∃ fault, Fails name t fault ∧ f = .marker name t fault
  unique : ∀ {f fault}, r = .error f → Fails name t fault → f = .marker name t fault

theorem reads_value (t : Text) : Reads "alt".toList t (value "alt".toList t) where
  sound := by
    intro v hv fault hfails
    rw [value_eq_ok_iff] at hv
    rcases fails_iff.1 hfails with hscan | ⟨-, -, hname⟩
    · rw [hv] at hscan
      cases hscan
    · exact hname rfl
  fault := by
    intro f hf
    obtain ⟨fault, hscan, rfl⟩ := value_eq_error_iff.1 hf
    exact ⟨fault, fails_of_scan hscan, rfl⟩
  unique := by
    intro f fault hf hfails
    obtain ⟨fault', hscan, rfl⟩ := value_eq_error_iff.1 hf
    rcases fails_iff.1 hfails with hscan' | ⟨-, -, hname⟩
    · rw [Except.error.inj (hscan.symm.trans hscan')]
    · exact absurd rfl hname

theorem required_eq_error_iff {name t : Text} {f : Failure} : required name t = .error f ↔
    value name t = .error f ∨ scan name t = .ok [] ∧ f = .marker name t .empty := by
  rw [← value_eq_ok_iff]
  unfold required refuse
  split
  · rename_i hv
    simp only [hv, reduceCtorEq, false_or, true_and, Except.error.injEq]
    exact eq_comm
  · rename_i hv
    exact ⟨Or.inl, fun h => h.resolve_right fun h' => hv h'.1⟩

theorem reads_required {name t : Text} (hname : name ≠ "alt".toList) :
    Reads name t (required name t) where
  sound := by
    intro v hv fault hfails
    obtain ⟨hscan, hne⟩ := required_eq_ok_iff.1 hv
    rcases fails_iff.1 hfails with hscan' | ⟨-, hscan', -⟩
    · rw [hscan] at hscan'
      cases hscan'
    · exact hne (Except.ok.inj (hscan.symm.trans hscan'))
  fault := by
    intro f hf
    rcases required_eq_error_iff.1 hf with hf | ⟨hscan, rfl⟩
    · obtain ⟨fault, hscan, rfl⟩ := value_eq_error_iff.1 hf
      exact ⟨fault, fails_of_scan hscan, rfl⟩
    · exact ⟨.empty, .empty (scan_eq_ok_iff.1 hscan) hname, rfl⟩
  unique := by
    intro f fault hf hfails
    rcases required_eq_error_iff.1 hf with hf | ⟨hscan, rfl⟩
    · obtain ⟨fault', hscan, rfl⟩ := value_eq_error_iff.1 hf
      rcases fails_iff.1 hfails with hscan' | ⟨-, hscan', -⟩
      · rw [Except.error.inj (hscan.symm.trans hscan')]
      · rw [hscan] at hscan'
        cases hscan'
    · rcases fails_iff.1 hfails with hscan' | ⟨rfl, -, -⟩
      · rw [hscan] at hscan'
        cases hscan'
      · rfl

/-! ### Several attributes -/

theorem not_firstFault_nil {t name : Text} {fault : AttributeFault} :
    ¬ FirstFault t [] name fault := fun h => by cases h

/-- The first of several attributes is read, and then the others if it has a value. -/
theorem firstFault_cons_iff {first t : Text} {rest : List Text} {r : Except Failure Text}
    (hr : Reads first t r) {f : Failure} :
    (∃ name fault, FirstFault t (first :: rest) name fault ∧ f = .marker name t fault) ↔
      r = .error f ∨ ∃ v, r = .ok v ∧
        ∃ name fault, FirstFault t rest name fault ∧ f = .marker name t fault := by
  constructor
  · rintro ⟨name, fault, hfirst, rfl⟩
    cases hfirst with
    | here hfails =>
      cases hread : r with
      | ok v => exact absurd hfails (hr.sound hread fault)
      | error f => exact Or.inl (by rw [hr.unique hread hfails])
    | later hsound hrest =>
      cases hread : r with
      | ok v => exact Or.inr ⟨v, rfl, name, fault, hrest, rfl⟩
      | error f =>
        obtain ⟨fault', hfails, -⟩ := hr.fault hread
        exact absurd hfails (hsound fault')
  · rintro (hread | ⟨v, hread, name, fault, hrest, rfl⟩)
    · obtain ⟨fault, hfails, rfl⟩ := hr.fault hread
      exact ⟨first, fault, .here hfails, rfl⟩
    · exact ⟨name, fault, .later (hr.sound hread) hrest, rfl⟩

theorem bind_eq_error_iff {α β : Type} {x : Except Failure α} {k : α → Except Failure β}
    {f : Failure} : (x >>= k) = .error f ↔ x = .error f ∨ ∃ a, x = .ok a ∧ k a = .error f := by
  cases x with
  | error f' =>
    show Except.error f' = .error f ↔ _
    simp
  | ok a =>
    show k a = .error f ↔ _
    simp

/-- What keeps a start marker from being read is its first fault. -/
theorem attributes_eq_error_iff {t : Text} {f : Failure} : attributes t = .error f ↔
    ∃ name fault, FirstFault t names name fault ∧ f = .marker name t fault := by
  have hlabel : Reads "label".toList t (required "label".toList t) := reads_required (by decide)
  have hraw : Reads "raw".toList t (required "raw".toList t) := reads_required (by decide)
  rw [names, firstFault_cons_iff hlabel, attributes, bind_eq_error_iff]
  refine or_congr Iff.rfl (exists_congr fun label => and_congr_right fun _ => ?_)
  rw [firstFault_cons_iff (reads_value t), bind_eq_error_iff]
  refine or_congr Iff.rfl (exists_congr fun alt => and_congr_right fun _ => ?_)
  rw [firstFault_cons_iff hraw, bind_eq_error_iff]
  refine or_congr Iff.rfl (exists_congr fun raw => and_congr_right fun _ => ?_)
  constructor
  · intro hok
    cases hok
  · rintro ⟨name, fault, hnone, -⟩
    exact absurd hnone not_firstFault_nil

/-- **The grammar of a start marker.** The attributes of a text are its three values, if the label
and the expression are not empty; otherwise the reader names the first fault, in the order of the
attributes, together with the text. Every value stands in the text between its opening and a
quotation mark and holds no quotation mark itself. A logger that takes every message does not change
what is read. -/
theorem attributes_grammar (t : Text) :
    (∀ e : Equation, attributes t = .ok e ↔ HasValue "label".toList t e.label ∧
      HasValue "alt".toList t e.alt ∧ HasValue "raw".toList t e.raw ∧ e.label ≠ [] ∧ e.raw ≠ []) ∧
    (∀ f : Failure, attributes t = .error f ↔
      ∃ name fault, FirstFault t names name fault ∧ f = .marker name t fault) ∧
    (∀ e : Equation, attributes t = .ok e → List.Forall₂
      (fun name v => Text.quote ∉ v ∧ key name ++ v ++ [Text.quote] <:+: t) names
      [e.label, e.alt, e.raw]) ∧
    (∀ (ω : Type) (h : Host ω) (w : ω), h.NeverRefuses → (read h t w).1 = attributes t) := by
  have hvalues : ∀ e : Equation, attributes t = .ok e ↔ HasValue "label".toList t e.label ∧
      HasValue "alt".toList t e.alt ∧ HasValue "raw".toList t e.raw ∧ e.label ≠ [] ∧ e.raw ≠ [] := by
    intro e
    rw [attributes_eq_ok_iff, scan_eq_ok_iff, scan_eq_ok_iff, scan_eq_ok_iff]
    tauto
  refine ⟨hvalues, fun f => attributes_eq_error_iff, fun e he => ?_, fun ω h w hq => ?_⟩
  · obtain ⟨hlabel, halt, hraw, -, -⟩ := (hvalues e).1 he
    exact .cons hlabel.written (.cons halt.written (.cons hraw.written .nil))
  · obtain ⟨v, hread, -⟩ := (read_computes h t).exists_eq hq w
    rw [hread]

/-- A start marker whose label is found inside its alternate text. -/
def nestedSample : Text :=
  "<!-- <equation alt=\x22 label=\x22 label=\x22x\x22 raw=\x22y\x22> -->".toList

theorem attributes_grammar_nested :
    attributes nestedSample = .ok ⟨" label=".toList, " label=".toList, "y".toList⟩ ∧
      HasValue "label".toList nestedSample " label=".toList ∧
      key "label".toList ++ " label=".toList ++ [Text.quote] <:+: nestedSample ∧
      (∃ name fault, FirstFault Marker.stop names name fault ∧
        attributes Marker.stop = .error (.marker name Marker.stop fault)) := by
  have hok : attributes nestedSample = .ok ⟨" label=".toList, " label=".toList, "y".toList⟩ := by
    rfl
  have hfault : attributes stop = .error (.marker "label".toList stop .missing) := by rfl
  obtain ⟨hvalues, -, hwritten, -⟩ := attributes_grammar nestedSample
  obtain ⟨-, herror, -, -⟩ := attributes_grammar stop
  refine ⟨hok, ((hvalues _).1 hok).1, ?_, ?_⟩
  · cases hwritten _ hok with
    | cons hlabel _ => exact hlabel.2
  · obtain ⟨name, fault, hfirst, hf⟩ := (herror _).1 hfault
    exact ⟨name, fault, hfirst, hf ▸ hfault⟩

end MathPage.Marker
