import MathPage.Proofs.Conversion.Gate
import MathPage.Proofs.Conversion.Modes
import MathPage.Proofs.Path.FileTree

/-!
# Spellings of a path

A path is resolved when the arguments of a conversion are checked, and what follows is told its
place alone. So two spellings of the source that lead to one place give the same conversion
(`Conversion.call_congr_file`), and so do two spellings of the destination
(`Conversion.call_congr_out`); but a destination that is the empty text is none, though it leads to
the working directory.

The places themselves are a normal form of the paths (`Conversion.paths_normalForm`).
-/

namespace MathPage

variable {ω : Type} {h : Host ω} {current place : Place}

namespace Job

/-- A text without a null character is located where it leads to. -/
theorem locate_ofText {t : Text} (hnull : '\x00' ∉ t) (current : Place) (shown : Value) :
    locate current shown (Path.ofText t) = .ok ((Path.ofText t).resolve current) := by
  rw [locate, if_pos]
  rwa [← Bool.not_eq_false, ← null_mem_iff]

/-- The path of a normal place is located there from everywhere. -/
theorem locate_ofPlace (hplace : place.IsNormal) (current : Place) (shown : Value) :
    locate current shown (Path.ofPlace place) = .ok place := by
  rw [locate, if_pos, Path.resolve_ofPlace hplace]
  rw [← Bool.not_eq_false, isProper_eq_false_iff]
  rintro ⟨n, hn, hnull⟩
  exact (hplace n hn).no_null hnull

/-- Without links two paths that lead to the same place are located there. -/
theorem exists_locate_of_sameWay {tree : FileTree} (htree : tree.Linkless) {p p' : Path}
    (hway : tree.SameWay current p p') :
    ∃ place, ∀ shown, locate current shown p = .ok place ∧ locate current shown p' = .ok place := by
  obtain ⟨t, t', place, rfl, rfl, hnull, hnull', ht, ht'⟩ := hway
  rw [FileTree.leads_iff htree] at ht ht'
  refine ⟨place, fun shown => ⟨?_, ?_⟩⟩
  · rw [locate_ofText hnull, ht]
  · rw [locate_ofText hnull', ht']

theorem prepare_congr_file {file file' : Value} {p p' : Path} (hp : filePath? file = some p)
    (hp' : filePath? file' = some p') (hplace : locate current file p = .ok place)
    (hplace' : locate current file' p' = .ok place) (options : Except Options.Refusal Options) :
    prepare h current file options = prepare h current file' options := by
  unfold prepare
  cases options with
  | error r => simp only [hp, hp']
  | ok o => simp only [hp, hp', hplace, hplace']

theorem locateDestination_congr {o o' : Options} {d d' : Text ⊕ Path}
    (hd : o.destination? = some d) (hd' : o'.destination? = some d')
    (hplace : locate current (destinationValue d) (destinationPath d) = .ok place)
    (hplace' : locate current (destinationValue d') (destinationPath d') = .ok place) :
    locateDestination h current o' = locateDestination h current o := by
  simp only [locateDestination, hd, hd', hplace, hplace']

end Job

namespace Conversion

/-- Behind the checks, nothing depends on how the destination was given. -/
theorem begin_congr_out (o : Options) {out : Option (Text ⊕ Path)}
    (hdest : Job.locateDestination h current { o with out := out } =
      Job.locateDestination h current o) (file : Value) :
    begin h current file (.ok { o with out := out }) = begin h current file (.ok o) := by
  have hprepare := Job.prepare_options_congr hdest file
  funext w
  rcases hj : Job.prepare h current file (.ok o) w.outside with ⟨f | j, u⟩
  · have hj' : Job.prepare h current file (.ok { o with out := out }) w.outside =
        (.error f, u) := by
      rw [hprepare, Action.bind_of_error hj]
    exact (Action.bind_of_error (Job.outside_of_eq hj')).trans
      (Action.bind_of_error (Job.outside_of_eq hj)).symm
  · have hj' : Job.prepare h current file (.ok { o with out := out }) w.outside =
        (.ok { j with options := { o with out := out } }, u) := by
      rw [hprepare, Action.bind_of_ok hj]
      rfl
    obtain rfl : o = j.options := Except.ok.inj
      (Job.check_eq_ok ((Job.prepare_computes h current file (.ok o)).of_ok hj).1).1
    -- a page shows the options without their destination
    rw [begin_of_ok hj, begin_of_ok hj']
    rfl

/-- **Two arguments that stand for one place are the same source.** -/
theorem call_congr_file {file file' : Value} {p p' : Path} (hp : Job.filePath? file = some p)
    (hp' : Job.filePath? file' = some p') (hplace : Job.locate current file p = .ok place)
    (hplace' : Job.locate current file' p' = .ok place) (options callback : Argument ω) :
    call h current file options callback = call h current file' options callback := by
  have hbegin : ∀ o, begin h current file o = begin h current file' o := fun o => by
    rw [begin, begin, Job.prepare_congr_file hp hp' hplace hplace']
  unfold call
  simp only [hbegin]

/-- **Two options that stand for one place are the same destination.** -/
theorem call_congr_out {o : Options} {d d' : Text ⊕ Path} {options options' : Argument ω}
    (ho : options.options = .ok { o with out := some d })
    (ho' : options'.options = .ok { o with out := some d' }) (hd : d ≠ .inl []) (hd' : d' ≠ .inl [])
    (hplace : Job.locate current (Job.destinationValue d) (Job.destinationPath d) = .ok place)
    (hplace' : Job.locate current (Job.destinationValue d') (Job.destinationPath d') = .ok place)
    (file : Value) (callback : Argument ω) :
    call h current file options callback = call h current file options' callback := by
  have hdest : Job.locateDestination h current { o with out := some d } =
      Job.locateDestination h current { o with out := some d' } :=
    Job.locateDestination_congr (Options.destination?_eq_some.2 ⟨rfl, hd'⟩)
      (Options.destination?_eq_some.2 ⟨rfl, hd⟩) hplace' hplace
  have hbegin : begin h current file (.ok { o with out := some d }) =
      begin h current file (.ok { o with out := some d' }) :=
    begin_congr_out { o with out := some d' } hdest file
  cases options with
  | function k => cases ho
  | value v =>
    cases options' with
    | function k => cases ho'
    | value v' =>
      rw [Argument.options] at ho ho'
      exact call_congr (by rw [ho, ho', hbegin]) callback

/-- **Places are the normal form of paths.** A working directory is given by a text that begins with
a slash, and a path by any text. Every path is resolved, and where the path that is joined to the
working directory is: at a place whose names are those of entries, which is written with one slash
in front of each. Every file tree without links leads to it along the text, and to no other place,
whatever exists on the way; and what is written for it is resolved to it from everywhere. So two
paths that lead to one place are the same source: the conversions are one action, which gives the
same outcome, writes the same file and asks the same of its host. They are also the same
destination, unless one of them is given as the empty text, which is none. -/
theorem paths_normalForm (h : Host ω) {cwd : Text} (habs : cwd.head? = some '/')
    (hcwd : '\x00' ∉ cwd) :
    (∀ t : Text, '\x00' ∉ t → ∃ place : Place,
      Job.locate (Place.ofText cwd) (.text t) (Path.ofText t) = .ok place ∧
      (∀ current, ((Path.ofText cwd).join (Path.ofText t)).resolve current = place) ∧
      place.IsNormal ∧ place.toText = '/' :: Text.join ['/'] place ∧
      (∀ tree : FileTree, tree.Linkless →
        ∀ q, tree.Leads (Place.ofText cwd) t q ↔ q = place) ∧
      ∀ current, Job.locate current (.text place.toText) (Path.ofText place.toText) = .ok place) ∧
    ∀ tree : FileTree, tree.Linkless →
      (∀ {file file' : Value} {p p' : Path}, Job.filePath? file = some p →
        Job.filePath? file' = some p' → tree.SameWay (Place.ofText cwd) p p' →
        ∀ options callback : Argument ω,
          call h (Place.ofText cwd) file options callback =
            call h (Place.ofText cwd) file' options callback) ∧
      ∀ {o : Options} {d d' : Text ⊕ Path} {options options' : Argument ω},
        options.options = .ok { o with out := some d } →
        options'.options = .ok { o with out := some d' } → d ≠ .inl [] → d' ≠ .inl [] →
        tree.SameWay (Place.ofText cwd) (Job.destinationPath d) (Job.destinationPath d') →
        ∀ (file : Value) (callback : Argument ω),
          call h (Place.ofText cwd) file options callback =
            call h (Place.ofText cwd) file options' callback := by
  have hcurrent : Place.IsNormal (Place.ofText cwd) := Path.isNormal_resolve .nil hcwd
  refine ⟨fun t ht => ?_, fun tree htree => ⟨?_, ?_⟩⟩
  · have hplace : Place.IsNormal ((Path.ofText t).resolve (Place.ofText cwd)) :=
      Path.isNormal_resolve hcurrent ht
    have hanchor : (Path.ofText cwd).anchor ≠ .here :=
      mt Path.anchorOf_eq_here_iff.1 (not_not.2 habs)
    refine ⟨_, Job.locate_ofText ht _ _, fun current => Path.resolve_join hanchor _ current, hplace,
      rfl, fun tree htree q => FileTree.leads_iff htree, fun current => ?_⟩
    rw [Path.ofText_toText hplace]
    exact Job.locate_ofPlace hplace current _
  · intro file file' p p' hp hp' hway options callback
    obtain ⟨place, hlocate⟩ := Job.exists_locate_of_sameWay htree hway
    exact call_congr_file hp hp' (hlocate file).1 (hlocate file').2 options callback
  · intro o d d' options options' ho ho' hd hd' hway file callback
    obtain ⟨place, hlocate⟩ := Job.exists_locate_of_sameWay htree hway
    exact call_congr_out ho ho' hd hd' (hlocate _).1 (hlocate _).2 file callback

/-- A source and a destination with a folder that does not exist, steps up beyond the root, dots and
doubled slashes. -/
theorem paths_normalForm_climbing :
    let cwd := "//box/.".toList
    let t := "x/../../../box//./a.md/".toList
    let options : Argument ℕ := .value (.options { out := some (.inl "b.html".toList) })
    let options' : Argument ℕ :=
      .value (.record false [(.text "out".toList, .text "../box/y/../b.html".toList)])
    cwd.head? = some '/' ∧ '\x00' ∉ cwd ∧ Place.ofText cwd = ["box".toList] ∧ '\x00' ∉ t ∧
      sampleDrive.fileTree.Linkless ∧ sampleDrive.fileTree ["box".toList, "x".toList] = none ∧
      Job.locate ["box".toList] (.text t) (Path.ofText t) = .ok ["box".toList, "a.md".toList] ∧
      call steady ["box".toList] (.text t) options (.value .none) =
        call steady ["box".toList] (.text "a.md".toList) options' (.value .none) := by
  intro cwd t options options'
  have habs : cwd.head? = some '/' := rfl
  have hcwd : '\x00' ∉ cwd := by decide
  have ht : '\x00' ∉ t := by decide
  have hcurrent : Place.ofText cwd = ["box".toList] := by decide
  have htree := sampleDrive.linkless_fileTree
  obtain ⟨hpaths, hsame⟩ := paths_normalForm steady habs hcwd
  obtain ⟨hfile, hout⟩ := hsame _ htree
  rw [hcurrent] at hfile hout hpaths
  obtain ⟨place, hlocate, -, -, -, hleads, -⟩ := hpaths t ht
  have hplace : ["box".toList, "a.md".toList] = place :=
    (hleads _ htree _).1 ((FileTree.leads_iff htree).2 (by decide))
  refine ⟨habs, hcwd, hcurrent, ht, htree, rfl, hplace ▸ hlocate, ?_⟩
  calc call steady ["box".toList] (.text t) options (.value .none)
    _ = call steady ["box".toList] (.text "a.md".toList) options (.value .none) :=
        hfile rfl rfl ⟨t, "a.md".toList, _, rfl, rfl, ht, by decide,
          (FileTree.leads_iff htree).2 rfl, (FileTree.leads_iff htree).2 (by decide)⟩ _ _
    _ = call steady ["box".toList] (.text "a.md".toList) options' (.value .none) :=
        hout (o := {}) rfl rfl (by simp) (by simp) ⟨_, _, _, rfl, rfl, by decide, by decide,
          (FileTree.leads_iff htree).2 rfl, (FileTree.leads_iff htree).2 (by decide)⟩ _ _

/-- The empty text leads to the working directory, as a dot does; but as a destination it is none,
and the page is delivered. -/
theorem paths_normalForm_empty :
    let page := fun out : Text => under steady ["box".toList] (.text "a.md".toList)
      { out := some (.inl out), fragment := true }
    let shown := fun out : Text =>
      ((page out ⟨sampleDrive, 0⟩).1.map fun outcome => (outcome.ok, outcome.html)).toOption
    sampleDrive.fileTree.SameWay ["box".toList] (Path.ofText []) (Path.ofText ['.']) ∧
      shown [] = some (true, some "<p>hi</p>".toList) ∧ shown ['.'] = some (false, none) ∧
      page [] ≠ page ['.'] := by
  intro page shown
  have htree := sampleDrive.linkless_fileTree
  have hempty : shown [] = some (true, some "<p>hi</p>".toList) := by decide +kernel
  have hdot : shown ['.'] = some (false, none) := by decide +kernel
  refine ⟨⟨[], ['.'], ["box".toList], rfl, rfl, by decide, by decide,
    (FileTree.leads_iff htree).2 rfl, (FileTree.leads_iff htree).2 rfl⟩, hempty, hdot,
    fun heq => ?_⟩
  have hsame : shown [] = shown ['.'] := by simp only [shown, heq]
  rw [hempty, hdot] at hsame
  cases hsame

end Conversion

end MathPage
