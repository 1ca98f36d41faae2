import MemMap.Proofs.Run

/-!
# MemMap.Proofs.Loading

What comes of loading a file.

A file is read as a text before anything else. If that fails it has a reason that can be told
from the tree and the path (`ReadFault`): the path is no path, one of its steps cannot be
taken (`StepFault`), it does not lead to a file, or the file holds no text. A text that was
read is parsed as any text is, and only an error of its YAML is told differently, with the
path of the file.

* `follow_eq_error_iff` — steps stop at the first one that cannot be taken;
* `readText_eq_error_iff_readFault` — the reasons for which a file cannot be read as a text;
* `load_of_error`, `load_of_readText` — loading by way of the text of the file;
* `load_classified` — each outcome of loading, and exactly when it comes.
-/

namespace MemMap

namespace Files

/-! ## Texts -/

/-- A text is had from its own bytes, and from no others. -/
theorem fromUTF8?_eq_some_iff {content : ByteArray} {s : String} :
    String.fromUTF8? content = some s ↔ content = s.toUTF8 := by
  unfold String.fromUTF8?
  constructor
  · intro h
    split at h
    next => exact congrArg String.toUTF8 (Option.some.inj h)
    next => cases h
  · rintro rfl
    rw [String.toUTF8_eq_toByteArray, dif_pos s.isValidUTF8]
    rfl

/-- The text that the content of a file is, if it is one. -/
def textOf (content : ByteArray) : Except Fault String :=
  match String.fromUTF8? content with
  | some s => .ok s
  | none => .error .notText

theorem textOf_eq_ok_iff {content : ByteArray} {s : String} :
    textOf content = .ok s ↔ content = s.toUTF8 := by
  rw [← fromUTF8?_eq_some_iff, textOf]
  cases String.fromUTF8? content <;> simp

theorem textOf_eq_error_iff {content : ByteArray} {f : Fault} :
    textOf content = .error f ↔ (∀ s : String, content ≠ s.toUTF8) ∧ .notText = f := by
  simp only [Ne, ← fromUTF8?_eq_some_iff, ← Option.eq_none_iff_forall_ne_some]
  rw [textOf]
  cases String.fromUTF8? content <;> simp

namespace Tree

/-! ## Steps that cannot be taken -/

variable {t : Tree} {p q : Place} {name text : String} {f : Fault}

/-- Why a step from a place cannot be taken. -/
inductive StepFault (t : Tree) (p : Place) (name : String) : Fault → Prop
  /-- Nothing is at the place. -/
  | fromNothing (h : t.get? p = none) : StepFault t p name .notFound
  /-- A file is at the place. -/
  | fromFile {content : ByteArray} (h : t.get? p = some (.file content)) :
    StepFault t p name .notADirectory
  /-- The name is too long for anything in a directory. -/
  | longName (h : t.get? p = some .directory) (hlong : maxNameBytes < name.utf8ByteSize) :
    StepFault t p name .nameTooLong
  /-- Nothing in the directory has the name. -/
  | missing (h : t.get? p = some .directory) (hdot : name ≠ ".") (hdots : name ≠ "..")
    (hshort : name.utf8ByteSize ≤ maxNameBytes) (hnone : t.get? (p ++ [name]) = none) :
    StepFault t p name .notFound

theorem step_eq_error_iff : t.step p name = .error f ↔ t.StepFault p name f := by
  constructor
  · intro h
    unfold step at h
    split at h
    next hp => exact Except.error.inj h ▸ .fromNothing hp
    next hp => exact Except.error.inj h ▸ .fromFile hp
    next hp =>
      split at h
      next => cases h
      next hdot =>
        split at h
        next => cases h
        next hdots =>
          split at h
          next hlong => exact Except.error.inj h ▸ .longName hp hlong
          next hlong =>
            split at h
            next => cases h
            next hnone =>
              rw [Option.not_isSome_iff_eq_none] at hnone
              exact Except.error.inj h ▸ .missing hp hdot hdots (Nat.not_lt.mp hlong) hnone
  · rintro (hp | hp | ⟨hp, hlong⟩ | ⟨hp, hdot, hdots, hshort, hnone⟩)
    · simp [step, hp]
    · simp [step, hp]
    · -- the two names that lead nowhere new are short
      have hdot : name ≠ "." := by
        rintro rfl
        exact absurd hlong (by decide)
      have hdots : name ≠ ".." := by
        rintro rfl
        exact absurd hlong (by decide)
      simp [step, hp, hdot, hdots, hlong]
    · simp [step, hp, hdot, hdots, Nat.not_lt.mpr hshort, hnone]

theorem follow_cons_eq_error_iff {rest : List String} :
    t.follow p (name :: rest) = .error f ↔
      t.step p name = .error f ∨ ∃ q, t.step p name = .ok q ∧ t.follow q rest = .error f := by
  rw [follow]
  cases t.step p name <;> simp

/-- **The first step that cannot be taken.** Steps fail as one of them does, from the place
that those before it lead to. -/
theorem follow_eq_error_iff {steps : List String} :
    t.follow p steps = .error f ↔ ∃ front name back q, steps = front ++ name :: back ∧
      t.follow p front = .ok q ∧ t.StepFault q name f := by
  induction steps generalizing p with
  | nil => simp [follow]
  | cons name rest ih =>
      rw [follow_cons_eq_error_iff]
      constructor
      · rintro (hstep | ⟨r, hr, hrest⟩)
        · exact ⟨[], name, rest, p, rfl, rfl, step_eq_error_iff.mp hstep⟩
        · obtain ⟨front, stop, back, q, rfl, hfront, hstop⟩ := ih.mp hrest
          exact ⟨name :: front, stop, back, q, rfl,
            follow_cons_eq_ok_iff.mpr ⟨r, hr, hfront⟩, hstop⟩
      · rintro ⟨front, stop, back, q, hsteps, hfront, hstop⟩
        cases front with
        | nil =>
            obtain ⟨rfl, rfl⟩ := List.cons_eq_cons.mp hsteps
            obtain rfl := Except.ok.inj hfront
            exact .inl (step_eq_error_iff.mpr hstop)
        | cons first front =>
            obtain ⟨rfl, rfl⟩ := List.cons_eq_cons.mp hsteps
            obtain ⟨r, hr, hfront⟩ := follow_cons_eq_ok_iff.mp hfront
            exact .inr ⟨r, hr, ih.mpr ⟨front, stop, back, q, rfl, hfront, hstop⟩⟩

/-! ## Files that cannot be read -/

theorem checkedPath_eq_error_iff :
    checkedPath text = .error f ↔ '\x00' ∈ text.toList ∧ .zeroInPath = f ∨
      text = "" ∧ .notFound = f ∨
      '\x00' ∉ text.toList ∧ maxPathBytes < text.utf8ByteSize ∧ .nameTooLong = f := by
  unfold checkedPath
  by_cases hzero : '\x00' ∈ text.toList
  · have hne : text ≠ "" := by
      rintro rfl
      simp at hzero
    simp [hzero, hne]
  by_cases hempty : text = ""
  · subst hempty
    simp [maxPathBytes]
  · by_cases hlong : maxPathBytes < text.utf8ByteSize <;> simp [hzero, hempty, hlong]

theorem eq_parse_of_checkedPath {path : Path} (h : checkedPath text = .ok path) :
    path = .parse text := by
  unfold checkedPath at h
  split at h
  next => cases h
  next =>
    split at h
    next => cases h
    next =>
      split at h
      next => cases h
      next => exact (Except.ok.inj h).symm

theorem place_eq_error_iff :
    t.place text = .error f ↔ checkedPath text = .error f ∨
      ∃ path, checkedPath text = .ok path ∧ t.follow (t.origin path) path.steps = .error f := by
  rw [place]
  cases checkedPath text <;> simp [bind, Except.bind]

theorem read_eq_error_iff :
    t.read text = .error f ↔ t.place text = .error f ∨ ∃ p, t.place text = .ok p ∧
      (t.get? p = none ∧ .notFound = f ∨ t.get? p = some .directory ∧ .isADirectory = f ∨
        (∃ content, t.get? p = some (.file content)) ∧ (Path.parse text).trailing = true ∧
          .notADirectory = f) := by
  rw [read, place]
  cases hpath : checkedPath text with
  | error f => simp [bind, Except.bind]
  | ok path =>
      rw [← eq_parse_of_checkedPath hpath]
      cases hp : t.follow (t.origin path) path.steps with
      | error f => simp [bind, Except.bind, hp]
      | ok p =>
          rcases hentry : t.get? p with _ | _ | c <;>
            simp [bind, Except.bind, hp, hentry, throw, throwThe, MonadExceptOf.throw]
          cases path.trailing <;> simp [pure, Except.pure]

/-- The text of the file at the end of a path. -/
def readText (t : Tree) (text : String) : Except Fault String := do
  let content ← t.read text
  textOf content

theorem readText_eq_ok_iff {s : String} :
    t.readText text = .ok s ↔ t.read text = .ok s.toUTF8 := by
  rw [readText]
  cases t.read text with
  | error f => simp [bind, Except.bind]
  | ok content =>
      show textOf content = .ok s ↔ _
      rw [textOf_eq_ok_iff, Except.ok.injEq]

theorem readText_eq_error_iff :
    t.readText text = .error f ↔ t.read text = .error f ∨
      ∃ content, t.read text = .ok content ∧ textOf content = .error f := by
  rw [readText]
  cases t.read text <;> simp [bind, Except.bind]

/-- Why there is no text to be read at a path. -/
inductive ReadFault (t : Tree) (text : String) : Fault → Prop
  /-- The path holds a zero character. -/
  | zero (h : '\x00' ∈ text.toList) : ReadFault t text .zeroInPath
  /-- The path is empty. -/
  | empty (h : text = "") : ReadFault t text .notFound
  /-- The path is too long. -/
  | long (hzero : '\x00' ∉ text.toList) (h : maxPathBytes < text.utf8ByteSize) :
    ReadFault t text .nameTooLong
  /-- A step of the path cannot be taken from where those before it lead. -/
  | step {path : Path} {front back : List String} {name : String} {p : Place} {f : Fault}
    (hpath : checkedPath text = .ok path) (hsteps : path.steps = front ++ name :: back)
    (hfront : t.follow (t.origin path) front = .ok p) (h : t.StepFault p name f) :
    ReadFault t text f
  /-- The path leads to where nothing is. -/
  | nothing {p : Place} (hplace : t.place text = .ok p) (h : t.get? p = none) :
    ReadFault t text .notFound
  /-- The path leads to a directory. -/
  | directory {p : Place} (hplace : t.place text = .ok p) (h : t.get? p = some .directory) :
    ReadFault t text .isADirectory
  /-- The path leads to a file, but asks for a directory by a slash at its end. -/
  | slash {p : Place} {content : ByteArray} (hplace : t.place text = .ok p)
    (h : t.get? p = some (.file content)) (hslash : (Path.parse text).trailing = true) :
    ReadFault t text .notADirectory
  /-- The file holds no text. -/
  | notText {content : ByteArray} (hread : t.read text = .ok content)
    (h : ∀ s : String, content ≠ s.toUTF8) : ReadFault t text .notText

/-- **Failures of reading.** A file cannot be read as a text for the reasons of `ReadFault`,
and for no others. -/
theorem readText_eq_error_iff_readFault : t.readText text = .error f ↔ t.ReadFault text f := by
  constructor
  · intro hfault
    rcases readText_eq_error_iff.mp hfault with hread | ⟨content, hread, htext⟩
    · rcases read_eq_error_iff.mp hread with
        hplace | ⟨p, hp, ⟨h, rfl⟩ | ⟨h, rfl⟩ | ⟨⟨content, h⟩, hslash, rfl⟩⟩
      · rcases place_eq_error_iff.mp hplace with hchecked | ⟨path, hpath, hfollow⟩
        · rcases checkedPath_eq_error_iff.mp hchecked with ⟨h, rfl⟩ | ⟨h, rfl⟩ | ⟨hzero, h, rfl⟩
          · exact .zero h
          · exact .empty h
          · exact .long hzero h
        · obtain ⟨front, name, back, q, hsteps, hfront, hstop⟩ := follow_eq_error_iff.mp hfollow
          exact .step hpath hsteps hfront hstop
      · exact .nothing hp h
      · exact .directory hp h
      · exact .slash hp h hslash
    · obtain ⟨hne, rfl⟩ := textOf_eq_error_iff.mp htext
      exact .notText hread hne
  · intro h
    -- what goes wrong early goes wrong for the whole
    have hread {f} (h : t.read text = .error f) : t.readText text = .error f :=
      readText_eq_error_iff.mpr (.inl h)
    have hplace {f} (h : t.place text = .error f) : t.readText text = .error f :=
      hread (read_eq_error_iff.mpr (.inl h))
    have hchecked {f} (h : checkedPath text = .error f) : t.readText text = .error f :=
      hplace (place_eq_error_iff.mpr (.inl h))
    cases h with
    | zero h => exact hchecked (checkedPath_eq_error_iff.mpr (.inl ⟨h, rfl⟩))
    | empty h => exact hchecked (checkedPath_eq_error_iff.mpr (.inr (.inl ⟨h, rfl⟩)))
    | long hzero h => exact hchecked (checkedPath_eq_error_iff.mpr (.inr (.inr ⟨hzero, h, rfl⟩)))
    | step hpath hsteps hfront hstop =>
        have hfollow := follow_eq_error_iff.mpr ⟨_, _, _, _, hsteps, hfront, hstop⟩
        exact hplace (place_eq_error_iff.mpr (.inr ⟨_, hpath, hfollow⟩))
    | nothing hp h => exact hread (read_eq_error_iff.mpr (.inr ⟨_, hp, .inl ⟨h, rfl⟩⟩))
    | directory hp h =>
        exact hread (read_eq_error_iff.mpr (.inr ⟨_, hp, .inr (.inl ⟨h, rfl⟩)⟩))
    | slash hp h hslash =>
        exact hread (read_eq_error_iff.mpr (.inr ⟨_, hp, .inr (.inr ⟨⟨_, h⟩, hslash, rfl⟩)⟩))
    | notText hcontent h =>
        exact readText_eq_error_iff.mpr (.inr ⟨_, hcontent, textOf_eq_error_iff.mpr ⟨h, rfl⟩⟩)

end Tree

end Files

open Files

variable {t : Tree} {path text : String} {f : Fault}

/-! ## Loading -/

theorem readError_eq_schemaNotFound_iff {p : String} :
    readError path f = .schemaNotFound p ↔ p = path ∧ f = .notFound := by
  cases f <;> simp [readError, eq_comm]

theorem readError_eq_schemaRead_iff {p : String} {cause : Fault} :
    readError path f = .schemaRead p cause ↔ p = path ∧ f = cause ∧ cause ≠ .notFound := by
  unfold readError
  split
  next => simp +contextual [eq_comm]
  next hf =>
    simp only [Error.schemaRead.injEq]
    constructor
    · rintro ⟨rfl, rfl⟩
      exact ⟨rfl, rfl, hf⟩
    · rintro ⟨rfl, rfl, -⟩
      exact ⟨rfl, rfl⟩

/-- Where no text can be read, nothing but the path is told before the error. -/
theorem load_of_error (h : t.readText path = .error f) :
    (load Tree.access path t).1 = ⟨[.loading path], .error (readError path f)⟩ := by
  rw [load_tree]
  rcases Tree.readText_eq_error_iff.mp h with hread | ⟨content, hread, htext⟩
  · simp only [hread, schemaOfRead]
  · obtain ⟨hne, rfl⟩ := textOf_eq_error_iff.mp htext
    have hnone : String.fromUTF8? content = none :=
      Option.eq_none_iff_forall_ne_some.mpr fun s hs => hne s (fromUTF8?_eq_some_iff.mp hs)
    simp only [hread, schemaOfRead, schemaOfContent, hnone]
    rfl

theorem value_load_of_error (h : t.readText path = .error f) :
    (load Tree.access path t).1.value = .error (readError path f) := by
  rw [load_of_error h]

/-- A text that can be read is walked, whatever comes of it. -/
theorem load_of_readText (h : t.readText path = .ok text) :
    (load Tree.access path t).1 =
      let result := (Schema.ofYaml text).mapError (·.inFile path)
      ⟨.loading path :: ((Schema.walkText text).1 ++ loadedEvents result), result⟩ := by
  have hsome : String.fromUTF8? text.toUTF8 = some text := fromUTF8?_eq_some_iff.mpr rfl
  rw [load_tree]
  simp only [Tree.readText_eq_ok_iff.mp h, schemaOfRead, schemaOfContent, hsome]
  rfl

/-- What a text gives in the file at `path`, by what it gives without a file. -/
inductive LoadsAs (path text : String) : Except Error Schema → Prop
  | ok {schema : Schema} (h : Schema.ofYaml text = .ok schema) : LoadsAs path text (.ok schema)
  | parse {cause : Yaml.Fault} (h : Schema.ofYaml text = .error (.yaml cause)) :
    LoadsAs path text (.error (.schemaParse path cause))
  | invalid {cause : SchemaFault} (h : Schema.ofYaml text = .error (.invalidSchema cause)) :
    LoadsAs path text (.error (.invalidSchema cause))

theorem loadsAs_of_readText (h : t.readText path = .ok text) :
    LoadsAs path text (load Tree.access path t).1.value := by
  rw [load_of_readText h]
  cases hparsed : Schema.ofYaml text with
  | ok schema => exact .ok hparsed
  | error e =>
      rcases walkText_eq_error hparsed with ⟨cause, rfl⟩ | ⟨cause, rfl⟩
      · exact .parse hparsed
      · exact .invalid hparsed

/-- **Loading is reading and parsing.** Loading changes no file. It tells of a schema that is
not found, or that cannot be read, exactly if there is no text to be read at the path, and
then gives the path and the reason. A text that is read gives what it gives without a file,
with the path added to errors of its YAML. -/
theorem load_classified (t : Tree) (path : String) :
    (load Tree.access path t).2 = t ∧
    (∀ p, (load Tree.access path t).1.value = .error (.schemaNotFound p) ↔
      p = path ∧ t.ReadFault path .notFound) ∧
    (∀ p cause, (load Tree.access path t).1.value = .error (.schemaRead p cause) ↔
      p = path ∧ t.ReadFault path cause ∧ cause ≠ .notFound) ∧
    ((∃ text : String, t.read path = .ok text.toUTF8) ↔ ∀ cause, ¬ t.ReadFault path cause) ∧
    ∀ text : String, t.read path = .ok text.toUTF8 →
      (∀ p cause, (load Tree.access path t).1.value = .error (.schemaParse p cause) ↔
        p = path ∧ Schema.ofYaml text = .error (.yaml cause)) ∧
      (∀ cause, (load Tree.access path t).1.value = .error (.invalidSchema cause) ↔
        Schema.ofYaml text = .error (.invalidSchema cause)) ∧
      (∀ schema, (load Tree.access path t).1.value = .ok schema ↔
        Schema.ofYaml text = .ok schema) := by
  simp only [← Tree.readText_eq_ok_iff, ← Tree.readText_eq_error_iff_readFault]
  refine ⟨rfl, ?_⟩
  cases htext : t.readText path with
  | error f =>
      simp [value_load_of_error htext, readError_eq_schemaNotFound_iff,
        readError_eq_schemaRead_iff]
  | ok text =>
      have hloads := loadsAs_of_readText htext
      generalize (load Tree.access path t).1.value = value at hloads ⊢
      cases hloads with
      | ok hparsed => simp [hparsed]
      | parse hparsed => simp [hparsed, eq_comm]
      | invalid hparsed => simp [hparsed]

/-- One file in the current directory: itself, one that is not there, one below it, and the
directory. -/
theorem load_classified_small :
    (load Tree.access "s.yaml" smallTree).1.value = .ok smallSchema ∧
    (load Tree.access "t.yaml" smallTree).1.value = .error (.schemaNotFound "t.yaml") ∧
    (load Tree.access "s.yaml/t" smallTree).1.value =
      .error (.schemaRead "s.yaml/t" .notADirectory) ∧
    (load Tree.access "." smallTree).1.value = .error (.schemaRead "." .isADirectory) := by
  have hparsed : Schema.ofYaml "A: {a: u8}\n" = .ok smallSchema :=
    toOption_eq_some_iff.mp (by decide +kernel)
  have hread : smallTree.read "s.yaml" = .ok "A: {a: u8}\n".toUTF8 :=
    toOption_eq_some_iff.mp (by decide +kernel)
  have hmissing : smallTree.ReadFault "t.yaml" .notFound :=
    Tree.readText_eq_error_iff_readFault.mp rfl
  have hfile : smallTree.ReadFault "s.yaml/t" .notADirectory :=
    Tree.readText_eq_error_iff_readFault.mp rfl
  have hdirectory : smallTree.ReadFault "." .isADirectory :=
    Tree.readText_eq_error_iff_readFault.mp rfl
  obtain ⟨-, -, -, -, hloads⟩ := load_classified smallTree "s.yaml"
  obtain ⟨-, hnotFound, -⟩ := load_classified smallTree "t.yaml"
  obtain ⟨-, -, hstopped, -⟩ := load_classified smallTree "s.yaml/t"
  obtain ⟨-, -, hunreadable, -⟩ := load_classified smallTree "."
  exact ⟨((hloads _ hread).2.2 _).mpr hparsed, (hnotFound _).mpr ⟨rfl, hmissing⟩,
    (hstopped _ _).mpr ⟨rfl, hfile, by decide⟩, (hunreadable _ _).mpr ⟨rfl, hdirectory, by decide⟩⟩

end MemMap
