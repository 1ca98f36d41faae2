import MemMap.Files.Tree

/-!
# MemMap.Proofs.Places

Where paths lead.

A path is followed through directories only, and a write asks of the file that may lie at its
place no more than not to be a directory. So the place that a path is written at depends on
the directories of a tree and on its current directory, and not on its files. Trees that
agree on the former (`SameDirectories`) have the same places, and a write leads from a tree
to one that agrees with it.

* `writePlace_congr` — trees with the same directories have the same places;
* `sameDirectories_put` — a file at a place changes no directory;
* `SameDirectories.read` — what is read at a path depends on the directories and one file;
* `read_eq_ok_of_writePlace` — the file at the place of a path is what is read at the path.
-/

namespace MemMap.Files.Tree

variable {t u w : Tree} {p q : Place} {name text : String}

/-! ## Single steps -/

/-- A step that succeeds starts at a directory. It stays there, goes back, or goes on to
something that is there under a name that is not too long. -/
theorem step_eq_ok_iff :
    t.step p name = .ok q ↔ t.get? p = some .directory ∧
      (name = "." ∧ p = q ∨ name = ".." ∧ p.dropLast = q ∨
        name ≠ "." ∧ name ≠ ".." ∧ name.utf8ByteSize ≤ maxNameBytes ∧
          (t.get? (p ++ [name])).isSome ∧ p ++ [name] = q) := by
  unfold step
  split
  next h => simp [h]
  next h => simp [h]
  next h =>
    by_cases hdot : name = "."
    · simp [h, hdot]
    by_cases hdots : name = ".."
    · simp [h, hdots]
    by_cases hlong : maxNameBytes < name.utf8ByteSize
    · simp [h, hdot, hdots, hlong, Nat.not_le.mpr hlong]
    · by_cases hthere : (t.get? (p ++ [name])).isSome
      · simp [h, hdot, hdots, hlong, hthere, Nat.not_lt.mp hlong]
      · simp [h, hdot, hdots, hlong, hthere]

/-- A file can be put into a directory under a name of its own that is not too long, unless
a directory has it. -/
theorem fileIn_eq_ok_iff {trailing : Bool} :
    t.fileIn p name trailing = .ok q ↔ t.get? p = some .directory ∧ trailing = false ∧
      name ≠ "." ∧ name ≠ ".." ∧ name.utf8ByteSize ≤ maxNameBytes ∧
        t.get? (p ++ [name]) ≠ some .directory ∧ p ++ [name] = q := by
  unfold fileIn
  split
  next h => simp [h]
  next h => simp [h]
  next h =>
    split
    next hname =>
      simp only [Bool.or_eq_true, decide_eq_true_eq] at hname
      constructor
      · simp
      · rintro ⟨-, rfl, hdot, hdots, -⟩
        simp [hdot, hdots] at hname
    next hname =>
      simp only [Bool.or_eq_true, decide_eq_true_eq, not_or, Bool.not_eq_true] at hname
      obtain ⟨⟨hdot, hdots⟩, rfl⟩ := hname
      by_cases hlong : maxNameBytes < name.utf8ByteSize
      · simp [h, hlong, Nat.not_le.mpr hlong]
      · cases hthere : t.get? (p ++ [name]) with
        | none => simp [h, hdot, hdots, hlong, Nat.not_lt.mp hlong]
        | some e => cases e <;> simp [h, hdot, hdots, hlong, Nat.not_lt.mp hlong]

/-! ## Several steps -/

theorem follow_cons_eq_ok_iff {rest : List String} :
    t.follow p (name :: rest) = .ok q ↔
      ∃ r, t.step p name = .ok r ∧ t.follow r rest = .ok q := by
  rw [follow]
  cases t.step p name <;> simp

theorem follow_append_eq_ok_iff {front back : List String} :
    t.follow p (front ++ back) = .ok q ↔
      ∃ r, t.follow p front = .ok r ∧ t.follow r back = .ok q := by
  induction front generalizing p with
  | nil => simp [follow]
  | cons name rest ih =>
      rw [List.cons_append, follow_cons_eq_ok_iff]
      simp only [follow_cons_eq_ok_iff, ih]
      constructor
      · rintro ⟨s, hs, r, hr, hq⟩
        exact ⟨r, ⟨s, hs, hr⟩, hq⟩
      · rintro ⟨r, ⟨s, hs, hr⟩, hq⟩
        exact ⟨s, hs, r, hr, hq⟩

/-! ## Trees with the same directories -/

/-- Trees that differ in their files at most. -/
structure SameDirectories (t u : Tree) : Prop where
  here : t.here = u.here
  directory : ∀ p, t.get? p = some .directory ↔ u.get? p = some .directory

namespace SameDirectories

theorem refl (t : Tree) : SameDirectories t t := ⟨rfl, fun _ => Iff.rfl⟩

theorem symm (h : SameDirectories t u) : SameDirectories u t :=
  ⟨h.here.symm, fun p => (h.directory p).symm⟩

theorem trans (h : SameDirectories t u) (h' : SameDirectories u w) : SameDirectories t w :=
  ⟨h.here.trans h'.here, fun p => (h.directory p).trans (h'.directory p)⟩

theorem origin (h : SameDirectories t u) (path : Path) : t.origin path = u.origin path := by
  rw [Tree.origin, Tree.origin, h.here]

/-- A step leads to the same place if something is there in the other tree as well. -/
theorem step (h : SameDirectories t u) (hs : t.step p name = .ok q)
    (hq : (u.get? q).isSome = true) : u.step p name = .ok q := by
  rw [step_eq_ok_iff] at hs ⊢
  obtain ⟨hp, hname⟩ := hs
  refine ⟨(h.directory p).mp hp, ?_⟩
  rcases hname with hdot | hdots | ⟨hdot, hdots, hlong, -, rfl⟩
  · exact .inl hdot
  · exact .inr (.inl hdots)
  · exact .inr (.inr ⟨hdot, hdots, hlong, hq, rfl⟩)

/-- Steps lead to the same place if something is there in the other tree as well: everything
on the way is a directory, in both trees. -/
theorem follow {steps : List String} (h : SameDirectories t u) (hf : t.follow p steps = .ok q)
    (hq : (u.get? q).isSome = true) : u.follow p steps = .ok q := by
  induction steps generalizing p with
  | nil => exact hf
  | cons name rest ih =>
      obtain ⟨r, hr, hrest⟩ := follow_cons_eq_ok_iff.mp hf
      have hthere : (u.get? r).isSome = true := by
        cases rest with
        | nil =>
            obtain rfl : r = q := by simpa [Tree.follow] using hrest
            exact hq
        | cons next _ =>
            obtain ⟨_, hnext, -⟩ := follow_cons_eq_ok_iff.mp hrest
            have hdir : u.get? r = some .directory :=
              (h.directory r).mp (step_eq_ok_iff.mp hnext).1
            rw [hdir, Option.isSome_some]
      exact follow_cons_eq_ok_iff.mpr ⟨r, h.step hr hthere, ih hrest⟩

theorem fileIn {trailing : Bool} (h : SameDirectories t u)
    (hf : t.fileIn p name trailing = .ok q) : u.fileIn p name trailing = .ok q := by
  rw [fileIn_eq_ok_iff] at hf ⊢
  simpa only [Ne, h.directory] using hf

end SameDirectories

/-! ## Places of files -/

theorem writePlace_eq_ok_iff :
    t.writePlace text = .ok q ↔ ∃ path name p, checkedPath text = .ok path ∧
      path.steps.getLast? = some name ∧ t.follow (t.origin path) path.steps.dropLast = .ok p ∧
      t.fileIn p name path.trailing = .ok q := by
  rw [writePlace]
  cases checkedPath text with
  | error f => simp [bind, Except.bind]
  | ok path =>
      cases hlast : path.steps.getLast? with
      | none => simp [bind, Except.bind, hlast, throw, throwThe, MonadExceptOf.throw]
      | some name =>
          cases hp : t.follow (t.origin path) path.steps.dropLast <;>
            simp [bind, Except.bind, hlast, hp]

theorem SameDirectories.writePlace (h : SameDirectories t u) (hw : t.writePlace text = .ok q) :
    u.writePlace text = .ok q := by
  obtain ⟨path, name, p, hpath, hlast, hp, hq⟩ := writePlace_eq_ok_iff.mp hw
  have hdir : u.get? p = some .directory :=
    (h.directory p).mp (fileIn_eq_ok_iff.mp hq).1
  rw [h.origin path] at hp
  have hfollow := h.follow hp (by rw [hdir, Option.isSome_some])
  exact writePlace_eq_ok_iff.mpr ⟨path, name, p, hpath, hlast, hfollow, h.fileIn hq⟩

/-- **Places depend on directories.** -/
theorem writePlace_congr (h : SameDirectories t u) :
    t.writePlace text = .ok q ↔ u.writePlace text = .ok q :=
  ⟨h.writePlace, h.symm.writePlace⟩

theorem ne_nil_of_writePlace (h : t.writePlace text = .ok q) : q ≠ [] := by
  obtain ⟨_, _, _, -, -, -, hq⟩ := writePlace_eq_ok_iff.mp h
  obtain ⟨-, -, -, -, -, -, rfl⟩ := fileIn_eq_ok_iff.mp hq
  simp

theorem get?_ne_directory_of_writePlace (h : t.writePlace text = .ok q) :
    t.get? q ≠ some .directory := by
  obtain ⟨_, _, _, -, -, -, hq⟩ := writePlace_eq_ok_iff.mp h
  obtain ⟨-, -, -, -, -, hfree, rfl⟩ := fileIn_eq_ok_iff.mp hq
  exact hfree

/-- **A file changes no directory.** -/
theorem sameDirectories_put (h : t.writePlace text = .ok q) (content : ByteArray) :
    SameDirectories t (t.put q (.file content)) := by
  refine ⟨rfl, fun p => ?_⟩
  rw [get?_put t (ne_nil_of_writePlace h)]
  by_cases hp : p = q
  · subst hp
    simp [get?_ne_directory_of_writePlace h]
  · rw [if_neg hp]

/-! ## Reading -/

/-- Where a path leads. -/
def place (t : Tree) (text : String) : Except Fault Place := do
  let path ← checkedPath text
  t.follow (t.origin path) path.steps

theorem place_eq_ok_iff :
    t.place text = .ok q ↔
      ∃ path, checkedPath text = .ok path ∧ t.follow (t.origin path) path.steps = .ok q := by
  rw [place]
  cases checkedPath text <;> simp [bind, Except.bind]

theorem read_eq_ok_iff {content : ByteArray} :
    t.read text = .ok content ↔ ∃ path p, checkedPath text = .ok path ∧
      t.follow (t.origin path) path.steps = .ok p ∧ t.get? p = some (.file content) ∧
        path.trailing = false := by
  rw [read]
  cases checkedPath text with
  | error f => simp [bind, Except.bind]
  | ok path =>
      cases hp : t.follow (t.origin path) path.steps with
      | error f => simp [bind, Except.bind, hp]
      | ok p =>
          rcases hentry : t.get? p with _ | _ | c <;>
            simp [bind, Except.bind, hp, hentry, throw, throwThe, MonadExceptOf.throw]
          cases path.trailing <;> simp [pure, Except.pure]

/-- **Reading depends on one file.** What is read at a path is read at it in every tree with
the same directories and the same file where the path leads. -/
theorem SameDirectories.read {content : ByteArray} (h : SameDirectories t u)
    (hread : t.read text = .ok content)
    (hfile : ∀ p, t.place text = .ok p → u.get? p = t.get? p) : u.read text = .ok content := by
  obtain ⟨path, p, hpath, hp, hentry, htrailing⟩ := read_eq_ok_iff.mp hread
  have hentry' : u.get? p = some (.file content) := by
    rw [hfile p (place_eq_ok_iff.mpr ⟨path, hpath, hp⟩), hentry]
  rw [h.origin path] at hp
  have hfollow := h.follow hp (by rw [hentry', Option.isSome_some])
  exact read_eq_ok_iff.mpr ⟨path, p, hpath, hfollow, hentry', htrailing⟩

/-- **Reading what was written.** A path that a file can be written at is one that it can be
read at. -/
theorem read_eq_ok_of_writePlace {content : ByteArray} (h : t.writePlace text = .ok q)
    (hq : t.get? q = some (.file content)) : t.read text = .ok content := by
  obtain ⟨path, name, p, hpath, hlast, hp, hfile⟩ := writePlace_eq_ok_iff.mp h
  obtain ⟨hdir, htrailing, hdot, hdots, hlong, -, rfl⟩ := fileIn_eq_ok_iff.mp hfile
  have hstep : t.step p name = .ok (p ++ [name]) :=
    step_eq_ok_iff.mpr ⟨hdir, .inr (.inr ⟨hdot, hdots, hlong, by rw [hq, Option.isSome_some], rfl⟩)⟩
  have hfollow : t.follow (t.origin path) path.steps = .ok (p ++ [name]) := by
    obtain ⟨front, hfront⟩ := List.getLast?_eq_some_iff.mp hlast
    rw [hfront, List.dropLast_concat] at hp
    rw [hfront, follow_append_eq_ok_iff]
    exact ⟨p, hp, follow_cons_eq_ok_iff.mpr ⟨_, hstep, rfl⟩⟩
  exact read_eq_ok_iff.mpr ⟨path, p ++ [name], hpath, hfollow, hq, htrailing⟩

end MemMap.Files.Tree
