import MemMap.Files.Fault
import MemMap.Files.Path

/-!
# MemMap.Files.Tree

A file system of directories and regular files, with a current directory.

Everything in it lies at a place, the list of names from the root. A path is followed step
by step from the root or the current directory, each step asking for a directory to step
from. Reading needs a file at the end of the path. Writing needs a directory before its
last step and no directory at it; it puts a file there and changes nothing else.

* `Tree.get?_put` — what is found after something was put at a place;
* `Tree.write_eq_ok_iff` — a write puts its file at the place `Tree.writePlace` finds.
-/

namespace MemMap.Files

/-! ## Trees -/

/-- What lies at a place. -/
inductive Entry where
  | directory
  | file (content : ByteArray)

instance decidableEqEntry : DecidableEq Entry
  | .directory, .directory => .isTrue rfl
  | .directory, .file _ => .isFalse Entry.noConfusion
  | .file _, .directory => .isFalse Entry.noConfusion
  | .file a, .file b =>
    match ByteArray.instDecidableEq a b with
    | .isTrue h => .isTrue (congrArg Entry.file h)
    | .isFalse h => .isFalse fun he => h (Entry.file.inj he)

/-- A place: names from the root. -/
abbrev Place := List String

/-- A file system. The root is always a directory and not among the entries. -/
structure Tree where
  entries : List (Place × Entry)
  /-- The current directory. -/
  here : Place
  deriving DecidableEq

namespace Tree

/-- What lies at a place. -/
def get? (t : Tree) (p : Place) : Option Entry :=
  if p = [] then some .directory else List.lookup p t.entries

/-- Put something at a place, instead of what was there. -/
def put (t : Tree) (p : Place) (e : Entry) : Tree :=
  { t with entries := (p, e) :: t.entries.filter (·.1 ≠ p) }

/-- Dropping the entries of one place leaves those of another. -/
theorem lookup_filter_ne {p q : Place} (h : q ≠ p) (entries : List (Place × Entry)) :
    List.lookup q (entries.filter (·.1 ≠ p)) = List.lookup q entries := by
  induction entries with
  | nil => rfl
  | cons e rest ih =>
    obtain ⟨r, e⟩ := e
    by_cases hr : r = p
    · subst hr
      have hq : (q == r) = false := by simpa using h
      simp only [ne_eq, not_true_eq_false, decide_false, Bool.false_eq_true, not_false_eq_true,
        List.filter_cons_of_neg, List.lookup_cons, hq, ih]
    · simp only [ne_eq, hr, not_false_eq_true, decide_true, List.filter_cons_of_pos,
        List.lookup_cons, ih]

/-- **What a change shows.** Below the root, what is put at a place is found there, and
nothing changes elsewhere. -/
theorem get?_put (t : Tree) {p : Place} (hp : p ≠ []) (e : Entry) (q : Place) :
    (t.put p e).get? q = if q = p then some e else t.get? q := by
  unfold get? put
  by_cases hq : q = []
  · subst hq
    simp [Ne.symm hp]
  · by_cases hqp : q = p
    · subst hqp
      simp [hq]
    · have : (q == p) = false := by simpa using hqp
      simp only [hq, if_false, List.lookup_cons, this, hqp]
      exact lookup_filter_ne hqp t.entries

/-! ## Following paths -/

/-- Names have at most this many bytes. -/
def maxNameBytes : Nat := 255

/-- Paths have at most this many bytes. -/
def maxPathBytes : Nat := 4095

/-- One step from a place that must be a directory. -/
def step (t : Tree) (p : Place) (name : String) : Except Fault Place :=
  match t.get? p with
  | none => .error .notFound
  | some (.file _) => .error .notADirectory
  | some .directory =>
    if name = "." then .ok p
    else if name = ".." then .ok p.dropLast
    else if maxNameBytes < name.utf8ByteSize then .error .nameTooLong
    else if (t.get? (p ++ [name])).isSome then .ok (p ++ [name])
    else .error .notFound

/-- Some steps one after another. -/
def follow (t : Tree) : Place → List String → Except Fault Place
  | p, [] => .ok p
  | p, name :: rest =>
    match t.step p name with
    | .ok q => t.follow q rest
    | .error f => .error f

/-- Where a path starts. -/
def origin (t : Tree) (path : Path) : Place :=
  if path.absolute then [] else t.here

/-- The steps of a path, unless its text cannot be a path. -/
def checkedPath (text : String) : Except Fault Path :=
  if text.toList.contains '\x00' then .error .zeroInPath
  else if text = "" then .error .notFound
  else if maxPathBytes < text.utf8ByteSize then .error .nameTooLong
  else .ok (.parse text)

/-! ## Reading and writing -/

/-- The content of the file at the end of a path. -/
def read (t : Tree) (text : String) : Except Fault ByteArray := do
  let path ← checkedPath text
  let p ← t.follow (t.origin path) path.steps
  match t.get? p with
  | some .directory => throw .isADirectory
  | some (.file content) => if path.trailing then throw .notADirectory else return content
  | none => throw .notFound

/-- The place where a file called `name` may be put into the directory at `p`. -/
def fileIn (t : Tree) (p : Place) (name : String) (trailing : Bool) : Except Fault Place :=
  match t.get? p with
  | none => .error .notFound
  | some (.file _) => .error .notADirectory
  | some .directory =>
    if name = "." || name = ".." || trailing then .error .isADirectory
    else if maxNameBytes < name.utf8ByteSize then .error .nameTooLong
    else
      match t.get? (p ++ [name]) with
      | some .directory => .error .isADirectory
      | _ => .ok (p ++ [name])

/-- The place where a file would be written. -/
def writePlace (t : Tree) (text : String) : Except Fault Place := do
  let path ← checkedPath text
  match path.steps.getLast? with
  | none => throw .isADirectory
  | some name =>
    let p ← t.follow (t.origin path) path.steps.dropLast
    t.fileIn p name path.trailing

/-- The tree with a file written at the end of a path. -/
def write (t : Tree) (text : String) (content : ByteArray) : Except Fault Tree := do
  let p ← t.writePlace text
  return t.put p (.file content)

/-- **Writing.** A write succeeds where there is a place for the file. -/
theorem write_eq_ok_iff {t u : Tree} {text : String} {content : ByteArray} :
    t.write text content = .ok u ↔
      ∃ p, t.writePlace text = .ok p ∧ u = t.put p (.file content) := by
  unfold write
  cases h : t.writePlace text with
  | error f => simp [bind, Except.bind]
  | ok p => simp [bind, Except.bind, pure, Except.pure, eq_comm]

/-! ## Arranging a tree -/

/-- A tree with nothing but its current directory. -/
def empty : Tree := ⟨[(["work"], .directory)], ["work"]⟩

/-- Make the directories along some steps from a place, where they are missing. -/
def makeDirectories (t : Tree) : Place → List String → Except Fault (Tree × Place)
  | p, [] => .ok (t, p)
  | p, name :: rest =>
    match t.step p name with
    | .ok q =>
      match t.get? q with
      | some .directory => t.makeDirectories q rest
      | _ => .error .notADirectory
    | .error .notFound =>
      (t.put (p ++ [name]) .directory).makeDirectories (p ++ [name]) rest
    | .error f => .error f

/-- Make a directory and those it lies in. -/
def makeDirectory (t : Tree) (text : String) : Except Fault Tree := do
  let path ← checkedPath text
  let (t, _) ← t.makeDirectories (t.origin path) path.steps
  return t

/-- Put a file at the end of a path, making the directories it lies in. -/
def placeFile (t : Tree) (text : String) (content : ByteArray) : Except Fault Tree := do
  let path ← checkedPath text
  let (t, _) ← t.makeDirectories (t.origin path) path.steps.dropLast
  t.write text content

/-- Remove the file or the directory at the end of a path, with all that lies in it. -/
def remove (t : Tree) (text : String) : Except Fault Tree := do
  let path ← checkedPath text
  let p ← t.follow (t.origin path) path.steps
  if p.isPrefixOf t.here then
    throw (.other "the current directory stays")
  return { t with entries := t.entries.filter fun e => !p.isPrefixOf e.1 }

/-- What lies below the current directory, by relative paths in the order of their
characters. -/
def listing (t : Tree) : List (String × Entry) :=
  let below := t.entries.filterMap fun (p, e) =>
    if t.here.isPrefixOf p && p ≠ t.here then
      some (String.intercalate "/" (p.drop t.here.length), e)
    else none
  below.mergeSort fun a b => decide (a.1 ≤ b.1)

end Tree

/-! ## Access -/

/-- A way to read and write files by their paths. -/
structure Access (m : Type → Type) where
  read : String → m (Except Fault ByteArray)
  write : String → ByteArray → m (Except Fault Unit)

/-- Access to a tree. A write that fails leaves it as it is. -/
def Tree.access : Access (StateM Tree) where
  read path := fun t => (t.read path, t)
  write path content := fun t =>
    match t.write path content with
    | .ok u => (.ok (), u)
    | .error f => (.error f, t)

end MemMap.Files
