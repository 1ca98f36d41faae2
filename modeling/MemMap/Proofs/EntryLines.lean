import MemMap.Proofs.PathWords
import MemMap.Yaml.Construct

/-!
# MemMap.Proofs.EntryLines

Texts of one entry to a line, every key a word that begins with a letter and every value a
text of path characters, as it is written.

An entry takes the scanner three steps, for its key, its colon and its value. What the steps
leave behind for the next entry is the start of a line inside the mapping
(`Scan.run_entry`); only the first entry starts outside it, and its colon opens the mapping.
A value in quotes leaves the end of its line behind as well, so two states count as the same
start if they have the same next token.

* `tokenize_entryLines` — the tokens of such a text;
* `rootOfText_entryLines` — its root, a mapping of scalars;
* `ofText_entryLines` — its value, a mapping of strings.
-/

namespace MemMap.Yaml

/-! ## Lines -/

/-- A word that can be the key of an entry: it begins with a letter and is not too long. -/
structure IsEntryKey (key : String) : Prop where
  path : IsPathText key.toList
  letter : ∃ c r, key.toList = c :: r ∧ c.isAlpha = true
  short : key.toList.length ≤ maxKeyLength

/-- A key and a text of path characters for it. -/
structure IsEntry (e : String × String) : Prop where
  key : IsEntryKey e.1
  value : IsPathText e.2.toList

/-- An entry on a line of its own. -/
def entryLine (e : String × String) : List Char :=
  e.1.toList ++ ':' :: (writtenScalar e.2).toList

/-- Entries on lines of their own. -/
def entryLines (fields : List (String × String)) : List Char :=
  fields.flatMap entryLine

/-- The tokens of an entry. -/
def entryTokens (e : String × String) : List Token :=
  [.key, .scalar e.1 true, .value, .scalar e.2 (styleOf e.2 = .plain)]

namespace Scan

/-! ## Steps of the scanner -/

/-- A state of the scanner outside brackets, either before a mapping at the left margin or
inside it. -/
def inLine (cursor : Cursor) (tokens : List Token) (inside keyAllowed : Bool)
    (pending : Option PendingKey) : Scan where
  cursor := cursor
  tokens := tokens
  count := tokens.length
  indent := if inside then 0 else -1
  outerIndents := if inside then [-1] else []
  keyAllowed := keyAllowed
  pending := pending
  outerPending := []

theorem start_eq_inLine (cs : List Char) :
    start cs = inLine ⟨cs, .start⟩ [] false true none := by
  rfl

variable {cursor after : Cursor} {tokens : List Token} {inside keyAllowed allowed : Bool}
  {pending : Option PendingKey} {s t u : Scan} {c : Char} {r : List Char} {m : Mark}

/-- No block is closed on the way to the next token, because the mapping begins at the left
margin. -/
theorem toNextToken_inLine
    (hpass : passSpace false cursor.rest cursor.mark keyAllowed false = (after, allowed))
    (hfresh : freshKey after.mark pending = .ok pending) :
    (inLine cursor tokens inside keyAllowed pending).toNextToken =
      .ok (inLine after tokens inside allowed pending) := by
  have hclose : closeBlocks after.column (if inside then 0 else -1) (if inside then [-1] else []) =
      (0, if inside then 0 else -1, if inside then [-1] else []) := by
    cases inside <;> simp [closeBlocks]
  simp [toNextToken, inLine, inFlow, hpass, dropStaleKeys, hfresh, dedent, hclose, bind,
    Except.bind, pure, Except.pure]

theorem run_step (ht : s.toNextToken = .ok t) (hrest : t.cursor.rest = c :: r)
    (hu : t.fetch c r = .ok u) (fuel : Nat) : run (fuel + 1) s = run fuel u := by
  simp [run, ht, hrest, hu, bind, Except.bind]

/-- One token, from the space before it. -/
theorem run_inLine
    (hpass : passSpace false cursor.rest cursor.mark keyAllowed false = (⟨c :: r, m⟩, allowed))
    (hfresh : freshKey m pending = .ok pending)
    (hu : (inLine ⟨c :: r, m⟩ tokens inside allowed pending).fetch c r = .ok u) (fuel : Nat) :
    run (fuel + 1) (inLine cursor tokens inside keyAllowed pending) = run fuel u :=
  run_step (toNextToken_inLine hpass hfresh) rfl hu fuel

/-- A path character begins a plain scalar, unless it is a dash on its own or begins the mark
of a document. -/
theorem fetch_of_isPathChar (hc : isPathChar c = true)
    (hdash : c = '-' → ∃ d r', r = d :: r' ∧ isSpace d = false)
    (hmark : s.cursor.column = 0 → atDocumentMark (c :: r) = false) :
    s.fetch c r = s.fetchPlain := by
  have hentry : (decide (c = '-') && atWordEnd r) = false := by
    rw [Bool.and_eq_false_imp, decide_eq_true_iff]
    intro hc
    obtain ⟨d, r', rfl, hd⟩ := hdash hc
    exact hd
  have hlead : (decide (s.cursor.column = 0) && atDocumentMark (c :: r)) = false := by
    rw [Bool.and_eq_false_imp, decide_eq_true_iff]
    exact hmark
  have hstart : startsPlain s.inFlow c r = true := by
    unfold startsPlain
    split
    next hc =>
      obtain ⟨d, r', rfl, hd⟩ := hdash hc
      simp only [isSpace, Bool.or_eq_false_iff] at hd
      simp [hd]
    next =>
      simp (disch := decide) [ne_of_isPathChar hc, isSpace_of_isPathChar hc, isIndicator]
  simp (disch := decide) [fetch, ne_of_isPathChar hc, hentry, hlead, hstart]

theorem fetchPlain_inLine {p : Plain} {k : Option PendingKey}
    (hsave : (inLine cursor tokens inside keyAllowed pending).saveKey =
      .ok (inLine cursor tokens inside keyAllowed k))
    (hplain : plain ⟨false, (if inside then 0 else -1) + 1⟩ cursor = .ok p) :
    (inLine cursor tokens inside keyAllowed pending).fetchPlain =
      .ok (inLine p.after (.scalar p.text true :: tokens) inside p.brokeLine k) := by
  rw [fetchPlain, hsave]
  simp [inLine, inFlow, hplain, bind, Except.bind, emit, pure, Except.pure]

theorem saveKey_lineStart (hcolumn : cursor.mark.column = 0) :
    (inLine cursor tokens inside true none).saveKey =
      .ok (inLine cursor tokens inside true (some ⟨inside, tokens.length, cursor.mark⟩)) := by
  cases inside <;>
    simp [saveKey, inLine, dropKey, bind, Except.bind, pure, Except.pure, inFlow, Cursor.column,
      hcolumn]

theorem saveKey_of_not_keyAllowed :
    (inLine cursor tokens inside false pending).saveKey =
      .ok (inLine cursor tokens inside false pending) := rfl

/-- The tokens before an entry, with the opening of the mapping if it is the first. -/
def opened (inside : Bool) (tokens : List Token) : List Token :=
  if inside then tokens else .blockMappingStart :: tokens

/-- The colon behind a key: the token of the key, and for the first one the opening of the
mapping, are put in before the key. -/
theorem fetchValue_inLine {k : PendingKey} {scalar : Token}
    (hnumber : k.tokenNumber = tokens.length) (hcolumn : k.mark.column = 0) :
    (inLine cursor (scalar :: tokens) inside false (some k)).fetchValue =
      .ok (inLine (cursor.skip 1) (.value :: scalar :: .key :: opened inside tokens) true false
        none) := by
  have hlate : tokens.length + 1 + 1 - tokens.length = 2 := by omega
  cases inside <;>
    simp [fetchValue, inLine, insertAt, openBlock, inFlow, hnumber, hcolumn, opened, take, emit,
      hlate]

/-! ## Reading an entry -/

variable {key value : String} {rest : List Char}

theorem atDocumentMark_of_isAlpha (hc : c.isAlpha = true) : atDocumentMark (c :: r) = false := by
  unfold atDocumentMark
  split
  next h =>
    obtain ⟨rfl, -⟩ := List.cons.inj h
    cases hc
  next h =>
    obtain ⟨rfl, -⟩ := List.cons.inj h
    cases hc
  next => rfl

/-- The key of an entry, up to its colon. -/
theorem run_key (hkey : IsEntryKey key) (hcolumn : m.column = 0)
    (hs : s.toNextToken =
      .ok (inLine ⟨key.toList ++ ':' :: ' ' :: rest, m⟩ tokens inside true none)) (fuel : Nat) :
    run (fuel + 1) s = run fuel (inLine ⟨':' :: ' ' :: rest, m.along key.toList.length⟩
      (.scalar key true :: tokens) inside false (some ⟨inside, tokens.length, m⟩)) := by
  obtain ⟨c, r, hletters, hletter⟩ := hkey.letter
  have hdash : c ≠ '-' := by
    rintro rfl
    cases hletter
  have hfirst : key.toList ++ ':' :: ' ' :: rest = c :: (r ++ ':' :: ' ' :: rest) := by
    rw [hletters, List.cons_append]
  refine run_step hs hfirst ?_ fuel
  rw [fetch_of_isPathChar (hkey.path c (by simp [hletters])) (fun h => absurd h hdash)
      (fun _ => atDocumentMark_of_isAlpha hletter),
    fetchPlain_inLine (saveKey_lineStart hcolumn) (plain_key hkey.path rfl), String.ofList_toList]

/-- The colon of an entry. The key before it is short enough to be one. -/
theorem run_colon (hcolumn : m.column = 0) {n : Nat} (hn : n ≤ maxKeyLength) (scalar : Token)
    (fuel : Nat) :
    run (fuel + 1) (inLine ⟨':' :: ' ' :: rest, m.along n⟩ (scalar :: tokens) inside false
      (some ⟨inside, tokens.length, m⟩)) =
    run fuel (inLine ⟨' ' :: rest, m.along (n + 1)⟩
      (.value :: scalar :: .key :: opened inside tokens) true false none) := by
  have hpass : passSpace false (':' :: ' ' :: rest) (m.along n) false false =
      (⟨':' :: ' ' :: rest, m.along n⟩, false) := rfl
  have hfresh : freshKey (m.along n) (some ⟨inside, tokens.length, m⟩) =
      .ok (some ⟨inside, tokens.length, m⟩) := by
    simp [freshKey, Nat.not_lt.mpr hn]
  have hfetch (s : Scan) : s.fetch ':' (' ' :: rest) = s.fetchValue := by
    simp [fetch, atDocumentMark, atWordEnd, isSpace, isBlank]
  refine run_inLine hpass hfresh ?_ fuel
  rw [hfetch, fetchValue_inLine rfl hcolumn]
  rfl

theorem passSpace_of_isPathChar (hc : isPathChar c = true) :
    passSpace false (c :: r) m keyAllowed false = (⟨c :: r, m⟩, keyAllowed) := by
  rw [passSpace]
  · simp (disch := decide) [isBreak_of_isPathChar hc, ne_of_isPathChar hc]
  · intro r' hreturn
    exact absurd hreturn (ne_of_isPathChar hc (by decide))

/-- What is left of a text begins with a word, if anything is left. -/
def AtWord (rest : List Char) : Prop := ∀ c ∈ rest.head?, isPathChar c = true

theorem passSpace_of_atWord (h : AtWord rest) :
    passSpace false rest m keyAllowed false = (⟨rest, m⟩, keyAllowed) := by
  cases rest with
  | nil => rfl
  | cons c r => exact passSpace_of_isPathChar (h c rfl)

/-- A value without quotes, up to the next line. -/
theorem run_plain (hvalue : IsPathText value.toList) (hstyle : styleOf value = .plain)
    (hrest : AtWord rest) (fuel : Nat) :
    run (fuel + 1) (inLine ⟨' ' :: (value.toList ++ '\n' :: rest), m⟩ tokens true false none) =
      run fuel (inLine ⟨rest, m.nextLine⟩ (.scalar value true :: tokens) true true none) := by
  obtain ⟨hread, hindicator⟩ := of_styleOf_plain hstyle
  obtain ⟨c, r, hletters⟩ : ∃ c r, value.toList = c :: r := by
    refine List.exists_cons_of_ne_nil fun hnil => ?_
    obtain rfl := String.toList_eq_nil_iff.mp hnil
    cases hread
  have hc : isPathChar c = true := hvalue c (by simp [hletters])
  have hfirst : value.toList ++ '\n' :: rest = c :: (r ++ '\n' :: rest) := by
    rw [hletters, List.cons_append]
  have hpass : passSpace false (' ' :: (value.toList ++ '\n' :: rest)) m false false =
      (⟨c :: (r ++ '\n' :: rest), m.along 1⟩, false) := by
    rw [hfirst, ← passSpace_of_isPathChar hc]
    rfl
  -- A dash that begins the value touches what follows it.
  have hdash : c = '-' → ∃ d r', r ++ '\n' :: rest = d :: r' ∧ isSpace d = false := by
    rintro rfl
    rw [hletters] at hindicator
    cases r with
    | nil => simp [hasIndicator, isLeadingIndicator, atWordEnd] at hindicator
    | cons d r => exact ⟨d, _, rfl, isSpace_of_isPathChar (hvalue d (by simp [hletters]))⟩
  have hlines : ∀ d r', rest = d :: r' → isSpace d = false := by
    rintro d r' rfl
    exact isSpace_of_isPathChar (hrest d rfl)
  refine run_inLine hpass rfl ?_ fuel
  rw [fetch_of_isPathChar hc hdash (by simp [inLine, Cursor.column]), ← hfirst,
    fetchPlain_inLine saveKey_of_not_keyAllowed (plain_value hvalue rfl (by decide) hlines),
    String.ofList_toList]
  rfl

/-- A value between quotes, up to the closing one. -/
theorem run_quoted (hvalue : IsPathText value.toList) (fuel : Nat) :
    run (fuel + 1) (inLine ⟨' ' :: '\'' :: (value.toList ++ '\'' :: '\n' :: rest), m⟩ tokens true
      false none) =
    run fuel (inLine ⟨'\n' :: rest, m.along (value.toList.length + 3)⟩
      (.scalar value false :: tokens) true false none) := by
  have hpass : passSpace false (' ' :: '\'' :: (value.toList ++ '\'' :: '\n' :: rest)) m false
      false = (⟨'\'' :: (value.toList ++ '\'' :: '\n' :: rest), m.along 1⟩, false) := rfl
  have hfetch (s : Scan) (r : List Char) :
      s.fetch '\'' r = s.fetchContent (readQuoted singleQuoted) := by
    simp [fetch, atDocumentMark]
  have hread : singleQuoted ⟨'\'' :: (value.toList ++ '\'' :: '\n' :: rest), m.along 1⟩ =
      .ok (value, ⟨'\n' :: rest, m.along (value.toList.length + 3)⟩) := by
    rw [singleQuoted_word hvalue (by simp), String.ofList_toList, Mark.along_along, Nat.add_comm 1]
  refine run_inLine hpass rfl ?_ fuel
  rw [hfetch, fetchContent, saveKey_of_not_keyAllowed]
  simp [inLine, readQuoted, hread, bind, Except.bind, pure, Except.pure, emit]

/-- A value, from the blank before it to the start of the next line. Behind a quote the end of
the line is passed over on the way to the next token, where it lets a key begin. -/
theorem run_value (hvalue : IsPathText value.toList) (hrest : AtWord rest) (m : Mark)
    (tokens : List Token) :
    ∃ u, u.toNextToken = .ok (inLine ⟨rest, m.nextLine⟩
        (.scalar value (styleOf value = .plain) :: tokens) true true none) ∧
      ∀ fuel, run (fuel + 1) (inLine ⟨(writtenScalar value).toList ++ rest, m⟩ tokens true false
        none) = run fuel u := by
  rw [toList_writtenScalar hvalue]
  by_cases hstyle : styleOf value = .plain
  · refine ⟨inLine ⟨rest, m.nextLine⟩ (.scalar value true :: tokens) true true none, ?_, ?_⟩
    · simpa [hstyle] using toNextToken_inLine (passSpace_of_atWord hrest) rfl
    · simpa [hstyle, between] using run_plain hvalue hstyle hrest
  · refine ⟨inLine ⟨'\n' :: rest, m.along (value.toList.length + 3)⟩
      (.scalar value false :: tokens) true false none, ?_, ?_⟩
    · have hpass : passSpace false ('\n' :: rest) (m.along (value.toList.length + 3)) false false =
          (⟨rest, m.nextLine⟩, true) := passSpace_of_atWord hrest
      simpa [hstyle] using toNextToken_inLine hpass rfl
    · simpa [hstyle, between] using run_quoted hvalue

/-- An entry, from the start of its line to the start of the next. -/
theorem run_entry {e : String × String} (he : IsEntry e) (hrest : AtWord rest)
    (hcolumn : m.column = 0)
    (hs : s.toNextToken = .ok (inLine ⟨entryLine e ++ rest, m⟩ tokens inside true none)) :
    ∃ u, u.toNextToken = .ok (inLine ⟨rest, m.nextLine⟩
        ((entryTokens e).reverse ++ opened inside tokens) true true none) ∧
      ∀ fuel, run (fuel + 3) s = run fuel u := by
  obtain ⟨body, hbody⟩ : ∃ body, (writtenScalar e.2).toList = ' ' :: body :=
    ⟨_, toList_writtenScalar he.value⟩
  have hline : entryLine e ++ rest = e.1.toList ++ ':' :: ' ' :: (body ++ rest) := by
    simp [entryLine, hbody]
  rw [hline] at hs
  obtain ⟨u, hu, hrun⟩ := run_value he.value hrest (m.along (e.1.toList.length + 1))
    (.value :: .scalar e.1 true :: .key :: opened inside tokens)
  rw [hbody] at hrun
  refine ⟨u, hu, fun fuel => ?_⟩
  rw [run_key he.key hcolumn hs, run_colon hcolumn he.key.short]
  exact hrun fuel

/-- The end of the text closes the mapping. -/
theorem run_end (hs : s.toNextToken = .ok (inLine ⟨[], m⟩ tokens true true none)) (fuel : Nat) :
    run (fuel + 1) s = .ok (tokens.reverse ++ [.blockEnd]) := by
  simp only [run, hs, bind, Except.bind]
  simp [inLine, finish, dedent, inFlow, closeBlocks, dropKey, result, bind, Except.bind, pure,
    Except.pure]

theorem atWord_entryLines {fields : List (String × String)} (hfields : ∀ e ∈ fields, IsEntry e) :
    AtWord (entryLines fields) := by
  cases fields with
  | nil => simp [AtWord, entryLines]
  | cons e rest =>
      have hkey := (hfields e List.mem_cons_self).key
      obtain ⟨c, r, hletters, -⟩ := hkey.letter
      have hc := hkey.path c (by simp [hletters])
      simpa [AtWord, entryLines, entryLine, hletters] using hc

/-- Entries, from the start of the line of the first to the end of the text. -/
theorem run_entries {fields : List (String × String)} (hfields : ∀ e ∈ fields, IsEntry e)
    (hcolumn : m.column = 0)
    (hs : s.toNextToken = .ok (inLine ⟨entryLines fields, m⟩ tokens true true none)) (fuel : Nat) :
    run (fuel + 3 * fields.length + 1) s =
      .ok (tokens.reverse ++ fields.flatMap entryTokens ++ [.blockEnd]) := by
  induction fields generalizing s m tokens with
  | nil => simpa using run_end hs fuel
  | cons e rest ih =>
      obtain ⟨he, hrest⟩ := List.forall_mem_cons.mp hfields
      obtain ⟨u, hu, hrun⟩ := run_entry he (atWord_entryLines hrest) hcolumn hs
      have hfuel : fuel + 3 * (e :: rest).length + 1 = (fuel + 3 * rest.length + 1) + 3 := by
        simp only [List.length_cons]
        omega
      rw [hfuel, hrun, ih hrest rfl hu]
      simp [opened]

end Scan

theorem isReadable_of_mem_entryLine {e : String × String} (he : IsEntry e) :
    ∀ c ∈ entryLine e, isReadable c = true := by
  have hkey : ∀ c ∈ e.1.toList, isReadable c = true :=
    fun c hc => isReadable_of_isPathChar (he.key.path c hc)
  have hvalue : ∀ c ∈ e.2.toList, isReadable c = true :=
    fun c hc => isReadable_of_isPathChar (he.value c hc)
  have hmarks : isReadable ':' = true ∧ isReadable ' ' = true ∧ isReadable '\'' = true ∧
      isReadable '\n' = true := by decide
  rw [entryLine, toList_writtenScalar he.value, between]
  split <;> simpa [or_imp, forall_and, hmarks] using ⟨hkey, hvalue⟩

theorem three_le_length_entryLine {e : String × String} (he : IsEntry e) :
    3 ≤ (entryLine e).length := by
  simp only [entryLine, toList_writtenScalar he.value, List.length_append, List.length_cons,
    List.length_nil]
  omega

theorem length_entryLines {fields : List (String × String)} (hfields : ∀ e ∈ fields, IsEntry e) :
    3 * fields.length ≤ (entryLines fields).length := by
  induction fields with
  | nil => simp
  | cons e rest ih =>
      obtain ⟨he, hrest⟩ := List.forall_mem_cons.mp hfields
      have hline := three_le_length_entryLine he
      have hlines := ih hrest
      simp only [entryLines, List.flatMap_cons, List.length_append, List.length_cons] at *
      omega

/-- **Entries as tokens.** The lines of some entries, at least one, are the tokens of a block
mapping. -/
theorem tokenize_entryLines {e : String × String} {rest : List (String × String)}
    (hfields : ∀ f ∈ e :: rest, IsEntry f) :
    tokenize (entryLines (e :: rest)) =
      .ok (.blockMappingStart :: ((e :: rest).flatMap entryTokens ++ [.blockEnd])) := by
  have hreadable : (entryLines (e :: rest)).all isReadable = true := by
    rw [List.all_eq_true]
    intro c hc
    obtain ⟨f, hf, hcf⟩ := List.mem_flatMap.mp hc
    exact isReadable_of_mem_entryLine (hfields f hf) c hcf
  obtain ⟨he, hrest⟩ := List.forall_mem_cons.mp hfields
  have hstart : (Scan.start (entryLines (e :: rest))).toNextToken =
      .ok (Scan.inLine ⟨entryLines (e :: rest), .start⟩ [] false true none) := by
    have hpass : Scan.passSpace false (entryLines (e :: rest)) .start true false =
        (⟨entryLines (e :: rest), .start⟩, true) :=
      Scan.passSpace_of_atWord (Scan.atWord_entryLines hfields)
    rw [Scan.start_eq_inLine, Scan.toNextToken_inLine hpass rfl]
  obtain ⟨u, hu, hrun⟩ := Scan.run_entry he (Scan.atWord_entryLines hrest) rfl hstart
  obtain ⟨spare, hspare⟩ := Nat.exists_eq_add_of_le' (length_entryLines hfields)
  have hfuel : spare + 3 * (e :: rest).length + 1 = (spare + 3 * rest.length + 1) + 3 := by
    simp only [List.length_cons]
    omega
  rw [tokenize, if_pos hreadable, hspare, hfuel, hrun, Scan.run_entries hrest rfl hu]
  simp [Scan.opened]

/-! ## Entries as nodes -/

/-- An entry as two scalars. -/
def entryNode (e : String × String) : Node × Node :=
  (.scalar none none e.1 true, .scalar none none e.2 (styleOf e.2 = .plain))

section

variable (handles : TagHandles) (anchors : List (String × Nat))

theorem blockEntries_cons (fuel : Nat) (e : String × String) (tokens : List Token) :
    (Read.blockEntries handles (fuel + 4)).run ⟨entryTokens e ++ tokens, anchors⟩ = do
      let (entries, left) ← (Read.blockEntries handles (fuel + 3)).run ⟨tokens, anchors⟩
      return (entryNode e :: entries, left) := by
  rfl

theorem blockEntries_entryTokens (fuel : Nat) (fields : List (String × String)) :
    (Read.blockEntries handles (fuel + fields.length + 3)).run
        ⟨fields.flatMap entryTokens ++ [.blockEnd], anchors⟩ =
      .ok (fields.map entryNode, ⟨[], anchors⟩) := by
  induction fields with
  | nil => rfl
  | cons e rest ih =>
      rw [List.flatMap_cons, List.append_assoc, List.length_cons, ← Nat.add_assoc,
        blockEntries_cons, ih]
      rfl

theorem node_blockMapping (fuel : Nat) (tokens : List Token) :
    (Read.node handles (fuel + 1) .block).run ⟨.blockMappingStart :: tokens, anchors⟩ = do
      let (entries, left) ← (Read.blockEntries handles fuel).run ⟨tokens, anchors⟩
      return (.mapping none none entries, left) := by
  rfl

end

theorem rootOfTokens_entryTokens (fields : List (String × String)) :
    rootOfTokens (.blockMappingStart :: (fields.flatMap entryTokens ++ [.blockEnd])) =
      .ok (some (.mapping none none (fields.map entryNode))) := by
  have hlength : (fields.flatMap entryTokens).length = 4 * fields.length := by
    induction fields with
    | nil => rfl
    | cons e rest ih => simp [entryTokens, ih]; omega
  have hfuel : readingFuel (.blockMappingStart :: (fields.flatMap entryTokens ++ [.blockEnd])) =
      (15 * fields.length + 8 + fields.length + 3) + 1 := by
    simp [readingFuel, hlength]
    omega
  simp only [rootOfTokens, onlyNode, hfuel, node_blockMapping, blockEntries_entryTokens]
  rfl

/-- **Entries as nodes.** The root of the lines of some entries, at least one, is the mapping of
their scalars. -/
theorem rootOfText_entryLines {text : String} {e : String × String} {rest : List (String × String)}
    (hfields : ∀ f ∈ e :: rest, IsEntry f) (htext : text.toList = entryLines (e :: rest)) :
    rootOfText text = .ok (some (.mapping none none ((e :: rest).map entryNode))) := by
  rw [rootOfText, htext, tokenize_entryLines hfields]
  exact rootOfTokens_entryTokens (e :: rest)

/-! ## Entries as values -/

/-- An entry as two strings. -/
def entryValue (e : String × String) : Value × Value :=
  (.string e.1, .string e.2)

/-- A text in the style in which it is written is read as itself. -/
theorem styledValue_styleOf (s : String) :
    styledValue s (styleOf s = .plain) = .ok (.string s) := by
  by_cases h : styleOf s = .plain
  · simpa [styledValue, h] using (of_styleOf_plain h).1
  · simp [styledValue, h]

theorem ofNode_scalar {anchored : List (Nat × Node)} {depth left : Nat} {s : String} {plain : Bool}
    {v : Value} (h : styledValue s plain = .ok v) :
    (Construct.ofNode anchored depth (.scalar none none s plain)).run left = .ok (v, left) := by
  have hcontent (deeper : Option (Node → Construct Value)) :
      (Construct.ofContent deeper (.scalar none none s plain)).run left = .ok (v, left) := by
    simp only [Construct.ofContent, scalarValue, h]
    rfl
  cases depth with
  | zero => exact hcontent none
  | succ depth => exact hcontent (some (Construct.ofNode anchored depth))

theorem ofEntries_cons {deeper : Node → Construct Value} {k v : Node} {key value : Value}
    {rest : List (Node × Node)} {met : List (Value × Value)} {left : Nat}
    (hkey : (deeper k).run left = .ok (key, left)) (hnew : Construct.hasKey met key = false)
    (hvalue : (deeper v).run left = .ok (value, left)) :
    (Construct.ofEntries deeper ((k, v) :: rest) met).run left =
      (Construct.ofEntries deeper rest ((key, value) :: met)).run left := by
  rw [Construct.ofEntries, StateT.run_bind, hkey]
  change StateT.run (if _ then _ else _) left = _
  rw [hnew, if_neg Bool.false_ne_true, StateT.run_bind, hvalue]
  rfl

/-- Keys are new if they differ from one another and from those met. -/
theorem ofEntries_entryNode {anchored : List (Nat × Node)} {depth left : Nat}
    {fields : List (String × String)} {met : List (Value × Value)}
    (hkeys : ∀ e ∈ fields, plainValue e.1 = .ok (.string e.1))
    (hdistinct : (fields.map Prod.fst).Nodup)
    (hmet : ∀ e ∈ fields, Construct.hasKey met (.string e.1) = false) :
    (Construct.ofEntries (Construct.ofNode anchored depth) (fields.map entryNode) met).run left =
      .ok (met.reverse ++ fields.map entryValue, left) := by
  induction fields generalizing met with
  | nil =>
      rw [List.map_nil, List.map_nil, List.append_nil]
      rfl
  | cons e rest ih =>
      obtain ⟨hkey, hkeys⟩ := List.forall_mem_cons.mp hkeys
      obtain ⟨hnew, hmet⟩ := List.forall_mem_cons.mp hmet
      obtain ⟨hother, hdistinct⟩ := List.nodup_cons.mp hdistinct
      have hmet' : ∀ f ∈ rest, Construct.hasKey (entryValue e :: met) (.string f.1) = false := by
        intro f hf
        have hne : f.1 ≠ e.1 := fun h => hother (h ▸ List.mem_map_of_mem hf)
        have hold : Construct.hasKey met (.string f.1) = false := hmet f hf
        rw [Construct.hasKey, List.any_cons, ← Construct.hasKey, hold]
        simp [entryValue, Value.same, hne]
      have hreadKey : (Construct.ofNode anchored depth (.scalar none none e.1 true)).run left =
          .ok (.string e.1, left) := ofNode_scalar hkey
      rw [List.map_cons, entryNode,
        ofEntries_cons hreadKey hnew (ofNode_scalar (styledValue_styleOf e.2)), ← entryValue,
        ih hkeys hdistinct hmet']
      simp

theorem ofRoot_entryNode {fields : List (String × String)}
    (hkeys : ∀ e ∈ fields, plainValue e.1 = .ok (.string e.1))
    (hdistinct : (fields.map Prod.fst).Nodup) :
    Value.ofRoot (.mapping none none (fields.map entryNode)) =
      .ok (.mapping (fields.map entryValue)) := by
  let root := Node.mapping none none (fields.map entryNode)
  have hmapping : (Construct.ofNode root.anchored.reverse maxDepth root).run
      (referencesPerMark * root.weight) =
      .ok (.mapping (fields.map entryValue), referencesPerMark * root.weight) := by
    change (do
      let (entries, left) ← (Construct.ofEntries (Construct.ofNode root.anchored.reverse 127)
        (fields.map entryNode) []).run (referencesPerMark * root.weight)
      return (Value.mapping entries, left) : Except Fault (Value × Nat)) = _
    rw [ofEntries_entryNode hkeys hdistinct fun _ _ => rfl]
    rfl
  rw [Value.ofRoot, StateT.run'_eq, hmapping]
  rfl

/-- **Entries as values.** The lines of some entries, at least one, stand for the mapping of
their keys to their values, all of them strings. -/
theorem ofText_entryLines {text : String} {e : String × String} {rest : List (String × String)}
    (hfields : ∀ f ∈ e :: rest, IsEntry f) (htext : text.toList = entryLines (e :: rest))
    (hkeys : ∀ f ∈ e :: rest, plainValue f.1 = .ok (.string f.1))
    (hdistinct : ((e :: rest).map Prod.fst).Nodup) :
    Value.ofText text = .ok (.mapping ((e :: rest).map entryValue)) := by
  rw [Value.ofText, rootOfText_entryLines hfields htext]
  exact ofRoot_entryNode hkeys hdistinct

end MemMap.Yaml
