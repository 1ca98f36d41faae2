import MemMap.Yaml.Plain
import MemMap.Yaml.Quoted
import MemMap.Yaml.Written

/-!
# MemMap.Proofs.PathWords

Words over the characters of file paths, as scalars.

None of these characters ends a line, separates words or begins a comment, and none ends a
scalar; some may still not begin one, and some words would be read as another kind of value.
-/

namespace MemMap.Yaml

/-! ## Characters -/

/-- An ASCII letter or digit, or one of the marks that are common in file names and paths. -/
def isPathChar (c : Char) : Bool :=
  c.isAlphanum || c = '_' || c = '-' || c = '.' || c = '/'

/-- A text of such characters only. -/
def IsPathText (cs : List Char) : Prop := ∀ c ∈ cs, isPathChar c = true

instance (cs : List Char) : Decidable (IsPathText cs) :=
  decidable_of_iff (cs.all isPathChar = true) List.all_eq_true

section

variable {c d : Char}

theorem ne_of_isPathChar (hc : isPathChar c = true) (hd : isPathChar d = false) : c ≠ d := by
  rintro rfl
  simp [hc] at hd

theorem toNat_of_isPathChar (hc : isPathChar c = true) : 0x2d ≤ c.toNat ∧ c.toNat ≤ 0x7a := by
  delta isPathChar Char.isAlphanum Char.isAlpha Char.isUpper Char.isLower Char.isDigit at hc
  simp only [Bool.or_eq_true, Bool.and_eq_true, decide_eq_true_eq, UInt32.le_iff_toNat_le,
    ge_iff_le] at hc
  change ((((((65 ≤ c.toNat ∧ c.toNat ≤ 90) ∨ 97 ≤ c.toNat ∧ c.toNat ≤ 122) ∨
    48 ≤ c.toNat ∧ c.toNat ≤ 57) ∨ c = '_') ∨ c = '-') ∨ c = '.') ∨ c = '/' at hc
  obtain (((((h | h) | h) | rfl) | rfl) | rfl) | rfl := hc
  · omega
  · omega
  · omega
  all_goals decide

theorem isBlank_of_isPathChar (hc : isPathChar c = true) : isBlank c = false := by
  simp (disch := decide) [isBlank, ne_of_isPathChar hc]

theorem isBreak_of_isPathChar (hc : isPathChar c = true) : isBreak c = false := by
  simp (disch := decide) [isBreak, ne_of_isPathChar hc]

theorem isSpace_of_isPathChar (hc : isPathChar c = true) : isSpace c = false := by
  simp [isSpace, isBlank_of_isPathChar hc, isBreak_of_isPathChar hc]

theorem isShown_of_isPathChar (hc : isPathChar c = true) : isShown c = true := by
  obtain ⟨hleast, hgreatest⟩ := toNat_of_isPathChar hc
  simp only [isShown, Bool.or_eq_true, Bool.and_eq_true, decide_eq_true_eq]
  omega

theorem isReadable_of_isPathChar (hc : isPathChar c = true) : isReadable c = true := by
  obtain ⟨hleast, hgreatest⟩ := toNat_of_isPathChar hc
  simp only [isReadable, Bool.or_eq_true, Bool.and_eq_true, decide_eq_true_eq]
  omega

theorem utf8Size_of_isPathChar (hc : isPathChar c = true) : c.utf8Size = 1 := by
  have hgreatest := (toNat_of_isPathChar hc).2
  have hval : c.val ≤ 0x7f := UInt32.le_iff_toNat_le.mpr (Nat.le_trans hgreatest (by decide))
  simp [Char.utf8Size, hval]

end

/-! ## Places -/

namespace Mark

/-- The place behind `n` characters of one octet each. -/
def along (m : Mark) (n : Nat) : Mark :=
  { m with column := m.column + n, octets := m.octets + n }

@[simp]
theorem line_along (m : Mark) (n : Nat) : (m.along n).line = m.line := rfl

@[simp]
theorem column_along (m : Mark) (n : Nat) : (m.along n).column = m.column + n := rfl

@[simp]
theorem octets_along (m : Mark) (n : Nat) : (m.along n).octets = m.octets + n := rfl

@[simp]
theorem along_zero (m : Mark) : m.along 0 = m := rfl

theorem along_along (m : Mark) (i j : Nat) : (m.along i).along j = m.along (i + j) := by
  simp [along, Nat.add_assoc]

theorem past_eq_along {c : Char} (hc : c.utf8Size = 1) (m : Mark) : m.past c = m.along 1 := by
  simp [past, along, hc]

end Mark

/-! ## Plain scalars -/

section

variable {ctx : PlainContext} {m : Mark} {w rest : List Char}

theorem plainFrom_cons {c : Char} (hc : isPathChar c = true) (hflow : ctx.flow = false)
    (met : List Char) :
    plainFrom ctx (c :: rest) m .none met = plainFrom ctx rest (m.along 1) .none (c :: met) := by
  have hcolon : c ≠ ':' := ne_of_isPathChar hc (by decide)
  have hnone : Gap.none.isNone = true := rfl
  rw [plainFrom]
  · simp [isBlank_of_isPathChar hc, isBreak_of_isPathChar hc, hflow, hcolon, hnone,
      Mark.past_eq_along (utf8Size_of_isPathChar hc)]
  · intro r hreturn
    exact absurd hreturn (ne_of_isPathChar hc (by decide))

/-- A plain scalar goes on over a word. -/
theorem plainFrom_word (hw : IsPathText w) (hflow : ctx.flow = false) (met : List Char) :
    plainFrom ctx (w ++ rest) m .none met =
      plainFrom ctx rest (m.along w.length) .none (w.reverse ++ met) := by
  induction w generalizing m met with
  | nil => simp
  | cons c w ih =>
      rw [List.cons_append, plainFrom_cons (hw c List.mem_cons_self) hflow,
        ih (fun d hd => hw d (List.mem_cons_of_mem c hd)), Mark.along_along]
      simp [Nat.add_comm]

/-- A word with a colon behind it that ends it, as a plain scalar. -/
theorem plain_key (hw : IsPathText w) (hflow : ctx.flow = false) :
    plain ctx ⟨w ++ ':' :: ' ' :: rest, m⟩ =
      .ok ⟨String.ofList w, ⟨':' :: ' ' :: rest, m.along w.length⟩, false⟩ := by
  rw [plain, plainFrom_word hw hflow, plainFrom]
  · simp [isBreak, isBlank, hflow, Gap.isNone, Gap.none, Gap.isBroken, atWordEnd, isSpace]
  · simp

/-- A plain scalar ends before a line that is indented less. -/
theorem plainFrom_outside (hflow : ctx.flow = false) (hindent : m.column < ctx.indent)
    (hrest : ∀ c r, rest = c :: r → isSpace c = false) (first : Option Char) (met : List Char) :
    plainFrom ctx rest m (.breaks first []) met =
      .ok ⟨String.ofList met.reverse, ⟨rest, m⟩, true⟩ := by
  cases rest with
  | nil => simp [plainFrom, Gap.isBroken]
  | cons c r =>
      have hspace := hrest c r rfl
      simp only [isSpace, Bool.or_eq_false_iff] at hspace
      rw [plainFrom]
      · simp [hspace, hflow, hindent, Gap.isNone, Gap.isBroken]
      · rintro _ rfl
        simp [isBreak] at hspace

/-- A word that ends its line, as a plain scalar. The line after it is indented less. -/
theorem plain_value (hw : IsPathText w) (hflow : ctx.flow = false) (hindent : 0 < ctx.indent)
    (hrest : ∀ c r, rest = c :: r → isSpace c = false) :
    plain ctx ⟨w ++ '\n' :: rest, m⟩ =
      .ok ⟨String.ofList w, ⟨rest, (m.along w.length).nextLine⟩, true⟩ := by
  have hbreak : plainFrom ctx ('\n' :: rest) (m.along w.length) .none (w.reverse ++ []) =
      plainFrom ctx rest (m.along w.length).nextLine (.breaks (some '\n') [])
        (w.reverse ++ []) := by
    rw [plainFrom]
    · rfl
    · simp
  rw [plain, plainFrom_word hw hflow, hbreak, plainFrom_outside hflow hindent hrest]
  simp

end

/-! ## Quoted scalars -/

/-- A quoted scalar goes on over a word, away from the start of a line. -/
theorem singleQuotedFrom_word {m : Mark} {w rest : List Char} (hw : IsPathText w)
    (hcolumn : m.column ≠ 0) (met : List Char) :
    singleQuotedFrom (w ++ rest) m .none met =
      singleQuotedFrom rest (m.along w.length) .none (w.reverse ++ met) := by
  induction w generalizing m met with
  | nil => simp
  | cons c w ih =>
      have hc := hw c List.mem_cons_self
      have hquote : c ≠ '\'' := ne_of_isPathChar hc (by decide)
      have hstep : singleQuotedFrom (c :: (w ++ rest)) m .none met =
          singleQuotedFrom (w ++ rest) (m.along 1) .none (c :: met) := by
        rw [singleQuotedFrom]
        · simp [isBlank_of_isPathChar hc, isBreak_of_isPathChar hc, hquote, hcolumn,
            Mark.past_eq_along (utf8Size_of_isPathChar hc)]
        · intro r hend
          exact absurd hend hquote
        · intro r hreturn
          exact absurd hreturn (ne_of_isPathChar hc (by decide))
      rw [List.cons_append, hstep, ih (fun d hd => hw d (List.mem_cons_of_mem c hd)) (by simp),
        Mark.along_along]
      simp [Nat.add_comm]

/-- A word between quotes. -/
theorem singleQuoted_word {m : Mark} {w rest : List Char} (hw : IsPathText w)
    (hrest : ∀ r, rest ≠ '\'' :: r) :
    singleQuoted ⟨'\'' :: (w ++ '\'' :: rest), m⟩ =
      .ok (String.ofList w, ⟨rest, m.along (w.length + 2)⟩) := by
  have hquote : ('\'').utf8Size = 1 := rfl
  have hopen : singleQuoted ⟨'\'' :: (w ++ '\'' :: rest), m⟩ =
      singleQuotedFrom (w ++ '\'' :: rest) (m.along 1) .none [] := rfl
  have hclose (k : Mark) (met : List Char) : singleQuotedFrom ('\'' :: rest) k .none met =
      .ok (String.ofList met.reverse, ⟨rest, k.along 1⟩) := by
    rw [singleQuotedFrom]
    · simp [Mark.past_eq_along hquote]
    · intro r _ h
      exact hrest r h
    · simp
  rw [hopen, singleQuotedFrom_word hw (by simp), hclose, Mark.along_along, Mark.along_along]
  simp only [List.append_nil, List.reverse_reverse]
  congr 4
  omega

/-! ## Styles -/

/-- A scalar that stands for a string stands for its own text. -/
theorem eq_of_plainValue {s t : String} (h : plainValue s = .ok (.string t)) : t = s := by
  unfold plainValue at h
  split at h
  next => cases h
  next =>
    split at h
    next => cases h
    next =>
      cases hint : int? s with
      | error f =>
          rw [hint] at h
          cases h
      | ok n? =>
          rw [hint] at h
          cases n? with
          | some n => cases h
          | none =>
              dsimp only [bind, Except.bind] at h
              split at h
              next =>
                cases h
                rfl
              next =>
                split at h <;> cases h
                rfl

/-- A text that is written without quotes is read as itself, and does not begin as anything
else. -/
theorem of_styleOf_plain {s : String} (h : styleOf s = .plain) :
    plainValue s = .ok (.string s) ∧ hasIndicator s.toList = false := by
  unfold styleOf at h
  simp only at h
  split at h
  next => split at h <;> cases h
  next =>
    split at h
    next => cases h
    next =>
      split at h
      next => cases h
      next hplain =>
        simp only [Bool.or_eq_true, not_or, Bool.not_eq_true] at hplain
        obtain ⟨⟨⟨hlooks, hindicator⟩, -⟩, -⟩ := hplain
        refine ⟨?_, hindicator⟩
        unfold looksLikeOther at hlooks
        split at hlooks
        next t ht => rw [ht, eq_of_plainValue ht]
        all_goals cases hlooks

theorem hasPair_eq_false {p q : Char → Bool} {cs : List Char} (h : ∀ c ∈ cs, p c = false) :
    hasPair p q cs = false := by
  fun_induction hasPair p q cs with
  | case1 a b r ih =>
      simp [h a List.mem_cons_self, ih fun c hc => h c (List.mem_cons_of_mem a hc)]
  | case2 => rfl

/-- A text of path characters is quoted if it would be taken for something else, and written
without quotes otherwise. -/
theorem styleOf_of_isPathText {s : String} (hs : IsPathText s.toList) :
    styleOf s = if looksLikeOther s || hasIndicator s.toList then .single else .plain := by
  have hbreak : ∀ c ∈ s.toList, isBreak c = false :=
    fun c hc => isBreak_of_isPathChar (hs c hc)
  have hplain : ∀ c ∈ s.toList, isPlainSpace c = false := by
    intro c hc
    simp (disch := decide) [isPlainSpace, ne_of_isPathChar (hs c hc)]
  have hfeed : '\n' ∉ s.toList := by
    intro hmem
    cases hbreak _ hmem
  have hshown : s.toList.any (fun c => !isShown c) = false := by
    simp only [List.any_eq_false, Bool.not_eq_true', Bool.not_eq_false]
    exact fun c hc => isShown_of_isPathChar (hs c hc)
  have hends : hasAtEnd isPlainSpace s.toList = false := by
    simp only [hasAtEnd, Bool.or_eq_false_iff, Option.any_eq_false]
    exact ⟨fun c hc => hplain c (List.mem_of_head? hc),
      fun c hc => hplain c (List.mem_of_getLast? hc)⟩
  have hbreaks : s.toList.any isBreak = false := by
    simpa only [List.any_eq_false, Bool.not_eq_true] using hbreak
  simp [styleOf, needsDouble, hfeed, hshown, hends, hbreaks, hasPair_eq_false hbreak,
    hasPair_eq_false hplain]

/-- A text between quotes, unless it is written plainly. -/
def between (plain : Bool) (cs : List Char) : List Char :=
  if plain then cs else '\'' :: (cs ++ ['\''])

theorem singleText_of_isPathText {cs : List Char} (hcs : IsPathText cs) :
    singleText false cs = cs := by
  induction cs with
  | nil => rfl
  | cons c r ih =>
      have hc := hcs c List.mem_cons_self
      have hquote : c ≠ '\'' := ne_of_isPathChar hc (by decide)
      simp [singleText, margin, isBreak_of_isPathChar hc, hquote,
        ih fun d hd => hcs d (List.mem_cons_of_mem c hd)]

/-- A text of path characters behind its key: on the rest of the line, in quotes or not. -/
theorem toList_writtenScalar {s : String} (hs : IsPathText s.toList) :
    (writtenScalar s).toList = ' ' :: (between (styleOf s = .plain) s.toList ++ ['\n']) := by
  have hstyle := styleOf_of_isPathText hs
  split at hstyle <;>
    simp [writtenScalar, hstyle, between, singleText_of_isPathText hs]

end MemMap.Yaml
