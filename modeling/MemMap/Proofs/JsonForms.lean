import MemMap.Config.Json

/-!
# MemMap.Proofs.JsonForms

The JSON forms of a configuration.

What a value has to be to hold a field is said without a reader: a value spells what a
configuration has in that field (`Spells`), or no configuration has it there and it is at
fault (`Misspells`). An object and an array of four items are then the same thing in two
orders. They differ only in what they report where several values are at fault: an object is
judged in the order of the names of its members, and what is missing is looked for
afterwards, in the order of the fields (`ObjectFault`).

* `ofMembers_eq_ok_iff`, `ofItems_declared_eq_ok_iff` — what either form holds;
* `objectFault_unique` — the two orders single out one fault;
* `json_forms` — what is read of either form, and which fault an object has.
-/

namespace MemMap.Config

/-! ## Values of a field -/

/-- The fields in the order in which they are declared. -/
def Key.declared : List Key := [.outputDir, .rustFileName, .cFileName, .nestedSizing]

/-- What a field holds, as a text. -/
def fieldText (c : Config) : Key → String
  | .outputDir => c.outputDir
  | .rustFileName => c.rustFileName
  | .cFileName => c.cFileName
  | .nestedSizing => c.nestedSizing.name

/-- A value that spells what `c` has in a field: its text, or for a policy an object with a
null under that text. -/
inductive Spells (c : Config) : Key → Json → Prop
  | text (key : Key) : Spells c key (.string (c.fieldText key))
  | member : Spells c .nestedSizing (.object [(c.fieldText .nestedSizing, .null)])

/-- What a field asks for. -/
def Key.wanted : Key → Wanted
  | outputDir => .path
  | rustFileName => .fileName
  | cFileName => .fileName
  | nestedSizing => .policy

/-- A value that no configuration has in a field, with its fault. In an object for a policy
the name is judged before what lies under it. -/
inductive Misspells : Key → Json → JsonFault → Prop
  | text {key : Key} {v : Json} (hkey : key ≠ .nestedSizing) (hstring : ∀ s, v ≠ .string s) :
      Misspells key v (.wrongKind v key.wanted)
  | policy {v : Json} (hstring : ∀ s, v ≠ .string s) (hobject : ∀ ms, v ≠ .object ms) :
      Misspells .nestedSizing v (.wrongKind v .policy)
  | name {name : String} (h : ∀ p : NestedSizing, name ≠ p.name) :
      Misspells .nestedSizing (.string name) (.unknownPolicy name)
  | memberName {name : String} {v : Json} (h : ∀ p : NestedSizing, name ≠ p.name) :
      Misspells .nestedSizing (.object [(name, v)]) (.unknownPolicy name)
  | memberValue {p : NestedSizing} {v : Json} (h : v ≠ .null) :
      Misspells .nestedSizing (.object [(p.name, v)]) (.wrongKind v .nothing)
  | members {ms : List (String × Json)} (h : ms.length ≠ 1) :
      Misspells .nestedSizing (.object ms) .notOneMember

/-! ## Reading a field -/

theorem bind_eq_ok_iff {ε α β : Type} {x : Except ε α} {next : α → Except ε β} {b : β} :
    x >>= next = .ok b ↔ ∃ a, x = .ok a ∧ next a = .ok b := by
  cases x <;> simp [bind, Except.bind]

theorem bind_eq_error_iff {ε α β : Type} {x : Except ε α} {next : α → Except ε β} {e : ε} :
    x >>= next = .error e ↔ x = .error e ∨ ∃ a, x = .ok a ∧ next a = .error e := by
  cases x <;> simp [bind, Except.bind]

theorem stringOfJson_eq_ok_iff {wanted : Wanted} {v : Json} {s : String} :
    stringOfJson wanted v = .ok s ↔ v = .string s := by
  cases v <;> simp [stringOfJson]

theorem stringOfJson_eq_error_iff {wanted : Wanted} {v : Json} {f : JsonFault} :
    stringOfJson wanted v = .error f ↔ (∀ s, v ≠ .string s) ∧ f = .wrongKind v wanted := by
  cases v <;> simp [stringOfJson, eq_comm]

theorem ofName?_eq_some_iff {name : String} {p : NestedSizing} :
    NestedSizing.ofName? name = some p ↔ name = p.name := by
  constructor
  · intro h
    unfold NestedSizing.ofName? at h
    split at h
    next hname =>
      obtain rfl := Option.some.inj h
      exact hname
    next =>
      split at h
      next hname =>
        obtain rfl := Option.some.inj h
        exact hname
      next => cases h
  · rintro rfl
    exact NestedSizing.ofName?_name p

theorem policyOfName_eq_ok_iff {name : String} {p : NestedSizing} :
    policyOfName name = .ok p ↔ name = p.name := by
  rw [← ofName?_eq_some_iff, policyOfName]
  cases NestedSizing.ofName? name <;> simp

theorem policyOfName_eq_error_iff {name : String} {f : JsonFault} :
    policyOfName name = .error f ↔
      (∀ p : NestedSizing, name ≠ p.name) ∧ f = .unknownPolicy name := by
  simp only [ne_eq, ← ofName?_eq_some_iff, policyOfName]
  cases NestedSizing.ofName? name <;> simp [eq_comm]

theorem policyOfJson_eq_ok_iff {v : Json} {p : NestedSizing} :
    policyOfJson v = .ok p ↔ v = .string p.name ∨ v = .object [(p.name, .null)] := by
  fun_cases policyOfJson v with
  | case1 name => simp [policyOfName_eq_ok_iff]
  | case2 name v =>
      simp only [bind_eq_ok_iff, policyOfName_eq_ok_iff]
      cases v <;> simp [pure, Except.pure, throw, throwThe, MonadExceptOf.throw]
  | case3 ms hone => simpa using hone _ _
  | case4 v hstring hone hobject =>
      simp only [reduceCtorEq, false_iff, not_or]
      exact ⟨hstring _, hobject _⟩

theorem misspells_of_policyOfJson {v : Json} {f : JsonFault} :
    policyOfJson v = .error f → Misspells .nestedSizing v f := by
  fun_cases policyOfJson v with
  | case1 name =>
      intro h
      obtain ⟨hname, rfl⟩ := policyOfName_eq_error_iff.mp h
      exact .name hname
  | case2 name v =>
      intro h
      obtain h | ⟨p, hp, hv⟩ := bind_eq_error_iff.mp h
      · obtain ⟨hname, rfl⟩ := policyOfName_eq_error_iff.mp h
        exact .memberName hname
      · obtain rfl := policyOfName_eq_ok_iff.mp hp
        cases v <;> cases hv <;> exact .memberValue (by simp)
  | case3 ms hone =>
      rintro ⟨⟩
      refine .members fun hlength => ?_
      obtain ⟨m, rfl⟩ := List.length_eq_one_iff.mp hlength
      exact hone m.1 m.2 rfl
  | case4 v hstring hone hobject =>
      rintro ⟨⟩
      exact .policy hstring hobject

theorem policyOfJson_of_misspells {v : Json} {f : JsonFault} (h : Misspells .nestedSizing v f) :
    policyOfJson v = .error f := by
  cases h with
  | text hkey => exact absurd rfl hkey
  | policy hstring hobject =>
      cases v with
      | string s => exact absurd rfl (hstring s)
      | object ms => exact absurd rfl (hobject ms)
      | _ => rfl
  | name hname => exact policyOfName_eq_error_iff.mpr ⟨hname, rfl⟩
  | memberName hname =>
      exact bind_eq_error_iff.mpr (.inl (policyOfName_eq_error_iff.mpr ⟨hname, rfl⟩))
  | @memberValue p v hv =>
      refine bind_eq_error_iff.mpr (.inr ⟨p, policyOfName_eq_ok_iff.mpr rfl, ?_⟩)
      cases v with
      | null => exact absurd rfl hv
      | _ => rfl
  | @members ms hms =>
      rcases ms with - | ⟨m, - | ⟨m', ms⟩⟩
      · rfl
      · exact absurd rfl hms
      · rfl

/-- A reader that finds what a value spells in a field, and its fault if it spells nothing
there. -/
structure Reads {α : Type} (key : Key) (field : Config → α) (read : Json → Except JsonFault α) :
    Prop where
  ok : ∀ {v : Json} {c : Config}, read v = .ok (field c) ↔ c.Spells key v
  error : ∀ {v : Json} {f : JsonFault}, read v = .error f ↔ Misspells key v f

theorem reads_text {key : Key} (hkey : key ≠ .nestedSizing) :
    Reads key (fieldText · key) (stringOfJson key.wanted) where
  ok := by
    intro v c
    rw [stringOfJson_eq_ok_iff]
    constructor
    · rintro rfl
      exact .text key
    · intro h
      cases h with
      | text => rfl
      | member => exact absurd rfl hkey
  error := by
    intro v f
    rw [stringOfJson_eq_error_iff]
    constructor
    · rintro ⟨hstring, rfl⟩
      exact .text hkey hstring
    · intro h
      cases h with
      | text _ hstring => exact ⟨hstring, rfl⟩
      | _ => exact absurd rfl hkey

theorem reads_policy : Reads .nestedSizing (·.nestedSizing) policyOfJson where
  ok := by
    intro v c
    rw [policyOfJson_eq_ok_iff]
    constructor
    · rintro (rfl | rfl)
      · exact .text .nestedSizing
      · exact .member
    · intro h
      cases h with
      | text => exact .inl rfl
      | member => exact .inr rfl
  error := ⟨misspells_of_policyOfJson, policyOfJson_of_misspells⟩

/-- What spells a field of some configuration is not at fault there. -/
theorem not_misspells_of_spells {c : Config} {key : Key} {v : Json} (h : c.Spells key v)
    (f : JsonFault) : ¬ Misspells key v f := by
  intro hf
  by_cases hkey : key = .nestedSizing
  · subst hkey
    have hok := reads_policy.ok.mpr h
    rw [reads_policy.error.mpr hf] at hok
    cases hok
  · have hok := (reads_text hkey).ok.mpr h
    rw [(reads_text hkey).error.mpr hf] at hok
    cases hok

theorem misspells_unique {key : Key} {v : Json} {f g : JsonFault} (hf : Misspells key v f)
    (hg : Misspells key v g) : f = g := by
  by_cases hkey : key = .nestedSizing
  · subst hkey
    exact Except.error.inj ((reads_policy.error.mpr hf).symm.trans (reads_policy.error.mpr hg))
  · have hread := reads_text hkey
    exact Except.error.inj ((hread.error.mpr hf).symm.trans (hread.error.mpr hg))

/-! ## Objects -/

/-- A field without a bad value: what is there under its name, if anything, spells it. -/
def Good (members : List (String × Json)) (key : Key) : Prop :=
  ∀ v f, Json.member? members key.name = some v → ¬ Misspells key v f

/-- The fault of an object. If any field has a bad value, it is that of the bad value whose
name comes first; otherwise it is that the field declared first among those not there is
missing. -/
inductive ObjectFault (members : List (String × Json)) : JsonFault → Prop
  | bad {key : Key} {v : Json} {f : JsonFault} (hv : Json.member? members key.name = some v)
      (hf : Misspells key v f) (first : ∀ other : Key, other.name < key.name → Good members other) :
      ObjectFault members f
  | missing {key : Key} (good : ∀ other, Good members other)
      (first : Key.declared.find? (fun k => (Json.member? members k.name).isNone) = some key) :
      ObjectFault members (.missing key)

theorem objectFault_unique {members : List (String × Json)} {f g : JsonFault}
    (hf : ObjectFault members f) (hg : ObjectFault members g) : f = g := by
  have htrichotomy (a b : Key) : a = b ∨ a.name < b.name ∨ b.name < a.name := by
    cases a <;> cases b <;> decide
  cases hf with
  | @bad key v _ hv hf hfirst =>
      cases hg with
      | @bad other w _ hw hg hfirst' =>
          obtain rfl | hlt | hgt := htrichotomy key other
          · obtain rfl := Option.some.inj (hv.symm.trans hw)
            exact misspells_unique hf hg
          · exact absurd hf (hfirst' key hlt v f hv)
          · exact absurd hg (hfirst other hgt w g hw)
      | missing hgood => exact absurd hf (hgood key v f hv)
  | missing hgood hfirst =>
      cases hg with
      | @bad other w _ hw hg => exact absurd hg (hgood other w g hw)
      | missing _ hfirst' => rw [Option.some.inj (hfirst.symm.trans hfirst')]

section

variable {α : Type} {read : Json → Except JsonFault α} {m : Option Json} {key : Key}
  {present : Option α} {a : α} {f : JsonFault}

theorem optional_eq_ok_iff :
    optional read m = .ok (some a) ↔ ∃ v, m = some v ∧ read v = .ok a := by
  cases m <;> simp [optional, bind_eq_ok_iff, pure, Except.pure]

theorem optional_eq_error_iff :
    optional read m = .error f ↔ ∃ v, m = some v ∧ read v = .error f := by
  cases m <;> simp [optional, bind_eq_error_iff, pure, Except.pure]

theorem isNone_eq_of_optional (h : optional read m = .ok present) : m.isNone = present.isNone := by
  cases m with
  | none =>
      cases h
      rfl
  | some v =>
      obtain ⟨a, -, ⟨⟩⟩ := bind_eq_ok_iff.mp h
      rfl

theorem required_eq_ok_iff : required key present = .ok a ↔ present = some a := by
  cases present <;> simp [required]

theorem required_eq_error_iff :
    required key present = .error f ↔ present = none ∧ f = .missing key := by
  cases present <;> simp [required, eq_comm]

namespace Reads

variable {field : Config → α} {members : List (String × Json)}

theorem optional_iff (h : Reads key field read) {c : Config} :
    optional read m = .ok (some (field c)) ↔ ∃ v, m = some v ∧ c.Spells key v := by
  simp only [optional_eq_ok_iff, h.ok]

/-- A field that was read, whether or not it is there, has no bad value. -/
theorem good (h : Reads key field read)
    (hread : optional read (Json.member? members key.name) = .ok present) : Good members key := by
  intro v f hv hf
  rw [optional_eq_error_iff.mpr ⟨v, hv, h.error.mpr hf⟩] at hread
  cases hread

end Reads

end

theorem ofMembers_eq_ok_iff {members : List (String × Json)} {c : Config} :
    ofMembers members = .ok c ↔
      ∀ key : Key, ∃ v, Json.member? members key.name = some v ∧ c.Spells key v := by
  simp only [ofMembers, bind_eq_ok_iff, required_eq_ok_iff]
  constructor
  · rintro ⟨_, hc, _, hp, _, hd, _, hr, dir, rfl, rustName, rfl, cName, rfl, policy, rfl, ⟨⟩⟩ key
    cases key with
    | outputDir => exact (reads_text (by simp)).optional_iff.mp hd
    | rustFileName => exact (reads_text (by simp)).optional_iff.mp hr
    | cFileName => exact (reads_text (by simp)).optional_iff.mp hc
    | nestedSizing => exact reads_policy.optional_iff.mp hp
  · intro h
    have hd := (reads_text (by simp)).optional_iff.mpr (h .outputDir)
    have hr := (reads_text (by simp)).optional_iff.mpr (h .rustFileName)
    have hc := (reads_text (by simp)).optional_iff.mpr (h .cFileName)
    have hp := reads_policy.optional_iff.mpr (h .nestedSizing)
    exact ⟨_, hc, _, hp, _, hd, _, hr, _, rfl, _, rfl, _, rfl, _, rfl, rfl⟩

/-- A bad value is reported if no field whose name comes before has one. -/
theorem Reads.objectFault {α : Type} {key : Key} {field : Config → α}
    {read : Json → Except JsonFault α} {members : List (String × Json)} {f : JsonFault}
    (h : Reads key field read)
    (hread : ∃ v, Json.member? members key.name = some v ∧ read v = .error f)
    (hbefore : ∀ other : Key, other.name < key.name → Good members other) :
    ObjectFault members f := by
  obtain ⟨v, hv, hf⟩ := hread
  exact .bad hv (h.error.mp hf) hbefore

/-- What the reader reports is the fault of the object: it goes through the fields in the
order of their names, and looks for missing ones only when it has found no bad value. -/
theorem objectFault_of_ofMembers {members : List (String × Json)} {f : JsonFault}
    (h : ofMembers members = .error f) : ObjectFault members f := by
  simp only [ofMembers, bind_eq_error_iff, optional_eq_error_iff, required_eq_ok_iff,
    required_eq_error_iff] at h
  obtain h | ⟨cName?, hc, h⟩ := h
  · refine (reads_text (by simp)).objectFault h fun other hlt => ?_
    cases other <;> exact absurd hlt (by decide)
  have hgoodC : Good members .cFileName := (reads_text (by simp)).good hc
  obtain h | ⟨policy?, hp, h⟩ := h
  · refine reads_policy.objectFault h fun other hlt => ?_
    cases other with
    | cFileName => exact hgoodC
    | _ => exact absurd hlt (by decide)
  have hgoodP : Good members .nestedSizing := reads_policy.good hp
  obtain h | ⟨dir?, hd, h⟩ := h
  · refine (reads_text (by simp)).objectFault h fun other hlt => ?_
    cases other with
    | cFileName => exact hgoodC
    | nestedSizing => exact hgoodP
    | _ => exact absurd hlt (by decide)
  have hgoodD : Good members .outputDir := (reads_text (by simp)).good hd
  obtain h | ⟨rustName?, hr, h⟩ := h
  · refine (reads_text (by simp)).objectFault h fun other hlt => ?_
    cases other with
    | rustFileName => exact absurd hlt (by decide)
    | cFileName => exact hgoodC
    | nestedSizing => exact hgoodP
    | outputDir => exact hgoodD
  have hgoodR : Good members .rustFileName := (reads_text (by simp)).good hr
  have hgood : ∀ key, Good members key
    | .outputDir => hgoodD
    | .rustFileName => hgoodR
    | .cFileName => hgoodC
    | .nestedSizing => hgoodP
  -- A field is missing exactly if nothing was read of it.
  have hnoneD := isNone_eq_of_optional hd
  have hnoneR := isNone_eq_of_optional hr
  have hnoneC := isNone_eq_of_optional hc
  have hnoneP := isNone_eq_of_optional hp
  obtain ⟨rfl, rfl⟩ | ⟨dir, rfl, ⟨rfl, rfl⟩ | ⟨rustName, rfl, ⟨rfl, rfl⟩ |
    ⟨cName, rfl, ⟨rfl, rfl⟩ | ⟨policy, rfl, ⟨⟩⟩⟩⟩⟩ := h <;>
  exact .missing hgood (by simp [Key.declared, List.find?, hnoneD, hnoneR, hnoneC, hnoneP])

/-- Objects are read in full, or report the fault they have. -/
theorem ofMembers_eq_error_iff {members : List (String × Json)} {f : JsonFault} :
    ofMembers members = .error f ↔ ObjectFault members f := by
  refine ⟨objectFault_of_ofMembers, fun hf => ?_⟩
  cases hread : ofMembers members with
  | error g => rw [objectFault_unique (objectFault_of_ofMembers hread) hf]
  | ok c =>
      exfalso
      have hspelled := ofMembers_eq_ok_iff.mp hread
      cases hf with
      | @bad key v _ hv hf =>
          obtain ⟨w, hw, hspells⟩ := hspelled key
          obtain rfl := Option.some.inj (hv.symm.trans hw)
          exact not_misspells_of_spells hspells f hf
      | @missing key _ hfirst =>
          obtain ⟨w, hw, -⟩ := hspelled key
          have hnone := List.find?_some hfirst
          rw [hw] at hnone
          cases hnone

/-- A configuration has its members in any order, among any others; the order in which the
fields are declared is one. -/
theorem ofMembers_declared_eq_ok_iff {value : Key → Json} {c : Config} :
    ofMembers (Key.declared.map fun key => (key.name, value key)) = .ok c ↔
      ∀ key, c.Spells key (value key) := by
  have hmember (key : Key) :
      Json.member? (Key.declared.map fun k => (k.name, value k)) key.name = some (value key) := by
    cases key <;> rfl
  simp [ofMembers_eq_ok_iff, hmember]

/-! ## Arrays -/

/-- An array of four items holds what each item spells in the field of its place. -/
theorem ofItems_declared_eq_ok_iff {value : Key → Json} {c : Config} :
    ofItems (Key.declared.map value) = .ok c ↔ ∀ key, c.Spells key (value key) := by
  have hitems : ofItems (Key.declared.map value) = do
      return ⟨← stringOfJson .path (value .outputDir),
        ← stringOfJson .fileName (value .rustFileName),
        ← stringOfJson .fileName (value .cFileName), ← policyOfJson (value .nestedSizing)⟩ := rfl
  rw [hitems]
  simp only [bind_eq_ok_iff]
  constructor
  · rintro ⟨dir, hd, rustName, hr, cName, hc, policy, hp, ⟨⟩⟩ key
    cases key with
    | outputDir => exact (reads_text (by simp)).ok.mp hd
    | rustFileName => exact (reads_text (by simp)).ok.mp hr
    | cFileName => exact (reads_text (by simp)).ok.mp hc
    | nestedSizing => exact reads_policy.ok.mp hp
  · intro h
    have hd := (reads_text (by simp)).ok.mpr (h .outputDir)
    have hr := (reads_text (by simp)).ok.mpr (h .rustFileName)
    have hc := (reads_text (by simp)).ok.mpr (h .cFileName)
    exact ⟨_, hd, _, hr, _, hc, _, reads_policy.ok.mpr (h .nestedSizing), rfl⟩

/-! ## The two forms -/

/-- **The JSON forms of a configuration.** An object holds a configuration exactly if every
field is there and spells what the configuration has, whatever else is there; an array of
four items, exactly if they do so in the order of the fields. So four values make the same
configuration, or none, in either form. An object that holds none reports the bad value whose
name comes first, and where there is no bad value the missing field that is declared first. -/
theorem json_forms :
    (∀ (members : List (String × Json)) (c : Config), ofJson (.object members) = .ok c ↔
      ∀ key : Key, ∃ v, Json.member? members key.name = some v ∧ c.Spells key v) ∧
    (∀ (value : Key → Json) (c : Config), ofJson (.array (Key.declared.map value)) = .ok c ↔
      ∀ key, c.Spells key (value key)) ∧
    (∀ (value : Key → Json) (c : Config), ofJson (.array (Key.declared.map value)) = .ok c ↔
      ofJson (.object (Key.declared.map fun key => (key.name, value key))) = .ok c) ∧
    ∀ (members : List (String × Json)) (f : JsonFault),
      ofJson (.object members) = .error f ↔ ObjectFault members f :=
  ⟨fun _ _ => ofMembers_eq_ok_iff, fun _ _ => ofItems_declared_eq_ok_iff,
    fun _ _ => ofItems_declared_eq_ok_iff.trans ofMembers_declared_eq_ok_iff.symm,
    fun _ _ => ofMembers_eq_error_iff⟩

/-- Two bad values and a missing field: the value of `c_file_name` is reported. -/
example : ofJson (.object [("output_dir", .null), ("remark", .null), ("c_file_name", .int 1),
    ("nested_sizing", .object [("skip", .null)])]) = .error (.wrongKind (.int 1) .fileName) :=
  rfl

end MemMap.Config
