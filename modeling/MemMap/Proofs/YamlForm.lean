import MemMap.Config.Yaml
import MemMap.Proofs.EntryLines
import MemMap.Proofs.JsonForms

/-!
# MemMap.Proofs.YamlForm

The YAML form of a configuration whose texts are those of file names and paths.

It has a line for each field. Whether a text is put in quotes is decided by what it would be
taken for without them, so it is read back as a string whatever it spells.

* `toYaml_eq_join` — what is written;
* `yaml_form` — that, and what is read of it.
-/

namespace MemMap.Config

open Yaml

/-! ## Written fields -/

/-- A text between single quotes, if without them it would be taken for something else. -/
def quotedIfMistaken (s : String) : String :=
  if looksLikeOther s || hasIndicator s.toList then "'" ++ s ++ "'" else s

theorem writtenScalar_of_isPathText {s : String} (hs : IsPathText s.toList) :
    writtenScalar s = " " ++ quotedIfMistaken s ++ "\n" := by
  rw [← String.toList_inj, toList_writtenScalar hs, styleOf_of_isPathText hs, quotedIfMistaken,
    between]
  split <;> simp

example : ["true", "null", "012", "1e3", ".inf", "-", "a-b", "1.2.3"].map quotedIfMistaken =
    ["'true'", "'null'", "'012'", "'1e3'", "'.inf'", "'-'", "a-b", "1.2.3"] := by decide +kernel

/-- The names and texts of the fields, in the order in which they are declared. -/
def fields (c : Config) : List (String × String) :=
  Key.declared.map fun key => (key.name, c.fieldText key)

theorem toList_toYaml (c : Config) : c.toYaml.toList = entryLines c.fields := by
  simp [toYaml, entryText, fields, Key.declared, entryLines, entryLine, fieldText]

section

variable {c : Config}

/-- A policy's name is a path text like the others. -/
theorem isPathText_fieldText (hdir : IsPathText c.outputDir.toList)
    (hrust : IsPathText c.rustFileName.toList) (hc : IsPathText c.cFileName.toList) (key : Key) :
    IsPathText (c.fieldText key).toList := by
  cases key with
  | outputDir => exact hdir
  | rustFileName => exact hrust
  | cFileName => exact hc
  | nestedSizing =>
      change IsPathText c.nestedSizing.name.toList
      cases c.nestedSizing <;> decide

theorem toYaml_eq_join (h : ∀ key, IsPathText (c.fieldText key).toList) :
    c.toYaml = String.join (Key.declared.map fun key =>
      key.name ++ ": " ++ quotedIfMistaken (c.fieldText key) ++ "\n") := by
  have hentry (key : Key) : entryText key (c.fieldText key) =
      key.name ++ ": " ++ quotedIfMistaken (c.fieldText key) ++ "\n" := by
    rw [entryText, writtenScalar_of_isPathText (h key)]
    simp [← String.toList_inj]
  simp only [← hentry]
  simp [toYaml, Key.declared, fieldText, String.append_assoc]

/-! ## Read fields -/

theorem isEntryKey_name (key : Key) : IsEntryKey key.name where
  path := by cases key <;> decide
  letter := by cases key <;> exact ⟨_, _, rfl, rfl⟩
  short := by cases key <;> decide

theorem plainValue_name (key : Key) : plainValue key.name = .ok (.string key.name) := by
  have hstyle : styleOf key.name = .plain := by cases key <;> decide
  exact (of_styleOf_plain hstyle).1

theorem isEntry_of_mem_fields (h : ∀ key, IsPathText (c.fieldText key).toList) :
    ∀ e ∈ c.fields, IsEntry e := by
  intro e he
  obtain ⟨key, -, rfl⟩ := List.mem_map.mp he
  exact ⟨isEntryKey_name key, h key⟩

theorem ofRoot_fields (c : Config) :
    ofRoot (.mapping none none (c.fields.map entryNode)) = .ok c := by
  obtain ⟨dir, rustName, cName, policy⟩ := c
  cases policy <;> rfl

/-- **The YAML form of a configuration.** It has one line for each field, in the order in which
they are declared, and a text is in quotes if it would be taken for something else without
them. It is read back as that configuration; taken for itself it is a mapping whose keys and
values are strings, so that no text is read as a null, a boolean, a number or a mark. -/
theorem yaml_form (c : Config) (hdir : IsPathText c.outputDir.toList)
    (hrust : IsPathText c.rustFileName.toList) (hc : IsPathText c.cFileName.toList) :
    ofYaml c.toYaml = .ok c ∧
    Value.ofText c.toYaml = .ok (.mapping (Key.declared.map fun key =>
      (.string key.name, .string (c.fieldText key)))) ∧
    c.toYaml = String.join (Key.declared.map fun key =>
      key.name ++ ": " ++ quotedIfMistaken (c.fieldText key) ++ "\n") := by
  have htexts := isPathText_fieldText hdir hrust hc
  have hentries := isEntry_of_mem_fields htexts
  refine ⟨?_, ?_, toYaml_eq_join htexts⟩
  · rw [ofYaml, rootOfText_entryLines hentries (toList_toYaml c)]
    exact ofRoot_fields c
  · have hkeys : ∀ e ∈ c.fields, plainValue e.1 = .ok (.string e.1) := by
      intro e he
      obtain ⟨key, -, rfl⟩ := List.mem_map.mp he
      exact plainValue_name key
    have hdistinct : (c.fields.map Prod.fst).Nodup := by
      change (Key.declared.map Key.name).Nodup
      decide
    exact ofText_entryLines hentries (toList_toYaml c) hkeys hdistinct

/-- Nothing at all, a number with an exponent and a mark between documents, as texts. -/
theorem yaml_form_mistakable :
    toYaml ⟨"", "1e3", "---", .skip⟩ =
      "output_dir: ''\nrust_file_name: '1e3'\nc_file_name: '---'\nnested_sizing: skip\n" ∧
    ofYaml (toYaml ⟨"", "1e3", "---", .skip⟩) = .ok ⟨"", "1e3", "---", .skip⟩ ∧
    Value.ofText (toYaml ⟨"", "1e3", "---", .skip⟩) =
      .ok (.mapping [(.string "output_dir", .string ""), (.string "rust_file_name", .string "1e3"),
        (.string "c_file_name", .string "---"), (.string "nested_sizing", .string "skip")]) := by
  obtain ⟨hread, hvalue, hwritten⟩ :=
    yaml_form ⟨"", "1e3", "---", .skip⟩ (by decide) (by decide) (by decide)
  exact ⟨hwritten.trans (by decide +kernel), hread, hvalue⟩

end

end MemMap.Config
