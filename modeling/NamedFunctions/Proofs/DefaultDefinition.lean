import NamedFunctions.Proofs.LayeredLookup
import NamedFunctions.Proofs.QuotedDocuments

/-! # The default definition of a document

A document may set a definition in its table `function` and another one at its top. The nested one is
taken where there is one, and only then is a blank text dropped. So a blank nested definition counts as
none and still hides the outer one, which is the one case in which the default is not the first of the
two that can be used. A lookup that names no definition is a lookup of the default, and where there is
none it finds nothing. -/
namespace NamedFunctions

theorem Text.trim_trim (s : String) : trim (trim s) = trim s := by
  rw [trim, trim, String.toList_ofList,
    stripChars_eq_self (fun _ => head?_stripChars) (fun _ => getLast?_stripChars)]

namespace Settings

/-! ## Texts that can be used -/

/-- The setting without the white space at its ends, if it is there and not blank. -/
def usable? (setting : Option String) : Option String :=
  (setting.filter fun text => !Text.isBlankText text).map Text.trim

theorem usable?_of_blank {text : String} (h : Text.isBlankText text = true) :
    usable? (some text) = none := by
  simp [usable?, Option.filter, h]

theorem usable?_of_not_blank {text : String} (h : Text.isBlankText text = false) :
    usable? (some text) = some (Text.trim text) := by
  simp [usable?, Option.filter, h]

theorem isBlankText_of_usable? {setting : Option String} {text : String}
    (h : usable? setting = some text) : Text.isBlankText text = false := by
  obtain ⟨raw, hraw, rfl⟩ := Option.map_eq_some_iff.1 h
  rw [← Bool.not_eq_true, ← Text.trim_eq_empty, Text.trim_trim, Text.trim_eq_empty]
  simpa using (Option.filter_eq_some_iff.1 hraw).2

theorem defaultDefinition_eq (settings : Settings) :
    settings.defaultDefinition = usable? settings.definition := by
  obtain ⟨definition⟩ := settings
  cases definition with
  | none => rfl
  | some text =>
    cases hb : Text.isBlankText text with
    | true => simp [defaultDefinition, usable?_of_blank hb, hb]
    | false => simp [defaultDefinition, usable?_of_not_blank hb, hb, Option.filter]

theorem defaultDefinition_settings (document : Document) :
    document.settings.defaultDefinition = usable? (document.nested.or document.definition) := by
  rw [Document.settings, defaultDefinition_normalized, defaultDefinition_eq]

/-! ## Blank settings -/

/-- The nested setting is blank, and the outer one could be used. -/
def Hides (nested outer : Option String) : Prop :=
  (∃ blank, nested = some blank ∧ Text.isBlankText blank = true) ∧
    ∃ text, outer = some text ∧ Text.isBlankText text = false

theorem usable?_or_of_hides {nested outer : Option String} (h : Hides nested outer) :
    usable? (nested.or outer) = none ∧ (usable? nested).or (usable? outer) ≠ none := by
  obtain ⟨⟨blank, rfl, hblank⟩, text, rfl, htext⟩ := h
  rw [Option.some_or, usable?_of_blank hblank, usable?_of_not_blank htext, Option.none_or]
  exact ⟨rfl, Option.some_ne_none _⟩

theorem usable?_or_of_not_hides {nested outer : Option String} (h : ¬Hides nested outer) :
    usable? (nested.or outer) = (usable? nested).or (usable? outer) := by
  cases nested with
  | none => rfl
  | some text =>
    cases hb : Text.isBlankText text with
    | false => rw [Option.some_or, usable?_of_not_blank hb, Option.some_or]
    | true =>
      have houter : usable? outer = none := by
        cases outer with
        | none => rfl
        | some other =>
          refine usable?_of_blank (Bool.not_eq_false _ ▸ fun hother => h ?_)
          exact ⟨⟨text, rfl, hb⟩, other, rfl, hother⟩
      rw [Option.some_or, usable?_of_blank hb, houter, Option.none_or]

end Settings

/-! ## Lookups without a definition -/

namespace Layer

variable {Obj : Type} [Described Obj] (layer : Layer Obj) (below : Catalog Obj)
  (kind : Option Kind) (outputTypes : List String)

theorem lookup_none_of_default {text : String} (h : layer.settings.defaultDefinition = some text) :
    layer.lookup below kind none outputTypes = layer.lookup below kind (some text) outputTypes := by
  have hblank : Text.isBlankText text = false :=
    Settings.isBlankText_of_usable? ((Settings.defaultDefinition_eq _).symm.trans h)
  rw [lookup, lookup, layer.effective_of_default (by simp) h, layer.effective_some hblank]

theorem run_lookup_none_of_no_default (h : layer.settings.defaultDefinition = none)
    (store : Store Obj) :
    (layer.lookup below kind none outputTypes).run store =
      ⟨none, store, [.reported (.emptyDefinition "")]⟩ := by
  have hnames : Definition.names "" = [] := by decide
  rw [lookup, layer.effective_of_no_default (by simp) h, if_pos hnames]
  rfl

end Layer

/-! ## Documents -/

namespace Settings

theorem Format.load_of_read {format : Format} {source : String} {document : Document}
    (h : format.read? source = some document) : format.load source = .ok document.settings := by
  rw [load, h]

/-- The default of an accepted document is its nested definition where there is one, else the
outer one, trimmed and not blank: the first that can be used, unless a blank one hides it. A
lookup without a definition looks up the default or finds nothing. -/
theorem document_default_definition (Obj : Type) [Described Obj] (format : Format) (source : String)
    (document : Document) (h : format.read? source = some document) :
    let nested := document.nested
    let outer := document.definition
    ∃ settings, format.load source = .ok settings ∧
      settings.defaultDefinition = usable? (nested.or outer) ∧
      (settings.defaultDefinition = (usable? nested).or (usable? outer) ↔ ¬Hides nested outer) ∧
      (Hides nested outer → settings.defaultDefinition = none) ∧
      ∀ (registry : Registry Obj) (below : Catalog Obj) (kind : Option Kind)
        (outputTypes : List String),
        let lookup := (⟨registry, settings⟩ : Layer Obj).lookup below kind
        (∀ text, settings.defaultDefinition = some text →
            lookup none outputTypes = lookup (some text) outputTypes) ∧
          (settings.defaultDefinition = none → ∀ store : Store Obj,
            (lookup none outputTypes).run store =
              ⟨none, store, [.reported (.emptyDefinition "")]⟩) := by
  intro nested outer
  have hdefault : document.settings.defaultDefinition = usable? (nested.or outer) :=
    defaultDefinition_settings document
  refine ⟨document.settings, format.load_of_read h, hdefault, ⟨fun hfirst hides => ?_, fun hnot => ?_⟩,
    fun hides => hdefault.trans (usable?_or_of_hides hides).1, ?_⟩
  · obtain ⟨hnone, hsome⟩ := usable?_or_of_hides hides
    exact hsome (hfirst.symm.trans (hdefault.trans hnone))
  · exact hdefault.trans (usable?_or_of_not_hides hnot)
  · intro registry below kind outputTypes lookup
    let layer : Layer Obj := ⟨registry, document.settings⟩
    exact ⟨fun _ htext => layer.lookup_none_of_default below kind outputTypes htext,
      layer.run_lookup_none_of_no_default below kind outputTypes⟩

/-- The nested definition is trimmed of an ideographic space, and the outer one is blank. -/
theorem document_default_definition_nested :
    let source := quotedDocument "\u3000upper|lower " " "
    let document : Document := ⟨some ⟨some "\u3000upper|lower "⟩, some " "⟩
    let layer (settings : Settings) : Layer Scripted.Object := ⟨.empty, settings⟩
    Format.toml.read? source = some document ∧ ¬Hides document.nested document.definition ∧
      ∃ settings, Format.toml.load source = .ok settings ∧
        settings.defaultDefinition = some "upper|lower" ∧
        (layer settings).lookup .base none none [] =
          (layer settings).lookup .base none (some "upper|lower") [] := by
  intro source document layer
  have hread : Format.toml.read? source = some document :=
    Format.read?_toml_quoted (by decide) (by decide)
  have hnot : ¬Hides document.nested document.definition := by
    rintro ⟨⟨blank, he, hblank⟩, -⟩
    cases he
    exact absurd hblank (by decide)
  obtain ⟨settings, hload, hdefault, -, -, hlookup⟩ :=
    document_default_definition Scripted.Object .toml source document hread
  have htext : settings.defaultDefinition = some "upper|lower" := hdefault.trans (by decide)
  exact ⟨hread, hnot, settings, hload, htext, (hlookup .empty .base none []).1 _ htext⟩

/-- Where both definitions are given between single quotes, the nested one decides alone. -/
theorem defaultDefinition_quotedDocument {nested outer : String}
    (hnested : Toml.IsLiteral nested.toList) (houter : Toml.IsLiteral outer.toList) :
    ∃ settings, Format.toml.load (quotedDocument nested outer) = .ok settings ∧
      settings.defaultDefinition = usable? (some nested) := by
  have hread := Format.read?_toml_quoted hnested houter
  exact ⟨_, Format.load_of_read hread, defaultDefinition_settings _⟩

/-- A blank nested definition hides one that could be used. -/
theorem blank_definition_hides :
    let source := "definition = 'outer'\n[function]\ndefinition = '  '\n"
    Format.toml.read? source = some ⟨some ⟨some "  "⟩, some "outer"⟩ ∧
      Format.toml.load source = .ok {} ∧ ({} : Settings).defaultDefinition = none ∧
      (usable? (some "  ")).or (usable? (some "outer")) = some "outer" := by
  intro source
  have hsource : source = quotedDocument "  " "outer" := by decide
  have hread : Format.toml.read? source = some ⟨some ⟨some "  "⟩, some "outer"⟩ :=
    hsource ▸ Format.read?_toml_quoted (by decide) (by decide)
  exact ⟨hread, (Format.load_of_read hread).trans rfl, rfl, by decide⟩

end Settings

end NamedFunctions
