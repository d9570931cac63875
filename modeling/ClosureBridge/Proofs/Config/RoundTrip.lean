import ClosureBridge.Config.Files
import ClosureBridge.Proofs.FileTree.Writing
import ClosureBridge.Proofs.Toml.Document

/-!
# Saved configurations are loaded

Every setting of a configuration is written under its own name, and a setting that is absent is left
out, which is its default. So the text of a configuration is read as the configuration, whatever its
texts are, and only the marker decides whether it is valid. The one thing that can go wrong before
is that the quotes in a row in some text are more than an octet counts; then nothing is written.

## Main definitions

* `Config.texts`: the texts in a configuration.
* `Config.HasLongRun`: whether one of them has too many quotes in a row.

## Main statements

* `Config.ofDocument?_sections`: the sections of a configuration hold it.
* `Config.parse_text`: the text of a configuration is read as the configuration.
* `Config.isCountable_eq_false_iff`: what keeps a configuration from being written.
* `Config.saved_is_restored`: a configuration that is saved is loaded.
* `Config.not_always_saved`: with too many quotes in a row it is not saved.
-/

namespace ClosureBridge

open Toml (Section Value Quote)

/-! ### Reading sections -/

theorem characterSetting?_toString (marker : Char) :
    characterSetting? (.text marker.toString) = some marker := by
  simp [characterSetting?, textSetting?]

theorem RuntimeConfig.ofValue?_table (r : RuntimeConfig) :
    ofValue? (.table (Section.table ⟨"runtime", Config.optionalText "library" r.library ++
      [("initialize", .boolean r.autoStart), ("show_errors", .boolean r.showErrors)]⟩)) =
        some r := by
  obtain ⟨library, autoStart, showErrors⟩ := r
  cases library <;> rfl

theorem InteractiveConfig.ofValue?_table (i : InteractiveConfig) :
    ofValue? (.table (Section.table
      ⟨"interactive", [("magic_marker", .text i.magicMarker.toString)]⟩)) = some i := by
  change (do return { magicMarker := ← characterSetting? (.text i.magicMarker.toString) } :
    Option InteractiveConfig) = _
  rw [characterSetting?_toString]
  rfl

theorem LoggingConfig.ofValue?_table (l : LoggingConfig) :
    ofValue? (.table (Section.table ⟨"logging", [("level", .text l.level),
      ("format", .text l.format), ("json", .boolean l.json)] ++
        Config.optionalText "file" l.file⟩)) = some l := by
  obtain ⟨level, format, json, file⟩ := l
  cases file <;> rfl

namespace Config

variable {c : Config} {entries : Bindings Value}

/-- **The sections of a configuration hold it**, wherever they stand in a document. -/
theorem ofDocument?_sections
    (h : ∀ s ∈ c.sections, entries.get? s.name = some (.table s.table)) :
    ofDocument? entries = some c := by
  simp only [sections, List.forall_mem_cons] at h
  obtain ⟨hruntime, hinteractive, hlogging, -⟩ := h
  simp only [ofDocument?, Fields.read?, Fields.get?, hruntime, hinteractive, hlogging,
    RuntimeConfig.ofValue?_table, InteractiveConfig.ofValue?_table, LoggingConfig.ofValue?_table]
  rfl

theorem plain_of_mem_sections (c : Config) : ∀ s ∈ c.sections, s.Plain := by
  obtain ⟨⟨library, autoStart, showErrors⟩, ⟨marker⟩, ⟨level, format, json, file⟩⟩ := c
  intro s hs
  simp only [sections, List.mem_cons, List.not_mem_nil, or_false] at hs
  rcases hs with rfl | rfl | rfl
  · cases library <;> constructor <;> simp [optionalText] <;> decide
  · constructor <;> simp <;> decide
  · cases file <;> constructor <;> simp [optionalText] <;> decide

/-- **The text of a configuration is read as the configuration**, and then validated. -/
theorem parse_text (c : Config) : parse c.text = c.validate := by
  have hnames : (c.sections.map Section.name).Nodup := by simp [sections]
  obtain ⟨entries, hread, htables⟩ :=
    Toml.Document.read?_writeAll c.plain_of_mem_sections hnames
  rw [parse, text, hread]
  dsimp only
  rw [ofDocument?_sections htables]

/-! ### Saving -/

/-- The texts in a configuration. -/
def texts (c : Config) : List String :=
  [c.interactive.magicMarker.toString, c.logging.level, c.logging.format] ++
    c.runtime.library.toList ++ c.logging.file.toList

/-- Whether 256 equal quotes stand in a row in a text of a configuration. -/
def HasLongRun (c : Config) : Prop :=
  ∃ s ∈ c.texts, ∃ mark ∈ ['"', '\''], List.replicate 256 mark <:+: s.toList

/-- **A configuration is written unless it has too many quotes in a row.** -/
theorem isCountable_eq_false_iff (c : Config) : c.isCountable = false ↔ c.HasLongRun := by
  have htexts : c.isCountable = c.texts.all fun s => Quote.isCountable s.toList := by
    obtain ⟨⟨library, autoStart, showErrors⟩, ⟨marker⟩, ⟨level, format, json, file⟩⟩ := c
    cases library <;> cases file <;>
      simp [isCountable, sections, texts, optionalText, Section.isCountable,
        Toml.Setting.isCountable] <;> ac_rfl
  rw [htexts, List.all_eq_false]
  refine exists_congr fun s => and_congr_right fun _ => ?_
  rw [Bool.not_eq_true]
  exact Quote.isCountable_eq_false_iff s.toList

theorem save_of_hasLongRun (h : c.HasLongRun) (tree : FileTree) (path : String) :
    c.save tree path = .error (.overflow .add) := by
  rw [save, c.isCountable_eq_false_iff.mpr h, if_neg Bool.false_ne_true]

theorem save_of_not_hasLongRun (h : ¬c.HasLongRun) (tree : FileTree) (path : String) :
    c.save tree path =
      (tree.write [] path c.text).mapError fun e => .config (fileError path e) := by
  rw [save, if_pos]
  simpa using c.isCountable_eq_false_iff.not.mpr h

/-- **A configuration that is saved is loaded.** It is saved unless 256 equal quotes stand in a row
in one of its texts or the file cannot be written; then the file has its text, which is read as the
same configuration if the marker is accepted, and as an invalid one otherwise. -/
theorem saved_is_restored (c : Config) (tree : FileTree) (path : String) :
    (c.HasLongRun → c.save tree path = .error (.overflow .add)) ∧
    (¬c.HasLongRun → c.save tree path =
      (tree.write [] path c.text).mapError fun e => .config (fileError path e)) ∧
    ∀ saved, c.save tree path = .ok saved →
      saved.read [] path = .ok c.text ∧ load saved path = parse c.text ∧
      parse c.text = if accepts c.interactive.magicMarker then .ok c
        else .error (.invalid (collision c.interactive.magicMarker)) := by
  refine ⟨fun h => save_of_hasLongRun h tree path, fun h => save_of_not_hasLongRun h tree path,
    fun saved hsave => ?_⟩
  have hrun : ¬c.HasLongRun := by
    intro h
    rw [save_of_hasLongRun h] at hsave
    cases hsave
  rw [save_of_not_hasLongRun hrun] at hsave
  have hread : saved.read [] path = .ok c.text := by
    cases hwrite : tree.write [] path c.text with
    | error e =>
      rw [hwrite] at hsave
      cases hsave
    | ok written =>
      rw [hwrite] at hsave
      cases hsave
      exact FileTree.read_of_write hwrite
  refine ⟨hread, ?_, ?_⟩
  · rw [load, hread]
    rfl
  · rw [parse_text, validate]

/-- A configuration whose texts have quotes of both kinds, backslashes and line feeds in them. -/
def quoting : Config where
  runtime := { library := some "/opt/\"py\" 3.12/lib\\python.so" }
  interactive := { magicMarker := '\\' }
  logging :=
    { level := "it's \"loud\""
      format := "'''\n\"\"\"\t\\n"
      json := true
      file := some "C:\\logs\\'x'.txt" }

/-- Some files, one of them with octets that are no text. -/
def shelf : FileTree :=
  ⟨[(["closures.toml".toList, "etc".toList], .file [0xff, 0xfe]), (["notes".toList], .file [])]⟩

theorem not_hasLongRun_quoting : ¬quoting.HasLongRun := by
  rw [← isCountable_eq_false_iff]
  decide +kernel

/-- The texts are saved over a file that was there, each in quotes that suit it, and loaded. -/
theorem saved_is_restored_quoting :
    ∃ saved, quoting.save shelf "etc/../etc/closures.toml" = .ok saved ∧
      saved.read [] "etc/../etc/closures.toml" = .ok quoting.text ∧
      load saved "etc/../etc/closures.toml" = .ok quoting := by
  obtain ⟨-, hshort, hrestored⟩ := saved_is_restored quoting shelf "etc/../etc/closures.toml"
  have htarget : shelf.target [] "etc/../etc/closures.toml" =
      .ok ["closures.toml".toList, "etc".toList] := rfl
  have hsave := hshort not_hasLongRun_quoting
  rw [FileTree.write, FileTree.bind_of_eq_ok htarget] at hsave
  obtain ⟨hread, hload, hparse⟩ := hrestored _ hsave
  exact ⟨_, hsave, hread, by rw [hload, hparse, if_pos (by decide +kernel)]⟩

/-- A file in the top directory can be written. -/
theorem write_to_top (text : String) :
    ∃ written, FileTree.write {} [] "pylambda.toml" text = .ok written := by
  have htarget : FileTree.target {} [] "pylambda.toml" = .ok ["pylambda.toml".toList] := rfl
  exact ⟨_, FileTree.bind_of_eq_ok htarget⟩

/-- A configuration with a text of 256 quotes. -/
def quoted : Config :=
  { logging := { level := String.ofList (List.replicate 256 '"') } }

theorem hasLongRun_quoted : HasLongRun quoted := by
  have hlevel : quoted.logging.level.toList = List.replicate 256 '"' := String.toList_ofList
  refine ⟨quoted.logging.level, by simp [texts], '"', by simp, [], [], ?_⟩
  rw [hlevel, List.nil_append, List.append_nil]

/-- With too many quotes in a row a configuration is not saved, even when its marker is accepted and
the file can be written. -/
theorem not_always_saved :
    ¬∀ (c : Config) (tree : FileTree) (path : String),
      accepts c.interactive.magicMarker = true →
      (∃ written, tree.write [] path c.text = .ok written) →
      ∃ saved, c.save tree path = .ok saved ∧ load saved path = .ok c := by
  intro h
  obtain ⟨saved, hsave, -⟩ := h quoted {} "pylambda.toml" (by decide) (write_to_top _)
  rw [save_of_hasLongRun hasLongRun_quoted] at hsave
  cases hsave

end Config

end ClosureBridge
