import GcodeSender.Proofs.Settings.RoundTrip

/-!
# `GcodeSender.Proofs.Settings.Partial`: files with some of the keys

`Config.load_partial` says what a file may look like that gives some of the values of a
configuration: any text that the library of its format reads as a document in which the known keys
have their values, in any order and between any others (`Library.Tells`). In either format it is
loaded as the same configuration, which has the defaults under the keys that are missing. A library
itself writes such texts for the outlines that have these values (`Outline.Gives`).

The entries that no configuration has are read, too, before they are passed over. So a library that
refuses a document for one of them keeps the others from being loaded, as that for TOML does with a
value that nests too deeply (`load_nested`). And whatever a file holds, what is loaded from it can
be used (`Libraries.check_of_load`).
-/

set_option autoImplicit false

namespace GcodeSender.Settings

variable {L : Libraries} {c : Config} {K : Key → Bool} {t : Files.Tree} {path : String}

/-! ## Any file -/

/-- What is loaded can be used. -/
theorem Libraries.check_of_load {d : Config} (h : L.load t path = .ok d) : d.check = .ok () :=
  (Libraries.load_eq_ok_iff.mp h).elim fun _ ⟨_, _, _, _, hcheck⟩ => hcheck

/-- The defaults can be used, too. -/
theorem Libraries.check_of_loadOrDefault {d : Config} (h : L.loadOrDefault t path = .ok d) :
    d.check = .ok () := by
  unfold Libraries.loadOrDefault at h
  split at h
  · exact Libraries.check_of_load h
  · cases h
    exact Config.check_default

/-- What is no document is refused. -/
theorem Libraries.load_of_none {text : String} (hformat : Format.ofPath path = .ok .toml)
    (htext : t.read path = .ok (Text.encode text.toList)) (hread : L.toml.read? text = none) :
    L.load t path = .error (.toml (L.toml.complaint text)) := by
  have hconfig : L.toml.config? text = none := by
    rw [Library.config?, hread]
    rfl
  simp [Libraries.load, bind, Except.bind, hformat, readText_eq htext, Libraries.read,
    Libraries.of, hconfig, Format.unread]

/-! ## Files with some of the keys -/

/-- The values under any keys can be told in either format. -/
theorem Libraries.Lawful.exists_tells (hL : L.Lawful) {format : Format} (K : Key → Bool)
    (hstep : (L.of format).regained? c.jog.step = some c.jog.step)
    (hfeed : (L.of format).regained? c.jog.feed = some c.jog.feed)
    (hintegers : format = .toml → ∀ n ∈ c.integers, n < 1 <<< 63) :
    ∃ text, (L.of format).Tells c K text := by
  have hplain := c.isPlain_outlineWith K
  have hwrites : ∃ text, (L.of format).write? (c.outlineWith K) = some text := by
    cases format with
    | json => exact hL.writes.json _ hplain
    | toml => exact (hL.writes.toml _ hplain).mpr (Config.isSigned_outlineWith K (hintegers rfl))
  obtain ⟨text, htext⟩ := hwrites
  exact ⟨text, (hL.of format).tells_of_write hplain (c.gives_outlineWith K)
    (Library.regains_outlineWith K hstep hfeed) htext⟩

/-- **A file that tells the values under some keys loads**, in either format, and only what can be
used is ever loaded. A file does so if its library reads it as a document that shows these values,
whatever else is in it; the library itself writes such texts for outlines with these values; and
there always are such files. -/
theorem Config.load_partial (hL : L.Lawful) (hc : c.check = .ok ()) (K : Key → Bool) :
    (∀ t path format text, Format.ofPath path = .ok format →
      t.read path = .ok (Text.encode text.toList) → (L.of format).Tells c K text →
      L.load t path = .ok (c.only K)) ∧
    (∀ (format : Format) (o : Outline) (text : String), o.IsPlain → o.Gives c K →
      (L.of format).Regains o → (L.of format).write? o = some text →
      (L.of format).Tells c K text) ∧
    (∀ format : Format, (L.of format).regained? c.jog.step = some c.jog.step →
      (L.of format).regained? c.jog.feed = some c.jog.feed →
      (format = .toml → ∀ n ∈ c.integers, n < 1 <<< 63) → ∃ text, (L.of format).Tells c K text) ∧
    ∀ t path d, L.load t path = .ok d ∨ L.loadOrDefault t path = .ok d → d.check = .ok () := by
  refine ⟨?_, ?_, ?_, ?_⟩
  · intro t path format text hformat htext htells
    exact Libraries.load_of_tells (hL.of format).byName hc hformat htext htells
  · intro format o text hplain hgives hregains htext
    exact (hL.of format).tells_of_write hplain hgives hregains htext
  · intro format hstep hfeed hintegers
    exact hL.exists_tells K hstep hfeed hintegers
  · intro t path d h
    exact h.elim Libraries.check_of_load Libraries.check_of_loadOrDefault

/-- A tree with one file. -/
def single (path : String) (text : String) : Files.Tree :=
  { entries := [([path], .file (Text.encode text.toList))] }

/-- The port alone can be told. -/
theorem Config.load_partial_port : ∃ json toml : String,
    Config.load (single "c.json" json) "c.json" = .ok (awkward.only (· = .port)) ∧
      Config.load (single "c.toml" toml) "c.toml" = .ok (awkward.only (· = .port)) := by
  have hc : awkward.check = .ok () := Config.check_eq_ok_iff.mpr (by decide +kernel)
  have hsmall : ∀ n ∈ awkward.integers, n < 1 <<< 63 := by decide
  obtain ⟨hload, -, htold, -⟩ := Config.load_partial Libraries.standard_lawful hc (· = .port)
  obtain ⟨json, hjson⟩ := htold .json rfl rfl (by simp)
  obtain ⟨toml, htoml⟩ := htold .toml rfl rfl fun _ => hsmall
  exact ⟨json, toml, hload _ _ .json _ (by decide) rfl hjson,
    hload _ _ .toml _ (by decide) rfl htoml⟩

/-! ## With the libraries of the program -/

/-- Any JSON object that shows the values tells them. -/
theorem tells_json {document : Json.Value} {root : List (String × Json.Value)}
    (hspelled : document.isSpelled = true) (hroot : document.table? = some root)
    (h : Shows (l := Json.library) c K root) :
    Json.library.Tells c K (String.ofList document.write) := by
  refine ⟨document, root, ?_, hroot, h⟩
  show Json.read? (String.ofList document.write).toList = some document
  rw [String.toList_ofList]
  exact Json.read?_write hspelled

/-- Any lines that make a TOML document tell what it shows. -/
theorem tells_textOf {lines : List Toml.Line} {document : Toml.Value}
    {root : List (String × Toml.Value)}
    (hlines : Toml.document? (lines.filterMap Toml.Line.statement?) = some document)
    (hroot : document.table? = some root) (h : Shows (l := Toml.library) c K root) :
    Toml.library.Tells c K (String.ofList (Toml.textOf lines)) := by
  refine ⟨document, root, ?_, hroot, h⟩
  show Toml.read? (String.ofList (Toml.textOf lines)).toList = some document
  rw [String.toList_ofList, Toml.read?_textOf, hlines]

/-- A value that nests a hundred arrays, under a key that no configuration has. -/
def nested : String :=
  String.ofList ("x = ".toList ++ List.replicate 100 '[' ++ List.replicate 100 ']')

/-- It keeps the other keys from being loaded. -/
theorem load_nested : Config.load (single "c.toml" nested) "c.toml" = .error (.toml "") := by
  have hread : Libraries.standard.toml.read? nested = none := by
    rw [← Option.isNone_iff_eq_none]
    decide +kernel
  exact Libraries.load_of_none (by decide) rfl hread

end GcodeSender.Settings
