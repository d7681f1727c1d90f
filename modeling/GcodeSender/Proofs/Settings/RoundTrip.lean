import GcodeSender.Proofs.Files.Writing
import GcodeSender.Proofs.Settings.Standard

/-!
# `GcodeSender.Proofs.Settings.RoundTrip`: saved configurations load again

A configuration is handed to a library as an outline with all its keys, so the text that is saved
tells every value of it (`Library.Lawful.tells_of_write`), and a text that tells all values is
loaded as the configuration itself.

`Config.save_load` puts it together for any lawful libraries: what was saved is loaded again, and
only integers from `2 ^ 63` up keep a configuration from being written, in TOML. Of doubles
something has to be asked, since a library need not read what it wrote for one as the same one.
-/

set_option autoImplicit false

namespace GcodeSender.Settings

variable {L : Libraries} {c : Config}

/-! ## Integers -/

/-- The integers of a configuration. -/
def Config.integers (c : Config) : List Nat :=
  [c.connection.baudRate.toNat, c.connection.settleDelay.toNat, c.connection.readTimeout.toNat,
    c.streaming.stopTimeout.toNat]

/-- The integers in an outline of a configuration are among its integers. -/
theorem Config.mem_integers_of_mem_data {K : Key → Bool} {n : UInt64}
    (h : Datum.natural n ∈ (c.outlineWith K).data) : n.toNat ∈ c.integers := by
  obtain ⟨k, hk⟩ := Config.mem_data_outlineWith h
  cases k with
  | port | step | feed | manual => cases hk
  | baudRate | settleDelay | readTimeout | stopTimeout =>
    cases hk
    simp [Config.integers]

/-- With small integers, any of its outlines can be written in TOML. -/
theorem Config.isSigned_outlineWith (K : Key → Bool) (h : ∀ n ∈ c.integers, n < 1 <<< 63) :
    Outline.IsSigned (c.outlineWith K) :=
  fun _ hn => h _ (Config.mem_integers_of_mem_data hn)

/-- The outline that is handed over has all integers of the configuration. -/
theorem Config.isSigned_outline_iff :
    c.outline.IsSigned ↔ ∀ n ∈ c.integers, n < 1 <<< 63 := by
  constructor
  · intro h n hn
    have hdata : ∃ m, Datum.natural m ∈ c.outline.data ∧ m.toNat = n := by
      simp only [Config.integers, List.mem_cons, List.not_mem_nil, or_false] at hn
      rcases hn with rfl | rfl | rfl | rfl
      · exact ⟨_, by simp [Outline.data, Config.outline], UInt32.toNat_toUInt64 _⟩
      all_goals exact ⟨_, by simp [Outline.data, Config.outline], rfl⟩
    obtain ⟨m, hm, rfl⟩ := hdata
    exact h m hm
  · exact Config.isSigned_outlineWith fun _ => true

/-! ## Texts -/

/-- The only configurations without a form are those with a large integer, in TOML. -/
theorem Libraries.Writes.write_eq_error_iff (hL : L.Writes) {format : Format} {e : SettingsError} :
    L.write format c = .error e ↔ e = .tomlWrite (L.toml.objection c.outline) ∧ format = .toml ∧
      ∃ n ∈ c.integers, 1 <<< 63 ≤ n := by
  have hplain : c.outline.IsPlain := by
    rw [← c.outlineWith_all]
    exact c.isPlain_outlineWith _
  -- every configuration has a form in JSON; in TOML the integers decide
  cases format with
  | json =>
    obtain ⟨text, htext⟩ := hL.json _ hplain
    simp [Libraries.write, Libraries.of, htext]
  | toml =>
    have hwrites := (hL.toml _ hplain).trans Config.isSigned_outline_iff
    cases htext : L.toml.write? c.outline with
    | some text =>
      have hsmall := hwrites.mp ⟨text, htext⟩
      have hnone : ¬∃ n ∈ c.integers, 1 <<< 63 ≤ n := by
        rintro ⟨n, hn, hlarge⟩
        exact Nat.not_lt_of_le hlarge (hsmall n hn)
      simp only [Libraries.write, Libraries.of, htext, reduceCtorEq, hnone, and_false]
    | none =>
      have hlarge : ∃ n ∈ c.integers, 1 <<< 63 ≤ n := by
        by_contra hnone
        simp only [not_exists, not_and, Nat.not_le] at hnone
        obtain ⟨text, htext'⟩ := hwrites.mpr hnone
        cases htext.symm.trans htext'
      simpa only [Libraries.write, Libraries.of, htext, hlarge, and_true, Except.error.injEq,
        Format.unwritten] using eq_comm

/-- What is written for a configuration tells all its values. -/
theorem Libraries.Lawful.tells_of_write (hL : L.Lawful) {format : Format} {text : String}
    (htext : L.write format c = .ok text)
    (hstep : (L.of format).regained? c.jog.step = some c.jog.step)
    (hfeed : (L.of format).regained? c.jog.feed = some c.jog.feed) :
    (L.of format).Tells c (fun _ => true) text := by
  have hwrite : (L.of format).write? c.outline = some text := by
    unfold Libraries.write at htext
    split at htext
    · rename_i hwrite
      cases htext
      exact hwrite
    · cases htext
  exact (hL.of format).tells_of_write (c.isPlain_outlineWith _) (c.gives_outlineWith _)
    (Library.regains_outlineWith _ hstep hfeed) hwrite

/-- The text for a path is what its format's library writes. -/
theorem Libraries.textFor_eq (hc : c.check = .ok ()) {format : Format} {path : String}
    (hformat : Format.ofPath path = .ok format) : L.textFor c path = L.write format c := by
  rw [Libraries.textFor, hc, hformat]
  rfl

/-! ## Files -/

variable {t t' : Files.Tree} {path : String}

/-- A saved file has the text for its path. -/
theorem Libraries.read_of_save (h : L.save c t path = (.ok (), t')) :
    ∃ text, L.textFor c path = .ok text ∧ t'.read path = .ok (Text.encode text.toList) := by
  unfold Libraries.save at h
  split at h
  · cases h
  · rename_i text htext
    split at h
    · cases h
    · split at h
      · rename_i hwrite
        cases h
        exact ⟨text, htext, Files.Tree.read_of_write hwrite⟩
      · cases h

/-- What keeps the directories from being made is said to be just that. -/
theorem eq_directory_of_makeParents {e : SettingsError}
    (h : makeParents t path = (.error e, t')) : ∃ reason, e = .directory reason := by
  unfold makeParents at h
  split at h
  · cases h
  · rename_i parent _
    dsimp only at h
    generalize t.ensurePath parent = made at h
    obtain ⟨_ | fault, _⟩ := made
    all_goals cases h
    exact ⟨_, rfl⟩

/-- A configuration without a text is not saved, and whatever else fails is said to be something
else. -/
theorem Libraries.save_eq_tomlWrite_iff {reason : String} :
    (L.save c t path).1 = .error (.tomlWrite reason) ↔
      L.textFor c path = .error (.tomlWrite reason) := by
  cases htext : L.textFor c path with
  | error e => simp [Libraries.save, htext]
  | ok text =>
    simp only [Libraries.save, htext]
    split
    · rename_i hmade
      obtain ⟨_, rfl⟩ := eq_directory_of_makeParents hmade
      simp
    · split <;> simp

/-- **What is saved is loaded again as it was**, with any lawful libraries, as long as the library
of the format reads the two doubles back as it writes them; and the only configurations that have
no form in their format are those with an integer from `2 ^ 63` up in TOML. -/
theorem Config.save_load (hL : L.Lawful) (hc : c.check = .ok ()) {format : Format} {path : String}
    (hformat : Format.ofPath path = .ok format) (t : Files.Tree) :
    (∀ t', L.save c t path = (.ok (), t') →
      (L.of format).regained? c.jog.step = some c.jog.step →
      (L.of format).regained? c.jog.feed = some c.jog.feed → L.load t' path = .ok c) ∧
    ((∃ reason, (L.save c t path).1 = .error (.tomlWrite reason)) ↔
      format = .toml ∧ ∃ n ∈ c.integers, 1 <<< 63 ≤ n) := by
  constructor
  · intro t' hsave hstep hfeed
    obtain ⟨text, htext, hread⟩ := Libraries.read_of_save hsave
    rw [Libraries.textFor_eq hc hformat] at htext
    -- all keys are given, so no default takes the place of a value
    rw [← c.only_all]
    exact Libraries.load_of_tells (hL.of format).byName hc hformat hread
      (hL.tells_of_write htext hstep hfeed)
  · simp only [Libraries.save_eq_tomlWrite_iff, Libraries.textFor_eq hc hformat,
      hL.writes.write_eq_error_iff]
    simp

/-- A port where hardly a character can stand in a text as it is. -/
def awkward : Config := { connection := { port := "\"\\\n\x07é" } }

/-- It is saved in a directory that is not there yet. -/
theorem Config.save_load_awkward : (awkward.save {} "d/c.toml").1 = .ok () ∧
    Config.load (awkward.save {} "d/c.toml").2 "d/c.toml" = .ok awkward := by
  have hc : awkward.check = .ok () := Config.check_eq_ok_iff.mpr (by decide +kernel)
  have hsave : (awkward.save {} "d/c.toml").1 = .ok () := by decide +kernel
  have hformat : Format.ofPath "d/c.toml" = .ok .toml := by decide
  have hstep : Toml.library.regained? awkward.jog.step = some awkward.jog.step := rfl
  have hfeed : Toml.library.regained? awkward.jog.feed = some awkward.jog.feed := rfl
  have hload := (Config.save_load Libraries.standard_lawful hc hformat {}).1 _
    (Prod.ext hsave rfl) hstep hfeed
  exact ⟨hsave, hload⟩

end GcodeSender.Settings
