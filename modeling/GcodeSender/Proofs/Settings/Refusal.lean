import GcodeSender.Proofs.Files.Extension
import GcodeSender.Proofs.Settings.RoundTrip

/-!
# `GcodeSender.Proofs.Settings.Refusal`: a refused save leaves the files alone

A save can fail for what the configuration and the path are, or for what the file system does.
`SettingsError.isRefusal` tells the two apart. The first kind is found before the first directory
is made, so `Config.refused_save` says that it leaves the tree as it was, and when it comes about.

`Libraries.Refuses` has the reasons in the order in which they count: a value that cannot be
used, of which the first one is named (`Config.check_eq_error_iff`); an extension that names no
format (`Format.ofPath_eq_error_iff`); and an integer that the format cannot hold.
-/

set_option autoImplicit false

namespace GcodeSender.Settings

/-! ## The format of a path -/

/-- The extension of a format's files. -/
def Format.extension : Format → String
  | .json => "json"
  | .toml => "toml"

/-- A path has a format just if it ends in the extension of the format. -/
theorem Format.ofPath_eq_ok_iff {format : Format} {path : String} :
    Format.ofPath path = .ok format ↔ Files.HasExtension path format.extension := by
  rw [← Files.extension?_eq_some_iff (by cases format <;> decide)]
  unfold Format.ofPath
  split <;> cases format <;> simp_all [Format.extension]

/-- A path with another extension, or none, is refused with an error that names it. -/
theorem Format.ofPath_eq_error_iff {path : String} {e : SettingsError} :
    Format.ofPath path = .error e ↔
      ¬Files.HasExtension path "json" ∧ ¬Files.HasExtension path "toml" ∧
        e = .unsupportedFormat ((Files.extension? path).getD "none") := by
  rw [← Files.extension?_eq_some_iff (by decide), ← Files.extension?_eq_some_iff (by decide)]
  unfold Format.ofPath
  split
  · simp_all
  · simp_all
  · rename_i hjson htoml
    -- any other extension, or none
    rw [Except.error.injEq]
    exact ⟨fun h => ⟨hjson, htoml, h.symm⟩, fun h => h.2.2.symm⟩

/-! ## Values that cannot be used -/

/-- All keys, in the order of their sections. -/
def Key.all : List Key := Section.all.flatMap Section.keys

/-- A key with the name of its section. -/
def Key.path (k : Key) : String := k.section.name ++ "." ++ k.name

/-- The value under a key can be used. -/
def Config.CanUse (c : Config) : Key → Prop
  | .port => Text.trim c.connection.port.toList ≠ []
  | .baudRate => c.connection.baudRate ≠ 0
  | .readTimeout => c.connection.readTimeout ≠ 0
  | .stopTimeout => c.streaming.stopTimeout ≠ 0
  | .step => isPositive c.jog.step = true
  | .feed => isPositive c.jog.feed = true
  | .settleDelay | .manual => True

instance (c : Config) : (k : Key) → Decidable (c.CanUse k)
  | .port => inferInstanceAs (Decidable (Text.trim c.connection.port.toList ≠ []))
  | .baudRate => inferInstanceAs (Decidable (c.connection.baudRate ≠ 0))
  | .readTimeout => inferInstanceAs (Decidable (c.connection.readTimeout ≠ 0))
  | .stopTimeout => inferInstanceAs (Decidable (c.streaming.stopTimeout ≠ 0))
  | .step => inferInstanceAs (Decidable (isPositive c.jog.step = true))
  | .feed => inferInstanceAs (Decidable (isPositive c.jog.feed = true))
  | .settleDelay | .manual => inferInstanceAs (Decidable True)

/-- The value under a key as it stands in a message. -/
def Config.valueText (c : Config) : Key → String
  | .port => c.connection.port
  | .baudRate => toString c.connection.baudRate.toNat
  | .settleDelay => toString c.connection.settleDelay.toNat
  | .readTimeout => toString c.connection.readTimeout.toNat
  | .stopTimeout => toString c.streaming.stopTimeout.toNat
  | .step => Decimal.plain c.jog.step
  | .feed => Decimal.plain c.jog.feed
  | .manual => toString c.jog.manual

/-- The error that says that the value under a key cannot be used. -/
def Config.faultAt (c : Config) (k : Key) : SettingsError :=
  if k = .port then .invalid k.path "must not be empty" else .outOfRange k.path (c.valueText k)

/-- What is wrong with the value under a key, if anything is. -/
def Config.faultAt? (c : Config) (k : Key) : Option SettingsError :=
  if c.CanUse k then none else some (c.faultAt k)

/-- The first fault of a list of keys is at its first key, unless the value there can be used. -/
theorem Config.findSome?_faultAt?_cons (c : Config) (k : Key) (keys : List Key) :
    (k :: keys).findSome? c.faultAt? =
      if c.CanUse k then keys.findSome? c.faultAt? else some (c.faultAt k) := by
  rw [List.findSome?_cons, Config.faultAt?]
  split_ifs <;> rfl

/-- The values are looked at in the order of the keys. -/
theorem Config.firstFault?_eq (c : Config) : c.firstFault? = Key.all.findSome? c.faultAt? := by
  have hall : Key.all = [.port, .baudRate, .settleDelay, .readTimeout, .stopTimeout, .step, .feed,
    .manual] := rfl
  rw [hall]
  simp only [Config.findSome?_faultAt?_cons, List.findSome?_nil, Config.CanUse, ite_true, ne_eq,
    ite_not, Config.firstFault?, Bool.not_eq_true', ← Bool.not_eq_true]
  rfl

/-- The first key with a value that cannot be used is the one that is named. -/
theorem Config.check_eq_error_iff {c : Config} {e : SettingsError} : c.check = .error e ↔
    ∃ before k after, Key.all = before ++ k :: after ∧ (¬c.CanUse k ∧ e = c.faultAt k) ∧
      ∀ earlier ∈ before, c.CanUse earlier := by
  have hcheck : c.check = .error e ↔ c.firstFault? = some e := by
    rw [Config.check]
    cases c.firstFault? <;> simp
  have hfault (k : Key) : c.faultAt? k = some e ↔ ¬c.CanUse k ∧ e = c.faultAt k := by
    rw [Config.faultAt?]
    split_ifs with hk
    · simp [hk]
    · simp [hk, eq_comm]
  have hnone (k : Key) : c.faultAt? k = none ↔ c.CanUse k := by simp [Config.faultAt?]
  simp only [hcheck, Config.firstFault?_eq, List.findSome?_eq_some_iff, hfault, hnone]

/-- A configuration can be used just if each of its values can. -/
theorem Config.check_eq_ok_iff_forall {c : Config} : c.check = .ok () ↔ ∀ k, c.CanUse k := by
  rw [Config.check_eq_ok_iff]
  constructor
  · rintro ⟨hport, hbaudRate, hreadTimeout, hstopTimeout, hstep, hfeed⟩ k
    -- the six checks of `check`, key by key; the other two keys take any value
    cases k with
    | port => exact hport
    | baudRate => exact hbaudRate
    | readTimeout => exact hreadTimeout
    | stopTimeout => exact hstopTimeout
    | step => exact hstep
    | feed => exact hfeed
    | settleDelay | manual => trivial
  · intro h
    exact ⟨h .port, h .baudRate, h .readTimeout, h .stopTimeout, h .step, h .feed⟩

/-! ## Refusals -/

/-- The error says that the configuration cannot be saved under the path, whatever the file system
holds. -/
def SettingsError.isRefusal : SettingsError → Bool
  | .invalid _ _ | .outOfRange _ _ | .unsupportedFormat _ | .tomlWrite _ => true
  | .load _ | .save _ | .directory _ | .io _ | .json _ | .toml _ => false

/-- Why a configuration cannot be saved under a path, and the error that says so. A reason counts
only where none of those before it applies. -/
inductive Libraries.Refuses (L : Libraries) (c : Config) (path : String) :
    SettingsError → Prop where
  /-- A value cannot be used. The first of them is named. -/
  | value {before after : List Key} {k : Key} (hkeys : Key.all = before ++ k :: after)
      (hbefore : ∀ earlier ∈ before, c.CanUse earlier) (hk : ¬c.CanUse k) :
      L.Refuses c path (c.faultAt k)
  /-- The extension of the path names no format. -/
  | extension (hc : ∀ k, c.CanUse k) (hjson : ¬Files.HasExtension path "json")
      (htoml : ¬Files.HasExtension path "toml") :
      L.Refuses c path (.unsupportedFormat ((Files.extension? path).getD "none"))
  /-- An integer is too large for TOML, which has none above `2 ^ 63 - 1`. What the library says
  of it stands in the error. -/
  | integer (hc : ∀ k, c.CanUse k) (htoml : Files.HasExtension path "toml")
      (hlarge : ∃ n ∈ c.integers, 1 <<< 63 ≤ n) :
      L.Refuses c path (.tomlWrite (L.toml.objection c.outline))

variable {L : Libraries} {c : Config} {t : Files.Tree} {path : String} {e : SettingsError}

/-- The reasons have the errors of refusals. -/
theorem Libraries.Refuses.isRefusal (h : L.Refuses c path e) : e.isRefusal = true := by
  cases h with
  | value =>
    unfold Config.faultAt
    split <;> rfl
  | extension | integer => rfl

/-- There is a reason if one of the three things is wrong, whichever comes first. -/
theorem Libraries.exists_refuses_iff : (∃ e, L.Refuses c path e) ↔
    c.check ≠ .ok () ∨ (¬Files.HasExtension path "json" ∧ ¬Files.HasExtension path "toml") ∨
      Files.HasExtension path "toml" ∧ ∃ n ∈ c.integers, 1 <<< 63 ≤ n := by
  constructor
  · rintro ⟨e, h⟩
    cases h with
    | value hkeys hbefore hk =>
      left
      rw [ne_eq, Config.check_eq_ok_iff_forall]
      exact fun hc => hk (hc _)
    | extension hc hjson htoml => exact .inr (.inl ⟨hjson, htoml⟩)
    | integer hc htoml hlarge => exact .inr (.inr ⟨htoml, hlarge⟩)
  -- the checks are made in this order, so the first that fails is the reason
  · intro h
    cases hcheck : c.check with
    | error e =>
      obtain ⟨before, k, after, hkeys, ⟨hk, rfl⟩, hbefore⟩ := Config.check_eq_error_iff.mp hcheck
      exact ⟨_, .value hkeys hbefore hk⟩
    | ok _ =>
      have hc := Config.check_eq_ok_iff_forall.mp hcheck
      obtain hinvalid | ⟨hjson, htoml⟩ | ⟨htoml, hlarge⟩ := h
      · exact absurd hcheck hinvalid
      · exact ⟨_, .extension hc hjson htoml⟩
      · exact ⟨_, .integer hc htoml hlarge⟩

/-- The three steps on the way to a text can fail, each after the ones before it. -/
theorem Libraries.textFor_eq_error_iff : L.textFor c path = .error e ↔
    c.check = .error e ∨ c.check = .ok () ∧ (Format.ofPath path = .error e ∨
      ∃ format, Format.ofPath path = .ok format ∧ L.write format c = .error e) := by
  cases hcheck : c.check with
  | error fault => simp [Libraries.textFor, bind, Except.bind, hcheck]
  | ok _ =>
    cases hformat : Format.ofPath path with
    | error fault => simp [Libraries.textFor, bind, Except.bind, hcheck, hformat]
    | ok format => simp [Libraries.textFor, bind, Except.bind, hcheck, hformat]

/-- There is no text for a path exactly where the configuration is refused there. -/
theorem Libraries.Writes.refuses_iff (hL : L.Writes) :
    L.Refuses c path e ↔ L.textFor c path = .error e := by
  rw [Libraries.textFor_eq_error_iff]
  constructor
  · intro h
    cases h with
    | value hkeys hbefore hk =>
      exact .inl (Config.check_eq_error_iff.mpr ⟨_, _, _, hkeys, ⟨hk, rfl⟩, hbefore⟩)
    | extension hc hjson htoml =>
      have hformat := Format.ofPath_eq_error_iff.mpr ⟨hjson, htoml, rfl⟩
      exact .inr ⟨Config.check_eq_ok_iff_forall.mpr hc, .inl hformat⟩
    | integer hc htoml hlarge =>
      have hformat : Format.ofPath path = .ok .toml := Format.ofPath_eq_ok_iff.mpr htoml
      have hwrite := hL.write_eq_error_iff.mpr ⟨rfl, rfl, hlarge⟩
      exact .inr ⟨Config.check_eq_ok_iff_forall.mpr hc, .inr ⟨_, hformat, hwrite⟩⟩
  -- each step that fails has an earlier one that did not
  · rintro (hcheck | ⟨hcheck, hformat | ⟨format, hformat, hwrite⟩⟩)
    · obtain ⟨before, k, after, hkeys, ⟨hk, rfl⟩, hbefore⟩ := Config.check_eq_error_iff.mp hcheck
      exact .value hkeys hbefore hk
    · obtain ⟨hjson, htoml, rfl⟩ := Format.ofPath_eq_error_iff.mp hformat
      exact .extension (Config.check_eq_ok_iff_forall.mp hcheck) hjson htoml
    · obtain ⟨rfl, rfl, hlarge⟩ := hL.write_eq_error_iff.mp hwrite
      exact .integer (Config.check_eq_ok_iff_forall.mp hcheck) (Format.ofPath_eq_ok_iff.mp hformat)
        hlarge

/-- Without a text nothing is done. -/
theorem Libraries.save_of_textFor_error (h : L.textFor c path = .error e) (t : Files.Tree) :
    L.save c t path = (.error e, t) := by
  rw [Libraries.save, h]

/-- With a text, only the file system can be at fault. -/
theorem Libraries.isRefusal_of_save {text : String} (h : L.textFor c path = .ok text)
    (hsave : (L.save c t path).1 = .error e) : e.isRefusal = false := by
  simp only [Libraries.save, h] at hsave
  split at hsave
  · rename_i hmade
    obtain ⟨reason, rfl⟩ := eq_directory_of_makeParents hmade
    cases hsave
    rfl
  · split at hsave
    · cases hsave
    · cases hsave
      rfl

/-- A save is refused for just these reasons. -/
theorem Libraries.Writes.save_eq_refusal_iff (hL : L.Writes) :
    (L.save c t path).1 = .error e ∧ e.isRefusal = true ↔ L.Refuses c path e := by
  constructor
  · rintro ⟨hsave, hrefusal⟩
    -- with a text the save gets as far as the file system, whose errors are no refusals
    cases htext : L.textFor c path with
    | error fault =>
      rw [Libraries.save_of_textFor_error htext] at hsave
      cases hsave
      exact hL.refuses_iff.mpr htext
    | ok text =>
      rw [Libraries.isRefusal_of_save htext hsave] at hrefusal
      cases hrefusal
  · intro h
    rw [Libraries.save_of_textFor_error (hL.refuses_iff.mp h)]
    exact ⟨rfl, h.isRefusal⟩

/-- **A refused save does not touch the file system.** Where a save fails because a value cannot be
used, the extension names no format or an integer has no form in TOML, the tree is as it was: no
directory was made, and every file has its content. A save fails so exactly where one of these is
the case, and the first of them decides the error. -/
theorem Config.refused_save (hL : L.Writes) (c : Config) (t : Files.Tree) (path : String) :
    (∀ e, (L.save c t path).1 = .error e → e.isRefusal = true → (L.save c t path).2 = t) ∧
    ((∃ e, (L.save c t path).1 = .error e ∧ e.isRefusal = true) ↔
      c.check ≠ .ok () ∨ (¬Files.HasExtension path "json" ∧ ¬Files.HasExtension path "toml") ∨
        Files.HasExtension path "toml" ∧ ∃ n ∈ c.integers, 1 <<< 63 ≤ n) ∧
    ∀ e, (L.save c t path).1 = .error e ∧ e.isRefusal = true ↔ L.Refuses c path e := by
  refine ⟨?_, ?_, ?_⟩
  · intro e hsave hrefusal
    have hrefuses := hL.save_eq_refusal_iff.mp ⟨hsave, hrefusal⟩
    rw [Libraries.save_of_textFor_error (hL.refuses_iff.mp hrefuses)]
  · simp only [hL.save_eq_refusal_iff]
    exact Libraries.exists_refuses_iff
  · intro e
    exact hL.save_eq_refusal_iff

-- A step that is no number counts before the extension. Nothing is made above the file.
example : let c : Config := { jog := { step := 0 / 0 } }
    c.save {} "d/c.yaml" = (.error (.outOfRange "jog.step_mm" "NaN"), {}) := by
  decide +kernel

/-- A delay of `2 ^ 63` milliseconds. -/
def endless : Config := { connection := { settleDelay := 0x8000000000000000 } }

/-- A configuration is in the file already. -/
def inUse : Files.Tree :=
  { entries := [(["c.toml"], .file (Text.encode "[jog]\nfeed_rate = 250.0\n".toList))] }

/-- The file that is there is kept. -/
theorem Config.refused_save_overExisting :
    endless.save inUse "c.toml" = (.error (.tomlWrite ""), inUse) := by
  have hc : endless.check = .ok () := Config.check_eq_ok_iff.mpr (by decide +kernel)
  have htoml : Files.HasExtension "c.toml" "toml" := ⟨"c", by decide, by decide⟩
  have hlarge : ∃ n ∈ endless.integers, 1 <<< 63 ≤ n := by decide
  obtain ⟨hunchanged, -, hdecides⟩ :=
    Config.refused_save Libraries.standard_lawful.writes endless inUse "c.toml"
  have hrefused := (hdecides _).mpr
    (.integer (Config.check_eq_ok_iff_forall.mp hc) htoml hlarge)
  exact Prod.ext hrefused.1 (hunchanged _ hrefused.1 hrefused.2)

end GcodeSender.Settings
