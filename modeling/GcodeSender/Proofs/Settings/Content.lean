import GcodeSender.Proofs.Text.Utf8
import GcodeSender.Settings.File
import Mathlib.Tactic.Common

/-!
# `GcodeSender.Proofs.Settings.Content`: what a document says of a configuration

A document may give some of the values of a configuration and leave out the others, and it may
hold entries that no configuration has. `Shows c K root` says that the entries `root` of a
document give the values of `c` under the keys in `K`, and nothing under the other keys. It asks
only which entries are there, and only of the sections and keys that a configuration knows, so
neither the order of the entries nor unknown ones matter.

* `Shows.ofDocument?`: such a document is read as `c.only K`, which has the defaults under the
  other keys, if the library reads sections by the names of their fields (`ReadsByName`).
* `Config.check_only`: where `c` can be used, so can `c.only K`.

Which library it is does not matter, as long as it has that.
-/

set_option autoImplicit false

namespace GcodeSender.Settings

/-! ## Keys -/

/-- The sections of a configuration. -/
inductive Section where
  | connection
  | streaming
  | jog
deriving DecidableEq

/-- The keys of all sections. -/
inductive Key where
  | port
  | baudRate
  | settleDelay
  | readTimeout
  | stopTimeout
  | step
  | feed
  | manual
deriving DecidableEq

/-- The name that a section has in a file. -/
def Section.name : Section → String
  | .connection => "connection"
  | .streaming => "streaming"
  | .jog => "jog"

/-- The section that a key is in. -/
def Key.section : Key → Section
  | .port | .baudRate | .settleDelay | .readTimeout => .connection
  | .stopTimeout => .streaming
  | .step | .feed | .manual => .jog

/-- The name that a key has in its section. -/
def Key.name : Key → String
  | .port => "port"
  | .baudRate => "baud_rate"
  | .settleDelay => "settle_delay_ms"
  | .readTimeout => "read_timeout_ms"
  | .stopTimeout => "stop_join_timeout_ms"
  | .step => "step_mm"
  | .feed => "feed_rate"
  | .manual => "manual_protocol"

/-- The values that a key can have. -/
def Key.Values : Key → Type
  | .port => String
  | .baudRate => UInt32
  | .settleDelay | .readTimeout | .stopTimeout => UInt64
  | .step | .feed => Float
  | .manual => Bool

/-- The value that a configuration has under a key. -/
def Config.get (c : Config) : (k : Key) → k.Values
  | .port => c.connection.port
  | .baudRate => c.connection.baudRate
  | .settleDelay => c.connection.settleDelay
  | .readTimeout => c.connection.readTimeout
  | .stopTimeout => c.streaming.stopTimeout
  | .step => c.jog.step
  | .feed => c.jog.feed
  | .manual => c.jog.manual

/-- The configuration that has given values under the keys. -/
def Config.ofValues (value : (k : Key) → k.Values) : Config where
  connection := ⟨value .port, value .baudRate, value .settleDelay, value .readTimeout⟩
  streaming := ⟨value .stopTimeout⟩
  jog := ⟨value .step, value .feed, value .manual⟩

/-- The configuration that has the values of `c` under the keys in `K`, and the defaults under the
others. -/
def Config.only (c : Config) (K : Key → Bool) : Config :=
  .ofValues fun k => if K k then c.get k else ({} : Config).get k

/-- A configuration has the values that it is made of. -/
@[simp] theorem Config.get_ofValues (value : (k : Key) → k.Values) (k : Key) :
    (Config.ofValues value).get k = value k := by
  cases k <;> rfl

/-- With the values under all keys a configuration is the same. -/
theorem Config.only_all (c : Config) : (c.only fun _ => true) = c := rfl

/-! ## Configurations that can be used -/

/-- A configuration can be used just if its port has a name, its rate and its times are not zero,
and its step and its feed are positive. -/
theorem Config.check_eq_ok_iff {c : Config} : c.check = .ok () ↔
    Text.trim c.connection.port.toList ≠ [] ∧ c.connection.baudRate ≠ 0 ∧
      c.connection.readTimeout ≠ 0 ∧ c.streaming.stopTimeout ≠ 0 ∧
      isPositive c.jog.step = true ∧ isPositive c.jog.feed = true := by
  have hcheck : c.check = .ok () ↔ c.firstFault? = none := by
    rw [Config.check]
    cases c.firstFault? <;> simp
  simp only [hcheck, Config.firstFault?, ite_eq_iff, reduceCtorEq, and_false, and_true, false_or,
    Bool.not_eq_true', Bool.not_eq_false]

/-- The defaults can be used. -/
theorem Config.check_default : ({} : Config).check = .ok () := by
  rw [Config.check_eq_ok_iff]
  decide +kernel

/-- A configuration that can be used still can with defaults under some keys, since each condition
is on the value of one key. -/
theorem Config.check_only {c : Config} (hc : c.check = .ok ()) (K : Key → Bool) :
    (c.only K).check = .ok () := by
  have hdefault := Config.check_eq_ok_iff.mp Config.check_default
  rw [Config.check_eq_ok_iff] at hc ⊢
  have hpick (k : Key) (P : k.Values → Prop) (hown : P (c.get k))
      (hdefault : P (({} : Config).get k)) : P ((c.only K).get k) := by
    rw [Config.only, Config.get_ofValues]
    split
    · exact hown
    · exact hdefault
  -- each condition is on the value of one key, and both configurations meet it
  obtain ⟨hport, hbaudRate, hreadTimeout, hstopTimeout, hstep, hfeed⟩ := hc
  obtain ⟨hport', hbaudRate', hreadTimeout', hstopTimeout', hstep', hfeed'⟩ := hdefault
  exact ⟨hpick .port (fun port => Text.trim (String.toList port) ≠ []) hport hport',
    hpick .baudRate (· ≠ (0 : UInt32)) hbaudRate hbaudRate',
    hpick .readTimeout (· ≠ (0 : UInt64)) hreadTimeout hreadTimeout',
    hpick .stopTimeout (· ≠ (0 : UInt64)) hstopTimeout hstopTimeout',
    hpick .step (isPositive · = true) hstep hstep', hpick .feed (isPositive · = true) hfeed hfeed'⟩

/-! ## What a document gives -/

section
variable {V : Type}

/-- A value that is found is there. -/
theorem mem_of_lookup {key : String} {v : V} {entries : List (String × V)}
    (h : entries.lookup key = some v) : (key, v) ∈ entries := by
  obtain ⟨before, after, rfl, -⟩ := List.lookup_eq_some_iff.mp h
  exact List.mem_append_right _ List.mem_cons_self

/-- The only entry under a key is the one that is found. -/
theorem lookup_of_count {key : String} {v : V} {entries : List (String × V)}
    (hmem : (key, v) ∈ entries) (hcount : (entries.map Prod.fst).count key ≤ 1) :
    entries.lookup key = some v := by
  obtain ⟨before, after, rfl⟩ := List.append_of_mem hmem
  refine List.lookup_eq_some_iff.mpr ⟨before, after, rfl, fun entry hentry => ?_⟩
  rw [bne_iff_ne]
  rintro rfl
  have hbefore : 0 < (before.map Prod.fst).count entry.1 :=
    List.count_pos_iff.mpr (List.mem_map_of_mem hentry)
  rw [List.map_append, List.map_cons, List.count_append, List.count_cons_self] at hcount
  omega

/-- Reads a value as the key wants it. -/
def Key.read? [Document V] : (k : Key) → V → Option k.Values
  | .port => Document.text?
  | .baudRate => word?
  | .settleDelay | .readTimeout | .stopTimeout => long?
  | .step | .feed => Document.real?
  | .manual => Document.truth?

end

/-- A table of a library's document is a section where none of the fields is given twice: the
fields are found by their names, and what has another name is passed over. -/
def Library.ReadsByName (l : Library) : Prop :=
  ∀ (names : List String) (v : l.Value) (entries : List (String × l.Value)),
    l.table? v = some entries → (∀ name ∈ names, (entries.map Prod.fst).count name ≤ 1) →
      Document.fields? names v = some (names.map fun name => entries.lookup name)

section
variable {l : Library} {c : Config} {K : Key → Bool} {root : List (String × l.Value)}

/-- Among the entries of a document there is a value under a key. -/
def Holds (root : List (String × l.Value)) (k : Key) (v : l.Value) : Prop :=
  ∃ table entries, (k.section.name, table) ∈ root ∧ l.table? table = some entries ∧
    (k.name, v) ∈ entries

/-- The entries of a document give the values of `c` under the keys in `K`, and nothing under the
other keys. A section that is there is a table; no section is there twice, and no key. -/
structure Shows (c : Config) (K : Key → Bool) (root : List (String × l.Value)) : Prop where
  sections : ∀ s : Section, (root.map Prod.fst).count s.name ≤ 1
  tables : ∀ (s : Section) (table : l.Value), (s.name, table) ∈ root →
    ∃ entries, l.table? table = some entries ∧
      ∀ k : Key, k.section = s → (entries.map Prod.fst).count k.name ≤ 1
  given : ∀ k, K k = true → ∃ v, Holds root k v ∧ k.read? v = some (c.get k)
  absent : ∀ k, K k = false → ∀ v, ¬Holds root k v

namespace Shows

/-- In a section that is missing, no value is given. -/
theorem eq_false_of_lookup (h : Shows c K root) {k : Key}
    (hnone : root.lookup k.section.name = none) : K k = false := by
  cases hk : K k with
  | false => rfl
  | true =>
    obtain ⟨v, ⟨table, entries, htable, -⟩, -⟩ := h.given k hk
    cases hnone.symm.trans (lookup_of_count htable (h.sections _))

/-- A field of a section that is there has the value of `c` or its default. -/
theorem readOr_field (h : Shows c K root) (k : Key) {table : l.Value}
    {entries : List (String × l.Value)}
    (htable : root.lookup k.section.name = some table)
    (hentries : l.table? table = some entries) :
    readOr (({} : Config).get k) k.read? (entries.lookup k.name) = some ((c.only K).get k) := by
  obtain ⟨_, hentries', honce⟩ := h.tables _ _ (mem_of_lookup htable)
  cases hentries.symm.trans hentries'
  rw [Config.only, Config.get_ofValues]
  cases hk : K k with
  | false =>
    have hfield : entries.lookup k.name = none := by
      rw [Option.eq_none_iff_forall_ne_some]
      intro v hv
      exact h.absent k hk v ⟨table, entries, mem_of_lookup htable, hentries, mem_of_lookup hv⟩
    rw [hfield]
    rfl
  | true =>
    obtain ⟨v, ⟨table', entries', htable', hentries', hv⟩, hread⟩ := h.given k hk
    -- the section is there only once, so the value stands in the table that was found
    cases htable.symm.trans (lookup_of_count htable' (h.sections _))
    cases hentries.symm.trans hentries'
    rw [lookup_of_count hv (honce k rfl)]
    exact hread

/-- The fields of a section that is there. -/
theorem fields?_eq (hl : l.ReadsByName) (h : Shows c K root) {s : Section} {table : l.Value}
    {entries : List (String × l.Value)}
    (htable : root.lookup s.name = some table)
    (hentries : l.table? table = some entries) (keys : List Key)
    (hkeys : ∀ k ∈ keys, k.section = s) :
    Document.fields? (keys.map Key.name) table =
      some (keys.map fun k => entries.lookup k.name) := by
  obtain ⟨_, hentries', honce⟩ := h.tables _ _ (mem_of_lookup htable)
  cases hentries.symm.trans hentries'
  rw [hl _ _ _ hentries, List.map_map]
  · rfl
  · intro name hname
    obtain ⟨k, hk, rfl⟩ := List.mem_map.mp hname
    exact honce k (hkeys k hk)

/-- The section of the connection as it is read. -/
theorem readOr_connection (hl : l.ReadsByName) (h : Shows c K root) :
    readOr {} ConnectionSettings.ofDocument? (root.lookup "connection") =
      some (c.only K).connection := by
  cases htable : root.lookup "connection" with
  -- without the section none of its keys is given, and all of it stays at its defaults
  | none =>
    have hport : K .port = false := h.eq_false_of_lookup htable
    have hbaudRate : K .baudRate = false := h.eq_false_of_lookup htable
    have hsettleDelay : K .settleDelay = false := h.eq_false_of_lookup htable
    have hreadTimeout : K .readTimeout = false := h.eq_false_of_lookup htable
    simp only [Config.only, Config.ofValues, hport, hbaudRate, hsettleDelay, hreadTimeout]
    rfl
  | some table =>
    -- with it, each field is read by its name
    obtain ⟨entries, hentries, -⟩ := h.tables .connection _ (mem_of_lookup htable)
    have hfields := fields?_eq hl h (s := .connection) htable hentries
      [.port, .baudRate, .settleDelay, .readTimeout] (by decide)
    have hport : readOr ({} : ConnectionSettings).port Document.text? (entries.lookup "port") =
        some (c.only K).connection.port := h.readOr_field .port htable hentries
    have hbaudRate : readOr ({} : ConnectionSettings).baudRate word?
        (entries.lookup "baud_rate") = some (c.only K).connection.baudRate :=
      h.readOr_field .baudRate htable hentries
    have hsettleDelay : readOr ({} : ConnectionSettings).settleDelay long?
        (entries.lookup "settle_delay_ms") = some (c.only K).connection.settleDelay :=
      h.readOr_field .settleDelay htable hentries
    have hreadTimeout : readOr ({} : ConnectionSettings).readTimeout long?
        (entries.lookup "read_timeout_ms") = some (c.only K).connection.readTimeout :=
      h.readOr_field .readTimeout htable hentries
    simp only [List.map_cons, List.map_nil, Key.name] at hfields
    rw [readOr, ConnectionSettings.ofDocument?, hfields]
    simp only [hport, hbaudRate, hsettleDelay, hreadTimeout, Option.bind_eq_bind, Option.bind_some]

/-- The section of streaming as it is read. -/
theorem readOr_streaming (hl : l.ReadsByName) (h : Shows c K root) :
    readOr {} StreamingSettings.ofDocument? (root.lookup "streaming") =
      some (c.only K).streaming := by
  cases htable : root.lookup "streaming" with
  | none =>
    -- without the section its only key is not given
    have hstopTimeout : K .stopTimeout = false := h.eq_false_of_lookup htable
    simp only [Config.only, Config.ofValues, hstopTimeout]
    rfl
  | some table =>
    obtain ⟨entries, hentries, -⟩ := h.tables .streaming _ (mem_of_lookup htable)
    -- with it, the field is read by its name
    have hfields := fields?_eq hl h (s := .streaming) htable hentries [.stopTimeout] (by decide)
    have hstopTimeout : readOr ({} : StreamingSettings).stopTimeout long?
        (entries.lookup "stop_join_timeout_ms") = some (c.only K).streaming.stopTimeout :=
      h.readOr_field .stopTimeout htable hentries
    simp only [List.map_cons, List.map_nil, Key.name] at hfields
    rw [readOr, StreamingSettings.ofDocument?, hfields]
    simp only [hstopTimeout, Option.bind_eq_bind, Option.bind_some]

/-- The section of jogging as it is read. -/
theorem readOr_jog (hl : l.ReadsByName) (h : Shows c K root) :
    readOr {} JogSettings.ofDocument? (root.lookup "jog") = some (c.only K).jog := by
  cases htable : root.lookup "jog" with
  -- without the section all of it stays at its defaults
  | none =>
    have hstep : K .step = false := h.eq_false_of_lookup htable
    have hfeed : K .feed = false := h.eq_false_of_lookup htable
    have hmanual : K .manual = false := h.eq_false_of_lookup htable
    simp only [Config.only, Config.ofValues, hstep, hfeed, hmanual]
    rfl
  | some table =>
    obtain ⟨entries, hentries, -⟩ := h.tables .jog _ (mem_of_lookup htable)
    have hfields := fields?_eq hl h (s := .jog) htable hentries [.step, .feed, .manual] (by decide)
    have hstep : readOr ({} : JogSettings).step Document.real? (entries.lookup "step_mm") =
        some (c.only K).jog.step := h.readOr_field .step htable hentries
    have hfeed : readOr ({} : JogSettings).feed Document.real? (entries.lookup "feed_rate") =
        some (c.only K).jog.feed := h.readOr_field .feed htable hentries
    have hmanual : readOr ({} : JogSettings).manual Document.truth?
        (entries.lookup "manual_protocol") = some (c.only K).jog.manual :=
      h.readOr_field .manual htable hentries
    simp only [List.map_cons, List.map_nil, Key.name] at hfields
    rw [readOr, JogSettings.ofDocument?, hfields]
    simp only [hstep, hfeed, hmanual, Option.bind_eq_bind, Option.bind_some]

/-- Missing keys are defaults, and what no configuration has is passed over. -/
theorem ofDocument? (hl : l.ReadsByName) (h : Shows c K root) {v : l.Value}
    (hroot : l.table? v = some root) :
    Config.ofDocument? v = some (c.only K) := by
  have hsections : Document.fields? ["connection", "streaming", "jog"] v =
      some [root.lookup "connection", root.lookup "streaming", root.lookup "jog"] := by
    refine hl _ _ _ hroot ?_
    simpa using ⟨h.sections .connection, h.sections .streaming, h.sections .jog⟩
  rw [Config.ofDocument?, hsections]
  simp only [readOr_connection hl h, readOr_streaming hl h, readOr_jog hl h, Option.bind_eq_bind,
    Option.bind_some]

end Shows

end

/-! ## All sections and keys -/

/-- All sections, in the order of a file. -/
def Section.all : List Section := [.connection, .streaming, .jog]

/-- The keys of a section, in the order of a file. -/
def Section.keys : Section → List Key
  | .connection => [.port, .baudRate, .settleDelay, .readTimeout]
  | .streaming => [.stopTimeout]
  | .jog => [.step, .feed, .manual]

/-- No section is left out. -/
theorem Section.mem_all (s : Section) : s ∈ Section.all := by
  cases s <;> decide

/-- No two sections have one name. -/
theorem Section.nodup_all : (Section.all.map Section.name).Nodup := by decide

/-- A key is one of its section. -/
theorem Key.mem_keys (k : Key) : k ∈ k.section.keys := by
  cases k <;> decide

/-- No two keys of a section have one name. -/
theorem Section.nodup_keys (s : Section) : (s.keys.map Key.name).Nodup := by
  cases s <;> decide

/-- No two keys have one name. -/
theorem Key.eq_of_name {k k' : Key} (h : k.name = k'.name) : k = k' := by
  revert h
  cases k <;> cases k' <;> decide

/-! ## Files -/

/-- A text is a document of a library that gives the values of `c` under the keys in `K`, and
nothing under the other keys. -/
def Library.Tells (l : Library) (c : Config) (K : Key → Bool) (text : String) : Prop :=
  ∃ document root, l.read? text = some document ∧ l.table? document = some root ∧ Shows c K root

variable {L : Libraries} {t : Files.Tree} {path : String}

/-- Such a text is read as the configuration that it tells. -/
theorem Libraries.read_of_tells {format : Format} {c : Config} {K : Key → Bool} {text : String}
    (hl : (L.of format).ReadsByName) (h : (L.of format).Tells c K text) :
    L.read format text = .ok (c.only K) := by
  obtain ⟨document, root, hread, hroot, hshows⟩ := h
  have hconfig : (L.of format).config? text = some (c.only K) := by
    rw [Library.config?, hread]
    exact hshows.ofDocument? hl hroot
  rw [Libraries.read, hconfig]

/-- What is loaded has come from a text of the format that the path names, and passed the check. -/
theorem Libraries.load_eq_ok_iff {c : Config} :
    L.load t path = .ok c ↔ ∃ format text, Format.ofPath path = .ok format ∧
      readText t path = .ok text ∧ L.read format text = .ok c ∧ c.check = .ok () := by
  simp only [Libraries.load, bind, Except.bind]
  grind

/-- The text of a file that holds an encoded text. -/
theorem readText_eq {text : String} (h : t.read path = .ok (Text.encode text.toList)) :
    readText t path = .ok text := by
  simp [readText, h, Text.decode_eq_ok_iff.mpr rfl]

/-- A file with such a text loads. -/
theorem Libraries.load_of_tells {format : Format} {c : Config} {K : Key → Bool} {text : String}
    (hl : (L.of format).ReadsByName) (hc : c.check = .ok ())
    (hformat : Format.ofPath path = .ok format)
    (htext : t.read path = .ok (Text.encode text.toList)) (h : (L.of format).Tells c K text) :
    L.load t path = .ok (c.only K) :=
  Libraries.load_eq_ok_iff.mpr ⟨format, text, hformat, readText_eq htext,
    Libraries.read_of_tells hl h, Config.check_only hc K⟩

end GcodeSender.Settings
