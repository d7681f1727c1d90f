import GcodeSender.Proofs.Settings.Content
import Mathlib.Data.List.Forall2

/-!
# `GcodeSender.Proofs.Settings.Laws`: what is assumed of a format's library

The libraries for the two formats are no part of the program, and the theorems about saved and
loaded configurations hold for any that do what their documentation says. `Library.Lawful` has
this for one library:

* `byName`: the fields of a section are found by their names, and unknown ones are passed over;
* `readsBack`: what it has written it reads back, section by section and field by field.

`Libraries.Writes` says which documents have no form: none in JSON, and in TOML those with an
integer that a signed integer of 64 bits cannot hold. Of doubles nothing is assumed, except where
a theorem asks for `regained?` by name.

The laws speak of outlines, not of configurations: which sections there are, which names and
values a configuration gives them, and which of them it reads again, is the program's own doing.
`Outline.Gives c K o` says that an outline has the values of `c` under the keys in `K`; its order
is free, and so is what else it has. `Library.tells_of_write` is what the laws are for: a text
that a library writes for such an outline tells the values in `K`.
-/

set_option autoImplicit false

namespace GcodeSender.Settings

/-! ## Outlines -/

/-- A name that any format can write as it is: lower-case letters and underscores. -/
def isPlainName (name : String) : Bool :=
  name.toList ≠ [] && name.toList.all fun c => c.isLower || c = '_'

/-- The values in an outline. -/
def Outline.data (o : Outline) : List Datum := o.flatMap fun s => s.2.map Prod.snd

/-- An outline that has plain names, and none of them twice in one place. -/
structure Outline.IsPlain (o : Outline) : Prop where
  names : ∀ s ∈ o, isPlainName s.1 = true
  distinct : (o.map Prod.fst).Nodup
  keys : ∀ s ∈ o, ∀ field ∈ s.2, isPlainName field.1 = true
  distinctKeys : ∀ s ∈ o, (s.2.map Prod.fst).Nodup

/-- The value of a configuration under a key, as it is handed over. -/
def Config.datum (c : Config) : Key → Datum
  | .port => .text c.connection.port
  | .baudRate => .natural c.connection.baudRate.toUInt64
  | .settleDelay => .natural c.connection.settleDelay
  | .readTimeout => .natural c.connection.readTimeout
  | .stopTimeout => .natural c.streaming.stopTimeout
  | .step => .real c.jog.step
  | .feed => .real c.jog.feed
  | .manual => .truth c.jog.manual

/-- An outline gives the values of `c` under the keys in `K`, and nothing under the other keys. It
may have any other sections and fields. -/
structure Outline.Gives (c : Config) (K : Key → Bool) (o : Outline) : Prop where
  given : ∀ k, K k = true →
    ∃ fields, (k.section.name, fields) ∈ o ∧ (k.name, c.datum k) ∈ fields
  absent : ∀ k, K k = false → ∀ fields d, (k.section.name, fields) ∈ o → (k.name, d) ∉ fields

/-- The outline of a configuration with its keys in `K` alone. -/
def Config.outlineWith (c : Config) (K : Key → Bool) : Outline :=
  Section.all.map fun s => (s.name, (s.keys.filter K).map fun k => (k.name, c.datum k))

/-- With all keys it is the outline that is handed over when the configuration is saved. -/
theorem Config.outlineWith_all (c : Config) : c.outlineWith (fun _ => true) = c.outline := rfl

/-- The keys in an outline of a configuration are plain names, and different ones. -/
theorem Config.isPlain_outlineWith (c : Config) (K : Key → Bool) :
    Outline.IsPlain (c.outlineWith K) where
  names entry hentry := by
    -- the names of sections and keys are fixed, and a part of them is still without repetition
    obtain ⟨s, -, rfl⟩ := List.mem_map.mp hentry
    show isPlainName s.name = true
    cases s <;> decide
  distinct := by
    rw [Config.outlineWith, List.map_map]
    exact Section.nodup_all
  keys entry hentry field hfield := by
    obtain ⟨s, -, rfl⟩ := List.mem_map.mp hentry
    obtain ⟨k, -, rfl⟩ := List.mem_map.mp hfield
    show isPlainName k.name = true
    cases k <;> decide
  distinctKeys entry hentry := by
    obtain ⟨s, -, rfl⟩ := List.mem_map.mp hentry
    rw [List.map_map]
    exact s.nodup_keys.sublist (List.filter_sublist.map Key.name)

/-- The outline with the keys in `K` gives just these. -/
theorem Config.gives_outlineWith (c : Config) (K : Key → Bool) :
    Outline.Gives c K (c.outlineWith K) where
  given k hk :=
    ⟨_, List.mem_map.mpr ⟨k.section, k.section.mem_all, rfl⟩,
      List.mem_map.mpr ⟨k, List.mem_filter.mpr ⟨k.mem_keys, hk⟩, rfl⟩⟩
  absent k hk fields d hsection hfield := by
    -- a name belongs to one key only, so the field would be that of a key in `K`
    obtain ⟨s, -, hs⟩ := List.mem_map.mp hsection
    obtain ⟨-, rfl⟩ := Prod.mk.inj hs
    obtain ⟨k', hk', hname⟩ := List.mem_map.mp hfield
    cases Key.eq_of_name (Prod.mk.inj hname).1
    rw [(List.mem_filter.mp hk').2] at hk
    cases hk

/-- The values in an outline of a configuration are its values. -/
theorem Config.mem_data_outlineWith {c : Config} {K : Key → Bool} {d : Datum}
    (h : d ∈ (c.outlineWith K).data) : ∃ k, d = c.datum k := by
  obtain ⟨entry, hentry, hd⟩ := List.mem_flatMap.mp h
  obtain ⟨s, -, rfl⟩ := List.mem_map.mp hentry
  rw [List.map_map] at hd
  obtain ⟨k, -, rfl⟩ := List.mem_map.mp hd
  exact ⟨k, rfl⟩

/-! ## The laws -/

/-- A value of a document is read as the datum. -/
def Datum.ReadFrom {V : Type} [Document V] (v : V) : Datum → Prop
  | .text s => Document.text? v = some s
  | .natural n => Document.natural? v = some n.toNat
  | .real x => Document.real? v = some x
  | .truth b => Document.truth? v = some b

/-- A value is a table with the fields in their order. -/
def Library.IsTable (l : Library) (v : l.Value) (fields : List (String × Datum)) : Prop :=
  ∃ entries, l.table? v = some entries ∧
    List.Forall₂ (fun entry field => entry.1 = field.1 ∧ field.2.ReadFrom entry.2) entries fields

/-- A value is a document with the sections in their order. -/
def Library.IsDocument (l : Library) (v : l.Value) (o : Outline) : Prop :=
  ∃ root, l.table? v = some root ∧
    List.Forall₂ (fun entry s => entry.1 = s.1 ∧ l.IsTable entry.2 s.2) root o

/-- The doubles of an outline are read back as they are written. -/
def Library.Regains (l : Library) (o : Outline) : Prop :=
  ∀ x, Datum.real x ∈ o.data → l.regained? x = some x

/-- What the documentation of a library says. -/
structure Library.Lawful (l : Library) : Prop where
  /-- Sections are read by the names of their fields. -/
  byName : l.ReadsByName
  /-- What was written is read back. -/
  readsBack : ∀ (o : Outline) (text : String), o.IsPlain → l.Regains o →
    l.write? o = some text → ∃ v, l.read? text = some v ∧ l.IsDocument v o

/-- An outline whose integers fit into a signed integer of 64 bits. -/
def Outline.IsSigned (o : Outline) : Prop := ∀ n, Datum.natural n ∈ o.data → n.toNat < 1 <<< 63

/-- JSON has a form for every document, and TOML for those without large integers. -/
structure Libraries.Writes (L : Libraries) : Prop where
  json : ∀ o : Outline, o.IsPlain → ∃ text, L.json.write? o = some text
  toml : ∀ o : Outline, o.IsPlain → ((∃ text, L.toml.write? o = some text) ↔ o.IsSigned)

/-- What the documentation of the two libraries says. -/
structure Libraries.Lawful (L : Libraries) : Prop where
  json : L.json.Lawful
  toml : L.toml.Lawful
  writes : L.Writes

/-- Each of the libraries is lawful. -/
theorem Libraries.Lawful.of {L : Libraries} (h : L.Lawful) (format : Format) :
    (L.of format).Lawful := by
  cases format with
  | json => exact h.json
  | toml => exact h.toml

/-! ## What they are for -/

section
variable {α β : Type} {R : α → β → Prop} {xs : List α} {ys : List β}

/-- What is on the right has something on the left that goes with it. -/
theorem exists_left_of_forall₂ (h : List.Forall₂ R xs ys) {y : β} (hy : y ∈ ys) :
    ∃ x ∈ xs, R x y := by
  induction h with
  | nil => cases hy
  | cons hxy _ ih =>
    rcases List.mem_cons.mp hy with rfl | hy
    · exact ⟨_, List.mem_cons_self, hxy⟩
    · obtain ⟨x, hx, hR⟩ := ih hy
      exact ⟨x, List.mem_cons_of_mem _ hx, hR⟩

/-- And what is on the left has something on the right. -/
theorem exists_right_of_forall₂ (h : List.Forall₂ R xs ys) {x : α} (hx : x ∈ xs) :
    ∃ y ∈ ys, R x y := by
  have hflip : List.Forall₂ (flip R) ys xs := List.Forall₂.flip h
  exact exists_left_of_forall₂ hflip hx

end

/-- What goes together by name has the same names. -/
theorem map_fst_of_forall₂ {V D : Type} {R : String × V → String × D → Prop}
    {entries : List (String × V)} {fields : List (String × D)}
    (hR : ∀ entry field, R entry field → entry.1 = field.1) (h : List.Forall₂ R entries fields) :
    entries.map Prod.fst = fields.map Prod.fst := by
  induction h with
  | nil => rfl
  | cons hentry _ ih => rw [List.map_cons, List.map_cons, hR _ _ hentry, ih]

/-- A key reads the datum that it gave. -/
theorem Config.read?_datum {V : Type} [Document V] {c : Config} {k : Key} {v : V}
    (h : (c.datum k).ReadFrom v) : k.read? v = some (c.get k) := by
  cases k with
  -- a baud rate is a number of fewer bits, and its own bound is what makes it readable
  | port | step | feed | manual => exact h
  | baudRate =>
    have hread : Document.natural? v = some c.connection.baudRate.toNat := by
      rw [← UInt32.toNat_toUInt64]
      exact h
    have hbound := c.connection.baudRate.toNat_lt
    show word? v = some c.connection.baudRate
    simp [word?, hread, hbound]
  | settleDelay =>
    replace h : Document.natural? v = some c.connection.settleDelay.toNat := h
    show long? v = some c.connection.settleDelay
    simp [long?, h]
  | readTimeout =>
    replace h : Document.natural? v = some c.connection.readTimeout.toNat := h
    show long? v = some c.connection.readTimeout
    simp [long?, h]
  | stopTimeout =>
    replace h : Document.natural? v = some c.streaming.stopTimeout.toNat := h
    show long? v = some c.streaming.stopTimeout
    simp [long?, h]

/-- A document with the sections of an outline shows what the outline gives. -/
theorem Library.shows_of_isDocument {l : Library} {c : Config} {K : Key → Bool} {o : Outline}
    (hplain : o.IsPlain) (hgives : o.Gives c K) {v : l.Value} (h : l.IsDocument v o) :
    ∃ root, l.table? v = some root ∧ Shows c K root := by
  obtain ⟨root, hroot, hsections⟩ := h
  have hnames : root.map Prod.fst = o.map Prod.fst :=
    map_fst_of_forall₂ (fun _ _ h => h.1) hsections
  have hdistinct : (root.map Prod.fst).Nodup := hnames ▸ hplain.distinct
  refine ⟨root, hroot, ?_⟩
  exact {
    -- each part of `Shows` is told of the outline, and carried over by the matching of entries
    sections := fun s => List.nodup_iff_count.mp hdistinct _
    tables := by
      intro s table htable
      obtain ⟨entry, hentry, -, entries, hentries, hfields⟩ :=
        exists_right_of_forall₂ hsections htable
      refine ⟨entries, hentries, fun k _ => ?_⟩
      have hkeys := map_fst_of_forall₂ (fun _ _ h => h.1) hfields
      rw [hkeys]
      exact List.nodup_iff_count.mp (hplain.distinctKeys _ hentry) _
    given := by
      intro k hk
      obtain ⟨fields, hsection, hfield⟩ := hgives.given k hk
      obtain ⟨⟨name, table⟩, htable, hname, entries, hentries, hfields⟩ :=
        exists_left_of_forall₂ hsections hsection
      obtain ⟨⟨key, v⟩, hv, hkey, hread⟩ := exists_left_of_forall₂ hfields hfield
      obtain rfl : name = k.section.name := hname
      obtain rfl : key = k.name := hkey
      exact ⟨v, ⟨table, entries, htable, hentries, hv⟩, Config.read?_datum hread⟩
    absent := by
      rintro k hk v ⟨table, entries, htable, hentries, hv⟩
      obtain ⟨⟨name, fields⟩, hsection, hname, entries', hentries', hfields⟩ :=
        exists_right_of_forall₂ hsections htable
      cases hentries.symm.trans hentries'
      obtain ⟨⟨key, d⟩, hd, hkey, -⟩ := exists_right_of_forall₂ hfields hv
      obtain rfl : k.section.name = name := hname
      obtain rfl : k.name = key := hkey
      exact hgives.absent k hk fields d hsection hd }

/-- A text that a library writes for an outline tells the values that the outline gives. -/
theorem Library.Lawful.tells_of_write {l : Library} (hl : l.Lawful) {c : Config} {K : Key → Bool}
    {o : Outline} {text : String} (hplain : o.IsPlain) (hgives : o.Gives c K)
    (hregains : l.Regains o) (htext : l.write? o = some text) : l.Tells c K text := by
  obtain ⟨v, hread, hdocument⟩ := hl.readsBack o text hplain hregains htext
  obtain ⟨root, hroot, hshows⟩ := l.shows_of_isDocument hplain hgives hdocument
  exact ⟨v, root, hread, hroot, hshows⟩

/-- Of a configuration only the step and the feed are doubles. -/
theorem Library.regains_outlineWith {l : Library} {c : Config} (K : Key → Bool)
    (hstep : l.regained? c.jog.step = some c.jog.step)
    (hfeed : l.regained? c.jog.feed = some c.jog.feed) : l.Regains (c.outlineWith K) := by
  intro x hx
  obtain ⟨k, hk⟩ := Config.mem_data_outlineWith hx
  cases k with
  | step =>
    cases hk
    exact hstep
  | feed =>
    cases hk
    exact hfeed
  | _ => cases hk

end GcodeSender.Settings
