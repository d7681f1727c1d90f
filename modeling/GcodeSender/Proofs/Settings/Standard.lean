import GcodeSender.Proofs.Json.RoundTrip
import GcodeSender.Proofs.Settings.Laws
import GcodeSender.Proofs.Toml.Scalars

/-!
# `GcodeSender.Proofs.Settings.Standard`: the libraries of the program are lawful

`Libraries.standard_lawful`: the readers and writers that the program is built with do what
`Libraries.Lawful` asks for. So what holds with any lawful libraries holds of the program.

JSON is quick, since an outline is one value there, and any value is read from its text
(`Json.read?_write`). In TOML the text of an outline has to be recognized as the text of a layout
first: `Toml.exists_items` goes along the fields of a section, `Toml.exists_sections` along the
sections, and `Toml.read?_layout` says what is read.
-/

set_option autoImplicit false

/-! ## JSON -/

namespace GcodeSender.Json

open Settings (Datum Outline)

/-- The entries of an object are its members. -/
theorem eq_of_entries? {members : List (Option String × Value)}
    {entries : List (String × Value)} (h : entries? members = some entries) :
    members = entries.map fun (key, v) => (some key, v) := by
  induction members generalizing entries with
  | nil =>
    cases h
    rfl
  | cons member members ih =>
    obtain ⟨key, v⟩ := member
    simp only [entries?, Option.bind_eq_bind, Option.bind_eq_some_iff] at h
    obtain ⟨key, rfl, inner, hinner, ⟨⟩⟩ := h
    rw [ih hinner]
    rfl

/-- A record has its entries. -/
theorem table?_record (entries : List (String × Value)) :
    (Value.record entries).table? = some entries := by
  show entries? (entries.map fun (key, v) => (some key, v)) = some entries
  induction entries with
  | nil => rfl
  | cons entry entries ih => simp [entries?, ih]

/-- The keys of a record are all texts. -/
theorem keys?_record (entries : List (String × Value)) :
    keys? (entries.map fun (key, v) => (some key, v)) = some (entries.map Prod.fst) := by
  induction entries with
  | nil => rfl
  | cons entry entries ih =>
    rw [keys?] at ih ⊢
    simp [List.mapM_cons, ih]

/-- A member of a record is found by its key. -/
theorem member?_record (entries : List (String × Value)) (name : String) :
    member? (entries.map fun (key, v) => (some key, v)) name = entries.lookup name := by
  rw [member?]
  induction entries with
  | nil => rfl
  | cons entry entries ih =>
    rw [List.map_cons, List.lookup_cons, List.lookup_cons, ih]
    rfl

/-- An object is read by the names of its members. -/
theorem readsByName : library.ReadsByName := by
  intro names (v : Value) (entries : List (String × Value)) hentries honce
  replace hentries : Value.table? v = some entries := hentries
  show Value.fields? names v = some (names.map fun name => entries.lookup name)
  cases v with
  | object members =>
    cases eq_of_entries? hentries
    -- a name that is asked for stands at most once, so its first member is its only one
    have hgiven : givenOnce names (entries.map Prod.fst) = true :=
      List.all_eq_true.mpr fun name hname => decide_eq_true (honce name hname)
    rw [Value.fields?, keys?_record]
    dsimp only
    rw [if_pos hgiven]
    exact congrArg some (List.map_congr_left fun name _ => member?_record entries name)
  | null | truth _ | number _ | string _ | array _ => cases hentries

/-- A record can be read from its text if its members can. -/
theorem isSpelled_record (entries : List (String × Value)) :
    (Value.record entries).isSpelled = entries.all (·.2.isSpelled) := by
  rw [Value.record, Value.isSpelled]
  induction entries with
  | nil => rfl
  | cons entry entries ih => rw [List.map_cons, membersSpelled, ih, List.all_cons]

/-- A datum can be read from its text, a double if anything is read there. -/
theorem isSpelled_ofDatum {d : Datum} (h : ∀ x, d = .real x → library.regained? x = some x) :
    (Value.ofDatum d).isSpelled = true := by
  cases d with
  | text | truth => rfl
  | natural n =>
    simp [Value.ofDatum, Value.isSpelled, Value.ofNat, Number.ofSpelling?,
      takeNumber?_digitChars]
  | real x =>
    obtain ⟨n, hn, -⟩ := Option.bind_eq_some_iff.mp (h x rfl)
    exact Option.isSome_of_eq_some hn

/-- A datum is read from its value. -/
theorem readFrom_ofDatum {d : Datum} (h : ∀ x, d = .real x → library.regained? x = some x) :
    d.ReadFrom (Value.ofDatum d) := by
  cases d with
  | text | truth => rfl
  | natural n => exact natural?_ofNat n.toNat_lt
  | real x => exact h x rfl

/-- The value of a section. -/
def sectionValue (fields : List (String × Datum)) : Value :=
  .record (fields.map fun (key, d) => (key, .ofDatum d))

/-- A section is a table with its fields. -/
theorem isTable_sectionValue {fields : List (String × Datum)}
    (h : ∀ x, .real x ∈ fields.map Prod.snd → library.regained? x = some x) :
    library.IsTable (sectionValue fields) fields := by
  refine ⟨_, table?_record _, ?_⟩
  induction fields with
  | nil => exact .nil
  | cons field fields ih =>
    have hfield : field.2.ReadFrom (Value.ofDatum field.2) :=
      readFrom_ofDatum fun x hx => h x (hx ▸ List.mem_cons_self)
    exact .cons ⟨rfl, hfield⟩ (ih fun x hx => h x (List.mem_cons_of_mem _ hx))

/-- The value of an outline is a document with its sections. -/
theorem isDocument_ofOutline {o : Outline} (h : library.Regains o) :
    library.IsDocument (Value.ofOutline o) o := by
  refine ⟨_, table?_record _, ?_⟩
  induction o with
  | nil => exact .nil
  | cons s o ih =>
    have hdata : Outline.data (s :: o) = s.2.map Prod.snd ++ Outline.data o := List.flatMap_cons
    rw [Settings.Library.Regains, hdata] at h
    have hs := isTable_sectionValue fun x hx => h x (List.mem_append_left _ hx)
    exact .cons ⟨rfl, hs⟩ (ih fun x hx => h x (List.mem_append_right _ hx))

/-- The value of an outline can be read from its text. -/
theorem isSpelled_ofOutline {o : Outline} (h : library.Regains o) :
    (Value.ofOutline o).isSpelled = true := by
  rw [Value.ofOutline, isSpelled_record, List.all_map, List.all_eq_true]
  intro s hs
  show (sectionValue s.2).isSpelled = true
  rw [sectionValue, isSpelled_record, List.all_map, List.all_eq_true]
  intro field hfield
  refine isSpelled_ofDatum fun x hx => h x ?_
  exact List.mem_flatMap.mpr ⟨s, hs, hx ▸ List.mem_map_of_mem hfield⟩

/-- The library for JSON does what is asked of it. -/
theorem library_lawful : library.Lawful where
  byName := readsByName
  readsBack o text _ hregains htext := by
    obtain rfl : String.ofList (Value.ofOutline o).write = text := Option.some.inj htext
    refine ⟨Value.ofOutline o, ?_, isDocument_ofOutline hregains⟩
    show read? (String.ofList (Value.ofOutline o).write).toList = some (Value.ofOutline o)
    rw [String.toList_ofList]
    exact read?_write (isSpelled_ofOutline hregains)

end GcodeSender.Json

/-! ## TOML -/

namespace GcodeSender.Toml

open Settings (Datum Outline isPlainName map_fst_of_forall₂ exists_right_of_forall₂)

/-- A table is read by the names of its entries. -/
theorem readsByName : library.ReadsByName := by
  intro names (v : Value) (entries : List (String × Value)) hentries _
  replace hentries : Value.table? v = some entries := hentries
  show Value.fields? names v = some (names.map fun name => entries.lookup name)
  cases v with
  | table _ inner | braced inner =>
    cases hentries
    rfl
  | string _ | integer _ | float _ | truth _ | date | array _ | tables _ => cases hentries

/-! ### Names -/

/-- A character of a plain name can stand in a key, and is no blank. -/
theorem isKeyChar_of_plain {c : Char} (h : (c.isLower || c = '_') = true) :
    isKeyChar c = true ∧ c ≠ '"' ∧ c ≠ '\'' ∧ c ≠ ' ' ∧ c ≠ '\t' := by
  refine ⟨?_, ?_, ?_, ?_, ?_⟩
  · rcases Bool.or_eq_true_iff.mp h with hlower | hmark
    · have hletter : c.isAlphanum = true := by
        show ((c.isUpper || c.isLower) || c.isDigit) = true
        simp [hlower]
      simp [isKeyChar, hletter]
    · simp [isKeyChar, hmark]
  all_goals
    rintro rfl
    revert h
    decide

/-- A plain name is one part of a key, with blanks behind it or without. -/
theorem key?_of_isPlainName {name : String} (h : isPlainName name = true) {blanks : List Char}
    (hblanks : ∀ b ∈ blanks, b = ' ') : key? (name.toList ++ blanks) = some ([], name, []) := by
  obtain ⟨hne, hall⟩ := Bool.and_eq_true_iff.mp h
  have hchars : ∀ c ∈ name.toList, isKeyChar c = true := fun c hc =>
    (isKeyChar_of_plain (List.all_eq_true.mp hall c hc)).1
  -- the key ends at the first blank, and only blanks follow
  have hafter : blanks.takeWhile isKeyChar = [] ∧ blanks.dropWhile isKeyChar = blanks := by
    cases blanks with
    | nil => exact ⟨rfl, rfl⟩
    | cons b blanks =>
      obtain rfl := hblanks b List.mem_cons_self
      exact ⟨rfl, rfl⟩
  have hskipped : skipBlanks blanks = [] := by
    rw [skipBlanks, List.dropWhile_eq_nil_iff]
    intro b hb
    rw [hblanks b hb]
    rfl
  have htake : (name.toList ++ blanks).takeWhile isKeyChar = name.toList := by
    rw [List.takeWhile_append_of_pos hchars, hafter.1, List.append_nil]
  have hdrop : (name.toList ++ blanks).dropWhile isKeyChar = blanks := by
    rw [List.dropWhile_append_of_pos hchars, hafter.2]
  cases hname : name.toList with
  | nil => simp [hname] at hne
  | cons c cs =>
    obtain ⟨-, hquote, htick, hblank, htab⟩ :=
      isKeyChar_of_plain (List.all_eq_true.mp hall c (hname ▸ List.mem_cons_self))
    rw [hname, List.cons_append] at htake hdrop
    have hpart : keyPart? (c :: (cs ++ blanks)) = some (name, blanks) := by
      rw [keyPart?_bare hquote htick, htake, hdrop]
      show some (String.ofList (c :: cs), blanks) = some (name, blanks)
      rw [← hname, String.ofList_toList]
    have hparts : keyParts? nestingLimit (c :: (cs ++ blanks)) = some ([name], []) := by
      rw [nestingLimit, keyParts?, skipBlanks_of_head ⟨hblank, htab⟩, hpart]
      dsimp only
      rw [hskipped]
    rw [List.cons_append, key?, hparts]
    rfl

/-- A plain name as it stands in a header. -/
def Name.ofTitle (name : String) (h : isPlainName name = true) : Name where
  text := name.toList
  name := name
  reads := by
    have hreads := key?_of_isPlainName h (List.forall_mem_nil (· = ' '))
    rwa [List.append_nil] at hreads

/-- A plain name as it stands in front of a value. -/
def Name.ofKey (name : String) (h : isPlainName name = true) : Name where
  text := name.toList ++ [' ']
  name := name
  reads := key?_of_isPlainName h (by simp)

/-! ### Values -/

/-- What is regained of a double is what is read from its text. -/
theorem scalarValue?_of_regained? {x : Float} (h : library.regained? x = some x) :
    scalarValue? (floatStyle.spell x) = some (.float x, []) := by
  simp only [library] at h
  split at h
  · rename_i y hread
    cases h
    exact hread
  · cases h

/-- A datum is read from what is written for it. -/
theorem exists_scalarValue? {d : Datum} {text : List Char} (htext : spelling? d = some text)
    (h : ∀ x, d = .real x → library.regained? x = some x) :
    ∃ v : Value, scalarValue? text = some (v, []) ∧ d.ReadFrom v := by
  -- one form for each kind of datum; only for a natural number there may be none
  cases d with
  | text s =>
    cases htext
    exact ⟨.string s, scalarValue?_quote s, rfl⟩
  | natural n =>
    simp only [spelling?, writeNat?] at htext
    split at htext
    · rename_i hn
      cases htext
      exact ⟨.integer n.toNat, scalarValue?_digitChars hn, rfl⟩
    · cases htext
  | real x =>
    cases htext
    exact ⟨.float x, scalarValue?_of_regained? (h x rfl), rfl⟩
  | truth b =>
    cases htext
    exact ⟨.truth b, scalarValue?_truth b, rfl⟩

/-! ### Lines -/

/-- An empty line. -/
def emptyLine : Item := .gap [] rfl

/-- The lines of the fields of a section are lines with an entry each. -/
theorem exists_items {fields : List (String × Datum)} {text : List Char}
    (htext : fieldLines? fields = some text)
    (hkeys : ∀ field ∈ fields, isPlainName field.1 = true)
    (h : ∀ x, .real x ∈ fields.map Prod.snd → library.regained? x = some x) :
    ∃ items : List Item, textOf (items.map .item) = text ∧ (∀ i ∈ items, i.IsPlain) ∧
      List.Forall₂ (fun entry field => entry.1 = field.1 ∧ field.2.ReadFrom entry.2)
        (fieldsOf items) fields := by
  -- on the fields, whose lines follow one another
  induction fields generalizing text with
  | nil =>
    cases htext
    exact ⟨[], rfl, by simp, .nil⟩
  | cons field fields ih =>
    obtain ⟨key, d⟩ := field
    simp only [fieldLines?, Option.bind_eq_bind, Option.bind_eq_some_iff] at htext
    obtain ⟨value, hvalue, rest, hrest, ⟨⟩⟩ := htext
    obtain ⟨hkey, hkeys⟩ := List.forall_mem_cons.mp hkeys
    obtain ⟨items, rfl, hitems, hfields⟩ :=
      ih hrest hkeys fun x hx => h x (List.mem_cons_of_mem _ hx)
    obtain ⟨v, hread, hd⟩ := exists_scalarValue? hvalue fun x hx => h x (hx ▸ List.mem_cons_self)
    refine ⟨.entry (.ofKey key hkey) (.ofScalar value v hread) :: items, ?_, ?_, ?_⟩
    · simp [textOf, Line.text, Name.ofKey, Spelling.ofScalar, entryLine]
    · exact List.forall_mem_cons.mpr ⟨rfl, hitems⟩
    · exact .cons ⟨rfl, hd⟩ hfields

/-- A section is laid out as a header with the lines of its fields below it. -/
theorem exists_section {s : String × List (String × Datum)} {text : List Char}
    (htext : fieldLines? s.2 = some text) (hname : isPlainName s.1 = true)
    (hkeys : ∀ field ∈ s.2, isPlainName field.1 = true)
    (h : ∀ x, .real x ∈ s.2.map Prod.snd → library.regained? x = some x) (emptyLines : Nat) :
    ∃ laidOut : Section,
      textOf laidOut.lines = headerLine s.1 ++ text ++ List.replicate emptyLines '\n' ∧
      laidOut.IsPlain ∧ laidOut.entry.1 = s.1 ∧ library.IsTable laidOut.entry.2 s.2 := by
  obtain ⟨items, rfl, hitems, hfields⟩ := exists_items htext hkeys h
  -- the empty lines below the section have no entries
  have hgaps : fieldsOf (List.replicate emptyLines emptyLine) = [] :=
    List.filterMap_replicate_of_none rfl
  refine ⟨⟨.ofTitle s.1 hname, items ++ List.replicate emptyLines emptyLine⟩, ?_, ⟨rfl, ?_⟩, rfl,
    ⟨fieldsOf (items ++ List.replicate emptyLines emptyLine), rfl, ?_⟩⟩
  · have hempty : (List.replicate emptyLines (Line.item emptyLine)).flatMap
        (fun line => line.text ++ ['\n']) = List.replicate emptyLines '\n' := by
      rw [List.flatMap_replicate]
      exact List.flatten_replicate_singleton
    simp only [textOf, Section.lines, List.map_append, List.map_replicate, List.flatMap_cons,
      List.flatMap_append, hempty]
    simp [headerLine, Line.text, Name.ofTitle]
  · intro i hi
    rcases List.mem_append.mp hi with hi | hi
    · exact hitems i hi
    · cases List.eq_of_mem_replicate hi
      trivial
  · rw [fieldsOf, List.filterMap_append, ← fieldsOf, ← fieldsOf, hgaps, List.append_nil]
    exact hfields

/-- The lines of a document are those of its sections. -/
theorem exists_sections {o : Outline} {text : List Char} (htext : lines? o = some text)
    (hnames : ∀ s ∈ o, isPlainName s.1 = true)
    (hkeys : ∀ s ∈ o, ∀ field ∈ s.2, isPlainName field.1 = true) (h : library.Regains o) :
    ∃ sections : List Section, textOf (sections.flatMap Section.lines) = text ∧
      (∀ s ∈ sections, s.IsPlain) ∧
      List.Forall₂ (fun entry s => entry.1 = s.1 ∧ library.IsTable entry.2 s.2)
        (sections.map Section.entry) o := by
  induction o generalizing text with
  | nil =>
    cases htext
    exact ⟨[], rfl, by simp, .nil⟩
  | cons s o ih =>
    obtain ⟨hname, hnames⟩ := List.forall_mem_cons.mp hnames
    obtain ⟨hkey, hkeys⟩ := List.forall_mem_cons.mp hkeys
    have hdata : Outline.data (s :: o) = s.2.map Prod.snd ++ Outline.data o := List.flatMap_cons
    rw [Settings.Library.Regains, hdata] at h
    have hreals : ∀ x, .real x ∈ s.2.map Prod.snd → library.regained? x = some x :=
      fun x hx => h x (List.mem_append_left _ hx)
    cases o with
    | nil =>
      -- there is no empty line below the last section
      simp only [lines?, Option.bind_eq_bind, Option.bind_eq_some_iff] at htext
      obtain ⟨lines, hlines, ⟨⟩⟩ := htext
      obtain ⟨laidOut, hlaidOut, hplain, hentry⟩ :=
        exists_section hlines hname hkey hreals 0
      exact ⟨[laidOut], by simpa using hlaidOut, by simpa using hplain, .cons hentry .nil⟩
    | cons s' o =>
      simp only [lines?, Option.bind_eq_bind, Option.bind_eq_some_iff] at htext
      obtain ⟨lines, hlines, rest, hrest, ⟨⟩⟩ := htext
      obtain ⟨laidOut, hlaidOut, hplain, hentry⟩ :=
        exists_section hlines hname hkey hreals 1
      obtain ⟨sections, rfl, hplains, hentries⟩ :=
        ih hrest hnames hkeys fun x hx => h x (List.mem_append_right _ hx)
      refine ⟨laidOut :: sections, ?_, List.forall_mem_cons.mpr ⟨hplain, hplains⟩,
        .cons hentry hentries⟩
      rw [List.flatMap_cons, textOf, List.flatMap_append, ← textOf, ← textOf, hlaidOut]
      simp

/-- The lines of a document are those of a layout. -/
theorem exists_layout {o : Outline} {text : List Char} (htext : lines? o = some text)
    (hplain : o.IsPlain) (h : library.Regains o) :
    ∃ layout : Layout, layout.text = text ∧
      library.IsDocument (.table .header layout.entries) o := by
  obtain ⟨sections, hsections, hplains, hentries⟩ :=
    exists_sections htext hplain.names hplain.keys h
  -- the names are those of the outline, which are all different
  have hnames : ((sections.map Section.entry).map Prod.fst).Nodup := by
    rw [map_fst_of_forall₂ (fun _ _ h => h.1) hentries]
    exact hplain.distinct
  have hkeys : ∀ s ∈ sections, ((fieldsOf s.items).map Prod.fst).Nodup := by
    intro s hs
    obtain ⟨fields, hfields, -, entries, hentries, hkeys⟩ :=
      exists_right_of_forall₂ hentries (List.mem_map_of_mem hs)
    obtain rfl : fieldsOf s.items = entries := Option.some.inj hentries
    have hsame : (fieldsOf s.items).map Prod.fst = fields.2.map Prod.fst :=
      map_fst_of_forall₂ (fun _ _ h => h.1) hkeys
    rw [hsame]
    exact hplain.distinctKeys fields hfields
  exact ⟨⟨[], sections, by simp, hplains, hnames, hkeys⟩, hsections, sections.map Section.entry,
    rfl, hentries⟩

/-- The library for TOML does what is asked of it. -/
theorem library_lawful : library.Lawful where
  byName := readsByName
  readsBack o text hplain hregains htext := by
    obtain ⟨lines, hlines, rfl⟩ := Option.map_eq_some_iff.mp htext
    obtain ⟨layout, rfl, hdocument⟩ := exists_layout hlines hplain hregains
    refine ⟨.table .header layout.entries, ?_, hdocument⟩
    show read? (String.ofList layout.text).toList = some (.table .header layout.entries)
    rw [String.toList_ofList]
    exact read?_layout layout

/-! ### Documents that can be written -/

/-- A datum has a form unless it is a large integer. -/
theorem isSome_spelling? (d : Datum) :
    (spelling? d).isSome ↔ ∀ n, d = .natural n → n.toNat < 1 <<< 63 := by
  cases d with
  | natural n => simp [spelling?, writeNat?]
  | text | real | truth => simp [spelling?]

/-- Fields have lines if each has a form. -/
theorem isSome_fieldLines? (fields : List (String × Datum)) :
    (fieldLines? fields).isSome ↔ ∀ field ∈ fields, (spelling? field.2).isSome := by
  induction fields with
  | nil => simp [fieldLines?]
  | cons field fields ih =>
    rw [List.forall_mem_cons, ← ih, fieldLines?]
    cases spelling? field.2 with
    | none => simp
    | some value =>
      cases fieldLines? fields <;> simp

/-- A document has lines if each of its sections has. -/
theorem isSome_lines? (o : Outline) :
    (lines? o).isSome ↔ ∀ s ∈ o, (fieldLines? s.2).isSome := by
  induction o with
  | nil => simp [lines?]
  | cons s o ih =>
    obtain ⟨name, fields⟩ := s
    rw [List.forall_mem_cons, ← ih]
    cases o with
    | nil => cases hfields : fieldLines? fields <;> simp [lines?, hfields]
    | cons s' o =>
      cases hfields : fieldLines? fields with
      | none => simp [lines?, hfields]
      | some lines => cases hrest : lines? (s' :: o) <;> simp [lines?, hfields, hrest]

/-- TOML has a form for the documents without large integers. -/
theorem exists_write?_iff (o : Outline) :
    (∃ text, library.write? o = some text) ↔ o.IsSigned := by
  rw [← Option.isSome_iff_exists]
  show ((lines? o).map String.ofList).isSome ↔ _
  rw [Option.isSome_map, isSome_lines?]
  simp only [isSome_fieldLines?, isSome_spelling?]
  constructor
  · intro h n hn
    obtain ⟨s, hs, hn⟩ := List.mem_flatMap.mp hn
    obtain ⟨field, hfield, hfield'⟩ := List.mem_map.mp hn
    exact h s hs field hfield n hfield'
  · intro h s hs field hfield n hn
    exact h n (List.mem_flatMap.mpr ⟨s, hs, hn ▸ List.mem_map_of_mem hfield⟩)

end GcodeSender.Toml

/-! ## Both -/

namespace GcodeSender.Settings

/-- The libraries of the program are lawful. -/
theorem Libraries.standard_lawful : Libraries.standard.Lawful where
  json := Json.library_lawful
  toml := Toml.library_lawful
  writes := {
    json := fun _ _ => ⟨_, rfl⟩
    toml := fun o _ => Toml.exists_write?_iff o }

end GcodeSender.Settings
