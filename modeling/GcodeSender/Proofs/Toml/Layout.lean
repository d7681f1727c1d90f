import GcodeSender.Proofs.Toml.Quoting

/-!
# `GcodeSender.Proofs.Toml.Layout`: documents line by line

A document is a list of `Line`s: headers in single or double brackets, keys with values, and
between them empty lines and comments. Names and values stand as they are spelled: a `Name` is
any text that is read as a key, with dots or without, and a `Spelling` any text that is read as a
value, with arrays and tables in braces nested in it or not.

Each line is read in the same way whatever follows it (`statements?_line`). So lines are read as
the document that their statements make, if they make one (`read?_textOf`). A `Layout` always
makes one: it has entries outside of the tables, and then tables, each with a header of its own
and entries below it, and no name is given twice. `read?_layout` says which document it is; the
statements are carried out on tables that no other statement touches (`addAll_loose`,
`addAll_fields`, `addAll_sections`).
-/

set_option autoImplicit false

namespace GcodeSender.Toml

/-! ## Lines -/

/-- A key as it is written. -/
structure Name where
  text : List Char
  /-- The parts before the last one. -/
  dots : List String := []
  name : String
  reads : key? text = some (dots, name, [])

/-- A value, as it is written behind a key. -/
structure Spelling where
  text : List Char
  value : Value
  reads : value? (2 * text.length + 2) nestingLimit (skipBlanks text) = some (value, [])

/-- A line of a table. -/
inductive Item where
  | entry (key : Name) (value : Spelling)
  /-- Nothing but blanks and a comment. -/
  | gap (text : List Char) (h : dropComment (skipBlanks text) = [])

/-- A line of a document. -/
inductive Line where
  | header (title : Name)
  | doubleHeader (title : Name)
  | item (i : Item)

/-- A line without its end. -/
def Line.text : Line → List Char
  | .header title => '[' :: (title.text ++ [']'])
  | .doubleHeader title => '[' :: '[' :: (title.text ++ [']', ']'])
  | .item (.entry key value) => key.text ++ '=' :: value.text
  | .item (.gap text _) => text

/-- The statement on a line. -/
def Line.statement? : Line → Option Statement
  | .header title => some (.header title.dots title.name)
  | .doubleHeader title => some (.doubleHeader title.dots title.name)
  | .item (.entry key value) => some (.entry key.dots key.name value.value)
  | .item (.gap _ _) => none

/-- The text of lines. -/
def textOf (lines : List Line) : List Char := lines.flatMap fun line => line.text ++ ['\n']

/-- There is nothing more to skip where blanks were skipped. -/
theorem skipBlanks_skipBlanks (cs : List Char) : skipBlanks (skipBlanks cs) = skipBlanks cs :=
  List.dropWhile_idempotent _ cs

/-- Blanks before a key make no difference. -/
theorem key?_skipBlanks (cs : List Char) : key? (skipBlanks cs) = key? cs := by
  have hparts (n : Nat) : keyParts? n (skipBlanks cs) = keyParts? n cs := by
    cases n with
    | zero => rfl
    | succ n => simp only [keyParts?, skipBlanks_skipBlanks]
  rw [key?, hparts, key?]

/-- A key begins, behind blanks, with a quote or a character of a key. -/
theorem head_of_key? {cs rest : List Char} {path : List String} {key : String}
    (h : key? cs = some (path, key, rest)) :
    ∃ c more, skipBlanks cs = c :: more ∧ (c = '"' ∨ c = '\'' ∨ isKeyChar c = true) := by
  -- a part of a key is there, or the key could not be read
  have hpart : keyPart? (skipBlanks cs) ≠ none := by
    intro hnone
    have hparts : keyParts? nestingLimit cs = none := by
      simp only [nestingLimit, keyParts?, hnone]
    rw [key?, hparts] at h
    cases h
  rcases hblanks : skipBlanks cs with - | ⟨c, more⟩
  · rw [hblanks] at hpart
    exact absurd rfl hpart
  · refine ⟨c, more, rfl, ?_⟩
    by_contra hother
    simp only [not_or, Bool.not_eq_true] at hother
    obtain ⟨hquote, htick, hchar⟩ := hother
    rw [hblanks, keyPart?_bare hquote htick, List.takeWhile_cons_of_neg (by simp [hchar])] at hpart
    exact hpart rfl

/-- A line feed ends a line. -/
theorem endOfLine?_lineFeed (later : List Char) : endOfLine? ('\n' :: later) = some later := rfl

/-- A line with a statement on it. -/
theorem statements?_of_statement {n : Nat} {cs later : List Char} {c : Char} {more : List Char}
    {s : Statement} (hcs : skipBlanks cs = c :: more) (hc : EndsLayout c)
    (h : statement? (c :: more) = some (s, '\n' :: later)) :
    statements? (n + 1) cs = (statements? n later).map (s :: ·) := by
  obtain ⟨-, -, hmark, hfeed, hreturn⟩ := hc.ne
  have hcomment : dropComment? (c :: more) = none := by
    simp [dropComment?, hmark]
  simp only [statements?, hcs, lineEnd?_of_ne hfeed hreturn, hcomment, h, endOfLine?_lineFeed]

/-- A key does not begin like any other construct. -/
theorem head_of_name (k : Name) : ∃ c more, skipBlanks k.text = c :: more ∧ EndsLayout c ∧
    c ≠ '[' := by
  obtain ⟨c, more, hcs, hc⟩ := head_of_key? k.reads
  refine ⟨c, more, hcs, ?_, ?_⟩
  · intro hlayout
    simp only [List.mem_cons, List.not_mem_nil, or_false] at hlayout
    rcases hlayout with rfl | rfl | rfl | rfl | rfl <;> revert hc <;> decide
  · rintro rfl
    revert hc
    decide

/-- A name behind a bracket does not begin with another one. -/
theorem head_of_title (title : Name) (later : List Char) :
    ∃ c more, title.text ++ later = c :: more ∧ c ≠ '[' := by
  obtain ⟨c, more, hblanks, -, hc⟩ := head_of_name title
  cases htext : title.text with
  | nil =>
    rw [htext] at hblanks
    cases hblanks
  | cons d text =>
    refine ⟨d, text ++ later, rfl, ?_⟩
    rintro rfl
    rw [htext, skipBlanks_of_head (by decide)] at hblanks
    cases hblanks
    exact hc rfl

/-- A name in brackets is read as the header of a table, whatever follows. -/
theorem statement?_header (title : Name) (later : List Char) :
    statement? ('[' :: (title.text ++ ']' :: later)) =
      some (.header title.dots title.name, later) := by
  have hkey : key? (title.text ++ ']' :: later) = some (title.dots, title.name, ']' :: later) :=
    key?_append (by decide) title.reads
  obtain ⟨c, more, htext, hc⟩ := head_of_title title (']' :: later)
  rw [htext] at hkey ⊢
  simp [statement?, header?, hkey, hc]

/-- A name in double brackets is read as the header of one more table of an array. -/
theorem statement?_doubleHeader (title : Name) (later : List Char) :
    statement? ('[' :: '[' :: (title.text ++ ']' :: ']' :: later)) =
      some (.doubleHeader title.dots title.name, later) := by
  have hkey : key? (title.text ++ ']' :: ']' :: later) =
      some (title.dots, title.name, ']' :: ']' :: later) := key?_append (by decide) title.reads
  simp [statement?, header?, hkey]

/-- What does not begin with a bracket is read as an entry. -/
theorem statement?_of_ne {c : Char} (hc : c ≠ '[') (cs : List Char) :
    statement? (c :: cs) = entry? (c :: cs) := by
  simp [statement?, hc]

/-- A key and a value are read as an entry, and the end of the line is left. -/
theorem statement?_entry (key : Name) (value : Spelling) (later : List Char) :
    statement? (skipBlanks key.text ++ '=' :: (value.text ++ '\n' :: later)) =
      some (.entry key.dots key.name value.value, '\n' :: later) := by
  have hkey : key? (skipBlanks key.text ++ '=' :: (value.text ++ '\n' :: later)) =
      some (key.dots, key.name, '=' :: (value.text ++ '\n' :: later)) := by
    rw [← skipBlanks_stop (by decide), key?_skipBlanks]
    exact key?_append (by decide) key.reads
  obtain ⟨c, more, hblanks, -, hc⟩ := head_of_name key
  have hvalue : value? (2 * (value.text ++ '\n' :: later).length + 2) nestingLimit
      (skipBlanks (value.text ++ '\n' :: later)) = some (value.value, '\n' :: later) := by
    rw [skipBlanks_stop (by decide)]
    exact value?_append value.reads (by rw [List.length_append]; omega)
  rw [hblanks, List.cons_append] at hkey ⊢
  rw [statement?_of_ne hc, entry?, hkey]
  simp [hvalue, -List.length_append]

/-- A line is read by itself, whatever lines follow. -/
theorem statements?_line (line : Line) (n : Nat) (later : List Char) :
    statements? (n + 1) (line.text ++ '\n' :: later) =
      (statements? n later).map (line.statement?.toList ++ ·) := by
  rcases line with title | title | ⟨key, value⟩ | ⟨text, htext⟩
  · rw [Line.text, List.cons_append, List.append_assoc]
    exact statements?_of_statement (skipBlanks_of_head (by decide) _) (by decide)
      (statement?_header title _)
  · rw [Line.text, List.cons_append, List.cons_append, List.append_assoc]
    exact statements?_of_statement (skipBlanks_of_head (by decide) _) (by decide)
      (statement?_doubleHeader title _)
  · obtain ⟨c, more, hblanks, hc, -⟩ := head_of_name key
    have hstatement := statement?_entry key value later
    rw [hblanks, List.cons_append] at hstatement
    rw [Line.text, List.append_assoc, List.cons_append]
    -- the blanks in front of the key are gone before the statement is read
    refine statements?_of_statement ?_ hc hstatement
    rw [skipBlanks_stop (by decide), hblanks]
    rfl
  · rw [Line.text]
    have hempty (r : Option (List Statement)) : r.map ([] ++ ·) = r := by cases r <;> rfl
    rw [show (Line.item (.gap text htext)).statement?.toList = [] from rfl, hempty]
    have hskip : skipBlanks (text ++ '\n' :: later) = skipBlanks text ++ '\n' :: later :=
      skipBlanks_stop (by decide)
    rcases hblanks : skipBlanks text with - | ⟨c, more⟩
    · rw [statements?, hskip, hblanks]
      rfl
    · -- what is left of the line is a comment, which ends with it
      have hmark : c = '#' := by
        by_contra hother
        rw [hblanks, dropComment_of_ne hother] at htext
        cases htext
      subst hmark
      have hcomment : (more ++ '\n' :: later).dropWhile isVisible = '\n' :: later := by
        rw [hblanks] at htext
        rw [dropWhile_stop (by decide), show more.dropWhile isVisible = [] from htext]
        rfl
      have hnoEnd := lineEnd?_of_ne (c := '#') (by decide) (by decide) (more ++ '\n' :: later)
      simp only [statements?, hskip, hblanks, List.cons_append, hnoEnd, dropComment?, hcomment,
        endOfLine?_lineFeed, Option.bind_some]

/-- Lines are read as the statements on them. -/
theorem statements?_textOf (lines : List Line) {n : Nat} (hn : lines.length < n) :
    statements? n (textOf lines) = some (lines.filterMap Line.statement?) := by
  -- A line takes one step, and so does the end of the text.
  induction lines generalizing n with
  | nil =>
    obtain ⟨n, rfl⟩ := Nat.exists_eq_succ_of_ne_zero (Nat.ne_of_gt hn)
    rfl
  | cons line lines ih =>
    obtain ⟨n, rfl⟩ := Nat.exists_eq_succ_of_ne_zero (Nat.ne_zero_of_lt hn)
    have hrest := ih (Nat.lt_of_succ_lt_succ hn)
    have hline := statements?_line line n (textOf lines)
    rw [textOf, List.flatMap_cons, List.append_assoc, List.singleton_append]
    rw [textOf] at hline hrest
    rw [hline, hrest, List.filterMap_cons]
    cases line.statement? <;> rfl

/-! ## Tables -/

/-- The statement of a plain field. -/
def fieldStatement (field : String × Value) : Statement := .entry [] field.1 field.2

/-- The field that a line gives. -/
def Item.field? : Item → Option (String × Value)
  | .entry key value => some (key.name, value.value)
  | .gap _ _ => none

/-- No dots are on a line. -/
def Item.IsPlain : Item → Prop
  | .entry key _ => key.dots = []
  | .gap _ _ => True

/-- The fields that the lines of a table give. -/
def fieldsOf (items : List Item) : Entries := items.filterMap Item.field?

/-- Lines of a table with plain keys hold the statements of its fields. -/
theorem statements_items {items : List Item} (h : ∀ i ∈ items, i.IsPlain) :
    (items.map Line.item).filterMap Line.statement? = (fieldsOf items).map fieldStatement := by
  rw [List.filterMap_map, fieldsOf, List.map_filterMap]
  refine List.filterMap_congr fun i hi => ?_
  have hplain := h i hi
  cases i with
  | entry key value =>
    rw [Item.IsPlain] at hplain
    simp [Line.statement?, Item.field?, fieldStatement, hplain]
  | gap text htext => rfl

/-- A name that no entry has is not found. -/
theorem lookup_of_not_mem {key : String} {entries : Entries}
    (h : key ∉ entries.map Prod.fst) : entries.lookup key = none := by
  rw [List.lookup_eq_none_iff]
  intro entry hentry
  rw [bne_iff_ne]
  rintro rfl
  exact h (List.mem_map_of_mem hentry)

/-- An entry at the end is found if no other has its name. -/
theorem lookup_concat {key : String} {v : Value} {entries : Entries}
    (h : key ∉ entries.map Prod.fst) : (entries ++ [(key, v)]).lookup key = some v := by
  rw [List.lookup_append, lookup_of_not_mem h]
  simp

/-- What is put in the place of the last entry takes the place of no other. -/
theorem put_concat {key : String} {v w : Value} {entries : Entries}
    (h : key ∉ entries.map Prod.fst) :
    put key w (entries ++ [(key, v)]) = entries ++ [(key, w)] := by
  -- `replace` goes through all entries, and none of the others has the key.
  have hothers : replace key w entries = entries := by
    refine (List.map_congr_left fun entry hentry => ?_).trans (List.map_id entries)
    refine if_neg ?_
    rintro rfl
    exact h (List.mem_map_of_mem hentry)
  rw [put, lookup_concat h, Option.isSome_some, if_pos rfl, replace, List.map_append,
    ← replace, hothers]
  simp

/-- Statements are carried out one part after the other. -/
theorem addAll_append (d : Draft) (xs ys : List Statement) :
    d.addAll (xs ++ ys) = (d.addAll xs).bind fun d => d.addAll ys := by
  induction xs generalizing d with
  | nil => rfl
  | cons x xs ih =>
    rw [List.cons_append, Draft.addAll, Draft.addAll]
    cases d.add x with
    | none => rfl
    | some d => exact ih d

/-- The name of the first new entry is new, and the others are so behind it. -/
theorem nodup_cons {field : String × Value} {entries fields : Entries}
    (h : ((entries ++ field :: fields).map Prod.fst).Nodup) :
    field.1 ∉ entries.map Prod.fst ∧ ((entries ++ [field] ++ fields).map Prod.fst).Nodup := by
  refine ⟨fun hmem => ?_, by rwa [List.append_assoc, List.singleton_append]⟩
  rw [List.map_append, List.map_cons] at h
  exact (List.nodup_append.mp h).2.2 _ hmem _ List.mem_cons_self rfl

/-- An entry with a new name comes to the end. -/
theorem addNew_of_not_mem {key : String} {v : Value} {entries : Entries}
    (h : key ∉ entries.map Prod.fst) : addNew key v entries = some (entries ++ [(key, v)]) := by
  rw [addNew, lookup_of_not_mem h]
  rfl

/-- Outside of the tables, fields with new names are added one after the other. -/
theorem addAll_loose (fields entries : Entries)
    (h : ((entries ++ fields).map Prod.fst).Nodup) :
    Draft.addAll ⟨[], entries⟩ (fields.map fieldStatement) = some ⟨[], entries ++ fields⟩ := by
  induction fields generalizing entries with
  | nil => simp [Draft.addAll]
  | cons field fields ih =>
    obtain ⟨hnew, hrest⟩ := nodup_cons h
    have hadd : Draft.add ⟨[], entries⟩ (fieldStatement field) =
        some ⟨[], entries ++ [field]⟩ := by
      simp [Draft.add, fieldStatement, changeAt, addDotted, addNew_of_not_mem hnew]
    rw [List.map_cons, Draft.addAll, hadd, Option.bind_some, ih _ hrest, List.append_assoc,
      List.singleton_append]

/-- In the table of the last header, too. -/
theorem addAll_fields (title : String) (fields inner : Entries) {entries : Entries}
    (htitle : title ∉ entries.map Prod.fst) (h : ((inner ++ fields).map Prod.fst).Nodup) :
    Draft.addAll ⟨[title], entries ++ [(title, .table .header inner)]⟩
        (fields.map fieldStatement) =
      some ⟨[title], entries ++ [(title, .table .header (inner ++ fields))]⟩ := by
  induction fields generalizing inner with
  | nil => simp [Draft.addAll]
  | cons field fields ih =>
    obtain ⟨hnew, hrest⟩ := nodup_cons h
    have hadd : Draft.add ⟨[title], entries ++ [(title, .table .header inner)]⟩
        (fieldStatement field) =
          some ⟨[title], entries ++ [(title, .table .header (inner ++ [field]))]⟩ := by
      simp [Draft.add, fieldStatement, changeAt, addDotted, addNew_of_not_mem hnew,
        lookup_concat htitle, put_concat htitle]
    rw [List.map_cons, Draft.addAll, hadd, Option.bind_some, ih _ hrest, List.append_assoc,
      List.singleton_append]

/-! ## Documents -/

/-- A table as it is laid out: a header, and lines below it. -/
structure Section where
  title : Name
  items : List Item

/-- The table of a section, with its name. -/
def Section.entry (s : Section) : String × Value :=
  (s.title.name, .table .header (fieldsOf s.items))

/-- The lines of a section: its header, and its items below it. -/
def Section.lines (s : Section) : List Line := .header s.title :: s.items.map .item

/-- The header and the keys of a section have no dots. -/
def Section.IsPlain (s : Section) : Prop := s.title.dots = [] ∧ ∀ i ∈ s.items, i.IsPlain

/-- A document as it is laid out: lines outside of the tables, and then the tables. No name is
given twice, and none has dots. -/
structure Layout where
  loose : List Item
  sections : List Section
  looseArePlain : ∀ i ∈ loose, i.IsPlain
  sectionsArePlain : ∀ s ∈ sections, s.IsPlain
  names : ((fieldsOf loose ++ sections.map Section.entry).map Prod.fst).Nodup
  keys : ∀ s ∈ sections, ((fieldsOf s.items).map Prod.fst).Nodup

namespace Layout

/-- The lines of a layout. -/
def lines (l : Layout) : List Line := l.loose.map .item ++ l.sections.flatMap Section.lines

/-- The text of a document. -/
def text (l : Layout) : List Char := textOf l.lines

/-- What the document holds. -/
def entries (l : Layout) : Entries := fieldsOf l.loose ++ l.sections.map Section.entry

end Layout

/-- The lines of a section add one table to the document, if its name is new and no key is given
twice. -/
theorem addAll_section {s : Section} (hplain : s.IsPlain) (path : List String) {entries : Entries}
    (hnew : s.title.name ∉ entries.map Prod.fst)
    (hkeys : ((fieldsOf s.items).map Prod.fst).Nodup) :
    Draft.addAll ⟨path, entries⟩ (s.lines.filterMap Line.statement?) =
      some ⟨[s.title.name], entries ++ [s.entry]⟩ := by
  have hheader : Draft.add ⟨path, entries⟩ (.header [] s.title.name) =
      some ⟨[s.title.name], entries ++ [(s.title.name, .table .header [])]⟩ := by
    simp [Draft.add, changeAt, beginTable, lookup_of_not_mem hnew]
  have hfields := addAll_fields s.title.name (fieldsOf s.items) [] hnew hkeys
  have hstatements : s.lines.filterMap Line.statement? =
      .header [] s.title.name :: (fieldsOf s.items).map fieldStatement := by
    rw [← statements_items hplain.2, ← hplain.1]
    rfl
  rw [hstatements, Draft.addAll, hheader, Option.bind_some, hfields]
  rfl

/-- Sections with different names each add their table. -/
theorem addAll_sections (sections : List Section) (path : List String) (entries : Entries)
    (hnames : ((entries ++ sections.map Section.entry).map Prod.fst).Nodup)
    (hkeys : ∀ s ∈ sections, ((fieldsOf s.items).map Prod.fst).Nodup)
    (hplain : ∀ s ∈ sections, s.IsPlain) :
    ∃ path', Draft.addAll ⟨path, entries⟩
        ((sections.flatMap Section.lines).filterMap Line.statement?) =
      some ⟨path', entries ++ sections.map Section.entry⟩ := by
  induction sections generalizing path entries with
  | nil => exact ⟨path, by simp [Draft.addAll]⟩
  | cons s sections ih =>
    -- The path is that of the last header, whatever it was, so the induction goes over it.
    obtain ⟨hs, hsections⟩ := List.forall_mem_cons.mp hkeys
    obtain ⟨hplain, hplains⟩ := List.forall_mem_cons.mp hplain
    obtain ⟨hnew, hrest⟩ := nodup_cons hnames
    obtain ⟨path', hpath'⟩ := ih [s.title.name] (entries ++ [s.entry]) hrest hsections hplains
    refine ⟨path', ?_⟩
    rw [List.flatMap_cons, List.filterMap_append, addAll_append, addAll_section hplain path hnew hs,
      Option.bind_some, hpath', List.append_assoc, List.map_cons, List.singleton_append]

/-- No line begins with a byte order mark. -/
theorem head?_text_ne (line : Line) (later : List Char) :
    (line.text ++ '\n' :: later).head? ≠ some '\ufeff' := by
  have hskip (cs : List Char) : skipBlanks ('\ufeff' :: cs) = '\ufeff' :: cs :=
    skipBlanks_of_head (by decide) cs
  -- a header begins with its bracket, a field with a key, and a gap with layout or a comment
  rcases line with title | title | ⟨key, value⟩ | ⟨text, htext⟩
  · rw [Line.text, List.cons_append, List.head?_cons]
    decide
  · rw [Line.text, List.cons_append, List.head?_cons]
    decide
  · obtain ⟨c, more, hblanks, hc⟩ := head_of_key? key.reads
    rw [Line.text, List.append_assoc]
    cases hkey : key.text with
    | nil =>
      rw [hkey] at hblanks
      cases hblanks
    | cons d rest =>
      rw [List.cons_append, List.head?_cons]
      rintro ⟨⟩
      rw [hkey, hskip] at hblanks
      cases hblanks
      revert hc
      decide
  · rw [Line.text]
    cases text with
    | nil =>
      rw [List.nil_append, List.head?_cons]
      decide
    | cons d rest =>
      rw [List.cons_append, List.head?_cons]
      rintro ⟨⟩
      rw [hskip, dropComment_of_ne (by decide)] at htext
      cases htext

/-- Lines do not begin with a byte order mark. -/
theorem dropLeading?_textOf (lines : List Line) :
    Text.dropLeading? ['\ufeff'] (textOf lines) = none := by
  cases lines with
  | nil => rfl
  | cons line lines =>
    have hhead := head?_text_ne line (textOf lines)
    rw [textOf, List.flatMap_cons, List.append_assoc, List.singleton_append, ← textOf]
    cases htext : line.text ++ '\n' :: textOf lines with
    | nil => rfl
    | cons c rest =>
      rw [htext] at hhead
      have hc : '\ufeff' ≠ c := fun heq => hhead (by rw [heq]; rfl)
      rw [Text.dropLeading?, if_neg hc]

/-- There are no more lines than characters. -/
theorem length_le_textOf (lines : List Line) : lines.length ≤ (textOf lines).length := by
  induction lines with
  | nil => exact Nat.le_refl _
  | cons line lines ih =>
    rw [textOf, List.flatMap_cons, List.length_append, ← textOf, List.length_append,
      List.length_cons, List.length_singleton]
    omega

/-- Lines are read as the document that their statements make, if they make one. -/
theorem read?_textOf (lines : List Line) :
    read? (textOf lines) = document? (lines.filterMap Line.statement?) := by
  have hstatements : statements? ((textOf lines).length + 1) (textOf lines) =
      some (lines.filterMap Line.statement?) :=
    statements?_textOf lines (Nat.lt_succ_of_le (length_le_textOf lines))
  rw [read?, dropLeading?_textOf, Option.getD_none, hstatements, Option.bind_some]

/-- A layout is read as the document that its tables make. -/
theorem read?_layout (l : Layout) : read? l.text = some (.table .header l.entries) := by
  have hloose : Draft.addAll {} ((l.loose.map Line.item).filterMap Line.statement?) =
      some ⟨[], fieldsOf l.loose⟩ := by
    rw [statements_items l.looseArePlain]
    refine addAll_loose (fieldsOf l.loose) [] ?_
    have hnames := l.names
    rw [List.map_append] at hnames
    exact (List.nodup_append.mp hnames).1
  obtain ⟨path, hsections⟩ := addAll_sections l.sections [] (fieldsOf l.loose) l.names l.keys
    l.sectionsArePlain
  rw [Layout.text, read?_textOf, document?, Layout.lines, List.filterMap_append, addAll_append,
    hloose, Option.bind_some, hsections]
  rfl

end GcodeSender.Toml
