import GcodeSender.Program.Load
import GcodeSender.Proofs.Text.Blank
import GcodeSender.Proofs.Text.Lines

/-!
# `GcodeSender.Proofs.Program.Loading`: one program, however it is loaded

A program comes from a list of lines, from a text, from bytes or from a file. A text is cut into
lines that are decoded already; bytes are cut first and decoded line by line. The lines are the
same (`ofBytes_encode`), and an invalid line spoils the load just where the bytes are invalid as a
whole (`ofBytes_eq_unreadable_iff`).

What ends a line, and whether the last one is ended, makes no difference, because nothing of it is
sent: the lines of a text send what its pieces between line feeds send (`filterMap_lines`).

* `ofText_joined`: lines that are joined by line feeds give the program of the lines.
* `IsSent`: what holds of every line of a program.
* `loaders_agree`: what follows for all ways to load a program.
-/

set_option autoImplicit false

namespace GcodeSender.Program

/-! ### One line -/

/-- A carriage return at the end of a line is not sent. -/
theorem clean_append_return (source : List Char) : clean (source ++ ['\r']) = clean source := by
  have hreturn : ∀ c ∈ ['\r'], Text.isBlank c = true :=
    List.forall_mem_singleton.mpr (by decide)
  unfold clean
  rw [List.dropWhile_append]
  split
  · -- nothing else is left of the line
    rename_i hmarks
    rw [List.isEmpty_iff.mp hmarks]
    decide
  · exact @Text.trim_surrounded [] _ _ (by simp) hreturn

/-- A carriage return at the end of a line does not matter to what is sent. -/
theorem sendable?_dropReturn (source : List Char) :
    sendable? (Text.dropReturn '\r' source) = sendable? source := by
  unfold Text.dropReturn
  split
  · rename_i hlast
    obtain ⟨front, rfl⟩ := List.getLast?_eq_some_iff.mp hlast
    rw [List.dropLast_concat, sendable?, sendable?, clean_append_return]
  · rfl

/-- The lines of a text send what the pieces between its line feeds send. -/
theorem filterMap_closeLines (first : List Char) (later : List (List Char)) :
    (Text.closeLines '\r' first later).filterMap sendable? =
      (first :: later).filterMap sendable? := by
  induction later generalizing first with
  | nil =>
    unfold Text.closeLines
    split
    · -- an empty piece at the end is no line, and would not be sent
      rename_i hempty
      rw [hempty]
      rfl
    · rfl
  | cons next later ih =>
    rw [Text.closeLines, List.filterMap_cons, List.filterMap_cons, sendable?_dropReturn, ih]

/-- So it makes no difference whether lines end with one or without. -/
theorem filterMap_lines (cs : List Char) :
    (Text.lines cs).filterMap sendable? = (Text.pieces '\n' cs).filterMap sendable? :=
  filterMap_closeLines _ _

/-! ### Texts -/

/-- The lines of a program are the sendable ones of its source. -/
theorem lines_ofLines (source : List (List Char)) :
    (ofLines (source.map String.ofList)).lines =
      (source.filterMap sendable?).map String.ofList := by
  rw [ofLines, List.filterMap_map, List.map_filterMap]
  refine List.filterMap_congr fun line _ => ?_
  rw [Function.comp_apply, String.toList_ofList]

/-- Programs with the same lines to be sent are the same. -/
theorem ofLines_eq_of_filterMap {source source' : List (List Char)}
    (h : source.filterMap sendable? = source'.filterMap sendable?) :
    ofLines (source.map String.ofList) = ofLines (source'.map String.ofList) := by
  have hlines : (ofLines (source.map String.ofList)).lines =
      (ofLines (source'.map String.ofList)).lines := by
    rw [lines_ofLines, lines_ofLines, h]
  exact congrArg Program.mk hlines

/-- A text is loaded as the pieces between its line feeds. -/
theorem ofText_eq (text : String) :
    ofText text = (ofLines ((Text.pieces '\n' text.toList).map String.ofList)).nonEmpty := by
  rw [ofText, ofLines_eq_of_filterMap (filterMap_lines text.toList)]

/-! ### Bytes -/

/-- Lines that are encoded are decoded as they were. -/
theorem decodeLines_encode (source : List (List Char)) :
    decodeLines (source.map Text.encode) = .ok (source.map String.ofList) := by
  induction source with
  | nil => rfl
  | cons line source ih =>
    have hline : Text.decode (Text.encode line) = .ok line := Text.decode_eq_ok_iff.mpr rfl
    simp only [List.map_cons, decodeLines, hline, ih]
    rfl

/-- One line that is not valid spoils the load, wherever it stands. -/
theorem decodeLines_invalid {lines : List (List UInt8)}
    (h : ¬∀ line ∈ lines, ∃ cs, line = Text.encode cs) : decodeLines lines = .error notUtf8 := by
  induction lines with
  | nil => exact absurd (fun line hline => by cases hline) h
  | cons line lines ih =>
    unfold decodeLines
    cases hline : Text.decode line with
    | error fault => rfl
    | ok cs =>
      -- the first line is valid, so the bad one is behind it
      have hrest : ¬∀ line ∈ lines, ∃ cs, line = Text.encode cs := by
        intro hrest
        refine h fun other hother => ?_
        rcases List.mem_cons.mp hother with rfl | hother
        · exact ⟨cs, Text.decode_eq_ok_iff.mp hline⟩
        · exact hrest other hother
      simp only [ih hrest]
      rfl

/-- The bytes of a text are loaded as the text. -/
theorem ofBytes_encode (cs : List Char) :
    ofBytes (Text.encode cs) = ofText (String.ofList cs) := by
  rw [ofBytes, Text.byteLines_encode, decodeLines_encode, ofText, String.toList_ofList]

/-- Bytes that are no text are refused as such. -/
theorem ofBytes_invalid {bytes : List UInt8} (h : ¬∃ cs, bytes = Text.encode cs) :
    ofBytes bytes = .error notUtf8 := by
  rw [ofBytes, decodeLines_invalid fun hlines => h (Text.exists_encode_of_byteLines hlines)]

/-- A program that was read is not said to be unreadable. -/
theorem nonEmpty_ne_unreadable (p : Program) (reason : String) :
    p.nonEmpty ≠ .error (.unreadable reason) := by
  unfold nonEmpty
  split <;> exact nofun

/-- Bytes cannot be read just where they are not valid as a whole. -/
theorem ofBytes_eq_unreadable_iff {bytes : List UInt8} :
    (∃ reason, ofBytes bytes = .error (.unreadable reason)) ↔
      ¬bytes.toByteArray.IsValidUTF8 := by
  rw [Text.isValidUTF8_iff]
  constructor
  · rintro ⟨reason, hreason⟩ ⟨cs, rfl⟩
    rw [ofBytes_encode, ofText] at hreason
    exact nonEmpty_ne_unreadable _ reason hreason
  · exact fun h => ⟨_, ofBytes_invalid h⟩

/-! ### Ends of lines -/

/-- Lines, each with its end: a line feed, or a carriage return and a line feed. -/
def ended (rows : List (String × Bool)) : String :=
  String.ofList (rows.flatMap fun row => row.1.toList ++ if row.2 then ['\r', '\n'] else ['\n'])

/-- A line in front of a line feed is a piece. -/
theorem pieces_append {line : List Char} (h : '\n' ∉ line) (rest : List Char) :
    Text.pieces '\n' (line ++ '\n' :: rest) = line :: Text.pieces '\n' rest := by
  rw [Text.pieces, Text.cut_append '\n' line _ h, Text.cut_sep, List.append_nil]

/-- Whatever ends a line, the line is sent. -/
theorem filterMap_pieces_ended {rows : List (String × Bool)} {last : String}
    (hrows : ∀ row ∈ rows, '\n' ∉ row.1.toList) (hlast : '\n' ∉ last.toList) :
    (Text.pieces '\n' (ended rows ++ last).toList).filterMap sendable? =
      ((rows.map fun row => row.1.toList) ++ [last.toList]).filterMap sendable? := by
  rw [String.toList_append, ended, String.toList_ofList]
  -- on the ended lines: each is the first piece of what is left of the text
  induction rows with
  | nil =>
    have hpiece := Text.cut_append '\n' last.toList [] hlast
    rw [List.append_nil] at hpiece
    simp [Text.pieces, hpiece, Text.cut]
  | cons row rows ih =>
    have hline : '\n' ∉ row.1.toList := hrows row List.mem_cons_self
    have hmore := ih fun row hrow => hrows row (List.mem_cons_of_mem _ hrow)
    rw [List.flatMap_cons, List.append_assoc, List.append_assoc, List.map_cons, List.cons_append,
      List.filterMap_cons, ← hmore]
    cases row.2 with
    | false =>
      have hpiece := pieces_append hline ((rows.flatMap fun row =>
        row.1.toList ++ if row.2 then ['\r', '\n'] else ['\n']) ++ last.toList)
      simp only [Bool.false_eq_true, if_false, List.singleton_append]
      rw [hpiece, List.filterMap_cons]
    | true =>
      -- the carriage return belongs to the piece, which is sent without it
      have hreturn : '\n' ∉ row.1.toList ++ ['\r'] := by simp [hline]
      have hpiece := pieces_append hreturn ((rows.flatMap fun row =>
        row.1.toList ++ if row.2 then ['\r', '\n'] else ['\n']) ++ last.toList)
      rw [List.append_assoc] at hpiece
      simp only [if_true, List.cons_append, List.nil_append] at hpiece ⊢
      rw [hpiece, List.filterMap_cons, sendable?, clean_append_return, sendable?]

/-- A text is loaded as its lines, whatever ends them and whether the last one is ended. -/
theorem ofText_ended {rows : List (String × Bool)} {last : String}
    (hrows : ∀ row ∈ rows, '\n' ∉ row.1.toList) (hlast : '\n' ∉ last.toList) :
    ofText (ended rows ++ last) = (ofLines (rows.map (·.1) ++ [last])).nonEmpty := by
  have hsource : rows.map (·.1) ++ [last] =
      ((rows.map fun row => row.1.toList) ++ [last.toList]).map String.ofList := by
    simp [Function.comp_def]
  rw [ofText_eq, hsource, ofLines_eq_of_filterMap (filterMap_pieces_ended hrows hlast)]

/-- An empty line at the end is not sent. -/
theorem ofLines_append_empty (source : List String) :
    ofLines (source ++ [""]) = ofLines source := by
  have hnone : sendable? [] = none := rfl
  simp [ofLines, List.filterMap_append, hnone]

/-- To join lines is to put line feeds between them. -/
theorem joined_eq_intercalate (first : List Char) (later : List (List Char)) :
    Text.joined '\n' first later = ['\n'].intercalate (first :: later) := by
  induction later generalizing first with
  | nil => simp [Text.joined, List.intercalate]
  | cons next later ih =>
    have hrest := ih next
    simp only [Text.joined, List.intercalate] at hrest ⊢
    simp [hrest]

/-- Lines that are joined by line feeds are loaded as the lines. -/
theorem ofText_intercalate {source : List String} (h : ∀ line ∈ source, '\n' ∉ line.toList) :
    ofText ("\n".intercalate source) = (ofLines source).nonEmpty := by
  cases source with
  | nil => decide
  | cons first later =>
    have hsource : (first :: later) = ((first :: later).map String.toList).map String.ofList := by
      -- none of the lines is cut, and the cuts are where they are joined
      simp [Function.comp_def]
    have hfirst : '\n' ∉ first.toList := h first List.mem_cons_self
    have hlater : ∀ line ∈ later.map String.toList, '\n' ∉ line := by
      intro line hline
      obtain ⟨other, hother, rfl⟩ := List.mem_map.mp hline
      exact h other (List.mem_cons_of_mem _ hother)
    have hpieces := Text.cut_joined '\n' first.toList _ hfirst hlater
    have htext : ("\n".intercalate (first :: later)).toList =
        Text.joined '\n' first.toList (later.map String.toList) := by
      rw [String.toList_intercalate, joined_eq_intercalate]
      rfl
    rw [ofText_eq, htext, Text.pieces, hpieces]
    conv_rhs => rw [hsource, List.map_cons]

/-! ### What is sent -/

/-- A source line without byte order marks at its beginning, and then without blanks. -/
def cleaned (line : String) : String := String.ofList (clean line.toList)

/-- A line that is sent: there is something in it, it has no blanks at its ends, and it is no
comment. -/
structure IsSent (line : String) : Prop where
  ne_empty : line ≠ ""
  first_solid : ∀ c, line.toList.head? = some c → Text.isBlank c = false
  last_solid : ∀ c, line.toList.getLast? = some c → Text.isBlank c = false
  no_comment : line.toList.head? ≠ some ';'

/-- A line is sent unless it is empty or a comment. -/
theorem isSendable_iff {cs : List Char} : isSendable cs = true ↔ cs ≠ [] ∧ cs.head? ≠ some ';' := by
  cases cs <;> simp [isSendable]

/-- Of the cleaned source lines, the empty ones and the comments are dropped, and no others. -/
theorem lines_eq_filter (source : List String) :
    (ofLines source).lines = (source.map cleaned).filter fun line =>
      line ≠ "" ∧ line.toList.head? ≠ some ';' := by
  rw [ofLines, ← List.filterMap_eq_filter, List.filterMap_map]
  refine List.filterMap_congr fun line _ => ?_
  -- a cleaned line is sent under the same two conditions
  have hkept : isSendable (clean line.toList) = true ↔
      cleaned line ≠ "" ∧ (cleaned line).toList.head? ≠ some ';' := by
    rw [isSendable_iff, cleaned, String.toList_ofList, ne_eq, ne_eq (String.ofList _),
      ← String.toList_inj, String.toList_ofList]
    rfl
  rw [Function.comp_apply, sendable?]
  by_cases h : isSendable (clean line.toList) = true
  · rw [if_pos h, Option.guard, if_pos (decide_eq_true (hkept.mp h))]
    rfl
  · rw [if_neg h, Option.guard, if_neg (mt of_decide_eq_true (mt hkept.mpr h))]
    rfl

/-- What is left of a line stood in it. -/
theorem mem_of_mem_clean {source : List Char} {c : Char} (h : c ∈ clean source) : c ∈ source := by
  obtain ⟨before, after, hsource, -, -⟩ :=
    Text.exists_surrounded (source.dropWhile (· = '\ufeff'))
  have hc : c ∈ source.dropWhile (· = '\ufeff') := by
    rw [hsource]
    exact List.mem_append_left _ (List.mem_append_right _ h)
  exact (List.dropWhile_suffix _).subset hc

/-- Every line of a program is fit to be sent, and was cleaned of a line of the source. -/
theorem isSent_of_mem {source : List String} {line : String} (h : line ∈ (ofLines source).lines) :
    IsSent line ∧ ∃ origin ∈ source, line = cleaned origin := by
  rw [lines_eq_filter] at h
  obtain ⟨hmem, hkept⟩ := List.mem_filter.mp h
  obtain ⟨hempty, hcomment⟩ := of_decide_eq_true hkept
  obtain ⟨origin, horigin, rfl⟩ := List.mem_map.mp hmem
  have htrim : Text.trim (cleaned origin).toList = (cleaned origin).toList := by
    rw [cleaned, String.toList_ofList, clean, Text.trim_trim]
  obtain ⟨hfirst, hlast⟩ := Text.trim_eq_self_iff.mp htrim
  exact ⟨⟨hempty, hfirst, hlast, hcomment⟩, origin, horigin, rfl⟩

/-- A program that was loaded in one of the four ways. A list of lines holds no line feed in any
of its lines. -/
inductive Loaded (p : Program) : Prop
  | lines {source : List String} (hwhole : ∀ line ∈ source, '\n' ∉ line.toList)
      (h : p = ofLines source)
  | text {text : String} (h : ofText text = .ok p)
  | bytes {bytes : List UInt8} (h : ofBytes bytes = .ok p)
  | file {t : Files.Tree} {path : String} (h : load t path = .ok p)

/-- A program that is not refused is kept as it is. -/
theorem eq_of_nonEmpty {p q : Program} (h : p.nonEmpty = .ok q) : p = q := by
  unfold nonEmpty at h
  split at h
  · cases h
  · exact Except.ok.inj h

/-- However a program is loaded, it is that of some lines without line feeds. -/
theorem Loaded.exists_source {p : Program} (h : p.Loaded) :
    ∃ source : List String, (∀ line ∈ source, '\n' ∉ line.toList) ∧ p = ofLines source := by
  have htext : ∀ {text : String}, ofText text = .ok p →
      ∃ source : List String, (∀ line ∈ source, '\n' ∉ line.toList) ∧ p = ofLines source := by
    -- the pieces of a text hold no line feed
    intro text htext
    rw [ofText_eq] at htext
    refine ⟨_, fun line hline => ?_, (eq_of_nonEmpty htext).symm⟩
    obtain ⟨piece, hpiece, rfl⟩ := List.mem_map.mp hline
    rw [String.toList_ofList]
    rcases List.mem_cons.mp hpiece with rfl | hpiece
    · exact Text.sep_not_mem_cut_fst '\n' _
    · exact Text.sep_not_mem_of_mem_cut_snd '\n' _ piece hpiece
  have hbytes : ∀ {bytes : List UInt8}, ofBytes bytes = .ok p →
      ∃ source : List String, (∀ line ∈ source, '\n' ∉ line.toList) ∧ p = ofLines source := by
    intro bytes hbytes
    -- bytes that are no text load nothing
    by_cases hvalid : ∃ cs, bytes = Text.encode cs
    · obtain ⟨cs, rfl⟩ := hvalid
      rw [ofBytes_encode] at hbytes
      exact htext hbytes
    · rw [ofBytes_invalid hvalid] at hbytes
      cases hbytes
  cases h with
  | lines hwhole h => exact ⟨_, hwhole, h⟩
  | text h => exact htext h
  | bytes h => exact hbytes h
  | file h =>
    unfold load at h
    split at h
    · cases h
    · cases h
    · exact hbytes h

/-- All ways to load a program agree:

* bytes cannot be read just where they are not valid UTF-8 as a whole. The bytes of a text are
  loaded as the text, and a file as the bytes that it holds;
* a text is loaded as its lines, whether a line feed ends them or a carriage return and a line
  feed, and whether the last one is ended;
* lines without line feeds that are joined by line feeds are loaded as the lines, and the result
  says so if nothing is sent;
* the program of some lines is made of these lines, without byte order marks and then without
  blanks, in their order. Those that are empty then or comments are dropped, and no others. What
  is left is fit to be sent. The source lines of a text are its lines;
* every line of a program that was loaded is fit to be sent and holds no line feed. -/
theorem loaders_agree :
    (∀ bytes : List UInt8, (∃ reason, ofBytes bytes = .error (.unreadable reason)) ↔
      ¬bytes.toByteArray.IsValidUTF8) ∧
    (∀ (bytes : List UInt8) (text : String), bytes.toByteArray = text.toUTF8 →
      ofBytes bytes = ofText text) ∧
    (∀ (t : Files.Tree) (path : String) (bytes : List UInt8), t.lookup path = .ok (.file bytes) →
      load t path = ofBytes bytes) ∧
    (∀ rows : List (String × Bool), (∀ row ∈ rows, '\n' ∉ row.1.toList) →
      ofText (ended rows) = (ofLines (rows.map (·.1))).nonEmpty ∧
      ∀ last : String, '\n' ∉ last.toList →
        ofText (ended rows ++ last) = (ofLines (rows.map (·.1) ++ [last])).nonEmpty) ∧
    (∀ source : List String, (∀ line ∈ source, '\n' ∉ line.toList) →
      ofText ("\n".intercalate source) =
        if (ofLines source).lines = [] then .error .empty else .ok (ofLines source)) ∧
    (∀ source : List String, ((ofLines source).lines = (source.map cleaned).filter fun line =>
      line ≠ "" ∧ line.toList.head? ≠ some ';') ∧ ∀ line ∈ (ofLines source).lines, IsSent line) ∧
    (∀ text p, ofText text = .ok p →
      p = ofLines ((Text.lines text.toList).map String.ofList)) ∧
    ∀ p : Program, p.Loaded → ∀ line ∈ p.lines, IsSent line ∧ '\n' ∉ line.toList := by
  refine ⟨fun _ => ofBytes_eq_unreadable_iff, fun bytes text htext => ?_,
    fun t path bytes hfile => by rw [load, hfile], fun rows hrows => ⟨?_, fun last hlast =>
      ofText_ended hrows hlast⟩, fun source => ofText_intercalate,
    fun source => ⟨lines_eq_filter source, fun _ hline => (isSent_of_mem hline).1⟩,
    fun text p htext => (eq_of_nonEmpty htext).symm, fun p hloaded line hline => ?_⟩
  · have hbytes : bytes.toByteArray = (Text.encode text.toList).toByteArray := by
      rw [htext, Text.toByteArray_encode, ← String.toByteArray_ofList, String.ofList_toList]
      rfl
    rw [List.toByteArray_inj.mp hbytes, ofBytes_encode, String.ofList_toList]
  · -- an ended line is followed by an empty one that is not
    have hended : ofText (ended rows ++ "") = (ofLines (rows.map (·.1) ++ [""])).nonEmpty :=
      ofText_ended hrows (by decide)
    rwa [String.append_empty, ofLines_append_empty] at hended
  · obtain ⟨source, hwhole, rfl⟩ := hloaded.exists_source
    obtain ⟨hsent, origin, horigin, rfl⟩ := isSent_of_mem hline
    refine ⟨hsent, fun hfeed => hwhole origin horigin ?_⟩
    rw [cleaned, String.toList_ofList] at hfeed
    exact mem_of_mem_clean hfeed

/-- Three lines with mixed ends, of which one is a comment and one begins with a mark. -/
def mixedRows : List (String × Bool) :=
  [("\ufeffG90", true), ("; note", false), (" G1 X1 ", true)]

/-- A file of three lines with mixed ends, a byte that is not UTF-8, and lines of which none is
sent. -/
theorem loaders_agree_mixedRows :
    ofText (ended mixedRows) = .ok ⟨["G90", "G1 X1"]⟩ ∧
    ofBytes (Text.encode (ended mixedRows).toList) = ofText (ended mixedRows) ∧
    ({ entries := [(["a"], .file [71, 255, 10])] } : Files.Tree).lookup "a" =
      .ok (.file [71, 255, 10]) ∧
    load { entries := [(["a"], .file [71, 255, 10])] } "a" = .error notUtf8 ∧
    ¬(List.toByteArray [71, 255, 10]).IsValidUTF8 ∧
    ofText ("\n".intercalate ["; note", ""]) = .error .empty ∧
    IsSent "G1 X1" := by
  obtain ⟨hunreadable, htext, hfile, hended, hjoined, -, -, hsent⟩ := loaders_agree
  have hrows : ∀ row ∈ mixedRows, '\n' ∉ row.1.toList := by decide
  have hloaded : ofText (ended mixedRows) = .ok ⟨["G90", "G1 X1"]⟩ :=
    (hended mixedRows hrows).1.trans (by decide)
  have hbytes : (Text.encode (ended mixedRows).toList).toByteArray = (ended mixedRows).toUTF8 := by
    rw [Text.toByteArray_encode, ← String.toByteArray_ofList, String.ofList_toList]
    rfl
  have hopened : ({ entries := [(["a"], .file [71, 255, 10])] } : Files.Tree).lookup "a" =
      .ok (.file [71, 255, 10]) := by decide
  have hbroken : ofBytes [71, 255, 10] = .error notUtf8 := by decide
  refine ⟨hloaded, htext _ _ hbytes, hopened, ?_, ?_, ?_, ?_⟩
  · rw [hfile _ _ _ hopened, hbroken]
  · exact (hunreadable [71, 255, 10]).mp ⟨_, hbroken⟩
  · rw [hjoined ["; note", ""] (by decide)]
    decide
  · exact (hsent _ (.text hloaded) "G1 X1" (by decide)).1

end GcodeSender.Program
