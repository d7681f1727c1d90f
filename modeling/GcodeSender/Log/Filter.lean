import GcodeSender.Decimal.Reader
import GcodeSender.Decimal.Whole
import GcodeSender.Log.Record
import GcodeSender.Text.Blank
import GcodeSender.Text.Case
import GcodeSender.Text.Pattern
import GcodeSender.Text.Split

/-!
# `GcodeSender.Log.Filter`: which log records are shown

A filter is a list of directives. Each sets the least urgent level that
is shown, either for everything, or for the parts of the program whose
paths begin in a certain way, or for the records with a certain field.
Of the directives that cover a record the most particular one counts,
and of equal ones the last.

Filters are written as directives separated by commas, such as
`warn,grblstream::console=debug` or `info,[{state}]=off`. A text with one
bad directive is no filter at all.
-/

set_option autoImplicit false

namespace GcodeSender.Log

/-- The least urgent level that is shown, or nothing for none at all. -/
abbrev Threshold := Option Level

/-- Whether a level is shown. -/
def Threshold.shows (t : Threshold) (l : Level) : Bool :=
  match t with
  | some least => least.rank ≤ l.rank
  | none => false

/-- One rule of a filter. -/
inductive Directive where
  /-- Concerns the records of the parts whose paths begin with `start`, and
  of them those that have the field; without these, all of them. -/
  | records (start field : Option String) (t : Threshold)
  /-- Concerns spans of time, which no record of this program lies in. -/
  | spans
deriving DecidableEq, Repr

/-- Whether a record has a field. Its message is one. -/
def Record.has (r : Record) (field : String) : Bool :=
  field = "message" || r.fields.any (·.1 = field)

def Directive.covers (r : Record) : Directive → Bool
  | .records start field _ =>
    start.all (fun s => s.toList.isPrefixOf r.origin.path.toList) && field.all r.has
  | .spans => false

/-- How particular a directive is: first, how much of the path it gives;
then whether it asks for a field, and for which in the order of names. -/
def Directive.particularity : Directive → Nat × String
  | .records start field _ => (start.elim 0 String.length, field.getD "")
  | .spans => (0, "")

def Directive.threshold : Directive → Threshold
  | .records _ _ t => t
  | .spans => none

/-- A filter. -/
abbrev Filter := List Directive

/-- The filter where none is asked for. -/
def Filter.default : Filter := [.records none none (some .info)]

/-- Whether a directive is more particular than another. -/
def Directive.outdoes (a b : Directive) : Bool :=
  let (m, f) := a.particularity
  let (n, g) := b.particularity
  n < m || m = n && g < f

/-- The more particular of two directives, and of equal ones the second. -/
def Directive.closer (a : Option Directive) (b : Directive) : Option Directive :=
  match a with
  | some a => if a.outdoes b then some a else some b
  | none => some b

/-- The directive that counts for a record. -/
def Filter.closest? (f : Filter) (r : Record) : Option Directive :=
  (f.filter (·.covers r)).foldl Directive.closer none

/-- Whether a record is shown. -/
def Filter.shows (f : Filter) (r : Record) : Bool :=
  match f.closest? r with
  | some d => d.threshold.shows r.level
  | none => false

/-! ### Reading -/

/-- The names of the thresholds. -/
def thresholdNames : List (String × Threshold) :=
  [("off", none), ("error", some .error), ("warn", some .warn), ("info", some .info),
   ("debug", some .debug), ("trace", some .trace)]

/-- A threshold as a number, from zero for none. -/
def thresholdOfNumber? (cs : List Char) : Option Threshold :=
  match cs.head?, Decimal.readWhole 0 18446744073709551615 cs with
  | some '-', _ => none
  | _, .ok n => (thresholdNames[n.toNat]?).map (·.2)
  | _, .error _ => none

/-- A threshold by its number, or by its name in any case. -/
def Threshold.ofText? (cs : List Char) : Option Threshold :=
  (thresholdOfNumber? cs).or
    ((thresholdNames.find? fun (name, _) => Text.sameIgnoringCase name.toList cs).map (·.2))

/-- The threshold in what follows the path and the brackets. None stands
for every level, and so does an empty one. -/
def Threshold.ofEnd? : List Char → Option Threshold
  | '=' :: level => if level = [] then some (some .trace) else Threshold.ofText? level
  | behind => if Text.trim behind = [] then some (some .trace) else none

/-- Whether a field may have a value in a directive: it is a number or a
pattern. -/
def isFieldValue (cs : List Char) : Bool :=
  (Decimal.read cs).toOption.isSome || Text.Pattern.isWellFormed cs

/-- What a directive concerns, by the text in its braces. Only spans are
selected by the value of a field. -/
def selection? (start : Option String) (ofSpan : Bool) (field : List Char) :
    Option (Threshold → Directive) :=
  match Text.cut '=' field with
  | (name, []) =>
    if name = [] then none
    else if ofSpan then some fun _ => .spans
    else some (.records start (some (String.ofList name)))
  | (_, value :: _) => if isFieldValue value then some fun _ => .spans else none

/-- What a directive concerns, by the text behind its opening bracket, and
what follows the closing one. -/
def bracket? (start : Option String) (cs : List Char) :
    Option ((Threshold → Directive) × List Char) :=
  let name := cs.takeWhile fun c => c ≠ ']' && c ≠ '\x7b'
  match cs.drop name.length with
  | ']' :: behind => some (fun _ => .spans, behind)
  | '\x7b' :: field => do
    let (field, behind) ← Text.cutOnce? '\x7d' field
    let directive ← selection? start (name ≠ []) field
    match behind with
    | ']' :: behind => some (directive, behind)
    | _ => none
  | _ => none

/-- A directive from the text behind its opening bracket. -/
def Directive.ofBracket? (start : Option String) (cs : List Char) : Option Directive := do
  let (directive, behind) ← bracket? start cs
  (Threshold.ofEnd? behind).map directive

/-- Whether a directive may begin with a character other than a bracket. -/
def startsDirective (c : Char) : Bool := Text.isAlphanumeric c || ['-', ':', '_'].contains c

/-- A directive that does not begin with a blank. -/
def Directive.ofFilled? (cs : List Char) : Option Directive :=
  let head := cs.takeWhile fun c => c ≠ '=' && c ≠ '['
  let start := some (String.ofList head)
  match cs.drop head.length with
  | '[' :: behind =>
    if head = [] then Directive.ofBracket? none behind
    else if head.head?.any startsDirective then Directive.ofBracket? start behind
    else none
  | behind =>
    if !head.head?.any startsDirective then none
    else if behind = [] then
      some (match Threshold.ofText? cs with
        | some t => .records none none t
        | none => .records start none (some .trace))
    else (Threshold.ofEnd? behind).map (.records start none)

/-- Whether a directive ends with a level. -/
def endsWithLevel (cs : List Char) : Bool := (cs.reverse.takeWhile (· ≠ ']')).contains '='

/-- Reads a directive. With blanks in front it concerns nothing, and it
cannot have a level. -/
def Directive.ofText? (cs : List Char) : Option Directive :=
  let filled := Text.trimStart cs
  match Directive.ofFilled? filled with
  | some d => if filled = cs then some d else if endsWithLevel filled then none else some .spans
  | none => none

/-- Reads directives one by one. -/
def readDirectives : List (List Char) → Option Filter
  | [] => some []
  | piece :: rest => do
    let d ← Directive.ofText? piece
    let f ← readDirectives rest
    some (d :: f)

/-- Reads a filter. Without any directive, errors alone are shown. -/
def Filter.ofText? (text : String) : Option Filter :=
  match (Text.pieces ',' text.toList).filter (· ≠ []) with
  | [] => some [.records none none (some .error)]
  | pieces@(_ :: _) => readDirectives pieces

/-- The filter that is asked for, or the default one. -/
def Filter.choose (wish : Option String) : Filter := (wish.bind Filter.ofText?).getD .default

end GcodeSender.Log
