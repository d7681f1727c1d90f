import GcodeSender.Command.Arguments
import GcodeSender.Command.Given
import GcodeSender.Text.Similarity

/-!
# `GcodeSender.Command.Reader`: reading the arguments

Arguments are read one by one, first those before the command and then
those behind it. An argument that has no place is reported at once,
before any fault of the flag before it; every other fault is found when
the next flag or operand begins, or at the end. The scope behind the
command is finished before the one in front of it.

Reading may also end in a question: for help, or for the version.
-/

set_option autoImplicit false

namespace GcodeSender.Command

/-- Why no command comes of the arguments. -/
inductive Stop where
  | help (topic : Topic)
  | version
  | misuse (m : Misuse)
deriving DecidableEq, Repr

/-- What one argument leads to. -/
inductive Next where
  /-- More arguments of the same scope. -/
  | more (g : Given)
  | verb (v : Verb)

/-- Enters what is pending. A fault in it ends the reading. -/
def Given.flush (g : Given) (s : Scope) : Except Stop Given := (g.entered s).mapError .misuse

/-- The flag of a command that is named later among the arguments and
has a flag with a name like the given one. -/
def flagBehind? (name : String) (rest : List String) : Option (Verb × Flag) :=
  let found := Verb.all.filterMap fun v => do
    let long ← (Text.alike name (Scope.verb v).longNames).getLast?
    let f ← (Scope.verb v).flagOfLong? long
    let place ← rest.idxOf? v.name
    some (place, v, f)
  (found.minOn? (·.1)).map (·.2)

/-- What an unknown long flag could have been meant for. -/
def hintFor (s : Scope) (name : String) (rest : List String) : Hint :=
  match (Text.alike name s.longNames).getLast?.bind s.flagOfLong? with
  | some f => .flag f
  | none =>
    match if s = .program then flagBehind? name rest else none with
    | some (v, f) => .behind v f
    | none => if s.operand?.isSome then .operand else .none

/-- The flags that a message about an unknown flag names: those that were
given, and the one that could have been meant. -/
def namedFlags (used : Option (List Flag)) : Hint → Option (List Flag)
  | .flag f => some (if (used.getD []).contains f then used.getD [] else used.getD [] ++ [f])
  | .none | .behind _ _ | .operand => used

/-- A long flag that the scope does not have. -/
def unknownLong (g : Given) (s : Scope) (name : String) (rest : List String) : Stop :=
  let hint := hintFor s name rest
  .misuse (.unknownArgument s ("--" ++ name) hint (namedFlags (g.usedInAll? s) hint))

/-- A flag that takes no value. Help and version are questions. -/
def readSwitch (g : Given) (s : Scope) (f : Flag) : Except Stop Given := do
  let g ← g.flush s
  match f with
  | .help => .error (.help (.scope s))
  | .version => .error .version
  | .config | .json | .verbose | .port | .baud | .force =>
    Given.flush { g with pending := .flag f none } s

/-- A flag that takes a value, which may be in the same argument. If it
is, the flag is entered at once. -/
def readValued (g : Given) (s : Scope) (f : Flag) (value : Option String) : Except Stop Given := do
  let g ← g.flush s
  let g := { g with pending := .flag f value }
  if value.isSome then g.flush s else .ok g

/-- A long flag, with the arguments behind it. -/
def readLong (g : Given) (s : Scope) (name : String) (value : Option String)
    (rest : List String) : Except Stop Given :=
  match s.flagOfLong? name with
  | none => .error (unknownLong g s name rest)
  | some f =>
    if f.takesValue then readValued g s f value
    else
      match value with
      | some value => .error (.misuse (.needlessValue s f value g.used))
      | none => readSwitch g s f

/-- The value behind the letter of a flag. An equals sign in front of it
is dropped. -/
def valueBehind : List Char → Option String
  | [] => none
  | '=' :: cs => some (String.ofList cs)
  | cs => some (String.ofList cs)

/-- A letter that no flag has. -/
def unknownLetter (s : Scope) (c : Char) : Stop :=
  let hint := if s.operand?.isSome then Hint.operand else .none
  .misuse (.unknownArgument s ("-" ++ String.singleton c) hint none)

/-- Letters behind one dash. What follows the letter of a flag that takes
a value is the value. -/
def readLetters (s : Scope) (g : Given) : List Char → Except Stop Given
  | [] => .ok g
  | c :: rest =>
    match s.flagOfLetter? c with
    | none => .error (unknownLetter s c)
    | some f =>
      if f.takesValue then readValued g s f (valueBehind rest)
      else
        match readSwitch g s f with
        | .error stop => .error stop
        | .ok g => readLetters s g rest

/-- A word that has no place. -/
def refuseWord (g : Given) (s : Scope) (text : String) : Stop :=
  match s with
  | .verb _ => .misuse (.unknownArgument s text .none none)
  | .program =>
    if g.ended && commandNames.contains text then .misuse (.needlessDashes text)
    else .misuse (.unknownCommand (.scope s) text (Text.alike text commandNames))

/-- A word in the place of an operand. -/
def readOperand (g : Given) (s : Scope) (text : String) : Except Stop Given :=
  if (g.nextOperand? s).isSome then do
    let g ← g.flush s
    .ok { g with pending := .operand text }
  else .error (refuseWord g s text)

/-- A word: the value of the flag before it, or an operand. -/
def readWord (g : Given) (s : Scope) (text : String) : Except Stop Given :=
  match g.awaits? with
  | some f => .ok { g with pending := .flag f (some text) }
  | none => readOperand g s text

/-- Whether a flag is taken for a word. That is so where an operand that
may begin with a dash is still to come and the scope does not know the
flag; of letters, one that is unknown is enough. -/
def passesForWord (g : Given) (s : Scope) : Token → Bool
  | .long name _ => expectsDashes && (s.flagOfLong? name).isNone
  | .letters c rest => expectsDashes && (c :: rest).any fun c => (s.flagOfLetter? c).isNone
  | .dashes | .word _ => false
where
  expectsDashes : Bool := (g.nextOperand? s).elim false Operand.dashes

/-- The page that help is asked for, by the words behind the question. -/
def helpTopic (t : Topic) : List String → Stop
  | [] => .help t
  | word :: rest =>
    match t, Verb.ofName? word with
    | .scope .program, some v => helpTopic (.scope (.verb v)) rest
    | .scope .program, none =>
      if word = helpName then helpTopic .help rest else .misuse (.unknownCommand t word [])
    | _, _ => .misuse (.unknownCommand t word [])

/-- A word in front of the command that may be the command. -/
def readCommandWord (g : Given) (text : String) (rest : List String) : Except Stop Next :=
  match Verb.ofName? text with
  | some v => .ok (.verb v)
  | none =>
    if text = helpName then .error (helpTopic (.scope .program) rest)
    else (readOperand g .program text).map .more

/-- One argument before the flags are ended. -/
def readToken (g : Given) (s : Scope) (argument : String) (rest : List String) :
    Token → Except Stop Next
  | .dashes => .ok (.more { g with ended := true })
  | .long name value => (readLong g s name value rest).map .more
  | .letters c cs => (readLetters s g (c :: cs)).map .more
  | .word _ =>
    if s = .program && g.awaits?.isNone then readCommandWord g argument rest
    else (readWord g s argument).map .more

/-- One argument, with those behind it. -/
def readArgument (g : Given) (s : Scope) (argument : String) (rest : List String) :
    Except Stop Next :=
  if g.ended then (readOperand g s argument).map .more
  else
    let token := Token.ofArgument argument
    if passesForWord g s token then (readWord g s argument).map .more
    else readToken g s argument rest token

/-- The arguments of one scope. In front of the command they end at the
command. -/
def readScope (s : Scope) (g : Given) :
    List String → Except Stop (Given × Option (Verb × List String))
  | [] => .ok (g, none)
  | argument :: rest =>
    match readArgument g s argument rest with
    | .error stop => .error stop
    | .ok (.more g) => readScope s g rest
    | .ok (.verb v) => .ok (g, some (v, rest))

/-- The end of the arguments behind a command: a required operand must be
there. -/
def finishVerb (g : Given) (v : Verb) : Except Stop Given := do
  let g ← g.flush (.verb v)
  match v.operand? with
  | some o =>
    if g.operands = [] then .error (.misuse (.missingOperand (.verb v) o g.used)) else .ok g
  | none => .ok g

/-- The end of arguments that name no command. -/
def finishWithoutVerb (g : Given) : Stop :=
  match g.entered .program with
  | .error m => .misuse m
  | .ok g => .misuse (if g.flags = [] then .nothing else .noCommand)

/-- The target that the flags name. -/
def Given.target (g : Given) : Target :=
  ⟨g.value? .port, (g.value? .baud).bind fun value => (readBaud value).toOption⟩

/-- The command, from what was given behind it. -/
def Given.action (g : Given) : Verb → Action
  | .ports => .ports
  | .send => .send g.target g.operands
  | .stream => .stream g.target (g.operands.headD "")
  | .jog => .jog g.target (g.operands.headD "")
  | .home => .home g.target
  | .unlock => .unlock g.target
  | .initConfig => .initConfig (g.has .force)

/-- The arguments from what was given in both scopes. For a flag that may
stand in both, the later one counts. -/
def Arguments.ofGiven (front behind : Given) (v : Verb) : Arguments where
  config := (behind.value? .config).or (front.value? .config)
  json := behind.has .json || front.has .json
  verbose := behind.has .verbose || front.has .verbose
  action := behind.action v

/-- Reads the arguments of the program. -/
def Arguments.read (arguments : List String) : Except Stop Arguments := do
  let (front, command) ← readScope .program {} arguments
  match command with
  | none => .error (finishWithoutVerb front)
  | some (v, rest) =>
    let (behind, _) ← readScope (.verb v) {} rest
    -- the faults of the command's own arguments come first
    let behind ← finishVerb behind v
    let front ← front.flush .program
    .ok (.ofGiven front behind v)

end GcodeSender.Command
