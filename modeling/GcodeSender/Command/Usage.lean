import GcodeSender.Command.Vocabulary

/-!
# `GcodeSender.Command.Usage`: usage lines and help pages

A usage line says how the program is called. It stands for the flags
with one word or, where a message is about certain flags, names just
those. A
help page has the usage line between what the command is about and the
list of what may be written behind it.
-/

set_option autoImplicit false

namespace GcodeSender.Command

/-- What a help page is about. -/
inductive Topic where
  | scope (s : Scope)
  /-- The word that asks for help. -/
  | help
deriving DecidableEq, Repr

/-- The words that lead to a scope. -/
def Scope.path : Scope → String
  | .program => programName
  | .verb v => programName ++ " " ++ v.name

/-- What must follow the flags of a scope. -/
def Scope.remainder (s : Scope) : List String :=
  match s with
  | .program => ["<COMMAND>"]
  | .verb v => v.operand?.toList.map Operand.display

/-- How a scope is used with just the given flags. -/
def Scope.usageNaming (s : Scope) (flags : List Flag) : String :=
  " ".intercalate (s.path :: flags.map Flag.display ++ s.remainder)

/-- How a scope is used. -/
def Scope.usage (s : Scope) : String := " ".intercalate (s.path :: "[OPTIONS]" :: s.remainder)

/-- How a scope is used with the flags that were given and one that was
given wrongly. Flags that go together are named together, behind the
others. -/
def Scope.usageGrouping (s : Scope) (given : List Flag) (wrong : Flag) : String :=
  let group := if s.group.any given.contains then s.group else []
  let single := (given ++ [wrong]).eraseDups.filter (!group.contains ·)
  let choice := if group = [] then []
    else ["<" ++ "|".intercalate (group.map Flag.display) ++ ">"]
  " ".intercalate (s.path :: single.map Flag.display ++ choice ++ s.remainder)

def Topic.usage : Topic → String
  | .scope s => s.usage
  | .help => programName ++ " " ++ helpName ++ " [COMMAND]..."

/-! ### Help pages -/

/-- A text followed by blanks up to the given width. -/
def padded (width : Nat) (text : String) : String :=
  text ++ String.ofList (List.replicate (width - text.length) ' ')

/-- A table under a heading. The second column begins two places behind
the widest entry of the first. -/
def table (heading : String) (rows : List (String × String)) : List String :=
  let width := (rows.map (·.1.length)).foldl max 0
  heading :: rows.map fun (entry, about) => "  " ++ padded width entry ++ "  " ++ about

/-- A flag as the help lists it: the letter, or the place for one, and the
long name. -/
def Flag.entry (f : Flag) : String :=
  match f.letter? with
  | some c => "-" ++ String.singleton c ++ ", " ++ f.display
  | none => "    " ++ f.display

def Topic.about : Topic → String
  | .scope .program => programAbout
  | .scope (.verb v) => v.about
  | .help => helpAbout

/-- The table of what stands behind the flags. -/
def Topic.parts : Topic → List (List String)
  | .scope .program =>
    [table "Commands:" (Verb.all.map (fun v => (v.name, v.about)) ++ [(helpName, helpAbout)])]
  | .scope (.verb v) => v.operand?.toList.map fun o => table "Arguments:" [(o.display, "")]
  | .help => [table "Arguments:" [("[COMMAND]...", "Print help for the subcommand(s)")]]

/-- The table of the flags. -/
def Topic.flags : Topic → List (List String)
  | .scope s => [table "Options:" (s.listedFlags.map fun f => (f.entry, f.about))]
  | .help => []

/-- A help page. -/
def Topic.page (t : Topic) : String :=
  let head := [[t.about], ["Usage: " ++ t.usage]]
  "\n\n".intercalate ((head ++ t.parts ++ t.flags).map ("\n".intercalate ·)) ++ "\n"

/-- The answer to the question for the version. -/
def versionText : String := programName ++ " " ++ programVersion ++ "\n"

end GcodeSender.Command
