import SlottedFile.Fault
import SlottedFile.FileHeader
import SlottedFile.Store.Basic

/-!
# The arguments of the command line

The arguments name a command, in front of which and among whose own words
options can stand. An option with a value takes it after an equals sign or as
the next argument, nothing can be given twice at one level, and behind two
dashes every argument is a plain word. The number of frames can be chosen at
either level; if it is chosen at both, the command's own choice counts.

Arguments are judged in the order in which they stand. The first one that is
wrong, or that asks for help, decides how they are refused; what is missing is
found out last.
-/

namespace SlottedFile

/-- **One thing to do with a record file.** -/
inductive Command where
  | create (path : Path) (options : FileOptions)
  | insert (path : Path) (text : String)
  | get (path : Path) (id : RecordId)
  | delete (path : Path) (id : RecordId)
  | scan (path : Path)
  /-- Show a report on the file, as a table or as JSON. -/
  | inspect (path : Path) (json : Bool)
  | check (path : Path)
  deriving DecidableEq, Repr

/-- The path of the file that a command is about. -/
def Command.path : Command → Path
  | create path _ => path
  | insert path _ => path
  | get path _ => path
  | delete path _ => path
  | scan path => path
  | inspect path _ => path
  | check path => path

/-- **A command and the pool to carry it out with.** -/
structure Invocation where
  frames : Nat := Pool.defaultCapacity
  command : Command
  deriving DecidableEq, Repr

namespace Arguments

/-- Why arguments name no invocation. -/
inductive Refusal where
  /-- They ask how the program is used. -/
  | help
  | malformed
  deriving DecidableEq, Repr

/-! ## The form of one argument -/

/-- **What an argument looks like.** -/
inductive Argument where
  | word (text : String)
  | option (name : String) (attached : Option String)
  | help
  /-- The two dashes behind which there are only words. -/
  | separator
  | unknown
  deriving DecidableEq, Repr

/-- The form of an argument. A dash alone is a word. -/
def Argument.ofString (s : String) : Argument :=
  match s.toList with
  | ['-', '-'] => .separator
  | '-' :: '-' :: rest =>
    let name := String.ofList (rest.takeWhile (· ≠ '='))
    match rest.dropWhile (· ≠ '=') with
    | [] => if name = "help" then .help else .option name none
    | _ :: value => .option name (some (String.ofList value))
  | ['-'] => .word s
  | '-' :: c :: _ => if c = 'h' then .help else .unknown
  | _ => .word s

/-! ## What words and values mean -/

/-- A number: decimal digits, at most one plus sign in front, and no more than
fits in 64 bits. -/
def number? (s : String) : Option Nat :=
  let digits := match s.toList with
    | '+' :: digits => digits
    | digits => digits
  if digits.isEmpty || !digits.all Char.isDigit then none
  else
    let n := digits.foldl (fun n c => n * 10 + (c.toNat - '0'.toNat)) 0
    if n < wordLimit then some n else none

/-- **What a word stands for.** -/
inductive Word where
  | path (path : Path)
  | number (n : Nat)
  | text (text : String)
  deriving DecidableEq, Repr

/-- What a word has to stand for. -/
inductive Place where
  | path
  | number
  | text
  deriving DecidableEq, Repr

/-- What a word stands for at a place. A path cannot be empty. -/
def Place.word? : Place → String → Option Word
  | path, s => if s.isEmpty then none else some (.path (.ofString s))
  | number, s => (number? s).map .number
  | text, s => some (.text s)

/-! ## One level -/

/-- **What is known at a level.** -/
structure Known where
  /-- The options with a value, which is a number. -/
  valued : List String
  flags : List String := []
  /-- The places for words. A level without any ends at its first word. -/
  places : List Place := []

/-- **What was given at a level.** -/
structure Given where
  values : List (String × Nat) := []
  flags : List String := []
  words : List Word := []
  deriving DecidableEq, Repr

namespace Given

/-- What was given, with a value for an option. -/
def addValue (g : Given) (name value : String) : Except Refusal Given :=
  match g.values.lookup name, number? value with
  | none, some n => .ok { g with values := (name, n) :: g.values }
  | _, _ => .error .malformed

/-- What was given, with one more flag. -/
def addFlag (g : Given) (name : String) : Except Refusal Given :=
  if name ∈ g.flags then .error .malformed else .ok { g with flags := name :: g.flags }

/-- What was given, with one more word at the next place. -/
def addWord (g : Given) (known : Known) (s : String) : Except Refusal Given :=
  match known.places[g.words.length]?.bind (Place.word? · s) with
  | some word => .ok { g with words := g.words ++ [word] }
  | none => .error .malformed

end Given

/-- **Read the arguments of a level.** If the level ends at its first word, the
arguments from that word on are left over. -/
def read (known : Known) : Given → List String → Except Refusal (Given × List String)
  | given, [] => .ok (given, [])
  | given, arg :: rest =>
    match Argument.ofString arg with
    | .word text =>
      if known.places.isEmpty then .ok (given, arg :: rest)
      else do read known (← given.addWord known text) rest
    | .separator => do return (← rest.foldlM (·.addWord known ·) given, [])
    | .help => .error .help
    | .unknown => .error .malformed
    | .option name (some value) =>
      if name ∈ known.valued then do read known (← given.addValue name value) rest
      else .error .malformed
    | .option name none =>
      if name ∈ known.flags then do read known (← given.addFlag name) rest
      else if name ∈ known.valued then
        match rest with
        | value :: rest =>
          match Argument.ofString value with
          | .word _ => do read known (← given.addValue name value) rest
          | _ => .error .malformed
        | [] => .error .malformed
      else .error .malformed

/-! ## The commands -/

/-- The option that chooses the number of frames. -/
def framesOption : String := "pool-size"

/-- What is known before the command. -/
def Known.root : Known := { valued := [framesOption] }

/-- What is known behind a command, if there is such a command. -/
def Known.ofCommand? : String → Option Known
  | "create" =>
    some { valued := [framesOption, "record-size", "records-per-page"], places := [.path] }
  | "insert" => some { valued := [framesOption], places := [.path, .text] }
  | "get" | "delete" => some { valued := [framesOption], places := [.path, .number, .number] }
  | "scan" | "check" => some { valued := [framesOption], places := [.path] }
  | "inspect" => some { valued := [framesOption], flags := ["json"], places := [.path] }
  | _ => none

/-- The command with a name, unless something that it needs was not given. -/
def command? (name : String) (given : Given) : Option Command :=
  match name, given.words with
  | "create", [.path path] => do
    let recordSize ← given.values.lookup "record-size"
    return .create path { recordSize, recordsPerPage := given.values.lookup "records-per-page" }
  | "insert", [.path path, .text text] => some (.insert path text)
  | "get", [.path path, .number page, .number slot] => some (.get path { page, slot })
  | "delete", [.path path, .number page, .number slot] => some (.delete path { page, slot })
  | "scan", [.path path] => some (.scan path)
  | "inspect", [.path path] => some (.inspect path (given.flags.contains "json"))
  | "check", [.path path] => some (.check path)
  | _, _ => none

/-- The word that asks for help where a command is named. -/
def helpWord : String := "help"

/-- How the arguments behind the word for help are refused. That word can be
followed by what it asks about: one command, or the word itself. -/
def helpRefusal : List String → Refusal
  | [] => .help
  | [name] => if name = helpWord ∨ (Known.ofCommand? name).isSome then .help else .malformed
  | _ => .malformed

end Arguments

open Arguments in
/-- **The invocation that arguments name.** -/
def Invocation.ofArguments (args : List String) : Except Refusal Invocation := do
  match ← read Known.root {} args with
  | (_, []) => .error .malformed
  | (outer, name :: rest) =>
    if name = helpWord then .error (helpRefusal rest)
    match Known.ofCommand? name with
    | none => .error .malformed
    | some known =>
      let (given, _) ← read known {} rest
      match command? name given with
      | none => .error .malformed
      | some command =>
        let frames := (given.values.lookup framesOption).or (outer.values.lookup framesOption)
        return { frames := frames.getD Pool.defaultCapacity, command }

end SlottedFile
