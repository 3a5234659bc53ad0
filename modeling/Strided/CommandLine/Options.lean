import Strided.Text.Digit
import Strided.Text.Quoted

/-!
# Options

Reading the arguments of the command line.  Each argument is first put into a class: an option, a
plain argument, or the separator `--`, behind which all arguments are plain.  Long options may be
shortened as long as they stay unambiguous and may carry a value after `=`; short options may carry
a value directly and may be joined if they take none, also behind the first `=`.  What looks like a negative number is a plain
argument.

`consume` then goes through the classes.  The file name and the subscript are positional.  Both are
taken from the first group of plain arguments, so a subscript that is cut off from the file name by
an option is left over.
-/

namespace Strided.CommandLine

/-- The options. -/
inductive CommandOption where
  | help
  | subscript
  | binary
  | dtype
  | check
  deriving DecidableEq, Repr

namespace CommandOption

def short : CommandOption → String
  | help => "-h"
  | subscript => "-s"
  | binary => "-b"
  | dtype => "-d"
  | check => "-c"

def long : CommandOption → String
  | help => "--help"
  | subscript => "--subscript"
  | binary => "--binary"
  | dtype => "--dtype"
  | check => "--check"

def all : List CommandOption := [help, subscript, binary, dtype, check]

def takesValue : CommandOption → Bool
  | subscript | dtype => true
  | _ => false

def title (o : CommandOption) : String := o.short ++ "/" ++ o.long

def ofShort? (s : String) : Option CommandOption := all.find? (·.short == s)
def ofLong? (s : String) : Option CommandOption := all.find? (·.long == s)

end CommandOption

/-- How an argument reads.  A text may be attached to an option: after `=`, or directly. -/
inductive Token where
  | option (o : CommandOption) (isShort : Bool) (attached : Option (List Char))
  | unknown (arg : String)
  | argument (arg : String)
  | separator
  deriving DecidableEq, Repr

/-- Why the command line is not carried out. -/
inductive Refusal where
  | ambiguous (arg : String) (candidates : List CommandOption)
  | valueMissing (o : CommandOption)
  | valueIgnored (o : CommandOption) (text : String)
  | fileMissing
  | leftOver (args : List String)
  | subscriptMissing
  | invalid (message : String)
  /-- Help was asked for. -/
  | helpWanted
  deriving DecidableEq, Repr

def Refusal.message : Refusal → String
  | ambiguous arg candidates =>
    s!"ambiguous option: {arg} could match " ++ ", ".intercalate (candidates.map CommandOption.long)
  | valueMissing o => s!"argument {o.title}: expected one argument"
  | valueIgnored o text => s!"argument {o.title}: ignored explicit argument {Text.quote text}"
  | fileMissing => "the following arguments are required: filename"
  | leftOver args => "unrecognized arguments: " ++ " ".intercalate args
  | subscriptMissing => "a subscript is required"
  | invalid message => message
  | helpWanted => ""

/-! ### Classes of arguments -/

/-- A negative number: digits with at most one point among them, and digits behind it.  A line feed
at the end does not count. -/
def isNegativeNumber (arg : List Char) : Bool :=
  match arg with
  | '-' :: digits =>
    let digits := if digits.getLast? = some '\n' then digits.dropLast else digits
    match digits.dropWhile Text.isDigit with
    | [] => digits != []
    | '.' :: fraction => fraction != [] && fraction.all Text.isDigit
    | _ => false
  | _ => false

/-- The text before the first `=`, and the text after it if there is one. -/
def splitValue (arg : List Char) : List Char × Option (List Char) :=
  match arg.dropWhile (· != '=') with
  | _ :: value => (arg.takeWhile (· != '='), some value)
  | [] => (arg, none)

/-- An argument that is no name of an option, but may be the beginning of one, or one with a value.
-/
def classifyOther (arg : String) : Except Refusal Token :=
  let (name, value) := splitValue arg.toList
  let plain : Token := if isNegativeNumber arg.toList || arg.toList.contains ' ' then .argument arg
    else .unknown arg
  match arg.toList with
  | '-' :: '-' :: _ =>
    match CommandOption.all.filter fun o => name.isPrefixOf o.long.toList with
    | [] => .ok plain
    | [o] => .ok (.option o false value)
    | candidates => .error (.ambiguous arg candidates)
  | '-' :: letter :: text =>
    match CommandOption.ofShort? (String.ofList ['-', letter]) with
    | some o => .ok (.option o true (some text))
    | none => .ok plain
  | _ => .ok plain

/-- The class of an argument that is not behind the separator. -/
def classify (arg : String) : Except Refusal Token :=
  if !arg.startsWith "-" || arg == "-" then .ok (.argument arg)
  else
    match CommandOption.ofShort? arg, CommandOption.ofLong? arg with
    | some o, _ => .ok (.option o true none)
    | _, some o => .ok (.option o false none)
    | none, none =>
      let (name, value) := splitValue arg.toList
      let name := String.ofList name
      match value, CommandOption.ofShort? name, CommandOption.ofLong? name with
      | some text, some o, _ => .ok (.option o true (some text))
      | some text, _, some o => .ok (.option o false (some text))
      | _, _, _ => classifyOther arg

def tokens : List String → Except Refusal (List Token)
  | [] => .ok []
  | "--" :: rest => .ok (.separator :: rest.map .argument)
  | arg :: rest => do
    let token ← classify arg
    let others ← tokens rest
    .ok (token :: others)

/-! ### Going through the classes -/

/-- What the command line asks for. -/
structure Arguments where
  filename : Option String
  subscript : Option String
  /-- The subscript given by option, which counts before the positional one.  It may have been given
  as nothing at all. -/
  subscriptOption : Option (Option String)
  binary : Bool
  dtype : Option String
  check : Bool
  /-- Whether the positional arguments have been taken. -/
  settled : Bool
  /-- What has found no use. -/
  leftOver : List String
  deriving DecidableEq, Repr

namespace Arguments

def empty : Arguments := ⟨none, none, none, false, none, false, false, []⟩

/-- The value of an option.  The separator is dropped from what is given, even if nothing is left. -/
def valueOf (given : String) : Option String := if given = "--" then none else some given

/-- Notes an option, with its value if it takes one.  A storage type given as nothing is one without
a name. -/
def note (a : Arguments) (o : CommandOption) (given : String) : Except Refusal Arguments :=
  match o with
  | .help => .error .helpWanted
  | .subscript => .ok { a with subscriptOption := some (valueOf given) }
  | .binary => .ok { a with binary := true }
  | .dtype => .ok { a with dtype := some ((valueOf given).getD "") }
  | .check => .ok { a with check := true }

/-- Notes several options. -/
def noteAll (a : Arguments) : List (CommandOption × String) → Except Refusal Arguments
  | [] => .ok a
  | (o, value) :: rest => a.note o value >>= (noteAll · rest)

def leave (a : Arguments) (args : List String) : Arguments :=
  { a with leftOver := a.leftOver ++ args }

end Arguments

/-- What joined options come to: the options that are settled, and the one that still needs a value.
-/
structure Joined where
  settled : List (CommandOption × String)
  pending : Option CommandOption

/-- Takes apart an option with a text attached.  A short option without a value of its own passes
the text on to the option that its first letter names. -/
def joined (o : CommandOption) (isShort : Bool) (text : List Char) : Except Refusal Joined :=
  if o.takesValue then .ok ⟨[(o, String.ofList text)], none⟩
  else
    match text with
    | [] => .error (.valueIgnored o "")
    | letter :: rest =>
      match isShort, CommandOption.ofShort? (String.ofList ['-', letter]) with
      | true, some next =>
        if rest = [] then .ok ⟨[(o, "")], some next⟩
        else do
          let j ← joined next true rest
          .ok { j with settled := (o, "") :: j.settled }
      | _, _ => .error (.valueIgnored o (String.ofList (letter :: rest)))

/-- The arguments as they were written, up to the next option. -/
def plainArguments : List Token → List String
  | .argument arg :: rest => arg :: plainArguments rest
  | .separator :: rest => "--" :: plainArguments rest
  | _ => []

def separators : List Token → Nat
  | .separator :: rest => separators rest + 1
  | _ => 0

/-- How many tokens one positional argument takes, with the separators around it; none at all if
there is no argument for it. -/
def groupSize (ts : List Token) : Nat :=
  let before := separators ts
  match ts.drop before with
  | .argument _ :: rest => before + 1 + separators rest
  | _ => 0

/-- The value of a positional argument: the first separator of its group is dropped. -/
def groupValue (group : List Token) : Option String := ((plainArguments group).erase "--").head?

/-- Takes the positional arguments from the front, if they have not been taken and there is one.
Answers how many tokens that took. -/
def takePositional (a : Arguments) (ts : List Token) : Arguments × Nat :=
  let first := groupSize ts
  if a.settled || first == 0 then (a, 0)
  else
    let others := ts.drop first
    let second := match groupSize others with
      | 0 => separators others
      | n => n
    ({ a with
        filename := groupValue (ts.take first)
        subscript := groupValue (others.take second)
        settled := true },
      first + second)

def consume (a : Arguments) (ts : List Token) : Except Refusal Arguments :=
  match ts with
  | [] => .ok a
  | .unknown arg :: rest => consume (a.leave [arg]) rest
  | .option o isShort attached :: rest =>
    match attached with
    | some text =>
      match joined o isShort text with
      | .error e => .error e
      | .ok j =>
        match j.pending, rest with
        | none, rest =>
          match a.noteAll j.settled with
          | .error e => .error e
          | .ok a => consume a rest
        | some last, rest =>
          if last.takesValue then
            match rest with
            | .argument value :: rest =>
              match a.noteAll (j.settled ++ [(last, value)]) with
              | .error e => .error e
              | .ok a => consume a rest
            | _ => .error (.valueMissing last)
          else
            match a.noteAll (j.settled ++ [(last, "")]) with
            | .error e => .error e
            | .ok a => consume a rest
    | none =>
      if o.takesValue then
        match rest with
        | .argument value :: rest =>
          match a.note o value with
          | .error e => .error e
          | .ok a => consume a rest
        | _ => .error (.valueMissing o)
      else
        match a.note o "" with
        | .error e => .error e
        | .ok a => consume a rest
  | .argument arg :: rest =>
    match takePositional a (.argument arg :: rest) with
    | (a, n + 1) => consume a (rest.drop n)
    | (a, 0) => consume (a.leave [arg]) rest
  | .separator :: rest =>
    match takePositional a (.separator :: rest) with
    | (a, n + 1) => consume a (rest.drop n)
    | (a, 0) => consume (a.leave ["--"]) rest
termination_by ts.length

def Arguments.read (argv : List String) : Except Refusal Arguments := do
  let ts ← tokens argv
  let a ← consume .empty ts
  if a.filename.isNone then .error .fileMissing
  else if a.leftOver ≠ [] then .error (.leftOver a.leftOver)
  else .ok a

end Strided.CommandLine
