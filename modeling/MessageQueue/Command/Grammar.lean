import MessageQueue.Text.Integer

/-!
# Command lines

A command line is read from the left.  Words are operands; a word behind two hyphens names an
option, which may bring its value behind an equals sign or take the next word; a letter behind
one hyphen is short for an option.  Two hyphens alone make operands of all that follows.  An
option is given at most once, and a value that starts with a hyphen must be attached.
-/

namespace MessageQueue
namespace Command

/-! ## Options -/

/-- What the value of an option or an operand must be. -/
inductive ValueKind where
  | text
  | path
  | integer (t : Text.IntType)
  | boolean
deriving DecidableEq, Repr

/-- Whether a text is a value of a kind. -/
def ValueKind.accepts : ValueKind → String → Bool
  | text, _ => true
  | path, s => !s.isEmpty
  | integer t, s => (Text.readInteger t s.toList).isOk
  | boolean, s => s = "true" || s = "false"

/-- An option: its name, the letter that is short for it, and the kind of its value; a switch has
no value. -/
structure OptionSpec where
  name : String
  letter : Option Char
  value : Option ValueKind
deriving DecidableEq, Repr

/-- An option without a letter. -/
def OptionSpec.long (name : String) (kind : ValueKind) : OptionSpec := ⟨name, none, some kind⟩

/-- An option with a letter. -/
def OptionSpec.short (name : String) (letter : Char) (kind : ValueKind) : OptionSpec :=
  ⟨name, some letter, some kind⟩

/-- An option without a value. -/
def OptionSpec.switch (name : String) : OptionSpec := ⟨name, none, none⟩

/-- What is found at one level of a command line: options, and operands or the names of the
levels below. -/
structure Level where
  options : List OptionSpec
  operands : List ValueKind
  below : List String
  hasVersion : Bool
deriving DecidableEq, Repr

/-! ## Words -/

/-- A word of a command line. -/
inductive Token where
  | operand (s : String)
  | long (name : String) (value : Option String)
  | letters (cs : List Char)
  | escape
deriving DecidableEq, Repr

/-- What stands before the first equals sign and after it. -/
def cutAtEquals (cs : List Char) : List Char × Option (List Char) :=
  match cs.dropWhile (· ≠ '=') with
  | [] => (cs, none)
  | _ :: value => (cs.takeWhile (· ≠ '='), some value)

/-- What a word is. -/
def Token.ofWord (s : String) : Token :=
  match s.toList with
  | ['-', '-'] => escape
  | '-' :: '-' :: rest =>
    long (String.ofList (cutAtEquals rest).1) ((cutAtEquals rest).2.map String.ofList)
  | ['-'] => operand s
  | '-' :: cs => letters cs
  | _ => operand s

/-! ## Reading -/

/-- Why the reading of a command line ends early. -/
inductive Stop where
  | help
  | version
  | unknownOption (name : String)
  | unexpectedValue (name : String)
  | missingValue (name : String)
  | badValue (name value : String)
  | repeated (name : String)
  | unexpectedOperand (s : String)
  | missingOperand
  | unknownCommand (s : String)
  | missingCommand
deriving DecidableEq, Repr

/-- What was given at one level: the options with their values, the operands, and the level below
with the words left for it. -/
structure Given where
  options : List (String × String)
  operands : List String
  below : Option (String × List String)
deriving DecidableEq, Repr

namespace Given

/-- Nothing was given. -/
def none : Given := ⟨[], [], .none⟩

/-- The value of an option. -/
def value? (g : Given) (name : String) : Option String := g.options.lookup name

/-- Whether an option was given. -/
def has (g : Given) (name : String) : Bool := (g.value? name).isSome

/-- Takes down an option with its value. -/
def addOption (g : Given) (o : OptionSpec) (value : String) : Except Stop Given :=
  if g.has o.name then .error (.repeated o.name)
  else if (o.value.map (·.accepts value)).getD true then
    .ok { g with options := g.options ++ [(o.name, value)] }
  else .error (.badValue o.name value)

/-- Takes down an operand. -/
def addOperand (g : Given) (level : Level) (s : String) : Except Stop Given :=
  match level.operands[g.operands.length]? with
  | .none => .error (.unexpectedOperand s)
  | some kind =>
    if kind.accepts s then .ok { g with operands := g.operands ++ [s] }
    else .error (.badValue "" s)

end Given

namespace Level

/-- The option of a name. -/
def option? (level : Level) (name : String) : Option OptionSpec :=
  level.options.find? (·.name = name)

/-- The option of a letter. -/
def letter? (level : Level) (c : Char) : Option OptionSpec :=
  level.options.find? (·.letter = some c)

/-- Whether a name asks for the version. -/
def asksVersion (level : Level) (name : String) : Bool := level.hasVersion && name == "version"

/-- What the letters behind a hyphen give: an option that waits for the next word, or nothing
further. -/
def readLetters (level : Level) :
    Given → List Char → Except Stop (Given × Option OptionSpec)
  | g, [] => .ok (g, none)
  | g, c :: rest =>
    if c = 'h' then .error .help
    else if c = 'V' && level.hasVersion then .error .version
    else
      match level.letter? c with
      | none => .error (.unknownOption (String.singleton c))
      | some o@⟨_, _, none⟩ =>
        match g.addOption o "" with
        | .error e => .error e
        | .ok g' => level.readLetters g' rest
      | some o =>
        match rest with
        | [] => .ok (g, some o)
        | '=' :: value => (g.addOption o (String.ofList value)).map (·, none)
        | value => (g.addOption o (String.ofList value)).map (·, none)

/-- What an option behind two hyphens gives. -/
def readLong (level : Level) (g : Given) (name : String) (value : Option String) :
    Except Stop (Given × Option OptionSpec) :=
  if name = "help" then
    .error (if value.isSome then .unexpectedValue name else .help)
  else if level.asksVersion name then
    .error (if value.isSome then .unexpectedValue name else .version)
  else
    match level.option? name, value with
    | none, _ => .error (.unknownOption name)
    | some ⟨_, _, none⟩, some _ => .error (.unexpectedValue name)
    | some o@⟨_, _, none⟩, none => (g.addOption o "").map (·, none)
    | some o, some v => (g.addOption o v).map (·, none)
    | some o, none => .ok (g, some o)

/-- Takes down operands only. -/
def scanOperands (level : Level) (g : Given) : List String → Except Stop Given
  | [] => .ok g
  | s :: rest =>
    match g.addOperand level s with
    | .error e => .error e
    | .ok g' => level.scanOperands g' rest

/-- Reads the words of a level; an option may wait for its value. -/
def scan (level : Level) : Given → Option OptionSpec → List String → Except Stop Given
  | g, none, [] => .ok g
  | _, some o, [] => .error (.missingValue o.name)
  | g, waiting, s :: rest =>
    match waiting, Token.ofWord s with
    | some o, .operand v =>
      match g.addOption o v with
      | .error e => .error e
      | .ok g' => level.scan g' none rest
    | some o, _ => .error (.missingValue o.name)
    | none, .escape => level.scanOperands g rest
    | none, .operand v =>
      if level.below = [] then
        match g.addOperand level v with
        | .error e => .error e
        | .ok g' => level.scan g' none rest
      else if v = "help" || level.below.contains v then .ok { g with below := some (v, rest) }
      else .error (.unknownCommand v)
    | none, .long name value =>
      match level.readLong g name value with
      | .error e => .error e
      | .ok (g', next) => level.scan g' next rest
    | none, .letters cs =>
      match level.readLetters g cs with
      | .error e => .error e
      | .ok (g', next) => level.scan g' next rest

/-- Reads the words of a level, of which no operand and no level below may be missing. -/
def read (level : Level) (words : List String) : Except Stop Given :=
  match level.scan Given.none none words with
  | .error e => .error e
  | .ok g =>
    if g.operands.length < level.operands.length then .error .missingOperand
    else if level.below ≠ [] && g.below.isNone then .error .missingCommand
    else .ok g

end Level
end Command
end MessageQueue
