import VDiagnostics.Text.Blank
import VDiagnostics.Text.DecimalDigit
import VDiagnostics.Text.Quoted

/-! The words of a command line. Options may be shortened as long as they are unambiguous, one file may
be named, and everything after two dashes is a file. -/

namespace VDiagnostics

namespace CommandLine

inductive Flag where
  | help
  | workspace
  | once
  | compiler
  | verbose
  deriving DecidableEq

namespace Flag

def takesValue : Flag → Bool
  | workspace | compiler => true
  | help | once | verbose => false

/-- All spellings, in the order in which they are listed. -/
def spellings : List (Text × Flag) :=
  [("-h".toList, help),
    ("--help".toList, help),
    ("--workspace".toList, workspace),
    ("--once".toList, once),
    ("--compiler".toList, compiler),
    ("-v".toList, verbose),
    ("--verbose".toList, verbose)]

def ofSpelling? (spelling : Text) : Option Flag :=
  (spellings.find? fun entry => entry.1 == spelling).map Prod.snd

def displayName (flag : Flag) : Text :=
  ['/'].intercalate ((spellings.filter fun entry => entry.2 == flag).map Prod.fst)

end Flag

inductive Misuse where
  | ambiguous (word : Text) (candidates : List Text)
  | missingValue (flag : Flag)
  | needlessValue (flag : Flag) (value : Text)
  | unrecognized (words : List Text)
  deriving DecidableEq

namespace Misuse

def argument (flag : Flag) : Text :=
  "argument ".toList ++ flag.displayName ++ ": ".toList

def message : Misuse → Text
  | ambiguous word candidates =>
    "ambiguous option: ".toList ++ word ++ " could match ".toList ++
      [',', ' '].intercalate candidates
  | missingValue flag => argument flag ++ "expected one argument".toList
  | needlessValue flag value =>
    argument flag ++ "ignored explicit argument ".toList ++ Text.quoted value
  | unrecognized words => "unrecognized arguments: ".toList ++ [' '].intercalate words

end Misuse

/-- What is attached to an option: the value after an equals sign, or what follows one dash and one
letter, where an equals sign may stand between. -/
inductive Attached where
  | none
  | value (text : Text)
  | letters (text : Text)
  deriving DecidableEq

inductive Word where
  | file (text : Text)
  | option (flag : Flag) (attached : Attached)
  /-- It looks like an option, but there is no such. -/
  | unknown (text : Text)
  | dashes
  deriving DecidableEq

namespace Word

/-- Whether a word is a negative number. A line feed may follow it. -/
def isNegativeNumber (word : Text) : Bool :=
  match word with
  | '-' :: rest =>
    let body := if Text.endsWith ['\n'] rest then rest.dropLast else rest
    let whole := body.takeWhile Text.isDecimalDigit
    match body.dropWhile Text.isDecimalDigit with
    | [] => !whole.isEmpty
    | '.' :: places => !places.isEmpty && places.all Text.isDecimalDigit
    | _ => false
  | _ => false

/-- The options that a word may be short for. Two dashes start a shortened name; after one dash stands
one letter, and more letters follow it. -/
def candidates (word : Text) : List (Text × Word) :=
  match word with
  | '-' :: '-' :: _ =>
    let (start, attached) := match Text.cut? '=' word with
      | some (name, value) => (name, Attached.value value)
      | none => (word, Attached.none)
    (Flag.spellings.filter fun entry => Text.startsWith start entry.1).map fun (spelling, flag) =>
      (spelling, option flag attached)
  | _ =>
    Flag.spellings.filterMap fun (spelling, flag) =>
      if spelling == word.take 2 then some (spelling, option flag (.letters (word.drop 2)))
      else if Text.startsWith word spelling then some (spelling, option flag .none)
      else none

def isShort (spelling : Text) : Bool :=
  !Text.startsWith ['-', '-'] spelling

/-- What an exact spelling with an equals sign and more after it gives. -/
def assigned? (word : Text) : Option Word :=
  (Text.cut? '=' word).bind fun (name, value) =>
    (Flag.ofSpelling? name).map fun flag =>
      option flag (if isShort name then .letters value else .value value)

def classify (word : Text) : Except Misuse Word :=
  if word.head? != some '-' then .ok (file word)
  else match Flag.ofSpelling? word with
    | some flag => .ok (option flag .none)
    | none =>
      if word.length = 1 then .ok (file word)
      else match assigned? word with
        | some found => .ok found
        | none =>
          match candidates word with
          | [(_, found)] => .ok found
          | [] =>
            if isNegativeNumber word || word.elem ' ' then .ok (file word) else .ok (unknown word)
          | several => .error (.ambiguous word (several.map Prod.fst))

end Word

/-- All words are classified up to two dashes, and the words after them are files. -/
def Word.classifyAll : List Text → Except Misuse (List Word)
  | [] => .ok []
  | word :: rest =>
    if word = ['-', '-'] then .ok (dashes :: rest.map file)
    else (classify word).bind fun found => (classifyAll rest).map fun others => found :: others

structure Arguments where
  file : Option Text
  workspace : Option Text
  compiler : Option Text
  once : Bool
  verbose : Bool
  deriving DecidableEq

namespace Arguments

def initial : Arguments :=
  ⟨none, none, none, false, false⟩

/-- The state of reading: what was asked for so far, and the words that nobody asked for. -/
structure Progress where
  arguments : Arguments
  hasFile : Bool
  extras : List Text
  deriving DecidableEq

inductive Stop where
  | misuse (misuse : Misuse)
  | help
  deriving DecidableEq

/-- Turns on what an option without a value stands for. -/
def switch (progress : Progress) : Flag → Except Stop Progress
  | .help => .error .help
  | .once => .ok { progress with arguments := { progress.arguments with once := true } }
  | .verbose => .ok { progress with arguments := { progress.arguments with verbose := true } }
  | .workspace | .compiler => .ok progress

def assign (progress : Progress) (flag : Flag) (value : Text) : Progress :=
  match flag with
  | .workspace => { progress with arguments := { progress.arguments with workspace := some value } }
  | .compiler => { progress with arguments := { progress.arguments with compiler := some value } }
  | _ => progress

/-- The options that more letters after one dash stand for. All letters are read before any of them
counts. -/
def cluster (flag : Flag) : Text → Except Misuse (List Flag)
  | [] => .error (.needlessValue flag [])
  | c :: rest =>
    match Flag.ofSpelling? ['-', c] with
    | none => .error (.needlessValue flag (c :: rest))
    | some next =>
      if rest.isEmpty then .ok [flag, next] else (cluster next rest).map (flag :: ·)

def takeLetters (progress : Progress) (flag : Flag) (letters : Text) : Except Stop Progress :=
  match cluster flag letters with
  | .error misuse => .error (.misuse misuse)
  | .ok flags => flags.foldlM switch progress

/-- The first file counts, and the others are extras. -/
def takeFile (progress : Progress) (file : Text) : Progress :=
  if progress.hasFile then { progress with extras := progress.extras ++ [file] }
  else { progress with arguments := { progress.arguments with file := some file }, hasFile := true }

/-- Reads the words from the left. Dashes go with the file right before or after them, and are an extra
where the file was named earlier. -/
def takeWords : Progress → List Word → Except Stop Progress
  | progress, [] => .ok progress
  | progress, .file file :: .dashes :: rest =>
    if progress.hasFile then
      takeWords { progress with extras := progress.extras ++ [file, ['-', '-']] } rest
    else takeWords (takeFile progress file) rest
  | progress, .file file :: rest => takeWords (takeFile progress file) rest
  | progress, .dashes :: rest =>
    takeWords (if progress.hasFile then { progress with extras := progress.extras ++ [['-', '-']] }
      else progress) rest
  | progress, .unknown word :: rest =>
    takeWords { progress with extras := progress.extras ++ [word] } rest
  | progress, .option flag attached :: rest =>
    if flag.takesValue then
      match attached with
      | .value value | .letters value => takeWords (assign progress flag value) rest
      | .none =>
        match rest with
        | .file value :: rest => takeWords (assign progress flag value) rest
        | _ => .error (.misuse (.missingValue flag))
    else
      match attached with
      | .none => (switch progress flag).bind fun progress => takeWords progress rest
      | .value value => .error (.misuse (.needlessValue flag value))
      | .letters letters =>
        (takeLetters progress flag letters).bind fun progress => takeWords progress rest

def read (words : List Text) : Except Stop Arguments := do
  let classified ← (Word.classifyAll words).mapError Stop.misuse
  let progress ← takeWords ⟨initial, false, []⟩ classified
  if progress.extras.isEmpty then pure progress.arguments
  else .error (.misuse (.unrecognized progress.extras))

end Arguments

end CommandLine

end VDiagnostics
