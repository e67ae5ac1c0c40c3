import GridRobot.Command
import GridRobot.Text.Uppercase

/-! # Broken rules

The kinds of failure of section 4.1 of the specification, and their messages of section 10.2. A text
that is no command breaks one of ten rules. A failure names the first rule that the text breaks and
quotes what breaks it. -/

namespace GridRobot

/-- The ten rules, in the order in which they are listed. -/
inductive FailureKind where
  | noSpaceSeparator
  | uninterpretable
  | lowercaseLetter
  | invalidCapitalLetter
  | invalidSymbol
  | multipleSymbols
  | invalidNumberFormat
  | negativeNumber
  | zeroNumber
  | numberExceedsLimit
  deriving DecidableEq, Repr

namespace FailureKind

def all : List FailureKind :=
  [noSpaceSeparator, uninterpretable, lowercaseLetter, invalidCapitalLetter, invalidSymbol,
    multipleSymbols, invalidNumberFormat, negativeNumber, zeroNumber, numberExceedsLimit]

def value : FailureKind → Text
  | noSpaceSeparator => "no_space_separator".toList
  | uninterpretable => "uninterpretable".toList
  | lowercaseLetter => "lowercase_letter".toList
  | invalidCapitalLetter => "invalid_capital_letter".toList
  | invalidSymbol => "invalid_symbol".toList
  | multipleSymbols => "multiple_symbols".toList
  | invalidNumberFormat => "invalid_number_format".toList
  | negativeNumber => "negative_number".toList
  | zeroNumber => "zero_number".toList
  | numberExceedsLimit => "number_exceeds_limit".toList

def name (k : FailureKind) : Text :=
  k.value.upper

end FailureKind

/-- A broken rule, with the part of the text that breaks it. -/
inductive Violation where
  | noSpaceSeparator
  | uninterpretable
  | lowercaseLetter (letter : Char)
  | invalidCapitalLetter (letter : Char)
  | invalidSymbol (symbol : Text)
  | multipleSymbols (symbols : Text)
  | invalidNumberFormat (token : Text)
  | negativeNumber (number : Int)
  | zeroNumber
  | numberExceedsLimit (number : Int)
  deriving DecidableEq, Repr

def Violation.kind : Violation → FailureKind
  | noSpaceSeparator => .noSpaceSeparator
  | uninterpretable => .uninterpretable
  | lowercaseLetter _ => .lowercaseLetter
  | invalidCapitalLetter _ => .invalidCapitalLetter
  | invalidSymbol _ => .invalidSymbol
  | multipleSymbols _ => .multipleSymbols
  | invalidNumberFormat _ => .invalidNumberFormat
  | negativeNumber _ => .negativeNumber
  | zeroNumber => .zeroNumber
  | numberExceedsLimit _ => .numberExceedsLimit

/-- The first rule that a text breaks. -/
structure Failure where
  command : Text
  violation : Violation
  deriving DecidableEq, Repr

namespace Failure

def kind (f : Failure) : FailureKind :=
  f.violation.kind

def uninterpretableMessage (command : Text) : Text :=
  "Cannot interpret command: ".toList ++ command ++ ['.']

/-- What a message is put together from: words, and numbers that are written into it. -/
inductive Part where
  | words (t : Text)
  | number (n : Int)

def Part.text : Part → Text
  | words t => t
  | number n => Numeral.text n

def Part.number? : Part → Option Int
  | words _ => none
  | number n => some n

def parts (f : Failure) : List Part :=
  match f.violation with
  | .noSpaceSeparator => [.words ("No space separator in command: ".toList ++ f.command ++ ['.'])]
  | .uninterpretable => [.words (uninterpretableMessage f.command)]
  | .lowercaseLetter a => [.words ("Lowercase letter used: ".toList ++ [a, '.'])]
  | .invalidCapitalLetter a => [.words ("Invalid capital letter used: ".toList ++ [a, '.'])]
  | .invalidSymbol s => [.words ("Invalid symbol used: ".toList ++ s ++ ['.'])]
  | .multipleSymbols s => [.words ("Multiple symbols used: ".toList ++ s ++ ['.'])]
  | .invalidNumberFormat t => [.words ("Invalid number format used: ".toList ++ t ++ ['.'])]
  | .negativeNumber n => [.words "Negative number used: ".toList, .number n, .words ['.']]
  | .zeroNumber => [.words "Zero number not allowed.".toList]
  | .numberExceedsLimit n =>
    [.words "Number exceeds limit ".toList, .number Command.maxMagnitude, .words ": ".toList,
      .number n, .words ['.']]

def message (f : Failure) : Text :=
  f.parts.flatMap Part.text

/-- The numbers that the message is to quote. -/
def numbers (f : Failure) : List Int :=
  f.parts.filterMap Part.number?

theorem message_mk (c : Text) (v : Violation) : message ⟨c, v⟩ =
    match v with
    | .noSpaceSeparator => "No space separator in command: ".toList ++ c ++ ['.']
    | .uninterpretable => uninterpretableMessage c
    | .lowercaseLetter a => "Lowercase letter used: ".toList ++ [a, '.']
    | .invalidCapitalLetter a => "Invalid capital letter used: ".toList ++ [a, '.']
    | .invalidSymbol s => "Invalid symbol used: ".toList ++ s ++ ['.']
    | .multipleSymbols s => "Multiple symbols used: ".toList ++ s ++ ['.']
    | .invalidNumberFormat t => "Invalid number format used: ".toList ++ t ++ ['.']
    | .negativeNumber n => "Negative number used: ".toList ++ Numeral.text n ++ ['.']
    | .zeroNumber => "Zero number not allowed.".toList
    | .numberExceedsLimit n =>
      "Number exceeds limit ".toList ++ Numeral.text Command.maxMagnitude ++ ": ".toList ++
        Numeral.text n ++ ['.'] := by
  cases v <;> simp only [message, parts, List.flatMap_cons, List.flatMap_nil, Part.text,
    List.append_nil, List.append_assoc]

end Failure

end GridRobot
