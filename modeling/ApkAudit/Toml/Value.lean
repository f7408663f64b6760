import ApkAudit.Number.Binary64
import ApkAudit.Toml.Token

/-!
Values of TOML documents, and how they are read from tokens.
-/

namespace ApkAudit.Toml

/-- A value.  Dates and times are recognised, but not interpreted.  A table is open if dotted keys
made it: only such a table takes more dotted keys. -/
inductive Value where
  | text (s : String)
  | integer (n : Int)
  | float (x : Number.Binary64)
  | boolean (b : Bool)
  | moment
  | array (items : List Value)
  | table (isOpen : Bool) (members : List (String × Value))
deriving Inhabited

namespace Value

inductive Kind where
  | text
  | integer
  | float
  | boolean
  | moment
  | array
  | table
deriving DecidableEq, Repr

def kind : Value → Kind
  | text _ => .text
  | integer _ => .integer
  | float _ => .float
  | boolean _ => .boolean
  | moment => .moment
  | array _ => .array
  | table _ _ => .table

end Value

abbrev Members := List (String × Value)

def Members.replace (key : String) (value : Value) : Members → Members
  | [] => []
  | (k, v) :: rest =>
    if k = key then (k, value) :: rest else (k, v) :: Members.replace key value rest

/-- Adds a value under a dotted key.  Nothing is compared with earlier members of the same name,
except that a dotted key leads only into tables made by dotted keys. -/
def Members.add (value : Value) : List String → Members → Except Error Members
  | [], members => .ok members
  | [key], members => .ok (members ++ [(key, value)])
  | key :: next :: path, members =>
    match members.lookup key with
    | none => do
      let inner ← Members.add value (next :: path) []
      return members ++ [(key, .table true inner)]
    | some (.table true inner) => do
      let inner ← Members.add value (next :: path) inner
      return Members.replace key (.table true inner) members
    | some _ => .error (.notTable key)

/-! Numbers -/

/-- Reads digits with single underscores between them, and gives them without the underscores, with
the rest.  A leading zero stands alone, unless zeros are free. -/
def readDigits (radix : Nat) (freeZeros : Bool) (first zero underscore : Bool) :
    List Char → Except Error (List Char × List Char)
  | [] => if first || underscore then .error .badNumber else .ok ([], [])
  | c :: rest =>
    if c = '0' && first then do
      let (digits, rest) ← readDigits radix freeZeros false true underscore rest
      return (c :: digits, rest)
    else if (Number.digit? radix c).isSome then
      if !first && zero && !freeZeros then .error .badNumber
      else do
        let (digits, rest) ← readDigits radix freeZeros false zero false rest
        return (c :: digits, rest)
    else if c = '_' && !first && !underscore then readDigits radix freeZeros false zero true rest
    else if first || underscore then .error .badNumber
    else .ok ([], c :: rest)

def digits (radix : Nat) (freeZeros : Bool) (word : List Char) :
    Except Error (List Char × List Char) :=
  readDigits radix freeZeros true false false word

def signedDigits (word : List Char) : Except Error (List Char × List Char) :=
  match word with
  | '-' :: rest => do
    let (ds, rest) ← digits 10 false rest
    return ('-' :: ds, rest)
  | _ => digits 10 false word

def integerOf (radix : Nat) (read : List Char × List Char) : Except Error Value :=
  if !read.2.isEmpty then .error .badNumber
  else
    match Number.readSigned radix Number.maxInt64 read.1 with
    | .ok n => .ok (.integer n)
    | .error _ => .error .badNumber

def floatOf (decimal : List Char) : Except Error Value :=
  match Number.readDecimal? decimal with
  | none => .error .badNumber
  | some d => if d.toBinary64.isFinite then .ok (.float d.toBinary64) else .error .badNumber

/-- The exponent of a float: behind the mark in the same word, or in a word of its own.  Whatever
else stands behind the digits does not count. -/
def exponent (suffix : List Char) (rest : List Token) :
    Except Error (List Char × List Token) :=
  match suffix with
  | [] => .ok ([], rest)
  | mark :: word =>
    if mark ≠ 'e' ∧ mark ≠ 'E' then .ok ([], rest)
    else do
      let (read, rest) ←
        match word, rest with
        | [], .plus :: .bare next :: rest => do pure (← digits 10 false next, rest)
        | [], .bare next :: rest => do pure (← digits 10 false next, rest)
        | [], _ => throw .badNumber
        | _, _ => do pure (← signedDigits word, rest)
      if !read.2.isEmpty then throw .badNumber
      return ('e' :: read.1, rest)

def float (whole : List Char) (fraction : Option (List Char)) (rest : List Token) :
    Except Error (Value × List Token) := do
  let (before, suffix) ← signedDigits whole
  match fraction with
  | none => do
    let (e, rest) ← exponent suffix rest
    return (← floatOf (before ++ e), rest)
  | some word => do
    if !suffix.isEmpty then throw .badNumber
    let (after, suffix) ← digits 10 true word
    let (e, rest) ← exponent suffix rest
    return (← floatOf (before ++ '.' :: after ++ e), rest)

def number (word : List Char) (rest : List Token) : Except Error (Value × List Token) :=
  match word with
  | '0' :: 'x' :: ds => do return (← integerOf 16 (← digits 16 true ds), rest)
  | '0' :: 'o' :: ds => do return (← integerOf 8 (← digits 8 true ds), rest)
  | '0' :: 'b' :: ds => do return (← integerOf 2 (← digits 2 true ds), rest)
  | _ =>
    if 'e' ∈ word ∨ 'E' ∈ word then float word none rest
    else
      match rest with
      | .period :: .bare fraction :: rest => float word (some fraction) rest
      | .period :: _ => .error .badNumber
      | _ =>
        if word = "inf".toList then .ok (.float (.infinity false), rest)
        else if word = "-inf".toList then .ok (.float (.infinity true), rest)
        else if word = "nan".toList ∨ word = "-nan".toList then .ok (.float .notANumber, rest)
        else do return (← integerOf 10 (← signedDigits word), rest)

/-! Dates and times -/

def optionalWord (mark : Token) (rest : List Token) : Except Error (List Token) :=
  match rest with
  | [] => .ok []
  | token :: more =>
    if token ≠ mark then .ok rest
    else
      match more with
      | .bare _ :: more => .ok more
      | _ => .error .badMoment

def clock : List Token → Except Error (Value × List Token)
  | .bare _ :: .colon :: .bare _ :: rest => do
    let rest ← optionalWord .period rest
    let rest ← optionalWord .plus rest
    let rest ← optionalWord .colon rest
    return (.moment, rest)
  | _ => .error .badMoment

/-- The rest of a moment, behind its first word.  One space may stand between date and time. -/
def moment (colonRead : Bool) (rest : List Token) : Except Error (Value × List Token) :=
  let rest :=
    match rest with
    | .blank ' ' :: .bare _ :: more => more
    | _ => rest
  match colonRead, rest with
  | true, _ => clock rest
  | false, .colon :: more => clock more
  | false, _ => .ok (.moment, rest)

def hasNegativeExponent : List Char → Bool
  | 'e' :: '-' :: _ => true
  | _ :: rest => hasNegativeExponent rest
  | [] => false

def isDate (word : List Char) : Bool :=
  'T' ∈ word || ('-' ∈ word.tail && !hasNegativeExponent word)

def ofWord (word : List Char) (rest : List Token) : Except Error (Value × List Token) :=
  if word = "true".toList then .ok (.boolean true, rest)
  else if word = "false".toList then .ok (.boolean false, rest)
  else if isDate word then moment false rest
  else
    match rest with
    | .colon :: more => moment true more
    | _ => number word rest

/-! Keys, arrays and tables -/

def skipBlanks (tokens : List Token) : List Token :=
  tokens.dropWhile fun
    | .blank _ => true
    | _ => false

def skipSpace (tokens : List Token) : List Token :=
  tokens.dropWhile fun
    | .blank _ | .newline | .comment => true
    | _ => false

def keyPart : List Token → Except Error (String × List Token)
  | .bare word :: rest => .ok (String.ofList word, rest)
  | .quoted (c :: cs) false :: rest => .ok (String.ofList (c :: cs), rest)
  | _ => .error .unexpectedToken

def keyRest : Nat → List Token → Except Error (List String × List Token)
  | 0, _ => .error .unexpectedToken
  | fuel + 1, tokens =>
    match skipBlanks tokens with
    | .period :: rest => do
      let (part, rest) ← keyPart (skipBlanks rest)
      let (parts, rest) ← keyRest fuel rest
      return (part :: parts, rest)
    | rest => .ok ([], rest)

def key (tokens : List Token) : Except Error (List String × List Token) := do
  let (part, rest) ← keyPart tokens
  let (parts, rest) ← keyRest (rest.length + 1) rest
  return (part :: parts, rest)

def keyAndEquals (tokens : List Token) : Except Error (List String × List Token) := do
  match ← key tokens with
  | (path, .equals :: rest) => return (path, skipBlanks rest)
  | _ => throw .unexpectedToken

mutual

def value : Nat → List Token → Except Error (Value × List Token)
  | 0, _ => .error .unexpectedToken
  | fuel + 1, tokens =>
    match tokens with
    | .quoted text _ :: rest => .ok (.text (String.ofList text), rest)
    | .bare word :: rest => ofWord word rest
    | .plus :: .bare word :: rest => number word rest
    | .openBracket :: rest => items fuel [] rest
    | .openBrace :: rest =>
      match skipBlanks rest with
      | .closeBrace :: rest => .ok (.table false [], rest)
      | rest => members fuel [] rest
    | _ => .error .unexpectedToken

/-- Reads the items of an array, up to its closing bracket.  They are all of one kind, and a comma
may follow the last one. -/
def items : Nat → List Value → List Token → Except Error (Value × List Token)
  | 0, _, _ => .error .unexpectedToken
  | fuel + 1, done, tokens =>
    match skipSpace tokens with
    | .closeBracket :: rest => .ok (.array done, rest)
    | tokens => do
      let (item, rest) ← value fuel tokens
      if done.getLast?.any fun last => last.kind ≠ item.kind then throw .mixedArray
      match skipSpace rest with
      | .comma :: rest => items fuel (done ++ [item]) rest
      | .closeBracket :: rest => return (.array (done ++ [item]), rest)
      | _ => throw .unexpectedToken

def members : Nat → Members → List Token → Except Error (Value × List Token)
  | 0, _, _ => .error .unexpectedToken
  | fuel + 1, done, tokens => do
    let (path, rest) ← keyAndEquals tokens
    let (item, rest) ← value fuel rest
    let done ← Members.add item path done
    match skipBlanks rest with
    | .comma :: rest => members fuel done (skipBlanks rest)
    | .closeBrace :: rest => return (.table false done, rest)
    | _ => throw .unexpectedToken

end

/-- Reads a value; every step into an array or table, and every item, takes a token. -/
def readValue (tokens : List Token) : Except Error (Value × List Token) :=
  value (2 * tokens.length + 2) tokens

end ApkAudit.Toml
