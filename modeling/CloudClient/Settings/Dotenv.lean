import CloudClient.Text.Blank

namespace CloudClient.Settings

/-- A blank that is not a line break. -/
def isInlineBlank (c : Char) : Bool := Text.isBlank c && c != '\n' && c != '\r'

/-- Drops a byte order mark at the start and makes every line break `\n`. -/
def normalize (text : String) : List Char :=
  let chars := match text.toList with
    | '\uFEFF' :: rest => rest
    | chars => chars
  go chars
where
  /-- Rewrites the line breaks. -/
  go : List Char → List Char
    | '\r' :: '\n' :: rest => '\n' :: go rest
    | '\r' :: rest => '\n' :: go rest
    | c :: rest => c :: go rest
    | [] => []

/-- The first place at or after `i` whose character does not satisfy `keep`. -/
def skip (text : Array Char) (keep : Char → Bool) (i : Nat) : Nat :=
  if h : i < text.size then
    if keep text[i] then skip text keep (i + 1) else i
  else i
termination_by text.size - i

/-- The characters between two places. -/
def slice (text : Array Char) (start stop : Nat) : String :=
  String.ofList (text.extract start stop).toList

/-- The closing quote of a quoted value whose content starts at `i`, backslashes escaping. -/
def closingQuote (text : Array Char) (quote : Char) (i : Nat) : Option Nat :=
  if h : i < text.size then
    let c := text[i]
    if c == '\\' then
      match text[i + 1]? with
      | some next => if next == '\n' then Option.none else closingQuote text quote (i + 2)
      | Option.none => Option.none
    else if c == quote then some i
    else closingQuote text quote (i + 1)
  else Option.none
termination_by text.size - i

/-- The character a two-character escape stands for, among the escapes allowed. -/
def escaped (allowed : List Char) (c : Char) : Option Char :=
  if !allowed.contains c then Option.none
  else match c with
    | 'a' => some '\x07'
    | 'b' => some '\x08'
    | 'f' => some '\x0c'
    | 'n' => some '\n'
    | 'r' => some '\r'
    | 't' => some '\t'
    | 'v' => some '\x0b'
    | other => some other

/-- Replaces the allowed escapes, left to right. -/
def unescape (allowed : List Char) : List Char → List Char
  | '\\' :: c :: rest =>
    match escaped allowed c with
    | some meant => meant :: unescape allowed rest
    | Option.none => '\\' :: unescape allowed (c :: rest)
  | c :: rest => c :: unescape allowed rest
  | [] => []

/-- The escapes of single-quoted values. -/
def singleEscapes : List Char := ['\\', '\'']

/-- The escapes of double-quoted values. -/
def doubleEscapes : List Char := ['\\', '\'', '"', 'a', 'b', 'f', 'n', 'r', 't', 'v']

/-- A bare value: up to a comment that follows blanks, without trailing blanks. -/
def bareValue (part : List Char) : String :=
  let cut := go part
  String.ofList (cut.reverse.dropWhile Text.isBlank).reverse
where
  /-- Keeps the characters before the first run of blanks followed by `#`. -/
  go : List Char → List Char
    | [] => []
    | c :: rest =>
      if Text.isBlank c && (rest.dropWhile Text.isBlank).head? == some '#' then []
      else c :: go rest

/-- Reads a value at `i`, and the place after it; none for a quoted value left open. -/
def readValue (text : Array Char) (i : Nat) (afterBlank : Bool) : Option (String × Nat) :=
  match text[i]? with
  | some '\'' => do
    let close ← closingQuote text '\'' (i + 1)
    pure (String.ofList (unescape singleEscapes (slice text (i + 1) close).toList), close + 1)
  | some '"' => do
    let close ← closingQuote text '"' (i + 1)
    pure (String.ofList (unescape doubleEscapes (slice text (i + 1) close).toList), close + 1)
  | Option.none | some '\n' => some ("", i)
  | some c =>
    if afterBlank && c == '#' then some ("", i)
    else
      let stop := skip text (· != '\n') i
      some (bareValue (slice text i stop).toList, stop)

/-- Reads a key starting at `i`: none for a comment, and a failure when no key is there. -/
def readKey (text : Array Char) (i : Nat) : Except Nat (Option String × Nat) :=
  match text[i]? with
  | some '#' => .ok (Option.none, i)
  | some '\'' =>
    let stop := skip text (· != '\'') (i + 1)
    if stop > i + 1 && text[stop]? == some '\'' then .ok (some (slice text (i + 1) stop), stop + 1)
    else .error i
  | _ =>
    let stop := skip text (fun c => c != '=' && c != '#' && !Text.isBlank c) i
    if stop > i then .ok (some (slice text i stop), stop) else .error i

/-- The place after an `export` and its blanks, when they are there. -/
def skipExport (text : Array Char) (i : Nat) : Nat :=
  if (List.range 6).all (fun k => text[i + k]? == "export".toList[k]?) then
    let stop := skip text isInlineBlank (i + 6)
    if stop > i + 6 then stop else i
  else i

/-- Reads one line at `i`: its key and value when it has a key, and the place after it. -/
def readLine (text : Array Char) (i : Nat) :
    Except Nat (Option (String × Option String) × Nat) := do
  let (key, afterKey) ← readKey text (skipExport text i)
  let afterBlank := skip text isInlineBlank afterKey
  let (value, afterValue) ←
    if text[afterBlank]? == some '=' then
      let start := skip text isInlineBlank (afterBlank + 1)
      match readValue text start (start > afterBlank + 1) with
      | some (v, stop) => pure (some v, stop)
      | Option.none => throw start
    else pure (Option.none, afterBlank)
  let commentStart := skip text isInlineBlank afterValue
  let afterComment :=
    if text[commentStart]? == some '#' then skip text (· != '\n') commentStart else afterValue
  let lineEnd := skip text isInlineBlank afterComment
  let next ← match text[lineEnd]? with
    | Option.none => pure lineEnd
    | some '\n' => pure (lineEnd + 1)
    | some _ => throw lineEnd
  pure (key.map fun k => (k, value), next)

/-- Reads the lines from `i` on, with fuel bounding the number of lines. -/
def readLines (text : Array Char) : Nat → Nat → List (String × Option String)
  | 0, _ => []
  | fuel + 1, i =>
    let start := skip text Text.isBlank i
    if start ≥ text.size then []
    else
      match readLine text start with
      | .ok (binding, next) => binding.toList ++ readLines text fuel next
      | .error stop =>
        let lineEnd := skip text (· != '\n') stop
        let next := if text[lineEnd]? == some '\n' then lineEnd + 1 else lineEnd
        readLines text fuel next

/-- The keys and values of a settings file, in order. -/
def parse (content : String) : List (String × Option String) :=
  let text := (normalize content).toArray
  -- every line read moves past at least one character, so this fuel is never exhausted
  readLines text (text.size + 1) 0

/-- A part of a value: text as it is, or a reference to a variable with an optional default. -/
inductive Atom where
  | literal (text : String)
  | variable (name : String) (fallback : Option String)

/-- Reads the reference at `${`: its name, its default and the characters after its brace. -/
def readReference (rest : List Char) : Option ((String × Option String) × List Char) :=
  let name := rest.takeWhile (fun c => c != '}' && c != ':')
  match rest.drop name.length with
  | '}' :: after => some ((String.ofList name, Option.none), after)
  | ':' :: '-' :: more =>
    let fallback := more.takeWhile (· != '}')
    match more.drop fallback.length with
    | '}' :: after => some ((String.ofList name, some (String.ofList fallback)), after)
    | _ => Option.none
  | _ => Option.none

/-- Splits a value into text and references, with fuel bounding the characters visited. -/
def atomsOf : Nat → List Char → List Char → List Atom
  | 0, pending, _ => [.literal (String.ofList pending.reverse)]
  | fuel + 1, pending, chars =>
    match chars with
    | [] => if pending.isEmpty then [] else [.literal (String.ofList pending.reverse)]
    | '$' :: '{' :: rest =>
      match readReference rest with
      | some ((name, fallback), after) =>
        let before := if pending.isEmpty then [] else [Atom.literal (String.ofList pending.reverse)]
        before ++ Atom.variable name fallback :: atomsOf fuel [] after
      | Option.none => atomsOf fuel ('$' :: pending) ('{' :: rest)
    | c :: rest => atomsOf fuel (c :: pending) rest

/-- The text of a value with its references replaced by what `lookup` gives them. -/
def expand (lookup : String → Option (Option String)) (value : String) : String :=
  String.join ((atomsOf (value.length + 1) [] value.toList).map fun atom =>
    match atom with
    | .literal text => text
    | .variable name fallback =>
      match lookup name with
      | some (some found) => found
      | some Option.none => ""
      | Option.none => fallback.getD "")

end CloudClient.Settings
