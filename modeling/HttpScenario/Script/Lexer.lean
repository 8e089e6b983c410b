import HttpScenario.Script.Token
import HttpScenario.Double.Decimal
import HttpScenario.Text.Blank
import HttpScenario.Text.Letter
/-!
# Cutting a script into tokens

At each place the longest token that starts there is taken.  Blanks separate tokens and are
otherwise ignored.  A number is a run of digits and single dots, each dot followed by a digit, so
that `1.length` is a number, a dot and a name; a number with more than one dot is refused as a
token.  A text stands between two equal quotes, of either kind, and a backslash takes the next
character for itself, with `n`, `t` and `r` standing for a line feed, a tab and a carriage return.

The limit on the number of tokens is looked at before each further character, a blank included.
-/

namespace HttpScenario.Script

/-- Whether a character starts a name. -/
def startsName (c : Char) : Bool :=
  Text.isAlphabetic c || c == '_' || c == '$'

/-- Whether a character goes on with a name. -/
def continuesName (c : Char) : Bool :=
  Text.isAlphanumeric c || c == '_' || c == '$'

/-- Whether a text starts with a digit. -/
def startsWithDigit : List Char → Bool
  | c :: _ => c.isDigit
  | [] => false

/-- The longest run of digits, and dots followed by a digit, and what follows it. -/
def numberChars : List Char → List Char × List Char
  | [] => ([], [])
  | c :: rest =>
    if c.isDigit || (c == '.' && startsWithDigit rest) then
      (c :: (numberChars rest).1, (numberChars rest).2)
    else ([], c :: rest)

/-- The character that a letter after a backslash stands for. -/
def unescape (c : Char) : Char :=
  if c = 'n' then '\n' else if c = 't' then '\t' else if c = 'r' then '\r' else c

/-- The text up to the next quote that is not escaped, and what follows the quote. -/
def textChars? (quote : Char) : List Char → Option (List Char × List Char)
  | [] => none
  | c :: rest =>
    if c = quote then some ([], rest)
    else if c = '\\' then
      match rest with
      | [] => none
      | escaped :: rest =>
        match textChars? quote rest with
        | some (text, after) => some (unescape escaped :: text, after)
        | none => none
    else
      match textChars? quote rest with
      | some (text, after) => some (c :: text, after)
      | none => none

/-- The longest mark that starts with a character. -/
def mark? : Char → List Char → Option (Token × List Char)
  | '.', rest => some (.dot, rest)
  | '[', rest => some (.openBracket, rest)
  | ']', rest => some (.closeBracket, rest)
  | '(', rest => some (.openParen, rest)
  | ')', rest => some (.closeParen, rest)
  | '-', rest => some (.minus, rest)
  | '&', '&' :: rest => some (.and, rest)
  | '|', '|' :: rest => some (.or, rest)
  | '=', '=' :: '=' :: rest => some (.strictEqual, rest)
  | '=', '=' :: rest => some (.equal, rest)
  | '!', '=' :: '=' :: rest => some (.strictNotEqual, rest)
  | '!', '=' :: rest => some (.notEqual, rest)
  | '!', rest => some (.not, rest)
  | '<', '=' :: rest => some (.lessEqual, rest)
  | '<', rest => some (.less, rest)
  | '>', '=' :: rest => some (.greaterEqual, rest)
  | '>', rest => some (.greater, rest)
  | _, _ => none

/-- What the front of a text is: a blank, a token, or a fault.  `offset` counts the characters
before it. -/
def lexeme (offset : Nat) (c : Char) (rest : List Char) :
    Except Fault (Option Token × List Char) :=
  if Text.isBlank c then .ok (none, rest)
  else if c.isDigit then
    match Double.read? (String.ofList (c :: (numberChars rest).1)) with
    | some value => .ok (some (.number value), (numberChars rest).2)
    | none => .error (.unexpectedToken (String.ofList (c :: (numberChars rest).1)))
  else if c = '"' ∨ c = '\'' then
    match textChars? c rest with
    | some (text, after) => .ok (some (.text (String.ofList text)), after)
    | none => .error .unterminatedText
  else if startsName c then
    .ok (some (.ident (String.ofList (c :: rest.takeWhile continuesName))),
      rest.dropWhile continuesName)
  else
    match mark? c rest with
    | some (token, after) => .ok (some token, after)
    | none => .error (.unexpectedChar c offset)

theorem numberChars_length (cs : List Char) : (numberChars cs).2.length ≤ cs.length := by
  induction cs with
  | nil => simp [numberChars]
  | cons c rest ih =>
    simp only [numberChars]
    split
    · simp only [List.length_cons]
      omega
    · simp

theorem textChars?_length (quote : Char) {cs text after : List Char}
    (h : textChars? quote cs = some (text, after)) : after.length < cs.length := by
  fun_induction textChars? quote cs generalizing text after
  all_goals simp only [Option.some.injEq, Prod.mk.injEq, reduceCtorEq] at h
  all_goals rw [← h.2]
  · simp
  all_goals
    rename_i ih
    have := ih (by assumption)
    simp only [List.length_cons]
    omega

theorem mark?_length {c : Char} {rest after : List Char} {token : Token}
    (h : mark? c rest = some (token, after)) : after.length ≤ rest.length := by
  unfold mark? at h
  split at h
  all_goals simp only [Option.some.injEq, Prod.mk.injEq, reduceCtorEq] at h
  all_goals rw [← h.2] <;> grind

/-- A token or a blank uses up at least its first character. -/
theorem lexeme_length {offset : Nat} {c : Char} {rest after : List Char} {token : Option Token}
    (h : lexeme offset c rest = .ok (token, after)) : after.length ≤ rest.length := by
  unfold lexeme at h
  split at h
  · simp_all
  split at h
  · split at h
    · simp only [Except.ok.injEq, Prod.mk.injEq] at h
      rw [← h.2]
      exact numberChars_length rest
    · simp at h
  split at h
  · split at h
    · rename_i text left htext
      simp only [Except.ok.injEq, Prod.mk.injEq] at h
      have := textChars?_length c htext
      rw [← h.2]
      omega
    · simp at h
  split at h
  · simp only [Except.ok.injEq, Prod.mk.injEq] at h
    rw [← h.2]
    exact (List.dropWhile_sublist continuesName).length_le
  split at h
  · rename_i mark left hmark
    simp only [Except.ok.injEq, Prod.mk.injEq] at h
    rw [← h.2]
    exact mark?_length hmark
  · simp at h

/-- The tokens of a text, given how many characters and how many tokens stand before it. -/
def tokensFrom (offset count : Nat) : List Char → Except Fault (List Token)
  | [] => .ok []
  | c :: rest =>
    if maxTokens ≤ count then .error .tooLong
    else
      match _h : lexeme offset c rest with
      | .error fault => .error fault
      | .ok (none, after) => tokensFrom (offset + (rest.length + 1 - after.length)) count after
      | .ok (some token, after) =>
        match tokensFrom (offset + (rest.length + 1 - after.length)) (count + 1) after with
        | .error fault => .error fault
        | .ok tokens => .ok (token :: tokens)
termination_by cs => cs.length
decreasing_by
  all_goals
    have := lexeme_length _h
    simp only [List.length_cons]
    omega

/-- The tokens of a script. -/
def tokenize (source : String) : Except Fault (List Token) :=
  tokensFrom 0 0 source.toList

end HttpScenario.Script
