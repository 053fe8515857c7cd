import LineCalc.Text.Quoted

/-!
Flaws in the form of an expression, with their messages.
-/
namespace LineCalc.Literal

inductive ParameterFlaw where
  | required
  | bracketed
  | slashFirst
  | slashTwice
  | slashAfterStar
  | starAfterSlash
  | starAlone
  | starTwice
  | starWithDefault
  | doubleStarWithDefault
  | afterDoubleStar
  | missingDefault
  deriving DecidableEq, Repr

def ParameterFlaw.message : ParameterFlaw → String
  | required => "non-default argument follows default argument"
  | bracketed => "Lambda expression parameters cannot be parenthesized"
  | slashFirst => "at least one argument must precede /"
  | slashTwice => "/ may appear only once"
  | slashAfterStar => "/ must be ahead of *"
  | starAfterSlash => "expected comma between / and *"
  | starAlone => "named arguments must follow bare *"
  | starTwice => "* argument may appear only once"
  | starWithDefault => "var-positional argument cannot have default value"
  | doubleStarWithDefault => "var-keyword argument cannot have default value"
  | afterDoubleStar => "arguments cannot follow var-keyword argument"
  | missingDefault => "expected default value expression"

inductive FormatFlaw where
  | braceExpected
  | singleBrace
  | nestedTooDeep
  | backslash
  | comment
  | manyBrackets
  | unmatched (bracket : Char)
  | mismatched (closing opening : Char)
  | openText
  | conversion
  | nothingBefore (sign : Char)
  | nothing
  deriving DecidableEq, Repr

def FormatFlaw.message : FormatFlaw → String
  | braceExpected => "f-string: expecting '\x7d'"
  | singleBrace => "f-string: single '\x7d' is not allowed"
  | nestedTooDeep => "f-string: expressions nested too deeply"
  | backslash => "f-string expression part cannot include a backslash"
  | comment => "f-string expression part cannot include '#'"
  | manyBrackets => "f-string: too many nested parenthesis"
  | unmatched bracket => "f-string: unmatched '" ++ bracket.toString ++ "'"
  | mismatched closing opening =>
    "f-string: closing parenthesis '" ++ closing.toString ++
      "' does not match opening parenthesis '" ++ opening.toString ++ "'"
  | openText => "f-string: unterminated string"
  | conversion => "f-string: invalid conversion character: expected 's', 'r', or 'a'"
  | nothingBefore sign => "f-string: expression required before '" ++ sign.toString ++ "'"
  | nothing => "f-string: empty expression not allowed"

inductive Flaw where
  | invalid
  | missingComma
  | maybeEquality
  | cannotAssign (what : String)
  | cannotName (what : String)
  | noTarget (what : String)
  | argumentAssigned
  | elseExpected
  | keyWithoutValue
  | keyWithoutColon
  | starredValue
  | starredGroup
  | doubleStarredGroup
  | starAlone
  | starredProduct
  | doubleStarredProduct
  | looseTarget
  | bareGenerator
  | starAfterDoubleStar
  | positionalLate (afterDoubleStar : Bool)
  | noParentheses (name : String)
  | parameters (flaw : ParameterFlaw)
  | mixedTexts
  | nonAsciiBytes
  /-- An escape from one place in a text up to another. -/
  | badEscape (first last : Nat) (reason : String)
  | badByteEscape (position : Nat)
  | format (flaw : FormatFlaw)
  | longNumber (digits : Nat)
  | neverClosed (opening : Char)
  | unmatched (closing : Char)
  | mismatched (closing opening : Char) (openingLine? : Option Nat)
  | nestedTooDeep
  | openText (line : Nat)
  | openLongText (line : Nat)
  | afterContinuation
  | unexpectedEnd
  | unexpectedIndent
  | badNumber (kind : String)
  | badDigit (digit : Char) (kind : String)
  | leadingZeros
  | badCharacter (c : Char)
  /-- A flaw of an expression that a text holds. -/
  | inText (flaw : Flaw)
  deriving DecidableEq, Repr

def codeText (c : Char) : String :=
  let places := if c.toNat < 0x10000 then 4 else if c.toNat < 0x100000 then 5 else 6
  String.ofList ((Text.hex places c.toNat).map Char.toUpper)

def Flaw.message : Flaw → String
  | invalid => "invalid syntax"
  | missingComma => "invalid syntax. Perhaps you forgot a comma?"
  | maybeEquality => "invalid syntax. Maybe you meant '==' or ':=' instead of '='?"
  | cannotAssign what =>
    "cannot assign to " ++ what ++ " here. Maybe you meant '==' instead of '='?"
  | cannotName what => "cannot use assignment expressions with " ++ what
  | noTarget what => "cannot assign to " ++ what
  | argumentAssigned => "expression cannot contain assignment, perhaps you meant \"==\"?"
  | elseExpected => "expected 'else' after 'if' expression"
  | keyWithoutValue => "expression expected after dictionary key and ':'"
  | keyWithoutColon => "':' expected after dictionary key"
  | starredValue => "cannot use a starred expression in a dictionary value"
  | starredGroup => "cannot use starred expression here"
  | doubleStarredGroup => "cannot use double starred expression here"
  | starAlone => "Invalid star expression"
  | starredProduct => "iterable unpacking cannot be used in comprehension"
  | doubleStarredProduct => "dict unpacking cannot be used in dict comprehension"
  | looseTarget => "did you forget parentheses around the comprehension target?"
  | bareGenerator => "Generator expression must be parenthesized"
  | starAfterDoubleStar =>
    "iterable argument unpacking follows keyword argument unpacking"
  | positionalLate afterDoubleStar =>
    "positional argument follows keyword argument" ++ (if afterDoubleStar then " unpacking" else "")
  | noParentheses name =>
    "Missing parentheses in call to '" ++ name ++ "'. Did you mean " ++ name ++ "(...)?"
  | parameters flaw => flaw.message
  | mixedTexts => "cannot mix bytes and nonbytes literals"
  | nonAsciiBytes => "bytes can only contain ASCII literal characters"
  | badEscape first last reason =>
    "(unicode error) 'unicodeescape' codec can't decode bytes in position " ++ toString first ++
      "-" ++ toString last ++ ": " ++ reason
  | badByteEscape position => "(value error) invalid \\x escape at position " ++ toString position
  | format flaw => flaw.message
  | longNumber digits =>
    "Exceeds the limit (4300 digits) for integer string conversion: value has " ++
      toString digits ++ " digits; use sys.set_int_max_str_digits() to increase the limit - " ++
      "Consider hexadecimal for huge integer literals to avoid decimal conversion limits."
  | neverClosed opening => "'" ++ opening.toString ++ "' was never closed"
  | unmatched closing => "unmatched '" ++ closing.toString ++ "'"
  | mismatched closing opening openingLine? =>
    "closing parenthesis '" ++ closing.toString ++ "' does not match opening parenthesis '" ++
      opening.toString ++ "'" ++ (openingLine?.elim "" fun line => " on line " ++ toString line)
  | nestedTooDeep => "too many nested parentheses"
  | openText line => "unterminated string literal (detected at line " ++ toString line ++ ")"
  | openLongText line =>
    "unterminated triple-quoted string literal (detected at line " ++ toString line ++ ")"
  | afterContinuation => "unexpected character after line continuation character"
  | unexpectedEnd => "unexpected EOF while parsing"
  | unexpectedIndent => "unexpected indent"
  | badNumber kind => "invalid " ++ kind ++ " literal"
  | badDigit digit kind => "invalid digit '" ++ digit.toString ++ "' in " ++ kind ++ " literal"
  | leadingZeros =>
    "leading zeros in decimal integer literals are not permitted; " ++
      "use an 0o prefix for octal integers"
  | badCharacter c =>
    if Text.isPrintable c then
      "invalid character '" ++ c.toString ++ "' (U+" ++ codeText c ++ ")"
    else "invalid non-printable character U+" ++ codeText c
  | inText flaw => "f-string: " ++ flaw.message

end LineCalc.Literal
