import StubServer.Regex.CharSet
import StubServer.Text.Blank

/-!
# The flags of a pattern

How the parts of a pattern are understood can be changed inside the pattern. In verbose patterns,
blanks and comments from a number sign to the end of the line mean nothing.

## Main definitions

* `Regex.Flags`: the settings in force at a place of a pattern.
* `Regex.readFlags`: reads the letters that change them.
* `Regex.Flags.skip`: the pattern from the next character on that means something.
-/

namespace StubServer.Regex

/-- The settings in force at a place of a pattern. -/
structure Flags where
  /-- Letter case does not matter. -/
  ignoreCase : Bool := false
  /-- Line starts and ends are asserted in place of those of the text. -/
  multiLine : Bool := false
  /-- The dot stands for line feeds, too. -/
  dotNewline : Bool := false
  /-- Carriage returns end lines, too. -/
  carriage : Bool := false
  /-- Classes and case are those of Unicode and not of ASCII. -/
  unicode : Bool := true
  /-- Blanks and comments mean nothing. -/
  verbose : Bool := false
  deriving DecidableEq, Inhabited

/-- The letters of the flags. The capital U exchanges which repetitions prefer to be long, which
makes no difference to whether there is a match. -/
def flagLetters : List Char := ['i', 'm', 's', 'U', 'u', 'R', 'x']

namespace Flags

/-- Changes the setting of one letter. -/
def set (flags : Flags) (letter : Char) (value : Bool) : Flags :=
  match letter with
  | 'i' => { flags with ignoreCase := value }
  | 'm' => { flags with multiLine := value }
  | 's' => { flags with dotNewline := value }
  | 'R' => { flags with carriage := value }
  | 'u' => { flags with unicode := value }
  | 'x' => { flags with verbose := value }
  | _ => flags

/-- The characters that a class can stand for. Without Unicode they are bytes, those beyond ASCII
included, though no byte beyond ASCII may remain in a class. -/
def everything (flags : Flags) : CharSet :=
  .ranges [(0, if flags.unicode then 0x10FFFF else 0xFF)]

/-- The complement of a class. -/
def complement (flags : Flags) (set : CharSet) : CharSet :=
  if flags.unicode then .compl set else .diff flags.everything set

/-- A class together with the other letter cases, if case does not matter. -/
def folded (flags : Flags) (set : CharSet) : CharSet :=
  if !flags.ignoreCase then set
  else if flags.unicode then .fold set
  else .inter (.fold set) flags.everything

/-- Whether a class may be used: without Unicode it must not reach beyond ASCII. Such classes
hold all bytes beyond ASCII or none, so that it is enough to ask for the last one. -/
def allows (flags : Flags) (set : CharSet) : Bool :=
  flags.unicode || !set.contains '\xFF'

end Flags

/-- Skips blanks and comments, `comment` telling whether the text starts inside a comment. -/
def skipVerbose : (comment : Bool) → List Char → List Char
  | _, [] => []
  | true, c :: rest => skipVerbose (c ≠ '\n') rest
  | false, c :: rest =>
    if isBlank c then skipVerbose false rest
    else if c = '#' then skipVerbose true rest
    else c :: rest

/-- The pattern from the next character on that means something. -/
def Flags.skip (flags : Flags) (pattern : List Char) : List Char :=
  if flags.verbose then skipVerbose false pattern else pattern

/-- Reads the text up to a closing brace, without what means nothing in it. -/
def readBraced (flags : Flags) : (comment : Bool) → List Char → Option (List Char × List Char)
  | _, [] => none
  | true, c :: rest => readBraced flags (c ≠ '\n') rest
  | false, c :: rest =>
    if c = '\x7d' then some ([], rest)
    else if flags.verbose && isBlank c then readBraced flags false rest
    else if flags.verbose && c == '#' then readBraced flags true rest
    else (readBraced flags false rest).map fun r => (c :: r.1, r.2)

/-- Reads letters of flags up to a colon or a closing parenthesis, which is given together with
the changed settings. Letters after a hyphen are switched off. `seen` holds what was read so far,
the latest first: no letter may come twice, a hyphen must not come last, and a closing parenthesis
not first. -/
def readFlags (flags : Flags) (seen : List Char) :
    List Char → Option (Flags × Char × List Char)
  | [] => none
  | c :: rest =>
    if c = ':' ∨ c = ')' then
      if seen.head? = some '-' ∨ (c = ')' ∧ seen = []) then none else some (flags, c, rest)
    else if seen.contains c then none
    else if c = '-' then readFlags flags (c :: seen) rest
    else if flagLetters.contains c then
      readFlags (flags.set c (!seen.contains '-')) (c :: seen) rest
    else none

end StubServer.Regex
