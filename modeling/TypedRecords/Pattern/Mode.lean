import TypedRecords.Pattern.Basic

/-!
A mode decides which cases count as equal, what a line is, and which characters are word
characters.
-/

namespace TypedRecords.Pattern

structure Mode where
  ignoreCase : Bool := false
  /-- `^` and `$` mean the ends of lines. -/
  multiLine : Bool := false
  /-- `.` means any character, line feeds included. -/
  dotAll : Bool := false
  spaced : Bool := false
  unicode : Bool := true
  anyLine : Bool := false

namespace Mode

def set? (m : Mode) (on : Bool) (letter : Char) : Option Mode :=
  match letter with
  | 'i' => some { m with ignoreCase := on }
  | 'm' => some { m with multiLine := on }
  | 's' => some { m with dotAll := on }
  | 'x' => some { m with spaced := on }
  | 'u' => some { m with unicode := on }
  | 'R' => some { m with anyLine := on }
  | 'U' => some m
  | _ => none

/-- Reads letters up to a colon or a closing parenthesis; those behind a hyphen are switched off. -/
def ofLetters? (m : Mode) (on : Bool) : List Char → Option (Mode × List Char)
  | [] => none
  | c :: cs =>
    if c = ':' ∨ c = ')' then some (m, c :: cs)
    else if c = '-' then ofLetters? m false cs
    else match m.set? on c with
      | some m => ofLetters? m on cs
      | none => none

def unspaced : (inComment : Bool) → List Char → List Char
  | _, [] => []
  | true, c :: cs => unspaced (c != '\n') cs
  | false, c :: cs =>
    if Text.isBlank c then unspaced false cs
    else if c = '#' then unspaced true cs
    else c :: cs

def skip (m : Mode) (cs : List Char) : List Char :=
  if m.spaced then unspaced false cs else cs

/-- The set, widened to the other cases of its characters if the mode ignores case. -/
def cased (m : Mode) (s : CharSet) : CharSet :=
  if !m.ignoreCase then s else if m.unicode then .anyCase s else .anyAsciiCase s

/-- A character, or the set of its cases if the mode ignores case. -/
def casedChar (m : Mode) (c : Char) : CharSet :=
  if !m.ignoreCase then .char c
  else .ofChars (if m.unicode then CharSet.cases c else [c.toLower, c.toUpper])

def digits (m : Mode) : CharSet :=
  if m.unicode then .digit else .range '0' '9'

def words (m : Mode) : CharSet :=
  if m.unicode then .word else .ofRanges [('0', '9'), ('A', 'Z'), ('_', '_'), ('a', 'z')]

def blanks (m : Mode) : CharSet :=
  if m.unicode then .blank else .ofRanges [('\t', '\r'), (' ', ' ')]

def dot (m : Mode) : CharSet :=
  if m.dotAll then .all
  else .complement (if m.anyLine then .ofChars ['\n', '\r'] else .char '\n')

def start (m : Mode) : Edge :=
  if !m.multiLine then .textStart else if m.anyLine then .anyLineStart else .lineStart

def stop (m : Mode) : Edge :=
  if !m.multiLine then .textEnd else if m.anyLine then .anyLineEnd else .lineEnd

end Mode

end TypedRecords.Pattern
