import TypedRecords.Pattern.Basic

namespace TypedRecords.Email

open Pattern

def alphanumeric : CharSet :=
  .ofRanges [('A', 'Z'), ('a', 'z'), ('0', '9')]

def localChar : CharSet :=
  .union alphanumeric (.ofChars ['.', '_', '%', '+', '-'])

def labelChar : CharSet :=
  .union alphanumeric (.char '-')

/-- A label: letters and digits at both ends, hyphens also between them. -/
def label : Pattern :=
  .seq (.oneOf alphanumeric)
    (optional (.seq (.many (.oneOf labelChar)) (.oneOf alphanumeric)))

def address : Pattern :=
  .seq (.edge .textStart)
    (.seq (oneOrMore (.oneOf localChar))
      (.seq (.oneOf (.char '@'))
        (.seq label
          (.seq (oneOrMore (.seq (.oneOf (.char '.')) label)) (.edge .textEnd)))))

end TypedRecords.Email
