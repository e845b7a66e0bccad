import CriticalCss.Text.Lines
import CriticalCss.Text.Quoted
import CriticalCss.Text.Utf8
import CriticalCss.Text.Word

/-!
# Addresses

Addresses are written in ASCII: a character that may not stand in one is given by its bytes in
percent notation.  A percent sign is left alone, so that an address that is so written already stays
what it is.
-/

namespace CriticalCss.Url

/-- Characters with a meaning in addresses, which stay as they are. -/
def reserved : List Char := ";,/?:@&=+$-_.!~*'()#%[]".toList

/-- Whether a character may stand in an address. -/
def isAllowed (char : Char) : Bool := char.isAlphanum || reserved.contains char

/-- A byte in percent notation. -/
def percentByte (byte : Nat) : List Char :=
  ['%', Nat.digitChar (byte / 16) |>.toUpper, Nat.digitChar (byte % 16) |>.toUpper]

/-- A character in an address. -/
def quoteChar (char : Char) : List Char :=
  if isAllowed char then [char] else (Text.encodeCode char.toNat).flatMap percentByte

/-- An address with all its characters in a form that may stand in one. -/
def quote (url : String) : String := String.ofList (url.toList.flatMap quoteChar)

/-- Whether what stands behind the ending of a script address is nothing or a query, up to the end
of the text or to a line feed there. -/
def endsScript : List Char → Bool
  | [] | ['\n'] => true
  | '?' :: query =>
    let rest := query.dropWhile (· != '\n')
    rest.isEmpty || rest == ['\n']
  | _ => false

/-- Whether an address is that of a script: it ends in `.js`, or has a query behind that. -/
def isScriptChars : List Char → Bool
  | [] => false
  | char :: rest =>
    (match char :: rest with
      | '.' :: 'j' :: 's' :: behind => endsScript behind
      | _ => false) || isScriptChars rest

/-- Whether an address is that of a script. -/
def isScript (url : String) : Bool := isScriptChars url.toList

end CriticalCss.Url
