import SnippetLanguage.Json.Reader
import SnippetLanguage.Text.Split

/-!
# Host names

The host that a request names is a name or an address in brackets, perhaps with a port after a colon. A name consists of
letters, digits and some marks, of which the percent sign is one wherever it stands; between brackets stands an address
of version 6 or one of a later version with its version number.

* `isValid` tells whether a host is written rightly.
-/

namespace SnippetLanguage.Http.Host

/-- Whether a character may stand in a host name and in an address of a later version. -/
def isHostChar (c : Char) : Bool := c.isAlphanum || "-._~!$&'()*+,;=".toList.contains c

/-- Whether a character is a hexadecimal digit. -/
def isHexDigit (c : Char) : Bool := (Json.hexDigit? c).isSome

/-- Whether a text is a host name. What follows a percent sign does not matter. -/
def isName (cs : List Char) : Bool := !cs.isEmpty && cs.all fun c => isHostChar c || c == '%'

/-- Whether a text is a number below `bound`. -/
def isNumberBelow (bound : Nat) (cs : List Char) : Bool :=
  !cs.isEmpty && cs.all Char.isDigit && Json.digitsValue cs < bound

/-- Whether a text is one of the four parts of an address of version 4, which has no leading zeros. -/
def isOctet (cs : List Char) : Bool := isNumberBelow 256 cs && (cs.length == 1 || cs.head? != some '0')

/-- Whether a text is an address of version 4. -/
def isAddress4 (cs : List Char) : Bool :=
  let parts := Text.splitAtChar '.' cs
  parts.length == 4 && parts.all isOctet

/-- Whether a text is one of the groups of an address of version 6. -/
def isGroup (cs : List Char) : Bool := !cs.isEmpty && cs.length ≤ 4 && cs.all isHexDigit

/-- How many groups the parts of an address of version 6 make, if they are groups; the last part may be an address of
version 4 and counts twice then. -/
def countGroups? : List (List Char) → Option Nat
  | [] => some 0
  | [part] => if isGroup part then some 1 else if isAddress4 part then some 2 else none
  | part :: parts => if isGroup part then (countGroups? parts).map (· + 1) else none

/-- How many groups a part of an address makes that has no gap. -/
def groupsOf? (cs : List Char) : Option Nat :=
  if cs.isEmpty then some 0 else countGroups? (Text.splitAtChar ':' cs)

/-- What stands before and after the first gap of an address, which two colons mark. -/
def splitAtGap? : List Char → Option (List Char × List Char)
  | ':' :: ':' :: cs => some ([], cs)
  | c :: cs => (splitAtGap? cs).map fun parts => (c :: parts.1, parts.2)
  | [] => none

/-- Whether a text is an address of version 6: eight groups, or fewer with a gap. -/
def isAddress6 (cs : List Char) : Bool :=
  match splitAtGap? cs with
  | none => countGroups? (Text.splitAtChar ':' cs) == some 8
  | some (before, after) =>
    before.all (· != '.') &&
      match groupsOf? before, groupsOf? after with
      | some m, some n => m + n < 8
      | _, _ => false

/-- Whether a text is an address of a later version. -/
def isLaterAddress : List Char → Bool
  | 'v' :: cs =>
    let version := cs.takeWhile isHexDigit
    match cs.drop version.length with
    | '.' :: address => !version.isEmpty && !address.isEmpty && address.all fun c => isHostChar c || c == ':'
    | _ => false
  | _ => false

/-- Whether a text is what may follow a host name: nothing, or a colon and a port. -/
def isPortRest : List Char → Bool
  | [] => true
  | ':' :: port => isNumberBelow 65536 port
  | _ => false

/-- Whether a host is written rightly. -/
def isValid (host : List Char) : Bool :=
  match host with
  | '[' :: cs =>
    let address := cs.takeWhile (· != ']')
    match cs.drop address.length with
    | _ :: rest => (isAddress6 address || isLaterAddress address) && isPortRest rest
    | [] => false
  | cs =>
    let name := cs.takeWhile (· != ':')
    isName name && isPortRest (cs.drop name.length)

end SnippetLanguage.Http.Host
