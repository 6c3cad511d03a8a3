import LintConfig.Address
import LintConfig.Pieces
import LintConfig.Pattern.Alphabet

/-!
# Addresses of electronic mail

`Mail.isAddress` says which texts are addresses: the name of a mailbox, an at sign, and a host.  The
name may stand between quotation marks, and the host may be an address in brackets.  Which names of
hosts are allowed is a parameter.

**Names of people.**  An address may also stand between angle brackets, after anything that ends
with a blank.

**Lengths** are counted in bytes.
-/

namespace LintConfig

namespace Mail

/-- How many bytes a text has. -/
def byteLength (cs : List Char) : Nat := (String.ofList cs).utf8ByteSize

/-- Whether a character is beyond ASCII. -/
def isWide (c : Char) : Bool := 0x80 ≤ c.toNat

/-- Whether a character is an ASCII one that leaves a mark. -/
def isVisible (c : Char) : Bool := '!' ≤ c && c ≤ '~'

/-- Whether a character may stand in a name without quotation marks. -/
def isAtomChar (c : Char) : Bool :=
  c.isAlphanum || isWide c
    || ['!', '#', '$', '%', '&', '\x27', '*', '+', '-', '/', '=', '?', '^', '_', '\x60', '\x7b',
      '|', '\x7d', '~'].contains c

/-- Whether a text is one part of a name without quotation marks. -/
def isAtom (cs : List Char) : Bool := !cs.isEmpty && cs.all isAtomChar

/-- Whether a character stands for itself between quotation marks. -/
def isPlain (c : Char) : Bool :=
  c = ' ' || c = '\t' || isWide c || (isVisible c && c != '\\' && c != '\x22')

/-- Whether a text may stand between the quotation marks around a name. -/
def isQuotable : List Char → Bool
  | [] => true
  | '\\' :: c :: rest => isVisible c && isQuotable rest
  | c :: rest => isPlain c && isQuotable rest

/-- Whether a text is the name of a mailbox. -/
def isMailbox (cs : List Char) : Bool :=
  byteLength cs ≤ 64 &&
    if cs.head? = some '\x22' && cs.getLast? = some '\x22' then
      2 < cs.length && isQuotable cs.tail.dropLast
    else (pieces '.' cs).all isAtom

/-- Whether a text is a part of the name of a host: it begins and ends with a letter or a number. -/
def isLabel (cs : List Char) : Bool :=
  let isBound (c : Char) : Bool := CharSet.anyLetterOrNumber.contains c
  isAtom cs && byteLength cs ≤ 63 && (cs.head?.map isBound).getD false
    && (cs.getLast?.map isBound).getD false

/-- Whether a text names the host of a mailbox: by its name, or by an address in brackets. -/
def isHost (isName : List Char → Bool) (cs : List Char) : Bool :=
  byteLength cs ≤ 254 &&
    match cs with
    | '[' :: rest =>
      let address := rest.dropLast
      rest.getLast? == some ']' &&
        (if "IPv6:".toList.isPrefixOf address then Address.isEightGroups (address.drop 5)
        else Address.isFourOctets address)
    | cs => (pieces '.' cs).all isLabel && isName cs

/-- Whether a text is an address without brackets: what stands before the last at sign is the name
of the mailbox. -/
def isBare (isName : List Char → Bool) (cs : List Char) : Bool :=
  match cutAt '@' cs.reverse with
  | (host, some mailbox) => isMailbox mailbox.reverse && isHost isName host.reverse
  | _ => false

/-- What follows the last angle bracket that opens after a blank. -/
def bracketed? : List Char → Option (List Char)
  | ' ' :: '<' :: rest => some ((bracketed? rest).getD rest)
  | _ :: rest => bracketed? rest
  | [] => none

/-- A text without the blanks at its end. -/
def withoutFinalBlanks (cs : List Char) : List Char :=
  (cs.reverse.dropWhile CharSet.anyBlank.contains).reverse

/-- Whether a text is an address at a host with an allowed name. -/
def isAddress (isName : List Char → Bool) (cs : List Char) : Bool :=
  match bracketed? cs with
  | some text =>
    let text := withoutFinalBlanks (text.dropWhile CharSet.anyBlank.contains)
    text.getLast? == some '>' && isBare isName text.dropLast
  | none => isBare isName cs

end Mail

end LintConfig
