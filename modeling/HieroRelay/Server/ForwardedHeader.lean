import HieroRelay.Js.CodeUnits
import HieroRelay.Lib.IpAddress
import HieroRelay.Lib.Search
import Mathlib.Data.List.DropRight

/-! The address of the client in the header `Forwarded`: its grammar, and the function that reads
it. The characters of a header are bytes. -/

namespace HieroRelay.Server

open HieroRelay.Js HieroRelay.Lib

section Parser

/-- `toLowerCase` on a character below 256. -/
def toLowerCase (char : Char) : Char :=
  let unit := char.toNat
  if (65 ≤ unit ∧ unit ≤ 90) ∨ (0xC0 ≤ unit ∧ unit ≤ 0xDE ∧ unit ≠ 0xD7) then Char.ofNat (unit + 32) else char

def trim (text : List Char) : List Char := (text.dropWhile isWhiteSpace).rdropWhile isWhiteSpace

/-- What stands before the first comma. -/
def firstEntry (forwardedHeader : List Char) : List Char := trim (forwardedHeader.takeWhile (· != ','))

def forMarker : List Char := ['f', 'o', 'r', '=']

/-- The text before a closing character, which has to be there. -/
def upTo (close : Char) (text : List Char) : Option (List Char) :=
  if close ∈ text then some (text.takeWhile (· != close)) else none

def withoutBrackets (ip : List Char) : List Char :=
  if ip.head? = some '[' ∧ ip.getLast? = some ']' then ip.tail.dropLast else ip

def isDelimiter (char : Char) : Bool := char == ';' || char == ',' || char == ' ' || char == '\t'

/-- A quoted value, one in brackets, or a bare one. -/
def readIp : List Char → Option (List Char)
  | [] => none
  | char :: rest =>
      if char = '"' then (upTo '"' rest).map withoutBrackets
      else if char = '[' then upTo ']' rest
      else some ((char :: rest).takeWhile (!isDelimiter ·))

/-- `/^[a-fA-F0-9:.]+$/`, for at most 45 characters. -/
def isIp (ip : List Char) : Bool := ip ≠ [] && ip.length ≤ 45 && ip.all (· ∈ addressChars)

def parseForwardedHeader (forwardedHeader : List Char) : Option (List Char) := do
  if 1000 < forwardedHeader.length then failure
  let entry := firstEntry forwardedHeader
  if entry = [] then failure
  let forIndex ← indexOf forMarker (entry.map toLowerCase)
  let ip ← readIp (entry.drop (forIndex + 4))
  if isIp ip then return ip
  failure

/-- IPv6 addresses are wrapped in brackets. -/
def formatIpForForwardedHeader (ip : List Char) : List Char :=
  if ':' ∈ ip ∧ ip.head? ≠ some '[' then '[' :: ip ++ [']'] else ip

/-- The header that the client of the mirror node sends. -/
def mirrorNodeHeader (ip : List Char) : List Char := "for=\"".toList ++ formatIpForForwardedHeader ip ++ ['"']

end Parser

section Grammar

def isTokenChar (char : Char) : Bool := char.isAlphanum || char ∈ "!#$%&'*+-.^_`|~".toList

structure Token where
  chars : List Char
  notEmpty : chars ≠ []
  valid : ∀ char ∈ chars, isTokenChar char = true

/-- A tab, or a byte that can be shown. -/
def isTextChar (char : Char) : Bool :=
  char = '\t' || (0x20 ≤ char.toNat && char.toNat ≤ 0x7E) || (0x80 ≤ char.toNat && char.toNat ≤ 0xFF)

structure QuotedChar where
  escaped : Bool
  char : Char
  valid : isTextChar char = true
  plain : escaped = false → char ≠ '"' ∧ char ≠ '\\'

def QuotedChar.text (quoted : QuotedChar) : List Char :=
  if quoted.escaped then ['\\', quoted.char] else [quoted.char]

def quote (chars : List QuotedChar) : List Char := '"' :: chars.flatMap QuotedChar.text ++ ['"']

inductive Value where
  | token (name : Token)
  | quoted (chars : List QuotedChar)

def Value.text : Value → List Char
  | .token name => name.chars
  | .quoted chars => quote chars

structure Pair where
  name : Token
  value : Value

def Pair.text (pair : Pair) : List Char := pair.name.chars ++ '=' :: pair.value.text

/-- Up to five digits, or an obfuscated one. -/
inductive Port where
  | number (digits : List Char) (notEmpty : digits ≠ []) (short : digits.length ≤ 5)
      (valid : ∀ digit ∈ digits, digit.isDigit = true)
  | obfuscated (chars : List Char) (notEmpty : chars ≠ [])
      (valid : ∀ char ∈ chars, (char.isAlphanum || char ∈ ['.', '_', '-']) = true)

def Port.text : Port → List Char
  | .number digits .. => digits
  | .obfuscated chars .. => '_' :: chars

structure Node where
  address : IpAddress
  port : Option Port

def addressText : IpAddress → List Char
  | .v4 address => address.text
  | .v6 address => '[' :: address.text ++ [']']

def Node.text (node : Node) : List Char := addressText node.address ++ node.port.toList.flatMap (':' :: ·.text)

/-- Also a node with brackets or a port may stand without quotes. -/
inductive NodeValue (node : Node) where
  | bare
  | quoted (chars : List QuotedChar) (holds : chars.map QuotedChar.char = node.text)

def NodeValue.text : NodeValue node → List Char
  | .bare => node.text
  | .quoted chars _ => quote chars

/-- Pairs may be left out between semicolons. -/
abbrev Element := List (Option Pair)

def optionalText (pair : Option Pair) : List Char := (pair.map Pair.text).getD []

/-- Pairs with a semicolon behind each. -/
def Element.beforeText (element : Element) : List Char := element.flatMap fun pair => optionalText pair ++ [';']

def Element.text (element : Element) : List Char := [';'].intercalate (element.map optionalText)

/-- A further element, behind a comma with spaces and tabs around it. -/
structure NextElement where
  leftSpace : List Char
  rightSpace : List Char
  element : Element
  blank : ∀ char ∈ leftSpace ++ rightSpace, char = ' ' ∨ char = '\t'

def NextElement.text (next : NextElement) : List Char :=
  next.leftSpace ++ ',' :: next.rightSpace ++ next.element.text

/-- A header whose first element has a parameter `for` with an address. -/
structure ForwardedHeader where
  before : Element
  forName : List Char
  isFor : forName.map toLowerCase = ['f', 'o', 'r']
  node : Node
  value : NodeValue node
  after : Element
  once : ∀ pair, some pair ∈ before ++ after → pair.name.chars.map toLowerCase ≠ ['f', 'o', 'r']
  others : List NextElement

namespace ForwardedHeader

variable (header : ForwardedHeader)

def afterText : List Char :=
  header.after.flatMap (fun pair => ';' :: optionalText pair) ++ header.others.flatMap NextElement.text

def text : List Char := header.before.beforeText ++ header.forName ++ '=' :: header.value.text ++ header.afterText

end ForwardedHeader

end Grammar

end HieroRelay.Server
