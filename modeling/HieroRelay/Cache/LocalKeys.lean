import HieroRelay.Js.RegExp
import HieroRelay.Js.Replace

/-! The pattern of `LocalLRUCache.keys`: in steps on its text it is rewritten to a regular expression. -/

namespace HieroRelay.Cache

open HieroRelay.Js

def specialChars : List Char := ['*', '?', '[', ']']

/-- The words of a placeholder. -/
def escapedName (special : Char) : List Char :=
  match special with
  | '*' => "ESCAPED_STAR".toList
  | '?' => "ESCAPED_QUESTION".toList
  | '[' => "ESCAPED_OPEN_BRACKET".toList
  | _ => "ESCAPED_CLOSE_BRACKET".toList

def placeholder (special : Char) : List Char := '_' :: '_' :: escapedName special ++ ['_', '_']

/-- Escaped special characters are replaced by placeholders, one kind after the other. -/
def hideEscapes (pattern : List Char) : List Char :=
  specialChars.foldl (fun text special => replaceAll (literally ['\\', special] (placeholder special)) text) pattern

/-- `/\\([*?[\]])/g` -/
def escapedSpecial : Finder
  | _, '\\' :: special :: _ =>
      if special ∈ specialChars then some (2, "__ESCAPED_".toList ++ special :: ['_', '_']) else none
  | _, _ => none

/-- `/\[([^\]\\]+)]/g`, which is replaced by itself. -/
def bracketed : Finder
  | _, '[' :: rest =>
      let inner := rest.takeWhile fun char => char != ']' && char != '\\'
      if inner ≠ [] ∧ (rest.drop inner.length).head? = some ']' then some (inner.length + 2, '[' :: inner ++ [']'])
      else none
  | _, _ => none

def rewriteWildcards (text : List Char) : List Char :=
  let text := replaceAll bracketed (replaceAll escapedSpecial text)
  let text := replaceAll (unescaped ['*'] ['.', '*']) text
  let text := replaceAll (unescaped ['?'] ['.']) text
  replaceAll (unescaped ['[', '!', ']'] ['[', '^', ']']) text

/-- The placeholders are replaced by the escaped characters. -/
def showEscapes (text : List Char) : List Char :=
  specialChars.foldl (fun text special => replaceAll (literally (placeholder special) ['\\', special]) text) text

/-- The text of the regular expression. -/
def regexPattern (pattern : List Char) : List Char := showEscapes (rewriteWildcards (hideEscapes pattern))

/-- `keys(pattern)`, over the keys of both stores. -/
def LocalLRUCache.keys (stored : List String) (pattern : String) : Except RegExpFault (List String) := do
  let regex ← RegExp.new (regexPattern pattern.toList)
  return stored.filter regex.test

example : regexPattern "h?l\\*[a-b]*".toList = "h.l\\*[a-b].*".toList := by decide

end HieroRelay.Cache
