import Marty.Lib.Checked
import Marty.Lib.Hex
import Marty.Lib.Text
import Marty.ResponseText.UnicodeUnits
import Marty.ResponseText.Utf7
import Mathlib.Data.List.Sort
import Mathlib.Data.Prod.Lex
import Mathlib.Data.String.Basic

/-!
# The charset of a content type

A content type is a media type and parameters between semicolons.  A parameter may be written in
numbered parts, its continuations, which are put together in the order of their numbers; a part
whose name ends in an asterisk is percent-encoded, and one such part makes the whole name its
encoding.

## Main definitions

* `fields`, `parameters` — the parameters of a content type.
* `continuation` — what a name says about a part.
* `joinSegments` — the parts put together.
* `charsetParameter` — the charset that a content type declares.
-/

namespace Marty.ResponseText.ContentType

open Marty.Lib Lib.Checked

inductive CharsetError
  | text (error : CanvasResponseTextError)
  | numberedAfterBareContinuation
  | bareAfterNumberedContinuation
  | internalCodec
  | pendingBufferOverflow
  | continuationOrdinalLimit (digits : Nat)
  | embeddedNullEncoding
  deriving DecidableEq, Repr

/-- The tables of Unicode that the reader of a content type looks up. -/
structure UnicodeTables where
  isAlphanumeric : Char → Bool
  toLowercase : List Char → List Char

/-- The codecs of the registry. -/
structure ResponseCodecs where
  tables : String → UInt8 → Char
  aliases : List Char → Option String
  unicodeAliases : List Char → Option UnicodeEncoding
  registryAliases : List Char → Option (List Char)
  multibyte : List Char → Option (List UInt8 → Bool → Option (List Char))
  iso2022 : List Char → Option (List UInt8 → Bool → Except CharsetError (Option (List Char)))
  nativeLittle : Bool

/-! ## Fields -/

def whitespacePoints : List Nat :=
  [9, 10, 11, 12, 13, 28, 29, 30, 31, 32, 133, 160, 5760, 8192, 8193, 8194, 8195, 8196, 8197, 8198,
    8199, 8200, 8201, 8202, 8232, 8233, 8239, 8287, 12288]

def isPythonSpace (c : Char) : Bool := whitespacePoints.contains c.toNat

def strip (text : List Char) : List Char := (text.dropWhile isPythonSpace).rdropWhile isPythonSpace

/-- How often a quote stands behind a backslash. -/
def escapedQuotes : List Char → Nat
  | '\\' :: '"' :: text => escapedQuotes text + 1
  | _ :: text => escapedQuotes text
  | [] => 0

/-- A quote is open: the quotes without the escaped ones are odd in number. -/
def openQuote (text : List Char) : Bool := (text.count '"' - escapedQuotes text) % 2 ≠ 0

/-- The place of the next semicolon, or the end. -/
def nextSemicolon (text : List Char) (start : Nat) : Nat :=
  start + (text.drop start).findIdx (· == ';')

/-- A field does not end within quotes. -/
def fieldEnd (text : List Char) (stop : Nat) : Nat :=
  if 0 < stop ∧ stop < text.length ∧ openQuote (text.take stop) = true then
    fieldEnd text (nextSemicolon text (stop + 1))
  else stop
  termination_by text.length - stop
  decreasing_by
    unfold nextSemicolon
    omega

def fields (remaining : List Char) : List (List Char) :=
  let stop := fieldEnd remaining (nextSemicolon remaining 0)
  if remaining.length ≤ stop then [remaining]
  else remaining.take stop :: fields (remaining.drop (stop + 1))
  termination_by remaining.length
  decreasing_by
    rw [List.length_drop]
    omega

/-! ## Parameters -/

/-- Replace every pair of characters by one. -/
def replacePair (first second by' : Char) : List Char → List Char
  | a :: b :: text =>
      if a = first ∧ b = second then by' :: replacePair first second by' text
      else a :: replacePair first second by' (b :: text)
  | text => text

def unescape (value : List Char) : List Char :=
  replacePair '\\' '"' '"' (replacePair '\\' '\\' '\\' value)

/-- The text between two delimiters, when it stands between them. -/
def between (first last : Char) (value : List Char) : Option (List Char) :=
  match value with
  | c :: rest => if c = first ∧ rest.getLast? = some last then some rest.dropLast else none
  | [] => none

def unquote (value : List Char) : List Char :=
  match between '"' '"' value with
  | some inner => unescape inner
  | none => (between '<' '>' value).getD value

section

variable (tables : UnicodeTables)

/-- The name and the value of a field; the name of a field without a value is taken as it is. -/
def parameter (field : List Char) : List Char × List Char :=
  match Text.splitOnceChars ['='] (strip field) with
  | some (name, value) => (tables.toLowercase (strip name), strip value)
  | none => (strip field, [])

def parameters (contentType : List Char) : List (List Char × List Char) :=
  (fields contentType).map (parameter tables)

/-- The digits of a part without the zeros in front of them. -/
def trimZeros (digits : List Char) : List Char :=
  match digits.dropWhile (· == '0') with
  | [] => ['0']
  | number => number

def isAsciiDigit (c : Char) : Bool := 48 ≤ c.toNat ∧ c.toNat ≤ 57

/-- What stands before the last character, when that is an asterisk. -/
def withoutAsterisk (text : List Char) : List Char :=
  if text.getLast? = some '*' then text.dropLast else text

structure Continuation where
  base : List Char
  number : Option (List Char)
  encoded : Bool
  deriving DecidableEq

/-- The part that a name stands for, if it stands for one. -/
def continuation (name : List Char) : Except CharsetError (Option Continuation) :=
  match Text.splitOnceChars ['*'] name with
  | none => .ok none
  | some (base, suffix) =>
      if base = [] ∨ ¬ base.all (fun c => tables.isAlphanumeric c || c == '_') then .ok none
      else if suffix = [] then .ok (some ⟨base, none, true⟩)
      else
        let digits := withoutAsterisk suffix
        if digits = [] ∨ ¬ digits.all isAsciiDigit then .ok none
        else if 4300 < digits.length then .error (.continuationOrdinalLimit digits.length)
        else .ok (some ⟨base, some (trimZeros digits), name.getLast? = some '*'⟩)

end

/-! ## Parts -/

structure Segment where
  number : Option (List Char)
  value : List Char
  encoded : Bool
  deriving DecidableEq

def hexDigitValue (c : Char) : Option Nat :=
  if 48 ≤ c.toNat ∧ c.toNat ≤ 57 then some (c.toNat - 48)
  else if 97 ≤ c.toNat ∧ c.toNat ≤ 102 then some (c.toNat - 87)
  else if 65 ≤ c.toNat ∧ c.toNat ≤ 70 then some (c.toNat - 55)
  else none

/-- Percent-encoded octets, each as the character of its value. -/
def percentOctets : List Char → List Char
  | '%' :: a :: b :: text =>
      match hexDigitValue a, hexDigitValue b with
      | some high, some low => Char.ofNat (high * 16 + low) :: percentOctets text
      | _, _ => '%' :: percentOctets (a :: b :: text)
  | c :: text => c :: percentOctets text
  | [] => []

/-- What a part gives to the whole. -/
def Segment.text (part : Segment) : List Char :=
  if part.encoded then percentOctets part.value else part.value

/-- Parts are ordered by the length of their numbers and then by their digits.  The parts of a
group all have a number, or none has. -/
def Segment.key (part : Segment) : ℕ ×ₗ List Char ×ₗ List Char ×ₗ Bool :=
  let number := part.number.getD []
  toLex (number.length, toLex (number, toLex (part.value, part.encoded)))

def sortSegments (segments : List Segment) : List Segment :=
  segments.mergeSort fun a b => a.key ≤ b.key

def joinSegments (segments : List Segment) : List Char :=
  (sortSegments segments).flatMap Segment.text

/-- The numbers of a group are all there or all missing. -/
def checkNumbers (segments : List Segment) : Except CharsetError Unit :=
  let numbered := (segments.head?.bind (·.number)).isSome
  match segments.find? fun part => part.number.isSome ≠ numbered with
  | none => .ok ()
  | some other =>
      .error <| if other.number.isSome then .numberedAfterBareContinuation
        else .bareAfterNumberedContinuation

def escapeQuoted (text : List Char) : List Char :=
  (text.flatMap fun c => if c = '\\' then ['\\', '\\'] else [c]).flatMap fun c =>
    if c = '"' then ['\\', '"'] else [c]

/-- The encoding that the whole names, and the text behind it. -/
def splitEncoding (joined : List Char) : List Char × List Char :=
  let split := (Text.splitOnceChars ['\''] (escapeQuoted joined)).bind fun (encoding, rest) =>
    (Text.splitOnceChars ['\''] rest).map fun (_, value) => (encoding, value)
  match split with
  | some (encoding, value) =>
      (if encoding = [] then "us-ascii".toList else encoding, unescape value)
  | none => ("us-ascii".toList, joined)

structure Extended where
  name : List Char
  encoding : Option (List Char)
  value : List Char

def extendGroup (group : List Char × List Segment) : Except CharsetError Extended := do
  checkNumbers group.2
  let joined := joinSegments group.2
  if group.2.any (·.encoded) then
    let split := splitEncoding joined
    return ⟨group.1, some split.1, split.2⟩
  else return ⟨group.1, none, joined⟩

/-! ## Groups -/

/-- A part is put with the parts of its base. -/
def addSegment (base : List Char) (part : Segment) :
    List (List Char × List Segment) → List (List Char × List Segment)
  | [] => [(base, [part])]
  | (name, segments) :: groups =>
      if name = base then (name, segments ++ [part]) :: groups
      else (name, segments) :: addSegment base part groups

structure Collected where
  normal : List (List Char × List Char)
  groups : List (List Char × List Segment)
  deriving DecidableEq

section

variable (tables : UnicodeTables)

/-- One parameter behind the media type. -/
def collectParameter (found : Collected) (entry : List Char × List Char) :
    Except CharsetError Collected := do
  let value := unquote entry.2
  match ← continuation tables entry.1 with
  | some part =>
      return { found with
        groups := addSegment part.base ⟨part.number, value, part.encoded⟩ found.groups }
  | none => return { found with normal := found.normal ++ [(entry.1, value)] }

/-- The media type is a parameter like any other, but never a part. -/
def collect (entries : List (List Char × List Char)) : Except CharsetError Collected :=
  match entries with
  | [] => .ok ⟨[], []⟩
  | first :: rest => rest.foldlM (collectParameter tables) ⟨[(first.1, unquote first.2)], []⟩

end

/-! ## Labels -/

def asciiBytes (text : List Char) : List UInt8 := text.map fun c => UInt8.ofNat c.toNat

def labelBytes (value : List Char) : List UInt8 :=
  value.flatMap fun c =>
    if c.toNat ≤ 255 then [UInt8.ofNat c.toNat]
    else if c.toNat ≤ 0xffff then asciiBytes ('\\' :: 'u' :: fixedHex 4 c.toNat)
    else asciiBytes ('\\' :: 'U' :: fixedHex 8 c.toNat)

def normalizeFrom (separator : Bool) (output : List Char) : List Char → List Char
  | [] => output
  | c :: text =>
      if c.isAlphanum || c == '.' then
        let output := if separator ∧ output ≠ [] then output ++ ['_'] else output
        normalizeFrom false (output ++ [Text.asciiLower c]) text
      else normalizeFrom true output text

def normalizeEncoding (value : List Char) : List Char := normalizeFrom false [] value

section

variable (codecs : ResponseCodecs)

def resolveEncoding (value : List Char) : List Char :=
  let normalized := normalizeEncoding value
  ((codecs.registryAliases normalized).or
    (codecs.registryAliases (normalized.map fun c => if c = '.' then '_' else c))).getD normalized

def checkedEncoding (value : List Char) : Except CharsetError (List Char) := do
  rejectIf (Char.ofNat 0 ∈ value) .embeddedNullEncoding
  return resolveEncoding codecs value

/-- A label in one of the Unicode encodings; one without a mark has the order of the machine. -/
def decodeUnicodeLabel (encoding : UnicodeEncoding) (bytes : List UInt8) : Option (List Char) :=
  let width := encoding.width
  if encoding.generic then
    if (byteOrderMark width true).isPrefixOf bytes then
      unicodeUnits (bytes.drop width.bytes) width true true
    else if (byteOrderMark width false).isPrefixOf bytes then
      unicodeUnits (bytes.drop width.bytes) width false true
    else unicodeUnits bytes width codecs.nativeLittle true
  else unicodeUnits bytes width encoding.little true

def decodeTableLabel (table : UInt8 → Char) (bytes : List UInt8) : Option (List Char) :=
  bytes.mapM fun byte => if table byte = replacementCharacter then none else some (table byte)

def decodeBasicLabel (value name : List Char) : Option (List Char) :=
  let bytes := labelBytes value
  if name = "utf_8".toList ∨ name = "utf_8_sig".toList then
    let data := if name = "utf_8_sig".toList ∧ [0xef, 0xbb, 0xbf].isPrefixOf bytes then bytes.drop 3
      else bytes
    (String.fromUTF8? ⟨data.toArray⟩).map String.toList
  else
    match codecs.multibyte name with
    | some machine => machine bytes true
    | none =>
        match codecs.aliases name with
        | some key => decodeTableLabel (codecs.tables key) bytes
        | none => (codecs.unicodeAliases name).bind (decodeUnicodeLabel codecs · bytes)

def decodeLabel (value encoding : List Char) : Except CharsetError (Option PythonText) := do
  let name ← checkedEncoding codecs encoding
  if name = "utf_7".toList then return (Utf7.decode (labelBytes value) true).toOption
  else
    match codecs.iso2022 name with
    | some codec => return (← codec (labelBytes value) true).map .scalar
    | none => return (decodeBasicLabel codecs value name).map .scalar

/-! ## The charset -/

def isCharsetName (name : List Char) : Bool := name.map Text.asciiLower = "charset".toList

/-- A label that is not ASCII counts as none. -/
def asciiLabel (value : List Char) : Option (List Char) :=
  if value.all fun c => c.toNat < 128 then some (value.map Text.asciiLower) else none

def extendedLabel (extended : Extended) : Except CharsetError (Option (List Char)) :=
  match extended.encoding with
  | none => .ok (asciiLabel extended.value)
  | some encoding => do
      match ← decodeLabel codecs extended.value encoding with
      | some (.scalar text) => return asciiLabel text
      | some (.nonScalar ..) => return none
      | none => return asciiLabel extended.value

/-- Every group is put together before a charset is looked for. -/
def selectCharset (found : Collected) : Except CharsetError (Option (List Char)) := do
  let extended ← mapEach extendGroup found.groups
  match found.normal.find? fun entry => isCharsetName entry.1 with
  | some entry => return asciiLabel entry.2
  | none =>
      match extended.find? fun group => isCharsetName group.name with
      | some group => extendedLabel codecs group
      | none => return none

def charsetParameter (tables : UnicodeTables) (contentType : List Char) :
    Except CharsetError (Option (List Char)) := do
  let found ← collect tables (parameters tables contentType)
  selectCharset codecs found

end

end Marty.ResponseText.ContentType
