import SchemaFold.Text.Position
import SchemaFold.Text.Quoted

/-! Bytes as text in one of four encodings. -/

namespace SchemaFold.Text

inductive Encoding where
  | utf8
  | utf8Marked
  | latin1
  | ascii
  deriving DecidableEq, Repr

namespace Encoding

def isNamePart (c : Char) : Bool :=
  c.isAlphanum || c == '.'

/-- A name in lower case, with an underscore for whatever stands between its words. -/
def plainName (name : String) : String :=
  let runs := name.toList.splitBy fun a b => isNamePart a == isNamePart b
  let words := runs.filter fun run => run.all isNamePart
  "_".intercalate (words.map fun word => String.ofList (word.map Char.toLower))

def properName : Encoding → String
  | utf8 => "utf_8"
  | utf8Marked => "utf_8_sig"
  | latin1 => "latin_1"
  | ascii => "ascii"

def otherNames : Encoding → List String
  | utf8 => ["u8", "utf", "utf8", "utf8_ucs2", "utf8_ucs4", "cp65001"]
  | utf8Marked => []
  | latin1 =>
    ["8859", "cp819", "csisolatin1", "ibm819", "iso8859", "iso8859_1", "iso_8859_1",
      "iso_8859_1_1987", "iso_ir_100", "l1", "latin", "latin1"]
  | ascii =>
    ["646", "ansi_x3.4_1968", "ansi_x3_4_1968", "ansi_x3.4_1986", "cp367", "csascii", "ibm367",
      "iso646_us", "iso_646.irv_1991", "iso_ir_6", "us", "us_ascii"]

/-- In the other names of an encoding an underscore may be written as a point. -/
def goesBy (plain : String) (e : Encoding) : Bool :=
  let underscored := plain.map fun c => if c == '.' then '_' else c
  plain == e.properName || e.otherNames.contains plain || e.otherNames.contains underscored

/-- Why no encoding has a name. -/
inductive NameFault where
  | unknown (name : String)
  | nullCharacter
  deriving DecidableEq, Repr

def NameFault.message : NameFault → String
  | unknown name => "unknown encoding: " ++ name
  | nullCharacter => "embedded null character"

def ofName (name : String) : Except NameFault Encoding :=
  if name.toList.contains '\x00' then .error .nullCharacter
  else
    match [utf8, utf8Marked, latin1, ascii].find? (goesBy (plainName name)) with
    | some e => .ok e
    | none => .error (.unknown name)

end Encoding

inductive DecodeFault.Reason where
  | startByte
  | continuationByte
  | endOfData
  | outOfRange
  deriving DecidableEq, Repr

/-- Bytes from `first` to `last` that are no text; `byte` is the first of them. -/
structure DecodeFault where
  codec : Encoding
  byte : UInt8
  first : Nat
  last : Nat
  reason : DecodeFault.Reason
  deriving DecidableEq, Repr

def DecodeFault.Reason.text : DecodeFault.Reason → String
  | .startByte => "invalid start byte"
  | .continuationByte => "invalid continuation byte"
  | .endOfData => "unexpected end of data"
  | .outOfRange => "ordinal not in range(128)"

def DecodeFault.message (f : DecodeFault) : String :=
  let codec := if f.codec = .ascii then "'ascii'" else "'utf-8'"
  let bytes :=
    if f.first = f.last then "byte 0x" ++ hex 2 f.byte.toNat ++ " in position " ++ toString f.first
    else "bytes in position " ++ toString f.first ++ "-" ++ toString f.last
  codec ++ " codec can't decode " ++ bytes ++ ": " ++ f.reason.text

namespace Utf8

/-- A character of several bytes of which some are read: its code so far, and the range that each
further byte has to be in. -/
structure Open where
  start : Nat
  byte : UInt8
  code : Nat
  next : Nat × Nat
  later : List (Nat × Nat)

def anyContinuation : Nat × Nat :=
  (0x80, 0xBF)

/-- The code in a lead byte and the ranges of the bytes after it, so that no character has two
forms and none is a surrogate or beyond the last code point. -/
def lead? (b : UInt8) : Option (Nat × (Nat × Nat) × List (Nat × Nat)) :=
  let n := b.toNat
  if 0xC2 ≤ n && n ≤ 0xDF then some (n - 0xC0, anyContinuation, [])
  else if n == 0xE0 then some (0, (0xA0, 0xBF), [anyContinuation])
  else if n == 0xED then some (n - 0xE0, (0x80, 0x9F), [anyContinuation])
  else if 0xE1 ≤ n && n ≤ 0xEF then some (n - 0xE0, anyContinuation, [anyContinuation])
  else if n == 0xF0 then some (0, (0x90, 0xBF), [anyContinuation, anyContinuation])
  else if 0xF1 ≤ n && n ≤ 0xF3 then
    some (n - 0xF0, anyContinuation, [anyContinuation, anyContinuation])
  else if n == 0xF4 then some (n - 0xF0, (0x80, 0x8F), [anyContinuation, anyContinuation])
  else none

/-- The characters of the bytes from `offset` on, the first of which may belong to a character
that is open. -/
def decode (offset : Nat) : Option Open → List UInt8 → Except DecodeFault (List Char)
  | none, [] => .ok []
  | some o, [] => .error ⟨.utf8, o.byte, o.start, offset - 1, .endOfData⟩
  | none, b :: bs =>
    if b.toNat < 0x80 then do return Char.ofNat b.toNat :: (← decode (offset + 1) none bs)
    else
      match lead? b with
      | some (code, next, later) => decode (offset + 1) (some ⟨offset, b, code, next, later⟩) bs
      | none => .error ⟨.utf8, b, offset, offset, .startByte⟩
  | some o, b :: bs =>
    if o.next.1 ≤ b.toNat && b.toNat ≤ o.next.2 then
      let code := o.code * 64 + (b.toNat - 0x80)
      match o.later with
      | [] => do return Char.ofNat code :: (← decode (offset + 1) none bs)
      | next :: later => decode (offset + 1) (some ⟨o.start, o.byte, code, next, later⟩) bs
    else .error ⟨.utf8, o.byte, o.start, offset - 1, .continuationByte⟩

def encode (s : String) : List UInt8 :=
  s.toList.flatMap String.utf8EncodeChar

/-- The three bytes of a byte order mark. -/
def mark : List UInt8 :=
  [0xEF, 0xBB, 0xBF]

end Utf8

def decodeAscii (offset : Nat) : List UInt8 → Except DecodeFault (List Char)
  | [] => .ok []
  | b :: bs =>
    if b.toNat < 0x80 then do return Char.ofNat b.toNat :: (← decodeAscii (offset + 1) bs)
    else .error ⟨.ascii, b, offset, offset, .outOfRange⟩

/-- Text without its mark. Positions count from after the mark, and less than a whole mark is no
text at all. -/
def decodeMarked (bytes : List UInt8) : Except DecodeFault (List Char) :=
  if Utf8.mark.isPrefixOf bytes then Utf8.decode 0 none (bytes.drop Utf8.mark.length)
  else if bytes.isPrefixOf Utf8.mark then .ok []
  else Utf8.decode 0 none bytes

def Encoding.decode : Encoding → List UInt8 → Except DecodeFault (List Char)
  | .utf8, bytes => Utf8.decode 0 none bytes
  | .utf8Marked, bytes => decodeMarked bytes
  | .latin1, bytes => .ok (bytes.map fun b => Char.ofNat b.toNat)
  | .ascii, bytes => decodeAscii 0 bytes

/-- The text of a file, its lines ending in line feeds. -/
def Encoding.read (e : Encoding) (bytes : List UInt8) : Except DecodeFault String :=
  (fun cs => String.ofList (unifyNewlines cs)) <$> e.decode bytes

end SchemaFold.Text
