import EntityDiagram.Text.Basic

/-!
# UTF-8

Files hold bytes and the library works on text. Going out, every character has one encoding. Coming
in, two readings are needed: model files are read *tolerantly*, each ill-formed stretch giving one
replacement character, while files that configure the program are read *strictly* and the first
ill-formed stretch is reported with its place.

Both readings rest on `head`, which says what the first bytes of a sequence are: a character of some
width, or an ill-formed stretch of some width. An ill-formed stretch is the longest beginning of a
character that the bytes at hand do not complete, so the two readings agree on where the next
character starts.
-/

namespace EntityDiagram
namespace Utf8

/-! ## Writing -/

/-- The bytes of one character. -/
def encodeChar (c : Char) : List UInt8 :=
  let n := c.toNat
  if n < 0x80 then [UInt8.ofNat n]
  else if n < 0x800 then [UInt8.ofNat (0xC0 + n / 64), UInt8.ofNat (0x80 + n % 64)]
  else if n < 0x10000 then
    [UInt8.ofNat (0xE0 + n / 4096), UInt8.ofNat (0x80 + n / 64 % 64), UInt8.ofNat (0x80 + n % 64)]
  else
    [UInt8.ofNat (0xF0 + n / 262144), UInt8.ofNat (0x80 + n / 4096 % 64),
      UInt8.ofNat (0x80 + n / 64 % 64), UInt8.ofNat (0x80 + n % 64)]

def encode (t : Text) : List UInt8 := t.flatMap encodeChar

/-! ## Reading -/

inductive Reason where
  /-- The first byte begins no character. -/
  | invalidStart
  /-- A byte that should continue the character does not. -/
  | invalidContinuation
  | truncated
  deriving DecidableEq, Repr

/-- What a sequence of bytes begins with. The width is the number of bytes it takes. -/
inductive Head where
  | char (c : Char) (width : Nat)
  | illFormed (width : Nat) (reason : Reason)

def isContinuation (b : UInt8) : Bool := 0x80 ≤ b && b ≤ 0xBF

/-- Whether a byte may be the second of a character that begins with `lead`. The bounds rule out
    encodings that are longer than needed, the surrogates, and numbers beyond the last character. -/
def isSecond (lead b : UInt8) : Bool :=
  isContinuation b
    && (lead != 0xE0 || 0xA0 ≤ b) && (lead != 0xED || b ≤ 0x9F)
    && (lead != 0xF0 || 0x90 ≤ b) && (lead != 0xF4 || b ≤ 0x8F)

def payload (b : UInt8) : Nat := b.toNat % 64

/-- What the bytes `b :: rest` begin with. -/
def head (b : UInt8) (rest : List UInt8) : Head :=
  if b < 0x80 then .char (Char.ofNat b.toNat) 1
  else if b < 0xC2 || 0xF4 < b then .illFormed 1 .invalidStart
  else match rest with
    | [] => .illFormed 1 .truncated
    | b₁ :: rest =>
      if !isSecond b b₁ then .illFormed 1 .invalidContinuation
      else if b < 0xE0 then .char (Char.ofNat (b.toNat % 32 * 64 + payload b₁)) 2
      else match rest with
        | [] => .illFormed 2 .truncated
        | b₂ :: rest =>
          if !isContinuation b₂ then .illFormed 2 .invalidContinuation
          else if b < 0xF0 then
            .char (Char.ofNat (b.toNat % 16 * 4096 + payload b₁ * 64 + payload b₂)) 3
          else match rest with
            | [] => .illFormed 3 .truncated
            | b₃ :: _ =>
              if !isContinuation b₃ then .illFormed 3 .invalidContinuation
              else .char (Char.ofNat
                (b.toNat % 8 * 262144 + payload b₁ * 4096 + payload b₂ * 64 + payload b₃)) 4

def replacement : Char := Char.ofNat 0xFFFD

/-- Tolerant reading. The number says how many bytes still belong to what was read last. -/
def decodeTolerantFrom : Nat → List UInt8 → Text
  | _, [] => []
  | skip + 1, _ :: rest => decodeTolerantFrom skip rest
  | 0, b :: rest => match head b rest with
    | .char c width => c :: decodeTolerantFrom (width - 1) rest
    | .illFormed width _ => replacement :: decodeTolerantFrom (width - 1) rest

/-- The text of the bytes, one replacement character for each ill-formed stretch. -/
def decodeTolerant (bytes : List UInt8) : Text := decodeTolerantFrom 0 bytes

/-- The first ill-formed stretch of a sequence of bytes. -/
structure Fault where
  start : Nat
  width : Nat
  byte : UInt8
  reason : Reason
  deriving DecidableEq, Repr

/-- Strict reading at a position, the first number saying how many bytes still belong to what was
    read last. -/
def decodeStrictFrom (position : Nat) : Nat → List UInt8 → Except Fault Text
  | _, [] => .ok []
  | skip + 1, _ :: rest => decodeStrictFrom (position + 1) skip rest
  | 0, b :: rest => match head b rest with
    | .char c width => (decodeStrictFrom (position + 1) (width - 1) rest).map (c :: ·)
    | .illFormed width reason => .error ⟨position, width, b, reason⟩

/-- The text of the bytes, or the first stretch that is ill-formed. -/
def decodeStrict (bytes : List UInt8) : Except Fault Text := decodeStrictFrom 0 0 bytes

def Reason.message : Reason → Text
  | .invalidStart => "invalid start byte"
  | .invalidContinuation => "invalid continuation byte"
  | .truncated => "unexpected end of data"

/-- The wording of a fault: a stretch of one byte is shown with its value, a longer one with its
    first and last position. -/
def Fault.message (f : Fault) : Text :=
  let place : Text :=
    if f.width == 1 then
      "byte 0x" ++ Text.hex 2 f.byte.toNat ++ (" in position " : Text) ++ Text.ofNat f.start
    else
      "bytes in position " ++ Text.ofNat f.start ++ ("-" : Text)
        ++ Text.ofNat (f.start + f.width - 1)
  ("'utf-8' codec can't decode " : Text) ++ place ++ (": " : Text) ++ f.reason.message

/-! ## Line ends -/

/-- The text with every line end written as a single line feed: a carriage return with the line
    feed behind it, and a carriage return alone. -/
def unifyLineEnds : Text → Text
  | [] => []
  | '\r' :: '\n' :: rest => '\n' :: unifyLineEnds rest
  | c :: rest => (if c == '\r' then '\n' else c) :: unifyLineEnds rest

end Utf8
end EntityDiagram
