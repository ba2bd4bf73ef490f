/-! UTF-8: the bytes of text, and the text of bytes. `decode` accepts the well-formed sequences of
the Unicode standard (no overlong form, no surrogate, nothing above U+10FFFF) and otherwise says
how many bytes were well formed and how long the sequence is that is not; `decodeUnchecked` is for
bytes that have been accepted before. -/

namespace WindowGateway.Text

/-- Bytes that are not UTF-8. `sequence` is the number of bytes of the first ill-formed sequence,
absent when the input ends inside a sequence that could have been completed. -/
structure Utf8Fault where
  validUpTo : Nat
  sequence : Option Nat
  deriving DecidableEq, Repr

def Utf8Fault.message (f : Utf8Fault) : String :=
  match f.sequence with
  | some n => s!"invalid utf-8 sequence of {n} bytes from index {f.validUpTo}"
  | none => s!"incomplete utf-8 byte sequence from index {f.validUpTo}"

namespace Utf8

/-- The one to four bytes of a character. -/
def encodeChar (c : Char) : List UInt8 :=
  let n := c.toNat
  if n < 0x80 then [.ofNat n]
  else if n < 0x800 then [.ofNat (0xC0 + n / 0x40), .ofNat (0x80 + n % 0x40)]
  else if n < 0x10000 then
    [.ofNat (0xE0 + n / 0x1000), .ofNat (0x80 + n / 0x40 % 0x40), .ofNat (0x80 + n % 0x40)]
  else
    [.ofNat (0xF0 + n / 0x40000), .ofNat (0x80 + n / 0x1000 % 0x40),
      .ofNat (0x80 + n / 0x40 % 0x40), .ofNat (0x80 + n % 0x40)]

def encode (cs : List Char) : List UInt8 := cs.flatMap encodeChar

/-- The six bits that a continuation byte carries. -/
def continuation? (b : UInt8) : Option Nat :=
  if 0x80 ≤ b.toNat ∧ b.toNat < 0xC0 then some (b.toNat - 0x80) else none

/-- The bits of the byte after the lead byte `lead`, which keeps out overlong forms, surrogates and
code points above U+10FFFF. -/
def second? (lead b : UInt8) : Option Nat :=
  if (lead.toNat = 0xE0 ∧ b.toNat < 0xA0) ∨ (lead.toNat = 0xED ∧ 0xA0 ≤ b.toNat) ∨
      (lead.toNat = 0xF0 ∧ b.toNat < 0x90) ∨ (lead.toNat = 0xF4 ∧ 0x90 ≤ b.toNat) then none
  else continuation? b

/-- The character that starts with `lead`, and the bytes after it; or the length of the ill-formed
sequence, if the bytes do not end inside it. -/
def decodeChar (lead : UInt8) (rest : List UInt8) : Except (Option Nat) (Char × List UInt8) :=
  let n := lead.toNat
  if n < 0x80 then .ok (Char.ofNat n, rest)
  else if n < 0xC2 ∨ 0xF5 ≤ n then .error (some 1)
  else match rest with
    | [] => .error none
    | b₁ :: rest =>
      match second? lead b₁ with
      | none => .error (some 1)
      | some c₁ =>
        if n < 0xE0 then .ok (Char.ofNat ((n - 0xC0) * 0x40 + c₁), rest)
        else match rest with
          | [] => .error none
          | b₂ :: rest =>
            match continuation? b₂ with
            | none => .error (some 2)
            | some c₂ =>
              if n < 0xF0 then .ok (Char.ofNat (((n - 0xE0) * 0x40 + c₁) * 0x40 + c₂), rest)
              else match rest with
                | [] => .error none
                | b₃ :: rest =>
                  match continuation? b₃ with
                  | none => .error (some 3)
                  | some c₃ =>
                    .ok (Char.ofNat ((((n - 0xF0) * 0x40 + c₁) * 0x40 + c₂) * 0x40 + c₃), rest)

/-- Decodes at most `fuel` characters; `total` is the length of the whole input and `done` holds
the characters so far, the last one first. -/
def decodeFrom (total : Nat) : Nat → List Char → List UInt8 → Except Utf8Fault (List Char)
  | _, done, [] => .ok done.reverse
  | 0, _, rest@(_ :: _) => .error ⟨total - rest.length, some 1⟩
  | fuel + 1, done, rest@(lead :: tail) =>
    match decodeChar lead tail with
    | .ok (c, tail) => decodeFrom total fuel (c :: done) tail
    | .error sequence => .error ⟨total - rest.length, sequence⟩

def decode (bytes : List UInt8) : Except Utf8Fault (List Char) :=
  decodeFrom bytes.length bytes.length [] bytes

/-- The numbers of the characters so far, the last one first, with one byte more: a continuation
byte adds its bits to the last number, and every other byte begins a number. -/
def addByte (codes : List Nat) (b : UInt8) : List Nat :=
  let n := b.toNat
  if n < 0x80 then n :: codes
  else if n < 0xC0 then
    match codes with
    | [] => []
    | code :: codes => (code * 0x40 + (n - 0x80)) :: codes
  else if n < 0xE0 then (n - 0xC0) :: codes
  else if n < 0xF0 then (n - 0xE0) :: codes
  else (n - 0xF0) :: codes

/-- The characters of bytes that are known to be UTF-8. Nothing is checked, and what other bytes
give has no meaning. -/
def decodeUnchecked (bytes : List UInt8) : List Char :=
  (bytes.foldl addByte []).reverse.map Char.ofNat

end Utf8

def bytes (s : String) : List UInt8 := Utf8.encode s.toList

def ofBytes (bytes : List UInt8) : Except Utf8Fault String :=
  (Utf8.decode bytes).map String.ofList

def ofBytesUnchecked (bytes : List UInt8) : String := String.ofList (Utf8.decodeUnchecked bytes)

end WindowGateway.Text
