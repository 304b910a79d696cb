/-!
Bytes and text.

Text is encoded in UTF-8. Bytes that are no text are decoded with replacement characters: every
longest run of bytes that begins a character but does not finish it, and every byte that begins
none, becomes one U+FFFD.

Main definitions:

* `Utf8.decodeLossy` — the text of any bytes, with replacement characters;
* `Utf8.decode?` — the text of well-formed bytes, `none` for all others;
* `Utf8.encode` — the bytes of a text.
-/

namespace StandardsGate.Utf8

/-- The character that stands for bytes that are no text. -/
def replacement : Char := '\uFFFD'

/-- The character of a code point, or the replacement character where there is none. -/
def charOf (n : Nat) : Char :=
  if h : n.isValidChar then Char.ofNatAux n h else replacement

/-- Whether a byte continues a character. -/
def isContinuation (b : UInt8) : Bool := 0x80 ≤ b && b ≤ 0xBF

/-- What a leading byte announces: the bounds of the second byte, how many bytes follow, and the
leading byte's own bits. -/
def leading? (b : UInt8) : Option (UInt8 × UInt8 × Nat × Nat) :=
  if 0xC2 ≤ b && b ≤ 0xDF then some (0x80, 0xBF, 1, b.toNat - 0xC0)
  else if b = 0xE0 then some (0xA0, 0xBF, 2, 0)
  else if b = 0xED then some (0x80, 0x9F, 2, 0xD)
  else if 0xE1 ≤ b && b ≤ 0xEF then some (0x80, 0xBF, 2, b.toNat - 0xE0)
  else if b = 0xF0 then some (0x90, 0xBF, 3, 0)
  else if 0xF1 ≤ b && b ≤ 0xF3 then some (0x80, 0xBF, 3, b.toNat - 0xF0)
  else if b = 0xF4 then some (0x80, 0x8F, 3, 4)
  else none

/-- The bits of a continuation byte appended to those before it. -/
def append (bits : Nat) (b : UInt8) : Nat := bits * 64 + (b.toNat - 0x80)

/-- Reads one character from the front of some bytes: the character, `none` for a run that is
ill-formed, and the bytes after it. -/
def step : List UInt8 → Option Char × List UInt8
  | [] => (none, [])
  | b :: rest =>
    if b < 0x80 then (some (charOf b.toNat), rest)
    else match leading? b with
      | none => (none, rest)
      | some (lo, hi, n, bits) =>
        match rest with
        | c :: rest₁ =>
          if c < lo || hi < c then (none, rest)
          else if n = 1 then (some (charOf (append bits c)), rest₁)
          else match rest₁ with
            | d :: rest₂ =>
              if !isContinuation d then (none, rest₁)
              else if n = 2 then (some (charOf (append (append bits c) d)), rest₂)
              else match rest₂ with
                | e :: rest₃ =>
                  if !isContinuation e then (none, rest₂)
                  else (some (charOf (append (append (append bits c) d) e)), rest₃)
                | [] => (none, [])
            | [] => (none, [])
        | [] => (none, [])

theorem length_step_lt (b : UInt8) (rest : List UInt8) :
    (step (b :: rest)).2.length < (b :: rest).length := by
  unfold step
  repeat' split
  all_goals simp_all
  all_goals omega

/-- Decodes bytes to characters, `none` standing for each ill-formed run. -/
def decodeRuns (bs : List UInt8) : List (Option Char) :=
  match bs with
  | [] => []
  | b :: rest => (step (b :: rest)).1 :: decodeRuns (step (b :: rest)).2
termination_by bs.length
decreasing_by exact length_step_lt b rest

/-- The characters of any bytes, with one replacement character for each ill-formed run. -/
def decodeChars (bs : List UInt8) : List Char := (decodeRuns bs).map (·.getD replacement)

/-- The text of any bytes, with one replacement character for each ill-formed run. -/
def decodeLossy (bs : List UInt8) : String := String.ofList (decodeChars bs)

/-- The text of well-formed bytes. -/
def decode? (bs : List UInt8) : Option String := (decodeRuns bs).mapM id |>.map String.ofList

/-- The bytes of a character. -/
def encodeChar (c : Char) : List UInt8 :=
  let n := c.toNat
  let tail (bits : Nat) : UInt8 := UInt8.ofNat (0x80 + bits % 64)
  if n < 0x80 then [UInt8.ofNat n]
  else if n < 0x800 then [UInt8.ofNat (0xC0 + n / 64), tail n]
  else if n < 0x10000 then [UInt8.ofNat (0xE0 + n / 4096), tail (n / 64), tail n]
  else [UInt8.ofNat (0xF0 + n / 262144), tail (n / 4096), tail (n / 64), tail n]

/-- The bytes of a text. -/
def encode (s : String) : List UInt8 := s.toList.flatMap encodeChar

end StandardsGate.Utf8
