/-
Texts from bytes in UTF-8.

A text is decoded strictly: the shortest form of each code point, no surrogates, nothing beyond the last code point. The
first fault is reported with its bytes. Line ends are then made line feeds, whether they were written with a carriage
return, a line feed, or both.

Main statement: `lineFeeds_no_return`, no carriage return is left.
-/
namespace ApiTypes.Text

inductive EncodingCause where
  | start
  | continuation
  | endOfData
  deriving DecidableEq, Repr

def EncodingCause.message : EncodingCause → String
  | start => "invalid start byte"
  | continuation => "invalid continuation byte"
  | endOfData => "unexpected end of data"

/-- the bytes from `first` that could not be decoded -/
structure EncodingFault where
  first : Nat
  bytes : List UInt8
  cause : EncodingCause
  deriving DecidableEq, Repr

def byteText (b : UInt8) : String :=
  let digit (n : Nat) : Char := if n < 10 then Char.ofNat (48 + n) else Char.ofNat (87 + n)
  String.ofList ['0', 'x', digit (b.toNat / 16), digit (b.toNat % 16)]

def EncodingFault.message (f : EncodingFault) : String :=
  "'utf-8' codec can't decode " ++
    (match f.bytes with
    | [b] => "byte " ++ byteText b ++ " in position " ++ toString f.first
    | bytes => "bytes in position " ++ toString f.first ++ "-" ++ toString (f.first + bytes.length - 1)) ++
    ": " ++ f.cause.message

/-- may `b` be byte number `index` (from one) after the leading byte `lead`? -/
def continues (lead : UInt8) (index : Nat) (b : UInt8) : Bool :=
  let low : UInt8 := if index = 1 then (if lead = 0xE0 then 0xA0 else if lead = 0xF0 then 0x90 else 0x80) else 0x80
  let high : UInt8 := if index = 1 then (if lead = 0xED then 0x9F else if lead = 0xF4 then 0x8F else 0xBF) else 0xBF
  low ≤ b && b ≤ high

/-- how many bytes follow a leading byte -/
def followers? (lead : UInt8) : Option Nat :=
  if lead < 0x80 then some 0
  else if 0xC2 ≤ lead && lead ≤ 0xDF then some 1
  else if 0xE0 ≤ lead && lead ≤ 0xEF then some 2
  else if 0xF0 ≤ lead && lead ≤ 0xF4 then some 3
  else none

/-- the bytes after the leading one that are in order, at most `count`, and those left -/
def takeFollowers (lead : UInt8) : (count index : Nat) → List UInt8 → List UInt8 × List UInt8
  | 0, _, rest => ([], rest)
  | _ + 1, _, [] => ([], [])
  | count + 1, index, b :: rest =>
    if continues lead index b then
      let (taken, left) := takeFollowers lead count (index + 1) rest
      (b :: taken, left)
    else ([], b :: rest)

def codePoint (lead : UInt8) (rest : List UInt8) : Nat :=
  let first := match rest.length with
    | 0 => lead.toNat
    | 1 => lead.toNat % 32
    | 2 => lead.toNat % 16
    | _ => lead.toNat % 8
  rest.foldl (fun n b => 64 * n + b.toNat % 64) first

/-- decode from position `at_` on; each step takes at least one byte, so the number of bytes bounds the fuel -/
def decodeFrom : (fuel : Nat) → (position : Nat) → List UInt8 → Except EncodingFault (List Char)
  | _, _, [] => .ok []
  | 0, _, _ => .ok []
  | fuel + 1, position, lead :: rest =>
    match followers? lead with
    | none => .error ⟨position, [lead], .start⟩
    | some count =>
      let (taken, left) := takeFollowers lead count 1 rest
      if taken.length < count then
        if left.isEmpty then .error ⟨position, lead :: taken, .endOfData⟩
        else .error ⟨position, lead :: taken, .continuation⟩
      else (decodeFrom fuel (position + 1 + count) left).map (Char.ofNat (codePoint lead taken) :: ·)

def decode (bytes : List UInt8) : Except EncodingFault (List Char) :=
  decodeFrom bytes.length 0 bytes

/-- every line end becomes one line feed -/
def lineFeeds : List Char → List Char
  | '\r' :: '\n' :: rest => '\n' :: lineFeeds rest
  | '\r' :: rest => '\n' :: lineFeeds rest
  | c :: rest => c :: lineFeeds rest
  | [] => []

theorem lineFeeds_no_return (text : List Char) : '\r' ∉ lineFeeds text := by
  fun_induction lineFeeds text with
  | case1 rest ih => simp [ih]
  | case2 rest _ ih => simp [ih]
  | case3 c rest _ h ih =>
    rw [List.mem_cons]
    rintro (rfl | h')
    · exact h rfl
    · exact ih h'
  | case4 => simp

end ApiTypes.Text
