/-
  CallSites.Text.Utf8

  Reading bytes as UTF-8, with the reason for a refusal. Overlong forms, surrogates and values
  past the last code point are refused at the first byte that rules the sequence out.
-/

namespace CallSites.Text.Utf8

/-- Why bytes are not UTF-8. -/
inductive Refusal where
  /-- A byte that cannot begin a character. -/
  | startByte
  /-- A byte that cannot continue the character begun before it. -/
  | continuationByte
  /-- The bytes end inside a character. -/
  | endOfData
  deriving DecidableEq, Repr

/-- The reason in words. -/
def Refusal.message : Refusal → String
  | .startByte => "invalid start byte"
  | .continuationByte => "invalid continuation byte"
  | .endOfData => "unexpected end of data"

/-- The bytes of a text. -/
def encode (text : List Char) : List UInt8 :=
  text.flatMap String.utf8EncodeChar

/-- Whether a byte continues a character. -/
def isContinuation (byte : Nat) : Bool :=
  0x80 ≤ byte && byte < 0xC0

/-- The range of the second byte, which the first narrows where a shorter form, a surrogate or too
    large a value would follow. -/
def secondRange (first : Nat) : Nat × Nat :=
  if first = 0xE0 then (0xA0, 0xC0)
  else if first = 0xED then (0x80, 0xA0)
  else if first = 0xF0 then (0x90, 0xC0)
  else if first = 0xF4 then (0x80, 0x90)
  else (0x80, 0xC0)

/-- Decodes onto the text that was decoded before, which stands backwards. -/
def decodeOnto (done : List Char) : List UInt8 → Except Refusal (List Char)
  | [] => .ok done.reverse
  | first :: rest =>
    let a := first.toNat
    if a < 0x80 then decodeOnto (Char.ofNat a :: done) rest
    else if a < 0xC2 || 0xF5 ≤ a then .error .startByte
    else match rest with
      | [] => .error .endOfData
      | second :: rest =>
        let b := second.toNat
        let (low, high) := secondRange a
        if b < low || high ≤ b then .error .continuationByte
        else if a < 0xE0 then decodeOnto (Char.ofNat ((a - 0xC0) * 64 + (b - 0x80)) :: done) rest
        else match rest with
          | [] => .error .endOfData
          | third :: rest =>
            let c := third.toNat
            if !isContinuation c then .error .continuationByte
            else if a < 0xF0 then
              decodeOnto
                (Char.ofNat ((a - 0xE0) * 4096 + (b - 0x80) * 64 + (c - 0x80)) :: done) rest
            else match rest with
              | [] => .error .endOfData
              | fourth :: rest =>
                let d := fourth.toNat
                if !isContinuation d then .error .continuationByte
                else
                  decodeOnto
                    (Char.ofNat ((a - 0xF0) * 262144 + (b - 0x80) * 4096 + (c - 0x80) * 64 +
                      (d - 0x80)) :: done) rest

/-- The text that the bytes encode, or why they encode none. -/
def decode (bytes : List UInt8) : Except Refusal (List Char) :=
  decodeOnto [] bytes

end CallSites.Text.Utf8
