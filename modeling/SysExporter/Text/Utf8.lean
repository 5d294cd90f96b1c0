namespace SysExporter.Text

abbrev Bytes := List UInt8

-- Why bytes are not UTF-8. Both faults carry the number of good bytes before them.
inductive Utf8Fault where
  | invalid (index length : Nat)
  | incomplete (index : Nat)
  deriving DecidableEq, Repr

def Utf8Fault.message : Utf8Fault → String
  | .invalid index length => s!"invalid utf-8 sequence of {length} bytes from index {index}"
  | .incomplete index => s!"incomplete utf-8 byte sequence from index {index}"

def encodeChar (c : Char) : Bytes :=
  let code := c.toNat
  if code < 0x80 then [code.toUInt8]
  else if code < 0x800 then [(0xC0 + code / 0x40).toUInt8, (0x80 + code % 0x40).toUInt8]
  else if code < 0x10000 then
    [(0xE0 + code / 0x1000).toUInt8, (0x80 + code / 0x40 % 0x40).toUInt8,
      (0x80 + code % 0x40).toUInt8]
  else
    [(0xF0 + code / 0x40000).toUInt8, (0x80 + code / 0x1000 % 0x40).toUInt8,
      (0x80 + code / 0x40 % 0x40).toUInt8, (0x80 + code % 0x40).toUInt8]

def encodeUtf8 (text : List Char) : Bytes :=
  text.flatMap encodeChar

def isContinuation (byte : UInt8) : Bool :=
  0x80 ≤ byte && byte ≤ 0xBF

-- The second byte is the one that keeps out overlong forms, surrogates and
-- code points past the last one.
def secondFits (lead byte : UInt8) : Bool :=
  if lead = 0xE0 then 0xA0 ≤ byte && byte ≤ 0xBF
  else if lead = 0xED then 0x80 ≤ byte && byte ≤ 0x9F
  else if lead = 0xF0 then 0x90 ≤ byte && byte ≤ 0xBF
  else if lead = 0xF4 then 0x80 ≤ byte && byte ≤ 0x8F
  else isContinuation byte

-- The six payload bits of a continuation byte.
def payload (byte : UInt8) : Nat :=
  byte.toNat - 0x80

-- A fault takes in the longest run of bytes that could have begun a character.
def decodeUtf8From (index : Nat) : Bytes → Except Utf8Fault (List Char)
  | [] => .ok []
  | first :: rest =>
    if first < 0x80 then (Char.ofNat first.toNat :: ·) <$> decodeUtf8From (index + 1) rest
    else if first < 0xC2 || 0xF4 < first then .error (.invalid index 1)
    else match rest with
      | [] => .error (.incomplete index)
      | second :: rest =>
        if !secondFits first second then .error (.invalid index 1)
        else if first < 0xE0 then
          (Char.ofNat ((first.toNat - 0xC0) * 0x40 + payload second) :: ·) <$>
            decodeUtf8From (index + 2) rest
        else match rest with
          | [] => .error (.incomplete index)
          | third :: rest =>
            if !isContinuation third then .error (.invalid index 2)
            else if first < 0xF0 then
              (Char.ofNat ((first.toNat - 0xE0) * 0x1000 + payload second * 0x40 +
                payload third) :: ·) <$> decodeUtf8From (index + 3) rest
            else match rest with
              | [] => .error (.incomplete index)
              | fourth :: rest =>
                if !isContinuation fourth then .error (.invalid index 3)
                else
                  (Char.ofNat ((first.toNat - 0xF0) * 0x40000 + payload second * 0x1000 +
                    payload third * 0x40 + payload fourth) :: ·) <$>
                      decodeUtf8From (index + 4) rest

def decodeUtf8 (bytes : Bytes) : Except Utf8Fault (List Char) :=
  decodeUtf8From 0 bytes

-- The characters of the bytes with U+FFFD for each fault; the bytes after a
-- fault are read afresh. The fuel is the number of bytes.
def decodeLossyFuel : Nat → Bytes → List Char
  | 0, _ => []
  | fuel + 1, bytes =>
    match decodeUtf8 bytes with
    | .ok text => text
    | .error (.incomplete index) =>
      ((decodeUtf8 (bytes.take index)).toOption.getD []) ++ ['\uFFFD']
    | .error (.invalid index length) =>
      ((decodeUtf8 (bytes.take index)).toOption.getD []) ++
        '\uFFFD' :: decodeLossyFuel fuel (bytes.drop (index + length))

def decodeLossy (bytes : Bytes) : List Char :=
  decodeLossyFuel (bytes.length + 1) bytes

end SysExporter.Text
