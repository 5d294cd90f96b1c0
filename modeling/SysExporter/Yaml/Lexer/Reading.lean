import SysExporter.Yaml.Lexer.Symbols

namespace SysExporter.Yaml

namespace Lex

-- What separates tokens: spaces, comments and line breaks. A tab does where
-- no key can begin.
def skipBlanks : Nat → Lex Unit
  | 0 => return ()
  | fuel + 1 => do
    let l ← get
    if l.cursor.mark.index = 0 && l.cursor.rest.head? == some '\uFEFF' then
      scan (Scan.skip 1)
    scan (Scan.skipWhile fun c => c == ' ' || ((l.inFlow || !l.keyAllowed) && c == '\t'))
    if (← scan Scan.next?) == some '#' then scan (Scan.skipWhile (!isBreak ·))
    match ← scan Scan.lineBreak with
    | [] => return ()
    | _ => do
      if !l.inFlow then allowKey true
      skipBlanks fuel

-- Characters that are indicators wherever a token may begin.
def isIndicator (c : Char) : Bool :=
  "-?:,[]\x7b\x7d#&*!|>'\"%@`".toList.contains c

def lexPlainOrFail (c : Char) (rest : List Char) : Lex Unit := do
  let inFlow := (← get).inFlow
  let beginsWord := !endsWord rest
  if (!isSpacing c && !isIndicator c) || (c == '-' && !rest.head?.any isSpacing) ||
      (!inFlow && (c == '?' || c == ':') && beginsWord) then lexPlain
  else fail (some (.nextToken, ← mark)) .noTokenStart

def lexToken (c : Char) (rest : List Char) : Lex Unit := do
  let l ← get
  let isAlone := endsWord rest
  if l.cursor.mark.column = 0 && c == '%' then lexDirective
  else if l.cursor.atDocumentIndicator then
    lexDocumentIndicator (if c == '-' then .documentStart else .documentEnd)
  else match c with
    | '[' => lexFlowStart .flowSequenceStart
    | '\x7b' => lexFlowStart .flowMappingStart
    | ']' => lexFlowEnd .flowSequenceEnd
    | '\x7d' => lexFlowEnd .flowMappingEnd
    | ',' => lexFlowEntry
    | '-' => if isAlone then lexBlockEntry else lexPlainOrFail c rest
    | '?' => if l.inFlow || isAlone then lexKey else lexPlainOrFail c rest
    | ':' => if l.inFlow || isAlone then lexValue else lexPlainOrFail c rest
    | '*' => lexContent (.aliasName <$> readName .aliasName)
    | '&' => lexContent (.anchorName <$> readName .anchorName)
    | '!' => lexContent (.tag <$> readTag l.inFlow)
    | '|' => if l.inFlow then lexPlainOrFail c rest else lexBlockScalar true
    | '>' => if l.inFlow then lexPlainOrFail c rest else lexBlockScalar false
    | '\'' => lexQuoted false
    | '"' => lexQuoted true
    | _ => lexPlainOrFail c rest

-- At the end of the text every block collection ends, on a line of its own.
def lexEnd : Lex Mark := do
  modify fun l =>
    if l.cursor.mark.column = 0 then l
    else { l with cursor := ⟨l.cursor.mark.down 0, l.cursor.rest⟩ }
  dedent none
  dropCandidate
  mark

-- The tokens up to the next one that the text shows. At the end of the text the
-- result is the mark of the end.
def step : Lex (Option Mark) := do
  skipBlanks ((← get).cursor.rest.length + 1)
  dropStaleCandidates
  dedent (some (← mark).column)
  match (← get).cursor.rest with
  | [] => some <$> lexEnd
  | c :: rest => do
    lexToken c rest
    dropStaleCandidates
    return none

-- A fault hides the tokens whose place was not yet settled when the last step began.
def readAll : Nat → Lexer → TokenStream
  | 0, l => ⟨l.tokens.toList, .ok l.cursor.mark⟩
  | fuel + 1, l =>
    match (ExceptT.run step).run l with
    | (.error fault, _) => ⟨l.tokens.toList.take l.settled, .error (.badSyntax fault)⟩
    | (.ok (some mark), next) => ⟨next.tokens.toList, .ok mark⟩
    | (.ok none, next) => readAll fuel next

end Lex

-- The characters that a text may hold.
def isTextChar (c : Char) : Bool :=
  let code := c.toNat
  code == 0x09 || code == 0x0A || code == 0x0D || (0x20 ≤ code && code ≤ 0x7E) ||
    code == 0x85 || (0xA0 ≤ code && code ≤ 0xD7FF) || (0xE000 ≤ code && code ≤ 0xFFFD) ||
    0x10000 ≤ code

-- The first character that a text may not hold, by its offset in bytes.
def badOffset? (offset : Nat) : List Char → Option Nat
  | [] => none
  | c :: rest => if isTextChar c then badOffset? (offset + c.utf8Size) rest else some offset

-- A byte order mark at the beginning is no part of the text.
def TokenStream.ofText (text : List Char) : TokenStream :=
  match badOffset? 0 text with
  | some offset => ⟨[], .error (.badCharacter offset)⟩
  | none =>
    let body := if text.head? == some '\uFEFF' then text.drop 1 else text
    Lex.readAll (body.length + 1) (Lexer.ofText body)

end SysExporter.Yaml
