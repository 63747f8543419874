import ApiDocs.Xml.Scan

namespace ApiDocs.Xml

/-! Tokens in front of the root element and behind it. -/

/-- A token of a document outside its root element; `root` stands for all that
begins with the root's start tag. -/
inductive Token where
  | space
  | instruction (content : Instruction)
  | comment
  | opening (keyword : String)
  | closing
  | sectionOpening
  | sectionClosing
  | literal (value : List Located)
  | word (text : String) (mark : Option Char)
  | nameToken (text : String)
  | poundWord (text : String)
  | parameter (entity : String)
  | percent
  | openBracket
  | closeBracket
  | openParen
  | closeParen (mark : Option Char)
  | bar
  | comma
  | root
  deriving Repr

namespace Token

def scanLiteral (extent : Extent) (quote : Char) (out : List Located)
    (rest : List Located) : Except Fault (Scanned Token) :=
  match rest with
  | [] => .error (extent.refuse false rest)
  | located :: behind =>
      if located.1 = quote then
        match behind with
        | [] =>
            if extent.bound.isClean then
              .ok (.literal out.reverse, behind)
            else
              .error (extent.refuse true behind)
        | (c, _) :: _ =>
            if isSpace c || c = '>' || c = '%' || c = '[' then
              .ok (.literal out.reverse, behind)
            else
              .error (extent.refuse true behind)
      else if isLegal located.1 then
        scanLiteral extent quote (located :: out) behind
      else
        .error (extent.refuse false rest)

/-- Reads the keyword of a declaration and requires a space or a parameter entity
behind it. -/
def scanKeyword (extent : Extent) (rest : List Located) :
    Except Fault (Scanned Token) :=
  let (letters, more) :=
    rest.span fun (c, _) => c.isAlpha || c = '_' || c = ':'
  let token := Token.opening (Located.text letters)
  if letters.isEmpty then
    .error (extent.refuse true more)
  else
    match more with
    | [('%', _)] => .error (extent.refuse false [])
    | ('%', _) :: (c, _) :: _ =>
        if isSpace c || c = '%' then
          .error (extent.refuse true more)
        else
          .ok (token, more)
    | (c, _) :: _ =>
        if isSpace c then .ok (token, more) else .error (extent.refuse true more)
    | [] => .error (extent.refuse true more)

def scanPercent (extent : Extent) (rest : List Located) :
    Except Fault (Scanned Token) :=
  match rest with
  | (c, _) :: _ =>
      if isSpace c || c = '%' then
        .ok (.percent, rest)
      else do
        let (letters, rest) ← Scan.name extent rest
        let rest ← Scan.expect extent false ';' rest
        .ok (.parameter (Located.text letters), rest)
  | [] => .error (extent.refuse false rest)

def endsWord (c : Char) : Bool :=
  isSpace c || c = '>' || c = ')' || c = ',' || c = '|' || c = '[' || c = '%'

def scanWord (extent : Extent) (first : Located) (rest : List Located) :
    Except Fault (Scanned Token) :=
  let (others, more) := Scan.nameChars rest
  let text := Located.text (first :: others)
  let isName := isNameStart first.1
  let token := if isName then Token.word text none else Token.nameToken text
  match more with
  | [] => if extent.bound.isClean then .ok (token, more) else .error (extent.refuse false more)
  | (c, _) :: behind =>
      if endsWord c then
        .ok (token, more)
      else if isName && (c = '?' || c = '*' || c = '+') then
        .ok (.word text (some c), behind)
      else
        .error (extent.refuse false more)

def scanPoundWord (extent : Extent) (rest : List Located) :
    Except Fault (Scanned Token) := do
  let (letters, more) ← Scan.name extent rest
  let token := Token.poundWord (Located.text letters)
  match more with
  | [] => if extent.bound.isClean then .ok (token, more) else .error (extent.refuse false more)
  | (c, _) :: _ =>
      if endsWord c && c != ',' && c != '[' then
        .ok (token, more)
      else
        .error (extent.refuse false more)

def scanCloseParen (extent : Extent) (rest : List Located) :
    Except Fault (Scanned Token) :=
  match rest with
  | [] =>
      if extent.bound.isClean then
        .ok (.closeParen none, rest)
      else
        .error (extent.refuse true rest)
  | (c, _) :: behind =>
      if c = '*' || c = '?' || c = '+' then
        .ok (.closeParen (some c), behind)
      else if isSpace c || c = '>' || c = ',' || c = '|' || c = ')' then
        .ok (.closeParen none, rest)
      else
        .error (extent.refuse true rest)

def scanMarkup (extent : Extent) (first : Located) (rest : List Located) :
    Except Fault (Scanned Token) :=
  match rest with
  | ('!', _) :: ('-', _) :: behind => do
      let behind ← Scan.expect extent true '-' behind
      let (_, behind) ← Scan.comment extent [] behind
      .ok (.comment, behind)
  | ('!', _) :: ('[', _) :: behind => .ok (.sectionOpening, behind)
  | ('!', _) :: behind => scanKeyword extent behind
  | ('?', _) :: behind => do
      let (content, behind) ← Instruction.scan extent behind
      .ok (.instruction content, behind)
  | (c, _) :: _ =>
      if isNameStart c || 0x80 ≤ c.toNat then
        .ok (.root, first :: rest)
      else
        .error (extent.refuse true rest)
  | [] => .error (extent.refuse true rest)

def scanCloseBracket (extent : Extent) (rest : List Located) :
    Except Fault (Scanned Token) :=
  match rest with
  | (']', _) :: ('>', _) :: behind => .ok (.sectionClosing, behind)
  | [(']', _)] =>
      if extent.bound.isClean then
        .error (extent.refuse false [])
      else
        .ok (.closeBracket, rest)
  | _ => .ok (.closeBracket, rest)

def scan (bound : Bound) (first : Located) (rest : List Located) :
    Except Fault (Scanned Token) :=
  let extent : Extent := ⟨bound, first.2.line⟩
  match first.1 with
  | '<' => scanMarkup extent first rest
  | '\x22' => scanLiteral extent '\x22' [] rest
  | '\x27' => scanLiteral extent '\x27' [] rest
  | '%' => scanPercent extent rest
  | ',' => .ok (.comma, rest)
  | '[' => .ok (.openBracket, rest)
  | ']' => scanCloseBracket extent rest
  | '(' => .ok (.openParen, rest)
  | ')' => scanCloseParen extent rest
  | '|' => .ok (.bar, rest)
  | '>' => .ok (.closing, rest)
  | '#' => scanPoundWord extent rest
  | c =>
      if isSpace c then
        .ok (.space, Scan.skipSpace rest)
      else if isNameChar c then
        scanWord extent first rest
      else
        .error (extent.refuse false (first :: rest))

end Token

end ApiDocs.Xml
