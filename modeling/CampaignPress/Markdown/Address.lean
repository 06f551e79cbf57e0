/-
This file puts the addresses of links into the form in which they are written:
percent-encoded, with host names in ASCII. Addresses that could run a script are
refused.
-/
import CampaignPress.Markdown.Punycode
import CampaignPress.Text.Case

namespace CampaignPress.Markdown

namespace Address

/-! ### Parts -/

structure Parts where
  protocol : Text
  slashes : Bool
  user : Text
  host : Text
  port : Text
  tail : Text

def isProtocolChar (c : Char) : Bool :=
  Text.isAsciiAlphanumeric c || c = '.' || c = '+' || c = '-'

def cutProtocol (address : Text) : Text × Text :=
  let name := address.takeWhile isProtocolChar
  match name, address.dropWhile isProtocolChar with
  | _ :: _, ':' :: rest => (name ++ ":", rest)
  | _, _ => ([], address)

/-- Protocols whose hosts follow two slashes. -/
def isSlashed (protocol : Text) : Bool :=
  (["http:", "https:", "ftp:", "gopher:", "file:"].map String.toList).elem protocol

def endsHost (c : Char) : Bool := c = '/' || c = '?' || c = '#'

/-- Characters that stand in no host name. -/
def isForeign (c : Char) : Bool :=
  "%/?;#'\x7b\x7d|\\^\x60<>\" \x0d\n\t".toList.elem c

def isHostChar (c : Char) : Bool :=
  Text.isAsciiAlphanumeric c || c = '+' || c = '-' || c = '_'

/-- The user before the last at sign that stands before the end of the host. -/
def cutUser (rest : Text) : Text × Text :=
  let authority := rest.takeWhile (!endsHost ·)
  match Text.cutAtLast '@' authority with
  | some (user, _) => (user, rest.drop (user.length + 1))
  | none => ([], rest)

/-- The port after the last colon of a host, if nothing but digits follows it. -/
def cutPort (host : Text) : Text × Text :=
  match Text.cutAtLast ':' host with
  | some (name, port) => if port.all Text.isAsciiDigit then (name, port) else (host, [])
  | none => (host, [])

/-- A label of a host has at most 63 characters; letters beyond ASCII count as letters. -/
def isLabel (label : Text) : Bool :=
  label.length ≤ 63 && label.all fun c => isHostChar c || 127 < c.toNat

/-- The labels of a host up to the first that is none, and what is left of them. -/
def cutLabels : List Text → List Text × Option (List Text)
  | [] => ([], none)
  | label :: labels =>
    if isLabel label then
      let (good, rest) := cutLabels labels
      (label :: good, rest)
    else
      let start := (label.takeWhile isHostChar).take 63
      ([start], some (label.drop start.length :: labels))

def isBracketed (host : Text) : Bool :=
  Text.startsWith host "[" && Text.endsWith host "]" && 2 ≤ host.length

/-- The host at the beginning of a text, its port, and what follows them. -/
def cutHost (rest : Text) : Text × Text × Text :=
  let whole := rest.takeWhile (!isForeign ·)
  let whole := if Text.endsWith whole ":" then whole.dropLast else whole
  let rest := rest.drop whole.length
  let (host, port) := cutPort whole
  if isBracketed host then
    (if 255 < host.length then [] else (host.drop 1).dropLast, port, rest)
  else
    let (labels, left) := cutLabels (Text.splitOn '.' host)
    let host := Text.join "." labels
    let rest := match left with
      | some left => Text.join "." left ++ rest
      | none => rest
    (if 255 < host.length then [] else host, port, rest)

def Parts.ofText (address : Text) : Parts :=
  let (protocol, rest) := cutProtocol (Text.trim address)
  let hostless := protocol = "javascript:".toList
  let slashes := Text.startsWith rest "//" && !hostless
  let rest := if slashes then rest.drop 2 else rest
  if !hostless && (slashes || (!protocol.isEmpty && !isSlashed protocol)) then
    let (user, rest) := cutUser rest
    let (host, port, tail) := cutHost rest
    { protocol, slashes, user, host, port, tail }
  else { protocol, slashes, user := [], host := [], port := [], tail := rest }

def Parts.toText (parts : Parts) : Text :=
  parts.protocol ++ (if parts.slashes then "//".toList else []) ++
    (if parts.user.isEmpty then [] else parts.user ++ ['@']) ++
    (if parts.host.elem ':' then '[' :: parts.host ++ [']'] else parts.host) ++
    (if parts.port.isEmpty then [] else ':' :: parts.port) ++ parts.tail

/-! ### Hosts in ASCII -/

/-- The protocols whose hosts are written in ASCII. -/
def hasPlainHost (parts : Parts) : Bool :=
  parts.protocol.isEmpty ||
    (["http:", "https:", "mailto:"].map String.toList).elem parts.protocol

def isDot (c : Char) : Bool := c = '.' || c = '\u3002' || c = '\uff0e' || c = '\uff61'

def mapLabels? (change : Text → Option Text) (host : Text) : Option Text :=
  ((Text.splitWhere isDot host).mapM change).map (Text.join ".")

def plainLabel? (label : Text) : Option Text :=
  some (if label.any fun c => 127 < c.toNat then "xn--" ++ Punycode.encode label else label)

def readableLabel? (label : Text) : Option Text :=
  match Text.after? "xn--" label with
  | some code => Punycode.decode? (Text.lower code)
  | none => some label

/-- A host keeps its form if one of its labels cannot be changed. -/
def changeHost (change : Text → Option Text) (parts : Parts) : Parts :=
  if hasPlainHost parts && !parts.host.isEmpty then
    { parts with host := (mapLabels? change parts.host).getD parts.host }
  else parts

/-! ### Percent signs -/

def hexOfByte (byte : Nat) : Text :=
  let digit (value : Nat) : Char := Char.ofNat (if value < 10 then 48 + value else 55 + value)
  ['%', digit (byte / 16), digit (byte % 16)]

/-- Characters of ASCII that addresses are written with. -/
def isKept (c : Char) : Bool :=
  Text.isAsciiAlphanumeric c || ";/?:@&=+$,-_.!~*'()#".toList.elem c

def encodeChar (c : Char) : Text :=
  if isKept c then [c] else (String.utf8EncodeChar c).flatMap fun byte => hexOfByte byte.toNat

/-- Encodes what may not stand in an address; what is encoded already stays so. -/
def encode : Text → Text
  | '%' :: a :: b :: rest =>
    if Text.isHexDigit a && Text.isHexDigit b then '%' :: encode (a :: b :: rest)
    else hexOfByte 37 ++ encode (a :: b :: rest)
  | c :: rest => encodeChar c ++ encode rest
  | [] => []

/-- The bytes that a run of percent signs at the beginning of a text encodes. -/
def cutBytes : Text → List Nat × Text
  | '%' :: a :: b :: rest =>
    if Text.isHexDigit a && Text.isHexDigit b then
      let (bytes, rest) := cutBytes rest
      ((Text.hexValue a * 16 + Text.hexValue b) :: bytes, rest)
    else ([], '%' :: a :: b :: rest)
  | text => ([], text)

/-- The number of bytes of the character that a byte begins. -/
def widthOf (byte : Nat) : Nat :=
  if byte / 32 = 6 then 2 else if byte / 16 = 14 then 3 else if byte / 8 = 30 then 4 else 1

/-- The character that bytes encode, if they do so in the shortest way. -/
def charOf? (bytes : List Nat) : Option Char :=
  let code := match bytes with
    | [a, b] => a % 32 * 64 + b % 64
    | [a, b, c] => (a % 16 * 64 + b % 64) * 64 + c % 64
    | [a, b, c, d] => ((a % 8 * 64 + b % 64) * 64 + c % 64) * 64 + d % 64
    | _ => 0
  let least := match bytes.length with
    | 2 => 0x80
    | 3 => 0x800
    | _ => 0x10000
  if least ≤ code && code ≤ 0x10FFFF && !(0xD800 ≤ code && code ≤ 0xDFFF) then
    some (Char.ofNat code)
  else none

/-- The characters of decoded bytes. Some characters stay encoded, and what forms no
character is replaced; `skip` bytes have been read already. -/
def charsOf : (skip : Nat) → List Nat → Text
  | _, [] => []
  | skip + 1, _ :: rest => charsOf skip rest
  | 0, byte :: rest =>
    if byte < 128 then
      let c := Char.ofNat byte
      (if ";/?:@&=+$,#%".toList.elem c then hexOfByte byte else [c]) ++ charsOf 0 rest
    else
      let more := widthOf byte - 1
      let others := rest.take more
      if 0 < more && others.length = more && others.all (fun other => other / 64 = 2) then
        (match charOf? (byte :: others) with
          | some c => [c]
          | none => List.replicate (more + 1) '\ufffd') ++ charsOf more rest
      else '\ufffd' :: charsOf 0 rest

/-- Decodes the percent signs of an address to show; `room` bounds the characters left. -/
def decodeFrom : (room : Nat) → Text → Text
  | 0, text => text
  | _, [] => []
  | room + 1, c :: rest =>
    match cutBytes (c :: rest) with
    | ([], _) => c :: decodeFrom room rest
    | (bytes, rest) => charsOf 0 bytes ++ decodeFrom room rest

def decode (text : Text) : Text := decodeFrom text.length text

/-! ### Links -/

/-- The address as it is written in a link. -/
def normalize (address : Text) : Text :=
  encode (changeHost plainLabel? (Parts.ofText address)).toText

/-- The address as it is shown. -/
def readable (address : Text) : Text :=
  decode (changeHost readableLabel? (Parts.ofText address)).toText

/-- Scripts and local files are no targets, and embedded data only as images. -/
def isAllowed (address : Text) : Bool :=
  let address := Text.lower (Text.trim address)
  let hasAny (beginnings : List String) :=
    beginnings.any fun beginning => Text.startsWith address beginning
  !hasAny ["vbscript:", "javascript:", "file:", "data:"] ||
    hasAny ["data:image/gif;", "data:image/png;", "data:image/jpeg;", "data:image/webp;"]

end Address

end CampaignPress.Markdown
