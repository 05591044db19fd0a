import DexTrade.Text.Hex
import DexTrade.Text.Utf8
/-!
# URLs of nodes

Whether a text is an absolute URL. What is in front of the first colon is the scheme. The well-known
schemes have a host, which is a domain name or an address in numbers; other schemes may have one behind
two slashes. What follows the host and the port may be anything.
-/
namespace DexTrade.Node.Url

/-- How what follows a scheme is read. -/
inductive SchemeKind where
  /-- A well-known scheme, with a host. -/
  | hosted
  | file
  | other
  deriving DecidableEq

def kindOf (scheme : List Char) : SchemeKind :=
  match String.ofList (scheme.map Char.toLower) with
  | "http" | "https" | "ws" | "wss" | "ftp" => .hosted
  | "file" => .file
  | _ => .other

def continuesScheme (c : Char) : Bool :=
  c.isAlphanum || c == '+' || c == '-' || c == '.'

/-- The scheme in front of the first colon, and what follows the colon. -/
def splitScheme (url : List Char) : Option (List Char × List Char) :=
  match url with
  | [] => none
  | c :: _ =>
    match url.dropWhile continuesScheme with
    | ':' :: rest => if c.isAlpha then some (url.takeWhile continuesScheme, rest) else none
    | _ => none

def isControlOrSpace (c : Char) : Bool :=
  c.toNat ≤ 0x20

/-- Tabs and line breaks count nowhere. -/
def isIgnored (c : Char) : Bool :=
  c == '\t' || c == '\n' || c == '\r'

/-- What of a text is read: nothing of blanks at its ends and of ignored characters. -/
def relevant (text : List Char) : List Char :=
  let fromStart := text.dropWhile isControlOrSpace
  let inside := (fromStart.reverse.dropWhile isControlOrSpace).reverse
  inside.filter fun c => !isIgnored c

/-! ## Hosts -/

/-- The value of digits to a base, if there are any and all belong to it. -/
def digitsValue? (base : Nat) (digits : List Char) : Option Nat :=
  if digits.isEmpty then none
  else
    ((digits.mapM Hex.digitValue?).filter fun values => values.all fun d => d < base).map
      fun values => values.foldl (fun n d => base * n + d) 0

/-- A number of an address: hexadecimal after `0x`, octal after `0`, else decimal. -/
def addressNumber? : List Char → Option Nat
  | ['0', 'x'] | ['0', 'X'] => some 0
  | '0' :: 'x' :: digits | '0' :: 'X' :: digits => digitsValue? 16 digits
  | '0' :: digit :: digits => digitsValue? 8 (digit :: digits)
  | digits => digitsValue? 10 digits

/-- The parts of a domain name; a dot at the end adds none. -/
def labels (domain : List Char) : List (List Char) :=
  let parts := domain.splitOn '.'
  if parts.getLast? = some [] ∧ 1 < parts.length then parts.dropLast else parts

/-- A name whose last part is a number has to be an address. -/
def endsInNumber (domain : List Char) : Bool :=
  match (labels domain).getLast? with
  | some last =>
    (!last.isEmpty && last.all Char.isDigit) || (addressNumber? last).isSome
  | none => false

/-- At most four numbers: the last one fills what the others, of one byte each, leave. -/
def isShortAddress (domain : List Char) : Bool :=
  let parts := labels domain
  match parts.mapM addressNumber? with
  | some numbers =>
    parts.length ≤ 4 && numbers.dropLast.all (fun n => n < 256) &&
      (numbers.getLast?.any fun n => n < Nat.pow 256 (5 - parts.length))
  | none => false

/-- One of the four decimal bytes that may end a long address. -/
def isByteText (digits : List Char) : Bool :=
  (digits.length == 1 || digits.head? != some '0') && (digitsValue? 10 digits).any (· < 256)

/-- How many of the eight groups of a long address a piece without double colons makes. -/
def groupCount? (piece : List Char) : Option Nat :=
  if piece.isEmpty then some 0
  else
    let groups := piece.splitOn ':'
    let isGroup (g : List Char) : Bool := g.length ≤ 4 && (digitsValue? 16 g).isSome
    match groups.getLast? with
    | none => none
    | some last =>
      if !groups.dropLast.all isGroup then none
      else if isGroup last then some groups.length
      else
        let bytes := last.splitOn '.'
        if bytes.length == 4 && bytes.all isByteText then some (groups.length + 1) else none

/-- Where the first double colon of a long address is, what is before and what behind it. -/
def splitGap : List Char → Option (List Char × List Char)
  | ':' :: ':' :: rest => some ([], rest)
  | c :: rest => (splitGap rest).map fun (before, behind) => (c :: before, behind)
  | [] => none

/-- Eight groups, of which a double colon may leave out one or more. -/
def isLongAddress (text : List Char) : Bool :=
  match splitGap text with
  | none => groupCount? text == some 8
  | some (before, behind) =>
    match groupCount? before, groupCount? behind with
    | some m, some n => m + n ≤ 7 && !before.contains '.'
    | _, _ => false

/-- The bytes of a text in which `%` stands before the two digits of a byte. -/
def percentDecoded : List Char → Bytes
  | [] => []
  | '%' :: hi :: lo :: rest =>
    match Hex.decode? [hi, lo] with
    | some b => b ++ percentDecoded rest
    | none => (String.ofList ['%']).toUTF8.toList ++ percentDecoded (hi :: lo :: rest)
  | c :: rest => (String.ofList [c]).toUTF8.toList ++ percentDecoded rest

/-- Characters that no host has. -/
def isForbidden (c : Char) : Bool :=
  c.toNat == 0 || isIgnored c || " #/:<>?@[\\]^|".contains c

/-- Characters that no domain name has. -/
def isForbiddenInDomain (c : Char) : Bool :=
  isForbidden c || c.toNat ≤ 0x20 || c.toNat == 0x7f || c == '%'

/-- A host between brackets is a long address. -/
def isBracketed (host : List Char) : Bool :=
  host.getLast? == some ']' && isLongAddress ((host.drop 1).dropLast)

/-- A host of a well-known scheme. -/
def isHost (host : List Char) : Bool :=
  if host.head? == some '[' then isBracketed host
  else
    match Utf8.decode? (percentDecoded host) with
    | none => false
    | some domain =>
      let domain := domain.toList
      !domain.isEmpty && !domain.any isForbiddenInDomain &&
        (!endsInNumber domain || isShortAddress domain)

/-- A host of another scheme, which may be empty. -/
def isOpaqueHost (host : List Char) : Bool :=
  if host.head? == some '[' then isBracketed host else !host.any isForbidden

/-! ## What follows the scheme -/

def isSlash (kind : SchemeKind) (c : Char) : Bool :=
  c == '/' || (c == '\\' && kind != .other)

def endsAuthority (kind : SchemeKind) (c : Char) : Bool :=
  isSlash kind c || c == '?' || c == '#'

/-- The part of an authority behind its last `@`; the part before it names a user. -/
def withoutUser (authority : List Char) : List Char :=
  (authority.reverse.takeWhile (· != '@')).reverse

/-- The host, up to the first colon that is not between brackets, and what follows it. -/
def splitHost : (inBrackets : Bool) → List Char → List Char × List Char
  | _, [] => ([], [])
  | inBrackets, c :: rest =>
    if c == ':' && !inBrackets then ([], c :: rest)
    else
      let (host, port) := splitHost (if c == '[' then true else if c == ']' then false else inBrackets)
        rest
      (c :: host, port)

/-- Nothing, or a colon and a number below 2^16, which may be missing. -/
def isPort : List Char → Bool
  | [] => true
  | _ :: digits => digits.isEmpty || (digits.all Char.isDigit &&
      (digitsValue? 10 digits).any fun n => n < 0x10000)

/-- User, host and port. A user or a port needs a host, and so does a well-known scheme. -/
def isAuthority (kind : SchemeKind) (authority : List Char) : Bool :=
  let (host, port) := splitHost false (withoutUser authority)
  if host.isEmpty then kind == .other && authority.isEmpty
  else (if kind == .other then isOpaqueHost host else isHost host) && isPort port

/-- The host of a file, which may be empty or a drive. -/
def isFileHost (host : List Char) : Bool :=
  match host with
  | [] => true
  | [drive, mark] => (drive.isAlpha && (mark == ':' || mark == '|')) || isHost host
  | _ => isHost host

/-- Whether what follows a scheme completes it. -/
def isCompletion (kind : SchemeKind) (rest : List Char) : Bool :=
  match kind with
  | .hosted =>
    isAuthority kind ((rest.dropWhile (isSlash kind)).takeWhile fun c => !endsAuthority kind c)
  | .file =>
    match rest with
    | a :: b :: rest =>
      if isSlash kind a && isSlash kind b then
        isFileHost (rest.takeWhile fun c => !endsAuthority kind c)
      else true
    | _ => true
  | .other =>
    match rest with
    | '/' :: '/' :: rest => isAuthority kind (rest.takeWhile fun c => !endsAuthority kind c)
    | _ => true

end Url

/-- Whether a text is an absolute URL. -/
def isUrl (text : String) : Bool :=
  match Url.splitScheme (Url.relevant text.toList) with
  | some (scheme, rest) => Url.isCompletion (Url.kindOf scheme) rest
  | none => false

end DexTrade.Node
