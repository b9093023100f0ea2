import StaticSite.Fault
import StaticSite.Text.Fold
import StaticSite.Text.Utf8

/-!
# Request targets

A target may be a whole address; what counts is its path.  A scheme and a host in front of
the path and a query and a fragment behind it are dropped, and percent escapes are decoded.
-/

namespace StaticSite

namespace Server

def isSchemeChar (character : Char) : Bool :=
  character.isAlphanum || character = '+' || character = '-' || character = '.'

/-- A target without the control characters and spaces in front, and without tabs and line
ends. -/
def cleanTarget (target : Text) : Text :=
  (target.dropWhile fun character => character.toNat ≤ 0x20).filter fun character =>
    character ≠ '\t' && character ≠ '\r' && character ≠ '\n'

def dropScheme (target : Text) : Text :=
  match Text.cut? ":" target with
  | some (first :: scheme, rest) =>
    if first.isAlpha && scheme.all isSchemeChar then rest else target
  | _ => target

/-- Whether four octets with points between them are an address. -/
def isFourOctets (text : Text) : Bool :=
  let octets := Text.splitOn (· = '.') text
  octets.length = 4 && octets.all fun octet =>
    ! octet.isEmpty && octet.all Char.isDigit && octet.length ≤ 3 &&
      (octet = ['0'] || octet.head? ≠ some '0') &&
      octet.foldl (fun value digit => value * 10 + (digit.toNat - 48)) 0 ≤ 255

/-- Whether a text is a group of an address: up to four hexadecimal digits. -/
def isGroup (text : Text) : Bool :=
  ! text.isEmpty && text.length ≤ 4 && text.all fun digit =>
    digit.isDigit || ('a' ≤ digit.toLower && digit.toLower ≤ 'f')

/-- Whether groups are a whole address, with one gap for zeros or with all eight. -/
def areGroups (groups : List Text) : Bool :=
  let inner := (groups.drop 1).dropLast
  if groups.length < 3 || 9 < groups.length then false
  else
    match inner.findIdx? List.isEmpty with
    | none => groups.length = 8 && groups.all isGroup
    | some gap =>
      let high := groups.take (gap + 1)
      let low := groups.drop (gap + 2)
      let high := if high = [[]] then [] else high
      let low := if low = [[]] then [] else low
      high.length + low.length < 8 && high.all isGroup && low.all isGroup

/-- Whether a text is an address of eight groups; the last two may be written as four
octets, and a scope may follow. -/
def isGroupAddress (text : Text) : Bool :=
  let parts := Text.splitOn (· = '%') text
  match parts with
  | [address] => check address
  | [address, scope] => ! scope.isEmpty && check address
  | _ => false
where
  check (address : Text) : Bool :=
    let groups := Text.splitOn (· = ':') address
    if groups.length < 3 then false
    else
      let last := groups.getLast?.getD []
      if '.' ∈ last then isFourOctets last && areGroups (groups.dropLast ++ [['0'], ['0']])
      else areGroups groups

/-- Whether a text names an address of a later kind: a version and a body. -/
def isFutureAddress (text : Text) : Bool :=
  match Text.cut? "." text with
  | some ('v' :: version, body) =>
    ! version.isEmpty && ! body.isEmpty && version.all fun digit =>
      digit.isDigit || ('a' ≤ digit.toLower && digit.toLower ≤ 'f')
  | _ => false

/-- Whether a text is an address that stands between brackets. -/
def isBracketed (text : Text) : Bool :=
  if text.head? = some 'v' then isFutureAddress text else isGroupAddress text

/-- Whether the brackets in a host with the name of a user are in order: there are none, or an
address stands between them behind the user's name and nothing but a port follows.  Brackets
in the user's name alone call for an address as well. -/
def isHost (host : Text) : Bool :=
  match decide ('[' ∈ host), decide (']' ∈ host) with
  | false, false => true
  | true, true =>
    let place := ((Text.cutLast? '@' host).map Prod.snd).getD host
    match Text.cut? "[" place with
    | none => isBracketed (place.takeWhile (· ≠ ':'))
    | some (before, rest) =>
      let address := rest.takeWhile (· ≠ ']')
      let port := rest.drop (address.length + 1)
      before.isEmpty && (port.isEmpty || port.head? = some ':') && isBracketed address
  | _, _ => false

/-- Whether a host has a character that stands for one of those that end a host. -/
def hasHiddenDelimiter (host : Text) : Bool :=
  host.any fun character =>
    0x7F < character.toNat && (Text.foldChar character).any fun part =>
      part = '/' || part = '?' || part = '#' || part = '@' || part = ':'

/-- The path of a target, with its escapes. -/
def escapedPath (target : Text) : Except Fault Text :=
  let rest := dropScheme (cleanTarget target)
  let path (rest : Text) : Text := rest.takeWhile fun character => character ≠ '?' && character ≠ '#'
  match rest with
  | '/' :: '/' :: rest =>
    let host := rest.takeWhile fun character =>
      character ≠ '/' && character ≠ '?' && character ≠ '#'
    if ! isHost host then .error (.value "Invalid IPv6 URL")
    else if hasHiddenDelimiter host then
      .error (.value ("netloc " ++ Text.quoted host ++
        " contains invalid characters under NFKC normalization"))
    else .ok (path (rest.drop host.length))
  | rest => .ok (path rest)

def hexDigit? (character : Char) : Option Nat :=
  if character.isDigit then some (character.toNat - 48)
  else if 'a' ≤ character ∧ character ≤ 'f' then some (character.toNat - 87)
  else if 'A' ≤ character ∧ character ≤ 'F' then some (character.toNat - 55)
  else none

/-- The octets of a text in which percent signs with two digits stand for octets. -/
def unescapeOctets : Text → Bytes
  | [] => []
  | '%' :: high :: low :: rest =>
    match hexDigit? high, hexDigit? low with
    | some first, some second => UInt8.ofNat (first * 16 + second) :: unescapeOctets rest
    | _, _ => 0x25 :: unescapeOctets (high :: low :: rest)
  | character :: rest => String.utf8EncodeChar character ++ unescapeOctets rest

/-- The stretches of ASCII characters in a text, apart from the other characters. -/
def stretches : Text → List (Text ⊕ Char)
  | [] => []
  | character :: rest =>
    if character.toNat < 0x80 then
      match stretches rest with
      | .inl stretch :: later => .inl (character :: stretch) :: later
      | later => .inl [character] :: later
    else .inr character :: stretches rest

/-- Decode the escapes of a text; octets that are no text become the replacement
character. -/
def unescape (text : Text) : Text :=
  (stretches text).flatMap fun
    | .inl stretch => Utf8.decodeReplacing (unescapeOctets stretch)
    | .inr character => [character]

def requestedPath (target : Text) : Except Fault Text := (escapedPath target).map unescape

end Server

end StaticSite
