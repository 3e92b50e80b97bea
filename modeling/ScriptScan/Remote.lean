import ScriptScan.Text.Hexadecimal
import ScriptScan.Text.Ignorable
import ScriptScan.Text.Utf8

/-!
# Remote addresses

A request may be an address with a scheme. Nothing is ever fetched here: an address of the right
scheme fails, for a reason that its own text gives if there is one. This module reads the part of an
address that names the server: perhaps a user, a host, and perhaps a port.
-/

namespace ScriptScan

/-- Why an address cannot be used. -/
inductive AddressError where
  /-- No host is named. -/
  | emptyHost
  /-- The port is not a number, or too great. -/
  | invalidPort
  /-- Brackets around what is not an address of eight groups. -/
  | invalidBrackets
  /-- Nothing is wrong with the address, but nothing answers. -/
  | unreachable
deriving DecidableEq, Repr

/-- The message for the reader. -/
def AddressError.message : AddressError → Text
  | emptyHost => "empty host".toList
  | invalidPort => "invalid port number".toList
  | invalidBrackets => "invalid IPv6 address".toList
  | unreachable => "no answer".toList

namespace Address

/-! ## Hosts in brackets -/

/-- Whether a text is a group of one to four hexadecimal digits. -/
def isGroup (t : Text) : Bool :=
  !t.isEmpty && t.length ≤ 4 && t.all fun c => (Hexadecimal.digit? c).isSome

/-- Whether a text is a decimal number below 256 without a leading zero. -/
def isOctet (t : Text) : Bool :=
  !t.isEmpty && t.length ≤ 3 && t.all Char.isDigit && (t.length == 1 || t.head? != some '0') &&
    t.foldl (fun n d => 10 * n + (d.toNat - '0'.toNat)) 0 < 256

/-- Whether a text is four such numbers with dots between them. -/
def isQuad (t : Text) : Bool :=
  let parts := Text.splitOn '.' t
  parts.length == 4 && parts.all isOctet

/-- How many groups a list of pieces stands for, if every piece is a group and only the last one may
be written as four numbers, which stand for two groups. -/
def groupCount? (mayEndInQuad : Bool) : List Text → Option Nat
  | [] => some 0
  | [p] => if isGroup p then some 1 else if mayEndInQuad && isQuad p then some 2 else none
  | p :: ps => if isGroup p then (groupCount? mayEndInQuad ps).map (· + 1) else none

/-- The pieces between the colons of a text; an empty text has none. -/
def groups (t : Text) : List Text :=
  if t.isEmpty then [] else Text.splitOn ':' t

/-- The text before and after the first double colon. -/
def splitGap? : Text → Option (Text × Text)
  | ':' :: ':' :: t => some ([], t)
  | c :: t => (splitGap? t).map fun (before, after) => (c :: before, after)
  | [] => none

/-- Whether the text between brackets is eight groups, or fewer with one double colon in place of
the missing ones. -/
def isGrouped (t : Text) : Bool :=
  match splitGap? t with
  | none => groupCount? true (groups t) == some 8
  | some (before, after) =>
    match groupCount? false (groups before), groupCount? true (groups after) with
    | some m, some n => m + n ≤ 7
    | _, _ => false

/-! ## Servers -/

/-- An address without tabs and line breaks, and without spaces and control characters at its end;
none of them has a meaning. -/
def clean (t : Text) : Text :=
  ((t.filter fun c => !(c = '\t' ∨ c = '\n' ∨ c = '\r')).reverse.dropWhile (· ≤ ' ')).reverse

/-- The part of an address behind its scheme that names the server. -/
def server (t : Text) : Text :=
  (t.dropWhile fun c => c = '/' ∨ c = '\\').takeWhile fun c =>
    !(c = '/' ∨ c = '\\' ∨ c = '?' ∨ c = '#')

/-- The host of a server without its user, and the text behind it. A colon ends the host, except
between brackets. -/
def splitHost (inBrackets : Bool) : Text → Text × Text
  | [] => ([], [])
  | c :: t =>
    if c = ':' ∧ !inBrackets then ([], c :: t)
    else
      let inside := if c = '[' then true else if c = ']' then false else inBrackets
      let (host, rest) := splitHost inside t
      (c :: host, rest)

/-- The bytes of a host, in which a percent sign and two hexadecimal digits spell one byte. -/
def hostBytes : Text → List UInt8
  | [] => []
  | '%' :: a :: b :: t =>
    match Hexadecimal.value? [a, b] with
    | some n => .ofNat n :: hostBytes t
    | none => .ofNat '%'.toNat :: hostBytes (a :: b :: t)
  | c :: t => String.utf8EncodeChar c ++ hostBytes t

/-- The name of a host: its characters without those that do not count. -/
def hostName (host : Text) : Text :=
  (Utf8.decode (hostBytes host)).filter (!isIgnorable ·)

/-- What is wrong with a host. -/
def hostError? (host : Text) : Option AddressError :=
  match host with
  | '[' :: t =>
    if t.getLast? = some ']' ∧ isGrouped t.dropLast then none else some .invalidBrackets
  | _ => if (hostName host).isEmpty then some .emptyHost else none

/-- What is wrong with the text behind a host. -/
def portError? : Text → Option AddressError
  | ':' :: digits =>
    if digits.all Char.isDigit ∧
        digits.foldl (fun n d => 10 * n + (d.toNat - '0'.toNat)) 0 < 65536 then none
    else some .invalidPort
  | _ => none

/-- What is wrong with an address whose scheme has been read. -/
def error? (afterScheme : Text) : Option AddressError :=
  let named := server (clean afterScheme)
  let hostAndPort := match Text.splitLast? '@' named with
    | some (_, t) => t
    | none => named
  let (host, rest) := splitHost false hostAndPort
  match hostError? host with
  | some e => some e
  | none => portError? rest

end Address

/-- A way to fetch a script from a server. -/
inductive Protocol where
  | http
  | ftp
deriving DecidableEq, Repr

namespace Protocol

/-- What an address of the protocol may begin with, in lower case. -/
def schemes : Protocol → List Text
  | http => ["http://".toList, "https://".toList]
  | ftp => ["ftp://".toList]

/-- Why nothing can be fetched from an address; no answer if it is not one of the protocol. -/
def refusal? (p : Protocol) (address : Text) : Option AddressError :=
  match p.schemes.find? (·.isPrefixOf (address.map Char.toLower)) with
  | none => none
  | some scheme => some ((Address.error? (address.drop scheme.length)).getD .unreachable)

/-- The message about an address from which nothing can be fetched. -/
def refusalMessage (address : Text) (e : AddressError) : Text :=
  "Failed to fetch remote script ".toList ++ address ++ ": ".toList ++ e.message

end Protocol

end ScriptScan
