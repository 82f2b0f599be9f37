import TableStore.Text.Hex

/-!
# Socket addresses

An address of a network interface and a port.  An address of version 4 is written as four decimal
numbers with dots between them, one of version 6 in brackets as eight hexadecimal groups with
colons between them.  Two colons stand for one run of zero groups; the last two groups may be
written like an address of version 4; the number of a scope may follow a percent sign.

A parser of addresses takes a prefix of the text and gives back what follows it, or fails.
-/

namespace TableStore

/-- Where a socket listens. -/
inductive SocketAddress
  | v4 (octets : List Nat) (port : Nat)
  | v6 (groups : List Nat) (scope port : Nat)
  deriving DecidableEq, Repr

namespace SocketAddress

/-- The port of an address. -/
def port : SocketAddress → Nat
  | v4 _ port => port
  | v6 _ _ port => port

/-! ## Reading -/

/-- A reader of a prefix of a text. -/
abbrev Scan (α : Type) := List Char → Option (α × List Char)

/-- Reads one given character. -/
def expect (c : Char) : Scan Unit
  | [] => none
  | c' :: rest => if c' = c then some ((), rest) else none

/-- Reads a number below `limit`, which takes up all digits that follow.  There may be a greatest
number of digits, and zeros in front of others may be refused. -/
def number (base limit : Nat) (maxDigits : Option Nat) (zerosInFront : Bool) : Scan Nat
  | cs =>
    let (digits, rest) := cs.span fun c => (Text.digitIn? base c).isSome
    let tooMany := maxDigits.any (· < digits.length)
    let badZero := !zerosInFront && 1 < digits.length && digits.head? = some '0'
    let value := (Text.readInBase? base digits).getD 0
    if digits = [] || tooMany || badZero || limit ≤ value then none else some (value, rest)

/-- Reads something that a separator precedes unless it is the first of its kind. -/
def separated {α : Type} (separator : Char) (first : Bool) (scan : Scan α) : Scan α
  | cs =>
    if first then scan cs
    else (expect separator cs).bind fun found => scan found.2

/-- Reads `count` octets with dots between them. -/
def octets (first : Bool) : Nat → Scan (List Nat)
  | 0, cs => some ([], cs)
  | count + 1, cs =>
    match separated '.' first (number 10 256 (some 3) false) cs with
    | none => none
    | some (octet, rest) =>
      (octets false count rest).map fun found => (octet :: found.1, found.2)

/-- Reads an address of version 4. -/
def ipv4 : Scan (List Nat) := octets true 4

/-- The two groups that four octets make. -/
def octetGroups : List Nat → List Nat
  | [a, b, c, d] => [256 * a + b, 256 * c + d]
  | _ => []

/-- Reads up to `limit` groups with colons between them.  Tells whether the last two of them were
written as an address of version 4. -/
def groups (first : Bool) : Nat → List Char → List Nat × Bool × List Char
  | 0, cs => ([], false, cs)
  | limit + 1, cs =>
    match if limit = 0 then none else separated ':' first ipv4 cs with
    | some (found, rest) => (octetGroups found, true, rest)
    | none =>
      match separated ':' first (number 16 65536 (some 4) true) cs with
      | none => ([], false, cs)
      | some (group, rest) =>
        let (more, asV4, rest) := groups false limit rest
        (group :: more, asV4, rest)

/-- Reads an address of version 6. -/
def ipv6 : Scan (List Nat)
  | cs =>
    let (head, asV4, rest) := groups true 8 cs
    if head.length = 8 then some (head, rest)
    else if asV4 then none
    else
      match rest with
      | ':' :: ':' :: rest =>
        let (tail, _, rest) := groups true (7 - head.length) rest
        some (head ++ List.replicate (8 - head.length - tail.length) 0 ++ tail, rest)
      | _ => none

/-- Reads a colon and a port. -/
def colonPort : Scan Nat
  | cs => (expect ':' cs).bind fun found => number 10 65536 none true found.2

/-- The least number that is too great for a scope. -/
def scopeLimit : Nat := 4294967296

/-- Reads the number of a scope if there is one. -/
def scope (cs : List Char) : Nat × List Char :=
  match (expect '%' cs).bind fun found => number 10 scopeLimit none true found.2 with
  | some found => found
  | none => (0, cs)

/-- Reads a socket address of version 4. -/
def scanV4 : Scan SocketAddress
  | cs => do
    let (octets, rest) ← ipv4 cs
    let (port, rest) ← colonPort rest
    return (.v4 octets port, rest)

/-- Reads a socket address of version 6. -/
def scanV6 : Scan SocketAddress
  | cs => do
    let (_, rest) ← expect '[' cs
    let (groups, rest) ← ipv6 rest
    let (scope, rest) := scope rest
    let (_, rest) ← expect ']' rest
    let (port, rest) ← colonPort rest
    return (.v6 groups scope port, rest)

/-- The address that a whole text writes. -/
def ofText? (text : String) : Option SocketAddress :=
  match (scanV4 text.toList).or (scanV6 text.toList) with
  | some (address, []) => some address
  | _ => none

/-! ## Writing -/

/-- The text of an address of version 4. -/
def octetsText (octets : List Nat) : String := ".".intercalate (octets.map toString)

/-- The hexadecimal texts of groups with colons between them. -/
def groupsText (groups : List Nat) : String :=
  ":".intercalate (groups.map fun group => String.ofList (Text.hex group))

/-- The number of zeros that a list begins with. -/
def leadingZeros (groups : List Nat) : Nat := (groups.takeWhile (· = 0)).length

/-- Where the longest run of zeros in a list begins, and its length.  Of several longest runs the
first one counts.  `start` is the position of the list's first group. -/
def longestZeros (start : Nat) : List Nat → Nat × Nat
  | [] => (0, 0)
  | group :: rest =>
    let here := leadingZeros (group :: rest)
    let later := longestZeros (start + 1) rest
    if here = 0 ∨ here < later.2 then later else (start, here)

/-- The text of an address of version 6.  The longest run of at least two zero groups is left
out; an address that stands for one of version 4 ends like that one. -/
def ipv6Text (groups : List Nat) : String :=
  match groups with
  | [0, 0, 0, 0, 0, 65535, a, b] =>
    "::ffff:" ++ octetsText [a / 256, a % 256, b / 256, b % 256]
  | _ =>
    let (start, length) := longestZeros 0 groups
    if length < 2 then groupsText groups
    else groupsText (groups.take start) ++ "::" ++ groupsText (groups.drop (start + length))

/-- The text of a socket address.  The scope is left out if it is zero. -/
def text : SocketAddress → String
  | v4 octets port => octetsText octets ++ ":" ++ toString port
  | v6 groups scope port =>
    let scopeText := if scope = 0 then "" else "%" ++ toString scope
    "[" ++ ipv6Text groups ++ scopeText ++ "]:" ++ toString port

end SocketAddress

end TableStore
