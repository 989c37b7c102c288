import AuditTrail.Number.Integer
import AuditTrail.Text.Pieces
import AuditTrail.Text.Quoted
/-!
Network addresses of four bytes and of sixteen, and their shortest text.
-/

namespace AuditTrail

open Text

/-- A network address, kept as one whole number. -/
inductive Address where
  | v4 (number : Nat)
  | v6 (number : Nat)
deriving DecidableEq, Repr, Inhabited

namespace Address

/-- A decimal part of a four-byte address, without leading zeros. -/
def readByte? (part : List Char) : Option Nat :=
  if part.isEmpty || 3 < part.length || !part.all Char.isDigit then none
  else if part.head? == some '0' && 1 < part.length then none
  else
    let n := ofDigits (part.map fun c => c.toNat - 0x30)
    if n < 256 then some n else none

/-- The number of a four-byte address. -/
def readV4? (text : List Char) : Option Nat := do
  let bytes ← (pieces '.' text).mapM readByte?
  if bytes.length = 4 then some (bytes.foldl (fun n b => n * 256 + b) 0) else none

/-- The value of a hexadecimal digit. -/
def hexValue? (c : Char) : Option Nat :=
  if c.isDigit then some (c.toNat - 0x30)
  else if 'a' ≤ c ∧ c ≤ 'f' then some (c.toNat - 'a'.toNat + 10)
  else if 'A' ≤ c ∧ c ≤ 'F' then some (c.toNat - 'A'.toNat + 10)
  else none

/-- The groups of sixteen bits that one part of a sixteen-byte address writes; a four-byte address
stands for two. -/
def readGroups? (part : List Char) : Option (List Nat) :=
  if part.contains '.' then do
    let n ← readV4? part
    some [n / 65536, n % 65536]
  else if part.isEmpty || 4 < part.length then none
  else do
    let digits ← part.mapM hexValue?
    some [digits.foldl (fun n d => n * 16 + d) 0]

/-- The groups on one side of a double colon. -/
def readSide? (parts : List (List Char)) : Option (List Nat) := do
  let groups ← parts.mapM readGroups?
  some groups.flatten

/-- The number of a sixteen-byte address. -/
def readV6? (text : List Char) : Option Nat := do
  let parts := pieces ':' text
  let groups ←
    match parts with
    | [] :: [] :: rest => do
      let right ← readSide? (if rest == [[]] then [] else rest)
      if right.length < 8 then some (List.replicate (8 - right.length) 0 ++ right) else none
    | _ =>
      let left := parts.takeWhile (!·.isEmpty)
      match parts.dropWhile (!·.isEmpty) with
      | [] => readSide? left
      | _ :: rest => do
        let left ← readSide? left
        let right ← readSide? (if rest == [[]] then [] else rest)
        let count := left.length + right.length
        if count < 8 then some (left ++ List.replicate (8 - count) 0 ++ right) else none
  if groups.length = 8 then some (groups.foldl (fun n g => n * 65536 + g) 0) else none

/-- The address that a text writes. -/
def read? (text : List Char) : Option Address :=
  match readV4? text with
  | some n => some (v4 n)
  | none => (readV6? text).map v6

/-- The number of an address. -/
def number : Address → Nat
  | v4 n => n
  | v6 n => n

/-- The length of the run of zeros at the start of a list. -/
def zerosAtStart (groups : List Nat) : Nat := (groups.takeWhile (· == 0)).length

/-- Where the longest run of zero groups begins and how long it is; the first of equal runs. -/
def longestZeros : List Nat → Nat → Nat × Nat → Nat × Nat
  | [], _, best => best
  | group :: rest, index, best =>
    let length := zerosAtStart (group :: rest)
    longestZeros rest (index + 1) (if best.2 < length then (index, length) else best)

/-- The groups of a sixteen-byte address. -/
def groups (number : Nat) : List Nat :=
  (List.range 8).map fun i => number / Nat.pow 65536 (7 - i) % 65536

/-- The text of an address. In sixteen bytes the longest run of two or more zero groups is left
out. -/
def text : Address → List Char
  | v4 n => join ['.'] ((List.range 4).map fun i => Nat.toDigits 10 (n / Nat.pow 256 (3 - i) % 256))
  | v6 n =>
    let parts := (groups n).map (Nat.toDigits 16)
    let (start, length) := longestZeros (groups n) 0 (0, 1)
    if length < 2 then join [':'] parts
    else join [':'] (parts.take start) ++ "::".toList ++ join [':'] (parts.drop (start + length))

end Address

end AuditTrail
