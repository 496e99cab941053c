import CaptureFilter.Net.IPv4

/-!
# IPv6 addresses

Eight hexadecimal groups between colons, of which one run of zero groups may be left out between two
colons in a row, and of which the last two may be written as an IPv4 address. An address is printed
with its first longest run of at least two zero groups left out, and with hexadecimal groups only.
Spec guidance: `SPEC_FULL.md` §6 (`is_ip_address`).
-/

namespace CaptureFilter.Net

open Text

/-- An IPv6 address. -/
abbrev IPv6 := BitVec 128

namespace IPv6

/-- The value of a group: one to four hexadecimal digits. -/
def group? (s : List Char) : Option Nat :=
  if 1 ≤ s.length ∧ s.length ≤ 4 ∧ s.all isHexDigit then some (ofHexDigits s) else none

/-- The groups of a text without a gap; an empty text has none. -/
def groups? (s : List Char) : Option (List Nat) :=
  if s.isEmpty then some [] else (s.splitOn ':').mapM group?

/-- The groups of a part that ends the address, where an IPv4 address may stand for two of them. -/
def lastGroups? (s : List Char) : Option (List Nat) :=
  if s.isEmpty then some []
  else
    let parts := s.splitOn ':'
    let last := parts.getLast?.getD []
    if last.contains '.' then do
      let tail ← IPv4.parse? last
      let front ← parts.dropLast.mapM group?
      return front ++ [tail.toNat / 0x10000, tail.toNat % 0x10000]
    else parts.mapM group?

/-- The text before and behind the first two colons in a row. -/
def cutGap : List Char → List Char × Option (List Char)
  | ':' :: ':' :: rest => ([], some rest)
  | [] => ([], none)
  | c :: rest => (c :: (cutGap rest).1, (cutGap rest).2)

/-- The address of eight groups. -/
def ofGroups (groups : List Nat) : IPv6 :=
  BitVec.ofNat 128 (groups.foldl (fun n group ↦ n * 0x10000 + group) 0)

/-- The address that a text denotes: eight groups, or at most seven around a gap. -/
def parse? (s : List Char) : Option IPv6 :=
  match cutGap s with
  | (front, some back) => do
    let high ← groups? front
    let low ← lastGroups? back
    let present := high.length + low.length
    if present ≤ 7 then return ofGroups (high ++ List.replicate (8 - present) 0 ++ low) else none
  | (_, none) => do
    let all ← lastGroups? s
    if all.length = 8 then return ofGroups all else none

/-- The groups of an address. -/
def groups (a : IPv6) : List Nat :=
  (List.range 8).map fun i ↦ (a.extractLsb' (16 * (7 - i)) 16).toNat

/-- The number of zeros that a list of groups begins with. -/
def leadingZeros (groups : List Nat) : Nat := (groups.takeWhile (· == 0)).length

/-- The first place where the longest run of zero groups begins, and its length. -/
def longestGap (groups : List Nat) : Nat × Nat :=
  (List.range groups.length).foldl
    (fun best i ↦
      let run := leadingZeros (groups.drop i)
      if best.2 < run then (i, run) else best)
    (0, 0)

/-- Groups in hexadecimal between colons. -/
def groupsText (groups : List Nat) : String :=
  ":".intercalate (groups.map fun group ↦ String.ofList (hexDigits 1 group))

/-- The text of an address. -/
def text (a : IPv6) : String :=
  let (first, length) := longestGap a.groups
  if 2 ≤ length then
    groupsText (a.groups.take first) ++ "::" ++ groupsText (a.groups.drop (first + length))
  else groupsText a.groups

end IPv6

end CaptureFilter.Net
